import DecimalPowers.Declaration.Expansion
import DecimalPowers.Interval
import DecimalPowers.Main
import DecimalPowers.Proofs.Approximation.Acceptance
import DecimalPowers.Proofs.Approximation.Monotonicity
import DecimalPowers.Proofs.Approximation.Representable
import DecimalPowers.Proofs.BinaryFloat.Walk
import DecimalPowers.Proofs.CommandLine.Parameters
import DecimalPowers.Proofs.CommandLine.Run
import DecimalPowers.Proofs.Declaration.Expansion
import DecimalPowers.Proofs.Declaration.Grammar
import DecimalPowers.Proofs.Interval.Counting
import DecimalPowers.Proofs.Interval.Sampling
import DecimalPowers.Proofs.Rounding.Cases
import DecimalPowers.Proofs.Scaling.Run
import DecimalPowers.Proofs.Table.Document
import DecimalPowers.Proofs.Table.Growth
import DecimalPowers.Proofs.Table.Log
import DecimalPowers.Proofs.Table.Source
import DecimalPowers.Proofs.UlpError.Display
import DecimalPowers.Proofs.UlpError.Order
