import DecimalPowers.FileSystem
import DecimalPowers.Json.Record
import DecimalPowers.Json.Value
import DecimalPowers.Parameters

/-!
The parameters of a table as a JSON document. A field that is absent keeps its default.
-/

set_option autoImplicit false
set_option relaxedAutoImplicit false

namespace DecimalPowers

inductive LoadError where
  | file (cause : FileError)
  | document (text : String) (cause : Json.Error)

namespace LoadError

def message : LoadError → String
  | file cause => cause.message
  | document text cause => cause.message text

end LoadError

namespace Parameters

def toJson (c : Parameters) : Json.Value :=
  .object [("min_exp", .integer c.minExp), ("max_exp", .integer c.maxExp),
    ("bits", .integer c.bits), ("mantissa", .integer c.mantissa)]

def schema : Json.Schema where
  name := "TableConfig"
  fields := [⟨"min_exp", .int32⟩, ⟨"max_exp", .int32⟩, ⟨"bits", .nat32⟩, ⟨"mantissa", .nat64⟩]
  required := false

def ofValues (values : Json.Values) : Parameters :=
  let default : Parameters := {}
  { minExp := (values.lookup "min_exp").getD default.minExp
    maxExp := (values.lookup "max_exp").getD default.maxExp
    bits := ((values.lookup "bits").map Int.toNat).getD default.bits
    mantissa := ((values.lookup "mantissa").map Int.toNat).getD default.mantissa }

def ofText (text : String) : Except Json.Error Parameters :=
  (Json.recordOfText schema text).map ofValues

def load {σ : Type} [FileSystem σ] (store : σ) (path : Path) : Except LoadError Parameters := do
  let text ← (FileSystem.readText store path).mapError .file
  (ofText text).mapError (.document text)

end Parameters

end DecimalPowers
