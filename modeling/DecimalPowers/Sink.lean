/-!
Writing to a sink of limited room. A sink takes the bytes of each chunk as long as there is room,
part of a chunk included, and refuses any further chunk that is not empty.
-/

set_option autoImplicit false
set_option relaxedAutoImplicit false

namespace DecimalPowers

def utf8 (s : String) : List UInt8 := s.toUTF8.data.toList

/-- What a sink has received, and whether it took all that it was given. -/
structure Delivery where
  received : List UInt8
  complete : Bool
  deriving DecidableEq

namespace Delivery

def bounded (room : Nat) : List (List UInt8) → Delivery
  | [] => ⟨[], true⟩
  | chunk :: chunks =>
    if chunk.length ≤ room then
      let rest := bounded (room - chunk.length) chunks
      ⟨chunk ++ rest.received, rest.complete⟩
    else ⟨chunk.take room, false⟩

def deliver (room : Option Nat) (chunks : List String) : Delivery :=
  match room with
  | none => ⟨(chunks.map utf8).flatten, true⟩
  | some room => bounded room (chunks.map utf8)

end Delivery

/-- The stage at which a writer failed: while the text was being put together, or at the plain
text around it. -/
inductive WriteFailure where
  | document
  | plain
  deriving DecidableEq

structure Written where
  received : List UInt8
  failure : Option WriteFailure
  deriving DecidableEq

end DecimalPowers
