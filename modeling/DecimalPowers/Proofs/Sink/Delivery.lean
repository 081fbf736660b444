import DecimalPowers.Sink
import Mathlib.Data.Nat.Notation

/-!
What a sink of limited room receives: the first bytes of the whole text, as many as there is room
for, wherever the chunks end.
-/

set_option autoImplicit false
set_option relaxedAutoImplicit false

namespace DecimalPowers

theorem utf8_append (s t : String) : utf8 (s ++ t) = utf8 s ++ utf8 t := by
  simp [utf8, ByteArray.data_append]

private theorem utf8_join (texts : List String) :
    utf8 (String.join texts) = (texts.map utf8).flatten := by
  induction texts with
  | nil => rfl
  | cons text texts ih =>
    rw [String.join_cons, utf8_append, ih, List.map_cons, List.flatten_cons]

theorem utf8_inj {s t : String} : utf8 s = utf8 t ↔ s = t := by
  constructor
  · intro h
    apply String.toByteArray_inj.mp
    exact ByteArray.ext (Array.toList_inj.mp h)
  · rintro rfl
    rfl

namespace Delivery

private theorem bounded_eq (room : ℕ) (chunks : List (List UInt8)) :
    bounded room chunks = ⟨chunks.flatten.take room, decide (chunks.flatten.length ≤ room)⟩ := by
  induction chunks generalizing room with
  | nil => simp [bounded]
  | cons chunk chunks ih =>
    rw [bounded, List.flatten_cons, List.take_append, List.length_append]
    by_cases fits : chunk.length ≤ room
    · have whole : chunk.take room = chunk := List.take_of_length_le fits
      have left : chunks.flatten.length ≤ room - chunk.length ↔
          chunk.length + chunks.flatten.length ≤ room := by omega
      simp only [if_pos fits, ih, whole, left]
    · have none_left : room - chunk.length = 0 := by omega
      have exceeds : ¬ chunk.length + chunks.flatten.length ≤ room := by omega
      simp only [if_neg fits, none_left, List.take_zero, List.append_nil, exceeds, decide_false]

theorem deliver_none (texts : List String) :
    deliver none texts = ⟨utf8 (String.join texts), true⟩ := by
  rw [deliver, utf8_join]

theorem deliver_some (room : ℕ) (texts : List String) :
    deliver (some room) texts =
      ⟨(utf8 (String.join texts)).take room,
        decide ((utf8 (String.join texts)).length ≤ room)⟩ := by
  rw [deliver, bounded_eq, utf8_join]

end Delivery

end DecimalPowers
