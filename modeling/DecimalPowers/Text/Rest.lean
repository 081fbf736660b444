/-!
Rests of a text. A function that reads from the start of a text returns what is left of it; the
loops that repeat such a function end because the rest is shorter.
-/

set_option autoImplicit false
set_option relaxedAutoImplicit false

namespace DecimalPowers.Text

theorem length_dropWhile_le (p : Char → Bool) (s : List Char) :
    (s.dropWhile p).length ≤ s.length :=
  (List.dropWhile_sublist p).length_le

/-- A rest that is no longer than the text it is left from. -/
abbrev Rest (s : List Char) : Type := { r : List Char // r.length ≤ s.length }

/-- A rest that is shorter than the text it is left from. -/
abbrev After (s : List Char) : Type := { r : List Char // r.length < s.length }

namespace Rest

variable {c : Char} {s : List Char}

def whole (s : List Char) : Rest s := ⟨s, Nat.le_refl _⟩

def cons (r : Rest s) : Rest (c :: s) := ⟨r.1, Nat.le_succ_of_le r.2⟩

def shorter (r : Rest s) : After (c :: s) := ⟨r.1, Nat.lt_succ_of_le r.2⟩

def trans (r : Rest s) (t : Rest r.1) : Rest s := ⟨t.1, Nat.le_trans t.2 r.2⟩

def dropWhile (r : Rest s) (p : Char → Bool) : Rest s :=
  ⟨r.1.dropWhile p, Nat.le_trans (length_dropWhile_le p r.1) r.2⟩

end Rest

namespace After

variable {c : Char} {s : List Char}

def tail (c : Char) (s : List Char) : After (c :: s) := ⟨s, Nat.lt_succ_self _⟩

def cons (r : After s) : After (c :: s) := ⟨r.1, Nat.lt_succ_of_lt r.2⟩

def trans (r : After s) (t : After r.1) : After s := ⟨t.1, Nat.lt_trans t.2 r.2⟩

end After

end DecimalPowers.Text
