set_option autoImplicit false

/-!
# Sets of characters as ranges

A character class of the Unicode standard is a list of ranges of code points, both ends included.
-/

namespace PromptStudio

abbrev CodeRange := Nat × Nat

def inRanges (ranges : List CodeRange) (c : Char) : Bool :=
  ranges.any fun r => r.1 ≤ c.toNat && c.toNat ≤ r.2

end PromptStudio
