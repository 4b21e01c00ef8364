import Stablecoin.Text.CharRange

set_option autoImplicit false

/-! # Blank text

The characters with the Unicode property White_Space, and the texts that hold nothing else. -/

namespace Stablecoin.Text

/-- The property White_Space. -/
def whiteSpace : List (Nat × Nat) :=
  [(0x9, 0xd), (0x20, 0x20), (0x85, 0x85), (0xa0, 0xa0), (0x1680, 0x1680), (0x2000, 0x200a),
   (0x2028, 0x2029), (0x202f, 0x202f), (0x205f, 0x205f), (0x3000, 0x3000)]

/-- A text without any character, or with blanks only. -/
def isBlank (text : String) : Bool :=
  text.toList.all (inRanges whiteSpace)

theorem inRanges_whiteSpace_of_isWhitespace (c : Char) (h : c.isWhitespace = true) :
    inRanges whiteSpace c = true := by
  simp only [Char.isWhitespace, Bool.or_eq_true, decide_eq_true_eq] at h
  rcases h with ((h | h) | h) | h <;> subst h <;> decide

end Stablecoin.Text
