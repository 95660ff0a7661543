/-
  White space and stripping.

  1. `isBlank`: the 29 characters that separate words;
  2. `strip`: a text without the blanks at its two ends.
-/

namespace Rulebook.Text

/-! ## The class -/

/-- Is `c` white space: the line and field separators of ASCII, the space, and the spaces of the
    other blocks? The zero-width space U+200B is not among them. -/
def isBlank (c : Char) : Bool :=
  let n := c.toNat
  (0x09 ≤ n && n ≤ 0x0D) || (0x1C ≤ n && n ≤ 0x20) || n == 0x85 || n == 0xA0 || n == 0x1680
    || (0x2000 ≤ n && n ≤ 0x200A) || n == 0x2028 || n == 0x2029 || n == 0x202F || n == 0x205F
    || n == 0x3000

/-- Is `c` one of the blanks below 128? -/
def isAsciiBlank (c : Char) : Bool :=
  c == ' ' || (0x09 ≤ c.toNat && c.toNat ≤ 0x0D)

/-! ## Stripping -/

/-- Drops the blanks at the end of `cs`. -/
def stripEnd (cs : List Char) : List Char := (cs.reverse.dropWhile isBlank).reverse

/-- Drops the blanks at both ends of `cs`. -/
def stripChars (cs : List Char) : List Char := stripEnd (cs.dropWhile isBlank)

/-- Drops the blanks at both ends of the text `s`. -/
def strip (s : String) : String := String.ofList (stripChars s.toList)

/-- What stripping the front of `cs` leaves does not begin with a blank. -/
theorem head?_dropWhile_isBlank (cs : List Char) (c : Char)
    (h : (cs.dropWhile isBlank).head? = some c) : isBlank c = false := by
  induction cs with
  | nil => simp at h
  | cons d ds ih =>
    by_cases hd : isBlank d = true
    · exact ih (by simpa [List.dropWhile_cons, hd] using h)
    · simp only [Bool.not_eq_true] at hd
      have : d = c := by simpa [List.dropWhile_cons, hd] using h
      exact this ▸ hd

end Rulebook.Text
