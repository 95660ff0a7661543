/-
  Lower and upper case of texts.

  1. `lowerChar`, `upperChar`: one character to one character;
  2. `lower`, `upperChars`: texts, where İ becomes two characters, ß becomes SS and a sigma at the
     end of a word gets its final form;
  3. `sameCased`: the characters that a comparison without regard to case takes for equal.
-/
import Rulebook.Text.CaseTable

namespace Rulebook.Text

/-! ## One character -/

/-- The shift of the first of the `runs` that covers the point `n`, zero if none does. -/
def shiftOf (runs : Array CaseRun) (n : Nat) : Int :=
  match runs.find? (·.covers n) with
  | some r => r.shift
  | none => 0

/-- Lower case of an ASCII letter; any other `c` stays. -/
def lowerAscii (c : Char) : Char := if 'A' ≤ c ∧ c ≤ 'Z' then Char.ofNat (c.toNat + 32) else c

/-- Upper case of an ASCII letter; any other `c` stays. -/
def upperAscii (c : Char) : Char := if 'a' ≤ c ∧ c ≤ 'z' then Char.ofNat (c.toNat - 32) else c

/-- The lower case of `c` as one character. -/
def lowerChar (c : Char) : Char :=
  if c.toNat < 128 then lowerAscii c
  else Char.ofNat (c.toNat + shiftOf lowerRuns c.toNat).toNat

/-- The upper case of `c` as one character; of a longer form, its first character. -/
def upperChar (c : Char) : Char :=
  if c.toNat < 128 then upperAscii c
  else Char.ofNat (c.toNat + shiftOf upperRuns c.toNat).toNat

/-! ## Texts -/

/-- With `cs` what stands on one side of a sigma, nearest first: is the first character that is not
    skipped a cased one? -/
def facesCased (cs : List Char) : Bool :=
  match (cs.dropWhile ignorableRanges.contains).head? with
  | some c => casedRanges.contains c
  | none => false

/-- Lower case of a list of characters, where those `before` it are at hand (nearest first) to
    place the final sigma. -/
def lowerFrom (before : List Char) : List Char → List Char
  | [] => []
  | c :: cs =>
    let here :=
      if c == 'Σ' then
        [if facesCased before && !facesCased cs then 'ς' else 'σ']
      else if c == 'İ' then ['i', '\u0307']
      else [lowerChar c]
    here ++ lowerFrom (c :: before) cs

/-- Lower case of `cs`. -/
def lowerChars (cs : List Char) : List Char := lowerFrom [] cs

/-- The upper case of `c`, one to three characters. -/
def upperExpanded (c : Char) : List Char :=
  if c.toNat < 128 then [upperAscii c]
  else
    match upperExpansions.find? (·.1 == c.toNat) with
    | some (_, form) => form.map Char.ofNat
    | none => [upperChar c]

/-- Upper case of `cs`, each character by `upperExpanded`. -/
def upperChars (cs : List Char) : List Char := cs.flatMap upperExpanded

/-- Lower case of the text `s`. -/
def lower (s : String) : String := String.ofList (lowerChars s.toList)

/-! ## Comparison without regard to case -/

/-- The other lower-case characters that share a capital with `c`. -/
def extraPartners (c : Char) : List Char :=
  match extraCases.find? (·.contains c.toNat) with
  | some group => (group.filter (· != c.toNat)).map Char.ofNat
  | none => []

/-- The characters whose lower case is `c`. -/
def lowerSources (c : Char) : List Char :=
  let n := c.toNat
  let shifted := lowerRuns.toList.filterMap fun r =>
    let m := (n : Int) - r.shift
    if 0 ≤ m ∧ r.covers m.toNat then some (Char.ofNat m.toNat) else none
  if lowerChar c == c then c :: shifted else shifted

/-- The characters that count as equal to one whose lower case is `lowered`. -/
def sameCased (lowered : Char) : List Char :=
  (lowered :: extraPartners lowered).flatMap lowerSources

end Rulebook.Text
