/-
  Characters by name.

  Two families are named by rule: a Hangul syllable by the sounds it is made of, an ideograph by
  its number.  Their names are written in capitals.  Every other name stands in a table and is
  found whatever the case of its letters.  The names are those of version 14 of the standard, with
  the further names it lists; none is left out.

  1. `syllable?`: a Hangul syllable from its sounds;
  2. `ideograph?`: an ideograph from its number;
  3. `nameRows`: the tables;
  4. `characterNamed?`: the character of a name.
-/
import Rulebook.Text.Digit
import Rulebook.Text.Names.Further
import Rulebook.Text.Names.Letters
import Rulebook.Text.Names.Pictures
import Rulebook.Text.Names.Scripts
import Rulebook.Text.Names.Syllables
import Rulebook.Text.Names.Symbols

namespace Rulebook.Text

/-- What stands behind `label` in a name that begins with it. -/
def behind? (label : String) (name : List Char) : Option (List Char) :=
  if label.toList.isPrefixOf name then some (name.drop label.length) else none

/-! ## Hangul syllables -/

/-- The sounds that a syllable can begin with; the empty one is silent. -/
def leadingSounds : List String := [
  "G", "GG", "N", "D", "DD", "R", "M", "B", "BB", "S", "SS", "", "J", "JJ", "C", "K", "T", "P", "H"]

/-- The vowels, one in each syllable. -/
def vowelSounds : List String := [
  "A", "AE", "YA", "YAE", "EO", "E", "YEO", "YE", "O", "WA", "WAE", "OE", "YO", "U", "WEO", "WE",
  "WI", "YU", "EU", "YI", "I"]

/-- The sounds that a syllable can end with; the empty one leaves it open. -/
def trailingSounds : List String := [
  "", "G", "GG", "GS", "N", "NJ", "NH", "D", "L", "LG", "LM", "LB", "LS", "LT", "LP", "LH", "M",
  "B", "BS", "S", "SS", "NG", "J", "C", "K", "T", "P", "H"]

/-- The place of the longest of the `sounds` that `name` begins with, and what stands behind it. -/
def longestSound? (sounds : List String) (name : List Char) : Option (Nat × List Char) :=
  let fits := sounds.zipIdx.filter fun (sound, _) => sound.toList.isPrefixOf name
  (fits.maxOn? (·.1.length)).map fun (sound, place) => (place, name.drop sound.length)

/-- The syllable that `sounds` spell: the syllables are ordered by their beginnings, then by their
    vowels, then by their ends, from U+AC00 on. -/
def syllable? (sounds : List Char) : Option Nat := do
  let (leading, sounds) ← longestSound? leadingSounds sounds
  let (vowel, sounds) ← longestSound? vowelSounds sounds
  let (trailing, sounds) ← longestSound? trailingSounds sounds
  if sounds.isEmpty then
    some (0xAC00 + (leading * vowelSounds.length + vowel) * trailingSounds.length + trailing)
  else none

/-! ## Ideographs -/

/-- The points `⟨first, last⟩` of the ideographs that are named by their number. -/
def ideographRuns : List (Nat × Nat) := [
  (0x3400, 0x4DBF), (0x4E00, 0x9FFF), (0x20000, 0x2A6DF), (0x2A700, 0x2B738), (0x2B740, 0x2B81D),
  (0x2B820, 0x2CEA1), (0x2CEB0, 0x2EBE0), (0x30000, 0x3134A)]

/-- The ideograph with the number that four or five hexadecimal `digits` write, the letters among
    them capitals. -/
def ideograph? (digits : List Char) : Option Nat :=
  let point := readHex digits
  let counts := digits.length = 4 ∨ digits.length = 5
  if counts ∧ digits.all (fun c => isHexDigit c && !c.isLower) ∧
      ideographRuns.any (fun (first, last) => first ≤ point && point ≤ last) then some point
  else none

/-! ## Lookup -/

/-- Every name that stands in a table, the proper ones before the further ones. -/
def nameRows : List NameRow :=
  letterNames ++ symbolNames ++ syllableNames ++ scriptNames ++ pictureNames ++ furtherNames

/-- The character that is called `name`, by its number. -/
def characterNamed? (name : List Char) : Option Nat :=
  match behind? "HANGUL SYLLABLE " name with
  | some sounds => syllable? sounds
  | none =>
    match behind? "CJK UNIFIED IDEOGRAPH-" name with
    | some digits => ideograph? digits
    | none => nameRows.findSome? (·.find? (name.map Char.toUpper))

end Rulebook.Text
