/-
  Data texts: null, true, false, numbers, texts, lists and objects.

  Beside the standard's numbers, `NaN`, `Infinity` and `-Infinity` are read.  A number without
  fraction and exponent is whole.  Of equal keys in an object the last one gives the value.

  1. `skipBlanks`, `wordAt`: blanks and fixed words;
  2. `readNumber?`: numbers, as far as they go;
  3. `readText`: texts, from behind the opening quote;
  4. `readValue`, `readItems`, `readEntries`: the grammar;
  5. `read`: a whole text.

  Each value takes a character, so the count of characters bounds the depth of the recursion.
-/
import Rulebook.Json.Complaint
import Rulebook.Number.Numeral
import Rulebook.Text.Quoted
import Rulebook.Value

namespace Rulebook.Json

open Rulebook.Text Rulebook.Number

/-! ## Blanks and words -/

/-- Whether `c` may stand between values. -/
def isGap (c : Char) : Bool := c == ' ' || c == '\t' || c == '\n' || c == '\r'

/-- The first place of `text` from `pos` on that holds no blank. -/
def skipBlanks (text : Array Char) (pos : Nat) : Nat :=
  if h : pos < text.size then
    if isGap text[pos] then skipBlanks text (pos + 1) else pos
  else pos
termination_by text.size - pos

/-- The `word` stands in `text` at `pos`. -/
def wordAt (text : Array Char) (pos : Nat) (word : String) : Bool :=
  (text.extract pos (pos + word.length)).toList == word.toList

/-- The characters of `text` from `pos` on, as far as `accepts` lets them pass. -/
def takeRun (text : Array Char) (accepts : Char → Bool) (pos : Nat) : List Char :=
  if h : pos < text.size then
    if accepts text[pos] then text[pos] :: takeRun text accepts (pos + 1) else []
  else []
termination_by text.size - pos

/-- Stops with a `complaint` about the place `pos` of `text`. -/
def complain {α : Type} (text : Array Char) (complaint : Complaint) (pos : Nat) :
    Except Fault α :=
  .error (.error (.at text complaint pos))

/-! ## Numbers -/

/-- The digits of a fraction whose point is at `pos`; none if there is no point or no digit behind
    it. -/
def fractionAt (text : Array Char) (pos : Nat) : List Char :=
  if text[pos]? = some '.' then takeRun text isAsciiDigit (pos + 1) else []

/-- The sign and digits of an exponent whose letter is at `pos`, and its length with the letter;
    `none` if no digit follows. -/
def exponentAt (text : Array Char) (pos : Nat) : Option ((Option Char × List Char) × Nat) :=
  if text[pos]? = some 'e' ∨ text[pos]? = some 'E' then
    let sign := match text[pos + 1]? with
      | some '+' => some '+'
      | some '-' => some '-'
      | _ => none
    let start := pos + 1 + (if sign.isSome then 1 else 0)
    let digits := takeRun text isAsciiDigit start
    if digits.isEmpty then none else some ((sign, digits), start - pos + digits.length)
  else none

/-- The number at `pos` and the place behind it: `int` without fraction and exponent, else
    `float`. -/
def readNumber? (text : Array Char) (pos : Nat) : Option (Except Fault (Value × Nat)) :=
  let negative := text[pos]? = some '-'
  let start := if negative then pos + 1 else pos
  let run := takeRun text isAsciiDigit start
  let whole := if run.head? = some '0' then ['0'] else run
  if whole.isEmpty then none
  else
    let afterWhole := start + whole.length
    let fraction := fractionAt text afterWhole
    let afterFraction :=
      if fraction.isEmpty then afterWhole else afterWhole + 1 + fraction.length
    let exponent := exponentAt text afterFraction
    if fraction.isEmpty && exponent.isNone then
      match Whole.ofDigits negative whole with
      | .ok n => some (.ok (.int n, afterWhole))
      | .error e => some (.error (.tooManyDigits e))
    else
      let numeral : Numeral :=
        ⟨if negative then some '-' else none, whole, true, fraction, exponent.map (·.1)⟩
      let stop := afterFraction + (match exponent with | some (_, n) => n | none => 0)
      some (.ok (.float numeral.toDouble, stop))

/-! ## Texts -/

/-- The character that the letter `c` behind a backslash stands for. -/
def escaped? (c : Char) : Option Char :=
  if c == doubleQuote then some doubleQuote
  else if c == '\\' then some '\\'
  else if c == '/' then some '/'
  else if c == 'b' then some '\x08'
  else if c == 'f' then some '\x0c'
  else if c == 'n' then some '\n'
  else if c == 'r' then some '\r'
  else if c == 't' then some '\t'
  else none

/-- The number that four hexadecimal digits at `pos` write. -/
def fourHexAt? (text : Array Char) (pos : Nat) : Option Nat :=
  let digits := (text.extract pos (pos + 4)).toList
  if digits.length = 4 ∧ digits.all isHexDigit then some (readHex digits) else none

/-- Is `n` the first half of a pair that stands for one character? -/
def isHighHalf (n : Nat) : Bool := 0xD800 ≤ n && n ≤ 0xDBFF

/-- Is `n` the second half of such a pair? -/
def isLowHalf (n : Nat) : Bool := 0xDC00 ≤ n && n ≤ 0xDFFF

/-- What stands for `n`, a half without its partner.  Such a half is no character, and a `String`
    cannot hold it: the last 2048 private characters stand for the 2048 halves, one for each, so
    that texts that differ in a half stay apart. -/
def loneHalf (n : Nat) : Char := Char.ofNat (0x10F800 + (n - 0xD800))

/-- The character written by number at `pos`, behind a backslash and the letter u, and the place
    behind it. -/
def readUnicode (text : Array Char) (pos : Nat) : Except Fault (Char × Nat) :=
  if text.size ≤ pos + 4 then complain text .badUnicodeEscape (pos - 1)
  else
    match fourHexAt? text pos with
    | none => complain text .badUnicodeEscape (pos - 1)
    | some n =>
      let stop := pos + 4
      if isHighHalf n && stop + 6 < text.size && text[stop]? == some '\\'
          && text[stop + 1]? == some 'u' then
        match fourHexAt? text (stop + 2) with
        | none => complain text .badUnicodeEscape (stop + 1)
        | some m =>
          if isLowHalf m then
            .ok (Char.ofNat (0x10000 + (n - 0xD800) * 1024 + (m - 0xDC00)), stop + 6)
          else .ok (loneHalf n, stop)
      else .ok (if isHighHalf n || isLowHalf n then loneHalf n else Char.ofNat n, stop)

/-- A text from `pos` to its closing quote, with the characters `sofar` in front in reverse;
    `start` is the place of its opening quote. -/
def readText (text : Array Char) (start : Nat) : (fuel : Nat) → (pos : Nat) →
    (sofar : List Char) → Except Fault (String × Nat)
  | 0, _, _ => complain text .unterminatedText start
  | fuel + 1, pos, sofar =>
    match text[pos]? with
    | none => complain text .unterminatedText start
    | some c =>
      if c == doubleQuote then .ok (String.ofList sofar.reverse, pos + 1)
      else if c == '\\' then
        match text[pos + 1]? with
        | none => complain text .unterminatedText start
        | some 'u' =>
          match readUnicode text (pos + 2) with
          | .error e => .error e
          | .ok (d, stop) => readText text start fuel stop (d :: sofar)
        | some d =>
          match escaped? d with
          | some e => readText text start fuel (pos + 2) (e :: sofar)
          | none => complain text .badEscape pos
      else if c.toNat < 0x20 then complain text .controlCharacter pos
      else readText text start fuel (pos + 1) (c :: sofar)

/-! ## The grammar -/

/-- A fixed word at `pos`: `null`, `true`, `false`, or one of the names of numbers that have no
    digits. -/
def readWord? (text : Array Char) (pos : Nat) : Option (Value × Nat) :=
  if wordAt text pos "null" then some (.null, pos + 4)
  else if wordAt text pos "true" then some (.bool true, pos + 4)
  else if wordAt text pos "false" then some (.bool false, pos + 5)
  else if wordAt text pos "NaN" then some (.float .nan, pos + 3)
  else if wordAt text pos "Infinity" then some (.float (.infinite false), pos + 8)
  else if wordAt text pos "-Infinity" then some (.float (.infinite true), pos + 9)
  else none

mutual

/-- The value at `pos`, and the place behind it. -/
def readValue (text : Array Char) (fuel pos : Nat) : Except Fault (Value × Nat) :=
  match fuel with
  | 0 => complain text .valueExpected pos
  | fuel + 1 =>
    match text[pos]? with
    | some '\x7b' =>
      let next := skipBlanks text (pos + 1)
      if text[next]? = some '\x7d' then .ok (.dict [], next + 1)
      else readEntries text fuel next []
    | some '[' =>
      let next := skipBlanks text (pos + 1)
      if text[next]? = some ']' then .ok (.list [], next + 1)
      else readItems text fuel next []
    | some c =>
      if c == doubleQuote then
        match readText text pos (text.size + 1) (pos + 1) [] with
        | .ok (s, stop) => .ok (.text s, stop)
        | .error e => .error e
      else
        match readWord? text pos with
        | some r => .ok r
        | none =>
          match readNumber? text pos with
          | some r => r
          | none => complain text .valueExpected pos
    | none => complain text .valueExpected pos

/-- The items of a list from the one at `pos` on, those before it in `sofar`, in reverse. -/
def readItems (text : Array Char) (fuel pos : Nat) (sofar : List Value) :
    Except Fault (Value × Nat) :=
  match fuel with
  | 0 => complain text .valueExpected pos
  | fuel + 1 =>
    match readValue text fuel pos with
    | .error e => .error e
    | .ok (v, stop) =>
      let next := skipBlanks text stop
      if text[next]? = some ']' then .ok (.list (v :: sofar).reverse, next + 1)
      else if text[next]? = some ',' then
        readItems text fuel (skipBlanks text (next + 1)) (v :: sofar)
      else complain text .commaExpected next

/-- The entries of an object from the one at `pos` on, those before it in `sofar`, in their
    order. -/
def readEntries (text : Array Char) (fuel pos : Nat) (sofar : List (Value × Value)) :
    Except Fault (Value × Nat) :=
  match fuel with
  | 0 => complain text .nameExpected pos
  | fuel + 1 =>
    if text[pos]? ≠ some doubleQuote then complain text .nameExpected pos
    else
      match readText text pos (text.size + 1) (pos + 1) [] with
      | .error e => .error e
      | .ok (name, stop) =>
        let colon := skipBlanks text stop
        if text[colon]? ≠ some ':' then complain text .colonExpected colon
        else
          match readValue text fuel (skipBlanks text (colon + 1)) with
          | .error e => .error e
          | .ok (v, stop) =>
            let entries := Value.put sofar (.text name) v
            let next := skipBlanks text stop
            if text[next]? = some '\x7d' then .ok (.dict entries, next + 1)
            else if text[next]? = some ',' then
              readEntries text fuel (skipBlanks text (next + 1)) entries
            else complain text .commaExpected next

end

/-! ## Whole texts -/

/-- The value that the whole text `cs` writes, blanks around it allowed. -/
def read (cs : List Char) : Except Fault Value :=
  let text := cs.toArray
  if text[0]? = some '\ufeff' then complain text .byteOrderMark 0
  else
    match readValue text (2 * text.size + 2) (skipBlanks text 0) with
    | .error e => .error e
    | .ok (v, stop) =>
      let next := skipBlanks text stop
      if next = text.size then .ok v else complain text .extraData next

end Rulebook.Json
