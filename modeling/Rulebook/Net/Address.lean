/-
  Internet addresses in their text forms.

  Version 4: four decimal numbers up to 255 between dots, without leading zeros.
  Version 6: eight groups of up to four hexadecimal digits between colons; one run of zero
  groups may be left out (`::`), the last two groups may be written as a version 4 address, and
  a zone may follow behind a percent sign.  Neither form has a slash.

  1. `readOctet?`, `readFour?`: version 4;
  2. `Groups`, `readGroups?`, `readSix?`: version 6;
  3. `Address.read?`: either, version 4 first.
-/
import Rulebook.Number.Power
import Rulebook.Text.Digit
import Rulebook.Text.Split

namespace Rulebook.Net

open Rulebook.Text

/-- An address, as the `number` it stands for; one of version 6 with its `zone`, if it has one. -/
inductive Address
  | four (number : Nat)
  | six (number : Nat) (zone : Option (List Char))
deriving DecidableEq, Repr

namespace Address

/-- The version of an address, 4 or 6. -/
def version : Address → Nat
  | four _ => 4
  | six _ _ => 6

/-! ## Version 4 -/

/-- The number of an octet: one to three digits, zero only alone in front, 255 at most. -/
def readOctet? (cs : List Char) : Option Nat :=
  if !cs.isEmpty && cs.all isAsciiDigit && cs.length ≤ 3 && (cs == ['0'] || cs.head? != some '0')
      && readNat cs ≤ 255 then
    some (readNat cs)
  else none

/-- The number of four octets with dots between them, most significant first. -/
def readFour? (cs : List Char) : Option Nat :=
  if cs.contains '/' then none
  else
    match splitOn '.' cs with
    | [a, b, c, d] => do
      let a ← readOctet? a
      let b ← readOctet? b
      let c ← readOctet? c
      let d ← readOctet? d
      return ((a * 256 + b) * 256 + c) * 256 + d
    | _ => none

/-! ## Version 6 -/

/-- The number of a group: one to four hexadecimal digits. -/
def readGroup? (cs : List Char) : Option Nat :=
  if !cs.isEmpty && cs.length ≤ 4 && cs.all isHexDigit then some (readHex cs) else none

/-- The `parts` of a version 6 address, where a version 4 address in the last one stands for two
    groups. -/
def expandLast? (parts : List (List Char)) : Option (List (List Char)) :=
  match parts.getLast? with
  | some last =>
    if last.contains '.' then
      (readFour? last).map fun n =>
        parts.dropLast ++ [Nat.toDigits 16 (n / 65536), Nat.toDigits 16 (n % 65536)]
    else some parts
  | none => none

/-- The place of the only empty part between the first and the last; more than one is `repeated`,
    which is wrong. -/
inductive Gap
  | absent
  | at (index : Nat)
  | repeated

/-- Looks for the empty ones among the inner `parts`. -/
def findGap (parts : List (List Char)) : Gap :=
  let inner := (List.range parts.length).filter fun i =>
    0 < i && i + 1 < parts.length && (parts.getD i []).isEmpty
  match inner with
  | [] => .absent
  | [i] => .at i
  | _ => .repeated

/-- The number that groups stand for, most significant first. -/
def readGroups? (parts : List (List Char)) : Option Nat :=
  parts.foldlM (fun n part => (readGroup? part).map (n * 65536 + ·)) 0

/-- The number of all `parts` of the colon-separated form, a gap filled with as many zeros as are
    missing. -/
def readParts? (parts : List (List Char)) : Option Nat :=
  match findGap parts with
  | .repeated => none
  | .absent => if parts.length = 8 then readGroups? parts else none
  | .at i =>
    let firstEmpty := (parts.headD []).isEmpty
    let lastEmpty := (parts.getLastD []).isEmpty
    if (firstEmpty && i != 1) || (lastEmpty && i + 2 != parts.length) then none
    else
      let high := if firstEmpty then [] else parts.take i
      let low := if lastEmpty then [] else parts.drop (i + 1)
      if high.length + low.length < 8 then
        match readGroups? high, readGroups? low with
        | some h, some l => some (h * Number.twoTo (16 * (8 - high.length)) + l)
        | _, _ => none
      else none

/-- The address and its zone, which stands behind a percent sign: not empty, and without another
    percent sign. -/
def splitZone? (cs : List Char) : Option (List Char × Option (List Char)) :=
  match cut '%' cs with
  | (address, none) => some (address, none)
  | (address, some zone) =>
    if zone.isEmpty || zone.contains '%' then none else some (address, some zone)

/-- The colon-separated form with its zone: three to nine parts, a version 4 ending counted as
    two. -/
def readSix? (cs : List Char) : Option (Nat × Option (List Char)) :=
  if cs.contains '/' then none
  else do
    let (address, zone) ← splitZone? cs
    let parts := splitOn ':' address
    if parts.length < 3 then none
    else
      let parts ← expandLast? parts
      if 9 < parts.length then none
      else
        let number ← readParts? parts
        return (number, zone)

/-! ## Either -/

/-- The address that the text `cs` writes: by `readFour?`, or else by `readSix?`. -/
def read? (cs : List Char) : Option Address :=
  match readFour? cs with
  | some n => some (four n)
  | none => (readSix? cs).map fun (n, zone) => six n zone

end Address

end Rulebook.Net
