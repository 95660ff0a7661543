/-
  Texts from bytes.

  1. `Defect`, `Undecodable`: where bytes stop being UTF-8, and why;
  2. `decode`: the characters that bytes stand for;
  3. `unifyLineEnds`: carriage returns, alone or before a line feed, become line feeds.
-/
import Rulebook.Text.Quoted

namespace Rulebook.Text.Utf8

/-! ## Defects -/

/-- Why bytes stand for no character. -/
inductive Defect
  | badStart
  | badContinuation
  | cutShort
deriving DecidableEq, Repr

/-- The first `defect`: its bytes by place and count, and the first of them. -/
structure Undecodable where
  defect : Defect
  start : Nat
  count : Nat
  byte : UInt8
deriving DecidableEq, Repr

/-- The wording of a defect. -/
def Defect.message : Defect → String
  | badStart => "invalid start byte"
  | badContinuation => "invalid continuation byte"
  | cutShort => "unexpected end of data"

/-- The wording of `u`: the place and the reason; a single byte is named. -/
def Undecodable.message (u : Undecodable) : String :=
  let reason := u.defect.message
  if u.count = 1 then
    let digits := String.ofList (hexDigits 2 u.byte.toNat)
    s!"'utf-8' codec can't decode byte 0x{digits} in position {u.start}: {reason}"
  else
    let last := u.start + u.count - 1
    s!"'utf-8' codec can't decode bytes in position {u.start}-{last}: {reason}"

/-! ## Decoding -/

/-- Is `b` a byte that continues a character? -/
def isContinuation (b : UInt8) : Bool := 0x80 ≤ b && b ≤ 0xBF

/-- Is `b` a second byte behind `first`? Some first bytes narrow it further. -/
def isSecond (first b : UInt8) : Bool :=
  isContinuation b && (first != 0xE0 || 0xA0 ≤ b) && (first != 0xED || b < 0xA0)
    && (first != 0xF0 || 0x90 ≤ b) && (first != 0xF4 || b < 0x90)

/-- How many bytes follow the first byte `b`. -/
def following? (b : UInt8) : Option Nat :=
  if b < 0x80 then some 0
  else if 0xC2 ≤ b && b ≤ 0xDF then some 1
  else if 0xE0 ≤ b && b ≤ 0xEF then some 2
  else if 0xF0 ≤ b && b ≤ 0xF4 then some 3
  else none

/-- The bits that the first byte `b` of a character gives to it, when so many are `following`. -/
def firstBits (b : UInt8) (following : Nat) : Nat :=
  match following with
  | 0 => b.toNat
  | 1 => b.toNat - 0xC0
  | 2 => b.toNat - 0xE0
  | _ => b.toNat - 0xF0

/-- The bytes of `rest` that follow `first`, as far as they are in order. -/
def sound (first : UInt8) (rest : List UInt8) (following : Nat) : List UInt8 :=
  match following, rest with
  | 0, _ => []
  | _, [] => []
  | n + 1, b :: bs => if isSecond first b then b :: (bs.take n).takeWhile isContinuation else []

/-- Decodes `bytes` from the place `start` on; what is decoded before them is in `sofar`, in
    reverse. -/
def decodeFrom (start : Nat) (sofar : List Char) (bytes : List UInt8) :
    Except Undecodable (List Char) :=
  match bytes with
  | [] => .ok sofar.reverse
  | b :: rest =>
    match following? b with
    | none => .error ⟨.badStart, start, 1, b⟩
    | some n =>
      let good := sound b rest n
      if good.length = n then
        let code := good.foldl (fun code c => code * 64 + (c.toNat - 0x80)) (firstBits b n)
        decodeFrom (start + n + 1) (Char.ofNat code :: sofar) (rest.drop n)
      else if rest.length = good.length then .error ⟨.cutShort, start, good.length + 1, b⟩
      else .error ⟨.badContinuation, start, good.length + 1, b⟩
termination_by bytes.length
decreasing_by simp only [List.length_drop, List.length_cons]; omega

/-- The characters that `bytes` stand for. -/
def decode (bytes : List UInt8) : Except Undecodable (List Char) := decodeFrom 0 [] bytes

/-! ## Line ends -/

/-- The text with every line end made a line feed. -/
def unifyLineEnds : List Char → List Char
  | [] => []
  | '\r' :: '\n' :: cs => '\n' :: unifyLineEnds cs
  | '\r' :: cs => '\n' :: unifyLineEnds cs
  | c :: cs => c :: unifyLineEnds cs

end Rulebook.Text.Utf8
