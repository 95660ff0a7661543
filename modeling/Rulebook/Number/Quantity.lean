/-
  Numbers as number fields hold them: whole ones of any size, and floating-point ones.

  1. `Quantity`: either kind, with its place on the line;
  2. `isWhole`, `decimal?`, `text`: what the number rules ask of it.
-/
import Rulebook.Number.Decimal
import Rulebook.Number.Whole

namespace Rulebook.Number

/-- A number of either kind: `whole` for integers of any size, `binary` for floating-point
    numbers. -/
inductive Quantity
  | whole (n : Int)
  | binary (d : Double)
deriving DecidableEq, Repr

namespace Quantity

/-- Where a number lies on the line; `nan` lies nowhere. -/
def place? : Quantity → Option Place
  | whole n => some (.ofInt n)
  | binary d => d.place?

/-- Both numbers lie on the line, `a` at or below `b`. -/
def le (a b : Quantity) : Bool :=
  match a.place?, b.place? with
  | some p, some q => p.le q
  | _, _ => false

/-- Both numbers lie on the line, `a` below `b`. -/
def lt (a b : Quantity) : Bool :=
  match a.place?, b.place? with
  | some p, some q => p.lt q
  | _, _ => false

/-- Is the number without a fractional part? -/
def isWhole : Quantity → Bool
  | whole _ => true
  | binary d => d.isWhole

/-- The number in decimal digits, unless a `whole` one has more than 4300. -/
def text : Quantity → Except Whole.DigitLimit String
  | whole n => Whole.text n
  | binary d => .ok d.text

/-- The exact decimal that the number is written as.  Infinity and `nan` have none, and a `whole`
    number that is too long to be written is refused. -/
def decimal? : Quantity → Except Whole.DigitLimit (Option Decimal)
  | whole n =>
    match Whole.text n with
    | .ok _ => .ok (some (.ofInt n))
    | .error e => .error e
  | binary (.finite _ units) => .ok (some (.ofUnits units))
  | binary _ => .ok none

/-- Under `le`, whole numbers are compared as such. -/
theorem le_whole (m n : Int) : le (whole m) (whole n) = decide (m ≤ n) := by
  simp [le, place?, Place.le_ofInt]

end Quantity

end Rulebook.Number
