/-!
Natural numbers in base ten: writing one, and reading the digits of one back.

A reader of an unsigned number takes an optional plus sign and at least one digit; leading zeros
do not matter, and a number above the reader's bound is refused.
-/

namespace PromptGraph.Digits

/-- The digits of a number, most significant first, without leading zeros. -/
def write (n : Nat) : List Char := Nat.toDigits 10 n

/-- The number that a digit stands for. -/
def weight (c : Char) : Nat := c.toNat - '0'.toNat

/-- The number that a run of digits stands for; the empty run stands for zero. -/
def value (ds : List Char) : Nat := ds.foldl (fun n c => 10 * n + weight c) 0

/-- A run of one or more digits, and nothing else. -/
def read? (cs : List Char) : Option Nat :=
  if !cs.isEmpty && cs.all Char.isDigit then some (value cs) else none

/-- The sign in front of a number, true for a minus, and what follows it. -/
def splitSign : List Char → Bool × List Char
  | '+' :: cs => (false, cs)
  | '-' :: cs => (true, cs)
  | cs => (false, cs)

/-- A number without a minus sign that is at most `bound`. -/
def readUpTo? (bound : Nat) (s : String) : Option Nat :=
  let digits := match s.toList with
    | '+' :: cs => cs
    | cs => cs
  (read? digits).filter (· ≤ bound)

/-- A number whose sign may be a plus or a minus. -/
def readSigned? (s : String) : Option Int :=
  let (negative, cs) := splitSign s.toList
  (read? cs).map fun n => if negative then -(n : Int) else n

end PromptGraph.Digits
