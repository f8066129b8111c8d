import PromptGraph.Binary.Decimal

/-!
Numbers of JSON values, and the numerals that stand for them in texts.

A numeral without point and exponent is an exact integer where 64 bits, signed or not, can hold
it. Every other numeral is the double that its decimal becomes in rounded steps, where the decimal
has no more digits than 64 bits can hold. So `1` and `1.0` are different numbers, the text of a
float may be read as a neighbour of that float, and a numeral beyond the doubles stands for none.
-/

namespace PromptGraph.Json

/-- The integers kept exactly: those of 64 bits, signed or not. -/
def IntegerRange (n : Int) : Prop := -9223372036854775808 ≤ n ∧ n ≤ 18446744073709551615

instance (n : Int) : Decidable (IntegerRange n) := inferInstanceAs (Decidable (_ ∧ _))

inductive Number where
  | integer (value : Int) (inRange : IntegerRange value)
  | float (value : Binary64)
deriving DecidableEq

namespace Number

/-- Equality of numbers: an integer never equals a float, and the two float zeros are equal. -/
def agrees : Number → Number → Bool
  | .integer m _, .integer n _ => m == n
  | .float x, .float y => x.agrees y
  | _, _ => false

/-- Positional from `0.00001` up to below `1e+16`, scientific outside. -/
def layout : FloatLayout := { positionalFrom := -5, positionalBelow := 16 }

def text : Number → List Char
  | .integer n _ => (if n < 0 then ['-'] else []) ++ Digits.write n.natAbs
  | .float x => layout.text x

def ofUInt32 (n : UInt32) : Number :=
  .integer n.toNat ⟨by omega, by have := n.toNat_lt; omega⟩

def ofUInt64 (n : UInt64) : Number :=
  .integer n.toNat ⟨by omega, by have := n.toNat_lt; omega⟩

def ofInt? (n : Int) : Option Number :=
  if h : IntegerRange n then some (.integer n h) else none

end Number

/-- A number as written: its sign, the digits before and after the point, its exponent. -/
structure Numeral where
  negative : Bool
  whole : List Char
  fraction : List Char
  exponent : Option Int
deriving DecidableEq

namespace Numeral

/-- Appends digits to a significand while 64 bits can hold it, and gives the digits left over. -/
def takeDigits (significand : Nat) : List Char → Nat × List Char
  | [] => (significand, [])
  | c :: cs =>
    let longer := 10 * significand + Digits.weight c
    if longer < UInt64.size then takeDigits longer cs else (significand, c :: cs)

/-- The decimal of a numeral. Of the digits before the point and of those after it as many are kept
as fit into 64 bits; each one dropped before the point counts as a power of ten. -/
def decimal (n : Numeral) : Decimal :=
  let (significand, dropped) := takeDigits 0 n.whole
  let (significand, left) := takeDigits significand n.fraction
  ⟨significand,
    n.exponent.getD 0 + dropped.length - (n.fraction.length - left.length : Nat)⟩

/-- The integer that a numeral denotes exactly. Minus zero is a float. -/
def integer? (n : Numeral) : Option Int :=
  if n.fraction.isEmpty && n.exponent.isNone then
    let m := Digits.value n.whole
    if n.negative then
      if 0 < m && m ≤ 9223372036854775808 then some (-m) else none
    else if m < UInt64.size then some m else none
  else none

/-- The number that a numeral stands for. -/
def number? (n : Numeral) : Option Number :=
  match n.integer? with
  | some m => Number.ofInt? m
  | none => (Binary64.ofRank? n.negative n.decimal.steppedRank).map .float

end Numeral

end PromptGraph.Json
