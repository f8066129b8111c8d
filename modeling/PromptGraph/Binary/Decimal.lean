import PromptGraph.Binary.Format
import PromptGraph.Text.Digits

/-!
Decimal numbers and doubles: reading a decimal as the double nearest to it or, in a few rounded
steps, as one near it, and the shortest decimal whose nearest double is a given one.

Among the decimals of that least number of digits the one nearest to the double is taken, and of
two equally near ones the one with the even last digit. Its nearest double is the given one, for
every double.
-/

namespace PromptGraph

/-- The number `significand * 10 ^ exponent`. -/
structure Decimal where
  significand : Nat
  exponent : Int
deriving DecidableEq, Repr

namespace Decimal

/-- The rank of the nearest double. The first two answers only spare the work on powers of ten
far outside the range of a double. -/
def rank (d : Decimal) : Nat :=
  let up := d.exponent.toNat
  let down := (-d.exponent).toNat
  if d.significand = 0 || d.significand.log2 + 1 + BinaryFormat.double.scale < 3 * down then 0
  else if 1024 < 3 * up then BinaryFormat.double.limit
  else BinaryFormat.double.nearest (d.significand * Nat.pow 10 up) (Nat.pow 10 down)

/-- The rank of the double nearest to a power of ten. -/
def powerRank (n : Nat) : Nat := BinaryFormat.double.nearest (Nat.pow 10 n) 1

/-- The rank of the double that a decimal becomes in rounded steps: the significand is rounded, and
then multiplied or divided by a rounded power of ten of at most `10 ^ 308`. Every step may lose a
little, so the result may be a neighbour of the nearest double. Two divisions reach the least
doubles, and a significand of 64 bits is gone after a third. -/
def steppedRank (d : Decimal) : Nat :=
  let first := BinaryFormat.double.nearest d.significand 1
  let down := (-d.exponent).toNat
  if d.significand = 0 then 0
  else if 308 < d.exponent then BinaryFormat.double.limit
  else if 0 ≤ d.exponent then
    BinaryFormat.double.product first (powerRank d.exponent.toNat)
  else if down ≤ 308 then BinaryFormat.double.quotient first (powerRank down)
  else if down ≤ 616 then
    BinaryFormat.double.quotient (BinaryFormat.double.quotient first (powerRank 308))
      (powerRank (down - 308))
  else 0

example : (Decimal.mk 15 1).steppedRank = (Decimal.mk 15 1).rank := by decide +kernel

example : (Decimal.mk 7 23).steppedRank + 1 = (Decimal.mk 7 23).rank := by decide +kernel

/-- The decimal that equals a magnitude: `2 ^ -1074` is `5 ^ 1074 * 10 ^ -1074`. -/
def exact (rank : Nat) : Decimal :=
  ⟨BinaryFormat.double.units rank * Nat.pow 5 BinaryFormat.double.scale,
    -BinaryFormat.double.scale⟩

/-- The number of decimal digits of a positive number, from its number of bits. -/
def length (n : Nat) : Nat :=
  let least := n.log2 * 30102 / 100000
  if Nat.pow 10 (least + 1) ≤ n then least + 2 else least + 1

/-- The two neighbours of a decimal among those that end `dropped` places further left: the lower
one, the upper one, and the distances to them in units of its own last place. -/
structure Neighbours where
  lower : Decimal
  upper : Decimal
  toLower : Nat
  toUpper : Nat

def neighbours (d : Decimal) (dropped : Nat) : Neighbours :=
  let q := d.significand / Nat.pow 10 dropped
  let r := d.significand % Nat.pow 10 dropped
  ⟨⟨q, d.exponent + dropped⟩, ⟨q + 1, d.exponent + dropped⟩, r, Nat.pow 10 dropped - r⟩

/-- The neighbour whose nearest double has the rank `rank`; of two the nearer, of two equally near
ones the even. -/
def Neighbours.pick? (n : Neighbours) (rank : Nat) : Option Decimal :=
  let lowerFits := n.lower.rank == rank
  let upperFits := n.upper.rank == rank
  if lowerFits && upperFits then
    if n.toLower < n.toUpper then some n.lower
    else if n.toUpper < n.toLower then some n.upper
    else if n.lower.significand % 2 = 0 then some n.lower else some n.upper
  else if lowerFits then some n.lower
  else if upperFits then some n.upper
  else none

/-- The shortest decimal whose nearest double has the rank `rank`. Seventeen digits always
suffice. -/
def shortest (rank : Nat) : Decimal :=
  let whole := exact rank
  let digits := length whole.significand
  ((List.range 17).findSome? fun n => (whole.neighbours (digits - (n + 1))).pick? rank).getD whole

/-! ### Shortest decimals are read back -/

open BinaryFormat

theorem mul_pow_ne_zero {n : Nat} (hn : n ≠ 0) (e : Nat) : n * Nat.pow 5 e ≠ 0 :=
  Nat.mul_ne_zero hn (Nat.ne_of_gt (Nat.pow_pos (by decide)))

/-- A power of five has more than twice as many bits as its exponent tells. -/
theorem two_mul_le_log2_mul_pow {n : Nat} (hn : n ≠ 0) (e : Nat) :
    2 * e ≤ (n * Nat.pow 5 e).log2 := by
  refine (Nat.le_log2 (mul_pow_ne_zero hn e)).2 ?_
  calc 2 ^ (2 * e) = 4 ^ e := Nat.pow_mul 2 2 e
    _ ≤ 5 ^ e := Nat.pow_le_pow_left (by decide) e
    _ ≤ n * 5 ^ e := Nat.le_mul_of_pos_left _ (Nat.pos_of_ne_zero hn)

/-- The decimal fraction that equals a magnitude is rounded to that. -/
theorem nearest_decimal (f : BinaryFormat) (rank : Nat) :
    f.nearest (f.units rank * Nat.pow 5 f.scale) (Nat.pow 10 f.scale) = rank := by
  refine f.nearest_eq_of_units (Nat.pow_pos (by decide)) ?_
  rw [Nat.mul_assoc]
  exact congrArg (f.units rank * ·) (Nat.mul_pow 5 2 f.scale).symm

/-- The decimal that equals a magnitude has the rank of that. -/
theorem rank_exact (rank : Nat) : (exact rank).rank = rank := by
  have hup : (exact rank).exponent.toNat = 0 := by simp [exact]
  have hdown : (-(exact rank).exponent).toNat = double.scale := by simp [exact]
  have hsignificand : (exact rank).significand = double.units rank * Nat.pow 5 double.scale := rfl
  by_cases hunits : double.units rank = 0
  · rw [hunits, Nat.zero_mul] at hsignificand
    rw [Decimal.rank, hsignificand, if_pos (by simp), eq_zero_of_units hunits]
  · have hlog := two_mul_le_log2_mul_pow hunits double.scale
    have hne := mul_pow_ne_zero hunits double.scale
    have hone : Nat.pow 10 0 = 1 := rfl
    rw [Decimal.rank, hup, hdown, hsignificand, hone, Nat.mul_one, if_neg, if_neg (by decide)]
    · exact nearest_decimal double rank
    · simp only [Bool.or_eq_true, decide_eq_true_eq]
      omega

/-- What is picked has the rank that was asked for. -/
theorem rank_of_picked {n : Neighbours} {rank : Nat} {d : Decimal} (h : n.pick? rank = some d) :
    d.rank = rank := by
  by_cases hlower : n.lower.rank = rank
  · by_cases hupper : n.upper.rank = rank
    · have hd : d = n.lower ∨ d = n.upper := by grind [Neighbours.pick?]
      rcases hd with rfl | rfl
      · exact hlower
      · exact hupper
    · obtain rfl : n.lower = d := by simpa [Neighbours.pick?, hlower, hupper] using h
      exact hlower
  · obtain ⟨hupper, rfl⟩ : n.upper.rank = rank ∧ n.upper = d := by
      simpa [Neighbours.pick?, hlower] using h
    exact hupper

/-- The double nearest to the shortest decimal of a rank has that rank. -/
theorem rank_shortest (rank : Nat) : (shortest rank).rank = rank := by
  unfold shortest
  simp only
  cases hfound : (List.range 17).findSome? fun n => ((exact rank).neighbours
      (length (exact rank).significand - (n + 1))).pick? rank with
  | none => exact rank_exact rank
  | some d =>
    obtain ⟨n, -, hpick⟩ := List.exists_of_findSome?_eq_some hfound
    exact rank_of_picked hpick

end Decimal

/-- How a floating-point number is laid out: the scientific exponents, first and one past the
last, that are written positionally. -/
structure FloatLayout where
  positionalFrom : Int
  positionalBelow : Int

namespace FloatLayout

/-- An exponent with its sign, a plus included. -/
def exponentText (e : Int) : List Char :=
  (if e < 0 then '-' else '+') :: Digits.write e.natAbs

/-- The digits `ds` of a number whose first digit counts `10 ^ e`: positionally with at least one
place after the point, or in scientific form. -/
def digitsText (layout : FloatLayout) (ds : List Char) (e : Int) : List Char :=
  if layout.positionalFrom ≤ e && e < layout.positionalBelow then
    if e < 0 then '0' :: '.' :: List.replicate ((-e).toNat - 1) '0' ++ ds
    else
      let whole := e.toNat + 1
      let fraction := ds.drop whole
      ds.take whole ++ List.replicate (whole - ds.length) '0' ++
        '.' :: (if fraction.isEmpty then ['0'] else fraction)
  else
    match ds with
    | [] => []
    | [d] => d :: 'e' :: exponentText e
    | d :: rest => d :: '.' :: rest ++ 'e' :: exponentText e

/-- The text of a finite double: its shortest decimal, without trailing zeros. -/
def text (layout : FloatLayout) (x : Binary64) : List Char :=
  let body :=
    if x.isZero then ['0', '.', '0']
    else
      let d := Decimal.shortest x.rank
      let digits := Digits.write d.significand
      let ds := (digits.reverse.dropWhile (· == '0')).reverse
      layout.digitsText ds (d.exponent + digits.length - 1)
  if x.negative then '-' :: body else body

end FloatLayout

namespace Double

/-- Reads a floating-point number: a sign, digits with a point before, among or after them, an
exponent; or the words for infinity and for what is no number, in any case of letters. -/
def read? (s : String) : Option Double :=
  let (negative, cs) := Digits.splitSign s.toList
  let word := String.ofList (cs.map Char.toLower)
  if word = "inf" || word = "infinity" then some (.infinite negative)
  else if word = "nan" then some .nan
  else
    let whole := cs.takeWhile Char.isDigit
    let afterWhole := cs.dropWhile Char.isDigit
    let (fraction, afterFraction) := match afterWhole with
      | '.' :: r => (r.takeWhile Char.isDigit, r.dropWhile Char.isDigit)
      | r => ([], r)
    if whole.isEmpty && fraction.isEmpty then none
    else
      let exponent? : Option Int := match afterFraction with
        | [] => some 0
        | c :: r =>
          if c = 'e' || c = 'E' then
            let (minus, ds) := Digits.splitSign r
            (Digits.read? ds).map fun n => if minus then -(n : Int) else n
          else none
      exponent?.map fun e =>
        ofRank negative (Decimal.rank ⟨Digits.value (whole ++ fraction), e - fraction.length⟩)

end Double

end PromptGraph
