/-!
Binary floating-point formats, by rank.

The magnitudes of a format are numbered from zero upwards; the number of a magnitude is its rank.
Every magnitude is a whole multiple of the least positive one, its unit, and rounding a quotient
gives the rank of the nearest magnitude, a tie going to the even rank.
-/

namespace PromptGraph

/-- The whole number nearest to a quotient; a tie goes to the even one. -/
def roundQuotient (num den : Nat) : Nat :=
  let q := num / den
  let r := num % den
  if 2 * r < den then q
  else if den < 2 * r then q + 1
  else q + q % 2

theorem roundQuotient_mul (n : Nat) {den : Nat} (hden : 0 < den) :
    roundQuotient (n * den) den = n := by
  simp [roundQuotient, Nat.mul_div_cancel n hden, hden]

/-- A format with `fraction` stored bits, whose unit is `2 ^ -scale` and whose finite ranks are
those below `limit`. -/
structure BinaryFormat where
  fraction : Nat
  scale : Nat
  limit : Nat

namespace BinaryFormat

def double : BinaryFormat := ⟨52, 1074, 2047 * Nat.pow 2 52⟩

def single : BinaryFormat := ⟨23, 149, 255 * Nat.pow 2 23⟩

/-- A magnitude, counted in units. -/
def units (f : BinaryFormat) (rank : Nat) : Nat :=
  let step := rank / Nat.pow 2 f.fraction
  let part := rank % Nat.pow 2 f.fraction
  if step = 0 then part else (Nat.pow 2 f.fraction + part) * Nat.pow 2 (step - 1)

/-- The units of a magnitude are some leading bits with zeros behind them, and the number of the
zeros and the leading bits give back the rank. -/
theorem exists_units (f : BinaryFormat) (rank : Nat) :
    ∃ leading, f.units rank = leading * Nat.pow 2 ((f.units rank).log2 - f.fraction) ∧
      ((f.units rank).log2 - f.fraction) * Nat.pow 2 f.fraction + leading = rank := by
  have hrank := Nat.div_add_mod' rank (2 ^ f.fraction)
  have hpart := Nat.mod_lt rank (Nat.two_pow_pos f.fraction)
  simp only [units, Nat.pow_eq]
  generalize rank / 2 ^ f.fraction = step at *
  generalize rank % 2 ^ f.fraction = part at *
  -- The least ranks are their own units; in later steps a leading bit stands before the part.
  cases step with
  | zero =>
    have hzeros : part.log2 - f.fraction = 0 := by
      by_cases hzero : part = 0
      · simp [hzero]
      · have hlog : part.log2 < f.fraction := (Nat.log2_lt hzero).2 hpart
        omega
    exact ⟨part, by simp [hzeros], by simpa [hzeros] using hrank⟩
  | succ zeros =>
    have hfraction := Nat.two_pow_pos f.fraction
    have hshift := Nat.two_pow_pos zeros
    have hne : (2 ^ f.fraction + part) * 2 ^ zeros ≠ 0 :=
      Nat.mul_ne_zero (by omega) (by omega)
    have hlog : ((2 ^ f.fraction + part) * 2 ^ zeros).log2 = f.fraction + zeros := by
      refine (Nat.log2_eq_iff hne).2 ⟨?_, ?_⟩
      · rw [Nat.pow_add]
        exact Nat.mul_le_mul_right _ (Nat.le_add_right _ _)
      · rw [Nat.add_right_comm, Nat.pow_add, Nat.pow_succ]
        exact Nat.mul_lt_mul_of_pos_right (by omega) hshift
    refine ⟨2 ^ f.fraction + part, by simp [hlog], ?_⟩
    rw [← hrank, Nat.succ_mul, Nat.add_assoc]
    simp [hlog]

/-- Only rank zero has no units. -/
theorem eq_zero_of_units {f : BinaryFormat} {rank : Nat} (h : f.units rank = 0) : rank = 0 := by
  obtain ⟨leading, hunits, hrank⟩ := f.exists_units rank
  simp only [h, Nat.log2_zero, Nat.zero_sub, Nat.zero_mul, Nat.pow_eq, Nat.pow_zero] at hunits hrank
  omega

/-- The rank of the magnitude nearest to `num / den`; one at or above `limit` is no finite
magnitude's. -/
def nearest (f : BinaryFormat) (num den : Nat) : Nat :=
  let scaled := num * Nat.pow 2 f.scale
  let dropped := (scaled / den).log2 - f.fraction
  dropped * Nat.pow 2 f.fraction + roundQuotient scaled (den * Nat.pow 2 dropped)

/-- A quotient that is a magnitude is rounded to that. -/
theorem nearest_eq_of_units (f : BinaryFormat) {num den rank : Nat} (hden : 0 < den)
    (h : num * Nat.pow 2 f.scale = f.units rank * den) : f.nearest num den = rank := by
  obtain ⟨leading, hunits, hrank⟩ := f.exists_units rank
  have hquotient : f.units rank * den / den = f.units rank := Nat.mul_div_cancel _ hden
  have hscaled : f.units rank * den =
      leading * (den * Nat.pow 2 ((f.units rank).log2 - f.fraction)) := by
    rw [Nat.mul_left_comm, ← hunits, Nat.mul_comm]
  have hunit : 0 < den * Nat.pow 2 ((f.units rank).log2 - f.fraction) :=
    Nat.mul_pos hden (Nat.two_pow_pos _)
  simp only [nearest, h, hquotient]
  rw [hscaled, roundQuotient_mul _ hunit, hrank]

/-- The rank of the magnitude nearest to a product. -/
def product (f : BinaryFormat) (a b : Nat) : Nat :=
  f.nearest (f.units a * f.units b) (Nat.pow 2 (2 * f.scale))

/-- The rank of the magnitude nearest to a quotient. -/
def quotient (f : BinaryFormat) (a b : Nat) : Nat := f.nearest (f.units a) (f.units b)

end BinaryFormat

/-- A finite double-precision number: a sign and the rank of a magnitude. -/
structure Binary64 where
  negative : Bool
  rank : Nat
  finite : rank < BinaryFormat.double.limit
deriving DecidableEq, Repr

namespace Binary64

/-- The number is zero, of either sign. -/
def isZero (x : Binary64) : Bool := x.rank == 0

/-- Equality of numbers: the two zeros are equal. -/
def agrees (x y : Binary64) : Bool :=
  x.rank == y.rank && (x.negative == y.negative || x.isZero)

example : agrees ⟨false, 0, by decide⟩ ⟨true, 0, by decide⟩ := by decide

def ofRank? (negative : Bool) (rank : Nat) : Option Binary64 :=
  if h : rank < BinaryFormat.double.limit then some ⟨negative, rank, h⟩ else none

end Binary64

/-- A double-precision number, finite or not. -/
inductive Double where
  | finite (value : Binary64)
  | infinite (negative : Bool)
  | nan
deriving DecidableEq, Repr

namespace Double

/-- The number of a sign and a rank; a rank beyond the finite ones is infinite. -/
def ofRank (negative : Bool) (rank : Nat) : Double :=
  match Binary64.ofRank? negative rank with
  | some x => .finite x
  | none => .infinite negative

/-- The double nearest to an integer. -/
def ofInt (n : Int) : Double := ofRank (n < 0) (BinaryFormat.double.nearest n.natAbs 1)

/-- Rounds to single precision and widens back. -/
def toSingle : Double → Double
  | .finite x =>
    let narrow := BinaryFormat.single.nearest
      (BinaryFormat.double.units x.rank) (Nat.pow 2 BinaryFormat.double.scale)
    if narrow < BinaryFormat.single.limit then
      ofRank x.negative (BinaryFormat.double.nearest
        (BinaryFormat.single.units narrow) (Nat.pow 2 BinaryFormat.single.scale))
    else .infinite x.negative
  | x => x

end Double

end PromptGraph
