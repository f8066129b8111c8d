import Mathlib.Data.List.TakeWhile
import PromptGraph.Json.Scan
import PromptGraph.Proofs.FirstFault

/-!
Numbers and their texts.

An integer is read back from its text, whatever follows the text, as long as no number goes on
there. Of a float this holds as far as the rounded steps in which floats are read find it again.
-/

namespace PromptGraph

namespace Digits

lemma isDigit_of_mem_write {c : Char} {n : Nat} (hc : c ∈ write n) : c.isDigit :=
  Nat.isDigit_of_mem_toDigits (by decide) (by decide) hc

lemma write_ne_nil (n : Nat) : write n ≠ [] := Nat.toDigits_ne_nil

lemma value_write (n : Nat) : value (write n) = n :=
  Nat.ofDigitChars_toDigits (by decide) (by decide)

lemma read?_write (n : Nat) : read? (write n) = some n := by
  have hdigits : (write n).all Char.isDigit :=
    List.all_eq_true.2 fun c hc => isDigit_of_mem_write hc
  simp [read?, hdigits, write_ne_nil, value_write]

lemma splitSign_append {cs : List Char} (hcs : cs ≠ []) (rest : List Char) :
    splitSign (cs ++ rest) = ((splitSign cs).1, (splitSign cs).2 ++ rest) := by
  cases cs with
  | nil => exact absurd rfl hcs
  | cons c cs =>
    by_cases hplus : c = '+'
    · subst hplus
      rfl
    · by_cases hminus : c = '-'
      · subst hminus
        rfl
      · simp [splitSign, hplus, hminus]

/-- A leading zero stands alone. -/
lemma eq_nil_of_write_eq_zero_cons {n : Nat} {cs : List Char} (h : write n = '0' :: cs) :
    cs = [] := by
  induction n using Nat.strongRecOn generalizing cs with
  | ind n ih =>
    by_cases hn : n < 10
    · rw [write, Nat.toDigits_of_lt_base hn] at h
      exact (List.cons.inj h).2.symm
    · exfalso
      rw [write, Nat.toDigits_of_base_le (by decide) (by omega)] at h
      change write (n / 10) ++ _ = _ at h
      cases hw : write (n / 10) with
      | nil => exact write_ne_nil _ hw
      | cons c ds =>
        rw [hw, List.cons_append] at h
        obtain ⟨rfl, -⟩ := List.cons.inj h
        obtain rfl := ih (n / 10) (by omega) hw
        have hvalue := value_write (n / 10)
        rw [hw] at hvalue
        have hzero : value ['0'] = 0 := rfl
        omega

end Digits

namespace Json

namespace Scan

/-- No number goes on where `rest` is left. -/
def Ends (rest : List Char) : Prop :=
  ∀ c ∈ rest.head?, c.isDigit = false ∧ c ≠ '.' ∧ c ≠ 'e' ∧ c ≠ 'E'

lemma ends_nil : Ends [] := by simp [Ends]

variable {cs ds r rest : List Char}

lemma takeWhile_of_ends (hrest : Ends rest) : rest.takeWhile Char.isDigit = [] := by
  cases rest with
  | nil => rfl
  | cons c rest => exact List.takeWhile_cons_of_neg (by simp [(hrest c rfl).1])

lemma dropWhile_of_ends (hrest : Ends rest) : rest.dropWhile Char.isDigit = rest := by
  cases rest with
  | nil => rfl
  | cons c rest => exact List.dropWhile_cons_of_neg (by simp [(hrest c rfl).1])

lemma digits_append (h : digits cs = .ok (ds, r)) (hrest : Ends rest) :
    digits (cs ++ rest) = .ok (ds, r ++ rest) := by
  have htake : (cs ++ rest).takeWhile Char.isDigit = cs.takeWhile Char.isDigit := by
    rw [List.takeWhile_append, takeWhile_of_ends hrest, List.append_nil]
    split
    · rename_i hlength
      exact ((List.takeWhile_prefix _).eq_of_length hlength).symm
    · rfl
  have hdrop : (cs ++ rest).dropWhile Char.isDigit = cs.dropWhile Char.isDigit ++ rest := by
    rw [List.dropWhile_append, dropWhile_of_ends hrest]
    split
    · rename_i hempty
      rw [List.isEmpty_iff.1 hempty, List.nil_append]
    · rfl
  unfold digits at h ⊢
  rw [htake, hdrop]
  cases ht : cs.takeWhile Char.isDigit with
  | nil => simp [ht] at h
  | cons d ds =>
    simp only [ht, Except.ok.injEq, Prod.mk.injEq] at h ⊢
    exact ⟨h.1, congrArg (· ++ rest) h.2⟩

lemma wholeDigits_append (h : wholeDigits cs = .ok (ds, r)) (hrest : Ends rest) :
    wholeDigits (cs ++ rest) = .ok (ds, r ++ rest) := by
  unfold wholeDigits at h
  split at h
  · rename_i c cs
    split at h
    · cases h
    · rename_i hc
      obtain ⟨rfl, rfl⟩ := Prod.mk.inj (Except.ok.inj h)
      simp [wholeDigits, hc]
  · rename_i hzero
    have happend := digits_append h hrest
    unfold wholeDigits
    split
    · rename_i c tail heq
      -- a zero that stands alone, before something that is no digit
      cases cs with
      | nil => cases h
      | cons d cs =>
        obtain ⟨rfl, htail⟩ := List.cons.inj heq
        cases cs with
        | nil =>
          obtain ⟨rfl, rfl⟩ := Prod.mk.inj (Except.ok.inj h)
          have hrest' : rest = c :: tail := htail
          subst hrest'
          simp [(hrest c rfl).1]
        | cons c cs => exact (hzero c cs rfl).elim
    · exact happend

lemma fractionDigits_append (h : fractionDigits cs = .ok (ds, r)) (hrest : Ends rest) :
    fractionDigits (cs ++ rest) = .ok (ds, r ++ rest) := by
  cases cs with
  | nil =>
    obtain ⟨rfl, rfl⟩ := Prod.mk.inj (Except.ok.inj h)
    cases rest with
    | nil => rfl
    | cons c rest =>
      have hpoint := (hrest c rfl).2.1
      simp [fractionDigits, hpoint]
  | cons c cs =>
    by_cases hc : c = '.'
    · subst hc
      have hdigits : digits cs = .ok (ds, r) := h
      exact digits_append hdigits hrest
    · have hnone (tail : List Char) : fractionDigits (c :: tail) = .ok ([], c :: tail) := by
        simp [fractionDigits, hc]
      rw [hnone] at h
      obtain ⟨rfl, rfl⟩ := Prod.mk.inj (Except.ok.inj h)
      exact hnone _

lemma exponent_append {e : Option Int} (h : exponent cs = .ok (e, r)) (hrest : Ends rest) :
    exponent (cs ++ rest) = .ok (e, r ++ rest) := by
  cases cs with
  | nil =>
    obtain ⟨rfl, rfl⟩ := Prod.mk.inj (Except.ok.inj h)
    cases rest with
    | nil => rfl
    | cons c rest =>
      have hmark := (hrest c rfl).2.2
      simp [exponent, hmark]
  | cons c cs =>
    simp only [exponent, List.cons_append] at h ⊢
    split
    · rename_i hmark
      rw [if_pos hmark] at h
      obtain ⟨⟨ds, r'⟩, hds, h⟩ := bind_eq_ok_iff.1 h
      obtain ⟨rfl, rfl⟩ := Prod.mk.inj (Except.ok.inj h)
      have hcs : cs ≠ [] := by
        rintro rfl
        cases hds
      rw [Digits.splitSign_append hcs]
      exact bind_eq_ok_iff.2 ⟨_, digits_append hds hrest, rfl⟩
    · rename_i hmark
      rw [if_neg hmark] at h
      obtain ⟨rfl, rfl⟩ := Prod.mk.inj (Except.ok.inj h)
      rfl

/-- What follows the text of a number does not matter, as long as no number goes on there. -/
lemma numeral_append {negative : Bool} {n : Numeral} (h : numeral negative cs = .ok (n, r))
    (hrest : Ends rest) : numeral negative (cs ++ rest) = .ok (n, r ++ rest) := by
  obtain ⟨⟨whole, cs'⟩, hwhole, h⟩ := bind_eq_ok_iff.1 h
  obtain ⟨⟨fraction, cs''⟩, hfraction, h⟩ := bind_eq_ok_iff.1 h
  obtain ⟨⟨e, r'⟩, hexponent, h⟩ := bind_eq_ok_iff.1 h
  obtain ⟨rfl, rfl⟩ := Prod.mk.inj (Except.ok.inj h)
  exact bind_eq_ok_iff.2 ⟨_, wholeDigits_append hwhole hrest,
    bind_eq_ok_iff.2 ⟨_, fractionDigits_append hfraction hrest,
      bind_eq_ok_iff.2 ⟨_, exponent_append hexponent hrest, rfl⟩⟩⟩

lemma wholeDigits_write (m : Nat) : wholeDigits (Digits.write m) = .ok (Digits.write m, []) := by
  have hdigits : digits (Digits.write m) = .ok (Digits.write m, []) := by
    have hall : ∀ c ∈ Digits.write m, c.isDigit := fun c hc => Digits.isDigit_of_mem_write hc
    unfold digits
    rw [List.takeWhile_eq_self_iff.2 hall, List.dropWhile_eq_nil_iff.2 hall]
    cases hw : Digits.write m with
    | nil => exact absurd hw (Digits.write_ne_nil m)
    | cons d ds => rfl
  unfold wholeDigits
  split
  · rename_i c cs hw
    exact absurd (Digits.eq_nil_of_write_eq_zero_cons hw) (by simp)
  · exact hdigits

lemma numeral_write (negative : Bool) (m : Nat) :
    numeral negative (Digits.write m) = .ok (⟨negative, Digits.write m, [], none⟩, []) :=
  bind_eq_ok_iff.2 ⟨_, wholeDigits_write m, rfl⟩

/-- A numeral begins with a digit. -/
lemma exists_digit_of_numeral {negative : Bool} {n : Numeral}
    (h : numeral negative cs = .ok (n, r)) : ∃ c cs', cs = c :: cs' ∧ c.isDigit := by
  obtain ⟨⟨whole, cs'⟩, hwhole, -⟩ := bind_eq_ok_iff.1 h
  unfold wholeDigits at hwhole
  split at hwhole
  · exact ⟨_, _, rfl, rfl⟩
  · cases cs with
    | nil => cases hwhole
    | cons c cs =>
      refine ⟨c, cs, rfl, ?_⟩
      by_contra hc
      simp [digits, hc] at hwhole

end Scan

lemma Numeral.integer?_whole (negative : Bool) (ds : List Char) :
    Numeral.integer? ⟨negative, ds, [], none⟩ =
      if negative then
        if 0 < Digits.value ds && Digits.value ds ≤ 9223372036854775808 then
          some (-(Digits.value ds : Int))
        else none
      else if Digits.value ds < UInt64.size then some (Digits.value ds : Int) else none := rfl

namespace Number

/-- The number of which all of a text is the numeral, after its sign. -/
def ofDigits? (negative : Bool) (cs : List Char) : Option Number :=
  match Scan.numeral negative cs with
  | .ok (n, []) => n.number?
  | _ => none

/-- The number of which all of a text is the numeral. -/
def ofChars? : List Char → Option Number
  | '-' :: cs => ofDigits? true cs
  | cs => ofDigits? false cs

/-- The number is read back from its text. -/
def Rereads (n : Number) : Prop := ofChars? n.text = some n

instance : DecidablePred Rereads := fun n => inferInstanceAs (Decidable (ofChars? n.text = some n))

lemma ofDigits?_eq_some_iff {negative : Bool} {cs : List Char} {n : Number} :
    ofDigits? negative cs = some n ↔
      ∃ m, Scan.numeral negative cs = .ok (m, []) ∧ m.number? = some n := by
  unfold ofDigits?
  split
  · rename_i m hm
    simp [hm]
  · rename_i hm
    simp only [reduceCtorEq, false_iff, not_exists, not_and]
    exact fun m h => (hm m h).elim

lemma ofDigits?_write {negative : Bool} {n : Int} (h : IntegerRange n)
    (hn : Numeral.integer? ⟨negative, Digits.write n.natAbs, [], none⟩ = some n) :
    ofDigits? negative (Digits.write n.natAbs) = some (.integer n h) :=
  ofDigits?_eq_some_iff.2 ⟨_, Scan.numeral_write negative n.natAbs, by
    simp [Numeral.number?, hn, ofInt?, h]⟩

/-- Integers are read back from their texts. -/
lemma rereads_integer (n : Int) (h : IntegerRange n) : (Number.integer n h).Rereads := by
  have hvalue := Digits.value_write n.natAbs
  obtain ⟨hlow, hhigh⟩ := id h
  unfold Rereads
  by_cases hn : n < 0
  · have hsize : (0 < n.natAbs && n.natAbs ≤ 9223372036854775808) = true := by
      simp only [Bool.and_eq_true, decide_eq_true_eq]
      omega
    rw [text, if_pos hn]
    refine ofDigits?_write h ?_
    rw [Numeral.integer?_whole, hvalue, if_pos rfl, if_pos hsize]
    exact congrArg some (by omega)
  · have hsize : n.natAbs < UInt64.size := by
      simp only [UInt64.size]
      omega
    have hsign (ds : List Char) : Digits.write n.natAbs ≠ '-' :: ds := by
      intro hw
      have hdigit : '-'.isDigit := Digits.isDigit_of_mem_write (hw ▸ List.mem_cons_self)
      exact absurd hdigit (by decide)
    rw [text, if_neg hn, List.nil_append, ofChars?.eq_2 _ hsign]
    refine ofDigits?_write h ?_
    rw [Numeral.integer?_whole, hvalue, if_neg Bool.false_ne_true, if_pos hsize]
    exact congrArg some (by omega)

end Number

end Json

end PromptGraph
