import Mathlib.Data.List.Forall2

/-!
Outcomes of steps that may fail, and of checks that go through a list and answer with the first
fault.
-/

namespace PromptGraph

section outcomes

variable {ε ε' α β : Type}

lemma bind_eq_ok_iff {x : Except ε α} {f : α → Except ε β} {b : β} :
    x >>= f = .ok b ↔ ∃ a, x = .ok a ∧ f a = .ok b := by
  cases x <;> simp [bind, Except.bind]

lemma map_eq_ok_iff {x : Except ε α} {f : α → β} {b : β} :
    x.map f = .ok b ↔ ∃ a, x = .ok a ∧ f a = b := by
  cases x <;> simp [Except.map]

lemma mapError_eq_ok_iff {x : Except ε α} {f : ε → ε'} {a : α} :
    x.mapError f = .ok a ↔ x = .ok a := by
  cases x with
  | error e => exact iff_of_false nofun nofun
  | ok b =>
    change (.ok b : Except ε' α) = .ok a ↔ _
    simp

lemma mapError_eq_error_iff {x : Except ε α} {f : ε → ε'} {e : ε'} :
    x.mapError f = .error e ↔ ∃ e', x = .error e' ∧ f e' = e := by
  cases x with
  | error e' =>
    change (.error (f e') : Except ε' α) = .error e ↔ _
    simp
  | ok a => exact iff_of_false nofun fun ⟨_, h, _⟩ => nomatch h

/-- What is wrong with an outcome, if something is. -/
def fault? : Except ε α → Option ε
  | .ok _ => none
  | .error e => some e

lemma fault?_eq_none_iff {x : Except ε α} : fault? x = none ↔ ∃ a, x = .ok a := by
  cases x <;> simp [fault?]

lemma fault?_eq_some_iff {x : Except ε α} {e : ε} : fault? x = some e ↔ x = .error e := by
  cases x <;> simp [fault?]

lemma fault?_map {x : Except ε α} {f : α → β} : fault? (x.map f) = fault? x := by
  cases x <;> rfl

lemma exists_of_any {x : Except ε α} {P : α → Bool} (h : x.toOption.any P = true) :
    ∃ a, x = .ok a ∧ P a = true := by
  cases x with
  | error e => cases h
  | ok a => exact ⟨a, rfl, h⟩

lemma exists_error_of_any {x : Except ε α} {P : ε → Bool} (h : (fault? x).any P = true) :
    ∃ e, x = .error e ∧ P e = true := by
  cases x with
  | error e => exact ⟨e, rfl, h⟩
  | ok a => cases h

end outcomes

section lists

variable {ε α β : Type}

lemma exists_of_forall₂ {R : α → β → Prop} {xs : List α} {ys : List β} (h : List.Forall₂ R xs ys) :
    ∀ x ∈ xs, ∃ y ∈ ys, R x y := by
  induction h with
  | nil => simp
  | cons hxy _ ih => simp_all

lemma getElem?_of_forall₂ {R : α → β → Prop} {xs : List α} {ys : List β} (h : List.Forall₂ R xs ys)
    {i : Nat} {y : β} (hy : ys[i]? = some y) : ∃ x, xs[i]? = some x ∧ R x y := by
  obtain ⟨hlength, hget⟩ := List.forall₂_iff_get.1 h
  obtain ⟨hi, rfl⟩ := List.getElem?_eq_some_iff.1 hy
  exact ⟨xs[i], List.getElem?_eq_getElem (hlength ▸ hi), hget i (hlength ▸ hi) hi⟩

lemma mapM_eq_ok_iff {f : α → Except ε β} {xs : List α} {ys : List β} :
    xs.mapM f = .ok ys ↔ List.Forall₂ (fun x y => f x = .ok y) xs ys := by
  induction xs generalizing ys with
  | nil =>
    rw [List.mapM_nil, List.forall₂_nil_left_iff]
    exact ⟨fun h => (Except.ok.inj h).symm, fun h => h ▸ rfl⟩
  | cons x xs ih =>
    simp only [List.mapM_cons, List.forall₂_cons_left_iff, bind_eq_ok_iff, ih]
    constructor
    · rintro ⟨y, hy, zs, hzs, h⟩
      exact ⟨y, zs, hy, hzs, (Except.ok.inj h).symm⟩
    · rintro ⟨y, zs, hy, hzs, rfl⟩
      exact ⟨y, hy, zs, hzs, rfl⟩

lemma exists_mapM {f : α → Except ε β} {xs : List α} (h : ∀ x ∈ xs, ∃ y, f x = .ok y) :
    ∃ ys, xs.mapM f = .ok ys := by
  induction xs with
  | nil => exact ⟨[], rfl⟩
  | cons x xs ih =>
    obtain ⟨⟨y, hy⟩, hxs⟩ := List.forall_mem_cons.1 h
    obtain ⟨ys, hys⟩ := ih hxs
    exact ⟨y :: ys, mapM_eq_ok_iff.2 (.cons hy (mapM_eq_ok_iff.1 hys))⟩

end lists

/-- A value, unless there is a fault. -/
def okUnless {ε α : Type} (fault : Option ε) (a : α) : Except ε α :=
  match fault with
  | some e => .error e
  | none => .ok a

section okUnless

variable {ε α β : Type} {fault : Option ε} {a : α}

@[simp] lemma okUnless_none : okUnless (none : Option ε) a = .ok a := rfl
@[simp] lemma okUnless_some {e : ε} : okUnless (some e) a = .error e := rfl

lemma okUnless_eq_ok_iff {b : α} : okUnless fault a = .ok b ↔ fault = none ∧ a = b := by
  cases fault <;> simp

lemma okUnless_eq_error_iff {e : ε} : okUnless fault a = .error e ↔ fault = some e := by
  cases fault <;> simp

lemma okUnless_map (f : α → β) :
    (okUnless fault a >>= fun x => pure (f x)) = okUnless fault (f a) := by
  cases fault <;> rfl

end okUnless

/-- The first thing that is found in a list is what it is for some element and for no element before
that one. -/
lemma findSome?_eq_some_iff_first {α β : Type} {f : α → Option β} {R : α → β → Prop}
    (hf : ∀ x y, f x = some y ↔ R x y) {xs : List α} {y : β} :
    xs.findSome? f = some y ↔ ∃ before x after, xs = before ++ x :: after ∧
      (∀ b ∈ before, ∀ y, ¬ R b y) ∧ R x y := by
  have hnone (x : α) : f x = none ↔ ∀ y, ¬ R x y := by
    simp only [Option.eq_none_iff_forall_ne_some, ne_eq, hf]
  rw [List.findSome?_eq_some_iff]
  simp only [hnone, hf, and_comm]

end PromptGraph
