/-!
Two elements of a list that share a key.
-/

namespace PromptGraph

variable {α κ : Type} [DecidableEq κ]

/-- The first element whose key is the key of an element seen before, after that element. -/
def clashFrom? (key : α → κ) : List α → List α → Option (α × α)
  | _, [] => none
  | seen, x :: xs =>
    match seen.find? (key · == key x) with
    | some earlier => some (earlier, x)
    | none => clashFrom? key (x :: seen) xs

/-- The first element of a list that repeats a key, after the element that has the key already. -/
def clash? (key : α → κ) (xs : List α) : Option (α × α) := clashFrom? key [] xs

theorem clashFrom?_eq_none_iff {key : α → κ} {seen xs : List α} :
    clashFrom? key seen xs = none ↔
      (∀ x ∈ xs, ∀ y ∈ seen, key y ≠ key x) ∧ (xs.map key).Nodup := by
  induction xs generalizing seen with
  | nil => simp [clashFrom?]
  | cons x xs ih =>
    unfold clashFrom?
    split
    · rename_i y h
      have hy := List.mem_of_find?_eq_some h
      have hk : key y = key x := by simpa using List.find?_some h
      simp only [reduceCtorEq, List.mem_cons, forall_eq_or_imp, false_iff, not_and]
      exact fun hx => absurd hk (hx.1 y hy)
    · rename_i h
      have hs : ∀ y ∈ seen, key y ≠ key x := by simpa using h
      rw [ih]
      simp only [List.mem_cons, forall_eq_or_imp, List.map_cons, List.nodup_cons, List.mem_map,
        not_exists, not_and]
      grind

/-- No two elements clash exactly if their keys are pairwise distinct. -/
theorem clash?_eq_none_iff {key : α → κ} {xs : List α} :
    clash? key xs = none ↔ (xs.map key).Nodup := by
  simp [clash?, clashFrom?_eq_none_iff]

end PromptGraph
