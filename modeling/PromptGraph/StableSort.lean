/-!
Sorting a list by numbers that its elements have. Elements of one number keep their order.

The sorted list is a permutation of the list, its numbers ascend, and the elements of any one
number stand in it as they stood.
-/

namespace PromptGraph

variable {α : Type} (key : α → Nat)

/-- Puts an element in front of the first one whose number is not smaller. -/
def insertOn (x : α) : List α → List α
  | [] => [x]
  | y :: ys => if key x ≤ key y then x :: y :: ys else y :: insertOn x ys

def sortOn (xs : List α) : List α := xs.foldr (insertOn key) []

@[simp] theorem sortOn_nil : sortOn key ([] : List α) = [] := rfl

@[simp] theorem sortOn_cons (x : α) (xs : List α) :
    sortOn key (x :: xs) = insertOn key x (sortOn key xs) := rfl

theorem insertOn_perm (x : α) (xs : List α) : (insertOn key x xs).Perm (x :: xs) := by
  induction xs with
  | nil => simp [insertOn]
  | cons y ys ih =>
    unfold insertOn
    split
    · exact .refl _
    · exact (ih.cons y).trans (.swap x y ys)

theorem sortOn_perm (xs : List α) : (sortOn key xs).Perm xs := by
  induction xs with
  | nil => exact .refl _
  | cons x xs ih => exact (insertOn_perm key x _).trans (ih.cons x)

section order

variable {R : α → α → Prop}

/-- In order of the numbers, and for one number in an order `R`. -/
def InOrder (R : α → α → Prop) (a b : α) : Prop := key a < key b ∨ (key a = key b ∧ R a b)

theorem pairwise_insertOn {x : α} {xs : List α} (hx : ∀ y ∈ xs, R x y)
    (h : xs.Pairwise (InOrder key R)) : (insertOn key x xs).Pairwise (InOrder key R) := by
  induction xs with
  | nil => simp [insertOn]
  | cons y ys ih =>
    obtain ⟨hy, hys⟩ := List.pairwise_cons.1 h
    unfold insertOn
    split
    · rename_i hxy
      refine List.pairwise_cons.2 ⟨fun z hz => ?_, h⟩
      have hxz : key x ≤ key z := by
        rcases List.mem_cons.1 hz with rfl | hz
        · exact hxy
        · rcases hy z hz with hlt | ⟨heq, -⟩ <;> omega
      rcases Nat.lt_or_eq_of_le hxz with hlt | heq
      · exact .inl hlt
      · exact .inr ⟨heq, hx z hz⟩
    · rename_i hxy
      have hx := fun z hz => hx z (List.mem_cons_of_mem y hz)
      refine List.pairwise_cons.2 ⟨fun z hz => ?_, ih hx hys⟩
      rcases List.mem_cons.1 ((insertOn_perm key x ys).mem_iff.1 hz) with rfl | hz
      · exact .inl (Nat.lt_of_not_le hxy)
      · exact hy z hz

/-- Elements of one number stay in the order that the list has. -/
theorem pairwise_inOrder_sortOn {xs : List α} (h : xs.Pairwise R) :
    (sortOn key xs).Pairwise (InOrder key R) := by
  induction xs with
  | nil => exact .nil
  | cons x xs ih =>
    obtain ⟨hx, hxs⟩ := List.pairwise_cons.1 h
    exact pairwise_insertOn key (fun y hy => hx y ((sortOn_perm key xs).mem_iff.1 hy)) (ih hxs)

theorem pairwise_sortOn (xs : List α) : (sortOn key xs).Pairwise fun a b => key a ≤ key b := by
  have hall : xs.Pairwise fun _ _ => True := List.pairwise_of_forall fun _ _ => trivial
  refine (pairwise_inOrder_sortOn key hall).imp fun {a b} hab => ?_
  rcases hab with hlt | ⟨heq, -⟩ <;> omega

end order

section map

variable {β : Type} (f : β → α)

theorem insertOn_map (x : β) (xs : List β) :
    insertOn key (f x) (xs.map f) = (insertOn (fun b => key (f b)) x xs).map f := by
  induction xs with
  | nil => rfl
  | cons y ys ih =>
    rw [List.map_cons, insertOn, insertOn]
    split
    · rfl
    · rw [ih, List.map_cons]

/-- What has the number of something else is sorted as that is. -/
theorem sortOn_map (xs : List β) :
    sortOn key (xs.map f) = (sortOn (fun b => key (f b)) xs).map f := by
  induction xs with
  | nil => rfl
  | cons x xs ih => rw [List.map_cons, sortOn_cons, sortOn_cons, ih, insertOn_map]

end map

end PromptGraph
