import Mathlib.Data.List.Nodup
import Mathlib.Tactic.Lemma
import Std.Data.ExtTreeMap

/-!
Arrays with an index of their keys.

What is added over time stands in an array, in order of time, and a map beside it leads from keys
to places. As long as only new keys are added, the map is a way to look up an element by its key.
-/

namespace PromptGraph

variable {α κ : Type}

/-- A place after one more element: one there was, or that of the new element. -/
lemma exists_getElem_push_iff {key : α → κ} {xs : Array α} {x : α} {k : κ} {i : Nat} :
    (∃ hi : i < (xs.push x).size, key (xs.push x)[i] = k) ↔
      (∃ hi : i < xs.size, key xs[i] = k) ∨ (i = xs.size ∧ key x = k) := by
  constructor
  · rintro ⟨hi, hk⟩
    rw [Array.getElem_push] at hk
    split at hk
    · exact .inl ⟨_, hk⟩
    · rw [Array.size_push] at hi
      exact .inr ⟨by omega, hk⟩
  · rintro (⟨hi, hk⟩ | ⟨rfl, hk⟩)
    · exact ⟨by rw [Array.size_push]; omega, by rwa [Array.getElem_push_lt hi]⟩
    · exact ⟨by simp, by simpa using hk⟩

variable [Ord κ] [Std.TransOrd κ]

/-- The map holds the place of every key of the array and nothing else. -/
def Indexed (key : α → κ) (xs : Array α) (places : Std.ExtTreeMap κ Nat) : Prop :=
  ∀ k i, places[k]? = some i ↔ ∃ hi : i < xs.size, key xs[i] = k

namespace Indexed

variable {key : α → κ} {xs : Array α} {places : Std.ExtTreeMap κ Nat} {k : κ}

lemma empty : Indexed key #[] ∅ := fun k i => by simp

/-- Looking up a key finds exactly the element that has it. -/
lemma find_eq_some_iff (h : Indexed key xs places) {x : α} :
    (places[k]?.bind fun place => xs[place]?) = some x ↔ x ∈ xs ∧ key x = k := by
  rw [Option.bind_eq_some_iff]
  constructor
  · rintro ⟨i, hplace, hx⟩
    obtain ⟨hi, hk⟩ := (h k i).1 hplace
    obtain ⟨_, rfl⟩ := Array.getElem?_eq_some_iff.1 hx
    exact ⟨Array.getElem_mem hi, hk⟩
  · rintro ⟨hx, hk⟩
    obtain ⟨i, hi, rfl⟩ := Array.mem_iff_getElem.1 hx
    exact ⟨i, (h k i).2 ⟨hi, hk⟩, Array.getElem?_eq_getElem hi⟩

lemma mem_iff (h : Indexed key xs places) : k ∈ places ↔ ∃ x ∈ xs, key x = k := by
  rw [Std.ExtTreeMap.mem_iff_isSome_getElem?, Option.isSome_iff_exists]
  constructor
  · rintro ⟨i, hplace⟩
    obtain ⟨hi, hk⟩ := (h k i).1 hplace
    exact ⟨xs[i], Array.getElem_mem hi, hk⟩
  · rintro ⟨x, hx, hk⟩
    obtain ⟨i, hi, rfl⟩ := Array.mem_iff_getElem.1 hx
    exact ⟨i, (h k i).2 ⟨hi, hk⟩⟩

/-- Two places with one key would both be the place of that key. -/
lemma nodup (h : Indexed key xs places) : (xs.toList.map key).Nodup := by
  rw [List.nodup_iff_injective_getElem]
  rintro ⟨i, hi⟩ ⟨j, hj⟩ hij
  simp only [List.length_map, Array.length_toList] at hi hj
  simp only [List.getElem_map, Array.getElem_toList] at hij
  have hplace := (h (key xs[j]) i).2 ⟨hi, hij⟩
  rw [(h (key xs[j]) j).2 ⟨hj, rfl⟩, Option.some.injEq] at hplace
  exact Fin.ext hplace.symm

/-- An element with a new key takes the next place. -/
lemma push [Std.LawfulEqOrd κ] (h : Indexed key xs places) {x : α}
    (hfresh : ∀ y ∈ xs, key y ≠ key x) :
    Indexed key (xs.push x) (places.insert (key x) xs.size) := by
  intro k i
  rw [exists_getElem_push_iff, Std.ExtTreeMap.getElem?_insert]
  by_cases hk : key x = k
  · have hnone : ¬ ∃ hi : i < xs.size, key xs[i] = k := by
      rintro ⟨hi, hi'⟩
      exact hfresh _ (Array.getElem_mem hi) (hi'.trans hk.symm)
    simp only [hk, Std.ReflOrd.compare_self, ↓reduceIte, hnone, false_or, and_true,
      Option.some.injEq]
    exact eq_comm
  · simp [hk, h k i]

end Indexed

end PromptGraph
