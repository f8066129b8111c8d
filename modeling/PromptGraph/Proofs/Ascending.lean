import Mathlib.Data.String.Basic
import Mathlib.Order.Bounds.Defs
import PromptGraph.Proofs.FirstFault
import PromptGraph.Proofs.LastOfEach

/-!
Maps from names are gone through in the order of names. What is wrong first is wrong with the
smallest name with which anything is wrong.
-/

namespace PromptGraph

variable {α ε : Type}

/-- In a list whose names ascend the first fault is that of the smallest name. -/
lemma findSome?_eq_some_iff_least {l : List (String × α)} (hl : l.Pairwise fun p q => p.1 < q.1)
    {f : String × α → Option ε} {R : String × α → ε → Prop} (hf : ∀ p e, f p = some e ↔ R p e)
    {e : ε} : l.findSome? f = some e ↔
      ∃ p ∈ l, R p e ∧ ∀ q ∈ l, ∀ e', R q e' → p.1 ≤ q.1 := by
  rw [findSome?_eq_some_iff_first hf]
  constructor
  · rintro ⟨before, p, after, rfl, hbefore, hp⟩
    obtain ⟨-, hafter, -⟩ := List.pairwise_append.1 hl
    refine ⟨p, by simp, hp, fun q hq e' he' => ?_⟩
    rcases List.mem_append.1 hq with hq | hq
    · exact absurd he' (hbefore q hq e')
    · rcases List.mem_cons.1 hq with rfl | hq
      · exact le_rfl
      · exact ((List.pairwise_cons.1 hafter).1 q hq).le
  · rintro ⟨p, hp, he, hleast⟩
    obtain ⟨before, after, rfl⟩ := List.append_of_mem hp
    obtain ⟨-, -, hlt⟩ := List.pairwise_append.1 hl
    refine ⟨before, p, after, rfl, fun q hq e' he' => ?_, he⟩
    have hle := hleast q (List.mem_append_left _ hq) e' he'
    exact absurd (hlt q hq p List.mem_cons_self) hle.not_gt

namespace NameMap

variable {m : NameMap α}

lemma ascending_toList (m : NameMap α) : m.toList.Pairwise fun p q => p.1 < q.1 :=
  Std.ExtTreeMap.ordered_keys_toList.imp compare_lt_iff_lt.1

lemma mem_iff_exists {name : String} : name ∈ m ↔ ∃ a, m[name]? = some a := by
  rw [← Std.ExtTreeMap.isSome_getElem?_iff_mem, Option.isSome_iff_exists]

section faults

variable {f : String × α → Option ε} {R : String → α → ε → Prop}
  (hf : ∀ p e, f p = some e ↔ R p.1 p.2 e)
include hf

lemma findSome?_toList_eq_none_iff :
    m.toList.findSome? f = none ↔ ∀ name a, m[name]? = some a → ∀ e, ¬ R name a e := by
  rw [List.findSome?_eq_none_iff]
  simp only [Prod.forall, Option.eq_none_iff_forall_ne_some, ne_eq, hf,
    Std.ExtTreeMap.mem_toList_iff_getElem?_eq_some]

/-- The first fault in a map is that of the smallest faulty name. -/
lemma findSome?_toList_eq_some_iff {e : ε} : m.toList.findSome? f = some e ↔
    ∃ name a, m[name]? = some a ∧ R name a e ∧
      IsLeast {n | ∃ b, m[n]? = some b ∧ ∃ e', R n b e'} name := by
  rw [findSome?_eq_some_iff_least (ascending_toList m) hf]
  simp only [Prod.exists, Prod.forall, Std.ExtTreeMap.mem_toList_iff_getElem?_eq_some]
  constructor
  · rintro ⟨name, a, ha, he, hleast⟩
    exact ⟨name, a, ha, he, ⟨a, ha, e, he⟩, fun n ⟨b, hb, e', he'⟩ => hleast n b hb e' he'⟩
  · rintro ⟨name, a, ha, he, -, hleast⟩
    exact ⟨name, a, ha, he, fun n b hb e' he' => hleast ⟨b, hb, e', he'⟩⟩

end faults

end NameMap

end PromptGraph
