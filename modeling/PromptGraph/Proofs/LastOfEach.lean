import Mathlib.Data.List.Sort
import PromptGraph.Json.Literal

/-!
Lists of pairs in which the last pair of a key counts, and the maps that they become.
-/

namespace PromptGraph

section

variable {κ ι β : Type} [DecidableEq κ] [DecidableEq ι] {ps : List (κ × β)}

/-- The pairs of a list whose key no later pair has. -/
def lastOfEach (ps : List (κ × β)) : List (κ × β) := ps.pwFilter fun p q => p.1 ≠ q.1

lemma lastOfEach_cons (p : κ × β) (ps : List (κ × β)) :
    lastOfEach (p :: ps) = if p.1 ∈ ps.map Prod.fst then lastOfEach ps else p :: lastOfEach ps := by
  have hkeys : (∀ q ∈ lastOfEach ps, p.1 ≠ q.1) ↔ p.1 ∉ ps.map Prod.fst := by
    rw [lastOfEach, List.forall_mem_pwFilter]
    · simp only [List.mem_map, not_exists, not_and]
      exact forall₂_congr fun q _ => ne_comm
    · intro x y z hxz
      by_contra h
      rw [not_or, not_not, not_not] at h
      exact hxz (h.1.trans h.2)
  split
  · exact List.pwFilter_cons_of_neg fun h => hkeys.1 h ‹_›
  · exact List.pwFilter_cons_of_pos (hkeys.2 ‹_›)

lemma lastOfEach_sublist (ps : List (κ × β)) : (lastOfEach ps).Sublist ps :=
  List.pwFilter_sublist ps

lemma lastOfEach_eq_self_iff : lastOfEach ps = ps ↔ (ps.map Prod.fst).Nodup := by
  rw [lastOfEach, List.pwFilter_eq_self, List.Nodup, List.pairwise_map]

/-- All pairs are kept just where no key occurs twice. -/
lemma length_lastOfEach_eq_iff : (lastOfEach ps).length = ps.length ↔ (ps.map Prod.fst).Nodup := by
  rw [← lastOfEach_eq_self_iff]
  exact ⟨(lastOfEach_sublist ps).eq_of_length, congrArg List.length⟩

/-- Keys may be renamed one to one. -/
lemma lastOfEach_map {f : κ → ι} (hf : f.Injective) (ps : List (κ × β)) :
    lastOfEach (ps.map (Prod.map f id)) = (lastOfEach ps).map (Prod.map f id) := by
  simp only [lastOfEach, List.pwFilter_map, Prod.map_fst, hf.ne_iff]

end

namespace NameMap

variable {α : Type}

lemma getElem?_insertMany_eq_some_iff {l : List (String × α)} {m : NameMap α} {name : String}
    {a : α} : (m.insertMany l)[name]? = some a ↔
      (name, a) ∈ lastOfEach l ∨ (name ∉ l.map Prod.fst ∧ m[name]? = some a) := by
  induction l generalizing m with
  | nil => simp [lastOfEach]
  | cons p l ih =>
    obtain ⟨n, b⟩ := p
    rw [Std.ExtTreeMap.insertMany_cons, ih, Std.ExtTreeMap.getElem?_insert, lastOfEach_cons]
    simp only [Std.LawfulEqOrd.compare_eq_iff_eq, List.map_cons, List.mem_cons, not_or]
    by_cases hn : n = name
    · subst hn
      by_cases hlater : n ∈ l.map Prod.fst
      · simp [hlater]
      · have hlast : (n, a) ∉ lastOfEach l := fun h =>
          hlater (List.mem_map_of_mem (f := Prod.fst) ((lastOfEach_sublist l).subset h))
        simp [hlater, hlast, eq_comm]
    · have hname : ¬ name = n := fun h => hn h.symm
      by_cases hlater : n ∈ l.map Prod.fst <;> simp [hlater, hn, hname]

/-- Of the pairs of one name the last counts. -/
lemma getElem?_ofList_eq_some_iff {l : List (String × α)} {name : String} {a : α} :
    (Std.ExtTreeMap.ofList l)[name]? = some a ↔ (name, a) ∈ lastOfEach l := by
  rw [Std.ExtTreeMap.ofList_eq_insertMany_empty, getElem?_insertMany_eq_some_iff]
  simp

section order

variable {p q : String × α} {l l' : List (String × α)}

lemma ofList_eq_iff : Std.ExtTreeMap.ofList l = (Std.ExtTreeMap.ofList l' : NameMap α) ↔
    ∀ p, p ∈ lastOfEach l ↔ p ∈ lastOfEach l' := by
  simp only [Prod.forall, ← getElem?_ofList_eq_some_iff]
  constructor
  · intro h name a
    rw [h]
  · exact fun h => Std.ExtTreeMap.ext_getElem? fun name => Option.ext (h name)

lemma mem_ofList_iff {name : String} :
    name ∈ (Std.ExtTreeMap.ofList l : NameMap α) ↔ name ∈ l.map Prod.fst := by
  simp

lemma ofList_cons_of_mem (h : p.1 ∈ l.map Prod.fst) :
    Std.ExtTreeMap.ofList (p :: l) = (Std.ExtTreeMap.ofList l : NameMap α) := by
  rw [ofList_eq_iff, lastOfEach_cons, if_pos h]
  simp

lemma ofList_cons_congr
    (h : Std.ExtTreeMap.ofList l = (Std.ExtTreeMap.ofList l' : NameMap α)) :
    Std.ExtTreeMap.ofList (p :: l) = (Std.ExtTreeMap.ofList (p :: l') : NameMap α) := by
  have hkeys : p.1 ∈ l.map Prod.fst ↔ p.1 ∈ l'.map Prod.fst := by
    rw [← mem_ofList_iff, h, mem_ofList_iff]
  have hmem := ofList_eq_iff.1 h
  rw [ofList_eq_iff, lastOfEach_cons, lastOfEach_cons]
  intro x
  by_cases hp : p.1 ∈ l'.map Prod.fst
  · rw [if_pos hp, if_pos (hkeys.2 hp), hmem]
  · rw [if_neg hp, if_neg (mt hkeys.1 hp), List.mem_cons, List.mem_cons, hmem]

lemma ofList_swap (h : p.1 ≠ q.1) :
    Std.ExtTreeMap.ofList (p :: q :: l) = (Std.ExtTreeMap.ofList (q :: p :: l) : NameMap α) := by
  rw [ofList_eq_iff]
  intro x
  simp only [lastOfEach_cons, List.map_cons, List.mem_cons, h, h.symm, false_or]
  split_ifs <;> simp only [List.mem_cons, or_left_comm]

end order

/-- A list whose names ascend is the list of its map. -/
lemma toList_ofList {l : List (String × α)}
    (hl : l.Pairwise fun p q => compare p.1 q.1 = .lt) : (Std.ExtTreeMap.ofList l).toList = l := by
  have hdistinct : (l.map Prod.fst).Nodup :=
    List.pairwise_map.2 (hl.imp fun hlt heq => by simp [heq] at hlt)
  have hirrefl : Std.Irrefl fun p q : String × α => compare p.1 q.1 = .lt := ⟨fun p => by simp⟩
  have hantisymm : Std.Antisymm fun p q : String × α => compare p.1 q.1 = .lt :=
    ⟨fun p q hpq hqp => by
      rw [Std.OrientedOrd.eq_swap, hpq] at hqp
      cases hqp⟩
  refine Std.ExtTreeMap.ordered_keys_toList.eq_of_mem_iff hl fun p => ?_
  rw [Std.ExtTreeMap.mem_toList_iff_getElem?_eq_some, getElem?_ofList_eq_some_iff,
    lastOfEach_eq_self_iff.2 hdistinct]

lemma ofList_toList (m : NameMap α) : Std.ExtTreeMap.ofList m.toList = m :=
  Std.ExtTreeMap.toList_inj.1 (toList_ofList Std.ExtTreeMap.ordered_keys_toList)

end NameMap

namespace Json

mutual

/-- A document in normal form is its own normal form. -/
lemma normalize_eq_self : ∀ {j : Json}, j.Normal → j.normalize = j
  | .array xs, h => congrArg array (normalizeItems_eq_self h)
  | .object ms, ⟨hascending, hms⟩ => by
    rw [normalize, normalizeMembers_eq_self hms, NameMap.toList_ofList hascending]
  | .null, _ | .bool _, _ | .number _, _ | .string _, _ => by simp [normalize]

lemma normalizeItems_eq_self : ∀ {xs : List Json}, ItemsNormal xs → normalizeItems xs = xs
  | [], _ => rfl
  | x :: xs, ⟨hx, hxs⟩ => by
    rw [normalizeItems, normalize_eq_self hx, normalizeItems_eq_self hxs]

lemma normalizeMembers_eq_self :
    ∀ {ms : List (String × Json)}, MembersNormal ms → normalizeMembers ms = ms
  | [], _ => rfl
  | (k, v) :: ms, ⟨hv, hms⟩ => by
    rw [normalizeMembers, normalize_eq_self hv, normalizeMembers_eq_self hms]

end

end Json

lemma Literal.ofJson_json (v : Literal) : ofJson v.json = v :=
  Literal.ext (Json.normalize_eq_self v.normal)

end PromptGraph
