import Mathlib.Order.MinMax
import PromptGraph.Json.Reader
import PromptGraph.Proofs.Json.Numerals

/-!
What holds of everything that readers accept.

A value that is read nests no deeper than its reader may go; a map that is read consists of values
that are read one level below; and what every field of a record keeps, reading the record keeps.
-/

namespace PromptGraph.Json

lemma membersDepth_le_iff {ms : List (String × Json)} {n : Nat} :
    membersDepth ms ≤ n ↔ ∀ p ∈ ms, p.2.depth ≤ n := by
  induction ms with
  | nil => simp [membersDepth]
  | cons p ms ih => simp [membersDepth, ih]

mutual

/-- The normal form of a document nests no deeper. -/
lemma depth_normalize_le : ∀ j : Json, j.normalize.depth ≤ j.depth
  | .array xs => by
    rw [normalize, depth, depth]
    exact Nat.succ_le_succ (itemsDepth_normalizeItems_le xs)
  | .object ms => by
    rw [normalize, depth, depth]
    refine Nat.succ_le_succ (membersDepth_le_iff.2 ?_)
    exact NameMap.forall_mem_toList_ofList (P := fun v : Json => v.depth ≤ membersDepth ms)
      (membersDepth_le_iff.1 (membersDepth_normalizeMembers_le ms))
  | .null | .bool _ | .number _ | .string _ => by simp [normalize]

lemma itemsDepth_normalizeItems_le :
    ∀ xs : List Json, itemsDepth (normalizeItems xs) ≤ itemsDepth xs
  | [] => le_rfl
  | x :: xs => max_le_max (depth_normalize_le x) (itemsDepth_normalizeItems_le xs)

lemma membersDepth_normalizeMembers_le :
    ∀ ms : List (String × Json), membersDepth (normalizeMembers ms) ≤ membersDepth ms
  | [] => le_rfl
  | (_, v) :: ms => max_le_max (depth_normalize_le v) (membersDepth_normalizeMembers_le ms)

end

namespace Draft

mutual

/-- A document that is read nests no deeper than it may. -/
lemma depth_le_of_json : ∀ {d : Draft} {levels : Nat} {j : Json}, d.json levels = .ok j →
    j.depth ≤ levels
  | .null _, levels, j, h => by
    simp only [json, Except.ok.injEq] at h
    simp [← h, depth]
  | .bool _ _, levels, j, h => by
    simp only [json, Except.ok.injEq] at h
    simp [← h, depth]
  | .number n start rest, levels, j, h => by
    rw [json] at h
    obtain ⟨x, -, rfl⟩ := map_eq_ok_iff.1 h
    exact Nat.zero_le _
  | .text t, levels, j, h => by
    rw [json] at h
    obtain ⟨s, -, rfl⟩ := map_eq_ok_iff.1 h
    exact Nat.zero_le _
  | .array start ds ending, 0, j, h => by simp [json] at h
  | .array start ds ending, levels + 1, j, h => by
    rw [json] at h
    obtain ⟨xs, hxs, rfl⟩ := map_eq_ok_iff.1 h
    exact Nat.succ_le_succ (itemsDepth_le_of_itemsJson hxs)
  | .object start ms ending, 0, j, h => by simp [json] at h
  | .object start ms ending, levels + 1, j, h => by
    rw [json] at h
    obtain ⟨ns, hns, rfl⟩ := map_eq_ok_iff.1 h
    exact Nat.succ_le_succ (membersDepth_le_of_membersJson hns)
  | .broken why, levels, j, h => by simp [json] at h

lemma itemsDepth_le_of_itemsJson : ∀ {ds : List Draft} {levels : Nat} {ending : Ending}
    {xs : List Json}, itemsJson levels ending ds = .ok xs → itemsDepth xs ≤ levels
  | [], levels, ending, xs, h => by
    obtain ⟨rest, -, rfl⟩ := map_eq_ok_iff.1 h
    exact Nat.zero_le _
  | d :: ds, levels, ending, xs, h => by
    obtain ⟨y, hy, h⟩ := bind_eq_ok_iff.1 h
    obtain ⟨ys, hys, h⟩ := bind_eq_ok_iff.1 h
    cases h
    exact max_le (depth_le_of_json hy) (itemsDepth_le_of_itemsJson hys)

lemma membersDepth_le_of_membersJson : ∀ {ms : List (RawText × Draft)} {levels : Nat}
    {ending : Ending} {ns : List (String × Json)},
    membersJson levels ending ms = .ok ns → membersDepth ns ≤ levels
  | [], levels, ending, ns, h => by
    obtain ⟨rest, -, rfl⟩ := map_eq_ok_iff.1 h
    exact Nat.zero_le _
  | (key, d) :: ms, levels, ending, ns, h => by
    obtain ⟨k, -, h⟩ := bind_eq_ok_iff.1 h
    obtain ⟨v, hv, h⟩ := bind_eq_ok_iff.1 h
    obtain ⟨vs, hvs, h⟩ := bind_eq_ok_iff.1 h
    cases h
    exact max_le (depth_le_of_json hv) (membersDepth_le_of_membersJson hvs)

end

end Draft

namespace Reader

variable {α : Type} {d : Draft} {levels : Nat}

lemma refuse_ne_ok (expected : Expected) (d : Draft) (a : α) :
    (refuse expected d : Except ReadError α) ≠ .ok a := by
  intro h
  obtain ⟨⟨x, place⟩, -, h⟩ := bind_eq_ok_iff.1 h
  cases h

lemma depth_le_of_literal {v : Literal} (h : literal levels d = .ok v) : v.json.depth ≤ levels := by
  obtain ⟨j, hj, rfl⟩ := map_eq_ok_iff.1 h
  exact (depth_normalize_le j).trans (Draft.depth_le_of_json (mapError_eq_ok_iff.1 hj))

/-- The values of a map are read one level below it. -/
lemma exists_of_nameMap {read : Reader α} {m : NameMap α}
    (h : nameMap read (levels + 1) d = .ok m) : ∀ p ∈ m.toList, ∃ d, read levels d = .ok p.2 := by
  obtain ⟨l, hl, rfl⟩ := map_eq_ok_iff.1 h
  refine NameMap.forall_mem_toList_ofList (P := fun a => ∃ d, read levels d = .ok a) fun p hp => ?_
  unfold members at hl
  split at hl
  · obtain ⟨ms, hms, hl⟩ := bind_eq_ok_iff.1 hl
    obtain ⟨-, -, hl⟩ := bind_eq_ok_iff.1 hl
    cases hl
    obtain ⟨⟨key, d⟩, -, hd⟩ := exists_of_forall₂ (List.Forall₂.flip (mapM_eq_ok_iff.1 hms)) p hp
    obtain ⟨k, -, hd⟩ := bind_eq_ok_iff.1 hd
    obtain ⟨v, hv, hd⟩ := bind_eq_ok_iff.1 hd
    cases hd
    exact ⟨d, hv⟩
  · exact absurd hl (refuse_ne_ok _ _ _)

end Reader

namespace Record

variable {σ : Type} {r : Record σ} {levels : Nat} {P : σ → Prop}

lemma readMembers_invariant
    (hfields : ∀ field ∈ r.fields, ∀ d x y, P x → field.read levels d x = .ok y → P y)
    {ms : List (RawText × Draft)} {seen seen' : List String} {x y : σ} (hx : P x)
    (h : r.readMembers levels ms seen x = .ok (seen', y)) : P y := by
  induction ms generalizing seen x with
  | nil =>
    rw [readMembers] at h
    cases h
    exact hx
  | cons m ms ih =>
    obtain ⟨key, d⟩ := m
    rw [readMembers] at h
    obtain ⟨name, -, h⟩ := bind_eq_ok_iff.1 h
    split at h
    · split at h
      · cases h
      · exact ih hx h
    · rename_i field hfield
      split at h
      · obtain ⟨rest, -, h⟩ := bind_eq_ok_iff.1 h
        cases h
      · obtain ⟨z, hz, h⟩ := bind_eq_ok_iff.1 h
        exact ih (hfields field (List.mem_of_find?_eq_some hfield) d x z hx hz) h

lemma readItems_invariant {ending : Ending} {fields : List (Field σ)}
    (hfields : ∀ field ∈ fields, ∀ d x y, P x → field.read levels d x = .ok y → P y)
    {position : Nat} {ds : List Draft} {rest : List Char} {x y : σ} (hx : P x)
    (h : r.readItems levels ending fields position ds rest x = .ok y) : P y := by
  induction fields generalizing position ds rest x with
  | nil =>
    rw [readItems] at h
    obtain ⟨-, -, rfl⟩ := map_eq_ok_iff.1 (mapError_eq_ok_iff.1 h)
    exact hx
  | cons field fields ih =>
    have hfields' := fun f hf => hfields f (List.mem_cons_of_mem field hf)
    cases ds with
    | nil =>
      rw [readItems] at h
      obtain ⟨after, -, h⟩ := bind_eq_ok_iff.1 h
      split at h
      · cases h
      · exact ih hfields' hx h
    | cons d ds =>
      rw [readItems] at h
      obtain ⟨z, hz, h⟩ := bind_eq_ok_iff.1 h
      obtain ⟨rest, -, h⟩ := bind_eq_ok_iff.1 h
      exact ih hfields' (hfields field List.mem_cons_self d x z hx hz) h

/-- What every field keeps, the record keeps, be it written as an object or as an array. -/
lemma read_invariant (hstart : P r.start)
    (hfields : ∀ field ∈ r.fields, ∀ d x y, P x → field.read levels d x = .ok y → P y)
    {d : Draft} {x : σ} (h : r.read (levels + 1) d = .ok x) : P x := by
  unfold read at h
  split at h
  · obtain ⟨⟨seen, y⟩, hy, h⟩ := bind_eq_ok_iff.1 h
    obtain ⟨rest, -, h⟩ := bind_eq_ok_iff.1 h
    split at h
    · cases h
    · cases h
      exact readMembers_invariant hfields hstart hy
  · exact readItems_invariant hfields hstart h
  · exact absurd h (Reader.refuse_ne_ok _ _ _)

end Record

end PromptGraph.Json
