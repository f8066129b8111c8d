import PromptGraph.Prompt.Document
import PromptGraph.Proofs.Json.Accepted
import PromptGraph.Proofs.Json.Printed

/-!
Prompts that are loaded, saved and loaded again.

A key of a prompt is any decimal spelling of an id, and several keys may spell one. A prompt that is
loaded from such a text has several entries under one id. When it is saved all of them get the same
key, and only the last of them is there when it is loaded again.
-/

namespace PromptGraph

open Json

/-! ### Keys -/

/-- The id that a key of a prompt spells. -/
def NodeId.ofKey? (key : String) : Option NodeId :=
  (Digits.readUpTo? (UInt64.size - 1) key).map UInt64.ofNat

lemma NodeId.ofKey?_toString (id : NodeId) : ofKey? (toString id) = some id := by
  have htext : (toString id).toList = Digits.write id.toNat := Nat.toList_repr
  have hbound : id.toNat ≤ UInt64.size - 1 := Nat.le_sub_one_of_lt id.toNat_lt
  have hread : Digits.readUpTo? (UInt64.size - 1) (toString id) = some id.toNat := by
    unfold Digits.readUpTo?
    split
    · rename_i cs hplus
      have hdigit : '+'.isDigit :=
        Digits.isDigit_of_mem_write (htext ▸ hplus ▸ List.mem_cons_self)
      exact absurd hdigit (by decide)
    · simp only [htext, Digits.read?_write, Option.filter_some, hbound, decide_true, if_true]
  rw [ofKey?, hread, Option.map_some, UInt64.ofNat_toNat]

lemma NodeId.toString_injective : (toString : NodeId → String).Injective := fun i j h =>
  Option.some.inj (by rw [← ofKey?_toString i, h, ofKey?_toString])

namespace Prompt

lemma readIds_cons (key : String) (e : PromptEntry) (l : List (String × PromptEntry)) :
    readIds ((key, e) :: l) = match NodeId.ofKey? key with
      | none => .error ⟨.badNodeId key, none⟩
      | some id => (readIds l).map ((id, e) :: ·) := by
  rw [readIds, NodeId.ofKey?]
  cases Digits.readUpTo? (UInt64.size - 1) key <;> rfl

/-- The ids of keys are read one by one. -/
lemma readIds_eq_ok_iff {l : List (String × PromptEntry)} {es : List (NodeId × PromptEntry)} :
    readIds l = .ok es ↔ l.map (fun p => (NodeId.ofKey? p.1).map (·, p.2)) = es.map some := by
  induction l generalizing es with
  | nil => cases es <;> simp [readIds]
  | cons p l ih =>
    obtain ⟨key, e⟩ := p
    rw [readIds_cons, List.map_cons]
    cases NodeId.ofKey? key with
    | none => cases es <;> simp
    | some id =>
      rw [map_eq_ok_iff]
      cases es with
      | nil => simp
      | cons q es =>
        simp only [List.cons.injEq, Option.map_some, Option.some.injEq, List.map_cons]
        constructor
        · rintro ⟨es, hes, rfl, rfl⟩
          exact ⟨rfl, ih.1 hes⟩
        · rintro ⟨rfl, hes⟩
          exact ⟨es, ih.2 hes, rfl, rfl⟩

lemma mem_of_readIds {l : List (String × PromptEntry)} {es : List (NodeId × PromptEntry)}
    (h : readIds l = .ok es) {id : NodeId} {e : PromptEntry} :
    (id, e) ∈ es ↔ ∃ key, (key, e) ∈ l ∧ NodeId.ofKey? key = some id := by
  have hmem : (id, e) ∈ es ↔ some (id, e) ∈ es.map some := by simp
  rw [hmem, ← readIds_eq_ok_iff.1 h, List.mem_map]
  simp only [Option.map_eq_some_iff, Prod.mk.injEq, Prod.exists]
  constructor
  · rintro ⟨key, e, hp, _, hkey, rfl, rfl⟩
    exact ⟨key, hp, hkey⟩
  · rintro ⟨key, hp, hkey⟩
    exact ⟨key, e, hp, id, hkey, rfl, rfl⟩

/-- The ids that are read are distinct just where no two keys spell one id. -/
lemma nodup_of_readIds {m : NameMap PromptEntry} {es : List (NodeId × PromptEntry)}
    (h : readIds m.toList = .ok es) : (es.map Prod.fst).Nodup ↔
      ∀ k ∈ m, ∀ l ∈ m, NodeId.ofKey? k = NodeId.ofKey? l → k = l := by
  have hids : (es.map Prod.fst).map some = m.keys.map NodeId.ofKey? := by
    have hes := congrArg (List.map (Option.map Prod.fst)) (readIds_eq_ok_iff.1 h)
    rw [← Std.ExtTreeMap.map_fst_toList_eq_keys, List.map_map, List.map_map]
    simpa [Function.comp_def] using hes.symm
  have hnodup : (es.map Prod.fst).Nodup ↔ ((es.map Prod.fst).map some).Nodup :=
    (List.nodup_map_iff (Option.some_injective _)).symm
  rw [hnodup, hids, List.nodup_map_iff_inj_on Std.ExtTreeMap.nodup_keys]
  simp only [Std.ExtTreeMap.mem_keys]

/-! ### The order of entries -/

lemma exists_of_ofKeyed {m : NameMap PromptEntry} {p : Prompt} (h : ofKeyed m = .ok p) :
    ∃ es, readIds m.toList = .ok es ∧ p.entries.Perm es ∧ p.ids.Pairwise (· ≤ ·) := by
  obtain ⟨es, hes, rfl⟩ := map_eq_ok_iff.1 h
  refine ⟨es, hes, sortOn_perm _ es, List.pairwise_map.2 ?_⟩
  exact (pairwise_sortOn (fun e : NodeId × PromptEntry => e.1.toNat) es).imp
    UInt64.le_iff_toNat_le.2

/-- The ids of a prompt are distinct just where no two of its keys spell one id. -/
lemma nodup_ids_iff {m : NameMap PromptEntry} {p : Prompt} (h : ofKeyed m = .ok p) :
    p.ids.Nodup ↔ ∀ k ∈ m, ∀ l ∈ m, NodeId.ofKey? k = NodeId.ofKey? l → k = l := by
  obtain ⟨es, hes, hperm, -⟩ := exists_of_ofKeyed h
  rw [ids, (hperm.map Prod.fst).nodup_iff, nodup_of_readIds hes]

lemma pairwise_lt_iff_nodup {is : List NodeId} (h : is.Pairwise (· ≤ ·)) :
    is.Pairwise (· < ·) ↔ is.Nodup :=
  ⟨fun hlt => hlt.imp UInt64.ne_of_lt, fun hnodup =>
    (h.and hnodup).imp fun hle => UInt64.lt_of_le_of_ne hle.1 hle.2⟩

/-- Prompts in strict order of ids that have the same entries are the same. -/
lemma eq_of_ascending {p q : Prompt} (hp : p.ids.Pairwise (· < ·)) (hq : q.ids.Pairwise (· < ·))
    (h : ∀ e, e ∈ p.entries ↔ e ∈ q.entries) : p = q := by
  have hirrefl : Std.Irrefl fun a b : NodeId × PromptEntry => a.1 < b.1 :=
    ⟨fun a => UInt64.lt_irrefl a.1⟩
  have hantisymm : Std.Antisymm fun a b : NodeId × PromptEntry => a.1 < b.1 :=
    ⟨fun a b hab hba => absurd hba (UInt64.lt_asymm hab)⟩
  exact congrArg Prompt.mk ((List.pairwise_map.1 hp).eq_of_mem_iff (List.pairwise_map.1 hq) h)

/-! ### The last entry of each id -/

/-- The entries whose id no later entry has. -/
def lastEntries (p : Prompt) : Prompt := ⟨lastOfEach p.entries⟩

lemma lastEntries_eq_self_iff {p : Prompt} : p.lastEntries = p ↔ p.ids.Nodup := by
  rw [ids, ← lastOfEach_eq_self_iff]
  exact ⟨congrArg entries, congrArg Prompt.mk⟩

lemma size_lastEntries_eq_iff {p : Prompt} : p.lastEntries.size = p.size ↔ p.ids.Nodup :=
  length_lastOfEach_eq_iff

lemma pairwise_lt_lastEntries {p : Prompt} (hp : p.ids.Pairwise (· ≤ ·)) :
    p.lastEntries.ids.Pairwise (· < ·) := by
  refine (pairwise_lt_iff_nodup (hp.sublist ?_)).2 ?_
  · exact (lastOfEach_sublist p.entries).map Prod.fst
  · exact List.pairwise_map.2 (List.pairwise_pwFilter p.entries)

/-- The entries of a prompt under their decimal ids. -/
def keyed (p : Prompt) : NameMap PromptEntry := .ofList (p.entries.map (Prod.map toString id))

lemma getElem?_keyed_eq_some_iff {p : Prompt} {key : String} {e : PromptEntry} :
    p.keyed[key]? = some e ↔ ∃ id, (id, e) ∈ p.lastEntries.entries ∧ toString id = key := by
  rw [keyed, NameMap.getElem?_ofList_eq_some_iff, lastOfEach_map NodeId.toString_injective]
  simp [lastEntries]

/-- Every key spells the id that it was made of. -/
lemma exists_id_of_mem_keyed {p : Prompt} {key : String} (h : key ∈ p.keyed) :
    ∃ id : NodeId, toString id = key ∧ NodeId.ofKey? key = some id := by
  obtain ⟨e, he⟩ := Option.isSome_iff_exists.1 (Std.ExtTreeMap.isSome_getElem?_iff_mem.2 h)
  obtain ⟨id, -, rfl⟩ := getElem?_keyed_eq_some_iff.1 he
  exact ⟨id, rfl, NodeId.ofKey?_toString id⟩

lemma exists_readIds_keyed (p : Prompt) : ∃ es, readIds p.keyed.toList = .ok es ∧
    ∀ e, e ∈ es ↔ e ∈ p.lastEntries.entries := by
  obtain ⟨es, hes⟩ : ∃ es, readIds p.keyed.toList = .ok es := by
    refine ⟨p.keyed.toList.map fun q => ((NodeId.ofKey? q.1).getD 0, q.2),
      readIds_eq_ok_iff.2 ?_⟩
    rw [List.map_map]
    refine List.map_congr_left fun q hq => ?_
    have hkey := Std.ExtTreeMap.mem_toList_iff_getElem?_eq_some.1 hq
    obtain ⟨id, -, hid⟩ := getElem?_keyed_eq_some_iff.1 hkey
    simp [← hid, NodeId.ofKey?_toString]
  refine ⟨es, hes, fun ⟨id, e⟩ => ?_⟩
  rw [mem_of_readIds hes]
  simp only [Std.ExtTreeMap.mem_toList_iff_getElem?_eq_some, getElem?_keyed_eq_some_iff]
  constructor
  · rintro ⟨_, ⟨id', he, rfl⟩, hid⟩
    rw [NodeId.ofKey?_toString, Option.some.injEq] at hid
    exact hid ▸ he
  · exact fun he => ⟨toString id, ⟨id, he, rfl⟩, NodeId.ofKey?_toString id⟩

/-- When the entries of a prompt are put under their decimal ids and read from there, the last one
of each id is left. -/
lemma ofKeyed_keyed {p : Prompt} (hp : p.ids.Pairwise (· ≤ ·)) :
    ofKeyed p.keyed = .ok p.lastEntries := by
  obtain ⟨es, hes, hmem⟩ := exists_readIds_keyed p
  obtain ⟨q, hq⟩ : ∃ q, ofKeyed p.keyed = .ok q := ⟨_, map_eq_ok_iff.2 ⟨es, hes, rfl⟩⟩
  obtain ⟨es', hes', hperm, hle⟩ := exists_of_ofKeyed hq
  obtain rfl : es = es' := Except.ok.inj (hes.symm.trans hes')
  have hnodup : q.ids.Nodup := (nodup_ids_iff hq).2 fun k hk l hl hkl => by
    obtain ⟨i, rfl, hi⟩ := exists_id_of_mem_keyed hk
    obtain ⟨j, rfl, hj⟩ := exists_id_of_mem_keyed hl
    rw [hi, hj, Option.some.injEq] at hkl
    rw [hkl]
  rw [hq, eq_of_ascending ((pairwise_lt_iff_nodup hle).2 hnodup) (pairwise_lt_lastEntries hp)
    fun e => hperm.mem_iff.trans (hmem e)]

end Prompt

/-! ### Reading what was written -/

section

variable {d : Draft} {levels : Nat}

lemma PromptMeta.read_of_says {m : PromptMeta} (h : d.Says m.toJson) :
    PromptMeta.read (levels + 1) d = .ok m := by
  rw [toJson, ← List.append_nil (Option.toList _)] at h
  refine Record.Fills.read_of_says (.optional PromptMeta.mk rfl (fun t _ d hd => ?_) (.nil _)) ?_
    rfl h
  · exact bind_eq_ok_iff.2 ⟨_, Reader.option_of_says hd nofun (Reader.string_of_says hd), rfl⟩
  · cases m.title <;> simp

/-- An entry is read from its document, where its inputs may nest two levels less. -/
lemma PromptEntry.read_of_says {e : PromptEntry} (h : d.Says e.toJson)
    (hdepth : ∀ p ∈ e.inputs.toList, p.2.json.depth ≤ levels) :
    PromptEntry.read (levels + 2) d = .ok e := by
  rw [toJson, ← List.append_nil (Option.toList _)] at h
  refine Record.Fills.read_of_says ?fills ?distinct ?missing h
  case fills =>
    refine .cons rfl (fun d hd => bind_eq_ok_iff.2 ⟨_, Reader.string_of_says hd, rfl⟩) ?_
    refine .cons rfl (fun d hd => bind_eq_ok_iff.2 ⟨_, Reader.nameMap_of_says hd fun p hp d hd =>
      Reader.literal_of_says hd (hdepth p hp), rfl⟩) ?_
    refine .optional (PromptEntry.mk e.classType e.inputs) rfl (fun m _ d hd => ?_) (.nil _)
    have hm : PromptMeta.read (levels + 1) d = .ok m := PromptMeta.read_of_says hd
    exact bind_eq_ok_iff.2 ⟨_, Reader.option_of_says hd nofun hm, rfl⟩
  case distinct => cases e.annotations <;> simp
  case missing => cases e.annotations <;> rfl

lemma PromptEntry.depth_le_of_read {e : PromptEntry} (h : PromptEntry.read (levels + 2) d = .ok e) :
    ∀ p ∈ e.inputs.toList, p.2.json.depth ≤ levels := by
  refine Record.read_invariant
    (P := fun e : PromptEntry => ∀ p ∈ e.inputs.toList, p.2.json.depth ≤ levels)
    (by simp [record]) (fun field hfield d x y hx hy => ?_) h
  simp only [record, List.mem_cons, List.not_mem_nil, or_false] at hfield
  obtain rfl | rfl | rfl := hfield
  · obtain ⟨s, -, hy⟩ := bind_eq_ok_iff.1 hy
    cases hy
    exact hx
  · obtain ⟨m, hm, hy⟩ := bind_eq_ok_iff.1 hy
    cases hy
    rintro p hp
    obtain ⟨d, hd⟩ := Reader.exists_of_nameMap hm p hp
    exact Reader.depth_le_of_literal hd
  · obtain ⟨m, -, hy⟩ := bind_eq_ok_iff.1 hy
    cases hy
    exact hx

namespace Prompt

/-- The document of a prompt is read as what is left of the prompt. -/
lemma read_of_says {p : Prompt} (h : d.Says p.toJson) (hp : p.ids.Pairwise (· ≤ ·))
    (hdepth : ∀ e ∈ p.entries, ∀ q ∈ e.2.inputs.toList, q.2.json.depth ≤ levels) :
    Prompt.read (levels + 3) d = .ok p.lastEntries := by
  have hsays : d.Says (.object
      ((p.entries.map (Prod.map toString id)).map fun (k, e) => (k, e.toJson))) := by
    rwa [List.map_map]
  have hmembers := Reader.members_of_says hsays fun q hq d hd => by
    obtain ⟨e, he, rfl⟩ := List.mem_map.1 hq
    exact PromptEntry.read_of_says hd (hdepth e he)
  exact bind_eq_ok_iff.2 ⟨_, map_eq_ok_iff.2 ⟨_, hmembers, rfl⟩, ofKeyed_keyed hp⟩

/-- What a prompt is read from is a map of entries under their keys. -/
lemma exists_of_ofText {text : String} {p : Prompt} (h : ofText text = .ok p) :
    ∃ m, (Reader.nameMap PromptEntry.read).ofText text = .ok m ∧ ofKeyed m = .ok p ∧
      ∀ e ∈ p.entries, ∀ q ∈ e.2.inputs.toList, q.2.json.depth ≤ 124 := by
  have hchars := mapError_eq_ok_iff.1 (mapError_eq_ok_iff.1 h)
  obtain ⟨p', hread, hrest⟩ := bind_eq_ok_iff.1 hchars
  obtain ⟨m, hm, hkeyed⟩ := bind_eq_ok_iff.1 hread
  split at hrest
  · rename_i hend
    cases hrest
    refine ⟨m, mapError_eq_ok_iff.2 (bind_eq_ok_iff.2 ⟨m, hm, ?_⟩), hkeyed, fun e he => ?_⟩
    · simp only [hend]
    · obtain ⟨es, hes, hperm, -⟩ := exists_of_ofKeyed hkeyed
      obtain ⟨key, hkey, -⟩ := (mem_of_readIds hes).1 (hperm.mem_iff.1 he)
      obtain ⟨d, hd⟩ := Reader.exists_of_nameMap hm (key, e.2) hkey
      exact PromptEntry.depth_le_of_read hd
  · cases hrest

/-- **Loading, saving and loading again.** The entries of a prompt that is loaded are in the order
of their ids. Their ids are distinct just where no two keys of the text spell one id. When the
prompt is saved and loaded again, the last entry of each id is left; this is the same prompt, or one
of the same size, just where the ids are distinct. -/
theorem reload_keeps_last {text : String} {p : Prompt} (hp : ofText text = .ok p)
    (hfloats : ∀ x, Number.float x ∈ p.toJson.numbers → (Number.float x).Rereads) :
    p.ids.Pairwise (· ≤ ·) ∧
    (p.ids.Pairwise (· < ·) ↔ p.ids.Nodup) ∧
    (∃ m, (Reader.nameMap PromptEntry.read).ofText text = .ok m ∧ ofKeyed m = .ok p ∧
      (p.ids.Nodup ↔ ∀ k ∈ m, ∀ l ∈ m, NodeId.ofKey? k = NodeId.ofKey? l → k = l)) ∧
    ofText p.compact = .ok p.lastEntries ∧
    (p.lastEntries = p ↔ p.ids.Nodup) ∧ (p.lastEntries.size = p.size ↔ p.ids.Nodup) := by
  obtain ⟨m, hm, hkeyed, hdepth⟩ := exists_of_ofText hp
  obtain ⟨-, -, -, hle⟩ := exists_of_ofKeyed hkeyed
  have hreload : ofText p.compact = .ok p.lastEntries := by
    have hread (d : Draft) (hd : d.Says p.toJson) : Prompt.read maxLevels d = .ok p.lastEntries :=
      read_of_says hd hle hdepth
    exact mapError_eq_ok_iff.2
      (Reader.ofText_chars Gaps.none_blank (rereads_of_floats hfloats) hread)
  exact ⟨hle, pairwise_lt_iff_nodup hle, ⟨m, hm, hkeyed, nodup_ids_iff hkeyed⟩, hreload,
    lastEntries_eq_self_iff, size_lastEntries_eq_iff⟩

/-- A text with two entries, whose keys spell one id. -/
def doubled : String :=
  "\x7b\"01\":\x7b\"class_type\":\"A\",\"inputs\":\x7b\x7d\x7d," ++
    "\"1\":\x7b\"class_type\":\"B\",\"inputs\":\x7b\"x\":0.5\x7d\x7d\x7d"

theorem doubled_reloaded : ∃ p, ofText doubled = .ok p ∧
    (∃ x, Number.float x ∈ p.toJson.numbers) ∧
    (∀ x, Number.float x ∈ p.toJson.numbers → (Number.float x).Rereads) ∧
    ¬ p.ids.Nodup ∧ ofText p.compact = .ok p.lastEntries := by
  obtain ⟨p, hp, hcheck⟩ := exists_of_any (x := ofText doubled)
    (P := fun p => p.toJson.numbers = [.float ⟨false, 4602678819172646912, by decide⟩] ∧
      (∀ n ∈ p.toJson.numbers, n.Rereads) ∧ ¬ p.ids.Nodup) (by decide +kernel)
  obtain ⟨hfloat, hrereads, hids⟩ := of_decide_eq_true hcheck
  have hfloats : ∀ x, Number.float x ∈ p.toJson.numbers → (Number.float x).Rereads :=
    fun x hx => hrereads _ hx
  exact ⟨p, hp, ⟨_, hfloat ▸ List.mem_cons_self⟩, hfloats, hids,
    (reload_keeps_last hp hfloats).2.2.2.1⟩

theorem doubled_loses_entry : ∃ p q, ofText doubled = .ok p ∧ ofText p.compact = .ok q ∧
    p.ids = [1, 1] ∧ q.ids = [1] ∧ p.agrees q = false := by
  obtain ⟨p, hp, hcheck⟩ := exists_of_any (x := ofText doubled)
    (P := fun p => (ofText p.compact).toOption.any fun q =>
      p.ids = [1, 1] ∧ q.ids = [1] ∧ p.agrees q = false) (by decide +kernel)
  obtain ⟨q, hq, hcheck⟩ := exists_of_any hcheck
  exact ⟨p, q, hp, hq, of_decide_eq_true hcheck⟩

end Prompt

end

end PromptGraph
