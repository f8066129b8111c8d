import Mathlib.Data.List.Pairwise
import PromptGraph.Proofs.Json.Accepted
import PromptGraph.Proofs.Json.Rearranged

/-!
Readers to which the order of members does not matter.

A reader is steady if it reads from a rearranged draft what it reads from the draft. The readers of
values are, and so are those of lists, maps and records that are made of steady ones, as long as the
fields of a record are read independently of each other.
-/

namespace PromptGraph

namespace Json

/-! ### Items and members -/

section

variable {α : Type} {V : Draft → α → Prop}

/-- A member stands for a name and a value. -/
def MemberSays (V : Draft → α → Prop) (m : RawText × Draft) (p : String × α) : Prop :=
  m.1.decode = .ok p.1 ∧ V m.2 p.2

variable (hV : ∀ d e a, d.Rearranged e → V d a → V e a)
include hV

namespace Draft

lemma ItemsRearranged.forall₂ : ∀ {ds es : List Draft}, ItemsRearranged ds es → ∀ {as : List α},
    List.Forall₂ V ds as → List.Forall₂ V es as
  | _, _, .nil, _, h => h
  | _, _, .cons hd _ hds, _, .cons ha has => .cons (hV _ _ _ hd ha) (hds.forall₂ has)

/-- The members that are left stand for the same map. -/
lemma MembersRearranged.exists_forall₂ : ∀ {ms ns : List (RawText × Draft)},
    MembersRearranged ms ns → ∀ {ps : List (String × α)}, List.Forall₂ (MemberSays V) ms ps →
      ∃ qs, List.Forall₂ (MemberSays V) ns qs ∧
        Std.ExtTreeMap.ofList qs = (Std.ExtTreeMap.ofList ps : NameMap α)
  | _, _, .nil, _, h => ⟨_, h, rfl⟩
  | _, _, .cons ht hd hms, _, .cons hp hps => by
    obtain ⟨qs, hqs, hmap⟩ := hms.exists_forall₂ hps
    exact ⟨_, .cons ⟨ht.decode_eq_ok hp.1, hV _ _ _ hd hp.2⟩ hqs, NameMap.ofList_cons_congr hmap⟩
  | _, _, .swap hne, _, .cons hp (.cons hq hps) =>
    ⟨_, .cons hq (.cons hp hps), NameMap.ofList_swap fun heq => hne _ (heq ▸ hp.1) hq.1⟩
  | _, _, .overridden hm hlater, _, .cons hp hps => by
    refine ⟨_, hps, (NameMap.ofList_cons_of_mem ?_).symm⟩
    obtain ⟨n, hn, hkey⟩ := hlater
    obtain ⟨q, hq, hq'⟩ := exists_of_forall₂ hps n hn
    rw [Except.ok.inj (hp.1.symm.trans (hm.trans (hkey.symm.trans hq'.1)))]
    exact List.mem_map_of_mem hq
  | _, _, .trans hms hns, _, h => by
    obtain ⟨qs, hqs, hmap⟩ := hms.exists_forall₂ h
    obtain ⟨rs, hrs, hmap'⟩ := hns.exists_forall₂ hqs
    exact ⟨rs, hrs, hmap'.trans hmap⟩

end Draft

end

/-! ### Literals -/

namespace Draft

variable {levels : Nat} {start : List Char} {ending : Ending} {ds : List Draft}
  {ms : List (RawText × Draft)} {d e : Draft} {j : Json}

/-- The normal form of what a draft stands for. -/
def Denotes (levels : Nat) (d : Draft) (j : Json) : Prop :=
  ∃ i, d.json levels = .ok i ∧ i.normalize = j

lemma exists_itemsJson_iff {xs : List Json} :
    (∃ is, itemsJson levels ending ds = .ok is ∧ normalizeItems is = xs) ↔
      List.Forall₂ (Denotes levels) ds xs ∧ ∃ rest, ending.rest = .ok rest := by
  induction ds generalizing xs with
  | nil =>
    simp only [itemsJson, map_eq_ok_iff, List.forall₂_nil_left_iff]
    constructor
    · rintro ⟨_, ⟨rest, hrest, rfl⟩, rfl⟩
      exact ⟨rfl, rest, hrest⟩
    · rintro ⟨rfl, rest, hrest⟩
      exact ⟨[], ⟨rest, hrest, rfl⟩, rfl⟩
  | cons d ds ih =>
    simp only [itemsJson, bind_eq_ok_iff, List.forall₂_cons_left_iff]
    constructor
    · rintro ⟨_, ⟨i, hi, is, his, h⟩, rfl⟩
      obtain rfl := Except.ok.inj h
      obtain ⟨hds, hending⟩ := ih.1 ⟨is, his, rfl⟩
      exact ⟨⟨_, _, ⟨i, hi, rfl⟩, hds, rfl⟩, hending⟩
    · rintro ⟨⟨_, xs, ⟨i, hi, rfl⟩, hds, rfl⟩, hending⟩
      obtain ⟨is, his, rfl⟩ := ih.2 ⟨hds, hending⟩
      exact ⟨_, ⟨i, hi, is, his, rfl⟩, rfl⟩

lemma exists_membersJson_iff {ps : List (String × Json)} :
    (∃ is, membersJson levels ending ms = .ok is ∧ normalizeMembers is = ps) ↔
      List.Forall₂ (MemberSays (Denotes levels)) ms ps ∧ ∃ rest, ending.rest = .ok rest := by
  induction ms generalizing ps with
  | nil =>
    simp only [membersJson, map_eq_ok_iff, List.forall₂_nil_left_iff]
    constructor
    · rintro ⟨_, ⟨rest, hrest, rfl⟩, rfl⟩
      exact ⟨rfl, rest, hrest⟩
    · rintro ⟨rfl, rest, hrest⟩
      exact ⟨[], ⟨rest, hrest, rfl⟩, rfl⟩
  | cons m ms ih =>
    obtain ⟨t, d⟩ := m
    simp only [membersJson, bind_eq_ok_iff, List.forall₂_cons_left_iff]
    constructor
    · rintro ⟨_, ⟨k, hk, i, hi, is, his, h⟩, rfl⟩
      obtain rfl := Except.ok.inj h
      obtain ⟨hms, hending⟩ := ih.1 ⟨is, his, rfl⟩
      exact ⟨⟨(k, _), _, ⟨hk, i, hi, rfl⟩, hms, rfl⟩, hending⟩
    · rintro ⟨⟨⟨k, _⟩, ps, ⟨hk, i, hi, rfl⟩, hms, rfl⟩, hending⟩
      obtain ⟨is, his, rfl⟩ := ih.2 ⟨hms, hending⟩
      exact ⟨_, ⟨k, hk, i, hi, is, his, rfl⟩, rfl⟩

lemma denotes_array_iff : (Draft.array start ds ending).Denotes (levels + 1) j ↔
    ∃ xs, j = .array xs ∧ List.Forall₂ (Denotes levels) ds xs ∧ ∃ rest, ending.rest = .ok rest := by
  simp only [Denotes, json, map_eq_ok_iff]
  constructor
  · rintro ⟨_, ⟨is, his, rfl⟩, rfl⟩
    exact ⟨_, rfl, exists_itemsJson_iff.1 ⟨is, his, rfl⟩⟩
  · rintro ⟨xs, rfl, hds⟩
    obtain ⟨is, his, rfl⟩ := exists_itemsJson_iff.2 hds
    exact ⟨_, ⟨is, his, rfl⟩, rfl⟩

lemma denotes_object_iff : (Draft.object start ms ending).Denotes (levels + 1) j ↔
    ∃ ps, j = .object (Std.ExtTreeMap.ofList ps : NameMap Json).toList ∧
      List.Forall₂ (MemberSays (Denotes levels)) ms ps ∧ ∃ rest, ending.rest = .ok rest := by
  simp only [Denotes, json, map_eq_ok_iff]
  constructor
  · rintro ⟨_, ⟨is, his, rfl⟩, rfl⟩
    exact ⟨_, rfl, exists_membersJson_iff.1 ⟨is, his, rfl⟩⟩
  · rintro ⟨ps, rfl, hms⟩
    obtain ⟨is, his, rfl⟩ := exists_membersJson_iff.2 hms
    exact ⟨_, ⟨is, his, rfl⟩, rfl⟩

lemma readNumber_eq_ok_iff {n : Numeral} {rest : List Char} {x : Number} :
    readNumber n start rest = .ok x ↔ n.number? = some x := by
  unfold readNumber
  cases n.number? <;> simp

/-- What a draft stands for, what comes of it stands for: the normal form does not see the order. -/
lemma Rearranged.denotes : ∀ {levels : Nat} {d e : Draft} {j : Json}, d.Rearranged e →
    d.Denotes levels j → e.Denotes levels j
  | _, _, _, _, .null, ⟨i, hi, hj⟩ => ⟨i, by simpa [json] using hi, hj⟩
  | _, _, _, _, .bool, ⟨i, hi, hj⟩ => ⟨i, by simpa [json] using hi, hj⟩
  | _, _, _, _, .number, ⟨i, hi, hj⟩ =>
    ⟨i, by simpa [json, map_eq_ok_iff, readNumber_eq_ok_iff] using hi, hj⟩
  | _, _, _, _, .text ht, ⟨i, hi, hj⟩ => by
    simp only [json, map_eq_ok_iff] at hi
    obtain ⟨s, hs, rfl⟩ := hi
    exact ⟨_, by simp [json, ht.decode_eq_ok hs, Except.map], hj⟩
  | 0, _, _, _, .array _ _, ⟨i, hi, _⟩ | 0, _, _, _, .object _, ⟨i, hi, _⟩ => by simp [json] at hi
  | levels + 1, _, _, _, .array _ hds, hd => by
    obtain ⟨xs, rfl, hxs, -⟩ := denotes_array_iff.1 hd
    have hes := hds.forall₂ (V := Denotes levels) (fun _ _ _ => denotes) hxs
    exact denotes_array_iff.2 ⟨xs, rfl, hes, _, rfl⟩
  | levels + 1, _, _, _, .object hms, hd => by
    obtain ⟨ps, rfl, hps, -⟩ := denotes_object_iff.1 hd
    obtain ⟨qs, hqs, hmap⟩ := hms.exists_forall₂ (V := Denotes levels) (fun _ _ _ => denotes) hps
    exact denotes_object_iff.2 ⟨qs, by rw [hmap], hqs, _, rfl⟩

end Draft

/-! ### Values, lists and maps -/

namespace Reader

variable {α : Type} {levels : Nat} {d e : Draft} {a : α}

/-- What is read from a draft is read from what comes of it. -/
def Steady (read : Reader α) : Prop :=
  ∀ ⦃levels d e a⦄, d.Rearranged e → read levels d = .ok a → read levels e = .ok a

lemma steady_string : string.Steady := by
  intro levels d e s h hd
  cases h with
  | text ht => exact mapError_eq_ok_iff.2 (ht.decode_eq_ok (mapError_eq_ok_iff.1 hd))
  | null | bool | number | array | object => exact absurd hd (refuse_ne_ok _ _ _)

lemma steady_bool : bool.Steady := by
  intro levels d e b h hd
  cases h with
  | bool => exact hd
  | null | number | text | array | object => exact absurd hd (refuse_ne_ok _ _ _)

lemma steady_unsigned (bits : Nat) : (unsigned bits).Steady := by
  intro levels d e n h hd
  cases h with
  | number =>
    obtain ⟨⟨x, place⟩, hx, hd⟩ := bind_eq_ok_iff.1 hd
    obtain ⟨y, hy, hx⟩ := bind_eq_ok_iff.1 (mapError_eq_ok_iff.1 hx)
    cases hx
    have hnumber := Draft.readNumber_eq_ok_iff.1 hy
    refine bind_eq_ok_iff.2 ⟨_, mapError_eq_ok_iff.2 (bind_eq_ok_iff.2
      ⟨y, Draft.readNumber_eq_ok_iff.2 hnumber, rfl⟩), ?_⟩
    cases y with
    | float x => cases hd
    | integer i hi =>
      simp only at hd ⊢
      split at hd
      · rwa [if_pos ‹_›]
      · cases hd
  | text ht =>
    obtain ⟨⟨x, place⟩, hx, hd⟩ := bind_eq_ok_iff.1 hd
    obtain ⟨s, -, hx⟩ := bind_eq_ok_iff.1 (mapError_eq_ok_iff.1 hx)
    obtain ⟨rest, -, hx⟩ := bind_eq_ok_iff.1 hx
    cases hx
    cases hd
  | null | bool | array | object => cases hd

lemma steady_literal : literal.Steady := by
  intro levels d e v h hd
  obtain ⟨i, hi, rfl⟩ := map_eq_ok_iff.1 hd
  obtain ⟨i', hi', hnormal⟩ := h.denotes ⟨i, mapError_eq_ok_iff.1 hi, rfl⟩
  exact map_eq_ok_iff.2 ⟨i', mapError_eq_ok_iff.2 hi', Literal.ext hnormal⟩

lemma descend_eq_ok_iff {start : List Char} {f : Nat → Except ReadError α} :
    descend start levels f = .ok a ↔ ∃ n, levels = n + 1 ∧ f n = .ok a := by
  cases levels <;> simp [descend]

variable {read : Reader α}

lemma Steady.map {β : Type} {f : α → β} (hread : read.Steady) :
    Steady fun levels d => (read levels d).map f := by
  intro levels d e b h hd
  obtain ⟨a, ha, rfl⟩ := map_eq_ok_iff.1 hd
  exact map_eq_ok_iff.2 ⟨a, hread h ha, rfl⟩

lemma members_object_iff {start : List Char} {ms : List (RawText × Draft)} {ending : Ending}
    {ps : List (String × α)} : members read (levels + 1) (.object start ms ending) = .ok ps ↔
      List.Forall₂ (MemberSays fun d a => read levels d = .ok a) ms ps ∧
        ∃ rest, ending.rest = .ok rest := by
  have hmember (m : RawText × Draft) (p : String × α) :
      (do
        let k ← ofFault m.1.decode
        let v ← read levels m.2
        return (k, v)) = .ok p ↔ MemberSays (fun d a => read levels d = .ok a) m p := by
    simp only [bind_eq_ok_iff, ofFault, mapError_eq_ok_iff, MemberSays]
    constructor
    · rintro ⟨k, hk, v, hv, h⟩
      exact Except.ok.inj h ▸ ⟨hk, hv⟩
    · rintro ⟨hk, hv⟩
      exact ⟨p.1, hk, p.2, hv, rfl⟩
  simp only [members, descend, bind_eq_ok_iff, mapM_eq_ok_iff, hmember]
  constructor
  · rintro ⟨qs, hqs, rest, hrest, h⟩
    exact Except.ok.inj h ▸ ⟨hqs, rest, mapError_eq_ok_iff.1 hrest⟩
  · rintro ⟨hps, rest, hrest⟩
    exact ⟨ps, hps, rest, mapError_eq_ok_iff.2 hrest, rfl⟩

variable (hread : read.Steady)
include hread

lemma Steady.option : (Reader.option read).Steady := by
  intro levels d e a h hd
  have hde := h
  cases h with
  | null => exact hd
  | bool | number | text | array | object =>
    obtain ⟨x, hx, rfl⟩ := map_eq_ok_iff.1 hd
    exact map_eq_ok_iff.2 ⟨x, hread hde hx, rfl⟩

lemma Steady.list : (Reader.list read).Steady := by
  intro levels d e xs h hd
  cases h with
  | array _ hds =>
    obtain ⟨n, rfl, hd⟩ := descend_eq_ok_iff.1 hd
    obtain ⟨xs, hxs, hd⟩ := bind_eq_ok_iff.1 hd
    cases hd
    have hes := hds.forall₂ (V := fun d a => read n d = .ok a) (fun _ _ _ h => hread h)
      (mapM_eq_ok_iff.1 hxs)
    exact bind_eq_ok_iff.2 ⟨xs, mapM_eq_ok_iff.2 hes, rfl⟩
  | null | bool | number | text | object => exact absurd hd (refuse_ne_ok _ _ _)

lemma Steady.nameMap : (Reader.nameMap read).Steady := by
  intro levels d e m h hd
  obtain ⟨ps, hps, rfl⟩ := map_eq_ok_iff.1 hd
  cases h with
  | object hms =>
    obtain ⟨n, rfl, -⟩ := descend_eq_ok_iff.1 hps
    obtain ⟨hms', -⟩ := members_object_iff.1 hps
    obtain ⟨qs, hqs, hmap⟩ := hms.exists_forall₂ (V := fun d a => read n d = .ok a)
      (fun _ _ _ h => hread h) hms'
    exact map_eq_ok_iff.2 ⟨qs, members_object_iff.2 ⟨hqs, _, rfl⟩, hmap⟩
  | null | bool | number | text | array => exact absurd hps (refuse_ne_ok _ _ _)

end Reader

/-! ### Records -/

namespace Field

variable {σ α β : Type} {f g : Field σ}

def Steady (f : Field σ) : Prop :=
  ∀ ⦃levels d e x y⦄, d.Rearranged e → f.read levels d x = .ok y → f.read levels e x = .ok y

/-- What is read as one field and then as another is read in the other order too. -/
def Passes (f g : Field σ) : Prop :=
  ∀ ⦃levels d e x y z⦄, f.read levels d x = .ok y → g.read levels e y = .ok z →
    ∃ w, g.read levels e x = .ok w ∧ f.read levels d w = .ok z

def Independent (f g : Field σ) : Prop := f.Passes g ∧ g.Passes f

instance : Std.Symm (Independent (σ := σ)) := ⟨fun _ _ => And.symm⟩

variable {name name' : String} {required required' : Bool} {read : Reader α} {read' : Reader β}
  {set : σ → α → σ} {set' : σ → β → σ}

lemma Steady.put (hread : read.Steady) :
    Steady ⟨name, required, fun levels d x => do return set x (← read levels d)⟩ := by
  intro levels d e x y h hd
  obtain ⟨a, ha, hy⟩ := bind_eq_ok_iff.1 hd
  exact bind_eq_ok_iff.2 ⟨a, hread h ha, hy⟩

lemma Passes.put (hset : ∀ x a b, set' (set x a) b = set (set' x b) a) :
    Passes ⟨name, required, fun levels d x => do return set x (← read levels d)⟩
      ⟨name', required', fun levels d x => do return set' x (← read' levels d)⟩ := by
  intro levels d e x y z hd he
  obtain ⟨a, ha, hy⟩ := bind_eq_ok_iff.1 hd
  obtain ⟨b, hb, hz⟩ := bind_eq_ok_iff.1 he
  cases hy
  refine ⟨set' x b, bind_eq_ok_iff.2 ⟨b, hb, rfl⟩, bind_eq_ok_iff.2 ⟨a, ha, ?_⟩⟩
  rw [← hset]
  exact hz

/-- Fields with places of their own are independent. -/
lemma Independent.put (hset : ∀ x a b, set' (set x a) b = set (set' x b) a) :
    Independent ⟨name, required, fun levels d x => do return set x (← read levels d)⟩
      ⟨name', required', fun levels d x => do return set' x (← read' levels d)⟩ :=
  ⟨Passes.put hset, Passes.put fun x b a => (hset x a b).symm⟩

end Field

namespace Record

variable {σ : Type} {r : Record σ} {levels : Nat} {m n : RawText × Draft}
  {ms ns : List (RawText × Draft)} {seen seen' : List String} {x y z : σ}

/-- The fields of a record are steady, and they do not depend on each other. -/
structure Steady (r : Record σ) : Prop where
  fields : ∀ f ∈ r.fields, f.Steady
  independent : r.fields.Pairwise Field.Independent

/-- One member is taken: it is passed over, or read as a field that has not been read before. -/
inductive Takes (r : Record σ) (levels : Nat) (m : RawText × Draft) (seen : List String) (x : σ) :
    List String → σ → Prop
  | skipped {name : String} (hkey : m.1.decode = .ok name)
      (hnone : r.fields.find? (·.name == name) = none) (hskip : m.2.skip = none) :
      Takes r levels m seen x seen x
  | read {name : String} {field : Field σ} {y : σ} (hkey : m.1.decode = .ok name)
      (hfield : r.fields.find? (·.name == name) = some field) (hnew : name ∉ seen)
      (hread : field.read levels m.2 x = .ok y) : Takes r levels m seen x (name :: seen) y

lemma readMembers_cons_eq_ok_iff {p : List String × σ} :
    r.readMembers levels (m :: ms) seen x = .ok p ↔
      ∃ s y, r.Takes levels m seen x s y ∧ r.readMembers levels ms s y = .ok p := by
  obtain ⟨t, d⟩ := m
  rw [readMembers, bind_eq_ok_iff]
  constructor
  · rintro ⟨name, hkey, h⟩
    have hkey := mapError_eq_ok_iff.1 hkey
    split at h
    · rename_i hnone
      split at h
      · cases h
      · exact ⟨seen, x, .skipped hkey hnone ‹_›, h⟩
    · rename_i field hfield
      split at h
      · obtain ⟨rest, -, h⟩ := bind_eq_ok_iff.1 h
        cases h
      · rename_i hnew
        obtain ⟨y, hy, h⟩ := bind_eq_ok_iff.1 h
        exact ⟨_, y, .read hkey hfield (by simpa using hnew) hy, h⟩
  · rintro ⟨s, y, htakes, h⟩
    cases htakes with
    | skipped hkey hnone hskip => exact ⟨_, mapError_eq_ok_iff.2 hkey, by simpa [hnone, hskip]⟩
    | read hkey hfield hnew hread =>
      refine ⟨_, mapError_eq_ok_iff.2 hkey, ?_⟩
      simp only [hfield, List.contains_eq_mem, hnew, decide_false, Bool.false_eq_true, if_false]
      exact bind_eq_ok_iff.2 ⟨y, hread, h⟩

namespace Takes

variable {s s' : List String}

lemma perm (hseen : seen.Perm seen') (h : r.Takes levels m seen x s y) :
    ∃ s', r.Takes levels m seen' x s' y ∧ s.Perm s' := by
  cases h with
  | skipped hkey hnone hskip => exact ⟨_, .skipped hkey hnone hskip, hseen⟩
  | read hkey hfield hnew hread =>
    exact ⟨_, .read hkey hfield (mt hseen.mem_iff.2 hnew) hread, hseen.cons _⟩

lemma rearranged (hr : r.Steady) {t u : RawText} {d e : Draft} (ht : t.Alike u)
    (hd : d.Rearranged e) (h : r.Takes levels (t, d) seen x s y) :
    r.Takes levels (u, e) seen x s y := by
  cases h with
  | skipped hkey hnone hskip =>
    exact .skipped (ht.decode_eq_ok hkey) hnone (hd.skip_eq_none hskip)
  | read hkey hfield hnew hread =>
    exact .read (ht.decode_eq_ok hkey) hfield hnew
      (hr.fields _ (List.mem_of_find?_eq_some hfield) hd hread)

/-- Two members that are taken may be taken in the other order. -/
lemma swap (hr : r.Steady) (hm : r.Takes levels m seen x s y)
    (hn : r.Takes levels n s y s' z) :
    ∃ t w t', r.Takes levels n seen x t w ∧ r.Takes levels m t w t' z ∧ s'.Perm t' := by
  cases hm with
  | skipped hkey hnone hskip =>
    cases hn with
    | skipped hkey' hnone' hskip' =>
      exact ⟨_, _, _, .skipped hkey' hnone' hskip', .skipped hkey hnone hskip, .refl _⟩
    | read hkey' hfield' hnew' hread' =>
      exact ⟨_, _, _, .read hkey' hfield' hnew' hread', .skipped hkey hnone hskip, .refl _⟩
  | @read k f y hkey hfield hnew hread =>
    cases hn with
    | skipped hkey' hnone' hskip' =>
      exact ⟨_, _, _, .skipped hkey' hnone' hskip', .read hkey hfield hnew hread, .refl _⟩
    | @read l g z hkey' hfield' hnew' hread' =>
      rw [List.mem_cons, not_or] at hnew'
      -- the second name has not been seen, so the fields are two, and independent
      have hfg : f ≠ g := by
        rintro rfl
        have hk : f.name = k := by simpa using List.find?_some hfield
        have hl : f.name = l := by simpa using List.find?_some hfield'
        exact hnew'.1 (hl.symm.trans hk)
      have hindependent := hr.independent.forall (List.mem_of_find?_eq_some hfield)
        (List.mem_of_find?_eq_some hfield') hfg
      obtain ⟨w, hw, hz⟩ := hindependent.1 hread hread'
      have hnew : k ∉ l :: seen := by simp [hnew, Ne.symm hnew'.1]
      exact ⟨_, w, _, .read hkey' hfield' hnew'.2 hw, .read hkey hfield hnew hz, .swap ..⟩

end Takes

lemma readMembers_perm {s : List String} (hseen : seen.Perm seen')
    (h : r.readMembers levels ms seen x = .ok (s, y)) :
    ∃ s', r.readMembers levels ms seen' x = .ok (s', y) ∧ s.Perm s' := by
  induction ms generalizing seen seen' x with
  | nil =>
    cases h
    exact ⟨seen', rfl, hseen⟩
  | cons m ms ih =>
    obtain ⟨t, w, htakes, h⟩ := readMembers_cons_eq_ok_iff.1 h
    obtain ⟨t', htakes, ht⟩ := htakes.perm hseen
    obtain ⟨s', h, hs⟩ := ih ht h
    exact ⟨s', readMembers_cons_eq_ok_iff.2 ⟨t', w, htakes, h⟩, hs⟩

/-- A field that has been read does not come again. -/
lemma not_mem_seen_of_readMembers {p : List String × σ} {k : String} {field : Field σ}
    (h : r.readMembers levels ms seen x = .ok p) (hm : m ∈ ms) (hkey : m.1.decode = .ok k)
    (hfield : r.fields.find? (·.name == k) = some field) : k ∉ seen := by
  induction ms generalizing seen x with
  | nil => simp at hm
  | cons n ms ih =>
    obtain ⟨s, y, htakes, h⟩ := readMembers_cons_eq_ok_iff.1 h
    rcases List.mem_cons.1 hm with rfl | hm
    · cases htakes with
      | skipped hkey' hnone _ =>
        rw [hkey, Except.ok.injEq] at hkey'
        simp [← hkey', hfield] at hnone
      | read hkey' _ hnew _ =>
        rw [hkey, Except.ok.injEq] at hkey'
        exact hkey' ▸ hnew
    · have hs := ih h hm
      cases htakes with
      | skipped => exact hs
      | read => exact fun hk => hs (List.mem_cons_of_mem _ hk)

end Record

namespace Draft

variable {σ : Type} {r : Record σ} {levels : Nat}

/-- What is left of the members of an object gives the same record. -/
lemma MembersRearranged.readMembers (hr : r.Steady) : ∀ {ms ns : List (RawText × Draft)},
    MembersRearranged ms ns →
      ∀ {seen seen' s : List String} {x y : σ}, seen.Perm seen' →
        r.readMembers levels ms seen x = .ok (s, y) →
        ∃ s', r.readMembers levels ns seen' x = .ok (s', y) ∧ s.Perm s'
  | _, _, .nil, _, _, _, _, _, hseen, h => Record.readMembers_perm hseen h
  | _, _, .cons ht hd hms, _, _, _, _, _, hseen, h => by
    obtain ⟨t, w, htakes, h⟩ := Record.readMembers_cons_eq_ok_iff.1 h
    obtain ⟨t', htakes, ht'⟩ := (htakes.rearranged hr ht hd).perm hseen
    obtain ⟨s', h, hs⟩ := hms.readMembers hr ht' h
    exact ⟨s', Record.readMembers_cons_eq_ok_iff.2 ⟨t', w, htakes, h⟩, hs⟩
  | _, _, .swap _, _, _, _, _, _, hseen, h => by
    obtain ⟨t, w, hm, h⟩ := Record.readMembers_cons_eq_ok_iff.1 h
    obtain ⟨t', w', hn, h⟩ := Record.readMembers_cons_eq_ok_iff.1 h
    obtain ⟨u, v, u', hn, hm, hu⟩ := hm.swap hr hn
    obtain ⟨s', h, hs⟩ := Record.readMembers_perm hu h
    obtain ⟨s'', h, hs'⟩ := Record.readMembers_perm hseen (Record.readMembers_cons_eq_ok_iff.2
      ⟨u, v, hn, Record.readMembers_cons_eq_ok_iff.2 ⟨u', w', hm, h⟩⟩)
    exact ⟨s'', h, hs.trans hs'⟩
  | _, _, .overridden hm hlater, _, _, _, _, _, hseen, h => by
    obtain ⟨t, w, htakes, h⟩ := Record.readMembers_cons_eq_ok_iff.1 h
    cases htakes with
    | skipped => exact Record.readMembers_perm hseen h
    | read hkey hfield hnew hread =>
      -- a field does not come twice: what is overridden has no field
      obtain ⟨n, hn, hn'⟩ := hlater
      rw [hm, Except.ok.injEq] at hkey
      exact absurd (hkey ▸ List.mem_cons_self)
        (Record.not_mem_seen_of_readMembers h hn hn' (hkey ▸ hfield))
  | _, _, .trans hms hns, _, _, _, _, _, hseen, h => by
    obtain ⟨s, h, hs⟩ := hms.readMembers hr hseen h
    obtain ⟨s', h, hs'⟩ := hns.readMembers hr (.refl _) h
    exact ⟨s', h, hs.trans hs'⟩

/-- What is left of the items of an array gives the same record. -/
lemma ItemsRearranged.readItems (hr : r.Steady) {rest rest' : List Char} {fields : List (Field σ)}
    (hfields : ∀ f ∈ fields, f ∈ r.fields) {ds es : List Draft} (h : ItemsRearranged ds es)
    {position : Nat} {after after' : List Char} (hends : EndsArray after → EndsArray after')
    {x y : σ} (hread : r.readItems levels (.closed rest) fields position ds after x = .ok y) :
    r.readItems levels (.closed rest') fields position es after' x = .ok y := by
  induction fields generalizing position ds es after after' x with
  | nil =>
    rw [Record.readItems, Reader.ofFault, mapError_eq_ok_iff, map_eq_ok_iff] at hread ⊢
    obtain ⟨_, hclose, hx⟩ := hread
    exact ⟨(), hends hclose, hx⟩
  | cons field fields ih =>
    obtain ⟨hfield, hfields⟩ := List.forall_mem_cons.1 hfields
    cases h with
    | nil =>
      rw [Record.readItems, bind_eq_ok_iff] at hread ⊢
      obtain ⟨after, -, hread⟩ := hread
      refine ⟨rest', rfl, ?_⟩
      split at hread
      · cases hread
      · rename_i hrequired
        rw [if_neg hrequired]
        exact ih hfields .nil hends hread
    | cons hd hends' hds =>
      obtain ⟨z, hz, hread⟩ := bind_eq_ok_iff.1 hread
      obtain ⟨next, hnext, hread⟩ := bind_eq_ok_iff.1 hread
      obtain ⟨next', hnext'⟩ := hd.exists_rest
      have hnext := mapError_eq_ok_iff.1 hnext
      have hends : EndsArray next → EndsArray next' := fun h => by
        obtain ⟨rest, hrest, hends⟩ := hends' ⟨next, hnext, h⟩
        rw [hnext', Except.ok.injEq] at hrest
        exact hrest ▸ hends
      exact bind_eq_ok_iff.2 ⟨z, hr.fields field hfield hd hz, bind_eq_ok_iff.2
        ⟨next', mapError_eq_ok_iff.2 hnext', ih hfields hds hends hread⟩⟩

end Draft

/-- A record is steady if its fields are. -/
lemma Record.Steady.read {σ : Type} {r : Record σ} (hr : r.Steady) : r.read.Steady := by
  intro levels d e x h hd
  cases h with
  | object hms =>
    obtain ⟨n, rfl, hd⟩ := Reader.descend_eq_ok_iff.1 hd
    obtain ⟨⟨seen, y⟩, hread, hd⟩ := bind_eq_ok_iff.1 hd
    obtain ⟨rest, -, hd⟩ := bind_eq_ok_iff.1 hd
    obtain ⟨seen', hread', hseen⟩ := hms.readMembers hr (.refl []) hread
    have hmissing : r.missing? seen' = r.missing? seen := by
      simp only [missing?, List.contains_eq_mem, hseen.mem_iff]
    refine bind_eq_ok_iff.2 ⟨_, hread', bind_eq_ok_iff.2 ⟨_, rfl, ?_⟩⟩
    simp only [hmissing]
    split at hd
    · cases hd
    · exact hd
  | array hends hds =>
    obtain ⟨n, rfl, hd⟩ := Reader.descend_eq_ok_iff.1 hd
    exact hds.readItems hr (fun _ hf => hf) hends hd
  | null | bool | number | text => exact absurd hd (Reader.refuse_ne_ok _ _ _)

lemma Reader.ofText_eq_ok_iff {α : Type} {read : Reader α} {text : String} {a : α} :
    read.ofText text = .ok a ↔ read maxLevels (Scan.draft text.toList).1 = .ok a ∧
      Scan.skipGap (Scan.draft text.toList).2 = [] := by
  rw [Reader.ofText, mapError_eq_ok_iff, Reader.ofChars]
  generalize Scan.draft text.toList = scan
  rw [bind_eq_ok_iff]
  constructor
  · rintro ⟨b, hb, hrest⟩
    split at hrest
    · exact Except.ok.inj hrest ▸ ⟨hb, ‹_›⟩
    · cases hrest
  · rintro ⟨ha, hend⟩
    exact ⟨a, ha, by rw [hend]⟩

/-- What a steady reader reads from a text, it reads from what comes of the text. -/
lemma Reader.Steady.ofText {α : Type} {read : Reader α} (hread : read.Steady) {a : α}
    {text text' : String} (h : Rearranged text text') (htext : read.ofText text = .ok a) :
    read.ofText text' = .ok a :=
  Reader.ofText_eq_ok_iff.2 ⟨hread h.draft (Reader.ofText_eq_ok_iff.1 htext).1, h.ends⟩

/-- A map that is read from a text is that of the members, of which the last of each name counts. -/
lemma Reader.exists_members_of_ofText {α : Type} {read : Reader α} {text : String} {m : NameMap α}
    (h : read.nameMap.ofText text = .ok m) : ∃ ms, read.members.ofText text = .ok ms ∧
      ∀ name a, m[name]? = some a ↔ (name, a) ∈ lastOfEach ms := by
  obtain ⟨hread, hend⟩ := Reader.ofText_eq_ok_iff.1 h
  obtain ⟨ms, hms, rfl⟩ := map_eq_ok_iff.1 hread
  exact ⟨ms, Reader.ofText_eq_ok_iff.2 ⟨hms, hend⟩,
    fun name a => NameMap.getElem?_ofList_eq_some_iff⟩

end Json

end PromptGraph
