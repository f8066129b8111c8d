import Mathlib.Order.MinMax
import PromptGraph.Proofs.Json.Printed

/-!
Documents that nest too deep for their readers.

A reader goes through a document from left to right. If the values before a bracket beyond its
levels are what it expects, it gives up at that bracket, whatever comes after.
-/

namespace PromptGraph

section

variable {ε ε' α β : Type} {P : ε → Prop}

/-- The outcome is an error of a certain kind. -/
def FailsWith (P : ε → Prop) (x : Except ε α) : Prop := ∃ e, x = .error e ∧ P e

lemma FailsWith.bind {x : Except ε α} (h : FailsWith P x) (f : α → Except ε β) :
    FailsWith P (x >>= f) := by
  obtain ⟨e, rfl, he⟩ := h
  exact ⟨e, rfl, he⟩

lemma FailsWith.of_bind {x : Except ε α} {a : α} (hx : x = .ok a) {f : α → Except ε β}
    (h : FailsWith P (f a)) : FailsWith P (x >>= f) := by
  rw [hx]
  exact h

lemma FailsWith.map {x : Except ε α} (h : FailsWith P x) (f : α → β) : FailsWith P (x.map f) := by
  obtain ⟨e, rfl, he⟩ := h
  exact ⟨e, rfl, he⟩

lemma FailsWith.mapError {x : Except ε α} {f : ε → ε'} {Q : ε' → Prop} (h : FailsWith P x)
    (hf : ∀ e, P e → Q (f e)) : FailsWith Q (x.mapError f) := by
  obtain ⟨e, rfl, he⟩ := h
  exact ⟨f e, rfl, hf e he⟩

end

namespace Json

def Fault.TooDeep (f : Fault) : Prop := f.cause = .tooDeep

def ReadError.TooDeep (e : ReadError) : Prop := e.problem = .fault .tooDeep

def DocumentError.TooDeep (e : DocumentError) : Prop := e.problem = .fault .tooDeep

lemma FailsWith.ofFault {α : Type} {x : Except Fault α} (h : FailsWith Fault.TooDeep x) :
    FailsWith ReadError.TooDeep (Reader.ofFault x) :=
  h.mapError fun _ => congrArg Problem.fault

/-! ### Drafts -/

namespace Draft

mutual

/-- A draft that says a document is refused where its brackets may not nest so deep. -/
lemma Says.json_tooDeep {d : Draft} {j : Json} : d.Says j → ∀ {levels : Nat}, levels < j.depth →
    FailsWith Fault.TooDeep (d.json levels)
  | .null, _, hdepth => absurd hdepth (Nat.not_lt_zero _)
  | .bool, _, hdepth => absurd hdepth (Nat.not_lt_zero _)
  | .number _, _, hdepth => absurd hdepth (Nat.not_lt_zero _)
  | .text _, _, hdepth => absurd hdepth (Nat.not_lt_zero _)
  | .array hds, levels, hdepth => by
    cases levels with
    | zero =>
      rw [json]
      exact ⟨_, rfl, rfl⟩
    | succ levels =>
      have hxs := fun rest => hds.itemsJson_tooDeep rest (Nat.lt_of_succ_lt_succ hdepth)
      rw [json]
      exact (hxs _).map _
  | .object hms, levels, hdepth => by
    cases levels with
    | zero =>
      rw [json]
      exact ⟨_, rfl, rfl⟩
    | succ levels =>
      have hns := fun rest => hms.membersJson_tooDeep rest (Nat.lt_of_succ_lt_succ hdepth)
      rw [json]
      exact (hns _).map _

lemma ItemsSay.itemsJson_tooDeep {ds : List Draft} {xs : List Json} : ItemsSay ds xs →
    ∀ (rest : List Char) {levels : Nat}, levels < itemsDepth xs →
      FailsWith Fault.TooDeep (itemsJson levels (.closed rest) ds)
  | .nil, _, _, hdepth => absurd hdepth (Nat.not_lt_zero _)
  | .cons (x := x) hd hds, rest, levels, hdepth => by
    by_cases hx : levels < x.depth
    · exact (hd.json_tooDeep hx).bind _
    · -- the item can be read, so another one is too deep
      rw [itemsDepth, lt_max_iff] at hdepth
      have hxs := hds.itemsJson_tooDeep rest (hdepth.resolve_left hx)
      exact .of_bind (hd.json_eq (Nat.le_of_not_lt hx)) (hxs.bind _)

lemma MembersSay.membersJson_tooDeep {ms : List (RawText × Draft)} {ns : List (String × Json)} :
    MembersSay ms ns → ∀ (rest : List Char) {levels : Nat}, levels < membersDepth ns →
      FailsWith Fault.TooDeep (membersJson levels (.closed rest) ms)
  | .nil, _, _, hdepth => absurd hdepth (Nat.not_lt_zero _)
  | .cons (v := v) ht hd hms, rest, levels, hdepth => by
    refine .of_bind ht.1 ?_
    by_cases hv : levels < v.depth
    · exact (hd.json_tooDeep hv).bind _
    · rw [membersDepth, lt_max_iff] at hdepth
      have hns := hms.membersJson_tooDeep rest (hdepth.resolve_left hv)
      exact .of_bind (hd.json_eq (Nat.le_of_not_lt hv)) (hns.bind _)

end

end Draft

/-! ### Readers -/

namespace Reader

variable {α : Type} {d : Draft} {levels : Nat} {P : ReadError → Prop}

lemma literal_tooDeep {v : Literal} (h : d.Says v.json) (hdepth : levels < v.json.depth) :
    FailsWith ReadError.TooDeep (literal levels d) :=
  (FailsWith.ofFault (h.json_tooDeep hdepth)).map _

/-- A map whose values can be read up to one that cannot fails at that value. -/
lemma failsWith_nameMap {read : Reader α} {toJson : α → Json} (fits : α → Prop)
    {l : List (String × α)} (h : d.Says (.object (l.map fun (k, a) => (k, toJson a))))
    (hread : ∀ p ∈ l, fits p.2 → ∀ d : Draft, d.Says (toJson p.2) → read levels d = .ok p.2)
    (hfail : ∀ p ∈ l, ¬ fits p.2 → ∀ d : Draft, d.Says (toJson p.2) → FailsWith P (read levels d))
    (hl : ∃ p ∈ l, ¬ fits p.2) : FailsWith P (nameMap read (levels + 1) d) := by
  cases h with
  | @object _ _ ms _ hms =>
    refine FailsWith.map (FailsWith.bind ?_ _) _
    induction l generalizing ms with
    | nil => simp at hl
    | cons p l ih =>
      obtain ⟨k, a⟩ := p
      rcases hms with - | ⟨ht, hd, hms⟩
      obtain ⟨ha, hread⟩ := List.forall_mem_cons.1 hread
      obtain ⟨ha', hfail⟩ := List.forall_mem_cons.1 hfail
      have hkey : ofFault _ = .ok k := congrArg ofFault ht.1
      rw [List.mapM_cons]
      by_cases hfits : fits a
      · have hl : ∃ p ∈ l, ¬ fits p.2 := by simpa [hfits] using hl
        refine .of_bind (a := (k, a)) ?_ ((ih hread hfail hl hms).bind _)
        exact bind_eq_ok_iff.2 ⟨k, hkey, bind_eq_ok_iff.2 ⟨a, ha hfits _ hd, rfl⟩⟩
      · exact (FailsWith.of_bind hkey ((ha' hfits _ hd).bind _)).bind _

/-- What is refused as a draft of a document is refused as the text of the document. -/
lemma failsWith_ofText_chars {gaps : Gaps} (hgaps : gaps.Blank) {j : Json}
    (hj : ∀ n ∈ j.numbers, n.Rereads) {read : Reader α}
    (hread : ∀ d : Draft, d.Says j → FailsWith ReadError.TooDeep (read maxLevels d)) :
    FailsWith DocumentError.TooDeep (read.ofText (String.ofList (j.chars gaps 0))) := by
  obtain ⟨d, hd, hsays⟩ := Scan.draft_chars hgaps hj
  rw [ofText, String.toList_ofList, ofChars, hd]
  exact ((hread d hsays).bind _).mapError fun _ he => he

end Reader

namespace Record

variable {σ : Type} {r : Record σ} {levels : Nat} {P : ReadError → Prop}

/-- A record fails where one of its fields does. -/
lemma failsWith_readMembers {t : RawText} {d : Draft} {ms : List (RawText × Draft)}
    {seen : List String} {x : σ} {name : String} {field : Field σ}
    (ht : t.Says name) (hfield : r.fields.find? (·.name == name) = some field)
    (hseen : name ∉ seen) (hread : FailsWith P (field.read levels d x)) :
    FailsWith P (r.readMembers levels ((t, d) :: ms) seen x) := by
  rw [readMembers]
  refine .of_bind (congrArg Reader.ofFault ht.1) ?_
  simpa [hfield, hseen] using hread.bind _

lemma failsWith_readMembers_cons {t : RawText} {d : Draft} {ms : List (RawText × Draft)}
    {seen : List String} {x y : σ} {name : String} {field : Field σ}
    (ht : t.Says name) (hfield : r.fields.find? (·.name == name) = some field)
    (hseen : name ∉ seen) (hread : field.read levels d x = .ok y)
    (hms : FailsWith P (r.readMembers levels ms (name :: seen) y)) :
    FailsWith P (r.readMembers levels ((t, d) :: ms) seen x) := by
  rw [readMembers]
  refine .of_bind (congrArg Reader.ofFault ht.1) ?_
  simpa [hfield, hseen] using FailsWith.of_bind hread hms

lemma failsWith_read {start : List Char} {ms : List (RawText × Draft)} {ending : Ending}
    (hms : FailsWith P (r.readMembers levels ms [] r.start)) :
    FailsWith P (r.read (levels + 1) (.object start ms ending)) :=
  hms.bind _

end Record

end Json

end PromptGraph
