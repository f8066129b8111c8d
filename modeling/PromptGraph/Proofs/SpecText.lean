import PromptGraph.Proofs.Json.Printed
import PromptGraph.Proofs.ResolveExact

/-!
Specifications of inputs that are written and read again.

Absent fields have no member in the text of a specification, and readers take a member of null for
an absent field. So a default of null is written but not read, and all else comes back as it was.
Inputs that are written and read resolve arguments as before unless one of them has such a default.
-/

namespace PromptGraph

open Json

namespace Literal

def isNull (v : Literal) : Bool :=
  match v.json with
  | .null => true
  | _ => false

lemma json_eq_null_iff {v : Literal} : v.json = .null ↔ v.isNull = true := by
  unfold isNull
  split <;> simp_all

lemma isNull_iff {v : Literal} : v.isNull = true ↔ v = .null := by
  rw [← json_eq_null_iff]
  exact ⟨fun h => ext h, congrArg json⟩

end Literal

namespace InputSpec

/-- The values in a specification: its default and its choices. -/
def values (spec : InputSpec) : List Literal := spec.default.toList ++ spec.choices.getD []

/-- The specification without a default of null. -/
def withoutNull (spec : InputSpec) : InputSpec :=
  { spec with default := spec.default.filter fun v => !v.isNull }

/-- The specification has a text that can be read: its values nest no deeper than 120 levels, and
its floats are read back from their texts. -/
structure Fits (spec : InputSpec) : Prop where
  depth_le : ∀ v ∈ spec.values, v.json.depth ≤ 120
  rereads : ∀ x, Number.float x ∈ spec.toJson.numbers → (Number.float x).Rereads

variable {spec : InputSpec}

lemma withoutNull_eq_self_iff : spec.withoutNull = spec ↔ spec.default ≠ some .null := by
  obtain ⟨required, kind, default, choices⟩ := spec
  cases default with
  | none => simp [withoutNull]
  | some v =>
    cases hv : v.isNull with
    | true => simp [withoutNull, Literal.isNull_iff.1 hv, Literal.isNull, Literal.null]
    | false =>
      have hne : v ≠ .null := fun he => by simp [Literal.isNull_iff.2 he] at hv
      simp [withoutNull, hv, hne]

instance : Decidable spec.Fits :=
  decidable_of_iff ((∀ v ∈ spec.values, v.json.depth ≤ 120) ∧ ∀ n ∈ spec.toJson.numbers, n.Rereads)
    ⟨fun h => ⟨h.1, fun _ hx => h.2 _ hx⟩, fun h => ⟨h.depth_le, rereads_of_floats h.rereads⟩⟩

/-! ### Reading what was written -/

lemma depth_default_le (hfits : spec.Fits) : ∀ v ∈ spec.default, v.json.depth ≤ 120 := by
  intro v hv
  exact hfits.depth_le v (List.mem_append_left _ (by simpa using hv))

lemma depth_choices_le (hfits : spec.Fits) :
    ∀ vs ∈ spec.choices, ∀ v ∈ vs, v.json.depth ≤ 120 := by
  intro vs hvs v hv
  refine hfits.depth_le v (List.mem_append_right _ ?_)
  rwa [Option.mem_def.1 hvs]

variable {levels : Nat}

/-- A default is read from its document, but null is read as no default. -/
lemma option_literal_of_says {d : Draft} {v : Literal} (h : d.Says v.json)
    (hdepth : v.json.depth ≤ levels) :
    Reader.option Reader.literal levels d = .ok ((some v).filter fun v => !v.isNull) := by
  cases hv : v.isNull with
  | true =>
    rw [Literal.json_eq_null_iff.2 hv] at h
    simp [Reader.option_of_says_null h, Option.filter_some, hv]
  | false =>
    have hne : v.json ≠ .null := fun he => by simp [Literal.json_eq_null_iff.1 he] at hv
    simp [Reader.option_of_says h hne (Reader.literal_of_says h hdepth), Option.filter_some, hv]

lemma option_choices_of_says {d : Draft} {vs : List Literal}
    (h : d.Says (.array (vs.map (·.json)))) (hdepth : ∀ v ∈ vs, v.json.depth ≤ levels) :
    Reader.option (Reader.list Reader.literal) (levels + 1) d = .ok (some vs) :=
  Reader.option_of_says h (by simp) <|
    Reader.list_of_says h fun v hv _ hd => Reader.literal_of_says hd (hdepth v hv)

/-- The members of the document of a specification. -/
def members (spec : InputSpec) : List (String × Json) :=
  ("required", .bool spec.required) ::
    ((spec.kind.map fun k => ("kind", k.toJson)).toList ++
      ((spec.default.map fun v => ("default", v.json)).toList ++
        ((spec.choices.map fun vs => ("enum", .array (vs.map (·.json)))).toList ++ [])))

lemma toJson_eq : spec.toJson = .object spec.members := by
  simp [toJson, members]

lemma nodup_members : (spec.members.map Prod.fst).Nodup := by
  obtain ⟨required, kind, default, choices⟩ := spec
  cases kind <;> cases default <;> cases choices <;> simp [members]

/-- The members of a specification fill one without a default of null. -/
lemma fills (hdefault : ∀ v ∈ spec.default, v.json.depth ≤ levels + 1)
    (hchoices : ∀ vs ∈ spec.choices, ∀ v ∈ vs, v.json.depth ≤ levels) :
    record.Fills (levels + 1) spec.members record.start spec.withoutNull := by
  refine .cons rfl (fun d hd => bind_eq_ok_iff.2 ⟨_, Reader.bool_of_says hd, rfl⟩) ?_
  refine .optional (fun kind => InputSpec.mk spec.required kind none none) rfl
    (fun k _ d hd => ?_) ?_
  · have hk : Kind.read (levels + 1) d = .ok k :=
      map_eq_ok_iff.2 ⟨k.name, Reader.string_of_says hd, rfl⟩
    exact bind_eq_ok_iff.2 ⟨_, Reader.option_of_says hd nofun hk, rfl⟩
  refine .optional (fun default =>
      InputSpec.mk spec.required spec.kind (default.filter fun v => !v.isNull) none) rfl
    (fun v hv d hd => ?_) ?_
  · exact bind_eq_ok_iff.2 ⟨_, option_literal_of_says hd (hdefault v hv), rfl⟩
  refine .optional (InputSpec.mk spec.required spec.kind spec.withoutNull.default) rfl
    (fun vs hvs d hd => ?_) (.nil _)
  exact bind_eq_ok_iff.2 ⟨_, option_choices_of_says hd (hchoices vs hvs), rfl⟩

lemma read_of_says {d : Draft} (h : d.Says spec.toJson)
    (hdefault : ∀ v ∈ spec.default, v.json.depth ≤ levels + 1)
    (hchoices : ∀ vs ∈ spec.choices, ∀ v ∈ vs, v.json.depth ≤ levels) :
    InputSpec.read (levels + 2) d = .ok spec.withoutNull := by
  rw [toJson_eq] at h
  exact Record.Fills.read_of_says (fills hdefault hchoices) nodup_members rfl h

/-- A specification that fits is read from its text, but without a default of null. -/
lemma ofText_chars {gaps : Gaps} (hgaps : gaps.Blank) (hfits : spec.Fits) :
    InputSpec.read.ofText (String.ofList (spec.toJson.chars gaps 0)) = .ok spec.withoutNull := by
  refine Reader.ofText_chars hgaps (rereads_of_floats hfits.rereads) fun d hd => ?_
  refine read_of_says hd (fun v hv => ?_) fun vs hvs v hv => ?_
  · exact (depth_default_le hfits v hv).trans (by decide)
  · exact (depth_choices_le hfits vs hvs v hv).trans (by decide)

/-! ### Inputs that were written and read -/

/-- The inputs of one list are those of the other, with their specifications as read from the texts
of these. -/
def RereadAs (inputs reread : List (String × InputSpec)) : Prop :=
  List.Forall₂ (fun a b => b.1 = a.1 ∧ InputSpec.read.ofText a.2.toJson.compact = .ok b.2)
    inputs reread

variable {typeName : String} {inputs reread : List (String × InputSpec)}

lemma RereadAs.eq_map (h : RereadAs inputs reread) (hfits : ∀ input ∈ inputs, input.2.Fits) :
    reread = inputs.map (Prod.map id withoutNull) := by
  induction h with
  | nil => rfl
  | @cons a b inputs reread hab _ ih =>
    obtain ⟨hname, hread⟩ := hab
    obtain ⟨ha, hfits⟩ := List.forall_mem_cons.1 hfits
    have hspec : b.2 = a.2.withoutNull :=
      Except.ok.inj (hread.symm.trans (ofText_chars Gaps.none_blank ha))
    rw [List.map_cons, ← ih hfits]
    exact congrArg (· :: reread) (Prod.ext hname hspec)

/-- Without the defaults of null, an input that had one gets no argument. -/
lemma resolve_withoutNull_ne (hnodup : (inputs.map Prod.fst).Nodup) {input : String × InputSpec}
    (hinput : input ∈ inputs) (hdefault : input.2.default = some .null) :
    Args.resolve false typeName (inputs.map (Prod.map id withoutNull)) ∅ ≠
      Args.resolve false typeName inputs ∅ := by
  intro he
  have hresolves : ∃ given, Args.resolve false typeName inputs ∅ = .ok given := by
    rw [Args.resolve_eq_fill fun hstrict => absurd hstrict Bool.false_ne_true]
    exact Args.exists_of_fill hnodup nofun
  obtain ⟨given, hgiven⟩ := hresolves
  have hnodup' : ((inputs.map (Prod.map id withoutNull)).map Prod.fst).Nodup := by
    rwa [List.map_map, show Prod.fst ∘ Prod.map id withoutNull = Prod.fst from rfl]
  have hbefore : given[input.1]? = some (.literal .null) := by
    simp [(Args.resolved_of_resolve hnodup hgiven).get_eq input hinput, hdefault]
  have hafter : given[input.1]? = none := by
    have hget := (Args.resolved_of_resolve hnodup' (he.trans hgiven)).get_eq _
      (List.mem_map_of_mem hinput)
    simpa [withoutNull, hdefault, Option.filter_some, Literal.isNull, Literal.null] using hget
  simp [hbefore] at hafter

/-- **Specifications survive their texts, but not a default of null.** A specification that fits is
read from its text, compact or pretty, as it was except that it has no default of null. The inputs
of a signature that are written and read resolve all arguments as before just where none of them has
such a default. -/
theorem reread_exactly (spec : InputSpec) (hfits : spec.Fits) :
    InputSpec.read.ofText spec.toJson.compact = .ok spec.withoutNull ∧
    InputSpec.read.ofText spec.toJson.pretty = .ok spec.withoutNull ∧
    (spec.withoutNull = spec ↔ spec.default ≠ some .null) ∧
    ∀ (σ : Type) (s : Signature σ) (reread : List (String × InputSpec)),
      RereadAs s.inputs reread → (∀ input ∈ s.inputs, input.2.Fits) →
      ((∀ strict args, Args.resolve strict s.typeName reread args =
          Args.resolve strict s.typeName s.inputs args) ↔
        ∀ input ∈ s.inputs, input.2.default ≠ some .null) := by
  refine ⟨ofText_chars Gaps.none_blank hfits, ofText_chars Gaps.indented_blank hfits,
    withoutNull_eq_self_iff, fun σ s reread hreread hfits => ?_⟩
  rw [hreread.eq_map hfits]
  constructor
  · intro h input hinput hdefault
    exact resolve_withoutNull_ne s.inputs_nodup hinput hdefault (h false ∅)
  · intro h strict args
    have hsame : ∀ input ∈ s.inputs, Prod.map id withoutNull input = id input :=
      fun input hinput => Prod.ext rfl (withoutNull_eq_self_iff.2 (h input hinput))
    rw [List.map_congr_left hsame, List.map_id]

/-- A required input whose default is null. -/
def nullDefault : InputSpec := InputSpec.scalar.mandatory.withDefault .null

theorem nullDefault_lost :
    nullDefault.Fits ∧ nullDefault.toJson.compact = "\x7b\"required\":true,\"default\":null\x7d" ∧
    (∃ spec, InputSpec.read.ofText nullDefault.toJson.compact = .ok spec ∧ spec ≠ nullDefault ∧
      (∃ given, Args.resolve true "SaveImage" [("prefix", nullDefault)] ∅ = .ok given ∧
        given["prefix"]? = some (.literal .null)) ∧
      Args.resolve true "SaveImage" [("prefix", spec)] ∅ =
        .error (.missingRequiredInput "SaveImage" "prefix")) := by
  have hfits : nullDefault.Fits := by decide +kernel
  refine ⟨hfits, by decide +kernel, _, ofText_chars Gaps.none_blank hfits, ?_, ?_, ?_⟩
  · rw [ne_eq, withoutNull_eq_self_iff]
    exact fun h => h rfl
  · exact ⟨_, rfl, Std.ExtTreeMap.getElem?_insert_self⟩
  · rfl

/-- A number with a default, one and a half, and two choices. -/
def scale : InputSpec :=
  let value := .ofNumber (.float ⟨false, 4609434218613702656, by decide⟩)
  (InputSpec.scalar.withDefault value).withChoices [.ofUInt32 1, value]

/-- A signature with a connection, a number with a default, and a default of null. -/
def upscaler : Signature OutputSpec where
  typeName := "ImageScale"
  inputs := [("image", (InputSpec.connection ⟨"IMAGE"⟩).mandatory), ("scale", scale),
    ("crop", nullDefault)]
  outputs := []
  typeName_notBlank := by decide
  inputs_nodup := by decide
  outputs_nodup := by decide

theorem upscaler_reread :
    (∀ input ∈ upscaler.inputs, input.2.Fits) ∧
    InputSpec.read.ofText scale.toJson.compact = .ok scale ∧
    InputSpec.read.ofText scale.toJson.pretty = .ok scale ∧
    ∃ reread, RereadAs upscaler.inputs reread ∧
      ¬ ∀ strict args, Args.resolve strict "ImageScale" reread args =
        Args.resolve strict "ImageScale" upscaler.inputs args := by
  have hfits : ∀ input ∈ upscaler.inputs, input.2.Fits := by decide +kernel
  have hscale : scale.withoutNull = scale := by rfl
  obtain ⟨hcompact, hpretty, -, hresolve⟩ :=
    reread_exactly scale (hfits ("scale", scale) (by simp [upscaler]))
  have hreread : RereadAs upscaler.inputs (upscaler.inputs.map (Prod.map id withoutNull)) :=
    List.forall₂_map_right_iff.2 <| List.forall₂_same.2 fun input hinput =>
      ⟨rfl, ofText_chars Gaps.none_blank (hfits input hinput)⟩
  refine ⟨hfits, hscale ▸ hcompact, hscale ▸ hpretty, _, hreread, fun hsame => ?_⟩
  exact (hresolve _ upscaler _ hreread hfits).1 hsame ("crop", nullDefault) (by simp [upscaler]) rfl

end InputSpec

end PromptGraph
