import PromptGraph.Proofs.Addition
import PromptGraph.Proofs.Catalog
import PromptGraph.Proofs.LastOfEach
import PromptGraph.Proofs.ResolveExact
import PromptGraph.Proofs.ShiftedPrompt
import PromptGraph.TextToImage.Workflow

/-!
Graphs that are built in stages.

A stage adds a node. Its inputs get values that depend on the flags, or outputs of the nodes of
earlier stages, by the names of these outputs. What the entry of a node has for its inputs follows
from what lookups, strict resolution and compiling let pass; and whether all of them do is up to the
definitions, not to the values.
-/

namespace PromptGraph

lemma NodeRecord.handle_out_eq_ok_iff {r : NodeRecord} {name : String} {out : Out} :
    r.handle.out name = .ok out ↔
      ∃ o, r.definition.output? name = some o ∧ out = ⟨o.kind, r.id, o.index⟩ := by
  cases ho : r.definition.output? name with
  | some o =>
    rw [r.shows_handle.out_declared (name, o) (Signature.output?_eq_some_iff.1 ho)]
    simp [eq_comm]
  | none =>
    have hname : ∀ output ∈ r.definition.outputs, output.1 ≠ name := by
      rintro ⟨name, o⟩ houtput rfl
      simp [Signature.output?_eq_some_iff.2 houtput] at ho
    rw [r.shows_handle.out_undeclared name hname]
    simp

/-- A recorded argument of a declared input is in the entry. -/
lemma NodeRecord.getElem?_entry_of_declared {r : NodeRecord} {name : String} {spec : InputSpec}
    {arg : Arg} (hspec : r.definition.input? name = some spec) (harg : r.args[name]? = some arg) :
    r.entry.inputs[name]? = some arg.value := by
  have hlookup : r.definition.inputs.lookup name = some spec := hspec
  rw [getElem?_entry_inputs, hlookup, harg]
  rfl

namespace TextToImage

/-- What an input gets: a value, or an output of the node of an earlier stage. The stages count
from zero. -/
inductive Source where
  | value (of : Flags → Literal)
  | output (stage : Nat) (name : String)

/-- A node to add: its type, its title, and what its inputs get. -/
structure Stage where
  typeName : String
  title : String
  inputs : List (String × Source)
  inputs_nodup : (inputs.map Prod.fst).Nodup := by decide

/-- The argument that a source gives, with the handles of the stages before. -/
def Source.eval (flags : Flags) (handles : List NodeHandle) : Source → Except BuildError Arg
  | .value of => return .literal (of flags)
  | .output stage name =>
    match handles[stage]? with
    | some handle => do return .connection (← handle.out name)
    | none => .error (.unknownOutput "" name)

namespace Stage

def args (flags : Flags) (handles : List NodeHandle) (stage : Stage) :
    Except BuildError (List (String × Arg)) :=
  stage.inputs.mapM fun (name, source) => return (name, ← source.eval flags handles)

/-- Adds the node of a stage to the handles and the graph there are. -/
def run (c : Catalog) (flags : Flags) (s : List NodeHandle × Graph) (stage : Stage) :
    Except BuildError (List NodeHandle × Graph) := do
  let d ← c.node stage.typeName
  let (handle, g) ← place s.2 d stage.title (← stage.args flags s.1)
  return (s.1 ++ [handle], g)

/-- The handles and the graph of all stages. -/
def runAll (c : Catalog) (flags : Flags) (stages : List Stage) :
    Except BuildError (List NodeHandle × Graph) :=
  stages.foldlM (run c flags) ([], Graph.empty {})

end Stage

/-! ### Sources -/

variable {c : Catalog} {flags : Flags} {handles : List NodeHandle} {rs : List NodeRecord}

namespace Source

lemma eval_output_eq_ok_iff {i : Nat} {name : String} {arg : Arg} :
    (output i name).eval flags (rs.map (·.handle)) = .ok arg ↔
      ∃ r o, rs[i]? = some r ∧ r.definition.output? name = some o ∧
        arg = .connection ⟨o.kind, r.id, o.index⟩ := by
  rw [eval, List.getElem?_map]
  cases rs[i]? with
  | none => simp
  | some r =>
    simp only [Option.map_some, bind_eq_ok_iff, NodeRecord.handle_out_eq_ok_iff, Option.some.injEq]
    constructor
    · rintro ⟨out, ⟨o, ho, rfl⟩, harg⟩
      exact ⟨r, o, rfl, ho, (Except.ok.inj harg).symm⟩
    · rintro ⟨r, o, rfl, ho, rfl⟩
      exact ⟨_, ⟨o, ho, rfl⟩, rfl⟩

/-- Later handles do not change what a source gives. -/
lemma eval_append {s : Source} {arg : Arg} (h : s.eval flags handles = .ok arg)
    (more : List NodeHandle) : s.eval flags (handles ++ more) = .ok arg := by
  cases s with
  | value of => exact h
  | output i name =>
    rw [eval] at h ⊢
    cases hi : handles[i]? with
    | none => simp [hi] at h
    | some handle =>
      obtain ⟨hlt, -⟩ := List.getElem?_eq_some_iff.1 hi
      have hmore : (handles ++ more)[i]? = some handle := by
        rw [List.getElem?_append_left hlt, hi]
      simpa only [hi, hmore] using h

end Source

/-! ### One stage -/

namespace Stage

variable {stage : Stage} {args : List (String × Arg)}

lemma args_eq_ok_iff : stage.args flags handles = .ok args ↔
    List.Forall₂ (fun input arg => arg.1 = input.1 ∧ input.2.eval flags handles = .ok arg.2)
      stage.inputs args := by
  have hone (input : String × Source) (arg : String × Arg) :
      (do return (input.1, ← input.2.eval flags handles) : Except BuildError _) = .ok arg ↔
        arg.1 = input.1 ∧ input.2.eval flags handles = .ok arg.2 := by
    rw [bind_eq_ok_iff]
    constructor
    · rintro ⟨a, ha, he⟩
      cases he
      exact ⟨rfl, ha⟩
    · rintro ⟨hname, ha⟩
      exact ⟨_, ha, by rw [← hname]; rfl⟩
  rw [Stage.args, mapM_eq_ok_iff]
  exact ⟨fun h => h.imp fun _ _ => (hone _ _).1, fun h => h.imp fun _ _ => (hone _ _).2⟩

lemma args_append (h : stage.args flags handles = .ok args) (more : List NodeHandle) :
    stage.args flags (handles ++ more) = .ok args :=
  args_eq_ok_iff.2 <| (args_eq_ok_iff.1 h).imp fun _ _ hinput =>
    ⟨hinput.1, Source.eval_append hinput.2 more⟩

lemma map_fst_args (h : stage.args flags handles = .ok args) :
    args.map Prod.fst = stage.inputs.map Prod.fst := by
  have hnames : List.Forall₂ (· = ·) (stage.inputs.map Prod.fst) (args.map Prod.fst) := by
    rw [List.forall₂_map_left_iff, List.forall₂_map_right_iff]
    exact (args_eq_ok_iff.1 h).imp fun _ _ hinput => hinput.1.symm
  rw [List.forall₂_eq_eq_eq] at hnames
  exact hnames.symm

lemma place_eq_ok_iff {g g' : Graph} {d : NodeDefinition} {handle : NodeHandle} {title : String} :
    place g d title args = .ok (handle, g') ↔
      ∃ given, Args.resolve g.config.strict d.typeName d.inputs (.ofList args) = .ok given ∧
        g.nextId ≠ Graph.lastId ∧
        handle = NodeRecord.handle ⟨g.nextId, d, some title, given⟩ ∧
        g' = (g.push d given (some title)).2 := by
  unfold place
  obtain ⟨e, he⟩ | ⟨given, hgiven, hid, hadd⟩ := g.addNode_cases d (.ofList args) (some title)
  · rw [he]
    refine iff_of_false nofun ?_
    rintro ⟨given, hgiven, hid, -⟩
    rw [Graph.addNode_of_resolve hgiven hid] at he
    cases he
  · rw [hadd, hgiven]
    simp only [Except.ok.injEq, Prod.mk.injEq, exists_eq_left', hid, ne_eq, not_false_eq_true,
      true_and, eq_comm]
    rfl

/-- The node of a stage: of the type that the catalog has, and with the arguments of the stage,
resolved. -/
structure Makes (c : Catalog) (flags : Flags) (rs : List NodeRecord) (stage : Stage)
    (r : NodeRecord) : Prop where
  definition_eq : c.node stage.typeName = .ok r.definition
  label_eq : r.label = some stage.title
  args_eq : ∃ args, stage.args flags (rs.map (·.handle)) = .ok args ∧
    Args.resolve true r.definition.typeName r.definition.inputs (.ofList args) = .ok r.args

lemma Makes.append {r : NodeRecord} (h : stage.Makes c flags rs r) (more : List NodeRecord) :
    stage.Makes c flags (rs ++ more) r where
  definition_eq := h.definition_eq
  label_eq := h.label_eq
  args_eq := by
    obtain ⟨args, hargs, hresolve⟩ := h.args_eq
    exact ⟨args, by rw [List.map_append]; exact args_append hargs _, hresolve⟩

/-- What there is after some stages. -/
structure Built (c : Catalog) (flags : Flags) (stages : List Stage) (s : List NodeHandle × Graph) :
    Prop where
  consistent : s.2.Consistent
  config_eq : s.2.config = {}
  handles_eq : s.1 = s.2.nodes.toList.map (·.handle)
  makes : List.Forall₂ (fun stage r => stage.Makes c flags s.2.nodes.toList r) stages
    s.2.nodes.toList

variable {stages : List Stage} {s s' : List NodeHandle × Graph}

lemma built_empty : Built c flags [] ([], Graph.empty {}) :=
  ⟨Graph.consistent_empty {}, rfl, rfl, .nil⟩

lemma run_eq_ok_iff : run c flags s stage = .ok s' ↔ ∃ d args given,
    c.node stage.typeName = .ok d ∧ stage.args flags s.1 = .ok args ∧
    Args.resolve s.2.config.strict d.typeName d.inputs (.ofList args) = .ok given ∧
    s.2.nextId ≠ Graph.lastId ∧
    s' = (s.1 ++ [NodeRecord.handle ⟨s.2.nextId, d, some stage.title, given⟩],
      (s.2.push d given (some stage.title)).2) := by
  simp only [run, bind_eq_ok_iff, Prod.exists, place_eq_ok_iff]
  constructor
  · rintro ⟨d, hd, args, hargs, _, _, ⟨given, hgiven, hid, rfl, rfl⟩, hs⟩
    exact ⟨d, args, given, hd, hargs, hgiven, hid, (Except.ok.inj hs).symm⟩
  · rintro ⟨d, args, given, hd, hargs, hgiven, hid, rfl⟩
    exact ⟨d, hd, args, hargs, _, _, ⟨given, hgiven, hid, rfl, rfl⟩, rfl⟩

/-- A stage that is run makes one more node. -/
lemma Built.exists_makes (hs : Built c flags stages s) (h : run c flags s stage = .ok s') :
    ∃ r, stage.Makes c flags s.2.nodes.toList r ∧ s'.1 = s.1 ++ [r.handle] ∧
      s'.2.nodes.toList = s.2.nodes.toList ++ [r] := by
  obtain ⟨d, args, given, hd, hargs, hgiven, -, rfl⟩ := run_eq_ok_iff.1 h
  rw [hs.handles_eq] at hargs
  rw [hs.config_eq] at hgiven
  exact ⟨_, ⟨hd, rfl, args, hargs, hgiven⟩, rfl, by simp⟩

/-- One more stage. -/
lemma Built.snoc (hs : Built c flags stages s) (h : run c flags s stage = .ok s') :
    Built c flags (stages ++ [stage]) s' := by
  obtain ⟨r, hr, hhandles, hnodes⟩ := hs.exists_makes h
  obtain ⟨d, args, given, -, -, -, hid, rfl⟩ := run_eq_ok_iff.1 h
  refine ⟨hs.consistent.push hid _ _ _, hs.config_eq, ?_, ?_⟩
  · rw [hhandles, hnodes, List.map_append, ← hs.handles_eq]
    rfl
  · rw [hnodes]
    exact List.rel_append (hs.makes.imp fun _ _ h => h.append _) (.cons (hr.append _) .nil)

lemma runAll_snoc : runAll c flags (stages ++ [stage]) =
    runAll c flags stages >>= fun s => run c flags s stage := by
  simp [runAll, List.foldlM_append]

lemma built_of_runAll (h : runAll c flags stages = .ok s) : Built c flags stages s := by
  induction stages using List.reverseRecOn generalizing s with
  | nil => exact Except.ok.inj h ▸ built_empty
  | append_singleton stages stage ih =>
    rw [runAll_snoc] at h
    obtain ⟨s', hs', hs⟩ := bind_eq_ok_iff.1 h
    exact (ih hs').snoc hs

/-! ### What a node records -/

variable {r : NodeRecord}

lemma mem_args_iff (h : stage.args flags handles = .ok args) {name : String} {arg : Arg} :
    (name, arg) ∈ args ↔
      ∃ source, (name, source) ∈ stage.inputs ∧ source.eval flags handles = .ok arg := by
  have hpairs := args_eq_ok_iff.1 h
  constructor
  · intro hmem
    obtain ⟨⟨_, source⟩, hinput, hname, hsource⟩ := exists_of_forall₂ hpairs.flip _ hmem
    cases hname
    exact ⟨source, hinput, hsource⟩
  · rintro ⟨source, hinput, hsource⟩
    obtain ⟨⟨_, arg'⟩, harg, hname, hsource'⟩ := exists_of_forall₂ hpairs _ hinput
    cases hname
    cases hsource.symm.trans hsource'
    exact harg

lemma getElem?_ofList_args (h : stage.args flags handles = .ok args) {name : String} {arg : Arg} :
    (Std.ExtTreeMap.ofList args : Args)[name]? = some arg ↔
      ∃ source, (name, source) ∈ stage.inputs ∧ source.eval flags handles = .ok arg := by
  have hnodup : (args.map Prod.fst).Nodup := map_fst_args h ▸ stage.inputs_nodup
  rw [NameMap.getElem?_ofList_eq_some_iff, lastOfEach_eq_self_iff.2 hnodup, mem_args_iff h]

namespace Makes

/-- An input of the stage is declared, and has what its source gives. -/
lemma given (hm : stage.Makes c flags rs r) {name : String} {source : Source}
    (hinput : (name, source) ∈ stage.inputs) : ∃ spec arg,
      r.definition.input? name = some spec ∧ source.eval flags (rs.map (·.handle)) = .ok arg ∧
        r.args[name]? = some arg := by
  obtain ⟨args, hargs, hresolve⟩ := hm.args_eq
  obtain ⟨⟨_, arg⟩, -, hname, hsource⟩ := exists_of_forall₂ (args_eq_ok_iff.1 hargs) _ hinput
  cases hname
  have harg := (getElem?_ofList_args hargs).2 ⟨source, hinput, hsource⟩
  have hname : name ∈ (Std.ExtTreeMap.ofList args : Args) := by
    rw [Std.ExtTreeMap.mem_iff_isSome_getElem?, harg]
    rfl
  have hdeclared := Args.isDeclared_of_resolve hresolve hname
  rw [Args.isDeclared_eq_isSome_lookup] at hdeclared
  obtain ⟨spec, hspec⟩ := Option.isSome_iff_exists.1 hdeclared
  refine ⟨spec, arg, hspec, hsource, ?_⟩
  rw [Args.resolve_get r.definition.inputs_nodup hresolve, hspec, harg]
  rfl

/-- Any other input has its default. -/
lemma defaulted (hm : stage.Makes c flags rs r) {name : String}
    (hname : name ∉ stage.inputs.map Prod.fst) :
    r.args[name]? = (r.definition.input? name).bind fun spec => spec.default.map .literal := by
  obtain ⟨args, hargs, hresolve⟩ := hm.args_eq
  have hnone : (Std.ExtTreeMap.ofList args : Args)[name]? = none := by
    refine Option.eq_none_iff_forall_ne_some.2 fun arg harg => hname ?_
    obtain ⟨source, hinput, -⟩ := (getElem?_ofList_args hargs).1 harg
    exact List.mem_map_of_mem hinput
  rw [Args.resolve_get r.definition.inputs_nodup hresolve, hnone]
  rfl

/-- A connection is to an output of an earlier stage. -/
lemma connected (hm : stage.Makes c flags rs r) {name : String} {out : Out}
    (hout : r.args[name]? = some (.connection out)) : ∃ i output producer o,
      (name, .output i output) ∈ stage.inputs ∧ rs[i]? = some producer ∧
        producer.definition.output? output = some o ∧ out = ⟨o.kind, producer.id, o.index⟩ := by
  obtain ⟨args, hargs, hresolve⟩ := hm.args_eq
  have hgiven := Args.connection_of_resolve r.definition.inputs_nodup hresolve hout
  obtain ⟨source, hinput, hsource⟩ := (getElem?_ofList_args hargs).1 hgiven
  cases source with
  | value of => cases hsource
  | output i output =>
    obtain ⟨producer, o, hproducer, ho, he⟩ := Source.eval_output_eq_ok_iff.1 hsource
    exact ⟨i, output, producer, o, hinput, hproducer, ho, Arg.connection.inj he⟩

end Makes

/-! ### Entries -/

/-- An entry is that of a stage, by what a catalog declares: the inputs of the stage have their
values, or refer to the declared places of outputs of the kinds that they declare, under the ids of
the stages in order; and any other input has its default. -/
structure Fulfils (c : Catalog) (flags : Flags) (stages : List Stage) (stage : Stage)
    (d : NodeDefinition) (entry : PromptEntry) : Prop where
  definition_eq : c.node stage.typeName = .ok d
  classType_eq : entry.classType = stage.typeName
  annotations_eq : entry.annotations = some ⟨some stage.title⟩
  value_eq : ∀ name of, (name, .value of) ∈ stage.inputs → entry.inputs[name]? = some (of flags)
  reference_eq : ∀ name i output, (name, .output i output) ∈ stage.inputs →
    ∃ value spec producer source o, entry.inputs[name]? = some value ∧ d.input? name = some spec ∧
      stages[i]? = some producer ∧ c.node producer.typeName = .ok source ∧
      source.output? output = some o ∧ spec.kind = some o.kind ∧
      value.json = .array [.string (toString (i + 1)), .number (.ofUInt32 o.index)]
  default_eq : ∀ name, name ∉ stage.inputs.map Prod.fst →
    entry.inputs[name]? = (d.input? name).bind (·.default)

namespace Built

/-- The ids count the stages from one. -/
lemma id_eq (hs : Built c flags stages s) {i : Nat} (hr : s.2.nodes.toList[i]? = some r) :
    r.id.toNat = i + 1 := by
  obtain ⟨hi, rfl⟩ := List.getElem?_eq_some_iff.1 hr
  have hid := hs.consistent.id_eq i (by simpa using hi)
  have hstart := hs.consistent.start (by rw [hs.config_eq])
  rw [hs.config_eq, UInt64.toNat_one] at hstart
  rw [Array.getElem_toList, hid, hstart, Nat.add_comm]

lemma fulfils (hc : c.Consistent) (hs : Built c flags stages s) (hsound : s.2.firstFault? = none)
    (hm : stage.Makes c flags s.2.nodes.toList r) (hr : r ∈ s.2.nodes) :
    stage.Fulfils c flags stages r.definition r.entry where
  definition_eq := hm.definition_eq
  classType_eq := hc.typeName_eq_of_node hm.definition_eq
  annotations_eq := by rw [NodeRecord.entry, hm.label_eq, Option.map_some]
  value_eq name of hinput := by
    obtain ⟨spec, arg, hspec, hsource, harg⟩ := hm.given hinput
    cases hsource
    exact NodeRecord.getElem?_entry_of_declared hspec harg
  reference_eq name i output hinput := by
    obtain ⟨spec, arg, hspec, hsource, harg⟩ := hm.given hinput
    obtain ⟨rp, o, hrp, ho, rfl⟩ := Source.eval_output_eq_ok_iff.1 hsource
    obtain ⟨producer, hproducer, hmakes⟩ := getElem?_of_forall₂ hs.makes hrp
    have hkind := hs.consistent.kind_eq_of_connected hsound hr
      (lookup_eq_some_iff_mem r.definition.inputs_nodup |>.1 hspec) harg
    refine ⟨_, spec, producer, rp.definition, o,
      NodeRecord.getElem?_entry_of_declared hspec harg, hspec, hproducer, hmakes.definition_eq, ho,
      hkind, ?_⟩
    rw [← hs.id_eq hrp]
    rfl
  default_eq name hname := by
    rw [NodeRecord.getElem?_entry_inputs, hm.defaulted hname, Signature.input?]
    cases r.definition.inputs.lookup name with
    | none => rfl
    | some spec => simp [Function.comp_def, Arg.value]

/-- Compiling gives an entry for every stage, under the ids from one on. -/
lemma compiled (hc : c.Consistent) (hs : Built c flags stages s) {p : Prompt}
    (hp : s.2.compile = .ok p) :
    p.ids.map UInt64.toNat = List.range' 1 stages.length ∧
    List.Forall₂ (fun stage (_, entry) => ∃ d, stage.Fulfils c flags stages d entry) stages
      p.entries := by
  obtain ⟨hsound, rfl⟩ := okUnless_eq_ok_iff.1 (s.2.compile_eq ▸ hp)
  constructor
  · rw [Prompt.ids, Graph.document, List.map_map, List.map_map, hs.makes.length_eq]
    refine List.ext_getElem (by simp) fun i hi _ => ?_
    rw [List.length_map] at hi
    rw [List.getElem_map, List.getElem_range', Nat.one_mul, Nat.add_comm]
    exact hs.id_eq (List.getElem?_eq_getElem hi)
  · have hmem := (List.forall₂_and_left _ _).2
      ⟨fun r (hr : r ∈ s.2.nodes.toList) => hr, hs.makes.flip⟩
    rw [Graph.document, List.forall₂_map_right_iff]
    exact hmem.flip.imp fun stage r h =>
      ⟨r.definition, hs.fulfils hc hsound h.2 (Array.mem_toList_iff.1 h.1)⟩

end Built

end Stage

/-! ### Catalogs that stages suit -/

/-- The input can take what the source gives, with these definitions of the stages before. -/
def Source.Fits (ds : List NodeDefinition) (spec : InputSpec) : Source → Prop
  | .value _ => True
  | .output i name => ∃ o ∈ ds[i]?.bind (·.output? name), spec.kind = some o.kind

instance (ds : List NodeDefinition) (spec : InputSpec) (s : Source) :
    Decidable (s.Fits ds spec) :=
  match s with
  | .value _ => inferInstanceAs (Decidable True)
  | .output i name =>
    inferInstanceAs (Decidable (∃ o ∈ ds[i]?.bind (·.output? name), spec.kind = some o.kind))

/-- Later definitions do not matter. -/
lemma Source.Fits.append {ds : List NodeDefinition} {spec : InputSpec} {s : Source}
    (h : s.Fits ds spec) (more : List NodeDefinition) : s.Fits (ds ++ more) spec := by
  cases s with
  | value of => trivial
  | output i name =>
    obtain ⟨o, ho, hkind⟩ := h
    obtain ⟨d, hd, ho⟩ := Option.bind_eq_some_iff.1 ho
    obtain ⟨hi, -⟩ := List.getElem?_eq_some_iff.1 hd
    refine ⟨o, Option.bind_eq_some_iff.2 ⟨d, ?_, ho⟩, hkind⟩
    rw [List.getElem?_append_left hi, hd]

lemma Source.exists_eval {spec : InputSpec} {s : Source}
    (h : s.Fits (rs.map (·.definition)) spec) :
    ∃ arg, s.eval flags (rs.map (·.handle)) = .ok arg := by
  cases s with
  | value of => exact ⟨_, rfl⟩
  | output i name =>
    obtain ⟨o, ho, -⟩ := h
    rw [List.getElem?_map, Option.bind_map, Option.mem_def, Option.bind_eq_some_iff] at ho
    obtain ⟨r, hr, ho⟩ := ho
    exact ⟨_, eval_output_eq_ok_iff.2 ⟨r, o, hr, ho, rfl⟩⟩

namespace Stage

/-- The definition declares the inputs of the stage, each for what it gets, and can do without
others. -/
structure Fits (ds : List NodeDefinition) (stage : Stage) (d : NodeDefinition) : Prop where
  takes : ∀ input ∈ stage.inputs, ∃ spec ∈ d.input? input.1, input.2.Fits ds spec
  covers : ∀ input ∈ d.inputs, input.2.required = true → input.2.default = none →
    input.1 ∈ stage.inputs.map Prod.fst

instance (ds : List NodeDefinition) (stage : Stage) (d : NodeDefinition) :
    Decidable (stage.Fits ds d) :=
  decidable_of_iff ((∀ input ∈ stage.inputs, ∃ spec ∈ d.input? input.1, input.2.Fits ds spec) ∧
    ∀ input ∈ d.inputs, input.2.required = true → input.2.default = none →
      input.1 ∈ stage.inputs.map Prod.fst)
    ⟨fun h => ⟨h.1, h.2⟩, fun h => ⟨h.takes, h.covers⟩⟩

/-- The definitions of all stages, if the catalog has them and they fit. -/
def definitions? (c : Catalog) (stages : List Stage) : Option (List NodeDefinition) :=
  stages.foldlM (fun ds stage => do
    let d ← (c.node stage.typeName).toOption
    if stage.Fits ds d then some (ds ++ [d]) else none) []

variable {stage : Stage} {stages : List Stage} {s : List NodeHandle × Graph}
  {ds : List NodeDefinition} {d : NodeDefinition}

lemma definitions?_snoc : definitions? c (stages ++ [stage]) = some ds ↔
    ∃ ds' d, definitions? c stages = some ds' ∧ c.node stage.typeName = .ok d ∧
      stage.Fits ds' d ∧ ds = ds' ++ [d] := by
  rw [definitions?, List.foldlM_append, ← definitions?]
  simp only [List.foldlM_cons, List.foldlM_nil, Option.bind_eq_bind, Option.bind_eq_some_iff,
    Option.pure_def, Option.some.injEq, exists_eq_right]
  refine exists_congr fun ds' => ?_
  cases c.node stage.typeName with
  | error e => simp [Except.toOption]
  | ok d => by_cases hfits : stage.Fits ds' d <;> simp [Except.toOption, hfits, eq_comm]

lemma Fits.append (h : stage.Fits ds d) (more : List NodeDefinition) :
    stage.Fits (ds ++ more) d where
  takes input hinput := by
    obtain ⟨spec, hspec, hfits⟩ := h.takes input hinput
    exact ⟨spec, hspec, hfits.append more⟩
  covers := h.covers

/-- Arguments for the inputs of a stage resolve, if the stage fits. -/
lemma Fits.exists_resolve (h : stage.Fits ds d) {args : Args}
    (hmem : ∀ name : String, name ∈ args ↔ name ∈ stage.inputs.map Prod.fst) :
    ∃ given, Args.resolve true d.typeName d.inputs args = .ok given := by
  have hdeclared : args.undeclared d.inputs = [] := by
    refine Args.undeclared_eq_nil_iff.2 fun name hname => ?_
    obtain ⟨input, hinput, rfl⟩ := List.mem_map.1 ((hmem name).1 hname)
    obtain ⟨spec, hspec, -⟩ := h.takes input hinput
    rw [Args.isDeclared_eq_isSome_lookup]
    exact Option.isSome_of_mem hspec
  rw [Args.resolve_eq_fill fun _ => hdeclared]
  refine Args.exists_of_fill d.inputs_nodup fun _ input hinput => ?_
  rw [Args.lacks_filter_iff hinput]
  rintro ⟨hrequired, hdefault, hname⟩
  exact hname ((hmem _).2 (h.covers input hinput hrequired hdefault))

/-- A stage that fits can be run, as long as there are ids. -/
lemma Built.exists_run (hs : Built c flags stages s) (hd : c.node stage.typeName = .ok d)
    (hfits : stage.Fits (s.2.nodes.toList.map (·.definition)) d) (hid : s.2.nextId ≠ Graph.lastId) :
    ∃ s' r, run c flags s stage = .ok s' ∧ s'.2.nodes.toList = s.2.nodes.toList ++ [r] ∧
      r.definition = d := by
  have hargs : ∃ args, stage.args flags s.1 = .ok args := by
    refine exists_mapM fun input hinput => ?_
    obtain ⟨spec, -, hsource⟩ := hfits.takes input hinput
    obtain ⟨arg, harg⟩ : ∃ arg, input.2.eval flags s.1 = .ok arg := by
      rw [hs.handles_eq]
      exact Source.exists_eval hsource
    exact ⟨(input.1, arg), bind_eq_ok_iff.2 ⟨arg, harg, rfl⟩⟩
  obtain ⟨args, hargs⟩ := hargs
  have hmem (name : String) : name ∈ (Std.ExtTreeMap.ofList args : Args) ↔
      name ∈ stage.inputs.map Prod.fst := by
    rw [NameMap.mem_ofList_iff, map_fst_args hargs]
  obtain ⟨given, hgiven⟩ := hfits.exists_resolve hmem
  have hrun := run_eq_ok_iff.2 ⟨d, args, given, hd, hargs, by rwa [hs.config_eq], hid, rfl⟩
  exact ⟨_, ⟨s.2.nextId, d, some stage.title, given⟩, hrun, by simp, rfl⟩

lemma Built.nextId_ne (hs : Built c flags stages s) (hroom : stages.length + 2 < UInt64.size) :
    s.2.nextId ≠ Graph.lastId := by
  intro he
  have hsize : stages.length = s.2.size := by simpa [Graph.size] using hs.makes.length_eq
  have hstart := hs.consistent.start (by rw [hs.config_eq])
  rw [hs.config_eq, he, ← hsize] at hstart
  simp only [Graph.lastId, UInt64.reduceToNat] at hstart
  simp only [UInt64.size] at hroom
  omega

/-- Stages that the catalog suits can be run one after the other. -/
lemma exists_runAll (flags : Flags) (h : definitions? c stages = some ds)
    (hroom : stages.length + 2 < UInt64.size) :
    ∃ s, runAll c flags stages = .ok s ∧ s.2.nodes.toList.map (·.definition) = ds ∧
      List.Forall₂ (fun stage r => stage.Fits ds r.definition) stages s.2.nodes.toList := by
  induction stages using List.reverseRecOn generalizing ds with
  | nil =>
    cases h
    exact ⟨_, rfl, rfl, .nil⟩
  | append_singleton stages stage ih =>
    obtain ⟨ds, d, hds, hd, hfits, rfl⟩ := definitions?_snoc.1 h
    rw [List.length_append] at hroom
    obtain ⟨s, hs, rfl, hall⟩ := ih hds (by omega)
    have hbuilt := built_of_runAll hs
    obtain ⟨s', r, hrun, hnodes, rfl⟩ := hbuilt.exists_run hd hfits (hbuilt.nextId_ne (by omega))
    refine ⟨s', by rw [runAll_snoc, hs]; exact hrun, by rw [hnodes, List.map_append]; rfl, ?_⟩
    rw [hnodes]
    exact List.rel_append (hall.imp fun _ _ h => h.append _) (.cons (hfits.append _) .nil)

/-- A graph of stages that fit compiles. -/
lemma Built.exists_compile (hs : Built c flags stages s)
    (hfits : List.Forall₂ (fun stage r =>
      stage.Fits (s.2.nodes.toList.map (·.definition)) r.definition) stages s.2.nodes.toList) :
    ∃ p, s.2.compile = .ok p := by
  rw [Graph.compile_eq]
  have hsound : s.2.firstFault? = none := by
    rw [Graph.firstFault?_eq_none_iff hs.consistent]
    intro conn hconn
    obtain ⟨r, hr, -, hinput, hout⟩ := Graph.mem_connections.1 hconn
    obtain ⟨place, hplace⟩ := List.mem_iff_getElem?.1 (Array.mem_toList_iff.2 hr)
    obtain ⟨stage, hstage, hmakes⟩ := getElem?_of_forall₂ hs.makes hplace
    obtain ⟨stage', hstage', hfits⟩ := getElem?_of_forall₂ hfits hplace
    obtain rfl : stage = stage' := Option.some.inj (hstage.symm.trans hstage')
    obtain ⟨i, output, producer, o, hsource, hproducer, ho, hout⟩ := hmakes.connected hout
    obtain ⟨spec, hspec, o', ho', hkind⟩ := hfits.takes _ hsource
    have hsame : o' = o := by
      rw [List.getElem?_map, hproducer, Option.map_some, Option.bind_some, ho] at ho'
      exact (Option.some.inj ho').symm
    have hspec' : conn.spec = spec := Option.some.inj <|
      (lookup_of_mem r.definition.inputs_nodup hinput).symm.trans hspec
    refine ⟨⟨o.kind, by rw [hspec', hkind, hsame], by rw [hout]⟩, producer, ?_, by rw [hout], ?_⟩
    · exact Array.mem_toList_iff.1 (List.mem_of_getElem? hproducer)
    · exact ⟨_, Signature.output?_eq_some_iff.1 ho, by rw [hout], by rw [hout]⟩
  exact ⟨_, by rw [hsound]; rfl⟩

/-- The connected inputs of the nodes declare the kinds of the outputs. -/
def Agrees (rs : List NodeRecord) : Prop :=
  ∀ r ∈ rs, ∀ input ∈ r.definition.inputs, ∀ out,
    r.args[input.1]? = some (.connection out) → input.2.kind = some out.kind

/-- A node tells that its definition fits the stage. -/
lemma Makes.fits {r : NodeRecord} (hm : stage.Makes c flags rs r) (hr : Agrees [r]) :
    stage.Fits (rs.map (·.definition)) r.definition where
  takes := by
    rintro ⟨name, source⟩ hinput
    obtain ⟨spec, arg, hspec, hsource, harg⟩ := hm.given hinput
    refine ⟨spec, hspec, ?_⟩
    cases source with
    | value of => trivial
    | output i output =>
      obtain ⟨producer, o, hproducer, ho, rfl⟩ := Source.eval_output_eq_ok_iff.1 hsource
      have hdeclared : (name, spec) ∈ r.definition.inputs :=
        (lookup_eq_some_iff_mem r.definition.inputs_nodup).1 hspec
      refine ⟨o, ?_, hr r (by simp) _ hdeclared _ harg⟩
      rw [List.getElem?_map, hproducer]
      exact ho
  covers input hinput hrequired hdefault := by
    by_contra hname
    obtain ⟨args, -, hresolve⟩ := hm.args_eq
    have hcomplete := Args.complete_of_resolve r.definition.inputs_nodup hresolve
    have hcovered := hcomplete.covered input hinput
    have hnone : r.args[input.1]? = none := by
      have hspec : r.definition.input? input.1 = some input.2 :=
        lookup_of_mem r.definition.inputs_nodup hinput
      rw [hm.defaulted hname, hspec, Option.bind_some, hdefault, Option.map_none]
    simp [Std.ExtTreeMap.mem_iff_isSome_getElem?, hnone, hrequired] at hcovered

/-- Stages that were run, with connections of the right kinds, suit the catalog. -/
lemma definitions?_of_runAll (h : runAll c flags stages = .ok s)
    (hagrees : Agrees s.2.nodes.toList) :
    definitions? c stages = some (s.2.nodes.toList.map (·.definition)) := by
  induction stages using List.reverseRecOn generalizing s with
  | nil =>
    cases h
    rfl
  | append_singleton stages stage ih =>
    rw [runAll_snoc] at h
    obtain ⟨s', hs', hs⟩ := bind_eq_ok_iff.1 h
    obtain ⟨r, hr, -, hnodes⟩ := (built_of_runAll hs').exists_makes hs
    rw [hnodes] at hagrees ⊢
    rw [List.map_append]
    refine definitions?_snoc.2 ⟨_, r.definition, ih hs' ?_, hr.definition_eq, hr.fits ?_, rfl⟩
    · exact fun r hr => hagrees r (List.mem_append_left _ hr)
    · exact fun r hr => hagrees r (List.mem_append_right _ hr)

/-- **Whether stages can be run and compile** is up to the catalog, and not to the flags. -/
theorem exists_compiled_iff (c : Catalog) (flags : Flags) (stages : List Stage)
    (hroom : stages.length + 2 < UInt64.size) :
    (∃ s p, runAll c flags stages = .ok s ∧ s.2.compile = .ok p) ↔
      ∃ ds, definitions? c stages = some ds := by
  constructor
  · rintro ⟨s, p, hs, hp⟩
    obtain ⟨hsound, -⟩ := okUnless_eq_ok_iff.1 (s.2.compile_eq ▸ hp)
    have hconsistent := (built_of_runAll hs).consistent
    exact ⟨_, definitions?_of_runAll hs fun r hr input hinput out hout =>
      hconsistent.kind_eq_of_connected hsound (Array.mem_toList_iff.1 hr) hinput hout⟩
  · rintro ⟨ds, hds⟩
    obtain ⟨s, hs, rfl, hfits⟩ := exists_runAll flags hds hroom
    obtain ⟨p, hp⟩ := (built_of_runAll hs).exists_compile hfits
    exact ⟨s, p, hs, hp⟩

end Stage

end TextToImage

end PromptGraph
