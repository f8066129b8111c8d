import PromptGraph.Proofs.Reload
import PromptGraph.Proofs.ShiftedPrompt

/-!
What a listing tells of the prompt that a graph compiles to.

Listing and compiling go through the nodes on their own. Both look at the declared inputs that have
an argument, in the order of the declarations, so the lines of a node and its entry speak of the
same inputs. A line also tells whether the argument is a literal or a connection, and which one.
-/

namespace PromptGraph

/-! ### Texts of connections -/

/-- Where the digits of a number end, the number is known, and so is what follows. -/
lemma Digits.write_append_inj {m n : Nat} {c : Char} {cs ds : List Char} (hc : c.isDigit = false)
    (h : write m ++ c :: cs = write n ++ c :: ds) : m = n ∧ cs = ds := by
  have htake (n : Nat) (cs : List Char) :
      (write n ++ c :: cs).takeWhile Char.isDigit = write n := by
    rw [List.takeWhile_append_of_pos fun _ => isDigit_of_mem_write, List.takeWhile_cons_of_neg]
    · exact List.append_nil _
    · simp [hc]
  have hwrite : write m = write n := by rw [← htake m cs, h, htake]
  have hnumber : m = n := Option.some.inj (by rw [← read?_write m, hwrite, read?_write])
  rw [hwrite] at h
  exact ⟨hnumber, (List.cons.inj (List.append_cancel_left h)).2⟩

namespace Out

/-- The text of an output in characters: two runs of digits, each ended by a bracket, and the name
of the kind. -/
lemma toList_text (out : Out) : out.text.toList = '#' :: (Digits.write out.node.toNat ++
    '[' :: (Digits.write out.index.toNat ++ ']' :: ':' :: out.kind.name.toList)) := by
  have hnode : (toString out.node).toList = Digits.write out.node.toNat := Nat.toList_repr
  have hindex : (toString out.index).toList = Digits.write out.index.toNat := Nat.toList_repr
  have htext : out.text = "#" ++ toString out.node ++ "[" ++ toString out.index ++ "]:" ++
    out.kind.name := rfl
  simp [htext, hnode, hindex]

/-- The text of an output tells which one it is. -/
lemma text_injective : Function.Injective text := by
  rintro ⟨kind, node, index⟩ ⟨kind', node', index'⟩ h
  have hchars := congrArg String.toList h
  simp only [toList_text, List.cons.injEq, true_and] at hchars
  obtain ⟨hnode, hchars⟩ := Digits.write_append_inj (by decide) hchars
  obtain ⟨hindex, hchars⟩ := Digits.write_append_inj (by decide) hchars
  have hkind : kind.name = kind'.name := String.toList_inj.1 (List.cons.inj hchars).2
  cases kind
  cases kind'
  cases hkind
  cases UInt64.toNat_inj.1 hnode
  cases UInt32.toNat_inj.1 hindex
  rfl

end Out

namespace NodeRecord

variable {r : NodeRecord}

lemma argLine_literal (name : String) (value : Literal) :
    argLine name (.literal value) = name ++ (" = " ++ value.text) := String.append_assoc

lemma argLine_connection (name : String) (out : Out) :
    argLine name (.connection out) = name ++ (" <- " ++ out.text) := String.append_assoc

lemma argLine_connection_inj {name : String} {out out' : Out} :
    argLine name (.connection out) = argLine name (.connection out') ↔ out = out' := by
  simp [argLine_connection, Out.text_injective.eq_iff]

/-- A line has an equals sign or an arrow behind the name. -/
lemma argLine_literal_ne {name : String} {value : Literal} {out : Out} :
    argLine name (.literal value) ≠ argLine name (.connection out) := by
  intro h
  have hchars := congrArg String.toList h
  simp [argLine_literal, argLine_connection] at hchars

/-! ### The lines of a node -/

/-- The arguments of the declared inputs, in the order of the declarations. -/
def recorded (r : NodeRecord) : List (String × Arg) :=
  r.definition.inputs.filterMap fun (name, _) => r.args[name]?.map (name, ·)

/-- The lines that tell of a node: a headline, and behind a branch the line of every recorded
argument, where the branch of the last one closes. -/
structure LaidOut (r : NodeRecord) (lines : List String) : Prop where
  length_eq : lines.length = r.recorded.length + 1
  headline_eq : lines.head? = some (match r.label with
    | none => s!"#{r.id} {r.definition.typeName}"
    | some label => s!"#{r.id} {r.definition.typeName} \"{label}\"")
  line_eq : ∀ i name arg, r.recorded[i]? = some (name, arg) →
    lines[i + 1]? =
      some ((if i + 1 = r.recorded.length then "└── " else "├── ") ++ argLine name arg)

lemma map_fst_recorded (r : NodeRecord) :
    r.recorded.map Prod.fst = r.definition.inputNames.filter fun name => r.args.contains name := by
  rw [recorded, Signature.inputNames]
  induction r.definition.inputs with
  | nil => rfl
  | cons input inputs ih =>
    rw [List.filterMap_cons, List.map_cons, List.filter_cons, ← ih,
      Std.ExtTreeMap.contains_eq_isSome_getElem?]
    cases harg : r.args[input.1]? <;> simp [harg]

lemma mem_recorded {name : String} {arg : Arg} : (name, arg) ∈ r.recorded ↔
    (∃ spec, (name, spec) ∈ r.definition.inputs) ∧ r.args[name]? = some arg := by
  simp only [recorded, List.mem_filterMap, Option.map_eq_some_iff, Prod.mk.injEq, Prod.exists]
  constructor
  · rintro ⟨name, spec, hinput, arg, harg, rfl, rfl⟩
    exact ⟨⟨spec, hinput⟩, harg⟩
  · rintro ⟨⟨spec, hinput⟩, harg⟩
    exact ⟨name, spec, hinput, arg, harg, rfl, rfl⟩

lemma argLines_eq (r : NodeRecord) : r.argLines = r.recorded.map fun (name, arg) =>
    argLine name arg := by
  simp only [argLines, recorded, List.map_filterMap, Option.map_map, Function.comp_def]

lemma length_branches (lines : List String) : (branches lines).length = lines.length := by
  induction lines with
  | nil => rfl
  | cons line lines ih =>
    cases lines with
    | nil => rfl
    | cons next lines => simpa [branches] using ih

/-- The branch before a line closes if it is the last line. -/
lemma getElem?_branches (lines : List String) (i : Nat) : (branches lines)[i]? =
    lines[i]?.map fun line => (if i + 1 = lines.length then "└── " else "├── ") ++ line := by
  induction lines generalizing i with
  | nil => rfl
  | cons line lines ih =>
    cases lines with
    | nil => cases i <;> simp [branches]
    | cons next lines =>
      cases i with
      | zero => simp [branches]
      | succ i => simpa [branches] using ih i

lemma laidOut_listing (r : NodeRecord) : r.LaidOut r.listing where
  length_eq := by simp [listing, length_branches, argLines_eq]
  headline_eq := by
    rw [listing, headline]
    cases r.label with
    | none => exact congrArg some (String.append_empty ..)
    | some label =>
      simp only [List.head?_cons, String.append_assoc]
      rfl
  line_eq i name arg harg := by
    simp [listing, getElem?_branches, argLines_eq, harg]

/-! ### Lines and entries -/

/-- The line of an argument tells the value that an input of the specification has in an entry. It
shows the value as a text if the argument is a literal, and the output if it is a connection. -/
structure Tells (name : String) (spec : InputSpec) (arg : Arg) (value : Literal) : Prop where
  literal_iff : argLine name arg = name ++ " = " ++ value.text ↔ ∃ v, arg = .literal v
  literal_eq : ∀ v, arg = .literal v → value = v
  connection_iff : ∀ out : Out,
    argLine name arg = s!"{name} <- #{out.node}[{out.index}]:{out.kind.name}" ↔
      arg = .connection out
  connection_eq : ∀ out : Out, arg = .connection out →
    value.json = .array [.string (toString out.node), .number (.ofUInt32 out.index)] ∧
      spec.kind = some out.kind

/-- An entry has exactly the inputs that the listing has lines for, and the lines tell their
values. -/
structure ListedAs (r : NodeRecord) (id : NodeId) (entry : PromptEntry) : Prop where
  id_eq : id = r.id
  mem_inputs_iff : ∀ name, name ∈ entry.inputs ↔ name ∈ r.recorded.map Prod.fst
  tells : ∀ name arg, (name, arg) ∈ r.recorded → ∃ spec value,
    (name, spec) ∈ r.definition.inputs ∧ entry.inputs[name]? = some value ∧
      Tells name spec arg value

lemma tells_value {name : String} {spec : InputSpec} {arg : Arg}
    (hkind : ∀ out, arg = .connection out → spec.kind = some out.kind) :
    Tells name spec arg arg.value := by
  have hline (out : Out) : s!"{name} <- #{out.node}[{out.index}]:{out.kind.name}" =
      argLine name (.connection out) := by
    simp only [argLine, Out.text, String.append_assoc]
    rfl
  cases arg with
  | literal v =>
    refine ⟨iff_of_true rfl ⟨v, rfl⟩, by rintro _ ⟨⟩; rfl, fun out => ?_, by rintro _ ⟨⟩⟩
    rw [hline]
    exact iff_of_false argLine_literal_ne Arg.noConfusion
  | connection out =>
    refine ⟨iff_of_false (Ne.symm argLine_literal_ne) ?_, by rintro _ ⟨⟩, fun out' => ?_, ?_⟩
    · rintro ⟨_, ⟨⟩⟩
    · rw [hline, argLine_connection_inj, Arg.connection.injEq]
    · rintro _ ⟨⟩
      exact ⟨rfl, hkind out rfl⟩

/-- The names of the recorded arguments are the names of the entry. -/
lemma mem_entry_inputs_iff {name : String} :
    name ∈ r.entry.inputs ↔ name ∈ r.recorded.map Prod.fst := by
  rw [Std.ExtTreeMap.mem_iff_isSome_getElem?, getElem?_entry_inputs, map_fst_recorded,
    List.mem_filter, Std.ExtTreeMap.contains_eq_isSome_getElem?]
  have hdeclared : (r.definition.inputs.lookup name).isSome ↔ name ∈ r.definition.inputNames := by
    rw [← Args.isDeclared_eq_isSome_lookup, Args.isDeclared]
    simp [Signature.inputNames]
  rw [← hdeclared]
  cases r.definition.inputs.lookup name <;> cases r.args[name]? <;> simp

/-- The listing of a node tells its entry, if its connections have the kinds of their inputs. -/
lemma listedAs_entry (hkinds : ∀ input ∈ r.definition.inputs, ∀ out,
    r.args[input.1]? = some (.connection out) → input.2.kind = some out.kind) :
    r.ListedAs r.id r.entry where
  id_eq := rfl
  mem_inputs_iff _ := mem_entry_inputs_iff
  tells name arg hrecorded := by
    obtain ⟨⟨spec, hspec⟩, harg⟩ := mem_recorded.1 hrecorded
    have hvalue : r.entry.inputs[name]? = some arg.value := by
      rw [getElem?_entry_inputs, lookup_of_mem r.definition.inputs_nodup hspec, harg]
      rfl
    exact ⟨spec, arg.value, hspec, hvalue, tells_value fun out hout =>
      hkinds (name, spec) hspec out (hout ▸ harg)⟩

end NodeRecord

namespace Graph

/-- **The listing and the prompt.** A listing goes through the nodes in the order of their ids. Each
has a headline and a line for every declared input with an argument, in the order of the
declarations, and only the branch of the last line closes. If the graph compiles, the entry of a
node has exactly the inputs with a line; a line shows the value of its input as a text just where
the argument is a literal, and shows an output just where the argument is a connection to it, whose
value refers to that output and whose kind the input declares. -/
theorem listing_tells_prompt (config : GraphConfig) (ops : List Operation) :
    let g := (empty config).applyAll ops
    (g.nodes.toList.map (·.id)).Pairwise (· < ·) ∧
    (∃ blocks, List.Forall₂ (fun r lines => r.LaidOut lines) g.nodes.toList blocks ∧
      g.listing = String.join (blocks.flatten.map (· ++ "\n"))) ∧
    (∀ r ∈ g.nodes, r.recorded.map Prod.fst =
      r.definition.inputNames.filter fun name => r.args.contains name) ∧
    ∀ p, g.compile = .ok p →
      List.Forall₂ (fun r (id, entry) => r.ListedAs id entry) g.nodes.toList p.entries := by
  intro g
  have hg : g.Consistent := consistent_applyAll config ops
  refine ⟨?_, ⟨g.nodes.toList.map (·.listing), ?_, ?_⟩, fun r _ => r.map_fst_recorded,
    fun p hp => ?_⟩
  · have hids := hg.pairwise_ids
    rwa [Prompt.ids, document, List.map_map] at hids
  · rw [List.forall₂_map_right_iff, List.forall₂_same]
    exact fun r _ => r.laidOut_listing
  · rw [listing, List.flatMap]
  · obtain ⟨hsound, rfl⟩ := okUnless_eq_ok_iff.1 (compile_eq g ▸ hp)
    rw [document, List.forall₂_map_right_iff, List.forall₂_same]
    exact fun r hr => NodeRecord.listedAs_entry fun input hinput out hout =>
      hg.kind_eq_of_connected hsound (by simpa using hr) hinput hout

/-- A node with an input after the last one that is given an argument. -/
def blend : NodeDefinition where
  typeName := "Blend"
  inputs := [("image", (InputSpec.connection ⟨"image"⟩).mandatory), ("mode", .scalar),
    ("opacity", .scalar)]
  outputs := [("blended", ⟨⟨"image"⟩, 0⟩)]
  typeName_notBlank := by decide
  inputs_nodup := by decide
  outputs_nodup := by decide
  indexes_nodup := by decide

/-- A node without arguments, and one that is connected to it and given a mode. -/
def blendRun : List Operation :=
  [.addNode relay ∅ (some "first"), .addNode blend (.ofList
    [("mode", Arg.literal (.ofString "screen")), ("image", .connection ⟨⟨"image"⟩, 1, 0⟩)]) none]

theorem blendRun_listing :
    let g := (empty {}).applyAll blendRun
    g.listing = "#1 Relay \"first\"\n" ++
      "#2 Blend\n├── image <- #1[0]:image\n└── mode = \"screen\"\n" ∧
    ∃ p, g.compile = .ok p ∧ p.ids = [1, 2] ∧
      List.Forall₂ (fun r (id, entry) => r.ListedAs id entry) g.nodes.toList p.entries := by
  obtain ⟨p, hp, hids⟩ := exists_of_any (x := ((empty {}).applyAll blendRun).compile)
    (P := fun p => p.ids = [1, 2]) (by decide +kernel)
  exact ⟨by decide +kernel, p, hp, of_decide_eq_true hids,
    (listing_tells_prompt {} blendRun).2.2.2 p hp⟩

end Graph

end PromptGraph
