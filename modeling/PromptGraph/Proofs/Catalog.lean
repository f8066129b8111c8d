import Mathlib.Data.List.Forall2
import PromptGraph.Catalog.Document
import PromptGraph.Proofs.Indexed
import PromptGraph.Proofs.Wiring

/-!
What a catalog holds, and what its lookups answer.

The list of a catalog and its index say the same: a name is found just where a definition of that
name is listed. Whatever is registered comes behind what there was, if its name is new, and
otherwise nothing happens.
-/

namespace PromptGraph

namespace Catalog

variable {c c' : Catalog} {d : Definition} {name : String}

/-- The index holds the place of the name of every definition and nothing else. -/
def Consistent (c : Catalog) : Prop := Indexed (·.typeName) c.definitions c.places

/-- Some definition has the name. -/
def Lists (c : Catalog) (name : String) : Prop := ∃ d ∈ c.toList, d.typeName = name

lemma consistent_empty : empty.Consistent := Indexed.empty

namespace Consistent

lemma contains_iff (hc : c.Consistent) : c.contains name = true ↔ c.Lists name := by
  rw [contains, Std.ExtTreeMap.contains_iff_mem, hc.mem_iff, Lists, toList]
  simp only [Array.mem_toList_iff]

lemma contains_eq_false_iff (hc : c.Consistent) : c.contains name = false ↔ ¬ c.Lists name := by
  rw [← hc.contains_iff, Bool.not_eq_true]

lemma find?_eq_some_iff (hc : c.Consistent) :
    c.find? name = some d ↔ d ∈ c.toList ∧ d.typeName = name := by
  rw [toList, Array.mem_toList_iff]
  exact hc.find_eq_some_iff

/-- What is listed is found under its name. -/
lemma get_eq_ok (hc : c.Consistent) (hd : d ∈ c.toList) : c.get d.typeName = .ok d := by
  simp [get, hc.find?_eq_some_iff.2 ⟨hd, rfl⟩]

lemma get_eq_error (hc : c.Consistent) (hname : ¬ c.Lists name) :
    c.get name = .error (.unknownDefinition name) := by
  have hfind : c.find? name = none := Option.eq_none_iff_forall_ne_some.2 fun d hd =>
    hname ⟨d, hc.find?_eq_some_iff.1 hd⟩
  simp [get, hfind]

end Consistent

/-- A node is found under its own name. -/
lemma Consistent.typeName_eq_of_node (hc : c.Consistent) {node : NodeDefinition}
    (h : c.node name = .ok node) : node.typeName = name := by
  obtain ⟨d, hget, hd⟩ := bind_eq_ok_iff.1 h
  cases d with
  | subgraph d => cases hd
  | node d =>
    cases hd
    unfold get at hget
    split at hget
    · rename_i hfind
      cases hget
      exact (hc.find?_eq_some_iff.1 hfind).2
    · cases hget

/-! ### Registrations -/

/-- A definition is registered if no definition has its name; otherwise its name is refused and the
catalog stays. -/
lemma Consistent.register_cases (hc : c.Consistent) (d : Definition) :
    (¬ c.Lists d.typeName ∧ ∃ c', c.register d = (.ok (), c') ∧ c'.Consistent ∧
      c'.toList = c.toList ++ [d]) ∨
    (c.Lists d.typeName ∧ c.register d = (.error (.duplicateDefinition d.typeName), c)) := by
  unfold register
  cases hname : c.contains d.typeName with
  | true => exact .inr ⟨hc.contains_iff.1 hname, if_pos hname⟩
  | false =>
    have hfresh := hc.contains_eq_false_iff.1 hname
    refine .inl ⟨hfresh, _, if_neg (Bool.eq_false_iff.1 hname), ?_, by simp [toList]⟩
    exact Indexed.push hc fun e he hne => hfresh ⟨e, by simpa [toList] using he, hne⟩

/-- A way to register a definition: in the catalog itself, or in a copy that takes its place if
that succeeds. -/
inductive Registration where
  | inPlace (definition : Definition)
  | copied (definition : Definition)

def Registration.definition : Registration → Definition
  | .inPlace d => d
  | .copied d => d

/-- The answer to a registration, and the catalog after it. -/
def attempt (c : Catalog) : Registration → Except DefinitionError Unit × Catalog
  | .inPlace d => c.register d
  | .copied d =>
    match c.extended d with
    | .ok c' => (.ok (), c')
    | .error e => (.error e, c)

/-- The catalog after registrations one after the other, successful or not. -/
def attemptAll (c : Catalog) (rs : List Registration) : Catalog :=
  rs.foldl (fun c r => (c.attempt r).2) c

/-- The definitions that are registered in the course of that, in order of time. -/
def accepted (c : Catalog) : List Registration → List Definition
  | [] => []
  | r :: rs =>
    match c.attempt r with
    | (.ok (), c) => r.definition :: c.accepted rs
    | (.error _, c) => c.accepted rs

/-- Both ways come to the same. -/
lemma attempt_eq (hc : c.Consistent) (r : Registration) :
    c.attempt r = c.register r.definition := by
  cases r with
  | inPlace d => rfl
  | copied d =>
    rw [attempt, Registration.definition, extended]
    obtain ⟨-, c', hr, -⟩ | ⟨-, hr⟩ := hc.register_cases d <;> rw [hr]

/-- The run of registrations: the index stays right, and what is registered comes behind what there
was. -/
lemma Consistent.attemptAll (hc : c.Consistent) (rs : List Registration) :
    (c.attemptAll rs).Consistent ∧ (c.attemptAll rs).toList = c.toList ++ c.accepted rs := by
  induction rs generalizing c with
  | nil => exact ⟨hc, by simp [Catalog.attemptAll, accepted]⟩
  | cons r rs ih =>
    rw [Catalog.attemptAll, List.foldl_cons, ← Catalog.attemptAll, accepted, attempt_eq hc]
    obtain ⟨-, c', hr, hc', hlist⟩ | ⟨-, hr⟩ := hc.register_cases r.definition
    · obtain ⟨hall, hlists⟩ := ih hc'
      simp only [hr]
      exact ⟨hall, by rw [hlists, hlist, List.append_assoc, List.singleton_append]⟩
    · simp only [hr]
      exact ih hc

/-! ### Catalogs that are read -/

/-- What a catalog document says of a type is a well-formed definition. -/
def Builds (type : String × NodeDocument) (d : Definition) : Prop :=
  ∃ node, type.2.build type.1 = .ok node ∧ d = .node node

lemma Consistent.extended (hc : c.Consistent) (h : c.extended d = .ok c') :
    c'.Consistent ∧ c'.toList = c.toList ++ [d] := by
  unfold Catalog.extended at h
  obtain ⟨-, c₁, hr, hc₁, hlist⟩ | ⟨-, hr⟩ := hc.register_cases d
  · simp only [hr, Except.ok.injEq] at h
    exact h ▸ ⟨hc₁, hlist⟩
  · simp [hr] at h

/-- The types of a document are registered one after the other. -/
lemma Consistent.foldlM_extended (hc : c.Consistent) (types : List (String × NodeDocument))
    (h : types.foldlM (fun c (typeName, doc) => do
      let d ← doc.build typeName
      c.extended (.node d)) c = .ok c') :
    c'.Consistent ∧ ∃ ds, List.Forall₂ Builds types ds ∧ c'.toList = c.toList ++ ds := by
  induction types generalizing c with
  | nil =>
    obtain rfl : c = c' := by simpa [pure, Except.pure] using h
    exact ⟨hc, [], .nil, by simp⟩
  | cons type types ih =>
    obtain ⟨typeName, doc⟩ := type
    rw [List.foldlM_cons] at h
    cases hbuild : doc.build typeName with
    | error e => simp [hbuild, bind, Except.bind] at h
    | ok node =>
      cases hextended : c.extended (.node node) with
      | error e => simp [hbuild, hextended, bind, Except.bind] at h
      | ok c₁ =>
        simp only [hbuild, hextended, bind, Except.bind] at h
        obtain ⟨hc₁, hlist⟩ := hc.extended hextended
        obtain ⟨hc', ds, hds, hlists⟩ := ih hc₁ h
        exact ⟨hc', _, .cons ⟨node, hbuild, rfl⟩ hds, by
          rw [hlists, hlist, List.append_assoc, List.singleton_append]⟩

lemma consistent_ofText {text : String} (h : ofText text = .ok c) :
    c.Consistent ∧ ∃ types, readDocument.ofText text = .ok types ∧
      List.Forall₂ Builds types.toList c.toList := by
  unfold ofText at h
  cases htypes : readDocument.ofText text with
  | error e => simp [htypes] at h
  | ok types =>
    rw [htypes] at h
    obtain ⟨hc, ds, hds, hlist⟩ := consistent_empty.foldlM_extended types.toList h
    have hlist : c.toList = ds := by simpa [toList, empty] using hlist
    exact ⟨hc, types, rfl, hlist ▸ hds⟩

/-! ### Lookups -/

/-- What all lookups answer to a name. -/
inductive Finds (c : Catalog) (name : String) : Option Definition → Prop
  | nothing (hcontains : c.contains name = false)
      (hget : c.get name = .error (.unknownDefinition name))
      (hnode : c.node name = .error (.unknownDefinition name))
      (hsubgraph : c.subgraph name = .error (.unknownDefinition name)) : Finds c name none
  | node (d : NodeDefinition) (hcontains : c.contains name = true)
      (hget : c.get name = .ok (.node d)) (hnode : c.node name = .ok d)
      (hsubgraph : c.subgraph name = .error (.wrongVariant name .subgraph .node)) :
      Finds c name (some (.node d))
  | subgraph (d : SubgraphDefinition) (hcontains : c.contains name = true)
      (hget : c.get name = .ok (.subgraph d))
      (hnode : c.node name = .error (.wrongVariant name .node .subgraph))
      (hsubgraph : c.subgraph name = .ok d) : Finds c name (some (.subgraph d))

lemma Consistent.finds (hc : c.Consistent) (hd : d ∈ c.toList) :
    c.Finds d.typeName (some d) := by
  have hcontains := hc.contains_iff.2 ⟨d, hd, rfl⟩
  have hget := hc.get_eq_ok hd
  cases d with
  | node d =>
    exact .node d hcontains hget (by simp [node, hget, bind, Except.bind])
      (by simp [subgraph, hget, bind, Except.bind])
  | subgraph d =>
    exact .subgraph d hcontains hget (by simp [node, hget, bind, Except.bind])
      (by simp [subgraph, hget, bind, Except.bind])

lemma Consistent.finds_nothing (hc : c.Consistent) (hname : ¬ c.Lists name) :
    c.Finds name none := by
  have hget := hc.get_eq_error hname
  exact .nothing (hc.contains_eq_false_iff.2 hname) hget (by simp [node, hget, bind, Except.bind])
    (by simp [subgraph, hget, bind, Except.bind])

/-- **Catalogs.** Take a catalog, empty or read from a text, and register definitions, whether that
succeeds or fails. The names of the definitions are distinct; the catalog lists what it had at
first, which for a text are its types in order, and then what was registered, in order of time;
all places in the index are places of the list. Every lookup of a name finds the definition of that
name if one is listed, and nothing otherwise. Registering a definition fails exactly if its name is
listed, and then leaves the catalog as it is. -/
theorem lists_what_it_finds (start : Catalog)
    (hstart : start = empty ∨ ∃ text, ofText text = .ok start) (rs : List Registration) :
    let c := start.attemptAll rs
    (c.toList.map (·.typeName)).Nodup ∧
    c.toList = start.toList ++ start.accepted rs ∧
    (∀ text, ofText text = .ok start → ∃ types, readDocument.ofText text = .ok types ∧
      List.Forall₂ Builds types.toList start.toList) ∧
    (∀ (name : String) (place : Nat), c.places[name]? = some place →
      place < c.definitions.size) ∧
    (∀ d ∈ c.toList, c.Finds d.typeName (some d)) ∧
    (∀ name : String, ¬ c.Lists name → c.Finds name none) ∧
    (∀ r : Registration, c.Lists r.definition.typeName →
      c.attempt r = (.error (.duplicateDefinition r.definition.typeName), c)) ∧
    (∀ r : Registration, ¬ c.Lists r.definition.typeName →
      (c.attempt r).1 = .ok () ∧ (c.attempt r).2.toList = c.toList ++ [r.definition]) := by
  intro c
  have hstart : start.Consistent := by
    obtain rfl | ⟨text, htext⟩ := hstart
    · exact consistent_empty
    · exact (consistent_ofText htext).1
  obtain ⟨hc, hlist⟩ : c.Consistent ∧ c.toList = _ := hstart.attemptAll rs
  refine ⟨hc.nodup, hlist, fun text htext => (consistent_ofText htext).2,
    fun name place hplace => ((hc name place).1 hplace).1, fun d hd => hc.finds hd,
    fun name hname => hc.finds_nothing hname, fun r hr => ?_, fun r hr => ?_⟩
  · rw [attempt_eq hc]
    exact (hc.register_cases r.definition).resolve_left (fun h => h.1 hr) |>.2
  · rw [attempt_eq hc]
    obtain ⟨-, c', hregister, -, hlist⟩ := (hc.register_cases r.definition).resolve_right
      fun h => hr h.1
    rw [hregister]
    exact ⟨rfl, hlist⟩

/-- A catalog of two types, not in the order of their names. -/
def twoTypes : String :=
  "\x7b\"Sink\":\x7b\"inputs\":\x7b\"in\":\x7b\"kind\":\"image\"\x7d\x7d\x7d,\"Relay\":\x7b\x7d\x7d"

/-- One registration is of a name that was read, one of a name that was registered just before. -/
def repeatedly : List Registration :=
  [.inPlace (.node Graph.relay), .copied (.subgraph Graph.relayed),
    .inPlace (.subgraph Graph.relayed)]

theorem twoTypes_repeatedly : ∃ start, ofText twoTypes = .ok start ∧
    let c := start.attemptAll repeatedly
    c.toList = start.toList ++ start.accepted repeatedly ∧
    c.toList.map (·.typeName) = ["Relay", "Sink", "Relayed"] ∧
    (start.accepted repeatedly).map (·.typeName) = ["Relayed"] ∧
    (∃ d, c.Finds "Relayed" (some d)) ∧ c.Finds "Sampler" none := by
  cases hstart : ofText twoTypes with
  | error e =>
    have hok : (ofText twoTypes).isOk = true := by decide +kernel
    rw [hstart] at hok
    cases hok
  | ok start =>
    have hnames : (ofText twoTypes).toOption.map (fun start =>
        ((start.attemptAll repeatedly).toList.map (·.typeName),
          (start.accepted repeatedly).map (·.typeName))) =
        some (["Relay", "Sink", "Relayed"], ["Relayed"]) := by decide +kernel
    rw [hstart] at hnames
    obtain ⟨hnames, haccepted⟩ := Prod.mk.inj (Option.some.inj hnames)
    obtain ⟨-, hlist, -, -, hfinds, hnothing, -, -⟩ :=
      lists_what_it_finds start (.inr ⟨twoTypes, hstart⟩) repeatedly
    have hnothing := hnothing "Sampler" fun ⟨d, hd, hname⟩ => by
      have hmem := List.mem_map.2 ⟨d, hd, hname⟩
      rw [hnames] at hmem
      exact absurd hmem (by decide)
    obtain ⟨d, hd, hname⟩ := List.mem_map.1 <|
      show "Relayed" ∈ (start.attemptAll repeatedly).toList.map (·.typeName) by rw [hnames]; decide
    exact ⟨start, rfl, hlist, hnames, haccepted, ⟨d, hname ▸ hfinds d hd⟩, hnothing⟩

end Catalog

end PromptGraph
