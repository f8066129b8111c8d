import PromptGraph.Proofs.Scripts
import PromptGraph.Proofs.ShiftedPrompt

/-!
Building a graph again after a clear.

A cleared graph with stable ids is the empty graph, and a construction repeats itself there to the
letter. Without stable ids it repeats itself under other ids, provided that it does not look at
ids: every answer, the counter, the prompt or its error, and the listing are the same but for one
offset.
-/

namespace PromptGraph

open Shift (shift)

/-- What a graph answers to an operation: a handle or an error, and nothing to a clear. -/
abbrev Answer := Option (Except BuildError Handle)

/-- Operations one after the other, each with the answers to those before it in view. -/
inductive Construction where
  | done
  | step (operation : Operation) (next : Answer → Construction)

namespace Construction

/-- The construction that does with moved ids what a construction does. -/
def shifted (k : NodeId) : Construction → Construction
  | .done => .done
  | .step op next => .step (op.shifted k) fun answer => (next (shift (-k) answer)).shifted k

/-- A construction that does not look at ids: when the ids in all answers that it gets are moved,
so are the ids in all that it does, and nothing else about it changes. It can thus connect its
nodes to outputs of its own handles only, and its build procedures only pass on what they get. -/
def Oblivious (S : Construction) : Prop := ∀ k, S.shifted k = S

/-- The additions that a session makes, with the handles it has. One whose arguments or definition
cannot be had is left out, and one that fails gives no handle. -/
def ofAdditions (c : Catalog) (handles : NameMap Handle) : List Script.Addition → Construction
  | [] => .done
  | a :: additions =>
    match Script.evalArgs ⟨handles, "", ∅⟩ a.args with
    | .error _ => ofAdditions c handles additions
    | .ok args =>
      match a.route.find c a.definition with
      | .error _ => ofAdditions c handles additions
      | .ok d => .step (.add d args a.label) fun
        | some (.ok h) => ofAdditions c (handles.insert a.handle h) additions
        | _ => ofAdditions c handles additions

lemma ofAdditions_shifted (k : NodeId) {c : Catalog} (hc : c.Oblivious)
    (additions : List Script.Addition) (handles : NameMap Handle) :
    (ofAdditions c handles additions).shifted k =
      ofAdditions c (shift k handles) additions := by
  induction additions generalizing handles with
  | nil => rfl
  | cons a additions ih =>
    have hargs : Script.evalArgs ⟨shift k handles, "", ∅⟩ a.args =
        shift k (Script.evalArgs ⟨handles, "", ∅⟩ a.args) := by
      have hscope := Script.evalArgs_shift k ⟨handles, "", ∅⟩ a.args
      rwa [← shift_empty k (α := Arg)]
    unfold ofAdditions
    rw [hargs]
    cases Script.evalArgs ⟨handles, "", ∅⟩ a.args with
    | error e => exact ih handles
    | ok args =>
      obtain ⟨d, hd, hfind⟩ | ⟨e, hfind, -⟩ := a.route.find_cases c a.definition
      · simp only [shift_ok, hfind, shifted, Operation.shifted, hc a.definition d hd k]
        congr 1
        funext answer
        rcases answer with - | e | h
        · exact ih handles
        · exact ih handles
        · have hhandles := insert_shift k handles a.handle (shift (-k) h)
          rw [shift_shift_neg] at hhandles
          simp only [shift_some, shift_ok, ih, hhandles]
      · simp only [shift_ok, hfind, ih]

/-- Additions of a session that starts without handles do not look at ids, if the definitions do
not. -/
lemma ofAdditions_oblivious {c : Catalog} (hc : c.Oblivious) (additions : List Script.Addition) :
    (ofAdditions c ∅ additions).Oblivious := fun k => by
  rw [ofAdditions_shifted k hc, shift_empty]

end Construction

namespace Graph

def answer (g : Graph) : Operation → Answer
  | .add d args label => some (g.add d args label).1
  | .addNode d args label => some ((g.addNode d args label).1.map .node)
  | .addSubgraph d args label => some ((g.addSubgraph d args label).1.map .subgraph)
  | .clear => none

/-- Carries out a construction. Gives all answers, and the graph at the end. -/
def perform (g : Graph) : Construction → List Answer × Graph
  | .done => ([], g)
  | .step op next =>
    let answer := g.answer op
    let (answers, h) := (g.apply op).perform (next answer)
    (answer :: answers, h)

/-- The operations of a construction. -/
def operations (g : Graph) : Construction → List Operation
  | .done => []
  | .step op next => op :: (g.apply op).operations (next (g.answer op))

lemma perform_snd (S : Construction) (g : Graph) :
    (g.perform S).2 = g.applyAll (g.operations S) := by
  induction S generalizing g with
  | done => rfl
  | step op next ih => exact ih (g.answer op) (g.apply op)

/-! ### Moved constructions -/

variable {k : NodeId} {g h : Graph}

namespace Shifted

lemma addSubgraph (hgh : Shifted k g h) (d : SubgraphDefinition) (args : Args)
    (label : Option String) (hstable : h.config.stableIds = false)
    (hlast : (h.addSubgraph (d.shifted k) (shift k args) label).2.nextId ≠ lastId) :
    (h.addSubgraph (d.shifted k) (shift k args) label).1 = shift k (g.addSubgraph d args label).1 ∧
    Shifted k (g.addSubgraph d args label).2
      (h.addSubgraph (d.shifted k) (shift k args) label).2 := by
  unfold Graph.addSubgraph at hlast ⊢
  simp only [SubgraphDefinition.shifted, hgh.config_eq, Signature.admit_shift] at hlast ⊢
  cases ha : d.admit g.config.strict args with
  | error e => exact ⟨rfl, hgh⟩
  | ok given =>
    simp only [ha, shift_ok, shift_neg_shift] at hlast ⊢
    obtain ⟨hreturned, hbuilt⟩ := hgh.run (d.procedure given) hstable hlast
    rw [hreturned, Signature.handle_shift]
    exact ⟨rfl, hbuilt⟩

/-- Answers of one variant of handle move as handles do. -/
lemma map_shift {α : Type} [Shift α] (f : α → Handle) (hf : ∀ a, f (shift k a) = shift k (f a))
    (answer : Except BuildError α) : (shift k answer).map f = shift k (answer.map f) := by
  cases answer with
  | error e => rfl
  | ok a => exact congrArg Except.ok (hf a)

lemma apply_addNode (hgh : Shifted k g h) (d : NodeDefinition) (args : Args)
    (label : Option String) (hstable : h.config.stableIds = false)
    (hlast : (h.addNode d (shift k args) label).2.nextId ≠ lastId) :
    h.answer (.addNode d (shift k args) label) = shift k (g.answer (.addNode d args label)) ∧
    Shifted k (g.addNode d args label).2 (h.addNode d (shift k args) label).2 := by
  obtain ⟨hanswer, hadded⟩ := hgh.addNode d args label <|
    (steps_addNode h d (shift k args) label).ne_last hstable hlast
  rw [answer, hanswer, map_shift .node fun _ => rfl]
  exact ⟨rfl, hadded⟩

lemma apply_addSubgraph (hgh : Shifted k g h) (d : SubgraphDefinition) (args : Args)
    (label : Option String) (hstable : h.config.stableIds = false)
    (hlast : (h.addSubgraph (d.shifted k) (shift k args) label).2.nextId ≠ lastId) :
    h.answer (.addSubgraph (d.shifted k) (shift k args) label) =
      shift k (g.answer (.addSubgraph d args label)) ∧
    Shifted k (g.addSubgraph d args label).2
      (h.addSubgraph (d.shifted k) (shift k args) label).2 := by
  obtain ⟨hanswer, hadded⟩ := hgh.addSubgraph d args label hstable hlast
  rw [answer, hanswer, map_shift .subgraph fun _ => rfl]
  exact ⟨rfl, hadded⟩

lemma clear (hgh : Shifted k g h) (hstable : h.config.stableIds = false) :
    Shifted k g.clear h.clear where
  config_eq := hgh.config_eq
  nodes_eq := by simp [Graph.clear]
  places_eq id := by simp [Graph.clear]
  nextId_eq := by
    have hstable' : g.config.stableIds = false := by rw [← hgh.config_eq, hstable]
    simpa [Graph.clear, hstable, hstable'] using hgh.nextId_eq

lemma apply (hgh : Shifted k g h) (op : Operation) (hstable : h.config.stableIds = false)
    (hlast : (h.apply (op.shifted k)).nextId ≠ lastId) :
    h.answer (op.shifted k) = shift k (g.answer op) ∧
    Shifted k (g.apply op) (h.apply (op.shifted k)) := by
  cases op with
  | add d args label =>
    cases d with
    | node d => exact hgh.apply_addNode d args label hstable hlast
    | subgraph d => exact hgh.apply_addSubgraph d args label hstable hlast
  | addNode d args label => exact hgh.apply_addNode d args label hstable hlast
  | addSubgraph d args label => exact hgh.apply_addSubgraph d args label hstable hlast
  | clear => exact ⟨rfl, hgh.clear hstable⟩

/-- What a construction does to a graph, the construction with moved ids does to the graph with
moved ids. -/
theorem perform (S : Construction) {g h : Graph} (hgh : Shifted k g h)
    (hstable : h.config.stableIds = false)
    (hlast : (h.perform (S.shifted k)).2.nextId ≠ lastId) :
    (h.perform (S.shifted k)).1 = shift k (g.perform S).1 ∧
    Shifted k (g.perform S).2 (h.perform (S.shifted k)).2 := by
  induction S generalizing g h with
  | done => exact ⟨rfl, hgh⟩
  | step op next ih =>
    simp only [Construction.shifted, Graph.perform] at hlast ⊢
    have hconfig : (h.apply (op.shifted k)).config.stableIds = false :=
      (steps_apply h (op.shifted k)).config_eq ▸ hstable
    have hop : (h.apply (op.shifted k)).nextId ≠ lastId := by
      rw [perform_snd] at hlast
      exact (steps_history _ _).ne_last hconfig hlast
    obtain ⟨hanswer, happlied⟩ := hgh.apply op hstable hop
    rw [hanswer, shift_neg_shift] at hlast ⊢
    obtain ⟨hanswers, hperformed⟩ := ih (g.answer op) happlied hconfig hlast
    rw [hanswers]
    exact ⟨rfl, hperformed⟩

end Shifted

/-! ### Clears -/

/-- With stable ids a clear leaves nothing. -/
lemma clear_eq_empty (hstable : g.config.stableIds = true) : g.clear = empty g.config := by
  simp [clear, empty, hstable]

/-- Ids are counted upwards from where the configuration says. -/
lemma idStart_le_applyAll (config : GraphConfig) (ops : List Operation) :
    config.idStart.toNat ≤ ((empty config).applyAll ops).nextId.toNat := by
  have hle := (steps_history ops (empty config)).invariant
    (P := fun g => g.config.idStart.toNat ≤ g.nextId.toNat) (fun {g e h} hg s => ?_) le_rfl
  · rwa [config_applyAll] at hle
  · rw [s.config_eq]
    obtain ⟨rfl, -⟩ | ⟨-, rfl⟩ | ⟨d, args, given, label, -, hid, -, rfl⟩ := s.effect
    · exact hg
    · unfold clear
      cases g.config.stableIds with
      | true => exact le_rfl
      | false => exact hg
    · rw [push_nextId, toNat_add_one hid]
      omega

/-- Without stable ids a clear leaves an empty graph whose ids are moved by what the counter has
advanced. -/
lemma shifted_clear (hstable : g.config.stableIds = false)
    (hle : g.config.idStart.toNat ≤ g.nextId.toNat) :
    Shifted (g.nextId - g.config.idStart) (empty g.config) g.clear where
  config_eq := rfl
  nodes_eq := by simp [clear, empty]
  places_eq id := by simp [clear, empty]
  nextId_eq := by
    have hnext : g.clear.nextId = g.nextId := by simp [clear, hstable]
    have hempty : (empty g.config).nextId = g.config.idStart := rfl
    rw [hnext, hempty, UInt64.toNat_sub_of_le _ _ (UInt64.le_iff_toNat_le.2 hle)]
    omega

/-- **Replay after a clear.** Take a graph that any operations have built and that is then
cleared, and carry out a construction on it. With stable ids everything is as on an empty graph:
all answers and the graph at the end, with its prompt or error and its listing. Without stable ids,
and if the construction does not look at ids and ends before the counter is exhausted, everything
is as on an empty graph but for one offset, which is what the counter has advanced by: the answers,
the counter, the nodes, the prompt or its error, and the ids in the listing. -/
theorem replay_after_clear (config : GraphConfig) (ops : List Operation) (S : Construction) :
    let g := (empty config).applyAll ops
    let fresh := (empty config).perform S
    let again := g.clear.perform S
    let k := g.nextId - config.idStart
    (config.stableIds = true → again.1 = fresh.1 ∧ again.2 = fresh.2 ∧
      again.2.compile = fresh.2.compile ∧ again.2.listing = fresh.2.listing) ∧
    (config.stableIds = false → S.Oblivious → again.2.nextId ≠ lastId →
      again.1 = shift k fresh.1 ∧
      again.2.nextId.toNat = fresh.2.nextId.toNat + k.toNat ∧
      again.2.nodes = fresh.2.nodes.map (shift k) ∧
      again.2.compile = (fresh.2.compile.map (fresh.2.shiftPrompt k)).mapError (shift k) ∧
      fresh.2.listing = Piece.renderAll fresh.2.pieces ∧
      again.2.listing = Piece.renderAll (shift k fresh.2.pieces)) := by
  intro g fresh again k
  have hconfig : g.config = config := config_applyAll config ops
  constructor
  · intro hstable
    have hclear : g.clear = empty config := by
      rw [clear_eq_empty (hconfig ▸ hstable), hconfig]
    have hagain : again = fresh := congrArg (perform · S) hclear
    rw [hagain]
    exact ⟨rfl, rfl, rfl, rfl⟩
  · intro hstable hoblivious hlast
    have hle : g.config.idStart.toNat ≤ g.nextId.toNat := hconfig ▸ idStart_le_applyAll config ops
    have hcleared := shifted_clear (hconfig ▸ hstable) hle
    rw [hconfig] at hcleared
    have hstable' : g.clear.config.stableIds = false := hconfig ▸ hstable
    have hperformed := hcleared.perform S hstable'
    rw [hoblivious] at hperformed
    obtain ⟨hanswers, hgraph⟩ := hperformed hlast
    refine ⟨hanswers, hgraph.nextId_eq, hgraph.nodes_eq, hgraph.compile,
      (renderAll_pieces _).symm, ?_⟩
    rw [← hgraph.pieces, renderAll_pieces]

def relayCatalog : Catalog := ⟨#[.node relay], .ofList [("Relay", 0)]⟩

/-- The subgraph `relayed` as a script. -/
def relayScript : Script.SubgraphDraft where
  typeName := "Relayed"
  inputs := [("in", .connection ⟨"image"⟩)]
  outputs := [("out", ⟨⟨"image"⟩⟩)]
  steps := [⟨none, none, .add ⟨"Relay", .node, [("in", .passed "in")], none, "inner"⟩⟩]
  returns := [("out", .output "inner" "out")]

def scripted : SubgraphDefinition :=
  { relayed with
    procedure := fun args =>
      Script.runSteps relayCatalog "Relayed" relayScript.returns args ∅ relayScript.steps }

def scriptCatalog : Catalog :=
  ⟨#[.node relay, .subgraph scripted], .ofList [("Relay", 0), ("Relayed", 1)]⟩

lemma scriptCatalog_oblivious : scriptCatalog.Oblivious := by
  have hrelay : (Definition.node relay).Oblivious := fun k => rfl
  have hcatalog : relayCatalog.Oblivious :=
    Catalog.oblivious_of_mem fun d hd => by
      obtain rfl : d = .node relay := by simpa [relayCatalog] using hd
      exact hrelay
  have hscripted : (Definition.subgraph scripted).Oblivious :=
    Script.build_oblivious hcatalog (show relayScript.build relayCatalog ∅ = .ok scripted from rfl)
  refine Catalog.oblivious_of_mem fun d hd => ?_
  obtain rfl | rfl : d = .node relay ∨ d = .subgraph scripted := by
    simpa [scriptCatalog] using hd
  · exact hrelay
  · exact hscripted

/-- A node, a subgraph that takes its output, and a node that takes the output of the subgraph. -/
def scriptedRelays : Construction :=
  .ofAdditions scriptCatalog ∅
    [⟨"Relay", .any, [], none, "first"⟩,
      ⟨"Relayed", .any, [("in", .output "first" "out")], none, "second"⟩,
      ⟨"Relay", .any, [("in", .output "second" "out")], none, "third"⟩]

theorem scriptedRelays_replayed :
    let g (stableIds : Bool) := (empty { stableIds }).applyAll [.addNode relay ∅ none]
    let fresh (stableIds : Bool) := (empty { stableIds }).perform scriptedRelays
    let again (stableIds : Bool) := (g stableIds).clear.perform scriptedRelays
    (fresh false).2.size = 3 ∧ (again true).1 = (fresh true).1 ∧
    (again false).2.nextId ≠ lastId ∧
    (again false).1 = shift ((g false).nextId - 1) (fresh false).1 :=
  have hlast : (((empty { stableIds := false }).applyAll
      [.addNode relay ∅ none]).clear.perform scriptedRelays).2.nextId ≠ lastId := by
    decide +kernel
  ⟨by decide +kernel, ((replay_after_clear { stableIds := true } _ _).1 rfl).1, hlast,
    ((replay_after_clear { stableIds := false } _ _).2 rfl
      (Construction.ofAdditions_oblivious scriptCatalog_oblivious _) hlast).1⟩

end Graph

end PromptGraph
