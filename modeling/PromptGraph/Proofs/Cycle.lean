import Mathlib.Logic.Relation
import PromptGraph.Proofs.Wiring

/-!
Cycles in compiled prompts, and where they come from.

An output is identified by its kind, the id of its node and its place. A graph takes any output as
an argument, also that of another graph or one from before the last clear, and compiling looks for
its node by the id. If a node with that id comes later, or is the one that takes the argument, the
prompt refers forwards. Every cycle has such a reference.
-/

namespace PromptGraph

open Relation

/-- The outputs of the nodes that were added since the last clear. -/
def made (es : List Event) : List Out := (sinceClear es).flatMap (·.makes)

/-- The connection was made since the last clear, to an output that no node had had by then. -/
def Stray (es : List Event) (c : Connection) : Prop :=
  ∃ before d args label handle after,
    sinceClear es = before ++ .added d args label (.ok handle) :: after ∧ handle.id = c.node ∧
    args[c.input]? = some (.connection c.out) ∧ c.out ∉ before.flatMap (·.makes)

section

variable {es : List Event} {e : Event} {out : Out} {c : Connection}

lemma made_cleared : made (es ++ [.cleared]) = [] := by
  rw [made, sinceClear_snoc_of_isClear rfl, List.flatMap_nil]

lemma mem_made_snoc (he : e.isClear = false) :
    out ∈ made (es ++ [e]) ↔ out ∈ made es ∨ out ∈ e.makes := by
  simp [made, sinceClear_snoc he]

lemma Stray.snoc (h : Stray es c) (he : e.isClear = false) : Stray (es ++ [e]) c := by
  obtain ⟨before, d, args, label, handle, after, hes, hstray⟩ := h
  exact ⟨before, d, args, label, handle, after ++ [e], by simp [sinceClear_snoc he, hes], hstray⟩

end

namespace Graph

variable {g h : Graph}

/-- What was made is declared, and a connection leads to an earlier node unless it is stray. -/
structure Traced (es : List Event) (g : Graph) : Prop where
  declares : ∀ out ∈ made es, g.Declares out
  earlier_or_stray : ∀ c ∈ g.connections, c.out.node < c.node ∨ Stray es c

lemma Traced.step {es : List Event} {e : Event} (hg : g.Consistent) (ht : Traced es g)
    (s : Step g e h) : Traced (es ++ [e]) h := by
  obtain ⟨rfl, hclear, hmakes, -⟩ | ⟨rfl, rfl⟩ | ⟨d, args, given, label, hr, -, rfl, rfl⟩ :=
    s.effect
  · constructor
    · intro out hout
      rw [mem_made_snoc hclear, hmakes] at hout
      exact ht.declares out (hout.resolve_right (by simp))
    · intro c hc
      exact (ht.earlier_or_stray c hc).imp_right fun hs => hs.snoc hclear
  · constructor
    · simp [made_cleared]
    · simp [connections, clear]
  · constructor
    · intro out hout
      rcases (mem_made_snoc rfl).1 hout with hout | hout
      · exact (ht.declares out hout).push d given label
      · exact declares_of_handle hout
    · intro c hc
      rcases connection_of_push hc with hc | ⟨hnode, hout⟩
      · exact (ht.earlier_or_stray c hc).imp_right fun hs => hs.snoc rfl
      · by_cases hmade : c.out ∈ made es
        · left
          rw [hnode]
          exact (ht.declares _ hmade).node_lt hg
        · right
          exact ⟨sinceClear es, d, args, label, _, [], sinceClear_snoc rfl, hnode.symm,
            Args.connection_of_resolve d.inputs_nodup hr hout, hmade⟩

lemma Steps.traced {config : GraphConfig} {es : List Event} (hes : Steps (empty config) es g) :
    Traced es g := by
  induction hes with
  | refl =>
    constructor
    · simp [made]
    · simp [connections, empty]
  | tail hes s ih =>
    exact ih.step (hes.invariant (fun hg s => hg.step s) (consistent_empty config)) s

/-- A path between ids that does not lead down has an edge that does not. -/
lemma lt_or_exists_edge {r : NodeId → NodeId → Prop} {i j : NodeId} (hij : TransGen r i j) :
    j < i ∨ ∃ a b, ReflTransGen r i a ∧ r a b ∧ ¬ b < a ∧ ReflTransGen r b j := by
  induction hij with
  | @single j hij =>
    by_cases hlt : j < i
    · exact .inl hlt
    · exact .inr ⟨i, j, .refl, hij, hlt, .refl⟩
  | @tail j k hij hjk ih =>
    rcases ih with hji | ⟨a, b, hia, hab, hrise, hbj⟩
    · by_cases hlt : k < j
      · exact .inl (UInt64.lt_trans hlt hji)
      · exact .inr ⟨j, k, hij.to_reflTransGen, hjk, hlt, .refl⟩
    · exact .inr ⟨a, b, hia, hab, hrise, hbj.tail hjk⟩

/-- **Cycles.** The prompt of a graph has a cycle exactly if a stray connection closes one, that is
if references lead back from its producer to its consumer. Without stray connections prompts are
acyclic. -/
theorem cyclic_iff_stray (config : GraphConfig) (ops : List Operation) (p : Prompt)
    (hp : ((empty config).applyAll ops).compile = .ok p) :
    let g := (empty config).applyAll ops
    (∃ i, TransGen (g.Refers p) i i) ↔
      ∃ c ∈ g.connections, Stray ((empty config).history ops) c ∧
        ReflTransGen (g.Refers p) c.out.node c.node := by
  intro g
  have ht : Traced _ g := (steps_history ops _).traced
  constructor
  · rintro ⟨i, hi⟩
    rcases lt_or_exists_edge hi with hlt | ⟨a, b, hia, hab, hrise, hbi⟩
    · exact absurd hlt (UInt64.lt_irrefl i)
    · obtain ⟨c, hc, rfl, rfl⟩ := (refers_iff hp).1 hab
      exact ⟨c, hc, (ht.earlier_or_stray c hc).resolve_left hrise, hbi.trans hia⟩
  · rintro ⟨c, hc, -, hback⟩
    exact ⟨c.node, .head' ((refers_iff hp).2 ⟨c, hc, rfl, rfl⟩) hback⟩

/-- The first node of a graph is connected to the first node of another graph, which has the same
id. -/
def loopRun : List Operation := [.addNode relay (relayArgs 1) none]

lemma compile_loopRun :
    let g := (empty {}).applyAll loopRun
    g.compile = .ok g.document :=
  compile_of_isNone _ (by decide +kernel)

theorem loopRun_cyclic_iff :
    let g := (empty {}).applyAll loopRun
    g.compile = .ok g.document ∧
    ((∃ i, TransGen (g.Refers g.document) i i) ↔
      ∃ c ∈ g.connections, Stray ((empty {}).history loopRun) c ∧
        ReflTransGen (g.Refers g.document) c.out.node c.node) :=
  ⟨compile_loopRun, cyclic_iff_stray {} loopRun _ compile_loopRun⟩

/-- The output of the first node of another graph closes a cycle, and compiling does not object. -/
theorem loopRun_refers_to_itself :
    let g := (empty {}).applyAll loopRun
    (∃ handle out, ((empty {}).addNode relay ∅ none).1 = .ok handle ∧
      handle.out "out" = .ok out ∧ relayArgs 1 = .ofList [("in", Arg.connection out)]) ∧
    g.compile = .ok g.document ∧ g.Refers g.document 1 1 := by
  intro g
  refine ⟨⟨⟨1, "Relay", none, [("out", ⟨⟨"image"⟩, 1, 0⟩)]⟩, ⟨⟨"image"⟩, 1, 0⟩, ?_, rfl, rfl⟩,
    compile_loopRun, ?_⟩
  · cbv
  · rw [refers_iff compile_loopRun]
    have hany : (g.connections.any fun c => c.node = 1 ∧ c.out.node = 1) = true := by
      decide +kernel
    simpa using hany

end Graph

end PromptGraph
