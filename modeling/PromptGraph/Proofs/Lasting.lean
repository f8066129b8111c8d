import PromptGraph.Proofs.Calls
import PromptGraph.Proofs.Growth

/-!
What lasts of a compiled graph while the graph grows.

An entry is made of its node alone, so the entries of a prompt stay the first entries of every later
one. A fault between an input and its own connection lasts as well, and stays the first, since what
was sound before it stays sound. Only a reference that dangles may find its node later.
-/

namespace PromptGraph.Graph

variable {g h : Graph} {new : List NodeRecord}

/-! ### Growing by additions -/

lemma exists_grown_apply (g : Graph) {op : Operation} (hop : op ≠ .clear) :
    ∃ new, Grown g new (g.apply op) := by
  cases op with
  | add d args label => exact ⟨_, grown_add g d args label⟩
  | addNode d args label => exact ⟨_, grown_add g (.node d) args label⟩
  | addSubgraph d args label => exact ⟨_, grown_add g (.subgraph d) args label⟩
  | clear => exact absurd rfl hop

lemma exists_grown_applyAll (g : Graph) {ops : List Operation} (hops : .clear ∉ ops) :
    ∃ new, Grown g new (g.applyAll ops) := by
  induction ops generalizing g with
  | nil => exact ⟨[], .refl g⟩
  | cons op ops ih =>
    simp only [List.mem_cons, not_or] at hops
    obtain ⟨new, hgrown⟩ := exists_grown_apply g (Ne.symm hops.1)
    obtain ⟨more, hmore⟩ := ih (g.apply op) hops.2
    exact ⟨new ++ more, hgrown.trans hmore⟩

namespace Grown

lemma connections_eq (hgh : Grown g new h) :
    h.connections = g.connections ++ new.flatMap (·.connections) := by
  rw [connections, hgh.nodes_eq, List.flatMap_append, ← connections]

lemma entries_prefix (hgh : Grown g new h) : g.document.entries <+: h.document.entries := by
  rw [document, document, hgh.nodes_eq, List.map_append]
  exact List.prefix_append _ _

lemma declares (hgh : Grown g new h) {out : Out} (hout : g.Declares out) : h.Declares out := by
  obtain ⟨r, hr, hdecl⟩ := hout
  have hmem : r ∈ h.nodes.toList := by
    rw [hgh.nodes_eq]
    exact List.mem_append_left _ (by simpa using hr)
  exact ⟨r, by simpa using hmem, hdecl⟩

lemma sound (hgh : Grown g new h) {c : Connection} (hc : g.Sound c) : h.Sound c :=
  ⟨hc.1, hgh.declares hc.2⟩

end Grown

/-! ### Faults -/

/-- In a fault that is not a dangling reference the graph has no part. -/
lemma Fault.of_not_dangling {c : Connection} {e : CompileError} (hfault : g.Fault c e)
    (he : ∀ node input producer index, e ≠ .danglingReference node input producer index)
    (h : Graph) : h.Fault c e := by
  cases hfault with
  | unexpected hkind => exact .unexpected hkind
  | mismatch hkind hne => exact .mismatch hkind hne
  | dangling _ _ => exact absurd rfl (he _ _ _ _)

lemma Grown.compile_eq_error (hgh : Grown g new h) (hg : g.Consistent) (hh : h.Consistent)
    {e : CompileError}
    (he : ∀ node input producer index, e ≠ .danglingReference node input producer index)
    (hcompile : g.compile = .error e) : h.compile = .error e := by
  rw [compile_eq, okUnless_eq_error_iff, firstFault?_eq_some_iff hg] at hcompile
  obtain ⟨before, c, after, hsplit, hsound, hfault⟩ := hcompile
  rw [compile_eq, okUnless_eq_error_iff, firstFault?_eq_some_iff hh]
  refine ⟨before, c, after ++ new.flatMap (·.connections), ?_, fun b hb => hgh.sound (hsound b hb),
    hfault.of_not_dangling he h⟩
  rw [hgh.connections_eq, hsplit, List.append_assoc, List.cons_append]

/-- **Growing keeps what was compiled.** After any further additions, successful or not, the entries
that a graph had before are the first entries of what it compiles to; and if it did not compile
because of an input that takes no connections, or none of that kind, it still fails with the same
error. -/
theorem growing_keeps_compiled (config : GraphConfig) (ops more : List Operation)
    (hmore : .clear ∉ more) :
    let g := (empty config).applyAll ops
    let h := g.applyAll more
    (∀ p q, g.compile = .ok p → h.compile = .ok q → p.entries <+: q.entries) ∧
    (∀ node input expected found,
      g.compile = .error (.kindMismatch node input expected found) →
      h.compile = .error (.kindMismatch node input expected found)) ∧
    (∀ node input,
      g.compile = .error (.unexpectedConnection node input) →
      h.compile = .error (.unexpectedConnection node input)) := by
  intro g h
  have hg : g.Consistent := consistent_applyAll config ops
  have hh : h.Consistent := (steps_history more g).invariant (fun hg s => hg.step s) hg
  obtain ⟨new, hgrown⟩ : ∃ new, Grown g new h := exists_grown_applyAll g hmore
  refine ⟨fun p q hp hq => ?_, fun node input expected found hcompile => ?_,
    fun node input hcompile => ?_⟩
  · obtain ⟨-, rfl⟩ := okUnless_eq_ok_iff.1 (g.compile_eq ▸ hp)
    obtain ⟨-, rfl⟩ := okUnless_eq_ok_iff.1 (h.compile_eq ▸ hq)
    exact hgrown.entries_prefix
  · exact hgrown.compile_eq_error hg hh (by simp) hcompile
  · exact hgrown.compile_eq_error hg hh (by simp) hcompile

/-- A subgraph, and a subgraph that fails but leaves a node. -/
def growth : List Operation :=
  [.addSubgraph relayed (relayArgs 1) none, .addSubgraph leaky ∅ none]

theorem growth_keeps :
    let g := (empty {}).applyAll [.addNode relay ∅ none]
    let h := g.applyAll growth
    let g' := (empty {}).applyAll [.addNode relay (maskArgs 9) none]
    let e := CompileError.kindMismatch 1 "in" ⟨"image"⟩ ⟨"mask"⟩
    .clear ∉ growth ∧ g.compile = .ok g.document ∧ h.compile = .ok h.document ∧
    g.document.ids = [1] ∧ h.document.ids = [1, 2, 3] ∧
    g.document.entries <+: h.document.entries ∧
    g'.compile = .error e ∧ (g'.applyAll growth).compile = .error e := by
  intro g h g' e
  have hmore : .clear ∉ growth := by simp [growth]
  have hp : g.compile = .ok g.document := compile_of_isNone _ (by decide +kernel)
  have hq : h.compile = .ok h.document := compile_of_isNone _ (by decide +kernel)
  have he : g'.compile = .error e := by
    rw [compile_eq, okUnless_eq_error_iff]
    decide +kernel
  obtain ⟨hkept, -, -⟩ := growing_keeps_compiled {} [.addNode relay ∅ none] growth hmore
  obtain ⟨-, hmismatch, -⟩ :=
    growing_keeps_compiled {} [.addNode relay (maskArgs 9) none] growth hmore
  exact ⟨hmore, hp, hq, by decide +kernel, by decide +kernel, hkept _ _ hp hq, he,
    hmismatch _ _ _ _ he⟩

/-- A reference to a node that comes later dangles only until then. -/
example :
    let g := (empty {}).applyAll [.addNode relay (relayArgs 2) none]
    g.firstFault? = some (.danglingReference 1 "in" 2 0) ∧
    (g.applyAll [.addNode relay ∅ none]).firstFault? = none := by decide +kernel

end PromptGraph.Graph
