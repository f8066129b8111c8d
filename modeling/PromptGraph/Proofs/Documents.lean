import PromptGraph.Catalog.Document
import PromptGraph.Prompt.Document
import PromptGraph.Proofs.Json.Steady

/-!
Catalog and prompt documents do not depend on the order of their members.
-/

namespace PromptGraph

open Json

lemma Json.Reader.steady_index : Reader.index.Steady := (steady_unsigned 32).map

lemma Kind.steady_read : Kind.read.Steady := Reader.steady_string.map

lemma InputSpec.steady_read : InputSpec.read.Steady := by
  have hrecord : record.Steady := {
    fields := by
      simp only [record, List.forall_mem_cons]
      exact ⟨.put Reader.steady_bool, .put Kind.steady_read.option,
        .put Reader.steady_literal.option, .put Reader.steady_literal.list.option, by simp⟩
    independent := by
      simp only [record, List.pairwise_cons, List.forall_mem_cons]
      exact ⟨⟨.put fun _ _ _ => rfl, .put fun _ _ _ => rfl, .put fun _ _ _ => rfl, by simp⟩,
        ⟨.put fun _ _ _ => rfl, .put fun _ _ _ => rfl, by simp⟩,
        ⟨.put fun _ _ _ => rfl, by simp⟩, by simp⟩ }
  exact hrecord.read

lemma OutputSpec.steady_read : OutputSpec.read.Steady := by
  have hrecord : record.Steady := {
    fields := by
      simp only [record, List.forall_mem_cons]
      exact ⟨.put Kind.steady_read, .put Reader.steady_index, by simp⟩
    independent := by
      simp only [record, List.pairwise_cons, List.forall_mem_cons]
      exact ⟨⟨.put fun _ _ _ => rfl, by simp⟩, by simp⟩ }
  exact hrecord.read

lemma NodeDocument.steady_read : NodeDocument.record.read.Steady := by
  have hrecord : record.Steady := {
    fields := by
      simp only [record, List.forall_mem_cons]
      exact ⟨.put InputSpec.steady_read.nameMap, .put OutputSpec.steady_read.nameMap, by simp⟩
    independent := by
      simp only [record, List.pairwise_cons, List.forall_mem_cons]
      exact ⟨⟨.put fun _ _ _ => rfl, by simp⟩, by simp⟩ }
  exact hrecord.read

lemma PromptMeta.steady_read : PromptMeta.read.Steady := by
  have hrecord : record.Steady := {
    fields := by
      simp only [record, List.forall_mem_cons]
      exact ⟨.put Reader.steady_string.option, by simp⟩
    independent := by simp [record] }
  exact hrecord.read

lemma PromptEntry.steady_read : PromptEntry.read.Steady := by
  have hrecord : record.Steady := {
    fields := by
      simp only [record, List.forall_mem_cons]
      exact ⟨.put Reader.steady_string, .put Reader.steady_literal.nameMap,
        .put PromptMeta.steady_read.option, by simp⟩
    independent := by
      simp only [record, List.pairwise_cons, List.forall_mem_cons]
      exact ⟨⟨.put fun _ _ _ => rfl, .put fun _ _ _ => rfl, by simp⟩,
        ⟨.put fun _ _ _ => rfl, by simp⟩, by simp⟩ }
  exact hrecord.read

lemma Catalog.steady_readDocument : Catalog.readDocument.Steady := NodeDocument.steady_read.nameMap

end PromptGraph
