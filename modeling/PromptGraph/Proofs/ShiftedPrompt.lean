import PromptGraph.Graph.Listing
import PromptGraph.Proofs.Compile
import PromptGraph.Proofs.Shift

/-!
What becomes of prompts and listings when the ids of a graph are moved.

In a prompt the ids of the entries move, and the ids in the references of connected inputs; values
that were given as literals stay, whatever they look like. A listing is text with ids in it, and
the ids move.
-/

namespace PromptGraph

open Shift (shift)

variable {k : NodeId}

/-! ### Prompts -/

instance : Shift Connection where
  shift k c := { c with node := shift k c.node, out := shift k c.out }
  shift_neg_shift k c := by simp

namespace NodeRecord

/-- The entry of a node once its id and its connections are moved: the connected inputs refer to
the moved outputs. -/
def shiftEntry (k : NodeId) (r : NodeRecord) (entry : PromptEntry) : PromptEntry :=
  { entry with
    inputs := entry.inputs.map fun name value =>
      match r.args.connection? name with
      | some out => Graph.reference (shift k out)
      | none => value }

lemma connections_shift (r : NodeRecord) : (shift k r).connections = shift k r.connections := by
  have hone (input : String × InputSpec) :
      ((shift k r).args.connection? input.1).map (⟨(shift k r).id, input.1, input.2, ·⟩) =
        ((r.args.connection? input.1).map (⟨r.id, input.1, input.2, ·⟩)).map
          (shift k : Connection → Connection) := by
    have hargs : (shift k r).args.connection? input.1 = shift k (r.args.connection? input.1) :=
      Args.connection?_shift k r.args input.1
    rw [hargs]
    cases r.args.connection? input.1 <;> rfl
  rw [shift_list, connections, connections, connectionsOf, connectionsOf, List.map_filterMap]
  exact List.filterMap_congr fun input _ => hone input

/-- The recorded arguments of the declared inputs, as values. -/
lemma getElem?_entry_inputs (r : NodeRecord) (name : String) :
    r.entry.inputs[name]? = (r.definition.inputs.lookup name).bind fun _ =>
      r.args[name]?.map Arg.value := by
  apply Option.ext
  intro value
  rw [entry_inputs_eq_some_iff, mem_valuesOf, Option.bind_eq_some_iff]
  simp only [Option.map_eq_some_iff, exists_and_right]
  refine and_congr_left fun _ => ?_
  rw [← Option.isSome_iff_exists, ← Args.isDeclared_eq_isSome_lookup, Args.isDeclared]
  simp

lemma entry_shift (r : NodeRecord) : (shift k r).entry = r.shiftEntry k r.entry := by
  have hinputs : (shift k r).entry.inputs = (r.shiftEntry k r.entry).inputs := by
    apply Std.ExtTreeMap.ext_getElem?
    intro name
    have hargs : (shift k r).args[name]? = shift k r.args[name]? := getElem?_shift k r.args name
    rw [shiftEntry, Std.ExtTreeMap.getElem?_map, getElem?_entry_inputs, getElem?_entry_inputs,
      hargs, Args.connection?]
    have hlookup : (shift k r).definition.inputs.lookup name = r.definition.inputs.lookup name :=
      rfl
    rw [hlookup]
    cases r.definition.inputs.lookup name with
    | none => rfl
    | some spec =>
      cases r.args[name]? with
      | none => rfl
      | some arg => cases arg <;> rfl
  exact congrArg (PromptEntry.mk _ · _) hinputs

end NodeRecord

namespace Graph

/-- The prompt of a graph once the ids of the graph are moved. -/
def shiftPrompt (k : NodeId) (g : Graph) (p : Prompt) : Prompt :=
  ⟨g.nodes.toList.zipWith (fun r (id, entry) => (shift k id, r.shiftEntry k entry)) p.entries⟩

variable {g h : Graph}

namespace Shifted

lemma toList_eq (hgh : Shifted k g h) : h.nodes.toList = g.nodes.toList.map (shift k) := by
  rw [hgh.nodes_eq, Array.toList_map]

lemma node? (hgh : Shifted k g h) (id : NodeId) : h.node? (shift k id) = shift k (g.node? id) := by
  unfold Graph.node?
  rw [hgh.places_eq, hgh.nodes_eq]
  cases g.places[id]? with
  | none => rfl
  | some place => simp [shift]

lemma provides (hgh : Shifted k g h) (out : Out) : h.provides (shift k out) = g.provides out := by
  unfold Graph.provides
  rw [node_shift, hgh.node?]
  cases g.node? out.node <;> rfl

lemma fault? (hgh : Shifted k g h) (c : Connection) :
    h.fault? (shift k c) = shift k (g.fault? c) := by
  have hout : h.provides (shift k c).out = g.provides c.out := hgh.provides c.out
  have hkind : (shift k c).out.kind = c.out.kind := rfl
  have hspec : (shift k c).spec = c.spec := rfl
  unfold Graph.fault? compileConnection
  rw [hout, hkind, hspec]
  cases c.spec.kind with
  | none => rfl
  | some kind =>
    simp only
    split_ifs <;> rfl

lemma firstFault? (hgh : Shifted k g h) : h.firstFault? = shift k g.firstFault? := by
  have hconnections : h.connections = g.connections.map (shift k) := by
    rw [connections, connections, hgh.toList_eq, List.flatMap_map, List.map_flatMap]
    exact List.flatMap_congr fun r _ => r.connections_shift
  rw [Graph.firstFault?, Graph.firstFault?, hconnections, List.findSome?_map]
  induction g.connections with
  | nil => rfl
  | cons c cs ih =>
    simp only [List.findSome?_cons, Function.comp_apply, hgh.fault?]
    cases g.fault? c with
    | none => exact ih
    | some e => rfl

lemma document (hgh : Shifted k g h) : h.document = g.shiftPrompt k g.document := by
  simp only [Graph.document, shiftPrompt, hgh.toList_eq, List.map_map, List.zipWith_map_right,
    List.zipWith_self, Function.comp_def, NodeRecord.entry_shift]
  rfl

/-- Compiling gives the moved prompt or the moved error. -/
lemma compile (hgh : Shifted k g h) :
    h.compile = (g.compile.map (g.shiftPrompt k)).mapError (shift k) := by
  rw [compile_eq, compile_eq, hgh.firstFault?, hgh.document]
  cases g.firstFault? <;> rfl

end Shifted

end Graph

/-! ### Listings -/

/-- A part of a listing: an id, or other text. -/
inductive Piece where
  | text (s : String)
  | ref (id : NodeId)

namespace Piece

instance : Shift Piece where
  shift k
    | .text s => .text s
    | .ref id => .ref (shift k id)
  shift_neg_shift k p := by cases p <;> simp

def render : Piece → String
  | .text s => s
  | .ref id => toString id

def renderAll (ps : List Piece) : String := String.join (ps.map render)

lemma renderAll_append (ps qs : List Piece) :
    renderAll (ps ++ qs) = renderAll ps ++ renderAll qs := by
  simp [renderAll]

lemma renderAll_flatMap {α : Type} (f : α → List Piece) (as : List α) :
    renderAll (as.flatMap f) = String.join (as.map fun a => renderAll (f a)) := by
  induction as with
  | nil => rfl
  | cons a as ih => rw [List.flatMap_cons, renderAll_append, ih, List.map_cons, String.join_cons]

end Piece

namespace NodeRecord

def headPieces (r : NodeRecord) : List Piece :=
  let title := match r.label with
    | some label => s!" \"{label}\""
    | none => ""
  [.text "#", .ref r.id, .text s!" {r.definition.typeName}{title}"]

def argPieces (name : String) : Arg → List Piece
  | .literal value => [.text s!"{name} = {value.text}"]
  | .connection out =>
    [.text s!"{name} <- ", .text "#", .ref out.node, .text s!"[{out.index}]:{out.kind.name}"]

def branchPieces : List (List Piece) → List (List Piece)
  | [] => []
  | [line] => [.text "└── " :: line]
  | line :: lines => (.text "├── " :: line) :: branchPieces lines

/-- The lines that a listing has for a node, in pieces. -/
def pieces (r : NodeRecord) : List (List Piece) :=
  r.headPieces :: branchPieces
    (r.definition.inputs.filterMap fun (name, _) => r.args[name]?.map (argPieces name))

lemma renderAll_headPieces (r : NodeRecord) : Piece.renderAll r.headPieces = r.headline := by
  simp [Piece.renderAll, Piece.render, headPieces, headline, String.append_assoc]
  rfl

lemma renderAll_argPieces (name : String) (arg : Arg) :
    Piece.renderAll (argPieces name arg) = argLine name arg := by
  cases arg with
  | literal value => simp [Piece.renderAll, Piece.render, argPieces, argLine]
  | connection out =>
    simp [Piece.renderAll, Piece.render, argPieces, argLine, Out.text, String.append_assoc]
    rfl

lemma map_branchPieces (lines : List (List Piece)) :
    (branchPieces lines).map Piece.renderAll = branches (lines.map Piece.renderAll) := by
  induction lines with
  | nil => rfl
  | cons line lines ih =>
    cases lines with
    | nil => simp [branchPieces, branches, Piece.renderAll, Piece.render]
    | cons next lines =>
      simp only [branchPieces, branches, List.map_cons] at ih ⊢
      rw [ih]
      simp [Piece.renderAll, Piece.render]

lemma map_pieces (r : NodeRecord) : r.pieces.map Piece.renderAll = r.listing := by
  rw [pieces, List.map_cons, renderAll_headPieces, map_branchPieces, listing, argLines,
    List.map_filterMap]
  congr 2
  apply List.filterMap_congr
  rintro ⟨name, spec⟩ _
  simp only [Option.map_map, Function.comp_def, renderAll_argPieces]

lemma branchPieces_shift (lines : List (List Piece)) :
    branchPieces (shift k lines) = shift k (branchPieces lines) := by
  induction lines with
  | nil => rfl
  | cons line lines ih =>
    cases lines with
    | nil => rfl
    | cons next lines => exact congrArg _ ih

lemma pieces_shift (r : NodeRecord) : (shift k r).pieces = shift k r.pieces := by
  have hargs : (shift k r).definition.inputs.filterMap
      (fun (name, _) => (shift k r).args[name]?.map (argPieces name)) =
      shift k (r.definition.inputs.filterMap fun (name, _) =>
        r.args[name]?.map (argPieces name)) := by
    rw [shift_list, List.map_filterMap]
    apply List.filterMap_congr
    intro input _
    have harg : (shift k r).args[input.1]? = shift k r.args[input.1]? :=
      getElem?_shift k r.args input.1
    simp only [harg]
    cases r.args[input.1]? with
    | none => rfl
    | some arg => cases arg <;> rfl
  rw [pieces, hargs, branchPieces_shift]
  rfl

end NodeRecord

namespace Graph

/-- A listing in pieces. -/
def pieces (g : Graph) : List Piece :=
  (g.nodes.toList.flatMap (·.pieces)).flatMap (· ++ [.text "\n"])

lemma renderAll_pieces (g : Graph) : Piece.renderAll g.pieces = g.listing := by
  rw [pieces, Piece.renderAll_flatMap, listing]
  simp only [Piece.renderAll_append, ← NodeRecord.map_pieces]
  simp [List.map_flatMap, Piece.renderAll, Piece.render, Function.comp_def]

lemma Shifted.pieces {g h : Graph} (hgh : Shifted k g h) : h.pieces = shift k g.pieces := by
  rw [Graph.pieces, Graph.pieces, hgh.toList_eq, shift_list, List.flatMap_map, List.map_flatMap]
  simp only [NodeRecord.pieces_shift, List.flatMap_assoc]
  apply List.flatMap_congr
  intro r _
  rw [shift_list, List.flatMap_map]
  apply List.flatMap_congr
  intro line _
  rw [List.map_append]
  rfl

end Graph

end PromptGraph
