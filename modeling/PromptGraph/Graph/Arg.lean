import PromptGraph.Definition.Spec

/-!
Connections and the arguments that inputs are given.
-/

namespace PromptGraph

/-- Identifies a node within its graph. -/
abbrev NodeId := UInt64

/-- An output of a node, by the kind of value it gives, the node and the place. -/
structure Out where
  kind : Kind
  node : NodeId
  index : UInt32
deriving DecidableEq

def Out.text (out : Out) : String := s!"#{out.node}[{out.index}]:{out.kind.name}"

inductive Arg where
  | literal (value : Literal)
  | connection (out : Out)

namespace Arg

def literal? : Arg → Option Literal
  | .literal value => some value
  | .connection _ => none

def connection? : Arg → Option Out
  | .literal _ => none
  | .connection out => some out

end Arg

/-- Arguments by the names of the inputs they are for. -/
abbrev Args := NameMap Arg

namespace Args

def literal? (args : Args) (name : String) : Option Literal := args[name]?.bind Arg.literal?

def connection? (args : Args) (name : String) : Option Out := args[name]?.bind Arg.connection?

end Args

end PromptGraph
