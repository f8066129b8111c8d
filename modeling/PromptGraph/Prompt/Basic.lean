import PromptGraph.Graph.Arg

/-!
Prompts: compiled graphs, as the engine takes them.

A prompt is a list of entries, each under the id of its node. A decoded prompt may hold several
entries under one id.
-/

namespace PromptGraph

/-- Annotations that have no effect on the execution of a prompt. -/
structure PromptMeta where
  title : Option String
deriving DecidableEq

structure PromptEntry where
  classType : String
  inputs : NameMap Literal
  annotations : Option PromptMeta

def PromptEntry.title (e : PromptEntry) : Option String := e.annotations.bind (·.title)

structure Prompt where
  entries : List (NodeId × PromptEntry)

/-- What is submitted to the engine: a prompt and, maybe, who submits it. -/
structure PromptRequest where
  prompt : Prompt
  clientId : Option String

namespace PromptEntry

/-- Equality of entries: the inputs are compared as values. -/
def agrees (a b : PromptEntry) : Bool :=
  a.classType == b.classType && a.annotations == b.annotations &&
    Json.membersAgree (a.inputs.toList.map fun (k, v) => (k, v.json))
      (b.inputs.toList.map fun (k, v) => (k, v.json))

end PromptEntry

namespace Prompt

def ids (p : Prompt) : List NodeId := p.entries.map Prod.fst

def size (p : Prompt) : Nat := p.entries.length

def isEmpty (p : Prompt) : Bool := p.entries.isEmpty

/-- The first entry under an id. -/
def find? (p : Prompt) (id : NodeId) : Option PromptEntry := p.entries.lookup id

/-- Equality of prompts, entry by entry. -/
def agrees (p q : Prompt) : Bool := go p.entries q.entries
where
  go : List (NodeId × PromptEntry) → List (NodeId × PromptEntry) → Bool
    | [], [] => true
    | (i, a) :: as, (j, b) :: bs => i == j && a.agrees b && go as bs
    | _, _ => false

end Prompt

end PromptGraph
