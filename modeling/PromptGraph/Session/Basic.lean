import PromptGraph.Catalog.Document
import PromptGraph.File.Tree
import PromptGraph.Graph.Compile
import PromptGraph.Graph.Listing
import PromptGraph.Prompt.Document
import PromptGraph.Session.Script

/-!
Sessions: catalogs, graphs, handles, prompts and files under names, the commands on them, and the
answers to commands.
-/

namespace PromptGraph.Session

open Script

/-- A change to a set of arguments, or a question to one. -/
inductive ArgsCommand where
  | set (name : String) (value : Term)
  | remove (name : String)
  | get (name : String)
  | literal (name : String)
  | connection (name : String)
  | contains (name : String)
  | all

/-- What of a definition is asked for. -/
inductive Aspect where
  | whole
  | input (name : String)
  | output (name : String)
  | outputAt (index : UInt32)

/-- Types that can be read from a document and written again. -/
inductive DocumentType where
  | kind
  | nodeId
  | outputSpec
  | subgraphOutputSpec
  | inputSpec
  | promptEntry
  | promptMeta
  | promptRequest
  | config

inductive View where
  | pretty
  | value
  | ids
  | iter
  | get (id : NodeId)
  | empty
  | equals (other : String)
  | request (clientId : Option String)

/-- The settings of a new graph: some given one by one, or a document. -/
inductive ConfigSource where
  | given (config : GraphConfig)
  | text (text : String)

inductive Command where
  | defineNode (catalog : String) (draft : NodeDraft)
  | defineSubgraph (catalog : String) (draft : SubgraphDraft)
  | copyDefinition (source name target : String)
  | catalogText (catalog text : String)
  | catalogFile (catalog path : String)
  | showCatalog (catalog : String)
  | lookup (catalog name : String) (route : Route) (aspect : Aspect)
  | contains (catalog name : String)
  | checkSpec (spec : InputSpec) (values : List Literal)
  | checkSpecText (text : String) (values : List Literal)
  | roundTrip (type : DocumentType) (text : String)
  | args (commands : List ArgsCommand)
  | collectArgs (terms : List (String × Term))
  | outputs (terms : List (String × Term)) (names : List String)
  | newGraph (graph : String) (config : ConfigSource)
  | copyGraph (graph target : String)
  | add (graph catalog : String) (addition : Addition)
  | out (handle name : String)
  | showHandle (handle : String)
  | clear (graph : String)
  | showGraph (graph : String)
  | nodes (graph : String)
  | node (graph : String) (id : NodeId)
  | display (graph : String)
  | compile (graph prompt : String)
  | promptText (prompt text : String)
  | promptFile (prompt path : String)
  | savePrompt (prompt path : String)
  | viewPrompt (prompt : String) (view : View)
  | putFile (path content : String)
  | addDirectory (path : String)
  | showFile (path : String)

inductive ArgsAnswer where
  | done
  | arg (arg : Option Arg)
  | literal (value : Option Literal)
  | connection (out : Option Out)
  | contains (value : Bool)
  | all (args : Args)

inductive Answer where
  | done
  | text (text : String)
  | truth (value : Bool)
  | definition (definition : Definition)
  | catalog (catalog : Catalog)
  | input (spec : Option InputSpec)
  | nodeOutput (spec : Option OutputSpec)
  | subgraphOutput (spec : Option SubgraphOutputSpec)
  | outputAt (output : Option (String × OutputSpec))
  | spec (spec : InputSpec) (allowed : List Bool)
  | document (json : Json)
  | config (config : GraphConfig)
  /-- The answers of commands on arguments, each with the arguments after it. -/
  | argsTrace (trace : List (ArgsAnswer × Args))
  | args (args : Args)
  | outputs (found : List (Option Out)) (outputs : SubgraphOutputs)
  | handle (handle : Handle)
  | handleDetails (handle : Handle)
  | out (out : Out)
  | graph (graph : Graph)
  | nodes (nodes : List NodeRecord)
  | node (node : Option NodeRecord)
  | prompt (prompt : Prompt)
  | ids (ids : List NodeId)
  | entries (entries : List (NodeId × PromptEntry))
  | entry (entry : Option PromptEntry)

inductive Error where
  | definition (error : DefinitionError)
  | build (error : BuildError)
  | compile (error : CompileError)
  | prompt (error : PromptError)
  | document (error : Json.DocumentError)
  | file (fault : FileFault)
  | unknownName (name : String)

/-- The reply to a command: an answer or an error, and the graph that the command was about. -/
structure Reply where
  result : Except Error Answer
  graph : Option Graph := none

end PromptGraph.Session

namespace PromptGraph

structure Session where
  catalogs : NameMap Catalog
  graphs : NameMap Graph
  handles : NameMap Handle
  prompts : NameMap Prompt
  files : FileTree

namespace Session

def empty : Session := ⟨∅, ∅, ∅, ∅, .empty⟩

/-- A catalog is empty until something is done to it. -/
def catalog (s : Session) (name : String) : Catalog := s.catalogs[name]?.getD .empty

/-- A graph is empty until something is done to it. -/
def graph (s : Session) (name : String) : Graph := s.graphs[name]?.getD (.empty {})

def setCatalog (s : Session) (name : String) (c : Catalog) : Session :=
  { s with catalogs := s.catalogs.insert name c }

def setGraph (s : Session) (name : String) (g : Graph) : Session :=
  { s with graphs := s.graphs.insert name g }

def setPrompt (s : Session) (name : String) (p : Prompt) : Session :=
  { s with prompts := s.prompts.insert name p }

def setHandle (s : Session) (name : String) (h : Handle) : Session :=
  { s with handles := s.handles.insert name h }

/-- What terms refer to outside of any subgraph. -/
def scope (s : Session) : Script.Scope := ⟨s.handles, "", ∅⟩

end Session

end PromptGraph
