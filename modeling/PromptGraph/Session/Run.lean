import PromptGraph.Session.Basic

/-!
Running the commands of a session.

A command that fails leaves the session as it was, but for the nodes that a failed expansion has
added to its graph.
-/

namespace PromptGraph.Session

open Script

/-- Changes arguments or asks about them, with the arguments after that. -/
def runArgsCommand (scope : Scope) (args : Args) :
    ArgsCommand → Except BuildError (ArgsAnswer × Args)
  | .set name term => do
    match ← term.eval scope with
    | some arg => return (.done, args.insert name arg)
    | none => return (.done, args)
  | .remove name => .ok (.arg args[name]?, args.erase name)
  | .get name => .ok (.arg args[name]?, args)
  | .literal name => .ok (.literal (args.literal? name), args)
  | .connection name => .ok (.connection (args.connection? name), args)
  | .contains name => .ok (.contains (args.contains name), args)
  | .all => .ok (.all args, args)

def runArgsCommands (scope : Scope) :
    Args → List ArgsCommand → Except BuildError (List (ArgsAnswer × Args))
  | _, [] => .ok []
  | args, c :: cs => do
    let (answer, args) ← runArgsCommand scope args c
    return (answer, args) :: (← runArgsCommands scope args cs)

/-- What is asked for of a definition. -/
def aspectOf (d : Definition) : Aspect → Answer
  | .whole => .definition d
  | .input name => .input (d.input? name)
  | .output name =>
    match d with
    | .node d => .nodeOutput (d.output? name)
    | .subgraph d => .subgraphOutput (d.output? name)
  | .outputAt index =>
    match d with
    | .node d => .outputAt (d.outputAt? index)
    | .subgraph _ => .outputAt none

open Json in
/-- Reads a document of a type and gives the document that is written of it. -/
def roundTrip (type : DocumentType) (text : String) : Except DocumentError Answer :=
  match type with
  | .kind => (Kind.read.ofText text).map fun k => .document k.toJson
  | .nodeId => ((Reader.unsigned 64).ofText text).map fun n =>
      .document (.number (.ofUInt64 (UInt64.ofNat n)))
  | .outputSpec => (OutputSpec.read.ofText text).map fun s => .document s.toJson
  | .subgraphOutputSpec => (SubgraphOutputSpec.read.ofText text).map fun s => .document s.toJson
  | .inputSpec => (InputSpec.read.ofText text).map fun s => .document s.toJson
  | .promptEntry => (PromptEntry.read.ofText text).map fun e => .document e.toJson
  | .promptMeta => (PromptMeta.read.ofText text).map fun m => .document m.toJson
  | .promptRequest => (PromptRequest.read.ofText text).map fun r => .document r.toJson
  | .config => (GraphConfig.read.ofText text).map .config

def readConfig : ConfigSource → Except Error GraphConfig
  | .given config => .ok config
  | .text text => (GraphConfig.read.ofText text).mapError .document

/-- Registers a definition in a named catalog. -/
def register (s : Session) (catalog : String) (d : Except DefinitionError Definition) :
    Except Error Definition × Session :=
  match d with
  | .error e => (.error (.definition e), s)
  | .ok d =>
    let (answer, c) := (s.catalog catalog).register d
    ((answer.map fun _ => d).mapError .definition, s.setCatalog catalog c)

/-- Replaces a named catalog by one that was loaded. -/
def load (s : Session) (catalog : String) (c : Except DefinitionError Catalog) :
    Except Error Answer × Session :=
  match c with
  | .error e => (.error (.definition e), s)
  | .ok c => (.ok (.catalog c), s.setCatalog catalog c)

/-- Keeps a prompt that was compiled or read under a name. -/
def keepPrompt (s : Session) (name : String) (p : Except Error Prompt) :
    Except Error Answer × Session :=
  match p with
  | .error e => (.error e, s)
  | .ok p => (.ok (.prompt p), s.setPrompt name p)

def named {α : Type} (name : String) (x : Option α) : Except Error α :=
  match x with
  | some x => .ok x
  | none => .error (.unknownName name)

def viewPrompt (s : Session) (p : Prompt) : View → Except Error Answer
  | .pretty => .ok (.text p.pretty)
  | .value => .ok (.text p.value.text)
  | .ids => .ok (.ids p.ids)
  | .iter => .ok (.entries p.entries)
  | .get id => .ok (.entry (p.find? id))
  | .empty => .ok (.truth p.isEmpty)
  | .equals other => (named other s.prompts[other]?).map fun q => .truth (p.agrees q)
  | .request clientId => .ok (.text (PromptRequest.toJson ⟨p, clientId⟩).compact)

/-- The arguments and the definition of an addition, which is then made. -/
def add (s : Session) (graph catalog : String) (a : Addition) :
    Except Error Answer × Session :=
  match evalArgs s.scope a.args with
  | .error e => (.error (.build e), s)
  | .ok args =>
    match a.route.find (s.catalog catalog) a.definition with
    | .error e => (.error (.build e), s)
    | .ok d =>
      let (answer, g) := (s.graph graph).add d args a.label
      let s := s.setGraph graph g
      match answer with
      | .error e => (.error (.build e), s)
      | .ok h => (.ok (.handle h), s.setHandle a.handle h)

/-- The reply about a named graph, as the session now has it. -/
def about (graph : String) (r : Except Error Answer × Session) : Reply × Session :=
  (⟨r.1, some (r.2.graph graph)⟩, r.2)

/-- A reply that leaves the session as it is. -/
def answer (s : Session) (r : Except Error Answer) : Reply × Session := (⟨r, none⟩, s)

def withFiles (s : Session) (files : Except FileFault FileTree) (wrap : FileFault → Error) :
    Reply × Session :=
  match files with
  | .ok files => (⟨.ok .done, none⟩, { s with files })
  | .error fault => s.answer (.error (wrap fault))

def run (s : Session) : Command → Reply × Session
  | .defineNode catalog draft =>
    let (r, s) := s.register catalog (draft.build.map .node)
    s.answer (r.map .definition)
  | .defineSubgraph catalog draft =>
    let (r, s) := s.register catalog ((draft.build (s.catalog catalog) s.handles).map .subgraph)
    s.answer (r.map .definition)
  | .copyDefinition source name target =>
    match (s.catalog source).get name with
    | .error e => s.answer (.error (.build e))
    | .ok d =>
      let (r, s) := s.register target (.ok d)
      s.answer (r.map .definition)
  | .catalogText catalog text =>
    let (r, s) := s.load catalog (Catalog.ofText text)
    s.answer r
  | .catalogFile catalog path =>
    let (r, s) := s.load catalog (Catalog.ofFile path (s.files.read path))
    s.answer r
  | .showCatalog catalog => s.answer (.ok (.catalog (s.catalog catalog)))
  | .lookup catalog name route aspect =>
    s.answer <| match route.find (s.catalog catalog) name with
      | .error e => .error (.build e)
      | .ok d => .ok (aspectOf d aspect)
  | .contains catalog name => s.answer (.ok (.truth ((s.catalog catalog).contains name)))
  | .checkSpec spec values => s.answer (.ok (.spec spec (values.map spec.allows)))
  | .checkSpecText text values =>
    s.answer <| match InputSpec.read.ofText text with
      | .error e => .error (.document e)
      | .ok spec => .ok (.spec spec (values.map spec.allows))
  | .roundTrip type text => s.answer ((roundTrip type text).mapError .document)
  | .args commands =>
    s.answer (((runArgsCommands s.scope ∅ commands).map .argsTrace).mapError .build)
  | .collectArgs terms => s.answer (((evalArgs s.scope terms).map .args).mapError .build)
  | .outputs terms names =>
    s.answer <| ((evalOutputs s.scope terms).map fun outputs =>
      .outputs (names.map (outputs[·]?)) outputs).mapError .build
  | .newGraph graph config =>
    about graph <| match readConfig config with
      | .error e => (.error e, s)
      | .ok config => (.ok (.config config), s.setGraph graph (.empty config))
  | .copyGraph graph target => about graph (.ok .done, s.setGraph target (s.graph graph))
  | .add graph catalog addition => about graph (s.add graph catalog addition)
  | .out handle name =>
    s.answer do
      let h ← named handle s.handles[handle]?
      ((h.out name).map .out).mapError .build
  | .showHandle handle => s.answer ((named handle s.handles[handle]?).map .handleDetails)
  | .clear graph => about graph (.ok .done, s.setGraph graph (s.graph graph).clear)
  | .showGraph graph => about graph (.ok (.graph (s.graph graph)), s)
  | .nodes graph => s.answer (.ok (.nodes (s.graph graph).nodes.toList))
  | .node graph id => s.answer (.ok (.node ((s.graph graph).node? id)))
  | .display graph => s.answer (.ok (.text (s.graph graph).listing))
  | .compile graph prompt =>
    about graph (s.keepPrompt prompt ((s.graph graph).compile.mapError .compile))
  | .promptText prompt text =>
    let (r, s) := s.keepPrompt prompt ((Prompt.ofText text).mapError .prompt)
    s.answer r
  | .promptFile prompt path =>
    let (r, s) := s.keepPrompt prompt ((Prompt.ofFile path (s.files.read path)).mapError .prompt)
    s.answer r
  | .savePrompt prompt path =>
    match named prompt s.prompts[prompt]? with
    | .error e => s.answer (.error e)
    | .ok p => s.withFiles (s.files.write path p.pretty) fun fault => .prompt (.file path fault)
  | .viewPrompt prompt view => s.answer do s.viewPrompt (← named prompt s.prompts[prompt]?) view
  | .putFile path content => s.withFiles (s.files.write path content) .file
  | .addDirectory path => s.withFiles (s.files.makeDirectory path) .file
  | .showFile path => s.answer ((s.files.read path).map .text |>.mapError .file)

/-- Runs commands one after the other. -/
def runAll (s : Session) : List Command → List Reply
  | [] => []
  | c :: cs =>
    let (reply, s) := s.run c
    reply :: s.runAll cs

end PromptGraph.Session
