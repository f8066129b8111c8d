import PromptGraph.File.Tree
import PromptGraph.Graph.Listing
import PromptGraph.Prompt.Document
import PromptGraph.TextToImage.Workflow

/-!
What the text-to-image tool does: builds the workflow, compiles it, and hands out the document.
-/

namespace PromptGraph.TextToImage

inductive CommandError where
  | definition (error : DefinitionError)
  | build (error : BuildError)
  | compile (error : CompileError)
  | file (fault : FileFault)

def CommandError.message : CommandError → String
  | .definition e => e.message
  | .build e => e.message
  | .compile e => e.message
  | .file fault => fault.reason

/-- What is reported while the document is made, and the document. -/
structure Report where
  notes : String
  document : Except CommandError String

/-- The catalog that the flags ask for. -/
def loadCatalog (flags : Flags) (read : String → Except FileFault String) :
    Except DefinitionError Catalog :=
  match flags.catalog with
  | some path => Catalog.ofFile path (read path)
  | none => builtinCatalog

/-- The text of a compiled prompt, as a request if the flags ask for one. -/
def documentText (flags : Flags) (p : Prompt) : String :=
  if flags.request then (PromptRequest.toJson ⟨p, flags.clientId⟩).pretty else p.pretty

/-- Makes the document. The listing of the graph, if asked for, comes before the graph is
compiled. -/
def report (flags : Flags) (read : String → Except FileFault String) : Report :=
  match loadCatalog flags read with
  | .error e => ⟨"", .error (.definition e)⟩
  | .ok catalog =>
    match workflow catalog flags with
    | .error e => ⟨"", .error (.build e)⟩
    | .ok g =>
      let notes := if flags.showGraph then g.listing ++ "\n" else ""
      match g.compile with
      | .error e => ⟨notes, .error (.compile e)⟩
      | .ok p => ⟨notes, .ok (documentText flags p)⟩

def errorText (e : CommandError) : String := s!"\nError: {e.message}\n"

def writtenText (path : String) : String := s!"Wrote prompt to '{path}'\n"

/-- How a run of the tool ends: with what it says on both channels, and with the files it
leaves. -/
structure Outcome where
  exitCode : UInt32
  stdout : String
  stderr : String
  files : FileTree

/-- Runs the tool on files. -/
def run (flags : Flags) (files : FileTree) : Outcome :=
  let made := report flags files.read
  match made.document with
  | .error e => ⟨1, "", made.notes ++ errorText e, files⟩
  | .ok text =>
    match flags.output with
    | none => ⟨0, text ++ "\n", made.notes, files⟩
    | some path =>
      match files.write path text with
      | .ok files => ⟨0, "", made.notes ++ writtenText path, files⟩
      | .error fault => ⟨1, "", made.notes ++ errorText (.file fault), files⟩

end PromptGraph.TextToImage
