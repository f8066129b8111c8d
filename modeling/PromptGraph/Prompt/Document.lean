import PromptGraph.File.Fault
import PromptGraph.Prompt.Basic
import PromptGraph.StableSort

/-!
Prompts as documents.

A prompt is an object with one member per entry, whose key is the decimal id. Reading accepts any
decimal spelling of an id; the entries are then put in the order of their ids, those of one id in
the order of the spellings.
-/

namespace PromptGraph

open Json

namespace PromptMeta

def record : Record PromptMeta where
  name := "PromptMeta"
  fields := [
    ⟨"title", false, fun levels d m => do
      return { m with title := ← Reader.option Reader.string levels d }⟩]
  start := ⟨none⟩

def read : Reader PromptMeta := record.read

def toJson (m : PromptMeta) : Json :=
  .object (m.title.map fun t => ("title", .string t)).toList

end PromptMeta

namespace PromptEntry

def record : Record PromptEntry where
  name := "PromptEntry"
  fields := [
    ⟨"class_type", true, fun levels d e => do
      return { e with classType := ← Reader.string levels d }⟩,
    ⟨"inputs", true, fun levels d e => do
      return { e with inputs := ← Reader.nameMap Reader.literal levels d }⟩,
    ⟨"_meta", false, fun levels d e => do
      return { e with annotations := ← Reader.option PromptMeta.read levels d }⟩]
  start := ⟨"", ∅, none⟩

def read : Reader PromptEntry := record.read

def toJson (e : PromptEntry) : Json :=
  .object <|
    [("class_type", .string e.classType),
      ("inputs", .object (e.inputs.toList.map fun (name, v) => (name, v.json)))] ++
    (e.annotations.map fun m => ("_meta", m.toJson)).toList

end PromptEntry

namespace Prompt

/-- The ids of the keys, in the order of the keys, up to the first that is none. -/
def readIds : List (String × PromptEntry) → Except ReadError (List (NodeId × PromptEntry))
  | [] => .ok []
  | (key, e) :: rest =>
    match Digits.readUpTo? (UInt64.size - 1) key with
    | none => .error ⟨.badNodeId key, none⟩
    | some id => (readIds rest).map ((UInt64.ofNat id, e) :: ·)

/-- The prompt of entries under their keys. -/
def ofKeyed (entries : NameMap PromptEntry) : Except ReadError Prompt :=
  (readIds entries.toList).map fun es => ⟨sortOn (fun e => e.1.toNat) es⟩

def read : Reader Prompt := fun levels d => do
  ofKeyed (← Reader.nameMap PromptEntry.read levels d)

/-- The document with one member per entry, in the order of the entries. -/
def toJson (p : Prompt) : Json :=
  .object (p.entries.map fun (id, e) => (toString id, e.toJson))

/-- The value of a prompt: of the entries under one id the last counts. -/
def value (p : Prompt) : Literal := .ofJson p.toJson

def compact (p : Prompt) : String := p.toJson.compact

def pretty (p : Prompt) : String := p.toJson.pretty

end Prompt

namespace PromptRequest

def record : Record PromptRequest where
  name := "PromptRequest"
  fields := [
    ⟨"prompt", true, fun levels d r => do
      return { r with prompt := ← Prompt.read levels d }⟩,
    ⟨"client_id", false, fun levels d r => do
      return { r with clientId := ← Reader.option Reader.string levels d }⟩]
  start := ⟨⟨[]⟩, none⟩

def read : Reader PromptRequest := record.read

def toJson (r : PromptRequest) : Json :=
  .object <|
    ("prompt", r.prompt.toJson) :: (r.clientId.map fun c => ("client_id", .string c)).toList

end PromptRequest

/-- What can go wrong with a prompt that is read or written. -/
inductive PromptError where
  | file (path : String) (fault : FileFault)
  | document (error : DocumentError)

def PromptError.message : PromptError → String
  | .file path fault => s!"Prompt I/O failed for '{path}': {fault.reason}"
  | .document error => s!"Prompt JSON is invalid: {error.message}"

/-- The message without the position in the document. -/
def PromptError.summary : PromptError → String
  | .document error => s!"Prompt JSON is invalid: {error.summary}"
  | e => e.message

namespace Prompt

def ofText (text : String) : Except PromptError Prompt :=
  (read.ofText text).mapError .document

/-- The prompt of a file at `path`, given what reading the file gave. -/
def ofFile (path : String) (content : Except FileFault String) : Except PromptError Prompt :=
  match content with
  | .ok text => ofText text
  | .error fault => .error (.file path fault)

end Prompt

end PromptGraph
