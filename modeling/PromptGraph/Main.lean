import PromptGraph.Session.Run
import PromptGraph.TextToImage.Command

/-!
The command line of the text-to-image tool: the same report as on a tree of files, made from the
files of the system and written to them.
-/

namespace PromptGraph.TextToImage

/-- The fault of a failed access to a file, by its number, which may come with a minus sign. -/
def faultOfCode (signedCode : UInt32) (description : String) : FileFault :=
  let code := if signedCode < 2147483648 then signedCode else 0 - signedCode
  if code = 2 then .notFound
  else if code = 20 then .notDirectory
  else if code = 21 then .isDirectory
  else .other description code

def faultOf : IO.Error → FileFault
  | .noFileOrDirectory _ code description | .inappropriateType _ code description
  | .permissionDenied _ code description | .invalidArgument _ code description
  | .resourceExhausted _ code description => faultOfCode code description
  | .userError _ => .notText
  | e => .other (toString e) 0

def attempt {α : Type} (action : IO α) : IO (Except FileFault α) :=
  try return .ok (← action) catch e => return .error (faultOf e)

/-- Makes the document and hands it out. -/
def runOnSystem (flags : Flags) : IO UInt32 := do
  let content ← match flags.catalog with
    | some path => attempt (IO.FS.readFile path)
    | none => pure (.error .notFound)
  let made := report flags fun _ => content
  IO.eprint made.notes
  match made.document with
  | .error e =>
    IO.eprint (errorText e)
    return 1
  | .ok text =>
    match flags.output with
    | none =>
      IO.println text
      return 0
    | some path =>
      match ← attempt (IO.FS.writeFile path text) with
      | .ok () =>
        IO.eprint (writtenText path)
        return 0
      | .error fault =>
        IO.eprint (errorText (.file fault))
        return 1

end PromptGraph.TextToImage

open PromptGraph.TextToImage in
def main (words : List String) : IO UInt32 := do
  let checkpoint ← IO.getEnv "CKPT_NAME"
  let savePrefix ← IO.getEnv "SAVE_PREFIX"
  let environment : String → Option String := fun
    | "CKPT_NAME" => checkpoint
    | "SAVE_PREFIX" => savePrefix
    | _ => none
  match Flags.parse environment words with
  | .ok flags => runOnSystem flags
  | .error e =>
    IO.eprintln s!"error: {e.message}"
    return 2
