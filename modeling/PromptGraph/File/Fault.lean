/-!
Why a file cannot be read or written.
-/

namespace PromptGraph

inductive FileFault where
  | notFound
  | notDirectory
  | isDirectory
  /-- The file holds no text. -/
  | notText
  /-- Any other failure, as the system describes and numbers it. -/
  | other (description : String) (code : UInt32)
deriving DecidableEq, Repr

def FileFault.reason : FileFault → String
  | .notFound => "No such file or directory (os error 2)"
  | .notDirectory => "Not a directory (os error 20)"
  | .isDirectory => "Is a directory (os error 21)"
  | .notText => "stream did not contain valid UTF-8"
  | .other description code => s!"{description} (os error {code})"

end PromptGraph
