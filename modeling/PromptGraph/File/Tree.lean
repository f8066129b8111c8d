import PromptGraph.File.Fault
import PromptGraph.Json.Literal

/-!
Trees of files and directories, held as values.

A path is relative to the top of the tree. Every part of a path but the last has to lead to a
directory, and so does the last, where a file is read, if a slash follows it.
-/

namespace PromptGraph

inductive FileEntry where
  | file (content : String)
  | directory
deriving DecidableEq

/-- The entries of a tree by their locations; the top, which is always a directory, has none. -/
structure FileTree where
  entries : NameMap FileEntry

namespace FileTree

def empty : FileTree := ⟨∅⟩

/-- The names that lead from the top to an entry, innermost first. -/
abbrev Location := List String

def Location.key (l : Location) : String := "/".intercalate l.reverse

def find? (t : FileTree) (l : Location) : Option FileEntry :=
  if l.isEmpty then some .directory else t.entries[l.key]?

/-- Follows the parts of a path from a location on. -/
def walk (t : FileTree) : Location → List String → Except FileFault Location
  | l, [] => .ok l
  | l, part :: parts =>
    match t.find? l with
    | none => .error .notFound
    | some (.file _) => .error .notDirectory
    | some .directory =>
      if part = "" || part = "." then t.walk l parts
      else if part = ".." then t.walk l.tail parts
      else t.walk (part :: l) parts

/-- The location of a path without the slashes at its end, and whether there are any. -/
def locate (t : FileTree) (path : String) : Except FileFault (Location × Bool) :=
  if path = "" || path.startsWith "/" then .error .notFound
  else
    let parts := path.splitOn "/"
    let body := (parts.reverse.dropWhile (· == "")).reverse
    (t.walk [] body).map fun l => (l, body.length < parts.length)

def read (t : FileTree) (path : String) : Except FileFault String := do
  let (l, slash) ← t.locate path
  match t.find? l with
  | none => .error .notFound
  | some .directory => .error .isDirectory
  | some (.file content) => if slash then .error .notDirectory else .ok content

/-- Writes a file, which may be new but not its directory. A path with a slash at its end means a
directory, whatever is there. -/
def write (t : FileTree) (path content : String) : Except FileFault FileTree := do
  let (l, slash) ← t.locate path
  if slash || t.find? l = some .directory then .error .isDirectory
  else .ok ⟨t.entries.insert l.key (.file content)⟩

/-- Makes a directory and those it lies in, unless they exist. -/
def makeDirectory (t : FileTree) (path : String) : Except FileFault FileTree :=
  go t [] ((path.splitOn "/").filter fun part => part ≠ "" && part ≠ ".")
where
  go (t : FileTree) (l : Location) : List String → Except FileFault FileTree
    | [] => .ok t
    | part :: parts =>
      let l := if part = ".." then l.tail else part :: l
      match t.find? l with
      | some .directory => go t l parts
      | some (.file _) => .error .notDirectory
      | none => go ⟨t.entries.insert (Location.key l) .directory⟩ l parts

end FileTree

end PromptGraph
