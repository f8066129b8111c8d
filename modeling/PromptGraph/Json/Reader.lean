import PromptGraph.Json.Scan
import PromptGraph.Text.Quoted

/-!
Reading documents of a known shape, and what can be wrong with one.

A reader turns a draft into a value, given how many levels of brackets it may still open. Records
may be written as objects, whose unknown members are passed over, or as arrays of their fields in
order. What is wrong is reported with its place.
-/

namespace PromptGraph

namespace Json

/-- What a reader found in the place of what it expected. -/
inductive Found where
  | null
  | bool (value : Bool)
  | number (value : Number)
  | string (value : String)
  | array
  | object

/-- What a reader expects. -/
inductive Expected where
  | string
  | bool
  | unsigned (bits : Nat)
  | map
  | sequence
  | record (name : String)

/-- Why a text is not the document that was asked for. -/
inductive Problem where
  | fault (cause : Cause)
  | wrongType (found : Found) (expected : Expected)
  | outOfRange (value : Int) (expected : Expected)
  | tooShort (length : Nat) (record : String) (fields : Nat)
  | missingField (name : String)
  | duplicateField (name : String)
  | badNodeId (key : String)

def Found.text : Found → String
  | .null => "null"
  | .bool true => "boolean `true`"
  | .bool false => "boolean `false`"
  | .number (.integer n h) => "integer `" ++ String.ofList (Number.integer n h).text ++ "`"
  | .number (.float x) => "floating point `" ++ String.ofList (Number.float x).text ++ "`"
  | .string s => "string " ++ Quoted.quote s
  | .array => "sequence"
  | .object => "map"

def Expected.text : Expected → String
  | .string => "a string"
  | .bool => "a boolean"
  | .unsigned bits => s!"u{bits}"
  | .map => "a map"
  | .sequence => "a sequence"
  | .record name => s!"struct {name}"

def Problem.text : Problem → String
  | .fault cause => cause.text
  | .wrongType found expected => s!"invalid type: {found.text}, expected {expected.text}"
  | .outOfRange value expected => s!"invalid value: integer `{value}`, expected {expected.text}"
  | .tooShort length record fields =>
    let noun := if fields = 1 then "element" else "elements"
    s!"invalid length {length}, expected struct {record} with {fields} {noun}"
  | .missingField name => s!"missing field `{name}`"
  | .duplicateField name => s!"duplicate field `{name}`"
  | .badNodeId key => s!"'{key}' is not a decimal node id"

/-- A problem and its place, if it has one: a problem of the document as a whole has none. -/
structure ReadError where
  problem : Problem
  place : Option Place

def ReadError.ofFault (f : Fault) : ReadError := ⟨.fault f.cause, some f.place⟩

/-- A problem and its position in the text. -/
structure DocumentError where
  problem : Problem
  position : Option Position

namespace DocumentError

/-- What is wrong. -/
def summary (e : DocumentError) : String := e.problem.text

/-- What is wrong, and where. -/
def message (e : DocumentError) : String :=
  match e.position with
  | some p => s!"{e.summary} at {p.text}"
  | none => e.summary

end DocumentError

/-- The levels of brackets that a document may have. -/
def maxLevels : Nat := 127

/-- Reads a value of a document, which may open so many levels of brackets. -/
abbrev Reader (α : Type) := Nat → Draft → Except ReadError α

namespace Reader

variable {α σ : Type}

def ofFault (r : Except Fault α) : Except ReadError α := r.mapError .ofFault

/-- What a draft is, and the place where its type is known: before an array or an object, after
anything else. -/
def found : Draft → Except Fault (Found × Place)
  | .null rest => .ok (.null, .before rest)
  | .bool b rest => .ok (.bool b, .before rest)
  | .number n start rest => do
    let x ← Draft.readNumber n start rest
    return (.number x, .before rest)
  | .text t => do
    let s ← t.decode
    let rest ← t.ending.rest
    return (.string s, .before rest)
  | .array start _ _ => .ok (.array, .before start)
  | .object start _ _ => .ok (.object, .before start)
  | .broken why => .error why.reading

/-- The error of a draft that is not what was expected. -/
def refuse (expected : Expected) (d : Draft) : Except ReadError α := do
  let (x, place) ← ofFault (found d)
  .error ⟨.wrongType x expected, some place⟩

def string : Reader String := fun _ d =>
  match d with
  | .text t => ofFault t.decode
  | d => refuse .string d

def bool : Reader Bool := fun _ d =>
  match d with
  | .bool b _ => .ok b
  | d => refuse .bool d

/-- A natural number of so many bits. -/
def unsigned (bits : Nat) : Reader Nat := fun _ d => do
  let (x, place) ← ofFault (found d)
  match x with
  | .number (.integer n _) =>
    if 0 ≤ n && n.toNat < Nat.pow 2 bits then .ok n.toNat
    else .error ⟨.outOfRange n (.unsigned bits), some place⟩
  | x => .error ⟨.wrongType x (.unsigned bits), some place⟩

def literal : Reader Literal := fun levels d => (ofFault (d.json levels)).map .ofJson

/-- A value that may be null. -/
def option (read : Reader α) : Reader (Option α) := fun levels d =>
  match d with
  | .null _ => .ok none
  | d => (read levels d).map some

/-- Goes one level down at a bracket, if there is one left. -/
def descend (start : List Char) (levels : Nat) (read : Nat → Except ReadError α) :
    Except ReadError α :=
  match levels with
  | 0 => .error (.ofFault (.within .tooDeep start))
  | levels + 1 => read levels

def list (read : Reader α) : Reader (List α) := fun levels d =>
  match d with
  | .array start items ending => descend start levels fun levels => do
    let xs ← items.mapM (read levels)
    let _ ← ofFault ending.rest
    return xs
  | d => refuse .sequence d

/-- The members of an object in the order of the text. -/
def members (read : Reader α) : Reader (List (String × α)) := fun levels d =>
  match d with
  | .object start members ending => descend start levels fun levels => do
    let ms ← members.mapM fun (key, d) => do
      let k ← ofFault key.decode
      let v ← read levels d
      return (k, v)
    let _ ← ofFault ending.rest
    return ms
  | d => refuse .map d

/-- A map from names: of the members with one name the last counts. -/
def nameMap (read : Reader α) : Reader (NameMap α) := fun levels d =>
  (members read levels d).map fun ms => Std.ExtTreeMap.ofList ms

end Reader

/-- A field of a record: its name, whether it must be present, and how it is read into what the
record has so far. -/
structure Field (σ : Type) where
  name : String
  required : Bool
  read : Nat → Draft → σ → Except ReadError σ

/-- A record: its name, its fields in order, and its value before any field is read. -/
structure Record (σ : Type) where
  name : String
  fields : List (Field σ)
  start : σ

namespace Record

variable {σ : Type}

/-- The members of an object one by one, with the names of the fields read so far. -/
def readMembers (r : Record σ) (levels : Nat) :
    List (RawText × Draft) → List String → σ → Except ReadError (List String × σ)
  | [], seen, x => .ok (seen, x)
  | (key, d) :: ms, seen, x => do
    let name ← Reader.ofFault key.decode
    match r.fields.find? (·.name == name) with
    | none =>
      match d.skip with
      | some f => .error (.ofFault f)
      | none => readMembers r levels ms seen x
    | some field =>
      if seen.contains name then do
        let rest ← Reader.ofFault key.ending.rest
        .error ⟨.duplicateField name, some (.before (Scan.giveUp rest))⟩
      else do
        let x ← field.read levels d x
        readMembers r levels ms (name :: seen) x

/-- The first field that must be present and is not. -/
def missing? (r : Record σ) (seen : List String) : Option (Field σ) :=
  r.fields.find? fun field => field.required && !seen.contains field.name

def readObject (r : Record σ) (levels : Nat) (ms : List (RawText × Draft))
    (ending : Ending) : Except ReadError σ := do
  let (seen, x) ← r.readMembers levels ms [] r.start
  let rest ← Reader.ofFault ending.rest
  match r.missing? seen with
  | some field => .error ⟨.missingField field.name, some (.before rest)⟩
  | none => .ok x

/-- The fields from the one at `position` on, taken from the items of an array, with what is left of
the text after the last item that was taken. -/
def readItems (r : Record σ) (levels : Nat) (ending : Ending) :
    List (Field σ) → Nat → List Draft → List Char → σ → Except ReadError σ
  | [], _, _, rest, x => Reader.ofFault ((Scan.closeArray rest).map fun _ => x)
  | field :: fields, position, d :: ds, _, x => do
    let x ← field.read levels d x
    let rest ← Reader.ofFault d.rest
    readItems r levels ending fields (position + 1) ds rest x
  | field :: fields, position, [], rest, x => do
    let after ← Reader.ofFault ending.rest
    if field.required then
      .error ⟨.tooShort position r.name r.fields.length, some (.before after)⟩
    else readItems r levels ending fields (position + 1) [] rest x

def read (r : Record σ) : Reader σ := fun levels d =>
  match d with
  | .object start ms ending => Reader.descend start levels fun levels =>
    r.readObject levels ms ending
  | .array start ds ending => Reader.descend start levels fun levels =>
    r.readItems levels ending r.fields 0 ds (start.drop 1) r.start
  | d => Reader.refuse (.record r.name) d

end Record

/-- Reads all of a text: a value, and nothing but gaps after it. -/
def Reader.ofChars {α : Type} (read : Reader α) (cs : List Char) : Except ReadError α := do
  let (d, rest) := Scan.draft cs
  let x ← read maxLevels d
  match Scan.skipGap rest with
  | [] => .ok x
  | rest => .error (.ofFault (.within .trailingCharacters rest))

def Reader.ofText {α : Type} (read : Reader α) (text : String) : Except DocumentError α :=
  (read.ofChars text.toList).mapError fun e =>
    ⟨e.problem, e.place.map (·.position text.toList)⟩

end Json

end PromptGraph
