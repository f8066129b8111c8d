import PromptGraph.Graph.Error

/-!
Resolving arguments against declared inputs.

A resolved set of arguments names declared inputs only and has the defaults filled in. A strict
resolution refuses names that are not declared and required inputs that stay without a value; a
lenient one drops the former and lets the latter pass.
-/

namespace PromptGraph.Args

/-- The name is that of a declared input. -/
def isDeclared (inputs : List (String × InputSpec)) (name : String) : Bool :=
  inputs.any fun input => input.1 == name

/-- The names that no input has, in ascending order. -/
def undeclared (inputs : List (String × InputSpec)) (args : Args) : List String :=
  args.keys.filter fun name => !isDeclared inputs name

/-- Goes through the inputs in order and gives those without an argument their defaults. -/
def fill (strict : Bool) (typeName : String) :
    List (String × InputSpec) → Args → Except BuildError Args
  | [], args => .ok args
  | (name, spec) :: inputs, args =>
    if args.contains name then fill strict typeName inputs args
    else
      match spec.default with
      | some value => fill strict typeName inputs (args.insert name (.literal value))
      | none =>
        if spec.required && strict then .error (.missingRequiredInput typeName name)
        else fill strict typeName inputs args

def resolve (strict : Bool) (typeName : String) (inputs : List (String × InputSpec))
    (args : Args) : Except BuildError Args :=
  match args.undeclared inputs, strict with
  | name :: _, true => .error (.unknownInput typeName name (inputs.map Prod.fst))
  | _, _ => fill strict typeName inputs (args.filter fun name _ => isDeclared inputs name)

/-- Checks that every connection sits on an input that declares its kind, in the order of the
inputs. -/
def checkConnections (typeName : String) (args : Args) :
    List (String × InputSpec) → Except BuildError Unit
  | [] => .ok ()
  | (name, spec) :: inputs =>
    match args.connection? name with
    | none => checkConnections typeName args inputs
    | some out =>
      match spec.kind with
      | none => .error (.unexpectedConnection typeName name)
      | some kind =>
        if kind = out.kind then checkConnections typeName args inputs
        else .error (.argumentKindMismatch typeName name kind out.kind)

end PromptGraph.Args
