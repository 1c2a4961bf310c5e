/-!
Reading the arguments of a command: switches by name, values by name or by letter, and operands. Two
dashes make everything after them an operand. The first fault from the left decides, and asking for
help wins over everything to its right.
-/

namespace PumaBoard.CommandLine

/-- A switch of a command. -/
inductive Switch where
  /-- Given as `--name`. -/
  | flag (name : String)
  /-- Given as `--name value`, `--name=value`, `-l value`, `-l=value` or `-lvalue`. -/
  | value (name : String) (letter : Char)
deriving DecidableEq, Repr

/-- What a command takes. -/
structure Usage where
  switches : List Switch := []
  /-- The number of operands. -/
  operands : Nat := 0

/-- The arguments of a command. -/
structure Arguments where
  flags : List String := []
  values : List (String × String) := []
  operands : List String := []
deriving DecidableEq, Repr

/-- Why the command is not carried out. -/
inductive Stop where
  | misuse
  | help
deriving DecidableEq, Repr

namespace Arguments

/-- Whether a flag is given. -/
def has (a : Arguments) (name : String) : Bool := a.flags.contains name

/-- The value of a name. -/
def get? (a : Arguments) (name : String) : Option String := a.values.lookup name

/-- The operand at a place. -/
def operand (a : Arguments) (i : Nat) : String := a.operands.getD i ""

/-- Adds a flag, which can be given only once. -/
def addFlag (a : Arguments) (name : String) : Except Stop Arguments :=
  if a.has name then .error .misuse else .ok { a with flags := a.flags ++ [name] }

/-- Adds a value, which can be given only once. -/
def addValue (a : Arguments) (name value : String) : Except Stop Arguments :=
  if (a.get? name).isSome then .error .misuse
  else .ok { a with values := a.values ++ [(name, value)] }

/-- Adds an operand, if one is still missing. -/
def addOperand (u : Usage) (a : Arguments) (text : String) : Except Stop Arguments :=
  if a.operands.length < u.operands then .ok { a with operands := a.operands ++ [text] }
  else .error .misuse

end Arguments

/-! ### Kinds of arguments -/

/-- What an argument is by its looks. -/
inductive Shape where
  | operand
  /-- Two dashes. -/
  | divider
  | named (name : String) (attached : Option String)
  | lettered (letter : Char) (attached : Option String)
deriving DecidableEq, Repr

/-- The text up to an equals sign, and what follows the sign. -/
def splitEquals (cs : List Char) : String × Option String :=
  let name := cs.takeWhile (· ≠ '=')
  (String.ofList name,
    match cs.drop name.length with
    | [] => none
    | _ :: rest => some (String.ofList rest))

/-- The value attached to a letter, with an equals sign in between or not. -/
def attachedValue : List Char → Option String
  | [] => none
  | '=' :: rest => some (String.ofList rest)
  | cs => some (String.ofList cs)

/-- The shape of an argument. A dash alone is an operand. -/
def Shape.of (text : String) : Shape :=
  match text.toList with
  | ['-', '-'] => divider
  | '-' :: '-' :: rest => let (name, attached) := splitEquals rest; named name attached
  | '-' :: letter :: rest => lettered letter (attachedValue rest)
  | _ => operand

/-- The switch with a name. -/
def Usage.named? (u : Usage) (name : String) : Option Switch :=
  u.switches.find? fun s =>
    match s with
    | .flag n => n = name
    | .value n _ => n = name

/-- The name of the value with a letter. -/
def Usage.lettered? (u : Usage) (letter : Char) : Option String :=
  u.switches.findSome? fun s =>
    match s with
    | .flag _ => none
    | .value n l => if l = letter then some n else none

/-! ### Reading -/

/-- What an argument does: it is complete, or it asks for a value in the next argument. -/
inductive Step where
  | done (a : Arguments)
  | wants (name : String)

/-- Takes a value, attached or from the next argument. -/
def takeValue (a : Arguments) (name : String) (attached : Option String) : Except Stop Step :=
  match attached with
  | some v => (a.addValue name v).map .done
  | none => .ok (.wants name)

/-- Takes an argument of some shape that is no divider. -/
def takeArgument (u : Usage) (a : Arguments) (text : String) : Except Stop Step :=
  match Shape.of text with
  | .operand | .divider => (a.addOperand u text).map .done
  | .named "help" none => .error .help
  | .named name attached =>
    match u.named? name with
    | none => .error .misuse
    | some (.flag _) => if attached.isSome then .error .misuse else (a.addFlag name).map .done
    | some (.value _ _) => takeValue a name attached
  | .lettered 'h' _ => .error .help
  | .lettered letter attached =>
    match u.lettered? letter with
    | none => .error .misuse
    | some name => takeValue a name attached

/-- Checks that no operand is missing. -/
def complete (u : Usage) (a : Arguments) : Except Stop Arguments :=
  if a.operands.length = u.operands then .ok a else .error .misuse

/-- Reads arguments after those in `a`. -/
def readArguments (u : Usage) (a : Arguments) : List String → Except Stop Arguments
  | [] => complete u a
  | text :: rest =>
    if Shape.of text = .divider then (rest.foldlM (Arguments.addOperand u) a).bind (complete u)
    else
      match takeArgument u a text with
      | .error stop => .error stop
      | .ok (.done a) => readArguments u a rest
      | .ok (.wants name) =>
        match rest with
        | [] => .error .misuse
        | v :: rest =>
          if Shape.of v = .operand then
            match a.addValue name v with
            | .ok a => readArguments u a rest
            | .error stop => .error stop
          else .error .misuse

/-- Reads the arguments of a command. -/
def Usage.read (u : Usage) (args : List String) : Except Stop Arguments := readArguments u {} args

end PumaBoard.CommandLine
