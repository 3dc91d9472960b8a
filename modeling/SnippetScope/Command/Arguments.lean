/-
  SnippetScope.Command.Arguments

  Reading the arguments of a command: options in their long and short forms,
  flags, and one path.
-/

namespace SnippetScope.Command

/-- Why a command is not carried out. -/
inductive Stop where
  | unknownArgument
  | unknownCommand
  | missingCommand
  | missingArgument
  /-- A value is missing, or is empty where a path must stand. -/
  | invalidValue
  /-- An option or flag is given twice. -/
  | givenTwice
  /-- A flag is given a value. -/
  | valueForFlag
  /-- Help is asked for. -/
  | help
  /-- The version is asked for. -/
  | version
  /-- No command is given at all, so that help may be wanted. -/
  | nothingGiven
  deriving DecidableEq, Repr

/-- The exit code after a stop; to be told what was asked for is no failure. -/
def Stop.exitCode : Stop → Nat
  | help => 0
  | version => 0
  | _ => 2

/-- What an argument is for. -/
inductive Purpose where
  | flag
  /-- An option with any text as its value. -/
  | text
  /-- An option with a path as its value, which may not be empty. -/
  | path
  | help
  | version
  deriving DecidableEq, Repr

/-- The purpose asks for a value. -/
def Purpose.takesValue : Purpose → Bool
  | text => true
  | path => true
  | _ => false

/-- An argument that a command knows. -/
structure Rule where
  name : String
  short : Option Char := none
  purpose : Purpose
  deriving DecidableEq, Repr

/-- What a command takes. -/
structure Rules where
  options : List Rule
  /-- The path that is given without the name of an option. -/
  operand : Option Rule := none

/-- What has been read so far. -/
structure Reading where
  /-- Arguments with their values, the latest first. -/
  given : List (Rule × String)
  /-- The latest argument that takes a value, and the value if it has come. -/
  pending : Option (Rule × Option String)
  /-- Everything that follows is no option. -/
  literal : Bool
  /-- The operand has been given. -/
  operandSeen : Bool

namespace Reading

/-- Nothing has been read. -/
def start : Reading := ⟨[], none, false, false⟩

/-- Takes an argument with its value. -/
def settle (r : Reading) (rule : Rule) (value : String) : Except Stop Reading :=
  if r.given.any (·.1 = rule) then .error .givenTwice
  else if rule.purpose = .path && value.isEmpty then .error .invalidValue
  else .ok { r with given := (rule, value) :: r.given }

/-- Takes the pending argument, whose value must have come. -/
def resolve (r : Reading) : Except Stop Reading :=
  match r.pending with
  | none => .ok r
  | some (_, none) => .error .invalidValue
  | some (rule, some value) => { r with pending := none }.settle rule value

/-- Takes an argument without a value. -/
def takeFlag (r : Reading) (rule : Rule) : Except Stop Reading := do
  let r ← r.resolve
  match rule.purpose with
  | .help => .error .help
  | .version => .error .version
  | _ => r.settle rule ""

/-- Takes an option whose value stands in the same argument, if it does. -/
def takeOption (r : Reading) (rule : Rule) (attached : Option String) : Except Stop Reading := do
  let r ← r.resolve
  match attached with
  | some value => r.settle rule value
  | none => return { r with pending := some (rule, none) }

/-- Takes an argument with two hyphens, which may have a value after an equals
    sign. -/
def takeLong (rules : Rules) (r : Reading) (text : List Char) : Except Stop Reading :=
  let name := text.takeWhile (· != '=')
  let attached := match text.drop name.length with
    | _ :: value => some (String.ofList value)
    | [] => none
  match rules.options.find? (·.name.toList = name) with
  | none => .error .unknownArgument
  | some rule =>
    if rule.purpose.takesValue then r.takeOption rule attached
    else if attached.isSome then .error .valueForFlag
    else r.takeFlag rule

/-- Takes letters after one hyphen: flags, and at most one option, whose value
    is the rest, with or without an equals sign. -/
def takeShort (rules : Rules) (r : Reading) : List Char → Except Stop Reading
  | [] => .ok r
  | c :: rest =>
    match rules.options.find? (·.short = some c) with
    | none => .error .unknownArgument
    | some rule =>
      if rule.purpose.takesValue then
        match rest with
        | [] => r.takeOption rule none
        | '=' :: value => r.takeOption rule (some (String.ofList value))
        | value => r.takeOption rule (some (String.ofList value))
      else match r.takeFlag rule with
        | .ok r => takeShort rules r rest
        | .error stop => .error stop

/-- Takes an argument that is no option: the operand. -/
def takeOperand (rules : Rules) (r : Reading) (text : String) : Except Stop Reading :=
  match rules.operand with
  | some rule =>
    if r.operandSeen then .error .unknownArgument
    else do
      let r ← r.resolve
      return { r with pending := some (rule, some text), operandSeen := true }
  | none => .error .unknownArgument

/-- Takes an argument that stands for itself: the value of the option before
    it, if that lacks one, or else the operand. -/
def takePlain (rules : Rules) (r : Reading) (text : String) : Except Stop Reading :=
  match r.pending, r.literal with
  | some (rule, none), false => .ok { r with pending := some (rule, some text) }
  | _, _ => r.takeOperand rules text

/-- Takes the next argument. -/
def take (rules : Rules) (r : Reading) (argument : String) : Except Stop Reading :=
  if r.literal then r.takePlain rules argument
  else match argument.toList with
    | ['-', '-'] => .ok { r with literal := true }
    | '-' :: '-' :: text => r.takeLong rules text
    | '-' :: c :: text => r.takeShort rules (c :: text)
    | _ => r.takePlain rules argument

end Reading

/-- The arguments of a command with their values. -/
def Rules.read (rules : Rules) (arguments : List String) : Except Stop (List (Rule × String)) := do
  let r ← arguments.foldlM (Reading.take rules) .start
  let r ← r.resolve
  if rules.operand.isSome && !r.operandSeen then .error .missingArgument
  else return r.given

/-- The value of an argument, if it is given. -/
def valueOf? (name : String) (given : List (Rule × String)) : Option String :=
  (given.find? (·.1.name = name)).map (·.2)

end SnippetScope.Command
