import Credential.Text.Blank

/-!
# Sorting arguments

Arguments are options and operands. An option is `--name`, with its value after `=` or in
the next argument, or a hyphen and a letter, with its value right after it, after `=`, or in
the next argument. No option stands twice, and the next argument is a value only if it does
not begin with a hyphen, or is a hyphen alone. After `--` everything is an operand.

Arguments are refused at the first one that does not fit, and a request for help is met
at once, so help asked for after a misplaced argument is not given.
-/

namespace Credential.Command

/-- Why arguments name no command: help is asked for, or they do not fit. -/
inductive Refusal where
  | help
  | usage
  deriving DecidableEq, Repr

/-- An option of a command: its name, its letter, and which values it accepts, or none for
an option without a value. -/
structure OptionForm where
  name : String
  letter : Option Char := none
  accepts : Option (String → Bool)

/-- Sorted arguments. An option without a value has an empty one. -/
structure Arguments where
  options : List (String × String) := []
  operands : List String := []
  deriving DecidableEq, Repr

namespace Arguments

/-- The value of an option, if it is given. -/
def value? (args : Arguments) (name : String) : Option String :=
  args.options.lookup name

/-- Whether an option is given. -/
def has (args : Arguments) (name : String) : Bool :=
  (args.value? name).isSome

/-- The arguments with one more option, which must be new and have a value that its form
accepts. -/
def addOption (args : Arguments) (form : OptionForm) (value : String) :
    Except Refusal Arguments :=
  let fits : Bool := match form.accepts with
    | some accepts => accepts value
    | none => true
  if fits && !args.has form.name then
    .ok { args with options := args.options ++ [(form.name, value)] }
  else .error .usage

/-- The arguments with more operands, of which there are at most `most`. -/
def addOperands (args : Arguments) (most : Nat) (operands : List String) :
    Except Refusal Arguments :=
  if args.operands.length + operands.length ≤ most then
    .ok { args with operands := args.operands ++ operands }
  else .error .usage

end Arguments

/-- What one argument is. -/
inductive Word where
  | separator
  | long (name : List Char) (value : Option (List Char))
  | short (letter : Char) (rest : List Char)
  | operand
  deriving DecidableEq, Repr

/-- The kind of an argument. -/
def Word.ofArgument (arg : List Char) : Word :=
  match arg with
  | ['-', '-'] => .separator
  | '-' :: '-' :: body =>
    match Text.splitAt? '=' body with
    | some (name, value) => .long name (some value)
    | none => .long body none
  | '-' :: letter :: rest => .short letter rest
  | _ => .operand

/-- Whether an argument can be the value of the option before it. -/
def isValue (arg : String) : Bool :=
  Word.ofArgument arg.toList == .operand

/-- What an option argument means: help, or an option with a value that is attached to it, or
one that takes the next argument as its value. -/
inductive Meaning where
  | help
  | complete (form : OptionForm) (value : String)
  | pending (form : OptionForm)
  | unknown

/-- The meaning of a long option. -/
def longMeaning (forms : List OptionForm) (name : List Char) (value : Option (List Char)) :
    Meaning :=
  if name = ['h', 'e', 'l', 'p'] then if value.isNone then .help else .unknown
  else match forms.find? fun form => form.name.toList == name with
    | none => .unknown
    | some form =>
      match form.accepts, value with
      | none, none => .complete form ""
      | none, some _ => .unknown
      | some _, some value => .complete form (String.ofList value)
      | some _, none => .pending form

/-- A value that is attached to a letter, without the `=` before it. -/
def attachedValue : List Char → String
  | '=' :: value => String.ofList value
  | value => String.ofList value

/-- The meaning of a short option. -/
def shortMeaning (forms : List OptionForm) (letter : Char) (rest : List Char) : Meaning :=
  if letter = 'h' then .help
  else match forms.find? fun form => form.letter == some letter && form.accepts.isSome with
    | none => .unknown
    | some form => if rest = [] then .pending form else .complete form (attachedValue rest)

/-- The meaning of an argument, if it is an option. -/
def meaning? (forms : List OptionForm) : Word → Option Meaning
  | .long name value => some (longMeaning forms name value)
  | .short letter rest => some (shortMeaning forms letter rest)
  | .separator | .operand => none

/-- Sorts arguments into options of the given forms and at most `most` operands. -/
def sortArguments (forms : List OptionForm) (most : Nat) :
    Arguments → List String → Except Refusal Arguments
  | sorted, [] => .ok sorted
  | sorted, arg :: rest =>
    match Word.ofArgument arg.toList with
    | .separator => sorted.addOperands most rest
    | .operand => do
      let sorted ← sorted.addOperands most [arg]
      sortArguments forms most sorted rest
    | word =>
      match (meaning? forms word).getD .unknown with
      | .help => .error .help
      | .unknown => .error .usage
      | .complete form value => do
        let sorted ← sorted.addOption form value
        sortArguments forms most sorted rest
      | .pending form =>
        match rest with
        | [] => .error .usage
        | value :: rest =>
          if isValue value then do
            let sorted ← sorted.addOption form value
            sortArguments forms most sorted rest
          else .error .usage

end Credential.Command
