import Credential.Command.Arguments
import Credential.Store.Config

/-!
# Commands

The three commands and their options: `key inspect`, `cert inspect` and `store check`.
`Request.ofArguments` reads the arguments of the program.
-/

namespace Credential.Command

/-- How a report is written. -/
inductive Style where
  | text
  | json
  deriving DecidableEq, Repr

/-- Where the password of a key comes from. -/
inductive PasswordSource where
  | none
  | environment (variable_ : String)
  | prompt
  deriving DecidableEq, Repr

/-- The options of `key inspect`. Without a file the key is read from the input. -/
structure KeyInspection where
  file : Option String
  style : Style
  password : PasswordSource
  maxKeyBits : Option Nat
  deriving DecidableEq, Repr

/-- The options of `cert inspect`. Without a file the chain is read from the input. -/
structure ChainInspection where
  file : Option String
  style : Style
  leafOnly : Bool
  deriving DecidableEq, Repr

/-- The options of `store check`. -/
structure StoreCheck where
  config : Store.Config
  password : PasswordSource
  style : Style
  deriving DecidableEq, Repr

/-- A command with its options. -/
inductive Request where
  | inspectKey (options : KeyInspection)
  | inspectChain (options : ChainInspection)
  | checkStore (options : StoreCheck)
  deriving DecidableEq, Repr

/-! ## Options -/

/-- The style with the given name. -/
def style? : String → Option Style
  | "text" => some .text
  | "json" => some .json
  | _ => none

/-- The number below `2 ^ 32` that a value writes; a sign is allowed. -/
def nat32? (s : String) : Option Nat :=
  (Text.Decimal.readInteger? s.toList).bind fun n =>
    if 0 ≤ n ∧ n < Text.Decimal.bound32 then some n.toNat else none

/-- The heuristic with the given name. -/
def heuristic? (s : String) : Option Key.Heuristic :=
  Key.Heuristic.all.find? fun h => h.name == s

/-- `--output`, or `-o`. -/
def outputForm : OptionForm := ⟨"output", some 'o', some fun s => (style? s).isSome⟩

/-- An option with any value. -/
def anyForm (name : String) : OptionForm := ⟨name, none, some fun _ => true⟩

/-- An option with a value that is not empty. -/
def pathForm (name : String) : OptionForm := ⟨name, none, some fun s => s != ""⟩

/-- An option with a number below `2 ^ 32`. -/
def numberForm (name : String) : OptionForm := ⟨name, none, some fun s => (nat32? s).isSome⟩

/-- An option without a value. -/
def flagForm (name : String) : OptionForm := ⟨name, none, none⟩

/-- The options that tell where the password comes from. -/
def passwordForms : List OptionForm := [anyForm "password-env", flagForm "prompt"]

/-- The options of `key inspect`. -/
def keyForms : List OptionForm := [outputForm, numberForm "max-key-bits"] ++ passwordForms

/-- The options of `cert inspect`. -/
def chainForms : List OptionForm := [outputForm, flagForm "leaf-only"]

/-- The options of `store check`. -/
def storeForms : List OptionForm :=
  [pathForm "key", pathForm "cert", anyForm "alias", numberForm "max-attempts",
    flagForm "require-private-permissions", numberForm "max-key-bits",
    ⟨"bad-password-heuristic", none, some fun s => (heuristic? s).isSome⟩, outputForm]
    ++ passwordForms

/-- The style that arguments ask for. -/
def styleOf (args : Arguments) : Style :=
  ((args.value? "output").bind style?).getD .text

/-- Where arguments take the password from. Only one place may be named. -/
def passwordOf (args : Arguments) : Except Refusal PasswordSource :=
  match args.value? "password-env", args.has "prompt" with
  | some _, true => .error .usage
  | some name, false => .ok (.environment name)
  | none, true => .ok .prompt
  | none, false => .ok .none

/-- The value of an option that must be given. -/
def required (args : Arguments) (name : String) : Except Refusal String :=
  match args.value? name with
  | some value => .ok value
  | none => .error .usage

/-! ## Commands -/

/-- Reads the options of `key inspect`. -/
def keyInspection (rest : List String) : Except Refusal KeyInspection := do
  let args ← sortArguments keyForms 1 {} rest
  return ⟨args.operands.head?, styleOf args, ← passwordOf args,
    (args.value? "max-key-bits").bind nat32?⟩

/-- Reads the options of `cert inspect`. -/
def chainInspection (rest : List String) : Except Refusal ChainInspection := do
  let args ← sortArguments chainForms 1 {} rest
  return ⟨args.operands.head?, styleOf args, args.has "leaf-only"⟩

/-- The alias of a store that is given none. -/
def defaultAlias : String := "default"

/-- Reads the options of `store check`. -/
def storeCheck (rest : List String) : Except Refusal StoreCheck := do
  let args ← sortArguments storeForms 0 {} rest
  let config : Store.Config := {
    entryAlias := (args.value? "alias").getD defaultAlias
    keyPath := ← required args "key"
    certificatePath := ← required args "cert"
    attemptLimit := ((args.value? "max-attempts").bind nat32?).getD Store.maxAttempts
    requirePrivate := args.has "require-private-permissions"
    maxKeyBits := (args.value? "max-key-bits").bind nat32?
    heuristic :=
      ((args.value? "bad-password-heuristic").bind heuristic?).getD .paddingAndStructure }
  return ⟨config, ← passwordOf args, styleOf args⟩

/-- The groups of commands, each with its command. -/
def groups : List (String × String) :=
  [("key", "inspect"), ("cert", "inspect"), ("store", "check")]

/-- Whether words after `help` name a topic of a group: the group, its command, or help. -/
def isGroupTopic (command : String) : List String → Bool
  | [] => true
  | [word] => word = command ∨ word = "help"
  | _ => false

/-- Whether words after `help` name a topic of the program. -/
def isTopic : List String → Bool
  | [] => true
  | word :: rest =>
    match groups.lookup word with
    | some command => isGroupTopic command rest
    | none => word = "help" ∧ rest = []

/-- The refusal of a word where a command is expected. `help` asks for a topic, which the
words after it name; the options for help end the arguments. -/
def refusalOf (isTopic : List String → Bool) (word : String) (rest : List String) : Refusal :=
  if word = "help" then if isTopic rest then .help else .usage
  else if word = "--help" ∨ word.startsWith "-h" then .help
  else .usage

/-- Reads the words after a group of commands, which has one command. -/
def inGroup {α : Type} (command : String) (read : List String → Except Refusal α) :
    List String → Except Refusal α
  | [] => .error .usage
  | word :: rest =>
    if word = command then read rest else .error (refusalOf (isGroupTopic command) word rest)

/-- Reads the arguments of the program. -/
def Request.ofArguments : List String → Except Refusal Request
  | [] => .error .usage
  | word :: rest =>
    match word with
    | "key" => (inGroup "inspect" keyInspection rest).map .inspectKey
    | "cert" => (inGroup "inspect" chainInspection rest).map .inspectChain
    | "store" => (inGroup "check" storeCheck rest).map .checkStore
    | _ => .error (refusalOf isTopic word rest)

end Credential.Command
