import Credential.Command.Report
import Credential.Command.Request

/-!
# Running commands

`Request.run` carries out a command on a console, which answers in any monad: it reads files
and the input, knows the environment and the time, and shows prompts. The result is what is
printed at the end.

A command that fails prints nothing but its fault.
-/

namespace Credential.Command

open Calendar (Timestamp)
open Host (FileError Permissions)

/-- The answers of a console in a monad. `readLine` gives a line with its line feed, and
nothing at the end of the input. -/
structure Console (m : Type → Type) where
  content : String → m (Except FileError Bytes)
  permissions : String → m Permissions
  now : m Timestamp
  environment : String → m (Option String)
  readInput : m Bytes
  readLine : m Bytes
  showPrompt : String → m Unit

/-- Why a command fails. -/
inductive Error where
  | file (cause : FileError)
  | key (cause : Key.Error)
  | certificate (cause : X509.Error)
  | store (cause : Store.Error)
  | missingVariable (name : String)
  deriving DecidableEq, Repr

/-- The wording of a fault. -/
def Error.message : Error → String
  | .file cause => "IO error: " ++ cause.message
  | .key cause => "key error (" ++ cause.kind.name ++ "): " ++ cause.message
  | .certificate cause => "certificate error: " ++ cause.message
  | .store cause => "key store error (" ++ cause.kind.name ++ "): " ++ cause.message
  | .missingVariable name =>
    "environment variable " ++ name ++ " is not set or not valid UTF-8"

/-- A computation on a console that may fail or abort. -/
def Session (m : Type → Type) (α : Type) := m (Outcome Error α)

namespace Session

variable {m : Type → Type} [Monad m] {α β : Type}

/-- The session with the given answer of the console. -/
def mk (answer : m (Outcome Error α)) : Session m α := answer

/-- The answer of the console. -/
def run (session : Session m α) : m (Outcome Error α) := session

/-- Goes on with the value, if there is one. -/
def bind (session : Session m α) (f : α → Session m β) : Session m β :=
  mk do
    match ← session.run with
    | .ok a => (f a).run
    | .error cause => pure (.error cause)
    | .aborted => pure .aborted

instance : Monad (Session m) where
  pure a := mk (pure (.ok a))
  bind := bind

/-- The session that gives what the console answers. -/
def ask (answer : m α) : Session m α :=
  mk do return .ok (← answer)

/-- The session with a known outcome. -/
def ofOutcome (outcome : Outcome Error α) : Session m α := mk (pure outcome)

/-- The session with the value of a result, or with its error. -/
def ofExcept {ε : Type} (describe : ε → Error) (result : Except ε α) : Session m α :=
  ofOutcome (.ofExcept (result.mapError describe))

end Session

section

variable {m : Type → Type} [Monad m]

/-! ## Input -/

/-- The content of a file. -/
def readFile (console : Console m) (path : String) : Session m Bytes := do
  Session.ofExcept .file (← Session.ask (console.content path))

/-- The content of a file, or the input if no file is named. -/
def readSource (console : Console m) : Option String → Session m Bytes
  | some path => readFile console path
  | none => Session.ask console.readInput

/-- The password on a line: the line without the line ends after it. A line that is not
UTF-8 holds no password, and neither does the end of the input. -/
def passwordOfLine (line : Bytes) : Option Bytes :=
  if line.isEmpty ∨ (Text.Utf8.decode? line).isNone then none
  else some (line.reverse.dropWhile fun b => b == 10 || b == 13).reverse

/-- The answer to a prompt. -/
def askPassword (console : Console m) (prompt : String) : m (Option Bytes) := do
  console.showPrompt prompt
  return passwordOfLine (← console.readLine)

/-- The password in an environment variable. -/
def environmentPassword (console : Console m) (name : String) : Session m Bytes := do
  match ← Session.ask (console.environment name) with
  | some value => return Text.Utf8.encode value
  | none => Session.ofOutcome (.error (.missingVariable name))

/-! ## Keys -/

/-- The password for a key, which is looked for only if the key is encrypted. -/
def keyPassword (console : Console m) (source : PasswordSource) (info : Key.Info) :
    Session m (Option Bytes) := do
  if info.isEncrypted then
    match source with
    | .none => return none
    | .prompt => Session.ask (askPassword console "Enter password: ")
    | .environment name => return some (← environmentPassword console name)
  else return none

/-- The report on a key: an encrypted key without a password is not decoded. -/
def reportKey (bytes : Bytes) (info : Key.Info) (password : Option Bytes)
    (options : Key.Options) : Outcome Key.Error KeyReport :=
  if info.isEncrypted ∧ password = none then .ok ⟨info, none⟩
  else
    (Key.PrivateKey.ofFile bytes password options).map fun key =>
      ⟨{ info with algorithm := some key.algorithm }, some key.keySize⟩

/-- Inspects a key. -/
def KeyInspection.run (request : KeyInspection) (console : Console m) : Session m KeyReport := do
  let bytes ← readSource console request.file
  let info ← Session.ofExcept .key (Key.Info.ofFile bytes)
  let password ← keyPassword console request.password info
  let options : Key.Options := ⟨⟨request.maxKeyBits⟩, .paddingAndStructure⟩
  Session.ofOutcome ((reportKey bytes info password options).mapError .key)

/-! ## Certificates -/

/-- Inspects a chain. -/
def ChainInspection.run (request : ChainInspection) (console : Console m) :
    Session m (List X509.Summary) := do
  let bytes ← readSource console request.file
  let chain ← Session.ofExcept .certificate (X509.Chain.ofFile bytes)
  let shown := if request.leafOnly then [chain.leaf] else chain.toList
  return shown.map X509.Certificate.summary

/-! ## Stores -/

/-- The text of a store's prompt. -/
def promptText (prompt : Store.Prompt) : String :=
  let cipher := match prompt.encryption with
    | some name => " (" ++ name ++ ")"
    | none => ""
  "Enter password for '" ++ prompt.entryAlias ++ "'" ++ cipher ++ " ["
    ++ toString prompt.attempt ++ "/" ++ toString prompt.maxAttempts ++ "]: "

/-- The console as the host of a store. -/
def hostOf (console : Console m) : Store.Handler m where
  content := console.content
  permissions := console.permissions
  now := console.now
  askPassword prompt := do
    match ← askPassword console (promptText prompt) with
    | some password => return .password password
    | none => return .cancelled

/-- The protection that a password source stands for. -/
def protectionOf (console : Console m) : PasswordSource → Session m Store.Protection
  | .none => return .none
  | .prompt => return .interactive
  | .environment name => return .password (← environmentPassword console name)

/-- The entry of a store, which is loaded. -/
def loadedEntry (console : Console m) (store : Store.KeyStore) : Session m Store.Entry := do
  let (outcome, _) ← Session.ask (store.entry.runIn (hostOf console))
  Session.ofOutcome (outcome.mapError .store)

/-- The report on a loaded store whose key file shows `info`. -/
def reportStore (entry : Store.Entry) (info : Key.Info) : StoreReport :=
  ⟨entry.name, 1, some entry.createdAt, info, entry.chain.toList.map X509.Certificate.summary⟩

/-- Checks a store: loads it and reads its key file again. -/
def StoreCheck.run (request : StoreCheck) (console : Console m) : Session m StoreReport := do
  let protection ← protectionOf console request.password
  let entry ← loadedEntry console { config := request.config, protection }
  let bytes ← readFile console request.config.keyPath
  let info ← Session.ofExcept .key (Key.Info.ofFile bytes)
  return reportStore entry info

/-! ## The program -/

/-- The text of a report in a style. -/
def printed (style : Style) (lines : List String) (json : Json.Value) : String :=
  match style with
  | .text => unlines lines
  | .json => jsonText json

/-- Carries out a command; the value is what it prints. -/
def Request.run (request : Request) (console : Console m) : Session m String :=
  match request with
  | .inspectKey request => do
    let report ← request.run console
    return printed request.style report.lines report.toJson
  | .inspectChain request => do
    let summaries ← request.run console
    return printed request.style (chainLines 0 summaries) (chainJson summaries)
  | .checkStore request => do
    let report ← request.run console
    return printed request.style report.lines report.toJson

/-- How the program ends: with a text, with a fault, broken down, or without a command. -/
inductive Ending where
  | printed (text : String)
  | failed (cause : Error)
  | aborted
  | refused (refusal : Refusal)
  deriving DecidableEq, Repr

/-- The exit code of the program. -/
def Ending.code : Ending → UInt8
  | .printed _ => 0
  | .failed _ => 1
  | .aborted => 101
  | .refused .help => 0
  | .refused .usage => 2

/-- The last words of a program that fails. -/
def Ending.diagnostic : Ending → String
  | .failed cause => "error: " ++ cause.message ++ "\n"
  | _ => ""

/-- The text that the program prints. -/
def Ending.output : Ending → String
  | .printed text => text
  | _ => ""

/-- Runs the program on its arguments. -/
def runProgram (console : Console m) (args : List String) : m Ending := do
  match Request.ofArguments args with
  | .error refusal => return .refused refusal
  | .ok request =>
    match ← (request.run console).run with
    | .ok text => return .printed text
    | .error cause => return .failed cause
    | .aborted => return .aborted

end

end Credential.Command
