import Credential.Command.Run
import Std.Time.DateTime.Timestamp

/-!
# The program

The console of a process: its files, its standard streams, its environment and its clock.
The permission bits of a file are not available, so the permissions of every file are
unknown.
-/

namespace Credential.Command

open Host (FileError)

/-- The cause of a failed file operation. -/
def fileError : IO.Error → FileError
  | .noFileOrDirectory _ _ _ => .notFound
  | .permissionDenied _ _ _ => .permissionDenied
  | .inappropriateType _ code details =>
    if code = 20 then .notDirectory
    else if code = 21 then .isDirectory
    else .other details
  | e => .other (toString e)

/-- Reads a line of a stream with its line feed. -/
partial def readLineOf (stream : IO.FS.Stream) (line : Bytes) : IO Bytes := do
  let octets := (← stream.read 1).toList
  if octets.isEmpty ∨ octets = [10] then return line ++ octets
  else readLineOf stream (line ++ octets)

/-- Reads a stream to its end. -/
partial def readAllOf (stream : IO.FS.Stream) (octets : ByteArray) : IO Bytes := do
  let more ← stream.read 65536
  if more.isEmpty then return octets.toList else readAllOf stream (octets ++ more)

/-- The console of this process. -/
def processConsole : Console IO where
  content path := do
    try
      return .ok (← IO.FS.readBinFile path).toList
    catch e => return .error (fileError e)
  permissions _ := return .unknown
  now := do
    let moment ← Std.Time.Timestamp.now
    let nanoseconds := moment.toNanosecondsSinceUnixEpoch.val.toNat
    return ⟨nanoseconds / 1000000000, nanoseconds % 1000000000⟩
  environment name := IO.getEnv name
  readInput := do readAllOf (← IO.getStdin) .empty
  readLine := do readLineOf (← IO.getStdin) []
  showPrompt text := do
    let stderr ← IO.getStderr
    stderr.putStr text
    stderr.flush

/-- The text shown to one who asks for help or gives arguments that do not fit. -/
def usageText : String :=
  unlines ["Usage: credential key inspect [OPTIONS] [FILE]",
    "       credential cert inspect [OPTIONS] [FILE]",
    "       credential store check [OPTIONS] --key FILE --cert FILE"]

end Credential.Command

open Credential.Command in
/-- Runs the program on the arguments of the process. -/
def main (args : List String) : IO UInt32 := do
  let ending ← runProgram processConsole args
  match ending with
  | .refused .help => IO.print usageText
  | .refused .usage => IO.eprint usageText
  | ending =>
    IO.print ending.output
    IO.eprint ending.diagnostic
  return ending.code.toUInt32
