import Gatekeeper.Program

/-!
# The command line

Screens the numbers on standard input with the configured gate. This module only fetches what a run
needs and prints what comes of it.

A failure of the operating system becomes one that the library knows (`faultOf`), with the words of
the system where it knows none. A run cannot tell which thread it is, nor where in a source it
breaks down; `host` has what there is to say of that.
-/

namespace Gatekeeper.CommandLine

/-- The bytes that are left in a stream. -/
partial def readAll (stream : IO.FS.Stream) (read : ByteArray := .empty) : IO ByteArray := do
  let bytes ← stream.read 65536
  if bytes.isEmpty then return read else readAll stream (read ++ bytes)

/-- The variable that an entry of the process's environment sets. -/
def variableOf (entry : List UInt8) : Option (String × String) := do
  let text ← Text.decode entry
  match Text.split '=' text.toList with
  | name :: value :: more =>
    let value := more.foldl (fun value part => value ++ '=' :: part) value
    return (String.ofList name, String.ofList value)
  | _ => none

/-- The environment of this process. -/
def readEnvironment : IO Environment := do
  let bytes ← IO.FS.readBinFile "/proc/self/environ"
  return (Text.split 0 bytes.data.toList).filterMap variableOf

/-- The failure of the operating system with that number, which may come negated. -/
def faultOfCode (code : UInt32) (text : String) : Files.Fault :=
  match (if code < 0x80000000 then code else 0 - code).toNat with
  | 2 => .missing
  | 13 => .other 13 "PermissionDenied" "Permission denied"
  | 20 => .notDirectory
  | 21 => .isDirectory
  | 36 => .nameTooLong
  | code => .other code "Uncategorized" text

/-- The reason for which a file was not read. -/
def faultOf : IO.Error → Files.Fault
  | .noFileOrDirectory _ _ _ => .missing
  | .inappropriateType _ code text | .invalidArgument _ code text | .permissionDenied _ code text
  | .resourceExhausted _ code text => faultOfCode code text
  | .illegalOperation code text | .unsupportedOperation code text | .otherError code text
  | .hardwareFault code text | .resourceVanished code text => faultOfCode code text
  | error => .other 0 "Other" (toString error)

/-- The content of a file. -/
def readContent (path : String) : IO (Except Files.Fault (List UInt8)) := do
  match Files.pathFault path with
  | some fault => return .error fault
  | none =>
    try
      let bytes ← IO.FS.readBinFile path
      return .ok bytes.data.toList
    catch error => return .error (faultOf error)

/-- The file of assignments nearest to the working directory, in it or at most so many directories
above it. -/
def findAssignments : Nat → String → IO (Option (List UInt8))
  | levels, directory => do
    match ← readContent (directory ++ Program.assignmentsName), levels with
    | .ok content, _ => return some content
    | .error _, 0 => return none
    | .error _, levels + 1 => findAssignments levels (directory ++ "../")

/-- The number of this process, which is also that of its first thread. -/
def readNumber : IO Nat := do
  let status ← IO.FS.readFile "/proc/self/stat"
  return Text.natural (status.toList.takeWhile Char.isDigit)

/-- What this process says of itself if its run breaks down. -/
def host : IO Program.Host := do
  return { thread := ← readNumber
           place := fun breakdown =>
             match breakdown with
             | .loading => "Gatekeeper.Program.load"
             | .filter _ => "Gatekeeper.Log.Rule.slice"
           loading := "the environment makes no settings"
           calls := fun _ => [] }

/-- What a run comes to in the world around this process. -/
def outcome : IO Program.Outcome := do
  let env ← readEnvironment
  let host ← host
  let levels := (Files.parts (toString (← IO.currentDir))).length
  let assignments ← findAssignments levels ""
  match Program.load env assignments with
  | none =>
    return Program.breakDown host (Program.lastEnvironment env assignments) [] .loading
  | some (_, .error fault) => return Program.abandon fault
  | some (env, .ok settings) =>
    let path := pathOrDefault settings.configPath
    let config := Configuration.ofContent path (← readContent path)
    let input ← readAll (← IO.getStdin)
    return Program.proceed host env settings config input.data.toList

end Gatekeeper.CommandLine

/-- Runs the program. -/
def main : IO UInt32 := do
  let outcome ← Gatekeeper.CommandLine.outcome
  for line in outcome.log do
    IO.eprintln line
  IO.print outcome.output
  return outcome.exit.toUInt32
