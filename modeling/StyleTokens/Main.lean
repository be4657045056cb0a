import StyleTokens.Command.Run

/-! The program. The files that a job mentions are read first, and its outcome is carried out last;
what happens in between is a function. -/

set_option autoImplicit false

namespace StyleTokens.Command

def errorNumber (code : UInt32) : Nat := code.toInt32.toInt.natAbs

def faultOf : IO.Error → Fault
  | .noFileOrDirectory .. => .notFound
  | .inappropriateType _ code details =>
    match errorNumber code with
    | 20 => .notADirectory
    | 21 => .isADirectory
    | number => .other (numbered details number)
  | .invalidArgument _ code details =>
    match errorNumber code with
    | 36 => .nameTooLong
    | number => .other (numbered details number)
  | .permissionDenied _ code details | .otherError code details =>
    .other (numbered details (errorNumber code))
  | error => .other (toString error)
where
  numbered (details : String) (number : Nat) : String :=
    details ++ " (os error " ++ toString number ++ ")"

def attempt {α : Type} (action : IO α) : IO (Except Fault α) := do
  match ← action.toBaseIO with
  | .ok result => return .ok result
  | .error error => return .error (faultOf error)

def within (directory path : String) : String :=
  if path.startsWith "/" then path else directory ++ "/" ++ path

def textOf (bytes : ByteArray) : Except Fault String :=
  match String.fromUTF8? bytes with
  | some text => .ok text
  | none => .error .notText

def readText (read : IO ByteArray) : IO (Except Fault String) :=
  return (← attempt read).bind textOf

/-- The full name of a file that exists. Opening one that does not tells why. -/
def fullName (path : String) : IO (Except Fault String) := do
  match ← attempt (IO.FS.realPath path) with
  | .ok name => return .ok name.toString
  | .error fault =>
    match ← attempt (IO.FS.readBinFile path) with
    | .ok _ => return .error fault
    | .error fault => return .error fault

/-- Asks about each path and remembers the answers. -/
def remember (paths : List String) (ask : String → IO (Except Fault String)) :
    IO (String → Except Fault String) := do
  let known ← paths.mapM fun path => return (path, ← ask path)
  return fun path => (known.lookup path).getD (.error .notFound)

def Job.maps : Job → List String
  | .compile options => options.maps
  | .listTokens .. => []
  | .showLayers maps => maps

def Job.source? : Job → Option (Option String)
  | .compile options => some options.input
  | .listTokens _ input => some input
  | .showLayers _ => none

def Job.files (job : Job) (directory : String) : IO Files := do
  let canonical ← remember job.maps fun path => fullName (within directory path)
  let sources := job.maps.filterMap fun path => (canonical path).toOption
  let paths := sources ++ (job.source?.getD none).toList
  return ⟨canonical, ← remember paths fun path =>
    readText (IO.FS.readBinFile (within directory path))⟩

def Job.input (job : Job) : IO (Except Fault String) := do
  if job.source? = some none then readText (do (← IO.getStdin).readBinToEnd)
  else return .ok ""

def Outcome.write (outcome : Outcome) (directory : String) : IO Outcome := do
  match outcome.file with
  | none => return outcome
  | some (path, contents) =>
    match ← attempt (IO.FS.writeFile (within directory path) contents) with
    | .ok () => return outcome
    | .error fault => return outcome.unwritten fault

def Invocation.outcome (invocation : Invocation) : IO Outcome := do
  let path := invocation.directory.getD "."
  match ← fullName (path ++ "/.") with
  | .ok directory =>
    let files ← invocation.job.files directory
    let input ← invocation.job.input
    (invocation.job.run Format.read files input).write directory
  | .error fault => return .noDirectory path fault

def logLine (event : Event) : String :=
  let level := match event.level with
    | .error => "ERROR"
    | .warning => "WARN"
  let fields := match event with
    | .notReplaced error token _ => " error=" ++ error ++ " token=" ++ Text.inspect token
    | .notAnObject typeName => " kind=" ++ Text.inspect typeName
  level ++ " " ++ event.message ++ fields

end StyleTokens.Command

open StyleTokens.Command in
def main (args : List String) : IO UInt32 := do
  let outcome ← match read args with
    | .ok invocation => invocation.outcome
    | .error detour => pure detour.outcome
  (← IO.getStderr).putStr (lines (outcome.log.map logLine) ++ outcome.messages)
  (← IO.getStdout).putStr outcome.output
  return UInt32.ofNat outcome.status
