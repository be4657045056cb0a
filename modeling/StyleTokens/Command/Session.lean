import StyleTokens.Command.Run
import StyleTokens.Files.Tree

/-! The program as a function on a tree of files. -/

set_option autoImplicit false

namespace StyleTokens.Command

/-- Writes the file of an outcome, if it has one; what cannot be written turns it into a failure. -/
def Outcome.settle (outcome : Outcome) (place : Place) : Outcome × FileTree :=
  match outcome.file with
  | none => (outcome, place.root)
  | some (path, contents) =>
    match place.write path contents with
    | .ok place => (outcome, place.root)
    | .error fault => (outcome.unwritten fault, place.root)

/-- Runs the program at a place, given the readers of the formats: how it ends, and the files as they
are then. -/
def sessionBy (reader : MapReader Unit) (place : Place) (input : Except Fault String)
    (args : List String) : Outcome × FileTree :=
  match read args with
  | .error detour => (detour.outcome, place.root)
  | .ok invocation =>
    let entered := match invocation.directory with
      | some path => (place.enter path).mapError (Outcome.noDirectory path)
      | none => .ok place
    match entered with
    | .ok place => (invocation.job.run reader place.files input).settle place
    | .error outcome => (outcome, place.root)

def session (place : Place) (input : Except Fault String) (args : List String) :
    Outcome × FileTree :=
  sessionBy Format.read place input args

end StyleTokens.Command
