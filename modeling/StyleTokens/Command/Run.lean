import StyleTokens.Command.Arguments
import StyleTokens.Command.Listing
import StyleTokens.Layers.Load
import StyleTokens.Substitution
import StyleTokens.Value.Inspect

/-! What a job comes to: the texts it prints, a file to write, and the status with which it ends.
A job fails before it prints or writes anything that it was asked for. -/

set_option autoImplicit false

namespace StyleTokens.Command

structure Outcome where
  output : String
  /-- The errors that were told on the way. -/
  log : List Event
  /-- Texts for the user, apart from the log. -/
  messages : String
  status : Nat
  file : Option (String × String)
  deriving DecidableEq, Repr

def lines (texts : List String) : String := String.join (texts.map (· ++ "\n"))

namespace Outcome

def printed (output : String) : Outcome := ⟨output, [], "", 0, none⟩

/-- Nothing but the texts of an error and its causes, one a line. -/
def failed (chain : List String) : Outcome := ⟨"", [], lines chain, 1, none⟩

def noDirectory (path : String) (fault : Fault) : Outcome :=
  failed ["Failed to change directory to " ++ path, fault.message]

def unwritten (outcome : Outcome) (fault : Fault) : Outcome :=
  { outcome with
    messages := outcome.messages ++ lines [fault.message]
    status := 1
    file := none }

end Outcome

def usage : String :=
  lines [
    "Usage: p69 [-C DIRECTORY] compile [-m MAP]... [-o OUTPUT] [--lenient] [--reference TEXT]" ++
      " [INPUT]",
    "       p69 [-C DIRECTORY] dev tokens [-F json|yaml] [INPUT]",
    "       p69 [-C DIRECTORY] dev layers [-m MAP]..."]

def Detour.outcome : Detour → Outcome
  | .misuse => ⟨"", [], usage, 2, none⟩
  | .version => .printed "p69 0.1.0\n"
  | .help => .printed usage

inductive CompileError where
  | load (error : LoadError)
  | source (fault : Fault)
  | token (failure : TokenFailure)
  deriving DecidableEq, Repr

def CompileError.chain : CompileError → List String
  | .load error => error.chain
  | .source fault => [fault.message]
  | .token failure => failure.chain

def readSource (files : Files) (input : Except Fault String) : Option String →
    Except Fault String
  | some path => files.read path
  | none => input

def CompileOptions.label (options : CompileOptions) : String :=
  (options.reference.or options.input).getD "<stdin>"

def CompileOptions.config (options : CompileOptions) : Config (List Event) :=
  ⟨!options.lenient, options.label, logFailure⟩

/-- The compiled source, without blanks around it, on lines, and what the pass told its log. -/
def compile (reader : MapReader Unit) (files : Files) (input : Except Fault String)
    (options : CompileOptions) : Except CompileError String × List Event :=
  match Layers.loadAll reader files options.maps with
  | .error error => (.error (.load error), [])
  | .ok store =>
    match readSource files input options.input with
    | .error fault => (.error (.source fault), [])
    | .ok source =>
      let (result, _, log) := substitute store.values source options.config () []
      (result.mapError .token >>= fun done => .ok (Text.trim done.text ++ "\n"), log)

def compileOutcome (reader : MapReader Unit) (files : Files) (input : Except Fault String)
    (options : CompileOptions) : Outcome :=
  let (result, log) := compile reader files input options
  let outcome : Outcome := match result, options.output with
    | .ok text, none => .printed text
    | .ok text, some path => { Outcome.printed "" with file := some (path, text) }
    | .error error, _ => .failed error.chain
  { outcome with log }

def ListFormat.write : ListFormat → List Token → String
  | .json, tokens => Json.write 0 (Json.ofTokens tokens)
  | .yaml, tokens => Yaml.write (Yaml.ofTokens tokens)

def tokensOutcome (format : ListFormat) (source : String) : Outcome :=
  let scanned := scan source
  let faults := scanned.filterMap fun
    | .error failure => some (failure.token.raw ++ ": " ++ failure.error.message)
    | .ok _ => none
  { Outcome.printed (format.write (scanned.filterMap Except.toOption)) with
    messages := lines faults }

def layerLines (layer : Layer Unit) : List String :=
  ["# " ++ layer.source.getD "<inline>", layer.value.outline 0]

def Job.run (reader : MapReader Unit) (files : Files) (input : Except Fault String) : Job → Outcome
  | .compile options => compileOutcome reader files input options
  | .listTokens format path =>
    match readSource files input path with
    | .ok source => tokensOutcome format source
    | .error fault => .failed [fault.message]
  | .showLayers maps =>
    match Layers.loadAll reader files maps with
    | .ok store => .printed (lines (store.layers.flatMap layerLines))
    | .error error => .failed error.chain

end StyleTokens.Command
