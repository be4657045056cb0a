/-! The arguments of the command line.

    p69 [-C directory] compile [-m map]... [-o output] [--lenient] [--reference text] [input]
    p69 [-C directory] dev tokens [-F json|yaml] [input]
    p69 [-C directory] dev layers [-m map]...

A switch may stand anywhere after the name it belongs to, and the one for the directory anywhere.
The value of a switch is attached to it or is the next argument, which then must not look like a
switch itself. Two hyphens end the switches. Only maps can be given more than once. -/

set_option autoImplicit false

namespace StyleTokens.Command

inductive ListFormat where
  | json
  | yaml
  deriving DecidableEq, Repr

def ListFormat.ofName? : String → Option ListFormat
  | "json" => some .json
  | "yaml" => some .yaml
  | _ => none

structure CompileOptions where
  maps : List String
  output : Option String
  lenient : Bool
  reference : Option String
  input : Option String
  deriving DecidableEq, Repr

inductive Job where
  | compile (options : CompileOptions)
  | listTokens (format : ListFormat) (input : Option String)
  | showLayers (maps : List String)
  deriving DecidableEq, Repr

structure Invocation where
  directory : Option String
  job : Job
  deriving DecidableEq, Repr

inductive Detour where
  | misuse
  | version
  | help
  deriving DecidableEq, Repr

/-! ## Switches -/

inductive Switch where
  | directory
  | map
  | output
  | lenient
  | reference
  | format
  | version
  | help
  deriving DecidableEq, Repr

namespace Switch

def name : Switch → String
  | directory => "directory"
  | map => "map"
  | output => "output"
  | lenient => "lenient"
  | reference => "reference"
  | format => "output-format"
  | version => "version"
  | help => "help"

def letter? : Switch → Option Char
  | directory => some 'C'
  | map => some 'm'
  | output => some 'o'
  | format => some 'F'
  | version => some 'V'
  | help => some 'h'
  | lenient | reference => none

def takesValue : Switch → Bool
  | directory | map | output | reference | format => true
  | lenient | version | help => false

def accepts : Switch → String → Bool
  | directory, value | map, value | output, value => value ≠ ""
  | format, value => (ListFormat.ofName? value).isSome
  | _, _ => true

def repeats (switch : Switch) : Bool := switch = map

end Switch

/-! ## Levels -/

inductive Level where
  | top
  | dev
  | compile
  | tokens
  | layers
  deriving DecidableEq, Repr

namespace Level

def switches : Level → List Switch
  | top => [.directory, .version, .help]
  | dev => [.directory, .help]
  | compile => [.directory, .map, .output, .lenient, .reference, .help]
  | tokens => [.directory, .format, .help]
  | layers => [.directory, .map, .help]

def below? : Level → String → Option Level
  | top, "compile" | top, "c" => some compile
  | top, "dev" => some dev
  | dev, "tokens" => some tokens
  | dev, "layers" => some layers
  | _, _ => none

def hasNames : Level → Bool
  | top | dev => true
  | compile | tokens | layers => false

def takesInput : Level → Bool
  | compile | tokens => true
  | top | dev | layers => false

end Level

/-! ## Reading -/

inductive Word where
  | terminator
  | switch (switch : Switch) (attached : Option String)
  | unknown
  | plain

/-- A switch without value cannot have one attached. -/
def longWord (level : Level) (text : List Char) : Word :=
  let attached := match text.dropWhile (· != '=') with
    | _ :: value => some (String.ofList value)
    | [] => none
  let name := String.ofList (text.takeWhile (· != '='))
  match level.switches.find? fun switch => switch.name = name with
  | some switch =>
    if attached.isSome ∧ ¬switch.takesValue then .unknown else .switch switch attached
  | none => .unknown

/-- The value follows the letter, with an equals sign between them or not. -/
def shortWord (level : Level) (letter : Char) (text : List Char) : Word :=
  match level.switches.find? fun switch => switch.letter? = some letter with
  | some switch =>
    match text with
    | [] => .switch switch none
    | '=' :: value | value => .switch switch (some (String.ofList value))
  | none => .unknown

def Level.word (level : Level) (arg : String) : Word :=
  match arg.toList with
  | '-' :: '-' :: [] => .terminator
  | '-' :: '-' :: text => longWord level text
  | '-' :: letter :: text => shortWord level letter text
  | _ => .plain

/-- Whether an argument cannot be the value of a switch before it. -/
def looksLikeSwitch (arg : String) : Bool :=
  match arg.toList with
  | '-' :: _ :: _ => true
  | _ => false

structure Given where
  outer : Option String
  switches : List (Switch × String)
  input : Option String

namespace Given

def nothing : Given := ⟨none, [], none⟩

def values (given : Given) (switch : Switch) : List String :=
  (given.switches.filter fun entry => entry.1 = switch).map Prod.snd

def value? (given : Given) (switch : Switch) : Option String := (given.values switch).head?

/-- The directory given last, level by level. -/
def directory (given : Given) : Option String := (given.value? .directory).or given.outer

def addSwitch (given : Given) (switch : Switch) (value : String) : Except Detour Given :=
  if ¬switch.accepts value ∨ (¬switch.repeats ∧ given.values switch ≠ []) then .error .misuse
  else .ok { given with switches := given.switches ++ [(switch, value)] }

/-- An input is a path, and there is one at most. -/
def addInput (level : Level) (given : Given) (path : String) : Except Detour Given :=
  if level.takesInput ∧ given.input = none ∧ path ≠ "" then .ok { given with input := some path }
  else .error .misuse

def enter (given : Given) : Given := ⟨given.directory, [], none⟩

def finish (level : Level) (given : Given) : Except Detour Invocation :=
  match level with
  | .top | .dev => .error .misuse
  | .compile =>
    .ok ⟨given.directory, .compile {
      maps := given.values .map
      output := given.value? .output
      lenient := (given.value? .lenient).isSome
      reference := given.value? .reference
      input := given.input }⟩
  | .tokens =>
    let format := (given.value? .format).bind ListFormat.ofName?
    .ok ⟨given.directory, .listTokens (format.getD .yaml) given.input⟩
  | .layers => .ok ⟨given.directory, .showLayers (given.values .map)⟩

end Given

def helpOn (level : Level) : List String → Detour
  | [] => .help
  | name :: names =>
    match level.below? name with
    | some below => helpOn below names
    | none => if name = "help" ∧ level.hasNames ∧ names = [] then .help else .misuse

def readFrom (level : Level) (given : Given) : List String → Except Detour Invocation
  | [] => given.finish level
  | arg :: rest =>
    match level.word arg with
    | .terminator => do (← rest.foldlM (Given.addInput level) given).finish level
    | .switch .version _ => .error .version
    | .switch .help _ => .error .help
    | .switch .lenient _ => do readFrom level (← given.addSwitch .lenient "") rest
    | .switch switch (some value) => do readFrom level (← given.addSwitch switch value) rest
    | .switch switch none =>
      match rest with
      | value :: rest =>
        if looksLikeSwitch value then .error .misuse
        else do readFrom level (← given.addSwitch switch value) rest
      | [] => .error .misuse
    | .unknown => .error .misuse
    | .plain =>
      match level.below? arg with
      | some below => readFrom below given.enter rest
      | none =>
        if level.hasNames ∧ arg = "help" then .error (helpOn level rest)
        else do readFrom level (← given.addInput level arg) rest

def read (args : List String) : Except Detour Invocation := readFrom .top .nothing args

end StyleTokens.Command
