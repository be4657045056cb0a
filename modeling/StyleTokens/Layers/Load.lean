import StyleTokens.Files
import StyleTokens.Format
import StyleTokens.Layers

/-! Layers from files. A file that cannot be loaded adds no layer. The texts of the formats are read by
readers that are given; a reader that refuses a text gives its reasons. -/

set_option autoImplicit false

namespace StyleTokens

inductive LoadError where
  | unsupportedFormat (path : String)
  | unreadable (fault : Fault)
  | malformed (format : Format) {reasons : List String}
  deriving DecidableEq, Repr

namespace LoadError

def message : LoadError → String
  | unsupportedFormat path => "Unsupported value map format: " ++ path
  | unreadable _ => "IO error"
  | malformed format => "Unable to parse " ++ format.name ++ " value map"

def causes : LoadError → List String
  | unsupportedFormat _ => []
  | unreadable fault => [fault.message]
  | @malformed _ reasons => reasons

def chain (error : LoadError) : List String := error.message :: error.causes

end LoadError

variable {σ : Type}

abbrev MapReader (σ : Type) := Format → String → Except (List String) (Value σ)

namespace Format

-- The readers of the formats here have no words for what is wrong with a text.
def read : MapReader σ := fun format contents => (format.read? contents).elim (.error []) .ok

def parseBy (reader : MapReader σ) (format : Format) (contents : String) :
    Except LoadError (Value σ) :=
  (reader format contents).mapError fun reasons => @LoadError.malformed format reasons

def parse (format : Format) (contents : String) : Except LoadError (Value σ) :=
  format.parseBy read contents

end Format

namespace Layers

section

variable (reader : MapReader σ)

/-- Reads a file whose format its path tells: its full name and its value. -/
def readFile (files : Files) (path : String) : Except LoadError (String × Value σ) := do
  let format ← match Format.ofPath? path with
    | some format => .ok format
    | none => .error (.unsupportedFormat path)
  let source ← (files.canonical path).mapError .unreadable
  let contents ← (files.read source).mapError .unreadable
  return (source, ← format.parseBy reader contents)

/-- Adds the layer of a file beneath all others, in a store that is at hand. -/
def loadFile (files : Files) (path : String) : ExceptT LoadError (StateM (Layers σ)) Unit := do
  let (source, value) ← readFile reader files path
  modify fun store => store.insert value (some source)

def loadBy (store : Layers σ) (files : Files) (path : String) : Except LoadError (Layers σ) :=
  let (result, store) := (loadFile reader files path).run store
  result.map fun _ => store

def loadAll (files : Files) (paths : List String) : Except LoadError (Layers σ) :=
  paths.foldlM (fun store path => store.loadBy reader files path) empty

end

def load (store : Layers σ) (files : Files) (path : String) : Except LoadError (Layers σ) :=
  store.loadBy Format.read files path

end Layers
end StyleTokens
