import StyleTokens.Event
import StyleTokens.Value

/-! A store of layers in order of priority, the most important first, each with the file it came
from, if any. -/

set_option autoImplicit false

namespace StyleTokens

variable {σ : Type}

structure Layer (σ : Type) where
  source : Option String
  value : Value σ

/-- The sources and the values of the layers, first those of the one that shadows all others, and the
events of their adding. -/
structure Layers (σ : Type) where
  sources : List (Option String)
  values : List (Value σ)
  events : List Event

namespace Layers

def empty : Layers σ := ⟨[], [], []⟩

/-- Adds a layer beneath all others. One that is not an object is added with a warning. -/
def insert (store : Layers σ) (value : Value σ) (source : Option String) : Layers σ where
  sources := store.sources ++ [source]
  values := store.values ++ [value]
  events := if value.isObject then store.events
    else store.events ++ [.notAnObject value.typeName]

def ofValue (value : Value σ) : Layers σ := empty.insert value none

def layers (store : Layers σ) : List (Layer σ) :=
  List.zipWith Layer.mk store.sources store.values

def length (store : Layers σ) : Nat := store.values.length

def isEmpty (store : Layers σ) : Bool := store.values.isEmpty

end Layers
end StyleTokens
