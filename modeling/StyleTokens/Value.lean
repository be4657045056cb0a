/-! Values of a value map: data in the shape of the usual configuration formats, and callables that
are invoked with the arguments of a token. A callable may keep state; the state of all callables is
a value of the type `σ`, which every call receives and gives back. -/

set_option autoImplicit false

namespace StyleTokens

/-- Why a callable failed: its own text, and the texts of the causes beneath it. -/
structure CallError where
  message : String
  causes : List String
  deriving DecidableEq, Repr

inductive Value (σ : Type) where
  | null
  | boolean (value : Bool)
  | integer (value : Int64)
  | bigInteger (value : Int)
  | string (value : String)
  | array (items : List (Value σ))
  | object (entries : List (String × Value σ))
  | function (call : List String → σ → Except CallError (Value σ) × σ)

instance {σ : Type} : Inhabited (Value σ) := ⟨.null⟩

/-- Sets the value of a key: in its place if the key is known, and after all others if not. -/
def setEntry {α : Type} (key : String) (value : α) : List (String × α) → List (String × α)
  | [] => [(key, value)]
  | (known, old) :: rest =>
    if known = key then (known, value) :: rest else (known, old) :: setEntry key value rest

/-- Entries with each key once: at the place where it first stood, with the value it last had. -/
def distinctEntries {α : Type} (entries : List (String × α)) : List (String × α) :=
  entries.foldl (fun known entry => setEntry entry.1 entry.2 known) []

namespace Value

variable {σ : Type}

def ofEntries (entries : List (String × Value σ)) : Value σ := .object (distinctEntries entries)

def ofUInt64 (n : UInt64) : Value σ :=
  if n.toNat < Nat.pow 2 63 then .integer n.toInt64 else .bigInteger n.toNat

def ofInt32 (n : Int32) : Value σ := .integer n.toInt64

/-- A number of a format, by its readings as an integer with sign and as one without. Where it has
neither, its text stands in for it. -/
def ofReadings (signed : Option Int64) (unsigned : Option UInt64) (text : String) : Value σ :=
  match signed, unsigned with
  | some n, _ => .integer n
  | none, some n => .ofUInt64 n
  | none, none => .string text

def ofList {α : Type} (convert : α → Value σ) (items : List α) : Value σ :=
  .array (items.map convert)

def ofOption {α : Type} (convert : α → Value σ) : Option α → Value σ
  | some item => convert item
  | none => .null

def typeName : Value σ → String
  | .null => "null"
  | .boolean _ => "boolean"
  | .integer _ => "integer"
  | .bigInteger _ => "bigint"
  | .string _ => "string"
  | .array _ => "array"
  | .object _ => "object"
  | .function _ => "function"

def isObject : Value σ → Bool
  | .object _ => true
  | _ => false

end Value

inductive Kind where
  | null
  | text
  | integer
  | bigInteger
  | boolean
  | list
  | invocable
  | unsupported
  deriving DecidableEq, Repr

def Kind.name : Kind → String
  | .null => "null"
  | .text => "text"
  | .integer => "integer"
  | .bigInteger => "bigint"
  | .boolean => "boolean"
  | .list => "list"
  | .invocable => "function"
  | .unsupported => "unsupported"

def Value.kind {σ : Type} : Value σ → Kind
  | .null => .null
  | .boolean _ => .boolean
  | .integer _ => .integer
  | .bigInteger _ => .bigInteger
  | .string _ => .text
  | .array _ => .list
  | .object _ => .unsupported
  | .function _ => .invocable

end StyleTokens
