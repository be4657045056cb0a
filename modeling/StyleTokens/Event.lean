/-! Events worth telling a user about, in the order in which they arise. -/

set_option autoImplicit false

namespace StyleTokens

inductive Level where
  | error
  | warning
  deriving DecidableEq, Repr

inductive Event where
  /-- A token stays in place. The reference says which text it stands in. -/
  | notReplaced (error token reference : String)
  | notAnObject (typeName : String)
  deriving DecidableEq, Repr

def Event.level : Event → Level
  | .notReplaced .. => .error
  | .notAnObject _ => .warning

def Event.message : Event → String
  | .notReplaced .. => "token not replaced"
  | .notAnObject _ => "layer is not an object, no path will match"

end StyleTokens
