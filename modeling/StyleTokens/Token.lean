import StyleTokens.Cursor

/-! Tokens of a style sheet: a `$`, a dotted name, an optional list of arguments in parentheses, and
one blank character if it follows. A token that cannot be read keeps its `$` and its name only. -/

set_option autoImplicit false

namespace StyleTokens

/-- One token. `raw` is the text from `start` up to `stop`, both counted in characters. -/
structure Token where
  start : Nat
  stop : Nat
  raw : String
  suffix : Option Char
  path : List String
  args : List String
  deriving DecidableEq, Repr

def Token.dotted (token : Token) : String := String.intercalate "." token.path

inductive ScanError where
  | missingArgument (name : String)
  | unterminatedString (name : String)
  | unexpected (mismatch : Mismatch)
  | invalidName (name : String)
  deriving DecidableEq, Repr

def ScanError.message : ScanError → String
  | .missingArgument name => "missing argument for '" ++ name ++ "'"
  | .unterminatedString name => "unterminated string for argument of '" ++ name ++ "'"
  | .unexpected mismatch => mismatch.message
  | .invalidName name => "invalid token name '" ++ name ++ "'"

/-- A token that could not be read. It covers the `$` and the name, and has no arguments. -/
structure ScanFailure where
  token : Token
  error : ScanError
  deriving DecidableEq, Repr

end StyleTokens
