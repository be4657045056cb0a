/-! What a program learns from a file system. -/

set_option autoImplicit false

namespace StyleTokens

inductive Fault where
  | notFound
  | notADirectory
  | isADirectory
  | nameTooLong
  | notText
  | other (message : String)
  deriving DecidableEq, Repr

def Fault.message : Fault → String
  | .notFound => "No such file or directory (os error 2)"
  | .notADirectory => "Not a directory (os error 20)"
  | .isADirectory => "Is a directory (os error 21)"
  | .nameTooLong => "File name too long (os error 36)"
  | .notText => "stream did not contain valid UTF-8"
  | .other message => message

/-- Files as they are seen from a working directory. -/
structure Files where
  /-- The full name of a file that exists, without detours. -/
  canonical : String → Except Fault String
  read : String → Except Fault String

end StyleTokens
