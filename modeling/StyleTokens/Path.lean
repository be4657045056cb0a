import StyleTokens.Text.Blank

/-! Paths of files: names between slashes. Empty names and single dots do not count. -/

set_option autoImplicit false

namespace StyleTokens.Path

def names (path : String) : List String := (path.toList.splitOn '/').map String.ofList

/-- The last name that counts, unless it means the directory above. -/
def fileName? (path : String) : Option String :=
  match ((names path).filter fun name => name ≠ "" ∧ name ≠ ".").getLast? with
  | some ".." => none
  | name => name

/-- What follows the last dot of the file name, if something stands before that dot. -/
def extension? (path : String) : Option String :=
  (fileName? path).bind fun name =>
    match (name.toList.splitOn '.').reverse with
    | _ :: [] | _ :: [[]] | [] => none
    | extension :: _ => some (String.ofList extension)

end StyleTokens.Path
