import StyleTokens.Files
import StyleTokens.Path
import StyleTokens.Value

/-! Files in a tree of directories, and the rules by which a path leads to one of them. -/

set_option autoImplicit false

namespace StyleTokens

inductive FileTree where
  | file (contents : ByteArray)
  | directory (entries : List (String × FileTree))

namespace FileTree

def empty : FileTree := .directory []

def child? (name : String) : FileTree → Option FileTree
  | .file _ => none
  | .directory entries => entries.lookup name

def at? (tree : FileTree) : List String → Option FileTree
  | [] => some tree
  | name :: names => (tree.child? name).bind fun child => child.at? names

/-- Puts a tree at the end of names that lead downwards, with the directories above it. -/
def put (new : FileTree) : List String → FileTree → FileTree
  | [], _ => new
  | name :: names, .file _ => .directory [(name, put new names empty)]
  | name :: names, .directory entries =>
    .directory (setEntry name (put new names ((entries.lookup name).getD empty)) entries)

mutual

def files : FileTree → List (List String × ByteArray)
  | .file contents => [([], contents)]
  | .directory entries => entryFiles entries

def entryFiles : List (String × FileTree) → List (List String × ByteArray)
  | [] => []
  | (name, tree) :: entries =>
    tree.files.map (fun (names, contents) => (name :: names, contents)) ++ entryFiles entries

end

end FileTree

structure Place where
  root : FileTree
  names : List String

namespace Place

def nameLimit : Nat := 255

def pathLimit : Nat := 4095

def step (root : FileTree) (reached : List String) (name : String) :
    Except Fault (List String) :=
  match root.at? reached with
  | some (.directory entries) =>
    if name = "" ∨ name = "." then .ok reached
    else if name = ".." then .ok reached.dropLast
    else if nameLimit < name.utf8ByteSize then .error .nameTooLong
    else if (entries.lookup name).isSome then .ok (reached ++ [name])
    else .error .notFound
  | some (.file _) => .error .notADirectory
  | none => .error .notFound

def start (place : Place) (path : String) : List String :=
  if path.toList.head? = some '/' then [] else place.names

/-- The names that lead to what exists under a path. -/
def locate (place : Place) (path : String) : Except Fault (List String) :=
  if path = "" then .error .notFound
  else (Path.names path).foldlM (step place.root) (place.start path)

/-- The names that lead to what is opened under a path. -/
def opened (place : Place) (path : String) : Except Fault (List String) :=
  if pathLimit < path.utf8ByteSize then .error .nameTooLong else place.locate path

def fullName (names : List String) : String := "/" ++ String.intercalate "/" names

def canonical (place : Place) (path : String) : Except Fault String :=
  (place.locate path).map fullName

def read (place : Place) (path : String) : Except Fault String := do
  match place.root.at? (← place.opened path) with
  | some (.file contents) =>
    match String.fromUTF8? contents with
    | some text => .ok text
    | none => .error .notText
  | some (.directory _) => .error .isADirectory
  | none => .error .notFound

def files (place : Place) : Files := ⟨place.canonical, place.read⟩

def enter (place : Place) (path : String) : Except Fault Place := do
  let names ← place.opened path
  match place.root.at? names with
  | some (.directory _) => .ok { place with names }
  | _ => .error .notADirectory

-- The names that lead to a file to be written, which need not exist in its directory. A path that
-- ends like that of a directory never leads to a file.
def target (place : Place) (path : String) : Except Fault (List String) := do
  if pathLimit < path.utf8ByteSize then .error .nameTooLong
  if path = "" then .error .notFound
  match (Path.names path).reverse.dropWhile (· = "") with
  | [] => .error .isADirectory
  | name :: above =>
    let parent ← above.reverse.foldlM (step place.root) (place.start path)
    let parent ← step place.root parent "."
    if path.toList.getLast? = some '/' ∨ name = "." ∨ name = ".." then .error .isADirectory
    match step place.root parent name with
    | .ok names =>
      match place.root.at? names with
      | some (.file _) => .ok names
      | _ => .error .isADirectory
    | .error .notFound => .ok (parent ++ [name])
    | .error fault => .error fault

def write (place : Place) (path contents : String) : Except Fault Place := do
  let names ← place.target path
  .ok { place with root := (FileTree.file contents.toUTF8).put names place.root }

end Place
end StyleTokens
