import StyleTokens.Yaml.Schema
import StyleTokens.Yaml.Tree

/-! Documents as trees without aliases. An alias stands for a copy of its node, so the depth of the
result and the number of copies are bounded. The keys of a mapping are distinct. -/

set_option autoImplicit false

namespace StyleTokens.Yaml

def depthLimit : Nat := 128

/-- An alias may be followed so many times for each mark of the document. -/
def aliasLimit : Nat := 100

abbrev Composing := StateT Nat Option

namespace Document

def follow (document : Document) : Tree → Composing Tree
  | .alias number => do
    let count := (← get) + 1
    if document.root.size * aliasLimit < count then failure
    set count
    match document.anchored.lookup number with
    | some tree => return tree
    | none => failure
  | tree => return tree

def distinct? : List (Node × Node) → List Node → Option Unit
  | [], _ => some ()
  | (key, _) :: entries, known =>
    if known.any (same key) then none else distinct? entries (key :: known)

-- The name of a tag that belongs to the document, which begins with an exclamation mark. The mark
-- alone is a name too.
def ownTag? (tag : Option String) : Option String :=
  match tag.map String.toList with
  | some ['!'] => some "!"
  | some ('!' :: name) => some (String.ofList name)
  | _ => none

def wrap (tag : Option String) (node : Node) : Node :=
  match ownTag? tag with
  | some name => .tagged name node
  | none => node

def compose (document : Document) : Nat → Tree → Composing Node
  | depth, tree => do
    match ← document.follow tree, depth with
    | .scalar tag text plain, _ =>
      let core := if (ownTag? tag).isSome then none else tag
      match scalarNode? core text plain with
      | some node => return wrap tag node
      | none => failure
    | .sequence tag items, depth + 1 =>
      return wrap tag (.sequence (← items.mapM (compose document depth)))
    | .mapping tag entries, depth + 1 =>
      let entries ← entries.mapM fun (key, value) => do
        let key ← compose document depth key
        return (key, ← compose document depth value)
      match distinct? entries [] with
      | some () => return wrap tag (.mapping entries)
      | none => failure
    | _, _ => failure

def toNode? (document : Document) : Option Node :=
  (document.compose depthLimit document.root).run' 0

end Document

def read? (text : String) : Option Node := do
  (← Document.ofTokens? (← tokens? text)).toNode?

end StyleTokens.Yaml
