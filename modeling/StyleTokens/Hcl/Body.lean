import StyleTokens.Hcl.Reader

/-! Bodies of HCL documents. A block is an object that is nested under its labels; blocks with the
same names make up a list, and blocks with some labels in common one object. -/

set_option autoImplicit false

namespace StyleTokens.Hcl

inductive Member where
  | attribute (value : Node)
  | blocks (bodies : List (List (String × Member)))
  | labelled (members : List (String × Member))

abbrev Body := List (String × Member)

mutual

-- Joins what a name stands for already with what comes after it. Blocks join, and everything else
-- takes the place of what was there.
def Member.join : Member → Member → Member
  | .labelled members, .labelled more => .labelled (joinAll members more)
  | .blocks bodies, .blocks more => .blocks (bodies ++ more)
  | _, later => later
termination_by _ later => (sizeOf later, 0)

def joinAll (members : Body) : Body → Body
  | [] => members
  | (name, member) :: more => joinAll (joinEntry members name member) more
termination_by more => (sizeOf more, 0)

/-- Joins one member to those of a body, in its place if its name is known. -/
def joinEntry : Body → String → Member → Body
  | [], name, member => [(name, member)]
  | (known, old) :: rest, name, member =>
    if known = name then (known, old.join member) :: rest
    else (known, old) :: joinEntry rest name member
termination_by members _ member => (sizeOf member, sizeOf members)

end

def nested (body : Body) : List String → Member
  | [] => .blocks [body]
  | label :: labels => .labelled [(label, nested body labels)]

mutual

def Member.toNode : Member → Node
  | .attribute value => value
  | .blocks bodies =>
    match bodyNodes bodies with
    | [node] => node
    | nodes => .array nodes
  | .labelled members => .object (memberNodes members)

def bodyNodes : List Body → List Node
  | [] => []
  | body :: bodies => .object (memberNodes body) :: bodyNodes bodies

def memberNodes : Body → List (String × Node)
  | [] => []
  | (name, member) :: members => (name, member.toNode) :: memberNodes members

end

/-! ## Reading bodies -/

inductive Structure where
  | attribute (name : String) (value : Node)
  | block (name : String) (member : Member)

/-- Joins structures to a body. A name can be an attribute only once. -/
def collect? (attributes : List String) (body : Body) : List Structure → Option Body
  | [] => some body
  | .attribute name value :: more =>
    if attributes.contains name then none
    else collect? (name :: attributes) (joinEntry body name (.attribute value)) more
  | .block name member :: more => collect? attributes (joinEntry body name member) more

def attributeValue : Read Node := do
  word "=" *> lineGap
  let value ← inner (expression ((← rest).length + 1))
  match value.toNode? with
  | some node => return node
  | none => failure

def label : Read String := do
  match ← rest with
  | '"' :: _ =>
    match ← quoted failure with
    | .string text => return text
    | _ => failure
  | _ => name

def shortBody : Read Body := do
  lineGap
  let members ← possibly do
    let name ← name
    lineGap
    return (name, Member.attribute (← attributeValue))
  lineGap
  word "\x7d"
  return members.toList

/-- The structures up to the end of a body. `steps` bounds how deep blocks are nested. -/
def structures : Nat → Read (List Structure)
  | 0 => failure
  | steps + 1 => many do
    gap
    let first ← name
    lineGap
    match ← possibly attributeValue with
    | some value => lineEnd *> pure (.attribute first value)
    | none =>
      let labels ← many (label <* lineGap)
      word "\x7b"
      let body ← shortBody <|> do
        lineEnd
        let some body := collect? [] [] (← structures steps) | failure
        gap *> word "\x7d"
        return body
      lineEnd
      return .block first (nested body labels)

def read? (text : String) : Option Node := do
  let (structures, _) ← (structures (text.length + 1) <* gap <* atEnd).run (.start text)
  return .object (memberNodes (← collect? [] [] structures))

end StyleTokens.Hcl
