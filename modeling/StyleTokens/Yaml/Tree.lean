import StyleTokens.Yaml.Token

/-! The document that a list of YAML tokens makes up. Its aliases are still unresolved: they name
the anchored node by a number. -/

set_option autoImplicit false

namespace StyleTokens.Yaml

inductive Tree where
  | alias (anchor : Nat)
  | scalar (tag : Option String) (text : String) (plain : Bool)
  | sequence (tag : Option String) (items : List Tree)
  | mapping (tag : Option String) (entries : List (Tree × Tree))

def Tree.absent : Tree := .scalar none "" true

mutual

/-- How many marks a tree has: one for each scalar and alias, two for each collection. -/
def Tree.size : Tree → Nat
  | .alias _ | .scalar .. => 1
  | .sequence _ items => 2 + itemsSize items
  | .mapping _ entries => 2 + entriesSize entries

def itemsSize : List Tree → Nat
  | [] => 0
  | item :: items => item.size + itemsSize items

def entriesSize : List (Tree × Tree) → Nat
  | [] => 0
  | (key, value) :: entries => key.size + value.size + entriesSize entries

end

structure Document where
  root : Tree
  anchored : List (Nat × Tree)

structure Reading where
  tokens : List Token
  handles : List (String × String)
  names : List (String × Nat)
  /-- For the number of an anchor, which anchored node it belongs to, the latest first. -/
  owners : List (Nat × Nat)
  count : Nat
  nodes : List (Nat × Tree)

abbrev Read := StateT Reading Option

namespace Read

def peek : Read (Option Token) := return (← get).tokens.head?

def skip : Read Unit := modify fun reading => { reading with tokens := reading.tokens.drop 1 }

def nextIs (tokens : List Token) : Read Bool := do
  match ← peek with
  | some token => return tokens.contains token
  | none => return false

def accept (token : Token) : Read Bool := do
  if ← nextIs [token] then
    skip
    return true
  return false

-- Enters an anchor name. A new name gets the number of names known before; a known one gets the
-- number of all names. Gives the place of the node among the anchored ones.
def enter (name : String) : Read Nat := do
  let reading ← get
  let known := (reading.names.map (·.1)).eraseDups.length
  set { reading with
    names := (name, known) :: reading.names
    owners := (known, reading.count) :: reading.owners
    count := reading.count + 1 }
  return reading.count

def resolveTag (handle suffix : String) : Read String := do
  if handle = "" then return suffix
  match (← get).handles.lookup handle with
  | some value => return value ++ suffix
  | none => failure

def properties : Read (Option String × Option (String × String)) := do
  match ← peek with
  | some (.anchor name) =>
    skip
    match ← peek with
    | some (.tag handle suffix) => skip; return (some name, some (handle, suffix))
    | _ => return (some name, none)
  | some (.tag handle suffix) =>
    skip
    match ← peek with
    | some (.anchor name) => skip; return (some name, some (handle, suffix))
    | _ => return (none, some (handle, suffix))
  | _ => return (none, none)

mutual

-- Reads a node. Block collections are allowed where `block` holds, and a sequence that is not
-- indented where `flat` holds.
def node (block flat : Bool) : Nat → Read Tree
  | 0 => failure
  | steps + 1 => do
    if let some (.alias name) ← peek then
      skip
      match (← get).names.lookup name with
      | some number => return .alias number
      | none => failure
    let (anchor, tag) ← properties
    let tag ← tag.mapM fun (handle, suffix) => resolveTag handle suffix
    let place ← anchor.mapM enter
    let tree ← content block flat (anchor.isSome || tag.isSome) tag steps
    if let some place := place then
      modify fun reading => { reading with nodes := (place, tree) :: reading.nodes }
    return tree

def content (block flat marked : Bool) (tag : Option String) : Nat → Read Tree
  | 0 => failure
  | steps + 1 => do
    match ← peek with
    | some .item =>
      if flat then return .sequence tag (← flatItems steps)
      else if marked then return .scalar tag "" true
      else failure
    | some (.scalar text plain) =>
      skip
      return .scalar tag text plain
    | some .flowSequenceStart => skip; return .sequence tag (← flowItems true steps)
    | some .flowMappingStart => skip; return .mapping tag (← flowEntries true steps)
    | some .sequenceStart =>
      if block then
        skip
        return .sequence tag (← blockItems steps)
      else if marked then return .scalar tag "" true
      else failure
    | some .mappingStart =>
      if block then
        skip
        return .mapping tag (← blockEntries steps)
      else if marked then return .scalar tag "" true
      else failure
    | _ => if marked then return .scalar tag "" true else failure

def nodeUnless (stops : List Token) (block flat : Bool) : Nat → Read Tree
  | 0 => failure
  | steps + 1 => do
    if ← nextIs stops then return .absent
    node block flat steps

def blockItems : Nat → Read (List Tree)
  | 0 => failure
  | steps + 1 => do
    if ← accept .item then
      let item ← nodeUnless [.item, .blockEnd] true false steps
      return item :: (← blockItems steps)
    if ← accept .blockEnd then return []
    failure

/-- The items of a sequence that is no deeper than the mapping around it. -/
def flatItems : Nat → Read (List Tree)
  | 0 => failure
  | steps + 1 => do
    if ← accept .item then
      let item ← nodeUnless [.item, .key, .value, .blockEnd] true false steps
      return item :: (← flatItems steps)
    return []

def blockEntries : Nat → Read (List (Tree × Tree))
  | 0 => failure
  | steps + 1 => do
    let stops := [Token.key, .value, .blockEnd]
    if ← accept .blockEnd then return []
    unless ← accept .key do failure
    let key ← nodeUnless stops true true steps
    let value ← if ← accept .value then nodeUnless stops true true steps else pure .absent
    return (key, value) :: (← blockEntries steps)

def flowItems (first : Bool) : Nat → Read (List Tree)
  | 0 => failure
  | steps + 1 => do
    if ← accept .flowSequenceEnd then return []
    unless first do
      unless ← accept .separator do failure
      if ← accept .flowSequenceEnd then return []
    let item ← if ← accept .key then flowPair steps else node false false steps
    return item :: (← flowItems false steps)

/-- A mapping of one entry among the items of a sequence, after its key mark. -/
def flowPair : Nat → Read Tree
  | 0 => failure
  | steps + 1 => do
    let stops := [Token.separator, .flowSequenceEnd]
    let key ←
      if ← nextIs (.value :: stops) then
        skip
        pure .absent
      else node false false steps
    let value ← if ← accept .value then nodeUnless stops false false steps else pure .absent
    return .mapping none [(key, value)]

def flowEntries (first : Bool) : Nat → Read (List (Tree × Tree))
  | 0 => failure
  | steps + 1 => do
    if ← accept .flowMappingEnd then return []
    unless first do
      unless ← accept .separator do failure
      if ← accept .flowMappingEnd then return []
    let stops := [Token.separator, .flowMappingEnd]
    if ← accept .key then
      let key ← nodeUnless (.value :: stops) false false steps
      let value ← if ← accept .value then nodeUnless stops false false steps else pure .absent
      return (key, value) :: (← flowEntries false steps)
    let key ← node false false steps
    return (key, .absent) :: (← flowEntries false steps)

end

def standardHandles : List (String × String) := [("!", "!"), ("!!", "tag:yaml.org,2002:")]

/-- The directives before a document: one version at most, and no handle twice. -/
def directives (version : Bool) : Nat → Read Unit
  | 0 => failure
  | steps + 1 => do
    match ← peek with
    | some (.version major minor) =>
      if version || major ≠ 1 || !(minor = 1 || minor = 2) then failure
      skip
      directives true steps
    | some (.tagDirective handle value) =>
      let reading ← get
      if (reading.handles.lookup handle).isSome then failure
      set { reading with handles := (handle, value) :: reading.handles }
      skip
      directives version steps
    | _ => return ()

def document (steps : Nat) : Read (Option Tree) := do
  if (← peek).isNone then return none
  let before ← get
  directives false steps
  let explicit ← accept .documentStart
  if !explicit && (← get).tokens.length ≠ before.tokens.length then failure
  modify fun reading => { reading with handles := reading.handles ++ standardHandles }
  let ended := match ← peek with
    | none | some .documentEnd | some .documentStart => true
    | some (.version ..) | some (.tagDirective ..) => true
    | _ => false
  let root ← if explicit && ended then pure .absent else node true false steps
  skipEnds steps
  if (← peek).isSome then failure
  return some root
where
  skipEnds : Nat → Read Unit
    | 0 => return ()
    | steps + 1 => do if ← accept .documentEnd then skipEnds steps

end Read

def Document.ofTokens? (tokens : List Token) : Option Document := do
  let (root, reading) ← (Read.document (6 * tokens.length + 8)).run ⟨tokens, [], [], [], 0, []⟩
  let anchored := reading.owners.filterMap fun (number, place) =>
    (reading.nodes.lookup place).map (number, ·)
  return ⟨root.getD .absent, anchored⟩

end StyleTokens.Yaml
