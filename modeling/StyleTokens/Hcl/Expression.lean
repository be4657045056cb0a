import StyleTokens.Hcl.Node
import StyleTokens.Json.Writer

/-! Expressions of HCL, as far as a value map can use them: literals, and collections of
expressions. Nothing is computed. An expression that asks for it is kept as its parts in their
order, and means its own text, in one fixed layout. -/

set_option autoImplicit false

namespace StyleTokens.Hcl

inductive Expression where
  | null
  | boolean (value : Bool)
  | number (value : Number)
  | string (value : String)
  | template (text : String)
  /-- Lines between two marks, and how they are written with their marks. -/
  | lines (text written : String)
  | array (items : List Expression)
  | object (entries : List (Expression × Expression))
  | parenthesis (inner : Expression)
  | variable (name : String)
  | symbol (text : String)
  | computation (parts : List Expression)

def truth (value : Bool) : String := if value then "true" else "false"

-- Doubles the marks of parts to compute, so that they stand for themselves. Two marks in a row are
-- left as they are.
def doubleMarks : List Char → List Char
  | '$' :: '$' :: rest => '$' :: '$' :: doubleMarks rest
  | '%' :: '%' :: rest => '%' :: '%' :: doubleMarks rest
  | '$' :: '\x7b' :: rest => '$' :: '$' :: '\x7b' :: doubleMarks rest
  | '%' :: '\x7b' :: rest => '%' :: '%' :: '\x7b' :: doubleMarks rest
  | c :: rest => c :: doubleMarks rest
  | [] => []

def encode (text : List Char) : String := String.join ((doubleMarks text).map Json.escape)

def quote (text : String) : String := "\"" ++ encode text.toList ++ "\""

def interpolated (text : String) : String := "$\x7b" ++ text ++ "\x7d"

/-! ## The text of an expression

The text is on one line. Whether an item is the next one of a collection is kept as a single flag
for the whole text, which an empty collection leaves raised: no comma follows it. -/

/-- What stands before an item, which is `opening` if the flag says that it is the first. -/
def separation (opening : String) : StateM Bool String :=
  modifyGet fun first => (if first then opening else ", ", false)

mutual

def Expression.write : Expression → StateM Bool String
  | .null => return "null"
  | .boolean value => return truth value
  | .number value => return value.text numberLayout
  | .string value => return quote value
  | .template text => return "\"" ++ text ++ "\""
  | .lines _ written => return written
  | .array items => do
    set true
    return "[" ++ (← writeItems items) ++ "]"
  | .object [] => do
    set true
    return "\x7b\x7d"
  | .object (entry :: entries) => do
    set true
    return "\x7b" ++ (← writeEntries (entry :: entries)) ++ " \x7d"
  | .parenthesis inner => return "(" ++ (← inner.write) ++ ")"
  | .variable name => return name
  | .symbol text => return text
  | .computation parts => writeParts parts

def writeItems : List Expression → StateM Bool String
  | [] => return ""
  | item :: items => do
    let before ← separation ""
    let text ← item.write
    return before ++ text ++ (← writeItems items)

def writeEntries : List (Expression × Expression) → StateM Bool String
  | [] => return ""
  | (key, value) :: entries => do
    let before ← separation " "
    let key ← key.write
    let text ← value.write
    return before ++ key ++ " = " ++ text ++ (← writeEntries entries)

def writeParts : List Expression → StateM Bool String
  | [] => return ""
  | part :: parts => do
    let text ← part.write
    return text ++ (← writeParts parts)

end

def Expression.text (expression : Expression) : String := (expression.write true).1

def Expression.computedName? : Expression → Option String
  | .string value | .template value | .lines value _ => some value
  | .parenthesis inner => inner.computedName?
  | .variable name => some (interpolated name)
  | .computation parts => some (interpolated (Expression.computation parts).text)
  | _ => none

/-- The name of an entry. A variable is not looked up there. -/
def Expression.name? : Expression → Option String
  | .variable name => some name
  | expression => expression.computedName?

mutual

def Expression.toNode? : Expression → Option Node
  | .null => some .null
  | .boolean value => some (.boolean value)
  | .number value => some (.number (settled value))
  | .string value | .template value | .lines value _ => some (.string value)
  | .array items => .array <$> nodes? items
  | .object entries => .object <$> entryNodes? entries
  | .parenthesis inner => inner.toNode?
  | .variable name | .symbol name => some (.string (interpolated name))
  | .computation parts => some (.string (interpolated (Expression.computation parts).text))

def nodes? : List Expression → Option (List Node)
  | [] => some []
  | item :: items => return (← item.toNode?) :: (← nodes? items)

def entryNodes? : List (Expression × Expression) → Option (List (String × Node))
  | [] => some []
  | (key, value) :: entries =>
    return (← key.name?, ← value.toNode?) :: (← entryNodes? entries)

end

example : (Expression.array [.array [], .array [], .null]).text = "[[][]null]" := by decide
example : (Expression.array [.null, .null]).text = "[null, null]" := by decide

end StyleTokens.Hcl
