import ChatChannels.Toml.Moment
import ChatChannels.Toml.Node
import ChatChannels.Toml.Number
import ChatChannels.Toml.Quoted

/-! The statements of a document: values under keys, headers of tables, and headers of repeated
tables. -/
namespace ChatChannels.Toml

open Reader

def isBareChar (c : Char) : Bool := c.isAlphanum || c = '-' || c = '_'

def simpleKey : Reader String := do
  return String.ofList (← basicString <|> literalString <|> takeSome isBareChar)

/-- The most parts a key may have, and the most lists and tables a value may be nested in. -/
def depthLimit : Nat := 79

def key : Reader (List String × String) := do
  let parts ← separated (do blanks; let k ← simpleKey; blanks; return k) (char '.')
  if depthLimit < parts.length then failure
  match parts.getLast? with
  | some last => return (parts.dropLast, last)
  | none => failure

def pair (value : Reader Data) : Reader ((List String × String) × Data) := do
  let k ← key
  let _ ← char '='
  blanks
  let d ← value
  return (k, d)

/-- A list in brackets, which may run over several lines and end with a comma. -/
def bracketList (value : Reader Data) : Reader Data := do
  let _ ← char '['
  let items ← attempt (separated (do gap; let d ← value; gap; return d) (char ','))
  if items.isSome then
    let _ ← attempt (char ',')
  gap
  let _ ← char ']'
  return .list (items.getD [])

def braceTable (value : Reader Data) : Reader Data := do
  let _ ← char '\x7b'
  let pairs ← attempt (separated (do let p ← pair value; blanks; return p) (char ','))
  blanks
  let _ ← char '\x7d'
  let entries ← (pairs.getD []).foldlM
    (fun es ((path, key), d) => (Entries.insert path key d .header es : Option Entries)) []
  return .table (Node.entriesData entries)

def boolean : Reader Data :=
  (do word "true".toList; return .bool true) <|> (do word "false".toList; return .bool false)

def scalar : Reader Data :=
  (do return .text (← quoted)) <|> moment <|> float <|> integer <|> boolean

/-- A value nested in at most `depth` lists and tables. -/
def value : (depth : Nat) → Reader Data
  | 0 => scalar
  | depth + 1 => scalar <|> bracketList (value depth) <|> braceTable (value depth)

inductive Statement where
  | pair (path : List String) (key : String) (d : Data)
  | table (path : List String) (key : String)
  | item (path : List String) (key : String)

def header : Reader Statement :=
  (do
    word ['[', '[']
    let (path, k) ← key
    word [']', ']']
    return .item path k) <|> do
    let _ ← char '['
    let (path, k) ← key
    let _ ← char ']'
    return .table path k

def statement : Reader Statement := do
  blanks
  let s ← header <|> (do
    let ((path, k), d) ← pair (value depthLimit)
    return .pair path k d)
  lineEnd
  return s

def statements : Reader (List Statement) := do
  let _ ← attempt (char '\uFEFF')
  let found ← many ((do return some (← statement)) <|> (do lineEnd; return none))
  atEnd
  return found.reduceOption

end ChatChannels.Toml
