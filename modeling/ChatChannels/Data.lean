/-! Plain data as a document or a message carries it, and its compact JSON text. -/
namespace ChatChannels

/-- A tree of plain data. A number written with a fraction or an exponent is no integer and keeps
its written form. -/
inductive Data where
  | null
  | bool (b : Bool)
  | int (n : Int)
  | real (written : String)
  | text (s : String)
  | list (items : List Data)
  | table (entries : List (String × Data))
deriving Inhabited

namespace Data

def nat (n : Nat) : Data := .int n

/-- An absent value is null. -/
def opt {α : Type} (encode : α → Data) : Option α → Data
  | none => .null
  | some a => encode a

/-- The value under a key; only a table has any. -/
def get? (d : Data) (key : String) : Option Data :=
  match d with
  | .table entries => (entries.find? fun e => e.1 = key).map Prod.snd
  | _ => none

private def hexLower (n : Nat) : Char :=
  if n < 10 then Char.ofNat ('0'.toNat + n) else Char.ofNat ('a'.toNat + (n - 10))

def escapeChar (c : Char) : List Char :=
  match c with
  | '"' => ['\\', '"']
  | '\\' => ['\\', '\\']
  | '\n' => ['\\', 'n']
  | '\r' => ['\\', 'r']
  | '\t' => ['\\', 't']
  | '\x08' => ['\\', 'b']
  | '\x0C' => ['\\', 'f']
  | c =>
    if c.toNat < 0x20 then
      ['\\', 'u', '0', '0', hexLower (c.toNat / 16), hexLower (c.toNat % 16)]
    else [c]

def quote (s : String) : String :=
  "\"" ++ String.ofList (s.toList.flatMap escapeChar) ++ "\""

mutual

def json : Data → String
  | .null => "null"
  | .bool b => if b then "true" else "false"
  | .int n => toString n
  | .real written => written
  | .text s => quote s
  | .list items => "[" ++ ",".intercalate (jsonItems items) ++ "]"
  | .table entries => "\x7b" ++ ",".intercalate (jsonEntries entries) ++ "\x7d"

def jsonItems : List Data → List String
  | [] => []
  | d :: rest => d.json :: jsonItems rest

def jsonEntries : List (String × Data) → List String
  | [] => []
  | (k, d) :: rest => (quote k ++ ":" ++ d.json) :: jsonEntries rest

end

def natBelow? (bound : Nat) : Data → Option Nat
  | .int (.ofNat n) => if n < bound then some n else none
  | _ => none

def bool? : Data → Option Bool
  | .bool b => some b
  | _ => none

def text? : Data → Option String
  | .text s => some s
  | _ => none

def byte? (d : Data) : Option UInt8 := (d.natBelow? UInt8.size).map UInt8.ofNat
def word16? (d : Data) : Option UInt16 := (d.natBelow? UInt16.size).map UInt16.ofNat
def word32? (d : Data) : Option UInt32 := (d.natBelow? UInt32.size).map UInt32.ofNat
def word64? (d : Data) : Option UInt64 := (d.natBelow? UInt64.size).map UInt64.ofNat

end Data
end ChatChannels
