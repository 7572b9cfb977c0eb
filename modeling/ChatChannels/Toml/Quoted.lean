import ChatChannels.Data.Reading
import ChatChannels.Toml.Reader

/-! Quoted strings: basic ones with escapes and literal ones without, each on one line or, between
triple quotes, on several. -/
namespace ChatChannels.Toml

open Reader

/-- Characters that stand for themselves in strings; `quote` and the backslash are told apart by
the callers. -/
def isTextChar (c : Char) : Bool := c = '\t' || (0x20 ≤ c.toNat && c.toNat ≠ 0x7F)

def isBasicChar (c : Char) : Bool := isTextChar c && c ≠ '"' && c ≠ '\\'

def isLiteralChar (c : Char) : Bool := isTextChar c && c ≠ '\''

def codePoint (digits : Nat) : Reader Char := fun cs =>
  if cs.length < digits then none
  else (Data.ofHexDigits? (cs.take digits)).bind fun n =>
    if n.isValidChar then some (Char.ofNat n, cs.drop digits) else none

def escape : Reader Char := do
  let _ ← char '\\'
  match ← charOf fun _ => true with
  | 'b' => return '\x08'
  | 't' => return '\t'
  | 'n' => return '\n'
  | 'f' => return '\x0C'
  | 'r' => return '\r'
  | '"' => return '"'
  | '\\' => return '\\'
  | 'u' => codePoint 4
  | 'U' => codePoint 8
  | _ => failure

def basicString : Reader (List Char) := do
  let _ ← char '"'
  let cs ← many (charOf isBasicChar <|> escape)
  let _ ← char '"'
  return cs

def literalString : Reader (List Char) := do
  let _ ← char '\''
  let cs ← takeAll isLiteralChar
  let _ ← char '\''
  return cs

/-- A backslash at the end of a line, which joins the line to the next text. -/
def joinedLine : Reader Unit := do
  let _ ← char '\\'
  blanks
  lineBreak
  let _ ← many ((do let _ ← takeSome isBlank) <|> lineBreak)

/-- One or two quotes that do not close the string: no third follows. -/
def innerQuotes (quote : Char) : Reader (List Char) := fun cs =>
  let run := cs.takeWhile (· = quote)
  if run.length = 1 || run.length = 2 then some (run, cs.drop run.length) else none

/-- The closing quotes, before which one or two more may still belong to the text. -/
def closingQuotes (quote : Char) : Reader (List Char) := fun cs =>
  let run := (cs.takeWhile (· = quote)).take 5
  if run.length < 3 then none else some (run.drop 3, cs.drop run.length)

def newline : Reader (List Char) := do
  lineBreak
  return ['\n']

/-- A string between triple quotes: a line break right after the opening is dropped. -/
def longString (quote : Char) (part : Reader (List Char)) : Reader (List Char) := do
  word [quote, quote, quote]
  let _ ← attempt lineBreak
  let parts ← many (part <|> newline <|> innerQuotes quote)
  return parts.flatten ++ (← closingQuotes quote)

def longBasicString : Reader (List Char) :=
  longString '"' (takeSome isBasicChar <|> (do joinedLine; return []) <|> (do return [← escape]))

def longLiteralString : Reader (List Char) := longString '\'' (takeSome isLiteralChar)

def quoted : Reader String := do
  let cs ← longBasicString <|> basicString <|> longLiteralString <|> literalString
  return String.ofList cs

end ChatChannels.Toml
