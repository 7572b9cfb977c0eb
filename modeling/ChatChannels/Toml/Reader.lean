/-! Readers of text. A reader takes its part off the front of the text or fails, and a choice whose
first reader fails starts again from the same place. -/
namespace ChatChannels.Toml

abbrev Reader (α : Type) := StateT (List Char) Option α

namespace Reader

def charOf (isIn : Char → Bool) : Reader Char := fun cs =>
  match cs with
  | [] => none
  | c :: rest => if isIn c then some (c, rest) else none

def char (c : Char) : Reader Char := charOf (· = c)

def takeAll (isIn : Char → Bool) : Reader (List Char) := fun cs => some (cs.span isIn)

def takeSome (isIn : Char → Bool) : Reader (List Char) := do
  let c ← charOf isIn
  return c :: (← takeAll isIn)

def word (w : List Char) : Reader Unit := fun cs =>
  if cs.take w.length = w then some ((), cs.drop w.length) else none

def atEnd : Reader Unit := fun cs => if cs.isEmpty then some ((), cs) else none

/-- What a reader takes, as written, along with what it reads. -/
def written {α : Type} (p : Reader α) : Reader (List Char × α) := fun cs =>
  (p cs).map fun (a, rest) => ((cs.take (cs.length - rest.length), a), rest)

def attempt {α : Type} (p : Reader α) : Reader (Option α) := fun cs =>
  match p cs with
  | some (a, rest) => some (some a, rest)
  | none => some (none, cs)

/-- Reads on as long as the reader succeeds and takes anything. -/
def repeatFrom {α : Type} (p : Reader α) (cs : List Char) : List α × List Char :=
  match p cs with
  | none => ([], cs)
  | some (a, rest) =>
    if rest.length < cs.length then
      let (others, rest) := repeatFrom p rest
      (a :: others, rest)
    else ([], cs)
termination_by cs.length

def many {α : Type} (p : Reader α) : Reader (List α) := fun cs => some (repeatFrom p cs)

def separated {α β : Type} (p : Reader α) (separator : Reader β) : Reader (List α) := do
  let a ← p
  return a :: (← many (do let _ ← separator; p))

end Reader

open Reader

def isBlank (c : Char) : Bool := c = ' ' || c = '\t'

/-- Comments hold no control characters but the tab. -/
def isCommentChar (c : Char) : Bool := c = '\t' || (0x20 ≤ c.toNat && c.toNat ≠ 0x7F)

def blanks : Reader Unit := do let _ ← takeAll isBlank

def lineBreak : Reader Unit := word ['\n'] <|> word ['\r', '\n']

def comment : Reader Unit := do
  let _ ← char '#'
  let _ ← takeAll isCommentChar

/-- The end of a line: blanks, perhaps a comment, and then a line break or the end of the text. -/
def lineEnd : Reader Unit := do
  blanks
  let _ ← attempt comment
  lineBreak <|> atEnd

/-- Blanks, comments and line breaks, as they may stand in a list. -/
def gap : Reader Unit := do
  let _ ← many ((do let _ ← takeSome isBlank) <|> lineBreak <|> comment)

end ChatChannels.Toml
