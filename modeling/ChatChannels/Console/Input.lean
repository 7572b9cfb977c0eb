import ChatChannels.Console

/-! Whole inputs to a console. An input is cut into lines at line breaks, and a line that is not
UTF-8 ends the session. -/
namespace ChatChannels

namespace Text

def lineFeed : UInt8 := 10
def carriageReturn : UInt8 := 13

/-- Drops a carriage return that stands right before the line break. -/
def withoutReturn (line : List UInt8) : List UInt8 :=
  if line.getLast? = some carriageReturn then line.dropLast else line

/-- The lines of an input, where `pending` has been read of the first one. What follows the last
line break is a line unless it is empty. -/
def linesFrom (pending : List UInt8) : List UInt8 → List (List UInt8)
  | [] => if pending.isEmpty then [] else [pending.reverse]
  | b :: rest =>
    if b = lineFeed then withoutReturn pending.reverse :: linesFrom [] rest
    else linesFrom (b :: pending) rest

def lines (bytes : List UInt8) : List (List UInt8) := linesFrom [] bytes

/-- Cuts behind the last line break, where a line may still be incomplete. -/
def cutAfterLastBreak (bytes : List UInt8) : List UInt8 × List UInt8 :=
  let begun := (bytes.reverse.takeWhile (· ≠ lineFeed)).reverse
  (bytes.take (bytes.length - begun.length), begun)

def decodeUtf8 (bytes : List UInt8) : Option String := String.fromUTF8? ⟨bytes.toArray⟩

end Text

inductive InputEnd where
  | finished
  | invalidText
deriving DecidableEq

namespace Console

/-- Enters lines in order, up to one that is not UTF-8. -/
def enterAll (c : Console) : List (List UInt8) → Reply Console InputEnd
  | [] => ⟨c, .finished, []⟩
  | line :: rest =>
    match Text.decodeUtf8 line with
    | none => ⟨c, .invalidText, []⟩
    | some text =>
      let entered := c.enter text
      let others := enterAll entered.state rest
      ⟨others.state, others.answer, entered.events ++ others.events⟩

def run (c : Console) (input : List UInt8) : Reply Console InputEnd :=
  c.enterAll (Text.lines input)

end Console
end ChatChannels
