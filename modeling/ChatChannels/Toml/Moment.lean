import ChatChannels.Data
import ChatChannels.Text.Numeral
import ChatChannels.Toml.Reader

/-! Dates and times of day, together or alone, and together also with an offset. -/
namespace ChatChannels.Toml

open Reader

def fixedNumber (digits least greatest : Nat) : Reader Nat := fun cs =>
  let written := cs.take digits
  let n := Text.ofDigits written
  if written.length = digits && written.all Char.isDigit && least ≤ n && n ≤ greatest then
    some (n, cs.drop digits)
  else none

def isLeapYear (year : Nat) : Bool := year % 4 = 0 && (year % 100 ≠ 0 || year % 400 = 0)

def daysInMonth (year month : Nat) : Nat :=
  match month with
  | 2 => if isLeapYear year then 29 else 28
  | 4 | 6 | 9 | 11 => 30
  | _ => 31

def date : Reader Unit := do
  let year ← fixedNumber 4 0 9999
  let _ ← char '-'
  let month ← fixedNumber 2 1 12
  let _ ← char '-'
  let _ ← fixedNumber 2 1 (daysInMonth year month)

/-- A time of day to the second, with room for a leap second and with any fraction. -/
def timeOfDay : Reader Unit := do
  let _ ← fixedNumber 2 0 23
  let _ ← char ':'
  let _ ← fixedNumber 2 0 59
  let _ ← char ':'
  let _ ← fixedNumber 2 0 60
  let _ ← attempt (do
    let _ ← char '.'
    takeSome Char.isDigit)

def offset : Reader Unit :=
  (do let _ ← charOf fun c => c = 'Z' || c = 'z') <|> do
    let _ ← charOf fun c => c = '+' || c = '-'
    let _ ← fixedNumber 2 0 23
    let _ ← char ':'
    let _ ← fixedNumber 2 0 59

def dateAndTime : Reader Unit := do
  date
  let _ ← attempt (do
    let _ ← charOf fun c => c = 'T' || c = 't' || c = ' '
    timeOfDay
    attempt offset)

/-- A moment reads as a table whose only key is none of any section. -/
def moment : Reader Data := do
  let (text, _) ← written (dateAndTime <|> timeOfDay)
  return .table [("$moment", .text (String.ofList text))]

end ChatChannels.Toml
