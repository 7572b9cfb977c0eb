import ChatChannels.Data.Reading
import ChatChannels.Text.Numeral
import ChatChannels.Toml.Reader

/-! Numbers: integers in four bases, and floats. Between two digits an underscore may stand. -/
namespace ChatChannels.Toml

open Reader

def isHexDigit (c : Char) : Bool := (Data.hexDigit? c).isSome
def isOctalDigit (c : Char) : Bool := '0' ≤ c && c ≤ '7'
def isBinaryDigit (c : Char) : Bool := c = '0' || c = '1'

/-- Digits of a class, with single underscores between them. -/
def digitRun (isDigit : Char → Bool) : Reader (List Char) := do
  let c ← charOf isDigit
  let others ← many (charOf isDigit <|> (do let _ ← char '_'; charOf isDigit))
  return c :: others

def sign : Reader Bool := do
  return (← attempt (char '+' <|> char '-')) = some '-'

/-- Decimal digits without a leading zero, unless zero is the only one. -/
def wholeDigits : Reader (List Char) := do
  match ← charOf Char.isDigit with
  | '0' => return ['0']
  | c =>
    let others ← many (charOf Char.isDigit <|> (do let _ ← char '_'; charOf Char.isDigit))
    return c :: others

/-- Integers have 64 bits with sign. -/
def inRange (n : Int) : Reader Data :=
  if Int64.minValue.toInt ≤ n && n ≤ Int64.maxValue.toInt then return .int n else failure

def ofBase (base : Nat) (digits : List Char) : Nat :=
  digits.foldl (fun n c => base * n + (Data.hexDigit? c).getD 0) 0

def markedInteger (mark : Char) (base : Nat) (isDigit : Char → Bool) : Reader Data := do
  word ['0', mark]
  inRange (ofBase base (← digitRun isDigit))

def decimalInteger : Reader Data := do
  let negative ← sign
  let n := Text.ofDigits (← wholeDigits)
  inRange (if negative then -n else n)

def integer : Reader Data :=
  markedInteger 'x' 16 isHexDigit <|> markedInteger 'o' 8 isOctalDigit <|>
    markedInteger 'b' 2 isBinaryDigit <|> decimalInteger

def fraction : Reader (List Char) := do
  let _ ← char '.'
  digitRun Char.isDigit

def exponent : Reader Int := do
  let _ ← char 'e' <|> char 'E'
  let negative ← sign
  let n := Text.ofDigits (← digitRun Char.isDigit)
  return if negative then -n else n

/-- Whether the decimal `digits · 10 ^ scale` lies beyond all finite floats with 64 bits: it is at
least halfway from the greatest of them to the next power of two. -/
def overflows (digits : List Char) (scale : Int) : Bool :=
  let significant := digits.dropWhile (· = '0')
  let magnitude := significant.length + scale
  if significant.isEmpty || magnitude < 300 then false
  else if 320 < magnitude then true
  else
    let n := Text.ofDigits significant
    let bound := (Nat.pow 2 54 - 1) * Nat.pow 2 970
    if 0 ≤ scale then bound ≤ n * Nat.pow 10 scale.toNat
    else bound * Nat.pow 10 (-scale).toNat ≤ n

/-- A float with a fraction, an exponent or both; a positive one must not overflow. -/
def finiteFloat : Reader Unit := do
  let negative ← sign
  let whole ← wholeDigits
  let decimals ← attempt fraction
  let scale ← attempt exponent
  if decimals.isNone && scale.isNone then failure
  let decimals := decimals.getD []
  if !negative && overflows (whole ++ decimals) (scale.getD 0 - decimals.length) then failure

def specialFloat : Reader Unit := do
  let _ ← sign
  word "inf".toList <|> word "nan".toList

def float : Reader Data := do
  let (text, _) ← written (finiteFloat <|> specialFloat)
  return .real (String.ofList text)

end ChatChannels.Toml
