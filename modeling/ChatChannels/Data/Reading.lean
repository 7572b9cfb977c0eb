import ChatChannels.Data

/-! Plain data read from JSON text. The reader takes a step per character at most, so the length of
the text bounds its recursion. -/
namespace ChatChannels.Data

def isJsonSpace (c : Char) : Bool := c = ' ' || c = '\n' || c = '\r' || c = '\t'

def skipJsonSpace (cs : List Char) : List Char := cs.dropWhile isJsonSpace

def hexDigit? (c : Char) : Option Nat :=
  if c.isDigit then some (c.toNat - '0'.toNat)
  else if 'a' ≤ c && c ≤ 'f' then some (c.toNat - 'a'.toNat + 10)
  else if 'A' ≤ c && c ≤ 'F' then some (c.toNat - 'A'.toNat + 10)
  else none

def ofHexDigits? (cs : List Char) : Option Nat :=
  cs.foldlM (fun n c => (hexDigit? c).map (16 * n + ·)) 0

def readUnit? (cs : List Char) : Option (Nat × List Char) :=
  if cs.length < 4 then none else (ofHexDigits? (cs.take 4)).map fun n => (n, cs.drop 4)

/-- Reads an escape after its backslash. A pair of surrogates makes one character, and a lone
surrogate makes none. -/
def readEscape? : List Char → Option (Char × List Char)
  | '"' :: rest => some ('"', rest)
  | '\\' :: rest => some ('\\', rest)
  | '/' :: rest => some ('/', rest)
  | 'b' :: rest => some ('\x08', rest)
  | 'f' :: rest => some ('\x0C', rest)
  | 'n' :: rest => some ('\n', rest)
  | 'r' :: rest => some ('\r', rest)
  | 't' :: rest => some ('\t', rest)
  | 'u' :: rest => do
    let (high, rest) ← readUnit? rest
    if high < 0xD800 || 0xE000 ≤ high then return (Char.ofNat high, rest)
    if 0xDC00 ≤ high then none
    match rest with
    | '\\' :: 'u' :: rest =>
      let (low, rest) ← readUnit? rest
      if low < 0xDC00 || 0xE000 ≤ low then none
      return (Char.ofNat (0x10000 + (high - 0xD800) * 0x400 + (low - 0xDC00)), rest)
    | _ => none
  | _ => none

def readChars? (fuel : Nat) (cs : List Char) : Option (List Char × List Char) :=
  match fuel, cs with
  | 0, _ | _, [] => none
  | _ + 1, '"' :: rest => some ([], rest)
  | fuel + 1, '\\' :: rest => do
    let (c, rest) ← readEscape? rest
    let (others, rest) ← readChars? fuel rest
    return (c :: others, rest)
  | fuel + 1, c :: rest => do
    if c.toNat < 0x20 then none
    let (others, rest) ← readChars? fuel rest
    return (c :: others, rest)

/-- Whether a numeral has a digit and no superfluous leading zero. -/
def isPlainNumeral (digits : List Char) : Bool :=
  digits = ['0'] || (!digits.isEmpty && digits.head? ≠ some '0')

def readNumber? (cs : List Char) : Option (Data × List Char) := do
  let (sign, unsigned) := match cs with
    | '-' :: rest => (['-'], rest)
    | _ => ([], cs)
  let digits := unsigned.takeWhile Char.isDigit
  guard (isPlainNumeral digits)
  let afterDigits := unsigned.dropWhile Char.isDigit
  let (fraction, afterFraction) := match afterDigits with
    | '.' :: rest => ('.' :: rest.takeWhile Char.isDigit, rest.dropWhile Char.isDigit)
    | _ => ([], afterDigits)
  guard (fraction ≠ ['.'])
  let (exponent, rest) ← match afterFraction with
    | e :: rest =>
      if e = 'e' || e = 'E' then do
        let (mark, rest) := match rest with
          | '+' :: rest => (['+'], rest)
          | '-' :: rest => (['-'], rest)
          | _ => ([], rest)
        guard (rest.head?.any Char.isDigit)
        pure (e :: mark ++ rest.takeWhile Char.isDigit, rest.dropWhile Char.isDigit)
      else pure ([], afterFraction)
    | [] => pure ([], afterFraction)
  let n := digits.foldl (fun n c => 10 * n + (c.toNat - '0'.toNat)) 0
  if fraction.isEmpty && exponent.isEmpty && !(sign.isEmpty == false && n = 0) then
    return (.int (if sign.isEmpty then n else -n), rest)
  else return (.real (String.ofList (sign ++ digits ++ fraction ++ exponent)), rest)

mutual

def readValue? (fuel : Nat) (cs : List Char) : Option (Data × List Char) :=
  match fuel with
  | 0 => none
  | fuel + 1 =>
    match skipJsonSpace cs with
    | 'n' :: 'u' :: 'l' :: 'l' :: rest => some (.null, rest)
    | 't' :: 'r' :: 'u' :: 'e' :: rest => some (.bool true, rest)
    | 'f' :: 'a' :: 'l' :: 's' :: 'e' :: rest => some (.bool false, rest)
    | '"' :: rest => (readChars? (rest.length + 1) rest).map fun (s, rest) =>
      (.text (String.ofList s), rest)
    | '[' :: rest =>
      match skipJsonSpace rest with
      | ']' :: rest => some (.list [], rest)
      | rest => (readItems? fuel rest).map fun (items, rest) => (.list items, rest)
    | '\x7b' :: rest =>
      match skipJsonSpace rest with
      | '\x7d' :: rest => some (.table [], rest)
      | rest => (readEntries? fuel rest).map fun (entries, rest) => (.table entries, rest)
    | rest => readNumber? rest

def readItems? (fuel : Nat) (cs : List Char) : Option (List Data × List Char) :=
  match fuel with
  | 0 => none
  | fuel + 1 => do
    let (d, rest) ← readValue? fuel cs
    match skipJsonSpace rest with
    | ',' :: rest =>
      let (others, rest) ← readItems? fuel rest
      return (d :: others, rest)
    | ']' :: rest => return ([d], rest)
    | _ => none

/-- Of two entries with one key the later one counts. -/
def readEntries? (fuel : Nat) (cs : List Char) : Option (List (String × Data) × List Char) :=
  match fuel with
  | 0 => none
  | fuel + 1 => do
    match skipJsonSpace cs with
    | '"' :: rest =>
      let (key, rest) ← readChars? (rest.length + 1) rest
      let key := String.ofList key
      match skipJsonSpace rest with
      | ':' :: rest =>
        let (d, rest) ← readValue? fuel rest
        match skipJsonSpace rest with
        | ',' :: rest =>
          let (others, rest) ← readEntries? fuel rest
          return (if others.any (·.1 = key) then others else (key, d) :: others, rest)
        | '\x7d' :: rest => return ([(key, d)], rest)
        | _ => none
      | _ => none
    | _ => none

end

def ofJson? (text : String) : Option Data := do
  let cs := text.toList
  let (d, rest) ← readValue? (2 * cs.length + 2) cs
  guard (skipJsonSpace rest).isEmpty
  return d

end ChatChannels.Data
