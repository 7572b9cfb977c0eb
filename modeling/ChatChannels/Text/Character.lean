/-! Classes of characters: white space, control characters and printable ASCII. -/
namespace ChatChannels.Text

/-- White space in the sense of the Unicode property `White_Space`. -/
def isBlank (c : Char) : Bool :=
  let n := c.toNat
  (0x9 ≤ n && n ≤ 0xD) || n == 0x20 || n == 0x85 || n == 0xA0 || n == 0x1680 ||
    (0x2000 ≤ n && n ≤ 0x200A) || n == 0x2028 || n == 0x2029 || n == 0x202F || n == 0x205F ||
    n == 0x3000

/-- The control characters are the two blocks of general category `Cc`. -/
def isControl (c : Char) : Bool :=
  let n := c.toNat
  n < 0x20 || (0x7F ≤ n && n ≤ 0x9F)

def isPrintableAscii (c : Char) : Bool :=
  let n := c.toNat
  0x20 ≤ n && n < 0x7F

/-- The public language is written in printable ASCII. -/
def isPublicLanguage (s : String) : Bool := s.toList.all isPrintableAscii

end ChatChannels.Text
