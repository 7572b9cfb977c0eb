import ChatChannels.Text.Character

/-! Text seen as tokens, the longest runs of characters that are not white space. -/
namespace ChatChannels.Text

def trimStart (cs : List Char) : List Char := cs.dropWhile isBlank

def trim (cs : List Char) : List Char := (trimStart (trimStart cs).reverse).reverse

/-- Cuts at the first white space, which is dropped; without any, the second part is empty. -/
def cutAtBlank : List Char → List Char × List Char
  | [] => ([], [])
  | c :: rest =>
    if isBlank c then ([], rest)
    else (c :: (cutAtBlank rest).1, (cutAtBlank rest).2)

/-- The tokens of a text in order: a character that is not white space begins a token of its own
where white space or the end follows, and else joins the token after it. -/
def tokens : List Char → List (List Char)
  | [] => []
  | c :: rest =>
    if isBlank c then tokens rest
    else if rest.head?.all isBlank then [c] :: tokens rest
    else match tokens rest with
      | [] => [[c]]
      | token :: others => (c :: token) :: others

end ChatChannels.Text
