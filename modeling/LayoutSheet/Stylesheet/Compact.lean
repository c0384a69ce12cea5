import LayoutSheet.Stylesheet.Piece

namespace LayoutSheet.Stylesheet

open Text

namespace Piece

def isBlank : Piece → Bool
  | plain c => Text.isBlank c
  | _ => false

def isPunctuation : Piece → Bool
  | plain c => c == '\x7b' || c == '\x7d' || c == ';' || c == ','
  | _ => false

/-- A comment separates like a blank. -/
def uncomment : Piece → Piece
  | comment _ => plain ' '
  | p => p

def squeeze : List Piece → List Piece
  | [] => []
  | p :: ps =>
    let rest := squeeze ps
    if p.isBlank then
      if rest.head? = some (plain ' ') then rest else plain ' ' :: rest
    else p :: rest

def tighten : List Piece → List Piece
  | [] => []
  | p :: ps =>
    let rest := tighten ps
    if p.isPunctuation then p :: rest.dropWhile isBlank
    else if p.isBlank && rest.head?.any isPunctuation then rest
    else p :: rest

def dropLastSemicolon : List Piece → List Piece
  | [] => []
  | p :: ps =>
    let rest := dropLastSemicolon ps
    if p = plain ';' && ps.head? = some (plain '\x7d') then rest else p :: rest

def strip (ps : List Piece) : List Piece :=
  ((ps.dropWhile isBlank).reverse.dropWhile isBlank).reverse

def compact (ps : List Piece) : List Piece :=
  strip (dropLastSemicolon (tighten (squeeze (ps.map uncomment))))

end Piece

/-- Comments, redundant blanks and the semicolon before a closing brace go; quoted strings and
`url(...)` stay as they are. -/
def compactChars (cs : List Char) : List Char := Piece.write (Piece.compact (Piece.split cs))

def compact (css : String) : String := String.ofList (compactChars css.toList)

end LayoutSheet.Stylesheet
