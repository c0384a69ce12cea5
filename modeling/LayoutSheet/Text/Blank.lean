namespace LayoutSheet.Text

/-- The `White_Space` property. -/
def isBlank (c : Char) : Bool :=
  let n := c.toNat
  (9 ≤ n && n ≤ 13) || n == 0x20 || n == 0x85 || n == 0xA0 || n == 0x1680
    || (0x2000 ≤ n && n ≤ 0x200A) || n == 0x2028 || n == 0x2029 || n == 0x202F
    || n == 0x205F || n == 0x3000

def dropBlanks (cs : List Char) : List Char := cs.dropWhile isBlank

def dropBlanksEnd (cs : List Char) : List Char := (cs.reverse.dropWhile isBlank).reverse

def trimChars (cs : List Char) : List Char := dropBlanksEnd (dropBlanks cs)

def trim (s : String) : String := String.ofList (trimChars s.toList)

def trimEnd (s : String) : String := String.ofList (dropBlanksEnd s.toList)

def isAllBlank (s : String) : Bool := s.toList.all isBlank

def nonBlank? (s : String) : Option String := if isAllBlank s then none else some s

end LayoutSheet.Text
