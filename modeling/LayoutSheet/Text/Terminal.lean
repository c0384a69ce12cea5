namespace LayoutSheet.Text.Terminal

inductive Mode where
  | plain
  | escape
  /-- In a sequence of that character, marks and a letter. -/
  | escapeMarks
  /-- In a sequence of numbers and marks up to a letter. -/
  | control
  /-- In the head of a sequence that carries text. -/
  | device
  | deviceNumbers
  | deviceMarks
  /-- In a text that is not shown. -/
  | hidden
  /-- In a text for the title of a window, up to a bell. -/
  | title
  deriving DecidableEq, Repr

namespace Mode

/-- Whether a control of layout ends a sequence and is written. -/
def yields : Mode → Bool
  | escape => true
  | escapeMarks => true
  | control => true
  | _ => false

def next (c : Char) : Mode → Mode
  | escape =>
    if c < '0' then escapeMarks
    else match c with
      | '[' => control
      | ']' => title
      | 'P' => device
      | 'X' => hidden
      | '^' => hidden
      | '_' => hidden
      | _ => plain
  | escapeMarks => if c < '0' then escapeMarks else plain
  | control => if c < '@' then control else plain
  | device => if c < '0' then deviceMarks else if c < '@' then deviceNumbers else hidden
  | deviceNumbers => if c < '0' then deviceMarks else if c < '<' then deviceNumbers else hidden
  | deviceMarks => if c < '0' then deviceMarks else hidden
  | m => m

end Mode

def isLayout (c : Char) : Bool := c = '\t' || c = '\n' || c = '\x0c' || c = '\r'

/-- The byte that ends a hidden text, also in the midst of a character. -/
def stringEnd : UInt8 := 0x9c

def step (m : Mode) (c : Char) : Mode × Bool :=
  if c = '\x1b' then (.escape, false)
  else if c = '\x18' || c = '\x1a' then (.plain, false)
  else match m with
    | .plain => (.plain, isLayout c || ' ' ≤ c && c ≠ '\x7f')
    | .title => (if c = '\x07' then .plain else .title, false)
    | .hidden => (if (String.utf8EncodeChar c).contains stringEnd then .plain else .hidden, false)
    | m =>
      if isLayout c && m.yields then (.plain, true)
      else if ' ' ≤ c && c < '\x7f' then (m.next c, false)
      else (m, false)

def written (m : Mode) : List Char → List Char
  | [] => []
  | c :: r =>
    let (m, shown) := step m c
    if shown then c :: written m r else written m r

theorem step_escape (m : Mode) : step m '\x1b' = (.escape, false) := by simp [step]

theorem escape_notMem_written (m : Mode) (cs : List Char) : '\x1b' ∉ written m cs := by
  induction cs generalizing m with
  | nil => simp [written]
  | cons c r ih =>
    by_cases h : c = '\x1b'
    · subst h
      simpa [written, step_escape] using ih .escape
    · rw [written]
      dsimp only
      split
      · simpa [Ne.symm h] using ih _
      · exact ih _

/-- Without a terminal sequences are left out, and so are controls other than those of layout. A
sequence that does not end takes the text behind it along, up to the next control of layout where it
may hold none. -/
def strip (s : String) : String := .ofList (written .plain s.toList)

/-- A text in a color of its own; behind it nothing is colored. -/
def colored (s : String) : String := "\x1b[33m" ++ s ++ "\x1b[0m"

end LayoutSheet.Text.Terminal
