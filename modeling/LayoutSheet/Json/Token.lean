import LayoutSheet.Json.Numeral
import LayoutSheet.Json.Quoted

namespace LayoutSheet.Json

inductive Word where
  | null
  | true
  | false
  deriving DecidableEq, Repr

def Word.chars : Word → List Char
  | null => ['n', 'u', 'l', 'l']
  | true => ['t', 'r', 'u', 'e']
  | false => ['f', 'a', 'l', 's', 'e']

inductive Broken where
  | word (ended : Bool)
  | numeral (why : Numeral.Break)
  /-- The fault met when the string is read, and the one met when it is passed over. -/
  | string (reading skimming : Fault)
  | stray
  deriving DecidableEq, Repr

inductive Token where
  | openList
  | closeList
  | openObject
  | closeObject
  | comma
  | colon
  | word (w : Word)
  | numeral (n : Numeral)
  /-- A string that ends well; reading it may still meet a fault. -/
  | string (text : Except Fault String)
  | broken (b : Broken)

namespace Token

def isSpace (c : Char) : Bool := c == ' ' || c == '\n' || c == '\t' || c == '\x0d'

def mark? : Char → Option Token
  | '[' => some openList
  | ']' => some closeList
  | '\x7b' => some openObject
  | '\x7d' => some closeObject
  | ',' => some comma
  | ':' => some colon
  | _ => none

def word? : Char → Option Word
  | 'n' => some .null
  | 't' => some .true
  | 'f' => some .false
  | _ => none

/-- The text behind a word; on failure, whether the text ended within it. -/
def behind : List Char → List Char → Except Bool (List Char)
  | [], cs => .ok cs
  | _ :: _, [] => .error true
  | w :: ws, c :: cs => if c = w then behind ws cs else .error false

def string? (cs : List Char) : Except Broken (Token × List Char) :=
  match Quoted.skim cs with
  | .error skimming =>
    match Quoted.text cs with
    | .error reading => .error (.string reading skimming)
    | .ok _ => .error (.string skimming skimming)
  | .ok r => .ok (string ((Quoted.text cs).map fun p ↦ String.ofList p.1), r)

def next (c : Char) (cs : List Char) : Except Broken (Token × List Char) :=
  match mark? c with
  | some t => .ok (t, cs)
  | none =>
    match word? c with
    | some w =>
      match behind w.chars (c :: cs) with
      | .ok r => .ok (word w, r)
      | .error ended => .error (.word ended)
    | none =>
      if c = '"' then string? cs
      else if c = '-' ∨ c.isDigit then
        match Numeral.read (c :: cs) with
        | .ok (n, r) => .ok (numeral n, r)
        | .error why => .error (.numeral why)
      else .error .stray

theorem behind_length_le {ws cs r : List Char} (h : behind ws cs = .ok r) :
    r.length + ws.length = cs.length := by
  fun_induction behind ws cs with
  | case1 => cases h; simp
  | case2 => simp at h
  | case3 ws c cs ih => simp only [List.length_cons]; have := ih h; omega
  | case4 => simp at h

theorem next_length_le {c : Char} {cs r : List Char} {t : Token} (h : next c cs = .ok (t, r)) :
    r.length ≤ cs.length := by
  unfold next at h
  split at h
  · cases h
    exact Nat.le_refl _
  · split at h
    · next w _ =>
      split at h
      · next hb =>
        cases h
        have := behind_length_le hb
        simp only [List.length_cons] at this
        cases w <;> simp only [Word.chars, List.length_cons] at this <;> omega
      · simp at h
    · split at h
      · unfold string? at h
        split at h
        · split at h <;> simp at h
        · next hs =>
          cases h
          exact Nat.le_of_lt (Quoted.skim_length_lt hs)
      · split at h
        · split at h
          · next hn =>
            cases h
            have := Numeral.read_length_lt hn
            simp only [List.length_cons] at this
            omega
          · simp at h
        · simp at h

/-- The first place that starts no whole token ends the tokens as a broken one. -/
def scan (cs : List Char) : List Token :=
  match cs with
  | [] => []
  | c :: r =>
    if isSpace c then scan r
    else match _h : next c r with
      | .ok (t, s) => t :: scan s
      | .error b => [broken b]
termination_by cs.length
decreasing_by
  · simp
  · have := next_length_le ‹_›
    simp only [List.length_cons]
    omega

end Token

end LayoutSheet.Json
