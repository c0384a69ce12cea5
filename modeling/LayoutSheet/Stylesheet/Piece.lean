import LayoutSheet.Text.Blank

namespace LayoutSheet.Stylesheet

inductive Piece where
  | comment (text : List Char)
  | verbatim (text : List Char)
  | plain (c : Char)
  deriving DecidableEq, Repr

namespace Piece

def chars : Piece → List Char
  | comment t => t
  | verbatim t => t
  | plain c => [c]

def write (ps : List Piece) : List Char := ps.flatMap chars

def throughCommentEnd : List Char → Option (List Char × List Char)
  | [] => none
  | '*' :: '/' :: r => some (['*', '/'], r)
  | c :: r => (throughCommentEnd r).map fun (a, b) ↦ (c :: a, b)

/-- The text up to and with the next `quote` that no backslash escapes, and what follows it. -/
def throughQuote (quote : Char) : List Char → Option (List Char × List Char)
  | [] => none
  | c :: r =>
    if c = quote then some ([c], r)
    else if c = '\\' then
      match r with
      | [] => none
      | d :: r => (throughQuote quote r).map fun (a, b) ↦ (c :: d :: a, b)
    else (throughQuote quote r).map fun (a, b) ↦ (c :: a, b)

def throughParen : List Char → Option (List Char × List Char)
  | [] => none
  | c :: r => if c = ')' then some ([c], r) else (throughParen r).map fun (a, b) ↦ (c :: a, b)

/-- The comment or verbatim span that starts here and closes. -/
def span? : List Char → Option (Piece × List Char)
  | '/' :: '*' :: r => (throughCommentEnd r).map fun (a, b) ↦ (comment ('/' :: '*' :: a), b)
  | '"' :: r => (throughQuote '"' r).map fun (a, b) ↦ (verbatim ('"' :: a), b)
  | '\'' :: r => (throughQuote '\'' r).map fun (a, b) ↦ (verbatim ('\'' :: a), b)
  | 'u' :: 'r' :: 'l' :: '(' :: r =>
    (throughParen r).map fun (a, b) ↦ (verbatim ('u' :: 'r' :: 'l' :: '(' :: a), b)
  | _ => none

theorem throughCommentEnd_append {cs a b : List Char} (h : throughCommentEnd cs = some (a, b)) :
    a ++ b = cs := by
  fun_induction throughCommentEnd cs generalizing a with
  | case1 => simp at h
  | case2 r => simp at h; obtain ⟨rfl, rfl⟩ := h; rfl
  | case3 c r _ ih =>
    obtain ⟨⟨x, y⟩, hx, he⟩ := Option.map_eq_some_iff.1 h
    cases he
    simp [ih hx]

theorem throughQuote_append {q : Char} {cs a b : List Char} (h : throughQuote q cs = some (a, b)) :
    a ++ b = cs := by
  fun_induction throughQuote q cs generalizing a with
  | case1 => simp at h
  | case2 r => simp at h; obtain ⟨rfl, rfl⟩ := h; rfl
  | case3 => simp at h
  | case4 _ d r ih =>
    obtain ⟨⟨x, y⟩, hx, he⟩ := Option.map_eq_some_iff.1 h
    cases he
    simp [ih hx]
  | case5 c r _ _ ih =>
    obtain ⟨⟨x, y⟩, hx, he⟩ := Option.map_eq_some_iff.1 h
    cases he
    simp [ih hx]

theorem throughParen_append {cs a b : List Char} (h : throughParen cs = some (a, b)) :
    a ++ b = cs := by
  fun_induction throughParen cs generalizing a with
  | case1 => simp at h
  | case2 r => simp at h; obtain ⟨rfl, rfl⟩ := h; rfl
  | case3 c r _ ih =>
    obtain ⟨⟨x, y⟩, hx, he⟩ := Option.map_eq_some_iff.1 h
    cases he
    simp [ih hx]

theorem span?_append {cs : List Char} {p : Piece} {r : List Char} (h : span? cs = some (p, r)) :
    p.chars ++ r = cs := by
  unfold span? at h
  split at h
  · obtain ⟨⟨x, y⟩, hx, he⟩ := Option.map_eq_some_iff.1 h
    cases he
    simp [chars, throughCommentEnd_append hx]
  · obtain ⟨⟨x, y⟩, hx, he⟩ := Option.map_eq_some_iff.1 h
    cases he
    simp [chars, throughQuote_append hx]
  · obtain ⟨⟨x, y⟩, hx, he⟩ := Option.map_eq_some_iff.1 h
    cases he
    simp [chars, throughQuote_append hx]
  · obtain ⟨⟨x, y⟩, hx, he⟩ := Option.map_eq_some_iff.1 h
    cases he
    simp [chars, throughParen_append hx]
  · simp at h

theorem span?_length_lt {cs : List Char} {p : Piece} {r : List Char} (h : span? cs = some (p, r)) :
    r.length < cs.length := by
  have hp : p.chars ≠ [] := by
    unfold span? at h
    split at h
    all_goals try
      obtain ⟨⟨x, y⟩, hx, he⟩ := Option.map_eq_some_iff.1 h
      cases he
      simp [chars]
    simp at h
  have ha := congrArg List.length (span?_append h)
  have := List.length_pos_iff.2 hp
  simp at ha
  omega

/-- The leftmost span that closes is taken; one that never closes is plain text. -/
def split (cs : List Char) : List Piece :=
  match cs with
  | [] => []
  | c :: r =>
    match _h : span? (c :: r) with
    | some (p, s) => p :: split s
    | none => plain c :: split r
termination_by cs.length
decreasing_by
  · exact span?_length_lt ‹_›
  · simp

theorem write_cons (p : Piece) (ps : List Piece) : write (p :: ps) = p.chars ++ write ps := rfl

theorem write_split (cs : List Char) : write (split cs) = cs := by
  fun_induction split cs with
  | case1 => rfl
  | case2 c r p s h ih => rw [write_cons, ih, span?_append h]
  | case3 c r _ ih => rw [write_cons, ih]; rfl

end Piece

end LayoutSheet.Stylesheet
