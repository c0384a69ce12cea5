import LayoutSheet.Stylesheet.Compact

namespace LayoutSheet.Stylesheet

namespace Piece

def settles (c : Char) : Bool := (plain c).isBlank || (plain c).isPunctuation

theorem settles_of_isBlank {c : Char} (h : (plain c).isBlank = true) : settles c = true := by
  simp [settles, h]

theorem ne_of_settles {c d : Char} (hc : settles c = true) (hd : settles d = false) : c ≠ d := by
  rintro rfl
  rw [hc] at hd
  cases hd

/-- How a span ends: what each character does in one of two states, nothing at the character that
closes it. -/
structure Closer where
  next : Bool → Char → Option Bool
  settled : ∀ s c, settles c = true → next s c = some false
  slash : ∀ s, (next s '*').bind (fun t ↦ next t '/') ≠ some true

namespace Closer

/-- The first `*/`; in the second state a star has just been read. -/
def commentEnd : Closer where
  next s c := if s && c == '/' then none else some (c == '*')
  settled s c hc := by
    have h₁ := ne_of_settles hc (d := '/') (by decide)
    have h₂ := ne_of_settles hc (d := '*') (by decide)
    simp [h₁, h₂]
  slash := by decide

/-- The next quote that no backslash escapes; in the second state one has just been read. -/
def quoteEnd (q : Char) (hq : q ∈ ['"', '\'']) : Closer where
  next s c := if s then some false else if c = q then none else some (c == '\\')
  settled s c hc := by
    have hd : settles q = false := by
      obtain rfl | rfl : q = '"' ∨ q = '\'' := by simpa using hq
      · decide
      · decide
    have h₁ := ne_of_settles hc hd
    have h₂ := ne_of_settles hc (d := '\\') (by decide)
    cases s <;> simp [h₁, h₂]
  slash := by
    have hn : '*' ≠ q ∧ '/' ≠ q := by
      obtain rfl | rfl : q = '"' ∨ q = '\'' := by simpa using hq
      · decide
      · decide
    intro s
    cases s <;> simp [hn]

def parenEnd : Closer where
  next _ c := if c = ')' then none else some false
  settled s c hc := by
    have h := ne_of_settles hc (d := ')') (by decide)
    simp [h]
  slash := by decide

def through (k : Closer) : Bool → List Char → Option (List Char × List Char)
  | _, [] => none
  | s, c :: r =>
    match k.next s c with
    | none => some ([c], r)
    | some t => (through k t r).map fun (a, b) ↦ (c :: a, b)

def after (k : Closer) (s : Bool) (cs : List Char) : Option Bool := cs.foldlM k.next s

variable {k : Closer}

theorem after_append (s : Bool) (a b : List Char) :
    k.after s (a ++ b) = (k.after s a).bind fun t ↦ k.after t b := List.foldlM_append

theorem after_cons (s : Bool) (c : Char) (cs : List Char) :
    k.after s (c :: cs) = (k.next s c).bind fun t ↦ k.after t cs := List.foldlM_cons

theorem through_eq_none_iff {s : Bool} {cs : List Char} :
    k.through s cs = none ↔ (k.after s cs).isSome = true := by
  induction cs generalizing s with
  | nil => simp [through, after]
  | cons c r ih =>
    rw [through, after_cons]
    cases k.next s c with
    | none => simp
    | some t => simp [ih]

theorem through_local {s : Bool} {cs a b : List Char} (h : k.through s cs = some (a, b))
    (rest : List Char) : k.through s (a ++ rest) = some (a, rest) := by
  induction cs generalizing s a with
  | nil => cases h
  | cons c r ih =>
    rw [through] at h
    cases hn : k.next s c with
    | none =>
      rw [hn] at h
      cases h
      simp [through, hn]
    | some t =>
      rw [hn] at h
      obtain ⟨⟨x, y⟩, hx, he⟩ := Option.map_eq_some_iff.1 h
      cases he
      simp [through, hn, ih hx]

theorem exists_of_through {s : Bool} {cs a b : List Char} (h : k.through s cs = some (a, b)) :
    ∃ u c t, a = u ++ [c] ∧ k.next t c = none := by
  induction cs generalizing s a with
  | nil => cases h
  | cons c r ih =>
    rw [through] at h
    cases hn : k.next s c with
    | none =>
      rw [hn] at h
      cases h
      exact ⟨[], c, s, rfl, hn⟩
    | some t =>
      rw [hn] at h
      obtain ⟨⟨x, y⟩, hx, he⟩ := Option.map_eq_some_iff.1 h
      cases he
      obtain ⟨u, d, t, rfl, hd⟩ := ih hx
      exact ⟨c :: u, d, t, rfl, hd⟩

theorem through_append {s : Bool} {cs a b : List Char} (h : k.through s cs = some (a, b))
    (rest : List Char) : k.through s (cs ++ rest) = some (a, b ++ rest) := by
  induction cs generalizing s a with
  | nil => cases h
  | cons c r ih =>
    rw [through] at h
    rw [List.cons_append, through]
    cases hn : k.next s c with
    | none =>
      rw [hn] at h
      cases h
      rfl
    | some t =>
      rw [hn] at h
      obtain ⟨⟨x, y⟩, hx, he⟩ := Option.map_eq_some_iff.1 h
      cases he
      simp only [ih hx, Option.map_some]

theorem after_settled {s : Bool} {c : Char} (hc : settles c = true) (cs : List Char) :
    k.after s (c :: cs) = k.after false cs := by
  rw [after_cons, k.settled s c hc]
  rfl

theorem after_comment_ne (s : Bool) (a : List Char) : k.after s (a ++ ['*', '/']) ≠ some true := by
  rw [after_append]
  cases k.after s a with
  | none => simp
  | some t =>
    rw [Option.bind_some, after_cons]
    simpa [after] using k.slash t

theorem commentEnd_next (s : Bool) (c : Char) :
    commentEnd.next s c = if s && c == '/' then none else some (c == '*') := rfl

theorem quoteEnd_next {q : Char} (hq : q ∈ ['"', '\'']) (s : Bool) (c : Char) :
    (quoteEnd q hq).next s c =
      if s then some false else if c = q then none else some (c == '\\') := rfl

theorem parenEnd_next (s : Bool) (c : Char) :
    parenEnd.next s c = if c = ')' then none else some false := rfl

theorem throughCommentEnd_eq (cs : List Char) :
    throughCommentEnd cs = commentEnd.through false cs := by
  fun_induction throughCommentEnd cs with
  | case1 => rfl
  | case2 r => rfl
  | case3 c r hn ih =>
    rw [ih, through]
    by_cases hc : c = '*'
    · subst hc
      cases r with
      | nil => rfl
      | cons d r =>
        have hd : d ≠ '/' := fun h ↦ hn r rfl (by rw [h])
        simp [through, commentEnd_next, hd]
    · simp [commentEnd_next, beq_eq_false_iff_ne.2 hc]

theorem throughQuote_eq {q : Char} (hq : q ∈ ['"', '\'']) (cs : List Char) :
    throughQuote q cs = (quoteEnd q hq).through false cs := by
  fun_induction throughQuote q cs with
  | case1 => rfl
  | case2 r => simp [through, quoteEnd_next]
  | case3 h => simp [through, quoteEnd_next, h]
  | case4 d r h ih =>
    simp [through, quoteEnd_next, h, ih]
    rfl
  | case5 c r h hb ih => simp [through, quoteEnd_next, h, beq_eq_false_iff_ne.2 hb, ih]

theorem throughParen_eq (cs : List Char) : throughParen cs = parenEnd.through false cs := by
  fun_induction throughParen cs with
  | case1 => rfl
  | case2 r => simp [through, parenEnd_next]
  | case3 c r hc ih => simp [through, parenEnd_next, hc, ih]

end Closer

/-- How a span begins: its first characters, what closes it and the piece that it makes. -/
structure Opening where
  head : List Char
  closer : Closer
  piece : List Char → Piece

namespace Opening

def comment : Opening := ⟨['/', '*'], .commentEnd, .comment⟩

def quote (q : Char) (hq : q ∈ ['"', '\'']) : Opening := ⟨[q], .quoteEnd q hq, .verbatim⟩

def url : Opening := ⟨['u', 'r', 'l', '('], .parenEnd, .verbatim⟩

def of? : List Char → Option (Opening × List Char)
  | '/' :: '*' :: r => some (comment, r)
  | '"' :: r => some (quote '"' (by decide), r)
  | '\'' :: r => some (quote '\'' (by decide), r)
  | 'u' :: 'r' :: 'l' :: '(' :: r => some (url, r)
  | _ => none

end Opening

theorem span?_eq (cs : List Char) :
    span? cs = (Opening.of? cs).bind fun (o, r) ↦
      (o.closer.through false r).map fun (a, b) ↦ (o.piece (o.head ++ a), b) := by
  unfold span?
  split
  · rw [Closer.throughCommentEnd_eq]
    rfl
  · rw [Closer.throughQuote_eq (by decide)]
    rfl
  · rw [Closer.throughQuote_eq (by decide)]
    rfl
  · rw [Closer.throughParen_eq]
    rfl
  · next h₁ h₂ h₃ h₄ => rw [Opening.of?.eq_5 cs h₁ h₂ h₃ h₄, Option.bind_none]

theorem span?_eq_none_iff {cs : List Char} :
    span? cs = none ↔ ∀ o r, Opening.of? cs = some (o, r) → o.closer.through false r = none := by
  rw [span?_eq, Option.bind_eq_none_iff]
  simp only [Option.map_eq_none_iff, Prod.forall]

theorem span?_eq_some_iff {cs r : List Char} {p : Piece} :
    span? cs = some (p, r) ↔ ∃ o s a, Opening.of? cs = some (o, s) ∧
      o.closer.through false s = some (a, r) ∧ p = o.piece (o.head ++ a) := by
  rw [span?_eq, Option.bind_eq_some_iff]
  constructor
  · rintro ⟨⟨o, s⟩, ho, h⟩
    obtain ⟨⟨a, b⟩, ha, he⟩ := Option.map_eq_some_iff.1 h
    cases he
    exact ⟨o, s, a, ho, ha, rfl⟩
  · rintro ⟨o, s, a, ho, ha, rfl⟩
    exact ⟨(o, s), ho, by simp only [ha, Option.map_some]⟩

theorem Opening.of?_local {cs r : List Char} {o : Opening} (h : of? cs = some (o, r)) :
    cs = o.head ++ r ∧ ∀ rest, of? (o.head ++ rest) = some (o, rest) := by
  unfold of? at h
  split at h
  all_goals cases h
  all_goals exact ⟨rfl, fun _ ↦ rfl⟩

theorem Opening.chars_piece {cs r : List Char} {o : Opening} (h : of? cs = some (o, r))
    (t : List Char) : (o.piece t).chars = t := by
  unfold of? at h
  split at h
  all_goals cases h
  all_goals rfl

theorem Opening.of?_of_settles {c : Char} (h : settles c = true) (r : List Char) :
    of? (c :: r) = none := by
  cases ho : of? (c :: r) with
  | none => rfl
  | some x =>
    unfold of? at ho
    split at ho
    all_goals cases ho
    all_goals
      obtain ⟨rfl, -⟩ := List.cons.inj ‹c :: r = _›
      exact absurd h (by decide)

theorem span?_of_settles {c : Char} (h : settles c = true) (r : List Char) :
    span? (c :: r) = none := by
  rw [span?_eq, Opening.of?_of_settles h, Option.bind_none]

theorem exists_of_isPunctuation {p : Piece} (h : p.isPunctuation = true) :
    ∃ c, p = plain c ∧ settles c = true := by
  cases p with
  | plain c => exact ⟨c, rfl, by simp [settles, h]⟩
  | comment t => cases h
  | verbatim t => cases h

theorem exists_of_isBlank {p : Piece} (h : p.isBlank = true) :
    ∃ c, p = plain c ∧ settles c = true := by
  cases p with
  | plain c => exact ⟨c, rfl, settles_of_isBlank h⟩
  | comment t => cases h
  | verbatim t => cases h

/-- A comment or verbatim span, which reads the same whatever follows it. -/
def IsSpan (p : Piece) : Prop := ∀ rest, span? (p.chars ++ rest) = some (p, rest)

theorem isSpan_of_span? {cs r : List Char} {p : Piece} (h : span? cs = some (p, r)) : IsSpan p := by
  obtain ⟨o, s, a, ho, ha, rfl⟩ := span?_eq_some_iff.1 h
  intro rest
  rw [Opening.chars_piece ho, List.append_assoc]
  exact span?_eq_some_iff.2 ⟨o, _, a, (Opening.of?_local ho).2 _, Closer.through_local ha rest, rfl⟩

theorem exists_of_throughCommentEnd {cs a b : List Char} (h : throughCommentEnd cs = some (a, b)) :
    ∃ u, a = u ++ ['*', '/'] := by
  fun_induction throughCommentEnd cs generalizing a with
  | case1 => cases h
  | case2 r =>
    cases h
    exact ⟨[], rfl⟩
  | case3 c r _ ih =>
    obtain ⟨⟨x, y⟩, hx, he⟩ := Option.map_eq_some_iff.1 h
    cases he
    obtain ⟨u, rfl⟩ := ih hx
    exact ⟨c :: u, rfl⟩

theorem exists_of_isSpan_comment {t : List Char} (h : IsSpan (comment t)) :
    ∃ u, t = '/' :: '*' :: (u ++ ['*', '/']) := by
  have hs := h []
  unfold span? at hs
  split at hs
  · obtain ⟨⟨x, y⟩, hx, he⟩ := Option.map_eq_some_iff.1 hs
    cases he
    obtain ⟨u, rfl⟩ := exists_of_throughCommentEnd hx
    exact ⟨u, rfl⟩
  all_goals simp at hs

def isOpener (c : Char) : Bool := c ∈ ['/', '"', '\'', 'u']

theorem IsSpan.exists_opener {p : Piece} (h : IsSpan p) :
    ∃ c t, p.chars = c :: t ∧ isOpener c = true := by
  obtain ⟨o, s, a, ho, -, -⟩ := span?_eq_some_iff.1 (h [])
  rw [List.append_nil] at ho
  unfold Opening.of? at ho
  split at ho
  all_goals cases ho
  all_goals exact ⟨_, _, by assumption, by decide⟩

/-- Pieces as splitting makes them: spans, and plain characters where no span closes. -/
inductive Canonical : List Piece → Prop
  | nil : Canonical []
  | span {p : Piece} {ps : List Piece} (hp : IsSpan p) (h : Canonical ps) : Canonical (p :: ps)
  | plain {c : Char} {ps : List Piece} (hc : span? (c :: write ps) = none) (h : Canonical ps) :
      Canonical (plain c :: ps)

theorem canonical_split (cs : List Char) : Canonical (split cs) := by
  fun_induction split cs with
  | case1 => exact .nil
  | case2 c r p s h ih => exact .span (isSpan_of_span? h) ih
  | case3 c r h ih => exact .plain (by rwa [write_split]) ih

theorem split_of_span? {cs r : List Char} {p : Piece} (h : span? cs = some (p, r)) :
    split cs = p :: split r := by
  cases cs with
  | nil => cases h
  | cons c cs =>
    rw [split]
    split
    · next h' =>
      rw [h] at h'
      cases h'
      rfl
    · next h' =>
      rw [h] at h'
      cases h'

theorem split_of_span?_none {c : Char} {r : List Char} (h : span? (c :: r) = none) :
    split (c :: r) = plain c :: split r := by
  rw [split]
  split
  · next h' =>
    rw [h] at h'
    cases h'
  · rfl

theorem Canonical.split_write {ps : List Piece} (h : Canonical ps) : split (write ps) = ps := by
  induction h with
  | nil => simp [write, split]
  | @span p ps hp h ih => rw [write_cons, split_of_span? (hp _), ih]
  | @plain c ps hc h ih => rw [write_cons, chars, List.singleton_append, split_of_span?_none hc, ih]

theorem Canonical.tail {p : Piece} {ps : List Piece} (h : Canonical (p :: ps)) : Canonical ps := by
  cases h with
  | span _ h => exact h
  | plain _ h => exact h

theorem Canonical.isSpan_of_comment_mem {ps : List Piece} (h : Canonical ps) {t : List Char}
    (ht : comment t ∈ ps) : IsSpan (comment t) := by
  induction h with
  | nil => cases ht
  | @span p ps hp h ih =>
    obtain rfl | ht := List.mem_cons.1 ht
    · exact hp
    · exact ih ht
  | @plain c ps hc h ih =>
    obtain ht | ht := List.mem_cons.1 ht
    · cases ht
    · exact ih ht

theorem Canonical.of_append {lead ps : List Piece} (h : Canonical (lead ++ ps)) : Canonical ps := by
  induction lead with
  | nil => exact h
  | cons p lead ih => exact ih h.tail

end Piece

end LayoutSheet.Stylesheet
