import LayoutSheet.Proofs.Thinning
import LayoutSheet.Proofs.Tokens

namespace LayoutSheet.Stylesheet

open Piece Token

/-- Whether compaction leaves a character as it is behind a backslash and before these pieces. -/
def Stays (c : Char) (ps : List Piece) : Prop :=
  (Text.isBlank c = true → c = ' ' ∧ ∃ q ∈ next? ps, q.isPunctuation = false) ∧
    (c = ';' → next? ps ≠ some (.plain '\x7d'))

/-- Whether pieces are in step with the reading of their text, where a backslash may be before them:
each verbatim piece reads by itself, and each escaped character is a piece that stays. -/
def InStep : Bool → List Piece → Prop
  | _, [] => True
  | true, .plain c :: ps => Stays c ps ∧ InStep false ps
  | true, _ :: _ => False
  | false, .verbatim t :: ps => (Token.read t).isSome = true ∧ InStep false ps
  | false, p :: ps => InStep (p = .plain '\\') ps

instance (c : Char) (ps : List Piece) : Decidable (Stays c ps) :=
  inferInstanceAs (Decidable (_ ∧ _))

instance InStep.decidable : ∀ b ps, Decidable (InStep b ps)
  | true, [] => isTrue trivial
  | false, [] => isTrue trivial
  | true, .plain _ :: ps =>
    have := InStep.decidable false ps
    inferInstanceAs (Decidable (_ ∧ _))
  | true, .comment _ :: _ => isFalse id
  | true, .verbatim _ :: _ => isFalse id
  | false, .verbatim _ :: ps =>
    have := InStep.decidable false ps
    inferInstanceAs (Decidable (_ ∧ _))
  | false, .comment _ :: ps => InStep.decidable _ ps
  | false, .plain _ :: ps => InStep.decidable _ ps

/-- What is kept of the tokens that pieces read as, where a backslash may be before them. -/
inductive Reads : Bool → List Piece → List Token → Prop
  | nil : Reads false [] []
  | comment {t : List Char} {ps : List Piece} {ts : List Token} (hp : IsSpan (.comment t))
      (h : Reads false ps ts) : Reads false (.comment t :: ps) ts
  | verbatim {t : List Char} {ps : List Piece} {us ts : List Token} (hp : IsSpan (.verbatim t))
      (hu : Token.read t = some us) (h : Reads false ps ts) :
      Reads false (.verbatim t :: ps) (us.filter isKept ++ ts)
  | backslash {ps : List Piece} {ts : List Token} (h : Reads true ps ts) :
      Reads false (.plain '\\' :: ps) ts
  | escaped {c : Char} {ps : List Piece} {ts : List Token} (h : Reads false ps ts) :
      Reads true (.plain c :: ps) (.escape c :: ts)
  | dangling : Reads false [.plain '\\'] []
  | plain {c : Char} {ps : List Piece} {ts : List Token} (hc : c ≠ '\\')
      (ho : ∀ o s, Opening.of? (c :: write ps) = some (o, s) → o = .url ∧ opensUrl s = false)
      (h : Reads false ps ts) : Reads false (.plain c :: ps) ts

theorem sealed_of_isSpan {t : List Char} (h : IsSpan (.verbatim t)) : Sealed t := by
  obtain ⟨o, s, a, ho, ha, he⟩ := span?_eq_some_iff.1 (h [])
  obtain ⟨u, c, b, rfl, hc⟩ := Closer.exists_of_through ha
  have hl : t.getLast? = some c := by
    have := congrArg Piece.chars he
    rw [Opening.chars_piece ho] at this
    simp only [Piece.chars] at this
    rw [this, ← List.append_assoc, List.getLast?_concat]
  rw [Sealed, hl]
  intro d hd
  cases hd
  unfold Opening.of? at ho
  split at ho
  all_goals cases ho
  · cases he
  · have hq : c = '"' := by
      by_contra hn
      cases b <;> simp [Opening.quote, Closer.quoteEnd_next, hn] at hc
    simp [hq]
  · have hq : c = '\'' := by
      by_contra hn
      cases b <;> simp [Opening.quote, Closer.quoteEnd_next, hn] at hc
    simp [hq]
  · have hq : c = ')' := by
      by_contra hn
      simp [Opening.url, Closer.parenEnd_next, hn] at hc
    simp [hq]

theorem token?_of_isSpan_comment {t : List Char} (h : IsSpan (.comment t)) (rest : List Char) :
    token? (t ++ rest) = some (.comment t, rest) := by
  have hs := h rest
  rw [Piece.chars] at hs
  unfold span? at hs
  split at hs
  · next r hr =>
    obtain ⟨⟨x, y⟩, hx, he⟩ := Option.map_eq_some_iff.1 hs
    cases he
    rw [hr, token?, hx]
    rfl
  all_goals simp at hs

theorem read_of_isSpan {t : List Char} {us : List Token} (hp : IsSpan (.verbatim t))
    (hu : Token.read t = some us) (rest : List Char) :
    Token.read (t ++ rest) = (Token.read rest).map (us ++ ·) :=
  read_append (sealed_of_isSpan hp) hu rest

def writeBehind (b : Bool) (ps : List Piece) : List Char := if b then '\\' :: write ps else write ps

theorem Reads.exists_read {b : Bool} {ps : List Piece} {ts : List Token} (h : Reads b ps ts) :
    ∃ toks, Token.read (writeBehind b ps) = some toks ∧ toks.filter isKept = ts := by
  induction h with
  | nil => exact ⟨[], read_nil, rfl⟩
  | @comment t ps ts hp h ih =>
    obtain ⟨toks, hr, rfl⟩ := ih
    refine ⟨.comment t :: toks, ?_, rfl⟩
    exact (read_of_token? (token?_of_isSpan_comment hp _)).trans (congrArg _ hr)
  | @verbatim t ps us ts hp hu h ih =>
    obtain ⟨toks, hr, rfl⟩ := ih
    refine ⟨us ++ toks, ?_, List.filter_append ..⟩
    exact (read_of_isSpan hp hu _).trans (congrArg _ hr)
  | backslash h ih => exact ih
  | @escaped c ps ts h ih =>
    obtain ⟨toks, hr, rfl⟩ := ih
    refine ⟨.escape c :: toks, ?_, rfl⟩
    exact (read_of_token? (r := write ps) rfl).trans (congrArg _ hr)
  | dangling => exact ⟨[.plain '\\'], by cbv, rfl⟩
  | @plain c ps ts hc ho h ih =>
    obtain ⟨toks, hr, rfl⟩ := ih
    refine ⟨.plain c :: toks, ?_, rfl⟩
    have ht := token?_eq_plain_iff.2 ⟨fun h ↦ absurd h hc, ho⟩
    exact (read_of_token? ht).trans (congrArg _ hr)

theorem not_isSpan_plain (c : Char) : ¬ IsSpan (.plain c) := by
  intro h
  have hs := h []
  unfold span? at hs
  split at hs
  all_goals simp at hs

theorem reads_of_inStep {b : Bool} {ps : List Piece} {toks : List Token} (hc : Canonical ps)
    (hs : InStep b ps) (hb : b = true → ps ≠ [])
    (hr : Token.read (writeBehind b ps) = some toks) : Reads b ps (toks.filter isKept) := by
  induction ps generalizing b toks with
  | nil =>
    cases b with
    | true => exact absurd rfl (hb rfl)
    | false =>
      have he := read_nil.symm.trans hr
      cases he
      exact .nil
  | cons p ps ih =>
    cases b with
    | true =>
      cases p with
      | comment t => exact hs.elim
      | verbatim t => exact hs.elim
      | plain c =>
        have ht : token? ('\\' :: c :: write ps) = some (.escape c, write ps) := rfl
        have hr := (read_of_token? ht).symm.trans hr
        obtain ⟨ts, hts, rfl⟩ := Option.map_eq_some_iff.1 hr
        exact .escaped (ih (b := false) hc.tail hs.2 (by simp) hts)
    | false =>
      cases hc with
      | @span p ps hp hc =>
        cases p with
        | comment t =>
          have hr := (read_of_token? (token?_of_isSpan_comment hp (write ps))).symm.trans hr
          obtain ⟨ts, hts, rfl⟩ := Option.map_eq_some_iff.1 hr
          have hc := ih (b := false) hc hs (by simp) hts
          exact .comment hp hc
        | verbatim t =>
          obtain ⟨us, hu⟩ := Option.isSome_iff_exists.1 hs.1
          have hr := (read_of_isSpan hp hu (write ps)).symm.trans hr
          obtain ⟨ts, hts, rfl⟩ := Option.map_eq_some_iff.1 hr
          rw [List.filter_append]
          exact .verbatim hp hu (ih (b := false) hc hs.2 (by simp) hts)
        | plain c => exact absurd hp (not_isSpan_plain c)
      | @plain c ps hn hc =>
        by_cases hb : c = '\\'
        · subst hb
          cases ps with
          | nil =>
            have hd : Token.read ['\\'] = some [.plain '\\'] := by cbv
            cases hd.symm.trans hr
            exact .dangling
          | cons q ps => exact .backslash (ih (b := true) hc hs (by simp) hr)
        · obtain ⟨k, s, us, hk, hu, rfl⟩ := exists_of_read_cons hr
          obtain ⟨rfl, rfl⟩ := eq_plain_of_token? hn hb hk
          have hs : InStep (decide (Piece.plain c = .plain '\\')) ps := hs
          rw [decide_eq_false (by simpa using hb)] at hs
          have hc := ih (b := false) hc hs (by simp) hu
          exact .plain hb (token?_eq_plain_iff.1 hk).2 hc

theorem opensUrl_cons {c : Char} (h : Token.isBlank c = false) (r : List Char) :
    opensUrl (c :: r) = (c != '"' && c != '\'') := by
  rw [opensUrl, if_neg (by simp [h])]

theorem isBlank_of_isBlank {c : Char} (h : Token.isBlank c = true) : Text.isBlank c = true := by
  obtain rfl | rfl | rfl | rfl | rfl :
      c = ' ' ∨ c = '\t' ∨ c = '\n' ∨ c = '\r' ∨ c = '\x0c' := by simpa [Token.isBlank] using h
  all_goals rfl

theorem isBlank_of_isGap {c : Char} (h : (Piece.plain c).isGap = false) :
    Token.isBlank c = false := by
  rw [Bool.eq_false_iff] at h ⊢
  exact fun hb ↦ h (isBlank_of_isBlank hb)

theorem opensUrl_of_isGap {p : Piece} (hp : p.isGap = true) (hc : ∀ t, p = .comment t → IsSpan p)
    {r : List Char} (h : opensUrl (p.chars ++ r) = false) : opensUrl r = false := by
  cases p with
  | verbatim t => cases hp
  | comment t =>
    obtain ⟨u, rfl⟩ := exists_of_isSpan_comment (hc t rfl)
    rw [Piece.chars, List.cons_append, opensUrl_cons (by decide)] at h
    exact absurd h (by decide)
  | plain c =>
    rw [Piece.chars, List.singleton_append, opensUrl] at h
    split at h
    · exact h
    · have hq : c = '"' ∨ c = '\'' := by
        by_contra hn
        simp [not_or.1 hn] at h
      obtain rfl | rfl := hq
      · exact absurd hp (by decide)
      · exact absurd hp (by decide)

theorem opensUrl_thins {ps qs : List Piece} (h : Thins ps qs) (hc : Canonical ps)
    (ho : opensUrl (write ps) = false) : opensUrl (write qs) = false := by
  induction h with
  | nil => exact ho
  | @keep p ps qs hp h ih =>
    obtain ⟨c, t, ht, hb⟩ : ∃ c t, p.chars = c :: t ∧ Token.isBlank c = false := by
      cases hc with
      | span hs hc =>
        obtain ⟨c, t, ht, hs⟩ := hs.exists_opener
        have : ∀ c ∈ ['/', '"', '\'', 'u'], Token.isBlank c = false := by simp [Token.isBlank]
        exact ⟨c, t, ht, this c (by simpa [isOpener] using hs)⟩
      | @plain c ps hn hc =>
        exact ⟨c, [], rfl, isBlank_of_isGap hp⟩
    rw [write_cons, ht, List.cons_append, opensUrl_cons hb] at ho ⊢
    exact ho
  | @space p ps qs hp h ih =>
    have hg := opensUrl_of_isGap hp (fun t ht ↦ ht ▸ hc.isSpan_of_comment_mem (by simp [ht])) ho
    exact ih hc.tail hg
  | @skip p ps qs hp hq h ih =>
    have hg := opensUrl_of_isGap hp (fun t ht ↦ ht ▸ hc.isSpan_of_comment_mem (by simp [ht])) ho
    exact ih hc.tail hg
  | @close ps qs hn h ih =>
    rw [write_cons, Piece.chars, List.singleton_append, opensUrl_cons (by decide)] at ho
    exact absurd ho (by decide)
  | @behind p q ps qs hq hp h ih =>
    obtain ⟨c, rfl, -⟩ := exists_of_isPunctuation hq
    have hb := isBlank_of_isGap (isGap_eq_false_of_isPunctuation hq)
    rw [write_cons, Piece.chars, List.singleton_append, opensUrl_cons hb] at ho ⊢
    exact ho

namespace Reads

variable {ps : List Piece} {ts : List Token}

theorem of_settles {c : Char} (hc : settles c = true) (h : Reads false ps ts) :
    Reads false (.plain c :: ps) ts := by
  refine .plain (ne_of_settles hc (by decide)) (fun o s ho ↦ ?_) h
  rw [Opening.of?_of_settles hc] at ho
  cases ho

theorem of_cons_settles {c : Char} (hc : settles c = true) (h : Reads false (.plain c :: ps) ts) :
    Reads false ps ts := by
  cases h with
  | backslash h => exact absurd hc (by decide)
  | dangling => exact absurd hc (by decide)
  | plain hn ho h => exact h

theorem of_cons_isGap {p : Piece} (hp : p.isGap = true) (h : Reads false (p :: ps) ts) :
    Reads false ps ts := by
  cases p with
  | verbatim t => cases hp
  | comment t =>
    cases h with
    | comment hs h => exact h
  | plain c => exact h.of_cons_settles (settles_of_isBlank hp)

end Reads

theorem inStep_plain_iff {c : Char} (hc : c ≠ '\\') (ps : List Piece) :
    InStep false (.plain c :: ps) ↔ InStep false ps := by
  rw [InStep, decide_eq_false (by simpa using hc)]
  simp

theorem inStep_of_cons_isGap {p : Piece} {ps : List Piece} (hp : p.isGap = true)
    (h : InStep false (p :: ps)) : InStep false ps := by
  cases p with
  | verbatim t => cases hp
  | comment t => exact h
  | plain c =>
    refine (inStep_plain_iff ?_ ps).1 h
    rintro rfl
    exact absurd hp (by decide)

theorem stays_of_cons_isGap {c : Char} {p : Piece} {ps : List Piece} (hp : p.isGap = true)
    (h : Stays c (p :: ps)) : Stays c ps := by
  rwa [Stays, next?_cons_of_isGap hp] at h

theorem Reads.thins {ps qs : List Piece} {ts : List Token} {b : Bool} (h : Thins ps qs)
    (hc : Canonical ps) (hs : InStep b ps) (hr : Reads b ps ts) : Reads b qs ts := by
  -- With a backslash in front or not, since a step may part it from the character it escapes.
  induction h generalizing b ts with
  | nil => exact hr
  | @keep p ps qs hp h ih =>
    cases hr with
    | comment hp' hr => cases hp
    | verbatim hp' hu hr => exact .verbatim hp' hu (ih hc.tail hs.2 hr)
    | backslash hr => exact .backslash (ih hc.tail hs hr)
    | escaped hr => exact .escaped (ih hc.tail hs.2 hr)
    | dangling =>
      cases h
      exact .dangling
    | plain hn ho hr =>
      refine .plain hn (fun o s hos ↦ ?_) (ih hc.tail ((inStep_plain_iff hn ps).1 hs) hr)
      obtain ⟨ps', qs', ho', rfl, hc', ht⟩ := h.exists_of_opening hc.tail hos
      obtain ⟨rfl, hu⟩ := ho o _ ho'
      exact ⟨rfl, opensUrl_thins ht hc' hu⟩
  | @space p ps qs hp h ih =>
    cases b with
    | false =>
      exact .of_settles (by decide) (ih hc.tail (inStep_of_cons_isGap hp hs) (hr.of_cons_isGap hp))
    | true =>
      cases hr with
      | escaped hr =>
        obtain ⟨rfl, -⟩ := hs.1.1 hp
        exact .escaped (ih hc.tail hs.2 hr)
  | @skip p ps qs hp hq h ih =>
    cases b with
    | false => exact ih hc.tail (inStep_of_cons_isGap hp hs) (hr.of_cons_isGap hp)
    | true =>
      cases hr with
      | escaped hr =>
        -- The escaped space is thought to go, but as an item follows that is no punctuation, one
        -- of the spaces behind it stays and is the escaped one now.
        obtain ⟨rfl, q, hn, hnp⟩ := hs.1.1 hp
        have hq' := h.mem_next? hn hnp
        have hr := ih hc.tail hs.2 hr
        cases qs with
        | nil => cases hq'
        | cons d qs =>
          obtain hb | hb := hq d rfl
          · obtain rfl := h.eq_space_of_mem List.mem_cons_self (isGap_of_isBlank hb)
            exact .escaped (hr.of_cons_settles (by decide))
          · rw [next?_cons_of_not_isGap (isGap_eq_false_of_isPunctuation hb)] at hq'
            cases hq'
            rw [hb] at hnp
            cases hnp
  | @close ps qs hn h ih =>
    cases b with
    | false =>
      exact ih hc.tail ((inStep_plain_iff (by decide) ps).1 hs) (hr.of_cons_settles (by decide))
    | true =>
      cases hr with
      | escaped hr => exact absurd hn (hs.1.2 rfl)
  | @behind p q ps qs hq hp h ih =>
    obtain ⟨c, rfl, hc'⟩ := exists_of_isPunctuation hq
    have hn : c ≠ '\\' := ne_of_settles hc' (by decide)
    have hcan : Canonical (.plain c :: ps) := .plain (span?_of_settles hc' _) hc.tail.tail
    cases b with
    | false =>
      have hs := inStep_of_cons_isGap hp ((inStep_plain_iff hn _).1 hs)
      exact ih hcan ((inStep_plain_iff hn ps).2 hs)
        (.of_settles hc' ((hr.of_cons_settles hc').of_cons_isGap hp))
    | true =>
      cases hr with
      | escaped hr =>
        exact ih hcan ⟨stays_of_cons_isGap hp hs.1, inStep_of_cons_isGap hp hs.2⟩
          (.escaped (hr.of_cons_isGap hp))

theorem of_append_isGap {lead ps : List Piece} {ts : List Token}
    (hg : ∀ p ∈ lead, p.isGap = true) (hs : InStep false (lead ++ ps))
    (hr : Reads false (lead ++ ps) ts) : InStep false ps ∧ Reads false ps ts := by
  induction lead with
  | nil => exact ⟨hs, hr⟩
  | cons p lead ih =>
    have hp := hg p List.mem_cons_self
    exact ih (fun q hq ↦ hg q (List.mem_cons_of_mem p hq)) (inStep_of_cons_isGap hp hs)
      (hr.of_cons_isGap hp)

/-- Where the pieces of a text are in step with its reading, the compact text reads as the same
strings, unquoted urls and escapes. -/
theorem read_compact {css : String} {toks : List Token}
    (hr : Token.read css.toList = some toks) (hs : InStep false (split css.toList)) :
    ∃ toks', Token.read (compact css).toList = some toks' ∧
      toks'.filter isKept = toks.filter isKept := by
  have hc := canonical_split css.toList
  have hw : Token.read (writeBehind false (split css.toList)) = some toks :=
    (congrArg Token.read (write_split css.toList)).trans hr
  have hk := reads_of_inStep hc hs (by simp) hw
  obtain ⟨lead, rest, hl, hg, ht⟩ := Thins.exists_compact (split css.toList)
  rw [hl] at hc hs hk
  obtain ⟨hs, hk⟩ := of_append_isGap hg hs hk
  rw [compact, String.toList_ofList, compactChars]
  exact (hk.thins ht hc.of_append hs).exists_read

def crowded : String :=
  "/* \" */ .a\\:b\\  i::after \x7b content: \"x ; \x7d\\\"\" ;" ++
    " background: url( 'a  b' ) , url(c ; d) ; \x7d"

def crowdedTokens : List Token :=
  [.escape ':', .escape ' ', .string "\"x ; \x7d\\\"\"".toList, .string "'a  b'".toList,
    .url "url(c ; d)".toList]

theorem read_crowded :
    (Token.read crowded.toList).map (·.filter isKept) = some crowdedTokens ∧
    InStep false (split crowded.toList) ∧
    ∃ toks', Token.read (compact crowded).toList = some toks' ∧
      toks'.filter isKept = crowdedTokens := by
  have hr : (Token.read crowded.toList).map (·.filter isKept) = some crowdedTokens := by cbv
  have hs : decide (InStep false (split crowded.toList)) = true := by cbv
  obtain ⟨toks, ht, hk⟩ := Option.map_eq_some_iff.1 hr
  obtain ⟨toks', ht', he⟩ := read_compact ht (of_decide_eq_true hs)
  exact ⟨hr, of_decide_eq_true hs, toks', ht', he.trans hk⟩

def parenthesized : String := "a\x7bb:url(\"x)  y\")\x7d"

/-- One of its two spaces goes. -/
theorem not_kept_parenthesized :
    (Token.read parenthesized.toList).isSome = true ∧
    (Token.read (compact parenthesized).toList).map (·.filter isKept) ≠
      (Token.read parenthesized.toList).map (·.filter isKept) := by
  have h : (Token.read parenthesized.toList).map (·.filter isKept) =
      some [.string "\"x)  y\"".toList] := by cbv
  have h' : (Token.read (compact parenthesized).toList).map (·.filter isKept) =
      some [.string "\"x) y\"".toList] := by cbv
  refine ⟨by cbv, ?_⟩
  rw [h, h']
  decide

end LayoutSheet.Stylesheet
