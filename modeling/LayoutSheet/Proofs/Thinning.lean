import LayoutSheet.Proofs.Items
import LayoutSheet.Proofs.Spans
import Mathlib.Data.String.Basic

namespace LayoutSheet.Stylesheet

namespace Piece

def Settled (ps : List Piece) : Prop := ∀ p ∈ ps.head?, p.isBlank = true ∨ p.isPunctuation = true

def next? (ps : List Piece) : Option Piece := ps.find? fun p ↦ !p.isGap

theorem next?_cons_of_isGap {p : Piece} (hp : p.isGap = true) (ps : List Piece) :
    next? (p :: ps) = next? ps := List.find?_cons_of_neg (by simp [hp])

theorem next?_cons_of_not_isGap {p : Piece} (hp : p.isGap = false) (ps : List Piece) :
    next? (p :: ps) = some p := List.find?_cons_of_pos (by simp [hp])

/-- What thinning can do to pieces: a piece stays; one space stands for a blank or comment; a blank
or comment goes before or behind a blank or punctuation or at the end; a semicolon goes before a
closing brace. -/
inductive Thins : List Piece → List Piece → Prop
  | nil : Thins [] []
  | keep {p : Piece} {ps qs : List Piece} (hp : p.isGap = false) (h : Thins ps qs) :
      Thins (p :: ps) (p :: qs)
  | space {p : Piece} {ps qs : List Piece} (hp : p.isGap = true) (h : Thins ps qs) :
      Thins (p :: ps) (plain ' ' :: qs)
  | skip {p : Piece} {ps qs : List Piece} (hp : p.isGap = true) (hq : Settled qs)
      (h : Thins ps qs) : Thins (p :: ps) qs
  | close {ps qs : List Piece} (hn : next? ps = some (plain '\x7d'))
      (h : Thins ps (plain '\x7d' :: qs)) : Thins (plain ';' :: ps) (plain '\x7d' :: qs)
  | behind {p q : Piece} {ps qs : List Piece} (hq : q.isPunctuation = true) (hp : p.isGap = true)
      (h : Thins (q :: ps) (q :: qs)) : Thins (q :: p :: ps) (q :: qs)

theorem Closer.after_gap {k : Closer} {p : Piece} (hp : p.isGap = true)
    (hc : ∀ t, p = comment t → IsSpan p) {s : Bool} {cs : List Char}
    (ho : (k.after s (p.chars ++ cs)).isSome = true) :
    k.after s (p.chars ++ cs) = k.after false cs := by
  cases p with
  | plain c => exact after_settled (settles_of_isBlank hp) cs
  | verbatim t => cases hp
  | comment t =>
    obtain ⟨u, rfl⟩ := exists_of_isSpan_comment (hc t rfl)
    rw [chars, after_append] at ho ⊢
    have hn := after_comment_ne (k := k) s ('/' :: '*' :: u)
    rw [List.cons_append, List.cons_append] at hn
    cases h : k.after s ('/' :: '*' :: (u ++ ['*', '/'])) with
    | none => simp [h] at ho
    | some t =>
      cases t with
      | false => rfl
      | true => exact absurd h hn

theorem Closer.isSome_after_of_settled {k : Closer} {ps : List Piece} (h : Settled ps) (s : Bool)
    (ho : (k.after false (write ps)).isSome = true) : (k.after s (write ps)).isSome = true := by
  cases ps with
  | nil => rfl
  | cons p ps =>
    obtain ⟨c, rfl, hc⟩ : ∃ c, p = plain c ∧ settles c = true :=
      (h p rfl).elim exists_of_isBlank exists_of_isPunctuation
    rw [write_cons, chars, List.singleton_append, after_settled hc] at ho ⊢
    exact ho

namespace Thins

variable {ps qs : List Piece}

theorem isSome_after (h : Thins ps qs) (hc : ∀ t, comment t ∈ ps → IsSpan (comment t))
    (k : Closer) (s : Bool) (ho : (k.after s (write ps)).isSome = true) :
    (k.after s (write qs)).isSome = true := by
  -- From any state: behind a gap or punctuation each closer is in its first one, and so it is where
  -- these have gone.
  induction h generalizing s with
  | nil => exact ho
  | @keep p ps qs hp h ih =>
    rw [write_cons, Closer.after_append] at ho ⊢
    obtain ⟨t, ht⟩ : ∃ t, k.after s p.chars = some t :=
      Option.isSome_iff_exists.1 (Option.isSome_of_isSome_bind ho)
    rw [ht, Option.bind_some] at ho ⊢
    exact ih (fun t ht ↦ hc t (List.mem_cons_of_mem p ht)) t ho
  | @space p ps qs hp h ih =>
    rw [write_cons] at ho
    rw [Closer.after_gap hp (fun t ht ↦ ht ▸ hc t (ht ▸ List.mem_cons_self)) ho] at ho
    have hq := ih (fun t ht ↦ hc t (List.mem_cons_of_mem p ht)) false ho
    rwa [write_cons, chars, List.singleton_append, Closer.after_settled (by decide)]
  | @skip p ps qs hp hq h ih =>
    rw [write_cons] at ho
    rw [Closer.after_gap hp (fun t ht ↦ ht ▸ hc t (ht ▸ List.mem_cons_self)) ho] at ho
    exact Closer.isSome_after_of_settled hq s
      (ih (fun t ht ↦ hc t (List.mem_cons_of_mem p ht)) false ho)
  | @close ps qs hn h ih =>
    rw [write_cons, chars, List.singleton_append, Closer.after_settled (by decide)] at ho
    exact Closer.isSome_after_of_settled (fun p hp ↦ by cases hp; exact .inr rfl) s
      (ih (fun t ht ↦ hc t (List.mem_cons_of_mem _ ht)) false ho)
  | @behind p q ps qs hq hp h ih =>
    obtain ⟨c, rfl, hs⟩ := exists_of_isPunctuation hq
    refine ih (fun t ht ↦ hc t ?_) s ?_
    · obtain ht | ht := List.mem_cons.1 ht
      · cases ht
      · exact List.mem_cons_of_mem _ (List.mem_cons_of_mem p ht)
    · rw [write_cons, write_cons, chars, List.singleton_append, Closer.after_settled hs] at ho
      rw [Closer.after_gap hp (fun t ht ↦ ht ▸ hc t (ht ▸ by simp)) ho] at ho
      rwa [write_cons, chars, List.singleton_append, Closer.after_settled hs]

theorem exists_of_not_settled (h : Thins ps qs) (hq : ¬ Settled qs) :
    ∃ p ps' qs', ps = p :: ps' ∧ qs = p :: qs' ∧ Thins ps' qs' := by
  cases h with
  | nil => exact absurd (fun p hp ↦ nomatch hp) hq
  | keep hp h => exact ⟨_, _, _, rfl, rfl, h⟩
  | space hp h => exact absurd (fun p hp ↦ by cases hp; exact .inl rfl) hq
  | skip hp hs h => exact absurd hs hq
  | close hn h => exact absurd (fun p hp ↦ by cases hp; exact .inr rfl) hq
  | behind hp _ h => exact absurd (fun p hq ↦ by cases hq; exact .inr hp) hq

theorem exists_of_write_eq (h : Thins ps qs) (hc : Canonical ps) {d : Char} {r : List Char}
    (hd : settles d = false) (ho : isOpener d = false) (hr : write qs = d :: r) :
    ∃ ps' qs', ps = plain d :: ps' ∧ r = write qs' ∧ Canonical ps' ∧ Thins ps' qs' := by
  have hq : ¬ Settled qs := by
    intro hq
    cases qs with
    | nil => cases hr
    | cons q qs =>
      obtain ⟨c, rfl, hs⟩ : ∃ c, q = plain c ∧ settles c = true :=
        (hq q rfl).elim exists_of_isBlank exists_of_isPunctuation
      cases hr
      rw [hs] at hd
      cases hd
  obtain ⟨p, ps', qs', rfl, rfl, ht⟩ := h.exists_of_not_settled hq
  rw [write_cons] at hr
  cases hc with
  | span hp hc =>
    obtain ⟨c, t, hp, hs⟩ := hp.exists_opener
    rw [hp] at hr
    cases hr
    rw [hs] at ho
    cases ho
  | plain hp hc =>
    cases hr
    exact ⟨ps', qs', rfl, rfl, hc, ht⟩

/-- What opens in the thinned text opened before. -/
theorem exists_of_opening (h : Thins ps qs) (hc : Canonical ps) {c : Char} {o : Opening}
    {r : List Char} (ho : Opening.of? (c :: write qs) = some (o, r)) :
    ∃ ps' qs', Opening.of? (c :: write ps) = some (o, write ps') ∧ r = write qs' ∧
      Canonical ps' ∧ Thins ps' qs' := by
  unfold Opening.of? at ho
  split at ho
  · next r hr =>
    cases ho
    obtain ⟨rfl, hs⟩ := List.cons.inj hr
    obtain ⟨ps', qs', rfl, rfl, hp, ht⟩ := h.exists_of_write_eq hc (by decide) (by decide) hs
    exact ⟨ps', qs', rfl, rfl, hp, ht⟩
  · next r hr =>
    cases ho
    obtain ⟨rfl, rfl⟩ := List.cons.inj hr
    exact ⟨ps, qs, rfl, rfl, hc, h⟩
  · next r hr =>
    cases ho
    obtain ⟨rfl, rfl⟩ := List.cons.inj hr
    exact ⟨ps, qs, rfl, rfl, hc, h⟩
  · next r hr =>
    cases ho
    obtain ⟨rfl, hs⟩ := List.cons.inj hr
    obtain ⟨ps₁, qs₁, rfl, h₁, hp₁, ht₁⟩ := h.exists_of_write_eq hc (by decide) (by decide) hs
    obtain ⟨ps₂, qs₂, rfl, h₂, hp₂, ht₂⟩ :=
      ht₁.exists_of_write_eq hp₁ (by decide) (by decide) h₁.symm
    obtain ⟨ps₃, qs₃, rfl, rfl, hp₃, ht₃⟩ :=
      ht₂.exists_of_write_eq hp₂ (by decide) (by decide) h₂.symm
    exact ⟨ps₃, qs₃, rfl, rfl, hp₃, ht₃⟩
  · cases ho

theorem span?_eq_none (h : Thins ps qs) (hc : Canonical ps) {c : Char}
    (hn : span? (c :: write ps) = none) : span? (c :: write qs) = none := by
  rw [span?_eq_none_iff] at hn ⊢
  intro o r ho
  obtain ⟨ps', qs', ho', rfl, hc, h⟩ := h.exists_of_opening hc ho
  have hs := Closer.through_eq_none_iff.1 (hn o _ ho')
  exact Closer.through_eq_none_iff.2
    (h.isSome_after (fun t ht ↦ hc.isSpan_of_comment_mem ht) o.closer false hs)

/-- Thinned pieces are what their text splits into. -/
theorem canonical (h : Thins ps qs) (hc : Canonical ps) : Canonical qs := by
  induction h with
  | nil => exact .nil
  | @keep p ps qs hp h ih =>
    cases hc with
    | span hp hc => exact .span hp (ih hc)
    | plain hn hc => exact .plain (h.span?_eq_none hc hn) (ih hc)
  | space hp h ih => exact .plain (span?_of_settles (by decide) _) (ih hc.tail)
  | skip hp hq h ih => exact ih hc.tail
  | close hn h ih => exact ih hc.tail
  | behind hq hp h ih =>
    obtain ⟨c, rfl, hs⟩ := exists_of_isPunctuation hq
    exact ih (.plain (span?_of_settles hs _) hc.tail.tail)

end Thins

namespace Thins

variable {ps qs : List Piece}

theorem behind_append {q : Piece} (hq : q.isPunctuation = true) {lead : List Piece}
    (hl : ∀ p ∈ lead, p.isGap = true) (h : Thins (q :: ps) (q :: qs)) :
    Thins (q :: (lead ++ ps)) (q :: qs) := by
  induction lead with
  | nil => exact h
  | cons p lead ih =>
    exact .behind hq (hl p List.mem_cons_self) (ih fun r hr ↦ hl r (List.mem_cons_of_mem p hr))

end Thins

theorem Canonical.utf8Len_gap_pos {ps : List Piece} (h : Canonical ps) {p : Piece} (hp : p ∈ ps)
    (hg : p.isGap = true) : 0 < String.utf8Len p.chars := by
  cases p with
  | plain c => simpa [chars] using c.utf8Size_pos
  | verbatim t => cases hg
  | comment t =>
    obtain ⟨u, rfl⟩ := exists_of_isSpan_comment (h.isSpan_of_comment_mem hp)
    have : 0 < ('/').utf8Size := by decide
    simp only [chars, String.utf8Len_append, String.utf8Len_cons]
    omega

theorem Thins.utf8Len_le {ps qs : List Piece} (h : Thins ps qs)
    (hg : ∀ p ∈ ps, p.isGap = true → 0 < String.utf8Len p.chars) :
    String.utf8Len (write qs) ≤ String.utf8Len (write ps) := by
  induction h with
  | nil => exact le_rfl
  | @keep p ps qs hp h ih =>
    have := ih fun q hq ↦ hg q (List.mem_cons_of_mem p hq)
    simp only [write_cons, String.utf8Len_append]
    omega
  | @space p ps qs hp h ih =>
    have := ih fun q hq ↦ hg q (List.mem_cons_of_mem p hq)
    have := hg p List.mem_cons_self hp
    have : String.utf8Len (plain ' ').chars = 1 := by decide
    simp only [write_cons, String.utf8Len_append]
    omega
  | @skip p ps qs hp hq h ih =>
    have := ih fun q hq ↦ hg q (List.mem_cons_of_mem p hq)
    rw [write_cons, String.utf8Len_append]
    omega
  | @close ps qs hn h ih =>
    have := ih fun q hq ↦ hg q (List.mem_cons_of_mem _ hq)
    rw [write_cons (plain ';'), String.utf8Len_append]
    omega
  | @behind p q ps qs hq hp h ih =>
    have := ih fun r hr ↦ hg r <| by
      obtain rfl | hr := List.mem_cons.1 hr
      · exact List.mem_cons_self
      · exact List.mem_cons_of_mem q (List.mem_cons_of_mem p hr)
    simp only [write_cons, String.utf8Len_append] at this ⊢
    omega

namespace Thins

variable {g ps qs : List Piece}

theorem eq_space_of_mem (h : Thins ps qs) {p : Piece} (hp : p ∈ qs) (hg : p.isGap = true) :
    p = plain ' ' := by
  induction h with
  | nil => cases hp
  | keep hq h ih =>
    obtain rfl | hp := List.mem_cons.1 hp
    · rw [hq] at hg
      cases hg
    · exact ih hp
  | space hq h ih =>
    obtain rfl | hp := List.mem_cons.1 hp
    · rfl
    · exact ih hp
  | skip hq hs h ih => exact ih hp
  | close hn h ih => exact ih hp
  | behind hq hs h ih => exact ih hp

theorem mem_next? (h : Thins ps qs) {q : Piece} (hq : q ∈ next? ps)
    (hp : q.isPunctuation = false) : q ∈ next? qs := by
  induction h with
  | nil => exact hq
  | keep hk h ih =>
    rw [next?_cons_of_not_isGap hk] at hq ⊢
    exact hq
  | space hg h ih =>
    rw [next?_cons_of_isGap hg] at hq
    exact ih hq
  | skip hg hs h ih =>
    rw [next?_cons_of_isGap hg] at hq
    exact ih hq
  | close hn h ih =>
    cases hq
    cases hp
  | behind hb hg h ih =>
    rw [next?_cons_of_not_isGap (isGap_eq_false_of_isPunctuation hb)] at hq
    cases hq
    rw [hb] at hp
    cases hp

theorem skip_append (hg : ∀ p ∈ g, p.isGap = true) (hq : Settled qs) (h : Thins ps qs) :
    Thins (g ++ ps) qs := by
  induction g with
  | nil => exact h
  | cons p g ih =>
    exact .skip (hg p List.mem_cons_self) hq (ih fun q hq ↦ hg q (List.mem_cons_of_mem p hq))

theorem space_append (hg : ∀ p ∈ g, p.isGap = true) (hne : g ≠ []) (h : Thins ps qs) :
    Thins (g ++ ps) (plain ' ' :: qs) := by
  induction g with
  | nil => exact absurd rfl hne
  | cons p g ih =>
    have hp := hg p List.mem_cons_self
    by_cases hg' : g = []
    · rw [hg']
      exact .space hp h
    · exact .skip hp (fun q hq ↦ Option.some.inj hq ▸ .inl rfl)
        (ih (fun q hq ↦ hg q (List.mem_cons_of_mem p hq)) hg')

end Thins

end Piece

open Piece

namespace Item

variable {xs : List Item} {t : List Piece}

theorem next?_append (ht : ∀ p ∈ t, p.isGap = true) (ps : List Piece) :
    next? (t ++ ps) = next? ps := by
  rw [next?, List.find?_append, List.find?_eq_none.2 fun p hp ↦ by simp [ht p hp], Option.none_or]
  rfl

theorem next?_lay_cons (x : Item) (xs : List Item) (ps : List Piece) :
    next? (lay (x :: xs) ++ ps) = some x.piece := by
  rw [lay_cons, List.append_assoc, next?_append x.gap_isGap, List.cons_append, next?,
    List.find?_cons_of_pos (by simp [x.piece_isGap])]

theorem lay_close_of_isPunctuation {x : Item} (hx : x.piece.isPunctuation = true) (loose : Bool)
    (xs : List Item) : lay (close loose (x :: xs)) = x.piece :: lay (close false xs) := by
  rw [close, lay_cons, hx, Bool.not_true, Bool.and_false, gap_narrow_false, List.nil_append,
    piece_narrow]

theorem settled_lay_close {x : Item} (hx : x.piece.isPunctuation = true) (loose : Bool)
    (xs : List Item) : Settled (lay (close loose (x :: xs))) := by
  rw [lay_close_of_isPunctuation hx]
  exact fun p hp ↦ Option.some.inj hp ▸ .inr hx

theorem thins_cons (hl : Thins (lay xs ++ t) (lay (close true (dropClosing xs))))
    (hq : ∀ q, q.isPunctuation = true →
      Thins (q :: (lay xs ++ t)) (q :: lay (close false (dropClosing xs)))) (x : Item) :
    Thins (x.piece :: (lay xs ++ t)) (lay (close false (dropClosing (x :: xs)))) := by
  obtain hd | ⟨y, ys, hx, rfl, hy, hd⟩ := dropClosing_cons x xs
  · rw [hd, close, lay_cons, Bool.false_and, gap_narrow_false, List.nil_append, piece_narrow]
    cases hp : x.piece.isPunctuation with
    | false => exact .keep x.piece_isGap hl
    | true => exact hq x.piece hp
  · have hp : y.piece.isPunctuation = true := by rw [hy]; rfl
    rw [dropClosing_of_ne (by rw [hy]; decide), lay_close_of_isPunctuation hp, hy] at hl
    rw [hd, lay_close_of_isPunctuation hp, hx, hy]
    exact .close (by rw [next?_lay_cons, hy]) hl

theorem thins_lay (ht : ∀ p ∈ t, p.isGap = true) (xs : List Item) :
    Thins (lay xs ++ t) (lay (close true (dropClosing xs))) ∧
      ∀ q, q.isPunctuation = true →
        Thins (q :: (lay xs ++ t)) (q :: lay (close false (dropClosing xs))) := by
  -- Both together, since the item in front decides which of them the next step needs.
  induction xs with
  | nil =>
    have hs : Thins (t ++ []) [] := .skip_append ht (fun p hp ↦ nomatch hp) .nil
    rw [List.append_nil] at hs
    refine ⟨hs, fun q hq ↦ ?_⟩
    have hb := Thins.behind_append hq ht (.keep (isGap_eq_false_of_isPunctuation hq) .nil)
    rwa [List.append_nil] at hb
  | cons x xs ih =>
    have hx := thins_cons ih.1 ih.2 x
    rw [lay_cons, List.append_assoc, List.cons_append]
    refine ⟨?_, fun q hq ↦ ?_⟩
    swap
    · exact .behind_append hq x.gap_isGap (.keep (isGap_eq_false_of_isPunctuation hq) hx)
    obtain hd | ⟨y, ys, -, -, hy, hd⟩ := dropClosing_cons x xs
    · rw [hd] at hx ⊢
      cases hp : x.piece.isPunctuation with
      | true =>
        rw [close_of_isPunctuation hp]
        exact .skip_append x.gap_isGap (settled_lay_close hp false _) hx
      | false =>
        rw [close, lay_cons, Bool.false_and, gap_narrow_false, List.nil_append, piece_narrow,
          hp] at hx
        rw [close, lay_cons, gap_narrow, piece_narrow, hp]
        by_cases hg : x.gap = []
        · simpa [hg] using hx
        · simpa [hg] using .space_append x.gap_isGap hg hx
    · have hp : y.piece.isPunctuation = true := by rw [hy]; rfl
      rw [hd] at hx ⊢
      rw [close_of_isPunctuation hp]
      exact .skip_append x.gap_isGap (settled_lay_close hp false _) hx

end Item

namespace Piece

/-- Compaction leaves out the gaps in front and thins the rest. -/
theorem Thins.exists_compact (ps : List Piece) :
    ∃ lead rest, ps = lead ++ rest ∧ (∀ p ∈ lead, p.isGap = true) ∧ Thins rest (compact ps) := by
  obtain ⟨t, ht, he⟩ := Item.exists_lay_ofPieces ps
  rw [Item.compact_eq_lay, Item.compacted]
  cases hi : Item.ofPieces ps with
  | nil =>
    rw [hi] at he
    exact ⟨ps, [], by simp, by rw [he]; exact ht, .nil⟩
  | cons x xs =>
    have hl := Item.thins_lay ht xs
    refine ⟨x.gap, x.piece :: (Item.lay xs ++ t), ?_, x.gap_isGap, Item.thins_cons hl.1 hl.2 x⟩
    rw [he, hi, Item.lay_cons, List.append_assoc, List.cons_append]

theorem Canonical.compact {ps : List Piece} (h : Canonical ps) : Canonical (compact ps) := by
  obtain ⟨lead, rest, rfl, -, ht⟩ := Thins.exists_compact ps
  exact ht.canonical h.of_append

end Piece

theorem split_compactChars (cs : List Char) : split (compactChars cs) = Piece.compact (split cs) :=
  (canonical_split cs).compact.split_write

theorem utf8ByteSize_compact_le (css : String) :
    (compact css).utf8ByteSize ≤ css.utf8ByteSize := by
  have hc := canonical_split css.toList
  obtain ⟨lead, rest, hl, -, ht⟩ := Thins.exists_compact (split css.toList)
  rw [hl] at hc
  have h := ht.utf8Len_le fun p hp hg ↦ hc.of_append.utf8Len_gap_pos hp hg
  have hw : String.utf8Len (write rest) ≤ String.utf8Len css.toList := by
    rw [← write_split css.toList, hl, write, write, List.flatMap_append, String.utf8Len_append]
    omega
  rw [compact, String.utf8ByteSize_ofList, compactChars, ← String.utf8Len_toList]
  exact h.trans hw

end LayoutSheet.Stylesheet
