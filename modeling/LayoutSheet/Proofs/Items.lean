import LayoutSheet.Stylesheet.Compact
import Mathlib.Data.List.TakeWhile

namespace LayoutSheet.Stylesheet

namespace Piece

def isGap : Piece → Bool
  | comment _ => true
  | p => p.isBlank

theorem isGap_of_isBlank {p : Piece} (h : p.isBlank = true) : p.isGap = true := by
  cases p with
  | comment t => rfl
  | verbatim t => exact h
  | plain c => exact h

theorem isBlank_eq_false_of_isGap {p : Piece} (h : p.isGap = false) : p.isBlank = false := by
  rw [Bool.eq_false_iff] at h ⊢
  exact fun hb ↦ h (isGap_of_isBlank hb)

theorem isBlank_uncomment (p : Piece) : (uncomment p).isBlank = p.isGap := by
  cases p <;> rfl

theorem uncomment_of_isGap {p : Piece} (h : p.isGap = false) : uncomment p = p := by
  cases p with
  | comment t => cases h
  | verbatim t => rfl
  | plain c => rfl

theorem isGap_eq_false_of_isPunctuation {p : Piece} (h : p.isPunctuation = true) :
    p.isGap = false := by
  cases p with
  | plain c =>
    simp only [isPunctuation, Bool.or_eq_true, beq_iff_eq] at h
    obtain ((rfl | rfl) | rfl) | rfl := h <;> decide
  | comment t => cases h
  | verbatim t => cases h

def stripEnd (ps : List Piece) : List Piece := (ps.reverse.dropWhile isBlank).reverse

theorem tighten_of_isBlank {t : List Piece} (ht : ∀ p ∈ t, p.isBlank = true) : tighten t = t := by
  induction t with
  | nil => rfl
  | cons p t ih =>
    have hq : ∀ q ∈ p :: t, q.isPunctuation = false := by
      intro q hq
      rw [Bool.eq_false_iff]
      intro hp
      have hb := ht q hq
      rw [isBlank_eq_false_of_isGap (isGap_eq_false_of_isPunctuation hp)] at hb
      cases hb
    rw [tighten, ih fun q hq ↦ ht q (List.mem_cons_of_mem p hq)]
    cases t with
    | nil => simp [hq p List.mem_cons_self]
    | cons q t => simp [hq p List.mem_cons_self, hq q (by simp)]

theorem dropLastSemicolon_append {a : List Piece} (ha : ∀ p ∈ a, p.isBlank = true)
    (b : List Piece) : dropLastSemicolon (a ++ b) = a ++ dropLastSemicolon b := by
  induction a with
  | nil => rfl
  | cons p a ih =>
    have hp : p ≠ plain ';' := by
      rintro rfl
      cases ha _ List.mem_cons_self
    rw [List.cons_append, dropLastSemicolon, ih fun q hq ↦ ha q (List.mem_cons_of_mem p hq)]
    simp [hp]

end Piece

open Piece

/-- A piece that is neither blank nor comment, with the blanks and comments right before it. -/
structure Item where
  gap : List Piece
  piece : Piece
  gap_isGap : ∀ p ∈ gap, p.isGap = true
  piece_isGap : piece.isGap = false

namespace Item

/-- The items among a text's pieces. What stands behind the last of them belongs to none. -/
def ofPieces : List Piece → List Item
  | [] => []
  | p :: ps =>
    if hp : p.isGap = true then
      (ofPieces ps).modifyHead fun x ↦
        { x with gap := p :: x.gap, gap_isGap := List.forall_mem_cons.2 ⟨hp, x.gap_isGap⟩ }
    else ⟨[], p, by simp, by simpa using hp⟩ :: ofPieces ps

def dropClosing : List Item → List Item
  | [] => []
  | x :: xs =>
    if x.piece = plain ';' ∧ xs.head?.map piece = some (plain '\x7d') then dropClosing xs
    else x :: dropClosing xs

def lay (xs : List Item) : List Piece := xs.flatMap fun x ↦ x.gap ++ [x.piece]

/-- The item with one space for its gap, or with none where it is not `loose`. -/
def narrow (loose : Bool) (x : Item) : Item where
  gap := if loose && !x.gap.isEmpty then [plain ' '] else []
  piece := x.piece
  gap_isGap p hp := by
    split at hp
    · exact List.mem_singleton.1 hp ▸ rfl
    · cases hp
  piece_isGap := x.piece_isGap

/-- The items with one space for each gap and none beside punctuation. The first has a gap before
it only where it stands `loose`. -/
def close : Bool → List Item → List Item
  | _, [] => []
  | loose, x :: xs =>
    x.narrow (loose && !x.piece.isPunctuation) :: close (!x.piece.isPunctuation) xs

variable {x y : Item} {xs ys : List Item}

theorem lay_cons (x : Item) (xs : List Item) : lay (x :: xs) = x.gap ++ x.piece :: lay xs := by
  simp [lay]

theorem isBlank_piece (x : Item) : x.piece.isBlank = false :=
  isBlank_eq_false_of_isGap x.piece_isGap

theorem piece_narrow (loose : Bool) (x : Item) : (x.narrow loose).piece = x.piece := rfl

theorem gap_narrow (loose : Bool) (x : Item) :
    (x.narrow loose).gap = if loose = true ∧ x.gap ≠ [] then [plain ' '] else [] := by
  simp [narrow]

theorem gap_narrow_false (x : Item) : (x.narrow false).gap = [] := rfl

theorem eq_space_of_mem_gap_narrow {loose : Bool} {p : Piece} (h : p ∈ (x.narrow loose).gap) :
    p = plain ' ' := by
  rw [narrow] at h
  split at h
  · exact List.mem_singleton.1 h
  · cases h

theorem isBlank_of_mem_gap_narrow {loose : Bool} {p : Piece} (h : p ∈ (x.narrow loose).gap) :
    p.isBlank = true := by
  rw [eq_space_of_mem_gap_narrow h]
  rfl

theorem map_piece_ofPieces (ps : List Piece) :
    (ofPieces ps).map piece = ps.filter fun p ↦ !p.isGap := by
  induction ps with
  | nil => rfl
  | cons p ps ih =>
    rw [ofPieces]
    split
    · next hp =>
      rw [List.filter_cons_of_neg (by simp [hp]), ← ih]
      cases ofPieces ps <;> rfl
    · next hp => rw [List.filter_cons_of_pos (by simp [hp]), List.map_cons, ih]

theorem exists_lay_ofPieces (ps : List Piece) :
    ∃ t, (∀ p ∈ t, p.isGap = true) ∧ ps = lay (ofPieces ps) ++ t := by
  induction ps with
  | nil => exact ⟨[], by simp, rfl⟩
  | cons p ps ih =>
    obtain ⟨t, ht, he⟩ := ih
    rw [ofPieces]
    split
    · next hp =>
      cases hi : ofPieces ps with
      | nil =>
        rw [hi] at he
        exact ⟨p :: t, List.forall_mem_cons.2 ⟨hp, ht⟩, congrArg (p :: ·) he⟩
      | cons x xs =>
        rw [hi] at he
        refine ⟨t, ht, ?_⟩
        rw [he, List.modifyHead_cons, lay_cons, lay_cons]
        rfl
    · refine ⟨t, ht, ?_⟩
      rw [lay_cons, List.nil_append, List.cons_append, ← he]

theorem ofPieces_append {g : List Piece} (hg : ∀ p ∈ g, p.isGap = true) {p : Piece}
    (hp : p.isGap = false) (ps : List Piece) :
    ofPieces (g ++ p :: ps) = ⟨g, p, hg, hp⟩ :: ofPieces ps := by
  induction g with
  | nil => simp [ofPieces, hp]
  | cons q g ih =>
    rw [List.cons_append, ofPieces, dif_pos (hg q List.mem_cons_self),
      ih fun r hr ↦ hg r (List.mem_cons_of_mem q hr)]
    rfl

theorem ofPieces_lay (xs : List Item) : ofPieces (lay xs) = xs := by
  induction xs with
  | nil => rfl
  | cons x xs ih => rw [lay_cons, ofPieces_append x.gap_isGap x.piece_isGap, ih]

theorem map_piece_close (loose : Bool) (xs : List Item) :
    (close loose xs).map piece = xs.map piece := by
  induction xs generalizing loose with
  | nil => rfl
  | cons x xs ih => rw [close, List.map_cons, List.map_cons, ih, piece_narrow]

theorem dropClosing_of_ne (h : x.piece ≠ plain ';') (xs : List Item) :
    dropClosing (x :: xs) = x :: dropClosing xs := by
  rw [dropClosing, if_neg fun hx ↦ h hx.1]

theorem dropClosing_cons (x : Item) (xs : List Item) :
    dropClosing (x :: xs) = x :: dropClosing xs ∨ ∃ y ys, x.piece = plain ';' ∧
      xs = y :: ys ∧ y.piece = plain '\x7d' ∧ dropClosing (x :: xs) = y :: dropClosing ys := by
  rw [dropClosing]
  split
  · next hx =>
    right
    obtain ⟨hp, hy⟩ := hx
    cases xs with
    | nil => cases hy
    | cons y ys =>
      have hy : y.piece = plain '\x7d' := by simpa using hy
      exact ⟨y, ys, hp, rfl, hy, dropClosing_of_ne (by rw [hy]; decide) ys⟩
  · exact .inl rfl

theorem close_of_isPunctuation (h : x.piece.isPunctuation = true) (loose : Bool)
    (xs : List Item) : close loose (x :: xs) = close false (x :: xs) := by
  simp [close, h]

theorem exists_squeeze (ps : List Piece) : ∃ t, (∀ p ∈ t, p.isBlank = true) ∧
    squeeze (ps.map uncomment) = lay ((ofPieces ps).map (narrow true)) ++ t := by
  induction ps with
  | nil => exact ⟨[], by simp, rfl⟩
  | cons p ps ih =>
    obtain ⟨t, ht, he⟩ := ih
    rw [List.map_cons, squeeze, isBlank_uncomment, he, ofPieces]
    split
    · cases hi : ofPieces ps with
      | nil =>
        simp only [List.map_nil, lay, List.flatMap_nil, List.nil_append, List.modifyHead_nil]
        split
        · exact ⟨t, ht, rfl⟩
        · exact ⟨plain ' ' :: t, List.forall_mem_cons.2 ⟨rfl, ht⟩, rfl⟩
      | cons x xs =>
        have hs : x.piece ≠ plain ' ' := by
          intro h
          have hb := x.isBlank_piece
          rw [h] at hb
          cases hb
        refine ⟨t, ht, ?_⟩
        rw [List.modifyHead_cons, List.map_cons, List.map_cons, lay_cons, lay_cons]
        by_cases hg : x.gap = []
        · simp [narrow, hg, hs]
        · simp [narrow, hg]
    · next hp =>
      refine ⟨t, ht, ?_⟩
      rw [uncomment_of_isGap (by simpa using hp), List.map_cons, lay_cons]
      rfl

theorem exists_dropWhile_lay (xs : List Item) {t : List Piece} (ht : ∀ p ∈ t, p.isBlank = true) :
    ∃ u, (∀ p ∈ u, p.isBlank = true) ∧
      (lay (close true xs) ++ t).dropWhile isBlank = lay (close false xs) ++ u := by
  cases xs with
  | nil => exact ⟨[], by simp, List.dropWhile_eq_nil_iff.2 ht⟩
  | cons x xs =>
    refine ⟨t, ht, ?_⟩
    rw [close, close, lay_cons, lay_cons, List.append_assoc,
      List.dropWhile_append_of_pos fun p ↦ isBlank_of_mem_gap_narrow, List.cons_append,
      List.dropWhile_cons_of_neg (by simp [piece_narrow, isBlank_piece])]
    rfl

theorem exists_tighten (xs : List Item) {t : List Piece} (ht : ∀ p ∈ t, p.isBlank = true) :
    ∃ u, (∀ p ∈ u, p.isBlank = true) ∧
      tighten (lay (xs.map (narrow true)) ++ t) = lay (close true xs) ++ u := by
  induction xs with
  | nil => exact ⟨t, ht, tighten_of_isBlank ht⟩
  | cons x xs ih =>
    obtain ⟨u, hu, he⟩ := ih
    obtain ⟨v, hv, hd⟩ := exists_dropWhile_lay xs hu
    -- First without the gap before it, which the item alone decides on.
    have hx : ∃ w, (∀ p ∈ w, p.isBlank = true) ∧
        tighten (x.piece :: (lay (xs.map (narrow true)) ++ t)) =
          x.piece :: (lay (close (!x.piece.isPunctuation) xs) ++ w) := by
      rw [tighten, he]
      split
      · next hp => exact ⟨v, hv, by rw [hd, hp]; rfl⟩
      · next hp => exact ⟨u, hu, by rw [x.isBlank_piece, Bool.eq_false_iff.2 hp]; rfl⟩
    obtain ⟨w, hw, hx⟩ := hx
    refine ⟨w, hw, ?_⟩
    rw [List.map_cons, lay_cons, close, lay_cons, piece_narrow, piece_narrow]
    by_cases hg : x.gap = []
    · simp [gap_narrow, hg, hx]
    · have hs : (plain ' ').isPunctuation = false := rfl
      have hb : (plain ' ').isBlank = true := rfl
      rw [gap_narrow, if_pos ⟨rfl, hg⟩, List.cons_append, List.cons_append, List.nil_append,
        List.cons_append, tighten, hx]
      by_cases hq : x.piece.isPunctuation = true <;> simp [gap_narrow, hg, hq, hs, hb]

theorem dropLastSemicolon_lay {t : List Piece} (ht : ∀ p ∈ t, p.isBlank = true) (loose : Bool)
    (xs : List Item) :
    dropLastSemicolon (lay (close loose xs) ++ t) = lay (close loose (dropClosing xs)) ++ t := by
  induction xs generalizing loose with
  | nil => simpa [dropLastSemicolon, dropClosing, close, lay] using dropLastSemicolon_append ht []
  | cons x xs ih =>
    have hn : x.piece = plain ';' →
        ((lay (close (!x.piece.isPunctuation) xs) ++ t).head? = some (plain '\x7d') ↔
          xs.head?.map piece = some (plain '\x7d')) := by
      intro hx
      have hs : x.piece.isPunctuation = true := by rw [hx]; rfl
      cases xs with
      | nil =>
        refine iff_of_false (fun h ↦ ?_) (by simp)
        cases ht _ (List.mem_of_mem_head? h)
      | cons y ys => simp [hs, close, lay_cons, gap_narrow_false, piece_narrow]
    rw [close, lay_cons, piece_narrow, List.append_assoc,
      dropLastSemicolon_append fun p ↦ isBlank_of_mem_gap_narrow, List.cons_append,
      dropLastSemicolon, ih, dropClosing]
    simp only [Bool.and_eq_true, decide_eq_true_eq, and_congr_right hn]
    split
    · next hx =>
      obtain ⟨hp, hy⟩ := hx
      have hs : x.piece.isPunctuation = true := by rw [hp]; rfl
      cases xs with
      | nil => cases hy
      | cons y ys =>
        have hy : y.piece = plain '\x7d' := by simpa using hy
        have hd : dropClosing (y :: ys) = y :: dropClosing ys := by simp [dropClosing, hy]
        rw [hs, hd, close_of_isPunctuation (by rw [hy]; rfl) loose, Bool.not_true, Bool.and_false,
          gap_narrow_false]
        rfl
    · rw [close, lay_cons, piece_narrow, List.append_assoc, List.cons_append]

theorem stripEnd_lay (xs : List Item) {t : List Piece} (ht : ∀ p ∈ t, p.isBlank = true) :
    stripEnd (lay xs ++ t) = lay xs := by
  have ht : ∀ p ∈ t.reverse, p.isBlank = true := fun p hp ↦ ht p (List.mem_reverse.1 hp)
  rw [stripEnd, List.reverse_append, List.dropWhile_append_of_pos ht]
  obtain rfl | ⟨ys, y, rfl⟩ := xs.eq_nil_or_concat
  · rfl
  · have hl : (lay (ys.concat y)).reverse = y.piece :: (lay ys ++ y.gap).reverse := by simp [lay]
    rw [hl, List.dropWhile_cons_of_neg (by simp [y.isBlank_piece]), ← hl, List.reverse_reverse]

def compacted (ps : List Piece) : List Item := close false (dropClosing (ofPieces ps))

theorem compact_eq_lay (ps : List Piece) : Piece.compact ps = lay (compacted ps) := by
  obtain ⟨t, ht, hs⟩ := exists_squeeze ps
  obtain ⟨u, hu, htight⟩ := exists_tighten (ofPieces ps) ht
  obtain ⟨v, hv, hdrop⟩ := exists_dropWhile_lay (dropClosing (ofPieces ps)) hu
  calc Piece.compact ps
      = stripEnd ((dropLastSemicolon (tighten (squeeze (ps.map uncomment)))).dropWhile isBlank) :=
        rfl
    _ = stripEnd (lay (compacted ps) ++ v) := by
        rw [hs, htight, dropLastSemicolon_lay hu, hdrop, compacted]
    _ = lay (compacted ps) := stripEnd_lay _ hv

theorem ofPieces_compact (ps : List Piece) : ofPieces (Piece.compact ps) = compacted ps := by
  rw [compact_eq_lay, ofPieces_lay]

end Item

end LayoutSheet.Stylesheet
