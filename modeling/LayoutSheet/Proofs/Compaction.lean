import LayoutSheet.Proofs.Thinning

namespace LayoutSheet.Stylesheet

open Piece

namespace Piece

def isVerbatim : Piece → Bool
  | verbatim _ => true
  | _ => false

theorem filter_isVerbatim (ps : List Piece) :
    ps.filter isVerbatim = ((Item.ofPieces ps).map Item.piece).filter isVerbatim := by
  rw [Item.map_piece_ofPieces, List.filter_filter]
  refine List.filter_congr fun p _ ↦ ?_
  cases p <;> rfl

theorem filter_isVerbatim_dropClosing (xs : List Item) :
    ((Item.dropClosing xs).map Item.piece).filter isVerbatim =
      (xs.map Item.piece).filter isVerbatim := by
  induction xs with
  | nil => rfl
  | cons x xs ih =>
    rw [Item.dropClosing, List.map_cons]
    split
    · next hx => rw [ih, hx.1, List.filter_cons_of_neg (by decide)]
    · rw [List.map_cons, List.filter_cons, List.filter_cons, ih]

end Piece

namespace Item

variable {x y : Item} {xs : List Item}

theorem getElem?_close_succ {i : ℕ} (hx : xs[i]? = some x) (hy : xs[i + 1]? = some y)
    (loose : Bool) : (close loose xs)[i + 1]? =
      some (y.narrow (!x.piece.isPunctuation && !y.piece.isPunctuation)) := by
  induction xs generalizing i loose with
  | nil => cases hx
  | cons z zs ih =>
    rw [close, List.getElem?_cons_succ]
    rw [List.getElem?_cons_succ] at hy
    cases i with
    | zero =>
      cases hx
      cases zs with
      | nil => cases hy
      | cons w ws =>
        cases hy
        rfl
    | succ i => exact ih hx hy _

theorem exists_of_getElem?_close {loose : Bool} {i : ℕ} (h : (close loose xs)[i]? = some y) :
    ∃ x, xs[i]? = some x ∧ x.piece = y.piece := by
  have hm := congrArg (·[i]?) (map_piece_close loose xs)
  simp only [List.getElem?_map] at hm
  rw [h] at hm
  exact Option.map_eq_some_iff.1 hm.symm

theorem gap_eq_nil_of_isPunctuation {loose : Bool} {i : ℕ} (hx : (close loose xs)[i]? = some x)
    (hy : (close loose xs)[i + 1]? = some y)
    (h : x.piece.isPunctuation = true ∨ y.piece.isPunctuation = true) : y.gap = [] := by
  obtain ⟨u, hu, he⟩ := exists_of_getElem?_close hx
  obtain ⟨v, hv, -⟩ := exists_of_getElem?_close hy
  rw [getElem?_close_succ hu hv] at hy
  cases hy
  rw [← he, piece_narrow] at h
  obtain h | h := h <;> simp [gap_narrow, h]

theorem isGap_of_mem_head?_lay {p : Piece} (h : p ∈ (lay (close false xs)).head?) :
    p.isGap = false := by
  cases xs with
  | nil => cases h
  | cons x xs =>
    rw [close, lay_cons, Bool.false_and, gap_narrow_false] at h
    exact Option.some.inj h ▸ x.piece_isGap

theorem isGap_of_mem_getLast?_lay {p : Piece} (h : p ∈ (lay xs).getLast?) : p.isGap = false := by
  obtain rfl | ⟨ys, y, rfl⟩ := xs.eq_nil_or_concat
  · cases h
  · have hp : p = y.piece := by simpa [lay, eq_comm] using h
    exact hp ▸ y.piece_isGap

end Item

/-- What compaction makes of pieces: the gaps between the items change, and semicolons right before
a closing brace go. -/
structure Compacts (ps qs : List Piece) : Prop where
  no_comment : ∀ t, comment t ∉ qs
  verbatim : qs.filter isVerbatim = ps.filter isVerbatim
  items : (Item.ofPieces qs).map Item.piece =
    (Item.dropClosing (Item.ofPieces ps)).map Item.piece
  between : ∀ (i : ℕ) (x y : Item), (Item.dropClosing (Item.ofPieces ps))[i]? = some x →
    (Item.dropClosing (Item.ofPieces ps))[i + 1]? = some y →
    x.piece.isPunctuation = false → y.piece.isPunctuation = false →
    ((Item.ofPieces qs)[i + 1]?).map Item.gap = some (if y.gap = [] then [] else [plain ' '])
  beside : ∀ (i : ℕ) (x y : Item), (Item.ofPieces qs)[i]? = some x →
    (Item.ofPieces qs)[i + 1]? = some y →
    x.piece.isPunctuation = true ∨ y.piece.isPunctuation = true → y.gap = []
  first : ∀ p ∈ qs.head?, p.isGap = false
  last : ∀ p ∈ qs.getLast?, p.isGap = false

theorem Compacts.compact (ps : List Piece) : Compacts ps (Piece.compact ps) := by
  have hl := Item.compact_eq_lay ps
  have hi := Item.ofPieces_compact ps
  rw [Item.compacted] at hl hi
  constructor
  · intro t ht
    obtain ⟨lead, rest, -, -, h⟩ := Thins.exists_compact ps
    cases h.eq_space_of_mem ht rfl
  · rw [filter_isVerbatim, hi, Item.map_piece_close, filter_isVerbatim_dropClosing,
      filter_isVerbatim ps]
  · rw [hi, Item.map_piece_close]
  · intro i x y hx hy hp hq
    rw [hi, Item.getElem?_close_succ hx hy, Option.map_some, Item.gap_narrow, hp, hq]
    by_cases hg : y.gap = [] <;> simp [hg]
  · intro i x y hx hy
    rw [hi] at hx hy
    exact Item.gap_eq_nil_of_isPunctuation hx hy
  · rw [hl]
    exact fun p ↦ Item.isGap_of_mem_head?_lay
  · rw [hl]
    exact fun p ↦ Item.isGap_of_mem_getLast?_lay

/-- Compaction only compacts, whatever the text. -/
theorem compact_compacts (css : String) :
    Compacts (split css.toList) (split (compact css).toList) ∧
      (compact css).utf8ByteSize ≤ css.utf8ByteSize := by
  have hs : split (compact css).toList = Piece.compact (split css.toList) := by
    rw [compact, String.toList_ofList, split_compactChars]
  rw [hs]
  exact ⟨Compacts.compact _, utf8ByteSize_compact_le css⟩

end LayoutSheet.Stylesheet
