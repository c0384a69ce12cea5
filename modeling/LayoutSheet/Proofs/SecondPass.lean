import LayoutSheet.Proofs.Thinning

namespace LayoutSheet.Stylesheet

namespace Piece

theorem pair_prefix_iff {a b p : Piece} {ps : List Piece} :
    [a, b] <+: p :: ps ↔ p = a ∧ ps.head? = some b := by
  rw [List.cons_prefix_cons, eq_comm]
  refine and_congr_right fun _ ↦ ?_
  cases ps with
  | nil => simp
  | cons q ps => simp [eq_comm]

theorem dropLastSemicolon_cons_neg {p : Piece} {ps : List Piece}
    (h : ¬[plain ';', plain '\x7d'] <+: p :: ps) :
    dropLastSemicolon (p :: ps) = p :: dropLastSemicolon ps := by
  rw [pair_prefix_iff] at h
  rw [dropLastSemicolon, if_neg (by simpa using h)]

theorem dropLastSemicolon_cons_pos {p : Piece} {ps : List Piece}
    (h : [plain ';', plain '\x7d'] <+: p :: ps) :
    dropLastSemicolon (p :: ps) = dropLastSemicolon ps := by
  rw [pair_prefix_iff] at h
  rw [dropLastSemicolon, if_pos (by simpa using h)]

theorem dropLastSemicolon_sublist (ps : List Piece) : (dropLastSemicolon ps).Sublist ps := by
  induction ps with
  | nil => exact .slnil
  | cons p ps ih =>
    by_cases h : [plain ';', plain '\x7d'] <+: p :: ps
    · rw [dropLastSemicolon_cons_pos h]
      exact ih.cons p
    · rw [dropLastSemicolon_cons_neg h]
      exact ih.cons_cons p

theorem dropLastSemicolon_eq_self_iff (ps : List Piece) :
    dropLastSemicolon ps = ps ↔ ¬[plain ';', plain '\x7d'] <:+: ps := by
  induction ps with
  | nil => simp [dropLastSemicolon]
  | cons p ps ih =>
    rw [List.infix_cons_iff]
    by_cases h : [plain ';', plain '\x7d'] <+: p :: ps
    · refine iff_of_false ?_ (not_not_intro (.inl h))
      intro he
      have hl := (dropLastSemicolon_sublist ps).length_le
      rw [← dropLastSemicolon_cons_pos h, he, List.length_cons] at hl
      omega
    · rw [dropLastSemicolon_cons_neg h, List.cons_inj_right, ih]
      exact not_congr (or_iff_right h).symm

theorem head?_dropLastSemicolon (ps : List Piece) :
    (dropLastSemicolon ps).head? = some (plain '\x7d') ↔
      ps.head? = some (plain '\x7d') ∨ [plain ';', plain '\x7d'] <+: ps := by
  cases ps with
  | nil => simp [dropLastSemicolon]
  | cons p ps =>
    by_cases h : [plain ';', plain '\x7d'] <+: p :: ps
    · obtain ⟨-, hb⟩ := pair_prefix_iff.1 h
      obtain ⟨qs, rfl⟩ := List.head?_eq_some_iff.1 hb
      have hn : ¬[plain ';', plain '\x7d'] <+: plain '\x7d' :: qs := by
        rw [pair_prefix_iff]
        rintro ⟨hp, -⟩
        cases hp
      rw [dropLastSemicolon_cons_pos h, dropLastSemicolon_cons_neg hn]
      exact iff_of_true rfl (.inr h)
    · rw [dropLastSemicolon_cons_neg h, or_iff_left h]
      rfl

theorem infix_dropLastSemicolon_iff (ps : List Piece) :
    [plain ';', plain '\x7d'] <:+: dropLastSemicolon ps ↔
      [plain ';', plain ';', plain '\x7d'] <:+: ps := by
  induction ps with
  | nil => simp [dropLastSemicolon]
  | cons p ps ih =>
    rw [List.infix_cons_iff, List.cons_prefix_cons (a := plain ';')]
    by_cases h : [plain ';', plain '\x7d'] <+: p :: ps
    · rw [dropLastSemicolon_cons_pos h, ih]
      refine (or_iff_right ?_).symm
      rintro ⟨-, h'⟩
      obtain ⟨-, hb⟩ := pair_prefix_iff.1 h
      obtain ⟨qs, rfl⟩ := List.head?_eq_some_iff.1 hb
      cases (pair_prefix_iff.1 h').1
    · rw [dropLastSemicolon_cons_neg h, List.infix_cons_iff, ih, pair_prefix_iff,
        head?_dropLastSemicolon, eq_comm]
      refine or_congr_left (and_congr_right ?_)
      rintro rfl
      exact or_iff_right fun hb ↦ h (pair_prefix_iff.2 ⟨rfl, hb⟩)

end Piece

open Piece

namespace Item

theorem narrow_narrow (loose : Bool) (x : Item) :
    (x.narrow loose).narrow loose = x.narrow loose := by
  cases loose <;> cases hg : x.gap <;> simp [narrow, hg]

theorem close_close (loose : Bool) (xs : List Item) :
    close loose (close loose xs) = close loose xs := by
  induction xs generalizing loose with
  | nil => rfl
  | cons x xs ih => rw [close, close, piece_narrow, narrow_narrow, ih]

theorem head?_map_close (loose : Bool) (xs : List Item) :
    (close loose xs).head?.map piece = xs.head?.map piece := by
  rw [← List.head?_map, ← List.head?_map, map_piece_close]

theorem dropClosing_close (loose : Bool) (xs : List Item) :
    dropClosing (close loose xs) = close loose (dropClosing xs) := by
  induction xs generalizing loose with
  | nil => rfl
  | cons x xs ih =>
    rw [close, dropClosing, dropClosing, piece_narrow, head?_map_close, ih]
    split
    · next hx =>
      obtain ⟨hp, hy⟩ := hx
      have hq : x.piece.isPunctuation = true := by
        rw [hp]
        rfl
      cases xs with
      | nil => cases hy
      | cons y ys =>
        have hy : y.piece = plain '\x7d' := by simpa using hy
        rw [hq, dropClosing_of_ne (by rw [hy]; decide),
          close_of_isPunctuation (by rw [hy]; rfl) loose]
        rfl
    · rw [close]

theorem map_piece_dropClosing (xs : List Item) :
    (dropClosing xs).map piece = dropLastSemicolon (xs.map piece) := by
  induction xs with
  | nil => rfl
  | cons x xs ih =>
    rw [dropClosing, List.map_cons, dropLastSemicolon, ← ih, List.head?_map]
    simp only [Bool.and_eq_true, decide_eq_true_eq]
    split
    · rfl
    · rfl

theorem dropClosing_sublist (xs : List Item) : (dropClosing xs).Sublist xs := by
  induction xs with
  | nil => exact .slnil
  | cons x xs ih =>
    rw [dropClosing]
    split
    · exact ih.cons x
    · exact ih.cons_cons x

theorem dropClosing_eq_self {xs : List Item}
    (h : dropLastSemicolon (xs.map piece) = xs.map piece) : dropClosing xs = xs := by
  have hl := congrArg List.length h
  rw [← map_piece_dropClosing, List.length_map, List.length_map] at hl
  exact (dropClosing_sublist xs).eq_of_length hl

theorem compacted_compact (ps : List Piece) :
    compacted (Piece.compact ps) = close false (dropClosing (dropClosing (ofPieces ps))) := by
  rw [compacted, ofPieces_compact, compacted, dropClosing_close, close_close]

end Item

namespace Piece

theorem compact_compact (ps : List Piece) :
    compact (compact ps) = dropLastSemicolon (compact ps) := by
  have h := Item.dropLastSemicolon_lay (t := []) (by simp) false
    (Item.dropClosing (Item.ofPieces ps))
  rw [List.append_nil, List.append_nil] at h
  rw [Item.compact_eq_lay, Item.compacted_compact, Item.compact_eq_lay, Item.compacted, h]

theorem compact_compact_eq_iff (ps : List Piece) :
    compact (compact ps) = compact ps ↔
      ¬[plain ';', plain ';', plain '\x7d'] <:+: ps.filter fun p ↦ !p.isGap := by
  have hi : compact (compact ps) = compact ps ↔
      dropLastSemicolon ((Item.dropClosing (Item.ofPieces ps)).map Item.piece) =
        (Item.dropClosing (Item.ofPieces ps)).map Item.piece := by
    constructor
    · intro h
      have hp := congrArg (fun qs ↦ (Item.ofPieces qs).map Item.piece) h
      simp only [Item.ofPieces_compact, Item.compacted_compact] at hp
      rwa [Item.compacted, Item.map_piece_close, Item.map_piece_close,
        Item.map_piece_dropClosing] at hp
    · intro h
      rw [Item.compact_eq_lay, Item.compacted_compact, Item.dropClosing_eq_self h,
        Item.compact_eq_lay, Item.compacted]
  rw [hi, dropLastSemicolon_eq_self_iff, Item.map_piece_dropClosing, infix_dropLastSemicolon_iff,
    Item.map_piece_ofPieces]

end Piece

theorem split_toList_compact (css : String) :
    split (compact css).toList = Piece.compact (split css.toList) := by
  rw [compact, String.toList_ofList, split_compactChars]

/-- A second pass takes the semicolons right before a closing brace that are left. It changes
nothing exactly when, blanks and comments aside, no two semicolons stood before a closing brace. -/
theorem compact_twice (css : String) :
    split (compact (compact css)).toList = dropLastSemicolon (split (compact css).toList) ∧
      (compact (compact css) = compact css ↔
        ¬[plain ';', plain ';', plain '\x7d'] <:+: (split css.toList).filter fun p ↦ !p.isGap) := by
  have hs : split (compact (compact css)).toList =
      Piece.compact (Piece.compact (split css.toList)) := by
    rw [split_toList_compact, split_toList_compact]
  refine ⟨?_, ?_⟩
  · rw [hs, compact_compact, split_toList_compact]
  · rw [← compact_compact_eq_iff, ← hs, ← split_toList_compact]
    constructor
    · intro h
      rw [h]
    · intro h
      have hw := congrArg write h
      rw [write_split, write_split] at hw
      exact String.toList_inj.1 hw

def doubled : String := "a\x7bb:c;;\x7d"

/-- The first pass leaves one of them, which the second takes. -/
theorem not_stable_doubled : ¬∀ css, compact (compact css) = compact css := by
  intro h
  have h₁ : compact doubled = "a\x7bb:c;\x7d" := by cbv
  have h₂ : compact "a\x7bb:c;\x7d" = "a\x7bb:c\x7d" := by cbv
  have hd := h doubled
  rw [h₁, h₂] at hd
  exact absurd hd (by decide)

end LayoutSheet.Stylesheet
