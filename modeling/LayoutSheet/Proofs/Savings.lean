import LayoutSheet.Proofs.Gathering
import LayoutSheet.Proofs.IndexedGrouping
import LayoutSheet.Sheet.Rendering
import Mathlib.Algebra.BigOperators.Group.List.Basic
import Mathlib.Algebra.GroupWithZero.Nat

namespace LayoutSheet

namespace Stylesheet

def lineBytes (lines : List String) : Nat := (lines.map fun l ↦ l.utf8ByteSize + 1).sum

theorem lineBytes_cons (l : String) (lines : List String) :
    lineBytes (l :: lines) = l.utf8ByteSize + 1 + lineBytes lines := List.sum_cons

theorem lineBytes_append (a b : List String) :
    lineBytes (a ++ b) = lineBytes a + lineBytes b := by
  simp [lineBytes]

theorem utf8ByteSize_intercalate_cons (sep s : String) (l : List String) :
    (String.intercalate sep (s :: l)).utf8ByteSize =
      s.utf8ByteSize + (l.map fun t ↦ sep.utf8ByteSize + t.utf8ByteSize).sum := by
  induction l generalizing s with
  | nil => rfl
  | cons t l ih =>
    rw [String.intercalate_cons_of_ne_nil (List.cons_ne_nil t l), String.utf8ByteSize_append,
      String.utf8ByteSize_append, ih, List.map_cons, List.sum_cons]
    omega

theorem utf8ByteSize_intercalate_append (sep : String) {l : List String} (h : l ≠ [])
    (m : List String) : (String.intercalate sep (l ++ m)).utf8ByteSize =
      (String.intercalate sep l).utf8ByteSize +
        (m.map fun t ↦ sep.utf8ByteSize + t.utf8ByteSize).sum := by
  obtain ⟨s, l, rfl⟩ := List.exists_cons_of_ne_nil h
  rw [List.cons_append, utf8ByteSize_intercalate_cons, utf8ByteSize_intercalate_cons,
    List.map_append, List.sum_append, Nat.add_assoc]

theorem utf8ByteSize_unlines {lines : List String} (h : lines ≠ []) :
    (unlines lines).utf8ByteSize + 1 = lineBytes lines := by
  obtain ⟨l, m, rfl⟩ := List.exists_cons_of_ne_nil h
  have hn (t : String) : "\n".utf8ByteSize + t.utf8ByteSize = t.utf8ByteSize + 1 :=
    Nat.add_comm 1 _
  rw [unlines, utf8ByteSize_intercalate_cons, lineBytes_cons, lineBytes]
  simp only [hn]
  omega

theorem lineBytes_spaced {ls : List (List String)} (h : ls ≠ []) :
    lineBytes (spaced ls) + 1 = (ls.map fun l ↦ lineBytes l + 1).sum := by
  induction ls with
  | nil => exact absurd rfl h
  | cons a r ih =>
    cases r with
    | nil => simp [spaced]
    | cons b r =>
      have hr := ih (List.cons_ne_nil b r)
      have he : ("" : String).utf8ByteSize = 0 := rfl
      rw [spaced, lineBytes_append, lineBytes_cons, he, List.map_cons, List.sum_cons, ← hr]
      · omega
      · exact List.cons_ne_nil b r

theorem lineBytes_spaced_map {α : Type} {f f' : α → List String} {more : α → Nat} {l : List α}
    (h : ∀ a ∈ l, lineBytes (f' a) = lineBytes (f a) + more a) :
    lineBytes (spaced (l.map f')) = lineBytes (spaced (l.map f)) + (l.map more).sum := by
  by_cases hl : l = []
  · subst hl
    rfl
  · have hf : lineBytes (spaced (l.map f)) + 1 = ((l.map f).map fun a ↦ lineBytes a + 1).sum :=
      lineBytes_spaced (by simpa using hl)
    have hf' : lineBytes (spaced (l.map f')) + 1 = ((l.map f').map fun a ↦ lineBytes a + 1).sum :=
      lineBytes_spaced (by simpa using hl)
    have hs : ((l.map f').map fun a ↦ lineBytes a + 1).sum =
        ((l.map f).map fun a ↦ lineBytes a + 1).sum + (l.map more).sum := by
      rw [List.map_map, List.map_map, ← List.sum_map_add]
      refine congrArg List.sum (List.map_congr_left fun a ha ↦ ?_)
      rw [Function.comp_apply, Function.comp_apply, h a ha]
      omega
    omega

theorem utf8ByteSize_indent (depth : Nat) : (indent depth).utf8ByteSize = 2 * depth := by
  induction depth with
  | zero => rfl
  | succ n ih =>
    have hs : "  ".utf8ByteSize = 2 := rfl
    have hi : indent (n + 1) = "  " ++ indent n := by
      rw [indent, List.replicate_succ, String.join_cons]
      rfl
    rw [hi, String.utf8ByteSize_append, ih, hs]
    omega

/-- What a rule spends on its declarations, its braces and the empty line to the next. -/
def bodyBytes (depth : Nat) (declarations : List (String × String)) : Nat :=
  lineBytes (declarations.map (declarationLine depth)) + 2 * depth + 4

theorem lineBytes_selectorLines (depth : Nat) {selectors : List String} (h : selectors ≠ []) :
    lineBytes (selectorLines depth selectors) =
      (selectors.map fun s ↦ s.utf8ByteSize + 2 * depth + 2).sum + 1 := by
  induction selectors with
  | nil => exact absurd rfl h
  | cons s r ih =>
    cases r with
    | nil =>
      have hb : " \x7b".utf8ByteSize = 2 := rfl
      simp [selectorLines, lineBytes, utf8ByteSize_indent, hb]
      omega
    | cons t r =>
      have hc : ",".utf8ByteSize = 1 := rfl
      rw [selectorLines, lineBytes_cons, ih (List.cons_ne_nil t r)]
      · simp only [List.map_cons, List.sum_cons, String.utf8ByteSize_append, utf8ByteSize_indent,
          hc]
        omega
      · exact List.cons_ne_nil t r

theorem lineBytes_ruleLines (depth : Nat) {selectors : List String} (h : selectors ≠ [])
    (declarations : List (String × String)) :
    lineBytes (ruleLines depth selectors declarations) + 1 =
      (selectors.map fun s ↦ s.utf8ByteSize + 2 * depth + 2).sum +
        bodyBytes depth declarations := by
  have hb : "\x7d".utf8ByteSize = 1 := rfl
  have hc : lineBytes [indent depth ++ "\x7d"] = 2 * depth + 2 := by
    simp [lineBytes, utf8ByteSize_indent, hb]
  rw [ruleLines, lineBytes_append, lineBytes_append, lineBytes_selectorLines depth h, hc,
    bodyBytes]
  omega

theorem lineBytes_groupLines (depth : Nat) {groups : List Group} (hn : groups ≠ [])
    (h : ∀ g ∈ groups, g.selectors ≠ []) :
    lineBytes (groupLines depth groups) + 1 =
      (groups.map fun g ↦ (g.selectors.map fun s ↦ s.utf8ByteSize + 2 * depth + 2).sum +
        bodyBytes depth g.declarations.toList).sum := by
  rw [groupLines, lineBytes_spaced (by simpa using hn), List.map_map]
  refine congrArg List.sum (List.map_congr_left fun g hg ↦ ?_)
  exact lineBytes_ruleLines depth (h g hg) g.declarations.toList

end Stylesheet

namespace Layer

variable (l : Layer)

theorem bodyBytes_eq_of_get? (depth : Nat) {a b : Declarations}
    (h : ∀ property, a.get? property = b.get? property) :
    Stylesheet.bodyBytes depth a.toList = Stylesheet.bodyBytes depth b.toList := by
  have hp : a.toList.Perm b.toList := Declarations.perm_toList_iff.2 h
  rw [Stylesheet.bodyBytes, Stylesheet.bodyBytes, Stylesheet.lineBytes, Stylesheet.lineBytes,
    ((hp.map _).map _).sum_eq]

/-- What the separate rules of a layer spend more than the merged ones: the declarations of every
selector but the first of its group. -/
def saving (depth : Nat) : Nat :=
  (l.merged.map fun g ↦
    (g.selectors.length - 1) * Stylesheet.bodyBytes depth g.declarations.toList).sum

theorem selectors_ne_nil {g : Group} (hg : g ∈ l.merged) : g.selectors ≠ [] := by
  obtain ⟨s, hs, -⟩ := l.exists_of_mem_merged hg
  exact List.ne_nil_of_mem hs

theorem sum_selectors_merged (f : String → Nat) :
    (l.keys.map f).sum = (l.merged.map fun g ↦ (g.selectors.map f).sum).sum := by
  rw [← (l.perm_selectors.map f).sum_eq, List.flatMap_def, List.map_flatten, List.sum_flatten,
    List.map_map, List.map_map]
  rfl

theorem merged_eq_nil_iff : l.merged = [] ↔ l.toList = [] := by
  have hk : l.keys = [] ↔ l.toList = [] := List.map_eq_nil_iff
  constructor
  · intro h
    have hp := l.perm_selectors
    rw [h, List.flatMap_nil, List.nil_perm, hk] at hp
    exact hp
  · intro h
    rw [merged, h]
    rfl

def declared (selector : String) : Declarations := (l.get? selector).getD ∅

variable {l} in
theorem declared_of_mem {e : String × Declarations} (he : e ∈ l.toList) : l.declared e.1 = e.2 := by
  have hg : l.get? e.1 = some e.2 := KeyedList.get?_eq_some_iff.2 he
  rw [declared, hg, Option.getD_some]

theorem separate_eq : l.separate = l.keys.map fun s ↦ ⟨[s], l.declared s⟩ := by
  rw [separate, KeyedList.keys, List.map_map]
  refine List.map_congr_left fun e he ↦ ?_
  rw [Function.comp_apply, declared_of_mem he]

/-- Every member of a group spends on its declarations what the group spends on its own. -/
theorem sum_selectors_of_mem_merged (depth : Nat) {g : Group} (hg : g ∈ l.merged) :
    (g.selectors.map fun s ↦ s.utf8ByteSize + 2 * depth + 2 +
        Stylesheet.bodyBytes depth (l.declared s).toList).sum =
      (g.selectors.map fun s ↦ s.utf8ByteSize + 2 * depth + 2).sum +
        Stylesheet.bodyBytes depth g.declarations.toList +
        (g.selectors.length - 1) * Stylesheet.bodyBytes depth g.declarations.toList := by
  have hb : ∀ s ∈ g.selectors,
      Stylesheet.bodyBytes depth (l.declared s).toList =
        Stylesheet.bodyBytes depth g.declarations.toList := by
    intro s hs
    obtain ⟨d, hd, he⟩ := l.partitions_merged.same g hg s hs
    rw [declared, hd, Option.getD_some]
    exact bodyBytes_eq_of_get? depth he
  have hlen := List.length_pos_iff.2 (l.selectors_ne_nil hg)
  obtain ⟨n, hn⟩ : ∃ n, g.selectors.length = n + 1 := ⟨_, (Nat.sub_add_cancel hlen).symm⟩
  rw [List.sum_map_add, List.map_congr_left hb, List.map_const', List.sum_replicate_nat, hn,
    Nat.add_sub_cancel, Nat.succ_mul n]
  omega

theorem lineBytes_separate (depth : Nat) :
    Stylesheet.lineBytes (Stylesheet.groupLines depth l.separate) =
      Stylesheet.lineBytes (Stylesheet.groupLines depth l.merged) + l.saving depth := by
  by_cases hl : l.toList = []
  · have hm := l.merged_eq_nil_iff.2 hl
    rw [saving, hm, separate, hl]
    rfl
  · have hm := Stylesheet.lineBytes_groupLines depth (mt l.merged_eq_nil_iff.1 hl)
      fun g ↦ l.selectors_ne_nil
    have hne : l.separate ≠ [] := by simpa [separate] using hl
    have hs := Stylesheet.lineBytes_groupLines depth hne
      (List.forall_mem_map.2 fun e _ ↦ List.cons_ne_nil e.1 [])
    simp only [separate_eq, List.map_map, Function.comp_def, List.map_singleton,
      List.sum_singleton] at hs
    rw [sum_selectors_merged, List.map_congr_left fun g ↦ l.sum_selectors_of_mem_merged depth,
      List.sum_map_add, ← separate_eq] at hs
    rw [saving]
    omega

theorem saving_eq_zero_iff {depth : Nat} :
    l.saving depth = 0 ↔ ∀ g ∈ l.merged, g.selectors.length = 1 := by
  rw [saving, List.sum_eq_zero_iff_forall_eq_nat, List.forall_mem_map]
  refine forall₂_congr fun g hg ↦ ?_
  have hlen := List.length_pos_iff.2 (l.selectors_ne_nil hg)
  rw [Nat.mul_eq_zero, Stylesheet.bodyBytes]
  omega

theorem flatMap_selectors_of_single (h : ∀ g ∈ l.merged, g.selectors.length = 1) :
    l.merged.flatMap Group.selectors = l.keys := by
  have hh : (l.merged.map fun g ↦ g.selectors.head?) =
      (l.merged.flatMap Group.selectors).map some := by
    rw [List.map_flatMap, ← List.flatMap_singleton' (l.merged.map _), List.flatMap_map]
    refine List.flatMap_congr fun g hg ↦ ?_
    obtain ⟨s, hs⟩ := List.length_eq_one_iff.1 (h g hg)
    rw [hs]
    rfl
  have hl := l.partitions_merged.led
  rw [hh] at hl
  have he := hl.eq_of_length (by simpa using l.perm_selectors.length_eq)
  exact List.map_inj_right (fun _ _ ↦ Option.some.inj) |>.1 he

theorem merged_eq_separate (h : ∀ g ∈ l.merged, g.selectors.length = 1) :
    l.merged = l.separate := by
  have hm : ∀ g ∈ l.merged, [g] = g.selectors.map fun s ↦ ⟨[s], l.declared s⟩ := by
    intro g hg
    obtain ⟨s, hs, he⟩ := l.exists_of_mem_merged hg
    obtain ⟨t, ht⟩ := List.length_eq_one_iff.1 (h g hg)
    obtain rfl : s = t := List.mem_singleton.1 (ht ▸ hs)
    rw [ht, List.map_singleton, declared_of_mem he, ← ht]
  calc l.merged = l.merged.flatMap fun g ↦ g.selectors.map fun s ↦ ⟨[s], l.declared s⟩ := by
        rw [← List.flatMap_congr hm, List.flatMap_singleton']
    _ = l.keys.map fun s ↦ ⟨[s], l.declared s⟩ := by
        rw [← List.map_flatMap, l.flatMap_selectors_of_single h]
    _ = l.separate := l.separate_eq.symm

end Layer

namespace Stylesheet

def ruleDepth (layered : Bool) : Nat := if layered then 2 else 1

theorem lineBytes_layerLines (layered : Bool) (space breakpoint : String) (l : Layer) :
    lineBytes (layerLines ⟨layered, false⟩ space breakpoint l) =
      lineBytes (layerLines ⟨layered, true⟩ space breakpoint l) + l.saving (ruleDepth layered) := by
  have hs := l.lineBytes_separate (ruleDepth layered)
  cases layered with
  | false => exact hs
  | true =>
    simp only [layerLines, ruleDepth, Bool.false_eq_true, if_false, if_true, lineBytes_cons,
      lineBytes_append] at hs ⊢
    omega

end Stylesheet

namespace Block

def saving (depth : Nat) (b : Block) : Nat := (b.values.map (Layer.saving · depth)).sum

theorem utf8ByteSize_separate (layered : Bool) (space query : String) (b : Block) :
    (Stylesheet.block ⟨layered, false⟩ space query b).utf8ByteSize =
      (Stylesheet.block ⟨layered, true⟩ space query b).utf8ByteSize +
        b.saving (Stylesheet.ruleDepth layered) := by
  have hs := Stylesheet.lineBytes_spaced_map (l := b.toList) fun e _ ↦
    Stylesheet.lineBytes_layerLines layered space e.1 e.2
  have hb (format : Format) : Stylesheet.blockLines format space query b ≠ [] := by
    simp [Stylesheet.blockLines]
  have hf := Stylesheet.utf8ByteSize_unlines (hb ⟨layered, false⟩)
  have ht := Stylesheet.utf8ByteSize_unlines (hb ⟨layered, true⟩)
  have hv : b.saving (Stylesheet.ruleDepth layered) =
      (b.toList.map fun e ↦ e.2.saving (Stylesheet.ruleDepth layered)).sum :=
    congrArg List.sum (KeyedList.map_values ..)
  simp only [Stylesheet.blockLines, Stylesheet.lineBytes_cons, Stylesheet.lineBytes_append] at hf ht
  simp only [Stylesheet.block, Stylesheet.blockLines]
  omega

end Block

namespace Sheet

def saving (depth : Nat) (s : Sheet) : Nat := (s.blocks.values.map (Block.saving depth)).sum

theorem utf8ByteSize_render_separate (layered : Bool) (config : Config) (core common : String)
    (s : Sheet) :
    (Stylesheet.render ⟨layered, false⟩ config core common s).utf8ByteSize =
      (Stylesheet.render ⟨layered, true⟩ config core common s).utf8ByteSize +
        s.saving (Stylesheet.ruleDepth layered) := by
  -- What stands before the blocks is the same for both.
  obtain ⟨front, hn, hf⟩ : ∃ front : List String, front ≠ [] ∧ ∀ format,
      Stylesheet.parts format config core common s =
        front ++ s.blocks.toList.map fun e ↦ Stylesheet.block format config.layer e.1 e.2 :=
    ⟨_, by simp, fun format ↦ rfl⟩
  have hs : (s.blocks.toList.map fun e ↦ "\n\n".utf8ByteSize +
        (Stylesheet.block ⟨layered, false⟩ config.layer e.1 e.2).utf8ByteSize).sum =
      (s.blocks.toList.map fun e ↦ "\n\n".utf8ByteSize +
        (Stylesheet.block ⟨layered, true⟩ config.layer e.1 e.2).utf8ByteSize).sum +
      s.saving (Stylesheet.ruleDepth layered) := by
    rw [saving, KeyedList.map_values, ← List.sum_map_add]
    refine congrArg List.sum (List.map_congr_left fun e _ ↦ ?_)
    rw [Block.utf8ByteSize_separate, Nat.add_assoc]
  simp only [Stylesheet.render, hf, String.utf8ByteSize_append,
    Stylesheet.utf8ByteSize_intercalate_append _ hn, List.map_map, Function.comp_def, hs]
  omega

/-- No two selectors share a rule. -/
def SharesNoRule (s : Sheet) : Prop :=
  ∀ b ∈ s.blocks.values, ∀ l ∈ b.values, ∀ g ∈ l.merged, g.selectors.length = 1

theorem saving_eq_zero_iff {depth : Nat} {s : Sheet} : s.saving depth = 0 ↔ s.SharesNoRule := by
  simp only [saving, Block.saving, List.sum_eq_zero_iff_forall_eq_nat, List.forall_mem_map,
    Layer.saving_eq_zero_iff, SharesNoRule]

theorem SharesNoRule.render_eq {s : Sheet} (h : s.SharesNoRule) (layered : Bool) (config : Config)
    (core common : String) :
    Stylesheet.render ⟨layered, true⟩ config core common s =
      Stylesheet.render ⟨layered, false⟩ config core common s := by
  have hl (space : String) : ∀ e ∈ s.blocks.toList, ∀ e' ∈ e.2.toList,
      Stylesheet.layerLines ⟨layered, true⟩ space e'.1 e'.2 =
        Stylesheet.layerLines ⟨layered, false⟩ space e'.1 e'.2 := by
    intro e he e' he'
    have hm := e'.2.merged_eq_separate
      (h e.2 (List.mem_map_of_mem he) e'.2 (List.mem_map_of_mem he'))
    simp only [Stylesheet.layerLines, hm, if_true, Bool.false_eq_true, if_false]
  have hb (space : String) : ∀ e ∈ s.blocks.toList,
      Stylesheet.block ⟨layered, true⟩ space e.1 e.2 =
        Stylesheet.block ⟨layered, false⟩ space e.1 e.2 := by
    intro e he
    have hs := List.map_congr_left (hl space e he)
    simp only [Stylesheet.block, Stylesheet.blockLines]
    rw [hs]
  have hp := List.map_congr_left (hb config.layer)
  simp only [Stylesheet.render, Stylesheet.parts]
  rw [hp]

/-- Merging never makes the text larger. It leaves as many bytes exactly where no two selectors
share a rule, and then it leaves the text as it is. -/
theorem merging_saves (layered : Bool) (config : Config) (core common : String) (s : Sheet) :
    (Stylesheet.render ⟨layered, true⟩ config core common s).utf8ByteSize ≤
      (Stylesheet.render ⟨layered, false⟩ config core common s).utf8ByteSize ∧
    ((Stylesheet.render ⟨layered, true⟩ config core common s).utf8ByteSize =
      (Stylesheet.render ⟨layered, false⟩ config core common s).utf8ByteSize ↔ s.SharesNoRule) ∧
    (Stylesheet.render ⟨layered, true⟩ config core common s =
      Stylesheet.render ⟨layered, false⟩ config core common s ↔ s.SharesNoRule) := by
  have hs := s.utf8ByteSize_render_separate layered config core common
  have hz : s.saving (Stylesheet.ruleDepth layered) = 0 ↔ s.SharesNoRule := saving_eq_zero_iff
  refine ⟨by omega, ?_, ?_⟩
  · rw [← hz]
    omega
  · constructor
    · intro he
      rw [he] at hs
      exact hz.1 (by omega)
    · intro h
      exact h.render_eq layered config core common

end Sheet

end LayoutSheet
