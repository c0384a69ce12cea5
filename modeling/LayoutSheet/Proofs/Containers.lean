import LayoutSheet.Proofs.Breakpoints

namespace LayoutSheet

namespace Selector

def under (base s : String) : Bool := base.toList.isPrefixOf s.toList

theorem under_iff {base s : String} : under base s = true ↔ ∃ t, s = base ++ t := by
  rw [under, List.isPrefixOf_iff_prefix]
  constructor
  · rintro ⟨t, ht⟩
    exact ⟨String.ofList t, by rw [← String.toList_inj, String.toList_append,
      String.toList_ofList, ht]⟩
  · rintro ⟨t, rfl⟩
    exact ⟨t.toList, by rw [String.toList_append]⟩

def stem (element breakpoint : String) : List Char := element.toList ++ '[' :: breakpoint.toList

theorem toList_container (element breakpoint family id : String) :
    (container element breakpoint family id).toList =
      stem element breakpoint ++ '=' :: '"' :: (Variant.qualify family id).toList ++
        ['"', ']'] := by
  simp [container, stem]

theorem toList_ofFamily (element breakpoint family : String) :
    (ofFamily element breakpoint family).toList =
      stem element breakpoint ++ '*' :: '=' :: '"' :: family.toList ++ ['(', '"', ']'] := by
  simp [ofFamily, stem]

theorem not_under_ofFamily (element breakpoint family id other rest : String) :
    under (container element breakpoint family id) (ofFamily element breakpoint other ++ rest) =
      false := by
  rw [Bool.eq_false_iff]
  intro h
  obtain ⟨t, ht⟩ := under_iff.1 h
  have hl := congrArg String.toList ht
  rw [String.toList_append, String.toList_append, toList_container, toList_ofFamily] at hl
  simp at hl

theorem takeWhile_quote {a : List Char} (h : '"' ∉ a) (rest : List Char) :
    (a ++ '"' :: rest).takeWhile (· ≠ '"') = a := by
  have ha : ∀ x ∈ a, decide (x ≠ '"') = true := fun x hx ↦
    decide_eq_true fun he ↦ h (he ▸ hx)
  rw [List.takeWhile_append_of_pos ha, List.takeWhile_cons_of_neg (by simp), List.append_nil]

theorem qualify_eq_of_under {element breakpoint family id family' id' s : String}
    (hq : '"' ∉ (Variant.qualify family id).toList)
    (hq' : '"' ∉ (Variant.qualify family' id').toList)
    (h : under (container element breakpoint family id) s = true)
    (h' : under (container element breakpoint family' id') s = true) :
    Variant.qualify family id = Variant.qualify family' id' := by
  obtain ⟨t, rfl⟩ := under_iff.1 h
  obtain ⟨t', ht⟩ := under_iff.1 h'
  have hl := congrArg String.toList ht
  simp only [String.toList_append, toList_container, List.append_assoc, List.cons_append,
    List.append_cancel_left_eq, List.cons.injEq, true_and, List.nil_append] at hl
  have hw := congrArg (List.takeWhile (· ≠ '"')) hl
  rw [takeWhile_quote hq, takeWhile_quote hq'] at hw
  exact String.toList_inj.1 hw

end Selector

namespace Placement

variable {element : String}

def attributeText (p : Placement) : String := Variant.qualify p.family p.id

theorem under_of_mem_ownWrites {p : Placement} {w : Write} (hw : w ∈ p.ownWrites element) :
    Selector.under (p.selector element) w.selector = true := by
  obtain ⟨rest, declarations, rfl⟩ := exists_of_mem_ownWrites hw
  exact Selector.under_iff.2 ⟨rest, rfl⟩

theorem not_under_of_mem_resets {p q : Placement} (hb : q.breakpoint = p.breakpoint) {w : Write}
    (hw : w ∈ q.resets element) : Selector.under (p.selector element) w.selector = false := by
  obtain ⟨rest, declarations, rfl⟩ := exists_of_mem_resets hw
  rw [selector, ← hb]
  exact Selector.not_under_ofFamily ..

theorem not_under_of_mem_ownWrites {p q : Placement} (hb : q.breakpoint = p.breakpoint)
    (hp : '"' ∉ p.attributeText.toList) (hq : '"' ∉ q.attributeText.toList)
    (hne : q.attributeText ≠ p.attributeText) {w : Write} (hw : w ∈ q.ownWrites element) :
    Selector.under (p.selector element) w.selector = false := by
  have hu := under_of_mem_ownWrites hw
  rw [selector, hb] at hu
  exact Bool.eq_false_iff.2 fun h ↦ hne (Selector.qualify_eq_of_under hq hp hu h)

theorem filter_under_writesFrom {p : Placement} {seen : List (String × String × String)}
    {ps : List Placement} (hb : ∀ q ∈ ps, q.breakpoint = p.breakpoint) :
    (writesFrom element seen ps).filter (fun w ↦ Selector.under (p.selector element) w.selector) =
      ps.flatMap fun q ↦
        (q.ownWrites element).filter fun w ↦ Selector.under (p.selector element) w.selector := by
  induction ps generalizing seen with
  | nil => rfl
  | cons q ps ih =>
    have hps : ∀ r ∈ ps, r.breakpoint = p.breakpoint := fun r hr ↦
      hb r (List.mem_cons_of_mem q hr)
    have hr : (q.resets element).filter
        (fun w ↦ Selector.under (p.selector element) w.selector) = [] :=
      List.filter_eq_nil_iff.2 fun w hw ↦ by
        simp [not_under_of_mem_resets (hb q List.mem_cons_self) hw]
    rw [writesFrom, List.flatMap_cons]
    split
    · rw [List.filter_append, ih hps]
    · rw [List.filter_append, List.filter_append, hr, List.nil_append, ih hps]

/-- A placement whose attribute text no other has owns all that is written below its container. -/
theorem filter_under_writes {before after : List Placement} {p : Placement}
    (hb : ∀ q ∈ before ++ p :: after, q.breakpoint = p.breakpoint)
    (hquote : ∀ q ∈ before ++ p :: after, '"' ∉ q.attributeText.toList)
    (hother : ∀ q ∈ before ++ after, q.attributeText ≠ p.attributeText) :
    (writes element (before ++ p :: after)).filter
      (fun w ↦ Selector.under (p.selector element) w.selector) = p.ownWrites element := by
  have hnil (ps : List Placement) (hps : ps ⊆ before ++ after) :
      (ps.flatMap fun q ↦ (q.ownWrites element).filter fun w ↦
        Selector.under (p.selector element) w.selector) = [] := by
    refine List.flatMap_eq_nil_iff.2 fun q hq ↦ List.filter_eq_nil_iff.2 fun w hw ↦ ?_
    have hm : q ∈ before ++ p :: after := by
      have := List.mem_append.1 (hps hq)
      simp [this.elim Or.inl fun h ↦ Or.inr (Or.inr h)]
    rw [not_under_of_mem_ownWrites (hb q hm) (hquote p (by simp)) (hquote q hm)
      (hother q (hps hq)) hw]
    exact Bool.false_ne_true
  rw [writes, filter_under_writesFrom hb, List.flatMap_append, List.flatMap_cons,
    hnil before (List.subset_append_left ..), hnil after (List.subset_append_right ..),
    List.filter_eq_self.2 fun w hw ↦ under_of_mem_ownWrites hw]
  simp

theorem filter_not_reset_writes (p : Placement) :
    (writes element [p]).filter (fun w ↦ w.selector ∉ (p.resets element).map Write.selector) =
      p.ownWrites element := by
  have hr : (p.resets element).filter
      (fun w ↦ w.selector ∉ (p.resets element).map Write.selector) = [] :=
    List.filter_eq_nil_iff.2 fun w hw ↦ by simpa using ⟨w, hw, rfl⟩
  have ho : (p.ownWrites element).filter
      (fun w ↦ w.selector ∉ (p.resets element).map Write.selector) = p.ownWrites element := by
    refine List.filter_eq_self.2 fun w hw ↦ decide_eq_true fun hm ↦ ?_
    obtain ⟨r, hr, he⟩ := List.mem_map.1 hm
    have hu := under_of_mem_ownWrites hw
    rw [← he, not_under_of_mem_resets rfl hr] at hu
    cases hu
  have hw : writes element [p] = p.resets element ++ p.ownWrites element := by
    simp [writes, writesFrom]
  rw [hw, List.filter_append, hr, ho, List.nil_append]

theorem layer?_writes {query breakpoint : String} {ps : List Placement} (hn : ps ≠ [])
    (hps : ∀ q ∈ ps, q.query = query ∧ q.breakpoint = breakpoint) :
    (Sheet.ofWrites (writes element ps)).layer? query breakpoint =
      some (Layer.ofWrites (writes element ps)) := by
  have hw : ∀ w ∈ writes element ps, w.query = query ∧ w.breakpoint = breakpoint := by
    intro w hw
    obtain ⟨q, hq, hwq, hwb⟩ := exists_of_mem_writes hw
    exact ⟨hwq.trans (hps q hq).1, hwb.trans (hps q hq).2⟩
  have hq : (writes element ps).filter (fun w ↦ w.query = query) = writes element ps :=
    List.filter_eq_self.2 fun w h ↦ decide_eq_true (hw w h).1
  have hb : (writes element ps).filter (fun w ↦ w.breakpoint = breakpoint) = writes element ps :=
    List.filter_eq_self.2 fun w h ↦ decide_eq_true (hw w h).2
  rw [Sheet.layer?_ofWrites, hq, hb, if_neg (writes_ne_nil hn)]

theorem layer?_writes_singleton (p : Placement) (element : String) :
    (Sheet.ofWrites (writes element [p])).layer? p.query p.breakpoint =
      some (Layer.ofWrites (writes element [p])) :=
  layer?_writes (List.cons_ne_nil p []) fun q hq ↦ by
    rw [List.mem_singleton.1 hq]
    exact ⟨rfl, rfl⟩

end Placement

namespace Config

variable (config : Config) (c : Catalog)

theorem layer?_sheet {name : String} {b : Breakpoint} {p : Placement}
    (hb : (name, b) ∈ config.breakpoints.toList) (hp : p ∈ Placement.atBreakpoint c name b) :
    (config.sheet c).layer? p.query name =
      some (Layer.ofWrites
        (Placement.writes config.element (Placement.atBreakpoint c name b))) := by
  have hq := (Placement.of_mem_atBreakpoint hp).2
  have hm : (name, b) ∈ config.realized c :=
    List.mem_filter.2 ⟨hb, by simp [hq, List.ne_nil_of_mem hp]⟩
  have hl := (config.runs_realized c).layer? hm
  rw [← sheet_eq_ofWrites_runs, hq, Option.getD_some] at hl
  exact hl

/-- Variants of one breakpoint do not write into each other. When no attribute text of the
breakpoint has a quote and no other placement has that of `p`, the entries below the container of
`p` are those that `p` alone makes in an empty sheet, its resets apart, in the same order and with
the same declarations. -/
theorem entries_under_container {name : String} {b : Breakpoint}
    {before after : List Placement} {p : Placement}
    (hb : (name, b) ∈ config.breakpoints.toList)
    (hp : Placement.atBreakpoint c name b = before ++ p :: after)
    (hquote : ∀ q ∈ Placement.atBreakpoint c name b, '"' ∉ q.attributeText.toList)
    (hother : ∀ q ∈ before ++ after, q.attributeText ≠ p.attributeText) :
    ∃ l own, (config.sheet c).layer? p.query name = some l ∧
      (Sheet.ofWrites (Placement.writes config.element [p])).layer? p.query name = some own ∧
      l.toList.filter (fun e ↦ Selector.under (p.selector config.element) e.1) =
        own.toList.filter fun e ↦ e.1 ∉ (p.resets config.element).map Write.selector := by
  have hm : p ∈ Placement.atBreakpoint c name b := by simp [hp]
  have hname : ∀ q ∈ before ++ p :: after, q.breakpoint = p.breakpoint := fun q hq ↦
    (Placement.of_mem_atBreakpoint (hp ▸ hq)).1.trans (Placement.of_mem_atBreakpoint hm).1.symm
  have hown := p.layer?_writes_singleton config.element
  rw [(Placement.of_mem_atBreakpoint hm).1] at hown
  refine ⟨_, _, config.layer?_sheet c hb hm, hown, ?_⟩
  rw [hp] at hquote
  calc
    (Layer.ofWrites
        (Placement.writes config.element (Placement.atBreakpoint c name b))).toList.filter
          (fun e ↦ Selector.under (p.selector config.element) e.1)
      = (Layer.ofWrites (p.ownWrites config.element)).toList := by
        rw [Layer.ofWrites, KeyedList.filter_toList_gather, hp,
          Placement.filter_under_writes hname hquote hother]
    _ = (Layer.ofWrites (Placement.writes config.element [p])).toList.filter
          fun e ↦ e.1 ∉ (p.resets config.element).map Write.selector := by
        rw [Layer.ofWrites, KeyedList.filter_toList_gather Write.selector ∅ _
          (fun s ↦ s ∉ (p.resets config.element).map Write.selector),
          Placement.filter_not_reset_writes]

def plainGrid : Variant := { id := "grid(1)", columns := "1fr" }

def nosyGrid : Variant where
  id := "grid(2)"
  rules := [{ selector := "&, lay-out[md=\"grid(1)\"]"
              properties := KeyedList.ofList [("--layout-gtc", .text "none")] }]

def nosyGrids : Catalog :=
  Catalog.ofFiles [("grid",
    { family := "grid", layouts := [{ plainGrid with id := "1" }, { nosyGrid with id := "2" }] })]

def placedGrid (id : String) (v : Variant) : Placement :=
  ⟨"grid", id, "md", "@media (min-width: 720px)", v⟩

theorem entries_under_plainGrid :
    ("md", atLeast "720px") ∈ twins.breakpoints.toList ∧
    Placement.atBreakpoint nosyGrids "md" (atLeast "720px") =
      [] ++ placedGrid "1" plainGrid :: [placedGrid "2" nosyGrid] ∧
    (∀ q ∈ Placement.atBreakpoint nosyGrids "md" (atLeast "720px"),
      '"' ∉ q.attributeText.toList) ∧
    (∀ q ∈ [] ++ [placedGrid "2" nosyGrid],
      q.attributeText ≠ (placedGrid "1" plainGrid).attributeText) ∧
    ∃ l own, (twins.sheet nosyGrids).layer? "@media (min-width: 720px)" "md" = some l ∧
      (Sheet.ofWrites (Placement.writes "lay-out" [placedGrid "1" plainGrid])).layer?
        "@media (min-width: 720px)" "md" = some own ∧
      l.toList.filter
          (fun e ↦ Selector.under ((placedGrid "1" plainGrid).selector "lay-out") e.1) =
        own.toList.filter fun e ↦
          e.1 ∉ ((placedGrid "1" plainGrid).resets "lay-out").map Write.selector := by
  have hb : ("md", atLeast "720px") ∈ twins.breakpoints.toList := by decide
  have hp : Placement.atBreakpoint nosyGrids "md" (atLeast "720px") =
      [] ++ placedGrid "1" plainGrid :: [placedGrid "2" nosyGrid] := rfl
  have hquote : ∀ q ∈ Placement.atBreakpoint nosyGrids "md" (atLeast "720px"),
      '"' ∉ q.attributeText.toList := by rw [hp]; decide
  have hother : ∀ q ∈ [] ++ [placedGrid "2" nosyGrid],
      q.attributeText ≠ (placedGrid "1" plainGrid).attributeText := by decide
  exact ⟨hb, hp, hquote, hother, entries_under_container twins nosyGrids hb hp hquote hother⟩

end Config

end LayoutSheet
