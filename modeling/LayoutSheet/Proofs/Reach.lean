import LayoutSheet.Proofs.Resets

namespace LayoutSheet

namespace Placement

/-- The resets of the family match the container of `p`. -/
def Mentions (p : Placement) (family : String) : Prop :=
  (family ++ "(").toList <:+: p.attributeText.toList

variable {element query breakpoint family : String} {before after : List Placement}
  {p r : Placement} {l : Layer}

theorem not_under_reset (hb : p.breakpoint = breakpoint) {s : String}
    (hs : Selector.under (p.selector element) s = true) :
    s ≠ Selector.ofFamily element breakpoint family ∧
      s ≠ Selector.childrenOf (Selector.ofFamily element breakpoint family) := by
  subst hb
  constructor
  · rintro rfl
    have hn := Selector.not_under_ofFamily element p.breakpoint p.family p.id family ""
    rw [String.append_empty] at hn
    exact absurd hs (Bool.eq_false_iff.1 hn)
  · rintro rfl
    have hn := Selector.not_under_ofFamily element p.breakpoint p.family p.id family " > *"
    exact absurd hs (Bool.eq_false_iff.1 hn)

/-- The resets stand before all that is below a container exactly when nothing is written below it
before the first placement of their family. -/
theorem precedes_under_iff
    (hall : ∀ q ∈ before ++ r :: after, q.query = query ∧ q.breakpoint = breakpoint)
    (hr : r.family ∉ before.map Placement.family) (hp : p.breakpoint = breakpoint)
    (hl : (Sheet.ofWrites (writes element (before ++ r :: after))).layer? query breakpoint =
      some l) :
    (∀ s ∈ l.keys, Selector.under (p.selector element) s = true →
      l.Precedes (Selector.ofFamily element breakpoint r.family) s ∧
        l.Precedes (Selector.childrenOf (Selector.ofFamily element breakpoint r.family)) s) ↔
    ∀ q ∈ before, ∀ w ∈ q.ownWrites element,
      Selector.under (p.selector element) w.selector = false := by
  have hk : r.resetKey = (query, breakpoint, r.family) := by
    obtain ⟨rfl, rfl⟩ := hall r (by simp)
    rfl
  have hn : (query, breakpoint, r.family) ∉ before.map resetKey := by
    intro hm
    obtain ⟨q, hq, he⟩ := List.mem_map.1 hm
    exact hr (List.mem_map.2 ⟨q, hq, congrArg (fun k ↦ k.2.2) he⟩)
  obtain ⟨above, below, hkeys, habove⟩ := exists_keys_layer hk hn after hl
  constructor
  · intro h q hq w hw
    rw [Bool.eq_false_iff]
    intro hu
    obtain ⟨hqq, hqb⟩ := hall q (List.mem_append_left _ hq)
    have hwk : w.key = (query, breakpoint, w.selector) := by
      obtain ⟨hwq, hwb⟩ := of_mem_ownWrites hw
      exact Write.key_eq_iff.2 ⟨hwq.trans hqq, hwb.trans hqb, rfl⟩
    have ha : w.selector ∈ above := by
      rw [habove, ← hwk]
      exact List.mem_map_of_mem (mem_writesFrom_of_mem_ownWrites hq hw)
    have hm : w.selector ∈ l.keys := by
      rw [hkeys]
      exact List.mem_append_left _ ha
    obtain ⟨hne, hne'⟩ := not_under_reset hp hu
    exact (KeyedList.precedes_pair_iff hkeys hm hne hne').1 (h _ hm hu) ha
  · intro h s hm hu
    obtain ⟨hne, hne'⟩ := not_under_reset hp hu
    rw [KeyedList.precedes_pair_iff hkeys hm hne hne']
    intro ha
    obtain ⟨w, hw, he⟩ := List.mem_map.1 ((habove s).1 ha)
    obtain rfl : w.selector = s := congrArg (fun k ↦ k.2.2) he
    obtain ⟨q, hq, hw | hw⟩ := exists_of_mem_writesFrom hw
    · have hqb := (hall q (List.mem_append_left _ hq)).2.trans hp.symm
      exact absurd hu (Bool.eq_false_iff.1 (not_under_of_mem_resets hqb hw))
    · exact absurd hu (Bool.eq_false_iff.1 (h q hq w hw))

theorem ofFamily_mem_keys {ps : List Placement}
    (hl : (Sheet.ofWrites (writes element ps)).layer? query breakpoint = some l)
    (hk : (query, breakpoint, family) ∈ ps.map resetKey) :
    Selector.ofFamily element breakpoint family ∈ l.keys :=
  (Sheet.mem_keys_layer hl).2 ((key_mem_writes_iff List.mem_cons_self).2 hk)

theorem family_mem_of_mem_keys {ps : List Placement}
    (hl : (Sheet.ofWrites (writes element ps)).layer? query breakpoint = some l)
    (hm : Selector.ofFamily element breakpoint family ∈ l.keys) :
    family ∈ ps.map Placement.family := by
  have hu := Selector.under_familyOpening element breakpoint family ""
  rw [String.append_empty] at hu
  obtain ⟨q, hq, -, -, h | h⟩ | ⟨-, h⟩ := layer_others hl hm
  · rw [Selector.ofFamily_inj.1 h]
    exact List.mem_map_of_mem hq
  · exact absurd h.symm (Selector.childrenOf_ne_ofFamily _ _)
  · exact absurd hu (Bool.eq_false_iff.1 h)

end Placement

namespace Config

variable (config : Config) (c : Catalog)

/-- Whatever resets reach the container of a placement stand before all that its layer holds below
the container. -/
def ResetsFirst : Prop :=
  ∀ p ∈ config.placements c, ∀ l, (config.sheet c).layer? p.query p.breakpoint = some l →
    ∀ family, Selector.ofFamily config.element p.breakpoint family ∈ l.keys → p.Mentions family →
      ∀ s ∈ l.keys, Selector.under (p.selector config.element) s = true →
        l.Precedes (Selector.ofFamily config.element p.breakpoint family) s ∧
          l.Precedes (Selector.childrenOf
            (Selector.ofFamily config.element p.breakpoint family)) s

variable {config c}

theorem layer_of_mem_atBreakpoint {name : String} {b : Breakpoint} {p : Placement}
    (hb : (name, b) ∈ config.breakpoints.toList) (hp : p ∈ Placement.atBreakpoint c name b) :
    p ∈ config.placements c ∧ p.breakpoint = name ∧
      (∀ q ∈ Placement.atBreakpoint c name b, q.query = p.query ∧ q.breakpoint = name) ∧
      ∃ l, (config.sheet c).layer? p.query name = some l ∧
        (Sheet.ofWrites (Placement.writes config.element
          (Placement.atBreakpoint c name b))).layer? p.query name = some l := by
  have hq := Placement.of_mem_atBreakpoint hp
  have hall : ∀ q ∈ Placement.atBreakpoint c name b, q.query = p.query ∧ q.breakpoint = name := by
    intro q hm
    obtain ⟨hn, hqq⟩ := Placement.of_mem_atBreakpoint hm
    rw [hq.2] at hqq
    exact ⟨(Option.some.inj hqq).symm, hn⟩
  exact ⟨((Placement.mem_placements_iff hb).2 hp).1, hq.1, hall, _, config.layer?_sheet c hb hp,
    Placement.layer?_writes (List.ne_nil_of_mem hp) hall⟩

variable (config c)

/-- The order holds exactly when, in every breakpoint, nothing is written below the container of a
placement before the first placement of a family whose resets reach that container. -/
theorem resetsFirst_iff :
    config.ResetsFirst c ↔
      ∀ e ∈ config.breakpoints.toList, ∀ p ∈ Placement.atBreakpoint c e.1 e.2,
        ∀ before r after, Placement.atBreakpoint c e.1 e.2 = before ++ r :: after →
          r.family ∉ before.map Placement.family → p.Mentions r.family →
            ∀ q ∈ before, ∀ w ∈ q.ownWrites config.element,
              Selector.under (p.selector config.element) w.selector = false := by
  constructor
  · rintro h ⟨name, b⟩ he p hp before r after hs hr hm
    obtain ⟨hpc, rfl, hall, l, hl, hlw⟩ := layer_of_mem_atBreakpoint he hp
    rw [hs] at hall hlw
    have hf : Selector.ofFamily config.element p.breakpoint r.family ∈ l.keys := by
      have hr := hall r (by simp)
      refine Placement.ofFamily_mem_keys hlw (List.mem_map.2 ⟨r, by simp, ?_⟩)
      rw [Placement.resetKey, hr.1, hr.2]
    exact (Placement.precedes_under_iff hall hr rfl hlw).1 (h p hpc l hl r.family hf hm)
  · intro h p hp l hl family hf hm
    obtain ⟨⟨name, b⟩, he, hp⟩ := List.mem_flatMap.1 hp
    obtain ⟨-, rfl, hall, l', hl', hlw⟩ := layer_of_mem_atBreakpoint he hp
    obtain rfl : l' = l := Option.some.inj (hl'.symm.trans hl)
    obtain ⟨before, r, after, hs, rfl, hr⟩ :=
      Placement.exists_first (Placement.family_mem_of_mem_keys hlw hf)
    have hbefore := h _ he p hp before r after hs hr hm
    rw [hs] at hall hlw
    exact (Placement.precedes_under_iff hall hr rfl hlw).2 hbefore

/-- Where no family word occurs with its parenthesis in the text of another family, and no text has
a quote, the order holds. -/
theorem resetsFirst_of_apart
    (hquote : ∀ e ∈ config.breakpoints.toList, ∀ p ∈ Placement.atBreakpoint c e.1 e.2,
      '"' ∉ p.attributeText.toList)
    (hapart : ∀ e ∈ config.breakpoints.toList, ∀ p ∈ Placement.atBreakpoint c e.1 e.2,
      ∀ r ∈ Placement.atBreakpoint c e.1 e.2, p.Mentions r.family → r.family = p.family) :
    config.ResetsFirst c := by
  intro p hp l hl family hf hm
  obtain ⟨⟨name, b⟩, he, hp⟩ := List.mem_flatMap.1 hp
  obtain ⟨-, rfl, hall, l', hl', hlw⟩ := layer_of_mem_atBreakpoint he hp
  obtain rfl : l' = l := Option.some.inj (hl'.symm.trans hl)
  obtain ⟨before, r, after, hs, rfl, hr⟩ :=
    Placement.exists_first (Placement.family_mem_of_mem_keys hlw hf)
  have hsub : ∀ q ∈ before, q ∈ Placement.atBreakpoint c p.breakpoint b := by
    intro q hq
    rw [hs]
    exact List.mem_append_left _ hq
  have hrm : r ∈ Placement.atBreakpoint c p.breakpoint b := by simp [hs]
  have hall' := hall
  rw [hs] at hall' hlw
  refine (Placement.precedes_under_iff hall' hr rfl hlw).2 ?_
  intro q hq w hw
  rw [Bool.eq_false_iff]
  intro hu
  -- Without quotes both containers have one text, so `q` would be of the family that comes first.
  have hqu := Placement.under_of_mem_ownWrites hw
  rw [Placement.selector, (hall q (hsub q hq)).2] at hqu
  have htext : q.attributeText = p.attributeText :=
    Selector.qualify_eq_of_under (hquote _ he q (hsub q hq)) (hquote _ he p hp) hqu hu
  have hqm : q.Mentions r.family := by
    rw [Placement.Mentions, htext]
    exact hm
  rw [hapart _ he q (hsub q hq) r hrm hqm] at hr
  exact hr (List.mem_map_of_mem hq)

def placedChildren : ScopedRule where
  selector := "&>*"
  properties := KeyedList.ofList [("--layout-ga", .text "1 / 1")]

def subgrid : Placement :=
  ⟨"subgrid", "1", "md", "@media (min-width: 720px)",
    { id := "subgrid(1)", rules := [placedChildren] }⟩

def bareGrid : Placement := ⟨"grid", "1", "md", "@media (min-width: 720px)", { id := "grid(1)" }⟩

def gridsOfTwoWords : Catalog :=
  Catalog.ofFiles
    [("subgrid", { family := "subgrid", layouts := [{ id := "1", rules := [placedChildren] }] }),
      ("grid", { family := "grid", layouts := [{ id := "1" }] })]

def bothGrids : Breakpoint := { min := "720px", layouts := [.every "subgrid", .every "grid"] }

def subgridsAndGrids : Config where
  breakpoints := KeyedList.ofList [("md", bothGrids)]

/-- The resets of the grids match the subgrids too and come behind their rule, which has the same
specificity. -/
theorem not_resetsFirst_subgrid : ¬ subgridsAndGrids.ResetsFirst gridsOfTwoWords := by
  intro h
  have hb : ("md", bothGrids) ∈ subgridsAndGrids.breakpoints.toList := List.mem_cons_self
  have hs : Placement.atBreakpoint gridsOfTwoWords "md" bothGrids =
      [subgrid] ++ bareGrid :: [] := rfl
  have hp : subgrid ∈ Placement.atBreakpoint gridsOfTwoWords "md" bothGrids := by
    rw [hs]
    exact List.mem_cons_self
  obtain ⟨hpc, -, hall, l, hl, hlw⟩ := layer_of_mem_atBreakpoint hb hp
  rw [hs] at hall hlw
  have hk : ("@media (min-width: 720px)", "md", "grid") ∈
      ([subgrid] ++ bareGrid :: []).map Placement.resetKey := by decide
  have hf := Placement.ofFamily_mem_keys hlw hk
  have hm : subgrid.Mentions "grid" := ⟨"sub".toList, "1)".toList, rfl⟩
  have hfirst := (Placement.precedes_under_iff hall (by decide) rfl hlw).1
    (h subgrid hpc l hl "grid" hf hm)
  have hw : subgrid.write "lay-out[md=\"subgrid(1)\"] > *" [("--layout-ga", "1 / 1")] ∈
      subgrid.ownWrites "lay-out" := List.mem_singleton_self _
  exact absurd (Placement.under_of_mem_ownWrites hw)
    (Bool.eq_false_iff.1 (hfirst subgrid List.mem_cons_self _ hw))

end Config

end LayoutSheet
