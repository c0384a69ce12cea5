import LayoutSheet.Proofs.Breakpoints

namespace LayoutSheet

/-- What a reference names in vain: a type that is not registered, once for each time it is named,
and each chosen id that its type does not have. -/
def Reference.unresolved (c : Catalog) (breakpoint : String) : Reference → List Warning
  | .every type => if c.contains type then [] else [.missingType breakpoint type]
  | .chosen ids => ids.toList.flatMap fun (type, ids) ↦
    if c.contains type then
      (ids.filter fun id ↦ (c.find? type id).isNone).map (.missingVariant breakpoint type)
    else [.missingType breakpoint type]

def Breakpoint.unresolved (c : Catalog) (name : String) (b : Breakpoint) : List Warning :=
  match b.query? with
  | none => []
  | some _ => b.layouts.flatMap (Reference.unresolved c name)

theorem Reference.filterMap_warning?_follow (c : Catalog) (name : String) (r : Reference) :
    (Placement.follow c name r).filterMap Placement.Finding.warning? = r.unresolved c name := by
  have hchosen (type : String) (ids : List String) :
      (Placement.chosenOf c name type ids).filterMap Placement.Finding.warning? =
        if c.contains type then
          (ids.filter fun id ↦ (c.find? type id).isNone).map (.missingVariant name type)
        else [.missingType name type] := by
    cases hf : c.get? type with
    | none =>
      simp [Placement.chosenOf, KeyedList.contains_eq_isSome, hf, Placement.Finding.warning?]
    | some f =>
      simp only [Placement.chosenOf, KeyedList.contains_eq_isSome, Catalog.find?, hf,
        Option.isSome_some, if_true, Option.bind_some, List.filterMap_map]
      induction ids with
      | nil => rfl
      | cons id ids ih =>
        rw [List.filterMap_cons, ih, List.filter_cons]
        cases hv : f.variants.get? id <;> simp [hv, Placement.Finding.warning?]
  cases r with
  | every type =>
    cases hf : c.get? type with
    | none =>
      simp [Placement.follow, Placement.everyOf, unresolved, KeyedList.contains_eq_isSome, hf,
        Placement.Finding.warning?]
    | some f =>
      simp [Placement.follow, Placement.everyOf, unresolved, KeyedList.contains_eq_isSome, hf,
        Placement.Finding.warning?, Function.comp_def]
  | chosen ids =>
    rw [Placement.follow, List.filterMap_flatMap, unresolved]
    exact List.flatMap_congr fun e _ ↦ hchosen e.1 e.2

def Reference.known? (c : Catalog) : Reference → Option Reference
  | .every type => if c.contains type then some (.every type) else none
  | .chosen ids => some (.chosen (ids.filterMap fun type ids ↦
      if c.contains type then some (ids.filter fun id ↦ (c.find? type id).isSome) else none))

def Breakpoint.known (c : Catalog) (b : Breakpoint) : Breakpoint :=
  { b with layouts := b.layouts.filterMap (Reference.known? c) }

section Known

theorem flatMap_filterMap_of_elim {α β γ : Type} {f : α → Option β} {g : β → List γ}
    {g' : α → List γ} (h : ∀ a, (f a).elim [] g = g' a) (l : List α) :
    (l.filterMap f).flatMap g = l.flatMap g' := by
  induction l with
  | nil => rfl
  | cons a l ih =>
    rw [List.filterMap_cons, List.flatMap_cons, ← ih, ← h a]
    cases f a <;> rfl

variable (c : Catalog)

theorem Reference.elim_selected_known? (r : Reference) :
    (r.known? c).elim [] (selected c) = r.selected c := by
  cases r with
  | every type =>
    rw [known?, selected, KeyedList.contains_eq_isSome]
    cases hf : c.get? type with
    | none => simp [Catalog.word?, hf]
    | some f => rfl
  | chosen ids =>
    rw [known?, selected, Option.elim_some, selected, KeyedList.toList_filterMap]
    refine flatMap_filterMap_of_elim (fun e ↦ ?_) ids.toList
    rw [KeyedList.contains_eq_isSome]
    cases hf : c.get? e.1 with
    | none => simp [Catalog.word?, hf]
    | some f =>
      have hfound : (e.2.filter fun id ↦ (c.find? e.1 id).isSome).filterMap (c.find? e.1) =
          e.2.filterMap (c.find? e.1) := by
        rw [List.filterMap_filter]
        refine List.filterMap_congr fun id _ ↦ ?_
        cases c.find? e.1 id <;> rfl
      simp [Catalog.word?, hf, hfound]

theorem Reference.unresolved_of_known? {r r' : Reference} (name : String)
    (h : r.known? c = some r') : r'.unresolved c name = [] := by
  cases r with
  | every type =>
    rw [known?] at h
    split at h
    · next hc =>
      obtain rfl := Option.some.inj h
      rw [unresolved, if_pos hc]
    · cases h
  | chosen ids =>
    obtain rfl := Option.some.inj h
    rw [unresolved, List.flatMap_eq_nil_iff]
    intro e he
    rw [KeyedList.toList_filterMap] at he
    obtain ⟨⟨type, ids⟩, -, hids⟩ := List.mem_filterMap.1 he
    obtain ⟨found, hf, rfl⟩ := Option.map_eq_some_iff.1 hids
    split at hf
    · next hc =>
      obtain rfl := Option.some.inj hf
      simp [hc]
    · cases hf

theorem Breakpoint.selected_known (b : Breakpoint) : (b.known c).selected c = b.selected c :=
  flatMap_filterMap_of_elim (Reference.elim_selected_known? c) b.layouts

theorem Breakpoint.resolved_known (name : String) (b : Breakpoint) :
    (b.known c).resolved c name = b.resolved c name := by
  rw [resolved, selected_known]
  rfl

theorem Breakpoint.unresolved_known (name : String) (b : Breakpoint) :
    (b.known c).unresolved c name = [] := by
  have hl : (b.known c).layouts.flatMap (Reference.unresolved c name) = [] := by
    rw [List.flatMap_eq_nil_iff]
    intro r' hr'
    obtain ⟨r, -, hr⟩ := List.mem_filterMap.1 hr'
    exact Reference.unresolved_of_known? c name hr
  rw [unresolved]
  split
  · rfl
  · exact hl

end Known

namespace Config

variable (config : Config) (c : Catalog)

theorem warnings_journalAt (name : String) (b : Breakpoint) :
    Journal.warnings (Placement.journalAt c name b) = b.unresolved c name := by
  have hf : (Placement.findings c name b).filterMap Placement.Finding.warning? =
      b.layouts.flatMap (Reference.unresolved c name) := by
    rw [Placement.findings, List.filterMap_flatMap]
    exact List.flatMap_congr fun r _ ↦ r.filterMap_warning?_follow c name
  rw [Placement.journalAt, Breakpoint.unresolved]
  cases b.query? with
  | none => rfl
  | some query => simp [Journal.warnings, hf, Event.warning?, Function.comp_def]

theorem warnings_placementJournal : Journal.warnings (config.placementJournal c) =
    config.breakpoints.toList.flatMap fun e ↦ e.2.unresolved c e.1 := by
  rw [Journal.warnings, placementJournal, List.filterMap_flatMap]
  exact List.flatMap_congr fun e _ ↦ warnings_journalAt c e.1 e.2

def known : Config :=
  { config with breakpoints := config.breakpoints.filterMap fun _ b ↦ some (b.known c) }

theorem toList_breakpoints_known :
    (config.known c).breakpoints.toList =
      config.breakpoints.toList.map fun e ↦ (e.1, e.2.known c) := by
  rw [known, KeyedList.toList_filterMap, ← List.filterMap_eq_map]
  rfl

/-- What a configuration places is its selection, and its warnings tell what it leaves out. -/
structure ResolvesExactly : Prop where
  resolved : config.placements c =
    config.breakpoints.toList.flatMap fun e ↦ e.2.resolved c e.1
  distinct : ((config.placements c).map fun p ↦ (p.breakpoint, p.family, p.id)).Nodup
  /-- Everything selected is placed, itself or another of its word and bare id. -/
  present : ∀ name b query, (name, b) ∈ config.breakpoints.toList → b.query? = some query →
    ∀ s ∈ b.selected c, ∃ p ∈ config.placements c, p.breakpoint = name ∧ p.query = query ∧
      p.family = s.1 ∧ p.id = Variant.bareId s.2.id
  /-- A breakpoint places among the others what it places alone. -/
  apart : ∀ name b, (name, b) ∈ config.breakpoints.toList →
    (config.placements c).filter (fun p ↦ p.breakpoint = name) = (config.only name b).placements c
  carried : ∀ p ∈ config.placements c, ∃ b, (p.breakpoint, b) ∈ config.breakpoints.toList ∧
    b.query? = some p.query ∧ (p.family, p.variant) ∈ b.selected c ∧
    p.id = Variant.bareId p.variant.id
  reported : Journal.warnings (config.placementJournal c) =
    config.breakpoints.toList.flatMap fun e ↦ e.2.unresolved c e.1
  /-- Without what is named in vain the same is placed, and nothing is reported. -/
  unaffected : (config.known c).placements c = config.placements c ∧
    Journal.warnings ((config.known c).placementJournal c) = []

theorem placements_eq : config.placements c =
    config.breakpoints.toList.flatMap fun e ↦ e.2.resolved c e.1 :=
  List.flatMap_congr fun e _ ↦ Placement.atBreakpoint_eq_resolved c e.1 e.2

theorem filter_placements {name : String} {b : Breakpoint}
    (hb : (name, b) ∈ config.breakpoints.toList) :
    (config.placements c).filter (fun p ↦ p.breakpoint = name) =
      Placement.atBreakpoint c name b := by
  have hf : (config.placements c).filter (fun p ↦ p.breakpoint = name) =
      (config.breakpoints.toList.filter fun e ↦ e.1 = name).flatMap fun e ↦
        Placement.atBreakpoint c e.1 e.2 :=
    Sheet.filter_flatMap_of_const fun e _ p hp ↦ by rw [(Placement.of_mem_atBreakpoint hp).1]
  have hn : config.breakpoints.toList.filter (fun e ↦ e.1 = name) = [(name, b)] :=
    Sheet.filter_name_eq_singleton config.breakpoints.nodup_keys hb
  rw [hf, hn, List.flatMap_singleton]

theorem placements_only (name : String) (b : Breakpoint) :
    (config.only name b).placements c = Placement.atBreakpoint c name b := List.append_nil _

theorem nodup_map_placements :
    ((config.placements c).map fun p ↦ (p.breakpoint, p.family, p.id)).Nodup := by
  rw [placements, List.map_flatMap]
  apply KeyedList.nodup_flatMap_toList Prod.fst
  · exact fun e _ ↦ Placement.nodup_map_atBreakpoint c e.1 e.2
  · intro e _ k hk
    obtain ⟨p, hp, rfl⟩ := List.mem_map.1 hk
    exact (Placement.of_mem_atBreakpoint hp).1

theorem placements_known : (config.known c).placements c = config.placements c := by
  rw [placements_eq, toList_breakpoints_known, List.flatMap_map, placements_eq]
  exact List.flatMap_congr fun e _ ↦ e.2.resolved_known c e.1

theorem warnings_known : Journal.warnings ((config.known c).placementJournal c) = [] := by
  rw [warnings_placementJournal, toList_breakpoints_known, List.flatMap_map,
    List.flatMap_eq_nil_iff]
  intro e _
  exact e.2.unresolved_known c e.1

/-- Placing is exact, whatever references repeat, overlap or name in vain. -/
theorem resolvesExactly : config.ResolvesExactly c where
  resolved := config.placements_eq c
  distinct := config.nodup_map_placements c
  present name b query hb hq s hs := by
    obtain ⟨p, hp, hk⟩ := Placement.exists_mem_atBreakpoint name hq hs
    obtain ⟨hm, hn⟩ := (Placement.mem_placements_iff hb).2 hp
    have hpq : some query = some p.query := hq ▸ (Placement.of_mem_atBreakpoint hp).2
    exact ⟨p, hm, hn, (Option.some.inj hpq).symm, hk⟩
  apart name b hb := by rw [filter_placements config c hb, placements_only]
  carried p hp := by
    obtain ⟨⟨name, b⟩, hb, hp⟩ := List.mem_flatMap.1 hp
    obtain ⟨hn, hq⟩ := Placement.of_mem_atBreakpoint hp
    exact ⟨b, hn ▸ hb, hq, Placement.mem_selected_of_mem_atBreakpoint hp⟩
  reported := config.warnings_placementJournal c
  unaffected := ⟨config.placements_known c, config.warnings_known c⟩

def overlapping : Config where
  breakpoints := KeyedList.ofList
    [("xs", { layouts := [.every "lists"] }),
      ("md", {
        min := "720px"
        layouts := [.chosen (KeyedList.ofList [("tiles", ["grid(2)", "grid(9)"]), ("lists", [])]),
          .every "grid", .every "lists"] })]

example :
    let c := Catalog.ofFiles
      [("grid", { family := "grid", layouts := [{ id := "1" }, { id := "2" }] }),
        ("tiles", { family := "grid", layouts := [{ id := "2", columns := "1fr" }] })]
    ((overlapping.placements c).map fun p ↦ (p.breakpoint, p.family, p.id, p.variant.columns)) =
        [("md", "grid", "2", some "1fr"), ("md", "grid", "1", none)] ∧
      Journal.warnings (overlapping.placementJournal c) =
        [.missingVariant "md" "tiles" "grid(9)", .missingType "md" "lists",
          .missingType "md" "lists"] := by decide

end Config

end LayoutSheet
