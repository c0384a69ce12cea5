import LayoutSheet.Proofs.Placements

namespace LayoutSheet

def Warning.variant? : Warning → Option String
  | missingVariant _ _ id => some id
  | repeatedVariant _ id => some id
  | _ => none

namespace Config

variable (config : Config) (files : List (String × LayoutFile))

def Realizes (c : Catalog) (name : String) (v : Variant) : Prop :=
  ∃ p ∈ config.placements c, p.breakpoint = name ∧ p.variant = v

/-- A warning of loading the files or of placing names the variant's id. -/
def Reports (v : Variant) : Prop :=
  ∃ w ∈ Journal.warnings
      (Catalog.registrations files ++ config.placementJournal (Catalog.ofFiles files)),
    w.variant? = some v.id

/-- Where a breakpoint has a query, each variant that its references select is realized there or
reported. -/
def LosesNothing : Prop :=
  ∀ name b query, (name, b) ∈ config.breakpoints.toList → b.query? = some query →
    ∀ r ∈ b.layouts, ∀ e ∈ r.selected (Catalog.ofFiles files),
      config.Realizes (Catalog.ofFiles files) name e.2 ∨ config.Reports files e.2

variable {config}

theorem realizes_iff {c : Catalog} {name query : String} {b : Breakpoint}
    (hb : (name, b) ∈ config.breakpoints.toList) (hq : b.query? = some query) {v : Variant} :
    config.Realizes c name v ↔ ∃ word, (b.selected c).find?
      (fun s ↦ s.1 = word ∧ Variant.bareId s.2.id = Variant.bareId v.id) = some (word, v) := by
  rw [← Placement.exists_mem_atBreakpoint_iff name hq]
  constructor
  · rintro ⟨p, hp, hn, rfl⟩
    exact ⟨p, (Placement.mem_placements_iff hb).1 ⟨hp, hn⟩, rfl⟩
  · rintro ⟨p, hp, rfl⟩
    obtain ⟨hm, hn⟩ := (Placement.mem_placements_iff hb).2 hp
    exact ⟨p, hm, hn, rfl⟩

theorem realizes_of_unique {c : Catalog} {name query : String} {b : Breakpoint}
    (hb : (name, b) ∈ config.breakpoints.toList) (hq : b.query? = some query)
    {e : String × Variant} (he : e ∈ b.selected c)
    (hu : ∀ s ∈ b.selected c, s.1 = e.1 → Variant.bareId s.2.id = Variant.bareId e.2.id → s = e) :
    config.Realizes c name e.2 := by
  obtain ⟨p, hp, hf, hid⟩ := Placement.exists_mem_atBreakpoint name hq he
  obtain ⟨hs, hid'⟩ := Placement.mem_selected_of_mem_atBreakpoint hp
  have hpe : (p.family, p.variant) = e := hu _ hs hf (hid'.symm.trans hid)
  obtain ⟨hm, hn⟩ := (Placement.mem_placements_iff hb).2 hp
  exact ⟨p, hm, hn, congrArg Prod.snd hpe⟩

variable (config)

/-- Nothing is lost exactly when each selected variant that no warning names is, under some family
word, the first that its breakpoint selects of its bare id. -/
theorem losesNothing_iff :
    config.LosesNothing files ↔
      ∀ name b query, (name, b) ∈ config.breakpoints.toList → b.query? = some query →
        ∀ r ∈ b.layouts, ∀ e ∈ r.selected (Catalog.ofFiles files),
          (∃ word, (b.selected (Catalog.ofFiles files)).find?
            (fun s ↦ s.1 = word ∧ Variant.bareId s.2.id = Variant.bareId e.2.id) =
              some (word, e.2)) ∨ config.Reports files e.2 := by
  refine forall_congr' fun name ↦ forall_congr' fun b ↦ forall_congr' fun query ↦ ?_
  refine forall_congr' fun hb ↦ forall_congr' fun hq ↦ ?_
  exact forall_congr' fun r ↦ forall_congr' fun _ ↦ forall_congr' fun e ↦ forall_congr' fun _ ↦
    or_congr_left (realizes_iff hb hq)

def sharedWord : List (String × LayoutFile) :=
  [("grid", { family := "grid", layouts := [{ id := "1", columns := "1fr" }] }),
    ("tiles", { family := "grid", layouts := [{ id := "1", columns := "2fr" }] })]

def gridsAndTiles : Config where
  breakpoints := KeyedList.ofList
    [("md", { min := "720px", layouts := [.every "grid", .every "tiles"] })]

/-- The second of two variants with one id is neither placed nor reported. -/
theorem not_losesNothing_sharedWord : ¬ gridsAndTiles.LosesNothing sharedWord := by
  intro h
  have ht : ("grid", ({ id := "grid(1)", columns := "2fr" } : Variant)) ∈
      (Reference.every "tiles").selected (Catalog.ofFiles sharedWord) := by
    exact List.mem_singleton_self _
  obtain ⟨p, hp, -, hv⟩ | ⟨w, hw, -⟩ :=
    h "md" _ _ List.mem_cons_self rfl (.every "tiles") (by simp) _ ht
  · obtain rfl := List.mem_singleton.1 (show p ∈ [_] from hp)
    have hc := congrArg Variant.columns hv
    exact absurd hc (by decide)
  · cases hw

end Config

end LayoutSheet
