import LayoutSheet.Proofs.Catalog
import LayoutSheet.Proofs.Holding
import Mathlib.Logic.Relation

namespace LayoutSheet

def Reference.types : Reference → List String
  | .every type => [type]
  | .chosen ids => ids.keys

/-- Some reference of an active breakpoint names the type. -/
def Config.Mentions (config : Config) (type : String) : Prop :=
  ∃ e ∈ config.breakpoints.toList, e.2.query? ≠ none ∧ ∃ r ∈ e.2.layouts, type ∈ r.types

section Congruence

variable {config : Config} {c c' : Catalog}

theorem Reference.selected_congr {r : Reference}
    (h : ∀ type ∈ r.types, c.get? type = c'.get? type) :
    r.selected c = r.selected c' := by
  cases r with
  | every type =>
    have ht := h type (List.mem_singleton_self type)
    simp only [selected, Catalog.word?, Catalog.variants?, ht]
  | chosen ids =>
    refine List.flatMap_congr fun e he ↦ ?_
    have ht := h e.1 (KeyedList.mem_keys.2 ⟨e.2, he⟩)
    have hfind : c.find? e.1 = c'.find? e.1 := funext fun id ↦ by
      rw [Catalog.find?, Catalog.find?, ht]
    simp only [Catalog.word?, ht, hfind]

theorem Config.placements_congr (h : ∀ type, config.Mentions type → c.get? type = c'.get? type) :
    config.placements c = config.placements c' := by
  rw [placements_eq, placements_eq]
  refine List.flatMap_congr fun e he ↦ ?_
  unfold Breakpoint.resolved
  cases hq : e.2.query? with
  | none => rfl
  | some query =>
    have hs : e.2.selected c = e.2.selected c' :=
      List.flatMap_congr fun r hr ↦ Reference.selected_congr fun type ht ↦
        h type ⟨e, he, by simp [hq], r, hr, ht⟩
    rw [hs]

theorem Config.sheet_congr (h : ∀ type, config.Mentions type → c.get? type = c'.get? type) :
    config.sheet c = config.sheet c' := by
  rw [sheet, sheet, placements_congr h]

end Congruence

namespace Project

variable (p : Project)

def file? (type : String) : Option LayoutFile :=
  (p.layouts.get? type).bind fun text ↦ (LayoutFile.read text).toOption

def readable : List (String × LayoutFile) :=
  p.layouts.toList.filterMap fun e ↦ (LayoutFile.read e.2).toOption.map fun file ↦ (e.1, file)

def catalog : Catalog := .ofFiles p.readable

theorem layout_eq {e : String × String} (he : e ∈ p.layouts.toList) :
    p.inputs.layout e.1 = LayoutFile.load e.2 := by
  simp only [inputs, KeyedList.get?_eq_some_iff.2 he]

theorem loadedFiles_eq : Build.loadedFiles p.inputs p.layouts.keys = p.readable := by
  rw [Build.loadedFiles, KeyedList.keys, List.filterMap_map]
  refine List.filterMap_congr fun e he ↦ ?_
  rw [Function.comp_apply, layout_eq p he, LayoutFile.load]
  cases LayoutFile.read e.2 <;> rfl

theorem catalog_eq : p.catalog =
    p.layouts.filterMap fun _ text ↦ (LayoutFile.read text).toOption.map Family.ofFile := by
  have hl : p.readable.map (fun f ↦ (f.1, Family.ofFile f.2)) = (p.layouts.filterMap fun _ text ↦
      (LayoutFile.read text).toOption.map Family.ofFile).toList := by
    simp only [readable, List.map_filterMap, KeyedList.toList_filterMap, Option.map_map,
      Function.comp_def]
  rw [catalog, Catalog.ofFiles_eq_ofList, hl]
  exact KeyedList.ext (KeyedList.toList_ofList (KeyedList.nodup_keys _))

theorem get?_catalog (type : String) :
    p.catalog.get? type = (p.file? type).map Family.ofFile := by
  rw [catalog_eq, KeyedList.get?_filterMap, file?]
  cases p.layouts.get? type <;> rfl

theorem build_eq (format : Format) : p.inputs.build format =
    match Config.read p.config with
    | .error e => .error (.config (.malformed none e.message))
    | .ok c => .ok (p.inputs.buildWith format c p.layouts.keys) := by
  have hc : p.inputs.config = Config.load p.config := rfl
  have ht : p.inputs.types = .ok p.layouts.keys := rfl
  rw [Inputs.build, hc, ht, Config.load]
  cases Config.read p.config <;> rfl

def built (format : Format) (c : Config) : String × Nat :=
  let b := p.inputs.buildWith format c p.layouts.keys
  (b.css, b.rules)

theorem built_eq (format : Format) (c : Config) : p.built format c =
    (Stylesheet.render format c (Build.styles p.inputs c.core) (Build.styles p.inputs c.common)
      (c.sheet p.catalog), (c.sheet p.catalog).size) := by
  simp only [built, Inputs.buildWith, loadedFiles_eq, catalog]

theorem styles_eq (names : List String) :
    Build.styles p.inputs names = String.intercalate "\n\n" (names.filterMap p.styles.get?) := rfl

/-- One change of a project that a build passes over. -/
inductive Passes : Project → Project → Prop
  | put {p : Project} {c : Config} {type : String} (text : String)
      (hc : Config.read p.config = .ok c) (ht : ¬ c.Mentions type) :
      Passes p { p with layouts := p.layouts.insert type text }
  | drop {p : Project} {c : Config} {type : String}
      (hc : Config.read p.config = .ok c) (ht : ¬ c.Mentions type) :
      Passes p { p with layouts := p.layouts.without type }
  | dropBroken {p : Project} {type text : String} {e : Json.Problem}
      (ht : p.layouts.get? type = some text) (hr : LayoutFile.read text = .error e) :
      Passes p { p with layouts := p.layouts.without type }
  | unnameCore {p : Project} {c : Config} {before after : List String} {name text : String}
      (hc : Config.read p.config = .ok c) (hl : c.core = before ++ name :: after)
      (hn : p.styles.get? name = none)
      (ht : Config.read text = .ok { c with core := before ++ after }) :
      Passes p { p with config := text }
  | unnameCommon {p : Project} {c : Config} {before after : List String} {name text : String}
      (hc : Config.read p.config = .ok c) (hl : c.common = before ++ name :: after)
      (hn : p.styles.get? name = none)
      (ht : Config.read text = .ok { c with common := before ++ after }) :
      Passes p { p with config := text }

variable {p} {q : Project} {c : Config}

theorem built_congr (format : Format) (hs : q.styles = p.styles)
    (hf : ∀ type, c.Mentions type → q.file? type = p.file? type) :
    q.built format c = p.built format c := by
  have hsheet : c.sheet q.catalog = c.sheet p.catalog :=
    Config.sheet_congr fun type ht ↦ by rw [get?_catalog, get?_catalog, hf type ht]
  rw [built_eq, built_eq, hsheet, styles_eq, styles_eq, hs]
  rfl

theorem styles_unname {before after : List String} {name : String}
    (hn : p.styles.get? name = none) :
    Build.styles p.inputs (before ++ name :: after) = Build.styles p.inputs (before ++ after) := by
  rw [styles_eq, styles_eq, List.filterMap_append, List.filterMap_cons_none hn,
    ← List.filterMap_append]

theorem Passes.built_eq (h : Passes p q) (hc : Config.read p.config = .ok c) (format : Format) :
    ∃ c', Config.read q.config = .ok c' ∧ q.built format c' = p.built format c := by
  cases h with
  | @put _ type text hc' ht =>
    obtain rfl := Except.ok.inj (hc'.symm.trans hc)
    refine ⟨_, hc, built_congr format rfl fun type' ht' ↦ ?_⟩
    have hne : type' ≠ type := fun he ↦ ht (he ▸ ht')
    rw [file?, file?, KeyedList.get?_insert, if_neg hne]
  | @drop _ type hc' ht =>
    obtain rfl := Except.ok.inj (hc'.symm.trans hc)
    refine ⟨_, hc, built_congr format rfl fun type' ht' ↦ ?_⟩
    have hne : type' ≠ type := fun he ↦ ht (he ▸ ht')
    rw [file?, file?, KeyedList.get?_without, if_neg hne]
  | @dropBroken type text e ht hr =>
    refine ⟨_, hc, built_congr format rfl fun type' _ ↦ ?_⟩
    rw [file?, file?, KeyedList.get?_without]
    split
    · next he =>
      subst he
      simp [ht, hr, Except.toOption]
    · rfl
  | unnameCore hc' hl hn ht =>
    obtain rfl := Except.ok.inj (hc'.symm.trans hc)
    refine ⟨_, ht, ?_⟩
    rw [Project.built_eq, Project.built_eq, hl, styles_unname hn]
    rfl
  | unnameCommon hc' hl hn ht =>
    obtain rfl := Except.ok.inj (hc'.symm.trans hc)
    refine ⟨_, ht, ?_⟩
    rw [Project.built_eq, Project.built_eq, hl, styles_unname hn]
    rfl

theorem built_eq_of_passes (h : Relation.ReflTransGen Passes p q)
    (hc : Config.read p.config = .ok c) (format : Format) :
    ∃ c', Config.read q.config = .ok c' ∧ q.built format c' = p.built format c := by
  induction h with
  | refl => exact ⟨c, hc, rfl⟩
  | tail _ hs ih =>
    obtain ⟨c', hc', he⟩ := ih
    obtain ⟨c'', hc'', he'⟩ := hs.built_eq hc' format
    exact ⟨c'', hc'', he'.trans he⟩

section Warnings

variable (p)

def brokenLayouts : List Warning :=
  p.layouts.toList.filterMap fun e ↦
    match LayoutFile.read e.2 with
    | .ok _ => none
    | .error x => some (.brokenLayout e.1 (LoadError.malformed none x.message).message)

def repeatedVariants : List Warning :=
  p.readable.flatMap fun f ↦
    (laterCopies (f.2.layouts.map Variant.id)).map fun id ↦
      .repeatedVariant f.1 (Variant.qualify f.2.family id)

def missingModules (list : ModuleList) (names : List String) : List Warning :=
  (names.filter fun name ↦ !p.styles.contains name).map (.missingModule list)

def reports (c : Config) : List Warning :=
  p.brokenLayouts ++ p.repeatedVariants ++ p.missingModules .core c.core
    ++ p.missingModules .common c.common
    ++ c.breakpoints.toList.flatMap fun e ↦ e.2.unresolved p.catalog e.1

theorem warnings_fileFailures :
    Journal.warnings (Build.fileFailures p.inputs p.layouts.keys) = p.brokenLayouts := by
  rw [Journal.warnings, Build.fileFailures, KeyedList.keys, List.filterMap_map,
    List.filterMap_filterMap]
  refine List.filterMap_congr fun e he ↦ ?_
  rw [Function.comp_apply, layout_eq p he, LayoutFile.load]
  cases LayoutFile.read e.2 <;> rfl

theorem warnings_registrations :
    Journal.warnings (Catalog.registrations p.readable) = p.repeatedVariants := by
  rw [Journal.warnings, Catalog.registrations, List.filterMap_flatMap]
  exact List.flatMap_congr fun f _ ↦ Catalog.warnings_registration f.1 f.2

theorem warnings_styleFailures (list : ModuleList) (names : List String) :
    Journal.warnings (Build.styleFailures p.inputs list names) = p.missingModules list names := by
  rw [Journal.warnings, Build.styleFailures, List.filterMap_filterMap, missingModules,
    ← List.filterMap_eq_map, List.filterMap_filter]
  refine List.filterMap_congr fun name _ ↦ ?_
  have hs : p.inputs.style name = .ok (p.styles.get? name) := rfl
  rw [hs, KeyedList.contains_eq_isSome]
  cases p.styles.get? name <;> rfl

end Warnings

/-- What is bad or of no use in a project counts for as much as if it were not there. -/
structure Degrades (p : Project) (format : Format) : Prop where
  fails_iff : (∃ e, p.inputs.build format = .error e) ↔ ∃ e, Config.read p.config = .error e
  passedOver : ∀ q, Relation.ReflTransGen Passes p q → ∀ b, p.inputs.build format = .ok b →
    ∃ b', q.inputs.build format = .ok b' ∧ b'.css = b.css ∧ b'.rules = b.rules
  reported : ∀ c b, Config.read p.config = .ok c → p.inputs.build format = .ok b →
    b.warnings = p.reports c

theorem degrades (p : Project) (format : Format) : p.Degrades format where
  fails_iff := by
    rw [build_eq]
    cases Config.read p.config <;> simp
  passedOver q h b hb := by
    rw [build_eq] at hb ⊢
    cases hc : Config.read p.config with
    | error e =>
      rw [hc] at hb
      cases hb
    | ok c =>
      rw [hc] at hb
      obtain ⟨c', hc', he⟩ := built_eq_of_passes h hc format
      obtain rfl := Except.ok.inj hb
      obtain ⟨hcss, hrules⟩ := Prod.mk.inj he
      exact ⟨_, by rw [hc'], hcss, hrules⟩
  reported c b hc hb := by
    rw [build_eq, hc] at hb
    obtain rfl := Except.ok.inj hb
    rw [Build.warnings_buildWith, Build.otherWarnings, loadedFiles_eq, warnings_fileFailures,
      warnings_registrations, warnings_styleFailures, warnings_styleFailures,
      Config.warnings_sheetJournal, reports]
    have hw : (fun e : String × Breakpoint ↦ (Placement.journalAt p.catalog e.1 e.2).warnings) =
        fun e ↦ e.2.unresolved p.catalog e.1 :=
      funext fun e ↦ Config.warnings_journalAt p.catalog e.1 e.2
    rw [← catalog, hw]
    simp only [List.append_assoc]

end Project

end LayoutSheet
