import LayoutSheet.Build
import LayoutSheet.Proofs.Listing
import Mathlib.Data.List.Basic

namespace LayoutSheet

structure Inputs.Agree (s s' : Inputs) : Prop where
  config : s.config = s'.config
  types : ∀ c, s.config = .ok c → s.types = s'.types
  layouts : ∀ c listed, s.config = .ok c → s.types = .ok listed →
    ∀ type ∈ listed, s.layout type = s'.layout type
  styles : ∀ c listed, s.config = .ok c → s.types = .ok listed →
    ∀ name ∈ c.core ++ c.common, s.style name = s'.style name

namespace Build

variable {s s' : Inputs} {names : List String}

theorem styles_congr (h : ∀ name ∈ names, s.style name = s'.style name) :
    styles s names = styles s' names := by
  unfold styles styleTexts
  rw [List.filterMap_congr fun name hn ↦ by rw [h name hn]]

theorem styleFailures_congr (list : ModuleList) (h : ∀ name ∈ names, s.style name = s'.style name) :
    styleFailures s list names = styleFailures s' list names := by
  unfold styleFailures
  exact List.filterMap_congr fun name hn ↦ by rw [h name hn]

end Build

theorem Inputs.buildWith_congr {s s' : Inputs} {c : Config} {listed : List String}
    (hl : ∀ type ∈ listed, s.layout type = s'.layout type)
    (hs : ∀ name ∈ c.core ++ c.common, s.style name = s'.style name) (format : Format) :
    s.buildWith format c listed = s'.buildWith format c listed := by
  have hcore : ∀ name ∈ c.core, s.style name = s'.style name :=
    fun name hn ↦ hs name (List.mem_append_left _ hn)
  have hcommon : ∀ name ∈ c.common, s.style name = s'.style name :=
    fun name hn ↦ hs name (List.mem_append_right _ hn)
  have hfiles : Build.loadedFiles s listed = Build.loadedFiles s' listed :=
    List.filterMap_congr fun type ht ↦ by rw [hl type ht]
  have hfail : Build.fileFailures s listed = Build.fileFailures s' listed :=
    List.filterMap_congr fun type ht ↦ by rw [hl type ht]
  simp only [buildWith, hfiles, hfail, Build.styles_congr hcore, Build.styles_congr hcommon,
    Build.styleFailures_congr .core hcore, Build.styleFailures_congr .common hcommon]

theorem Inputs.Agree.build_eq {s s' : Inputs} (h : s.Agree s') (format : Format) :
    s.build format = s'.build format := by
  unfold build
  rw [← h.config]
  cases hc : s.config with
  | error e => rfl
  | ok c =>
    dsimp only
    rw [← h.types c hc]
    cases ht : s.types with
    | error e => rfl
    | ok listed =>
      exact congrArg Except.ok
        (buildWith_congr (h.layouts c listed hc ht) (h.styles c listed hc ht) format)

namespace Directory

variable {d : Directory} {t t' : FileTree}

theorem loadStyle_congr {name : String}
    (h : t.read (d.stylePath name) = t'.read (d.stylePath name)) :
    d.loadStyle t.files name = d.loadStyle t'.files name := by
  have hf (t : FileTree) : t.files.read = t.read := rfl
  unfold loadStyle
  rw [hf, hf, h]

theorem read_of_loadStyle {name : String}
    (h : d.loadStyle t.files name = d.loadStyle t'.files name) :
    t.read (d.stylePath name) = t'.read (d.stylePath name) := by
  have hf (t : FileTree) : t.files.read = t.read := rfl
  unfold loadStyle at h
  rw [hf, hf] at h
  split at h <;> split at h <;> simp_all

theorem watched_json (ht : t.WellFormed) :
    (d.watched t.files).tail.filter (fun p ↦ Path.extension? p = some "json") =
      (t.files.withExtension d.layouts "json").toOption.getD [] := by
  have hj : ∀ p ∈ (t.files.withExtension d.layouts "json").toOption.getD [],
      Path.extension? p = some "json" := by
    intro p hp
    cases hl : t.files.withExtension d.layouts "json" with
    | error e => rw [hl] at hp; cases hp
    | ok paths =>
      rw [hl] at hp
      exact Files.extension?_of_mem_withExtension ht hl hp
  have hc : ∀ p ∈ (t.files.withExtension d.styles "css").toOption.getD [],
      Path.extension? p ≠ some "json" := by
    intro p hp
    cases hl : t.files.withExtension d.styles "css" with
    | error e => rw [hl] at hp; cases hp
    | ok paths =>
      rw [hl] at hp
      rw [Files.extension?_of_mem_withExtension ht hl hp]
      decide
  rw [watched, List.cons_append, List.tail_cons, List.filter_append,
    List.filter_eq_self.2 (by simpa using hj), List.filter_eq_nil_iff.2 (by simpa using hc),
    List.append_nil]

section Two

variable (ht : t.WellFormed) (ht' : t'.WellFormed) (hw : d.watched t.files = d.watched t'.files)
include ht ht' hw

theorem types_eq_iff : d.types t.files = d.types t'.files ↔
    ∀ e, t.list d.layouts = .error e ↔ t'.list d.layouts = .error e := by
  have hj := watched_json (d := d) ht
  rw [hw, watched_json ht'] at hj
  have he (t : FileTree) (e : FileFault) :
      t.list d.layouts = .error e ↔ t.files.withExtension d.layouts "json" = .error e :=
    Files.withExtension_eq_error.symm
  simp only [he]
  unfold types
  cases hl : t.files.withExtension d.layouts "json" with
  | error e =>
    cases hl' : t'.files.withExtension d.layouts "json" with
    | error e' => simp
    | ok paths' => simp
  | ok paths =>
    cases hl' : t'.files.withExtension d.layouts "json" with
    | error e' => simp
    | ok paths' =>
      rw [hl, hl'] at hj
      obtain rfl : paths' = paths := hj
      simp

variable (hc : ∀ p ∈ d.watched t.files, t.read p = t'.read p)
include hc

omit ht ht' hw in
theorem loadConfig_eq : d.loadConfig t.files = d.loadConfig t'.files := by
  have hr : readAt t.files d.config = readAt t'.files d.config :=
    congrArg (Except.mapError _) (hc d.config List.mem_cons_self)
  rw [loadConfig, hr]
  rfl

omit ht' hw in
theorem loadLayout_eq {listed : List String} (hl : d.types t.files = .ok listed) {type : String}
    (hm : type ∈ listed) : d.loadLayout t.files type = d.loadLayout t'.files type := by
  obtain ⟨paths, hp, rfl⟩ := types_eq_ok hl
  obtain ⟨p, hpm, hs⟩ := List.mem_filterMap.1 hm
  have hpw : p ∈ d.watched t.files := by
    rw [watched, hp]
    exact List.mem_append_left _ (List.mem_cons_of_mem _ hpm)
  have hr : readAt t.files (d.layoutPath type) = readAt t'.files (d.layoutPath type) := by
    rw [layoutPath_of_stem? ht hp hpm hs]
    exact congrArg (Except.mapError _) (hc p hpw)
  rw [loadLayout, hr]
  rfl

theorem agree_iff : (d.inputs t.files).Agree (d.inputs t'.files) ↔
    ∀ c, d.loadConfig t.files = .ok c →
      (∀ e, t.list d.layouts = .error e ↔ t'.list d.layouts = .error e) ∧
      ∀ names, t.list d.layouts = .ok names → ∀ name ∈ c.core ++ c.common,
        d.stylePath name ∉ d.watched t.files →
          t.read (d.stylePath name) = t'.read (d.stylePath name) := by
  have hlist (listed : List String) (h : d.types t.files = .ok listed) :
      ∃ names, t.list d.layouts = .ok names := by
    obtain ⟨paths, hp, -⟩ := types_eq_ok h
    obtain ⟨names, hn, -⟩ := Files.withExtension_eq_ok hp
    exact ⟨names, hn⟩
  constructor
  · intro h c hload
    refine ⟨(types_eq_iff ht ht' hw).1 (h.types c hload), ?_⟩
    intro names hn name hm _
    cases htypes : d.types t.files with
    | error e =>
      unfold types at htypes
      split at htypes
      · next e' he =>
        rw [Files.withExtension_eq_error, hn] at he
        cases he
      · cases htypes
    | ok listed => exact read_of_loadStyle (h.styles c listed hload htypes name hm)
  · intro h
    refine ⟨loadConfig_eq hc, ?_, ?_, ?_⟩
    · intro c hload
      exact (types_eq_iff ht ht' hw).2 (h c hload).1
    · intro c listed _ htypes type hm
      exact loadLayout_eq ht hc htypes hm
    · intro c listed hload htypes name hm
      obtain ⟨names, hn⟩ := hlist listed htypes
      refine loadStyle_congr ?_
      by_cases hs : d.stylePath name ∈ d.watched t.files
      · exact hc _ hs
      · exact (h c hload).2 names hn name hm hs

/-- What is read is watched, but for style modules that no listing shows and the difference
between a directory that lists no layouts and one that cannot be listed. -/
theorem builds_agree_of_watched :
    ((d.inputs t.files).Agree (d.inputs t'.files) ↔
      ∀ c, d.loadConfig t.files = .ok c →
        (∀ e, t.list d.layouts = .error e ↔ t'.list d.layouts = .error e) ∧
        ∀ names, t.list d.layouts = .ok names → ∀ name ∈ c.core ++ c.common,
          d.stylePath name ∉ d.watched t.files →
            t.read (d.stylePath name) = t'.read (d.stylePath name)) ∧
    ((d.inputs t.files).Agree (d.inputs t'.files) → ∀ format,
      (d.inputs t.files).build format = (d.inputs t'.files).build format) :=
  ⟨agree_iff ht ht' hw hc, fun h ↦ h.build_eq⟩

end Two

section Examples

def paged (modules page : String) : FileTree where
  entries := [
    (["layout.config.json"], .file (.text ("\x7b\"core\":[" ++ modules ++ "]\x7d")) 1),
    (["layouts"], .directory none),
    (["layouts", "grid.json"], .file (.text "\x7b\"prefix\":\"grid\"\x7d") 1),
    (["core"], .directory none),
    (["core", "base.css"], .file (.text "a\x7b\x7d") 1),
    (["core", "print"], .directory none),
    (["core", "print", "page.css"], .file (.text page) 1)]

def besideConfig : Directory := .ofConfig "layout.config.json" none none

theorem builds_agree_of_watched_base :
    (besideConfig.inputs (paged "\"base\",\"missing\"" "b").files).build {} =
      (besideConfig.inputs (paged "\"base\",\"missing\"" "c").files).build {} := by
  have h := @builds_agree_of_watched besideConfig (paged "\"base\",\"missing\"" "b")
    (paged "\"base\",\"missing\"" "c") ⟨by decide +kernel, by decide +kernel⟩
    ⟨by decide +kernel, by decide +kernel⟩ (by decide +kernel) (by decide +kernel)
  refine h.2 (h.1.2 fun c hc ↦ ⟨?_, ?_⟩) {}
  · intro e
    have hl (page : String) (hp : page = "b" ∨ page = "c") :
        (paged "\"base\",\"missing\"" page).list besideConfig.layouts = .ok ["grid.json"] := by
      rcases hp with rfl | rfl <;> decide +kernel
    rw [hl "b" (.inl rfl), hl "c" (.inr rfl)]
  · intro names _ name hm hn
    have hmodules : (besideConfig.loadConfig (paged "\"base\",\"missing\"" "b").files).toOption.map
        (fun c ↦ c.core ++ c.common) = some ["base", "missing"] := by decide +kernel
    rw [hc] at hmodules
    obtain rfl | rfl : name = "base" ∨ name = "missing" := by
      simpa [Option.some.inj hmodules] using hm
    · exact absurd (by decide +kernel) hn
    · decide +kernel

/-- A style module in a directory of its own is read and not watched. -/
theorem not_watched_nestedStyle :
    ¬ ∀ (d : Directory) (t t' : FileTree) (format : Format),
      d.watched t.files = d.watched t'.files →
      (∀ p ∈ d.watched t.files, t.read p = t'.read p) →
      (d.inputs t.files).build format = (d.inputs t'.files).build format := by
  intro h
  have hb := h besideConfig (paged "\"print/page\"" "b") (paged "\"print/page\"" "c") {}
    (by decide +kernel) (by decide +kernel)
  have hcss := congrArg (fun r ↦ r.toOption.map Build.css) hb
  revert hcss
  decide +kernel

end Examples

end Directory

end LayoutSheet
