import LayoutSheet.Proofs.History
import LayoutSheet.Proofs.Resolution
import LayoutSheet.Proofs.Watched

namespace LayoutSheet

namespace Path

def cutEnd? (e n : String) : Option String :=
  if e.toList.isSuffixOf n.toList then
    some (String.ofList (n.toList.take (n.toList.length - e.toList.length)))
  else none

theorem cutEnd?_eq_some_iff {e n m : String} : cutEnd? e n = some m ↔ n = m ++ e := by
  unfold cutEnd?
  rw [← String.toList_inj, String.toList_append]
  constructor
  · intro h
    split at h
    · next hs =>
      obtain ⟨a, ha⟩ := List.isSuffixOf_iff_suffix.1 hs
      obtain rfl := Option.some.inj h
      rw [← ha]
      simp
    · cases h
  · intro h
    rw [h, if_pos (List.isSuffixOf_iff_suffix.2 (List.suffix_append _ _))]
    simp

end Path

theorem lookup_eq_some_iff_mem {α β : Type} [BEq α] [LawfulBEq α] {l : List (α × β)} {a : α} {b : β}
    (h : (l.map Prod.fst).Nodup) : l.lookup a = some b ↔ (a, b) ∈ l := by
  induction l with
  | nil => simp
  | cons e l ih =>
    obtain ⟨a', b'⟩ := e
    obtain ⟨hn, hl⟩ := List.nodup_cons.1 h
    by_cases ha : a = a'
    · subst ha
      have hb : (a, b) ∉ l := fun hm ↦ hn (List.mem_map.2 ⟨(a, b), hm, rfl⟩)
      simp [hb, eq_comm]
    · simp [List.lookup_cons, beq_eq_false_iff_ne.2 ha, ih hl, ha]

namespace FileTree

def Fits (path : String) : Prop := '\x00' ∉ path.toList ∧ path.utf8ByteSize ≤ maxPath

instance (path : String) : Decidable (Fits path) := inferInstanceAs (Decidable (_ ∧ _))

def text? (t : FileTree) (names : List String) : Option String :=
  match t.entry? names with
  | some (.file (.text s) _) => some s
  | _ => none

variable {t : FileTree} {n path : String}

theorem find_join (hn : Path.IsName n) (hf : Fits (Path.join path n)) :
    t.find (Path.join path n) = (t.place path).bind fun s ↦ t.step s n.toList := by
  obtain ⟨hs, -, hslash, -, -⟩ := hn
  have hnul : (Path.join path n).toList.contains '\x00' = false := by
    simpa using hf.1
  have hne : (Path.join path n).isEmpty = false := by
    rw [Bool.eq_false_iff, Ne, String.isEmpty_iff, ← String.toList_eq_nil_iff,
      Path.toList_join hslash]
    intro h
    rw [(List.append_eq_nil_iff.1 h).2] at hs
    cases hs
  have hc : checkPath (Path.join path n) = .ok () := by
    rw [checkPath, hne, if_neg (Nat.not_lt.2 hf.2)]
    rfl
  rw [find, hnul, hc, ← place_join t hslash]
  rfl

theorem entry?_concat (ns : List String) (n : String) :
    t.entry? (ns ++ [n]) = t.entries.lookup (ns ++ [n]) := by
  unfold entry?
  rw [if_neg (by simp)]

theorem step_of_isName (hn : Path.IsName n) (names : Option (List String)) (time : Option Nat) :
    t.step ⟨names, .directory time⟩ n.toList = t.child ⟨names, .directory time⟩ n := by
  obtain ⟨hs, hd, -, -, -⟩ := hn
  rw [step, hs, if_neg hd, String.ofList_toList]
  rfl

theorem WellFormed.text?_eq_some_iff (h : t.WellFormed) {ns : List String} {s : String} :
    t.text? (ns ++ [n]) = some s ↔ ∃ time, (ns ++ [n], .file (.text s) time) ∈ t.entries := by
  simp only [← lookup_eq_some_iff_mem h.distinct, text?, entry?_concat]
  split
  · next s' time he => simp [he]
  · next hx =>
    refine iff_of_false (by simp) ?_
    rintro ⟨time, he⟩
    exact hx s time he

end FileTree

namespace Directory

variable (d : Directory) (t : FileTree)

def heldLayouts : List (String × String) :=
  ((t.files.withExtension d.layouts "json").toOption.getD []).filterMap fun p ↦ do
    return (← Path.stem? p, ← (t.read p).toOption)

def heldStyle? (ns : List String) (n : String) : Option (String × String) := do
  return (← Path.cutEnd? ".css" n, ← t.text? (ns ++ [n]))

def heldStyles : List (String × String) :=
  match t.place d.styles with
  | .ok ⟨some ns, .directory _⟩ => (t.fileNames ns).filterMap (heldStyle? t ns)
  | _ => []

def project (text : String) : Project where
  config := text
  layouts := .ofList (d.heldLayouts t)
  styles := .ofList (d.heldStyles t)

/-- A project of regular files: a configuration file, a directory of layout files, and a directory
of style modules that may be missing. -/
structure IsProject (text : String) : Prop where
  wellFormed : t.WellFormed
  config : t.read d.config = .ok text
  layouts : t.isDirectory d.layouts = true
  layoutTexts : ∀ paths, t.files.withExtension d.layouts "json" = .ok paths →
    ∀ p ∈ paths, ∃ s, t.read p = .ok s
  styles : t.place d.styles = .error .notFound ∨
    ∃ names time, t.place d.styles = .ok ⟨names, .directory time⟩
  styleTexts : ∀ ns time, t.place d.styles = .ok ⟨some ns, .directory time⟩ →
    ∀ m e, (ns ++ [m ++ ".css"], e) ∈ t.entries → ∃ s time, e = .file (.text s) time
  modules : ∀ c, Config.read text = .ok c → ∀ name ∈ c.core ++ c.common,
    Path.IsName (name ++ ".css") ∧ FileTree.Fits (d.stylePath name)

/-- A warning about a text that cannot be parsed, once with its file and once without. -/
inductive Names (d : Directory) : Warning → Warning → Prop
  | layout (type reason : String) : Names d
      (.brokenLayout type (LoadError.malformed (some (d.layoutPath type)) reason).message)
      (.brokenLayout type (LoadError.malformed none reason).message)
  | other {w : Warning} (h : ∀ type reason, w ≠ .brokenLayout type reason) : Names d w w

/-- Builds with one result, but for the files that the first one names. -/
inductive BuildsAlike (d : Directory) : Except BuildError Build → Except BuildError Build → Prop
  | failed (reason : String) : BuildsAlike d
      (.error (.config (.malformed (some d.config) reason)))
      (.error (.config (.malformed none reason)))
  | built {b b' : Build} (css : b.css = b'.css) (rules : b.rules = b'.rules)
      (warnings : List.Forall₂ d.Names b.warnings b'.warnings) : BuildsAlike d (.ok b) (.ok b')

theorem map_fst_heldLayouts {paths : List String}
    (hp : t.files.withExtension d.layouts "json" = .ok paths)
    (ht : ∀ p ∈ paths, ∃ s, t.read p = .ok s) :
    (d.heldLayouts t).map Prod.fst = paths.filterMap Path.stem? := by
  rw [heldLayouts, hp, List.map_filterMap]
  refine List.filterMap_congr fun p hm ↦ ?_
  obtain ⟨s, hs⟩ := ht p hm
  rw [hs]
  cases Path.stem? p <;> rfl

theorem mem_heldLayouts {paths : List String}
    (hp : t.files.withExtension d.layouts "json" = .ok paths) {type s : String} :
    (type, s) ∈ d.heldLayouts t ↔ ∃ p ∈ paths, Path.stem? p = some type ∧ t.read p = .ok s := by
  rw [heldLayouts, hp, Except.toOption, Option.getD_some, List.mem_filterMap]
  refine exists_congr fun p ↦ and_congr_right fun _ ↦ ?_
  cases Path.stem? p <;> cases t.read p <;> simp [Except.toOption]

section Types

variable {d t} {text : String} (h : d.IsProject t text)
include h

theorem IsProject.exists_paths : ∃ paths, t.files.withExtension d.layouts "json" = .ok paths := by
  have hd := h.layouts
  cases hp : t.files.withExtension d.layouts "json" with
  | ok paths => exact ⟨paths, rfl⟩
  | error e =>
    rw [Files.withExtension_eq_error] at hp
    unfold FileTree.isDirectory at hd
    unfold FileTree.list at hp
    split at hd
    · next hf =>
      rw [hf] at hp
      split at hp <;> simp_all
    · cases hd

theorem IsProject.nodup_types {paths : List String}
    (hp : t.files.withExtension d.layouts "json" = .ok paths) :
    (paths.filterMap Path.stem?).Nodup := by
  have hnodup : paths.Nodup := Files.nodup_withExtension h.wellFormed hp
  rw [List.Nodup, List.pairwise_filterMap]
  refine hnodup.imp_of_mem ?_
  rintro p q hpm hqm hne type hs _ hs' rfl
  refine hne ?_
  rw [← layoutPath_of_stem? h.wellFormed hp hpm hs, layoutPath_of_stem? h.wellFormed hp hqm hs']

theorem IsProject.types_eq :
    d.types t.files = .ok ((d.heldLayouts t).map Prod.fst) ∧
      ((d.heldLayouts t).map Prod.fst).Nodup := by
  obtain ⟨paths, hp⟩ := h.exists_paths
  rw [map_fst_heldLayouts d t hp (h.layoutTexts paths hp)]
  refine ⟨?_, h.nodup_types hp⟩
  rw [types, hp]

theorem IsProject.types_project :
    (d.project t text).inputs.types = .ok ((d.heldLayouts t).map Prod.fst) := by
  have hk : (KeyedList.ofList (d.heldLayouts t)).keys = (d.heldLayouts t).map Prod.fst := by
    rw [KeyedList.keys_ofList, eraseDups_of_nodup h.types_eq.2]
  exact congrArg Except.ok hk

theorem IsProject.exists_layout {type : String} (hm : type ∈ (d.heldLayouts t).map Prod.fst) :
    ∃ s, d.loadLayout t.files type =
        (LayoutFile.load s).mapError (.located (d.layoutPath type)) ∧
      (d.project t text).inputs.layout type = LayoutFile.load s := by
  obtain ⟨paths, hp⟩ := h.exists_paths
  obtain ⟨⟨type, s⟩, hs, rfl⟩ := List.mem_map.1 hm
  obtain ⟨p, hpm, hstem, hr⟩ := (mem_heldLayouts d t hp).1 hs
  refine ⟨s, ?_, ?_⟩
  · have ha : readAt t.files (d.layoutPath type) = .ok s := by
      rw [layoutPath_of_stem? h.wellFormed hp hpm hstem]
      exact congrArg (Except.mapError _) hr
    rw [loadLayout, ha]
    rfl
  · have hg : (d.project t text).layouts.get? type = some s := by
      rw [KeyedList.get?_eq_some_iff, project, KeyedList.toList_ofList h.types_eq.2]
      exact hs
    rw [Project.inputs]
    simp only [hg]

end Types

section Styles

variable {d t} {ns : List String} {time : Option Nat}

theorem heldStyle?_eq_some_iff {n m s : String} : heldStyle? t ns n = some (m, s) ↔
    n = m ++ ".css" ∧ t.text? (ns ++ [n]) = some s := by
  rw [heldStyle?, ← Path.cutEnd?_eq_some_iff]
  cases Path.cutEnd? ".css" n <;> cases t.text? (ns ++ [n]) <;> simp

theorem mem_heldStyles (ht : t.WellFormed) (hp : t.place d.styles = .ok ⟨some ns, .directory time⟩)
    {m s : String} : (m, s) ∈ d.heldStyles t ↔ t.text? (ns ++ [m ++ ".css"]) = some s := by
  rw [heldStyles, hp]
  simp only [List.mem_filterMap, heldStyle?_eq_some_iff]
  constructor
  · rintro ⟨n, -, rfl, hx⟩
    exact hx
  · intro hx
    obtain ⟨time, he⟩ := ht.text?_eq_some_iff.1 hx
    exact ⟨m ++ ".css", FileTree.mem_fileNames.2 ⟨_, time, he⟩, rfl, hx⟩

theorem nodup_heldStyles (ht : t.WellFormed) : ((d.heldStyles t).map Prod.fst).Nodup := by
  rw [heldStyles]
  split
  · next ns time hp =>
    rw [List.map_filterMap, List.Nodup, List.pairwise_filterMap]
    refine (FileTree.nodup_fileNames ht ns).imp ?_
    intro n n' hne m hm m' hm' hmm
    obtain ⟨⟨_, s⟩, hs, rfl⟩ := Option.map_eq_some_iff.1 hm
    obtain ⟨⟨_, s'⟩, hs', rfl⟩ := Option.map_eq_some_iff.1 hm'
    refine hne ?_
    rw [(heldStyle?_eq_some_iff.1 hs).1, (heldStyle?_eq_some_iff.1 hs').1]
    exact congrArg (· ++ ".css") hmm
  · exact .nil

theorem get?_heldStyles (ht : t.WellFormed) (hp : t.place d.styles = .ok ⟨some ns, .directory time⟩)
    (m : String) :
    (KeyedList.ofList (d.heldStyles t)).get? m = t.text? (ns ++ [m ++ ".css"]) := by
  refine Option.ext fun s ↦ ?_
  rw [KeyedList.get?_eq_some_iff, KeyedList.toList_ofList (nodup_heldStyles ht)]
  exact mem_heldStyles ht hp

theorem IsProject.loadStyle_eq {text : String} (h : d.IsProject t text) {name : String}
    (hn : Path.IsName (name ++ ".css")) (hf : FileTree.Fits (d.stylePath name)) :
    d.loadStyle t.files name = .ok ((d.project t text).styles.get? name) := by
  have hfind := FileTree.find_join (t := t) hn hf
  have hread : t.files.read (d.stylePath name) = t.read (d.stylePath name) := rfl
  have hnone (hp : d.heldStyles t = []) : (d.project t text).styles.get? name = none := by
    rw [project, hp]
    rfl
  have hmissing (he : t.find (d.stylePath name) = .error .notFound) :
      d.loadStyle t.files name = .ok none := by
    rw [loadStyle, hread, FileTree.read, he]
  rcases h.styles with hp | ⟨names, time, hp⟩
  · rw [hmissing (by rw [stylePath, hfind, hp]; rfl), hnone (by rw [heldStyles, hp])]
  · have hstep : t.find (d.stylePath name) = t.child ⟨names, .directory time⟩ (name ++ ".css") := by
      rw [stylePath, hfind, hp]
      exact FileTree.step_of_isName hn names time
    have hsize := Nat.not_lt.2 hn.2.2.2.2
    cases names with
    | none =>
      have hc : t.child ⟨none, .directory time⟩ (name ++ ".css") = .error .notFound := by
        rw [FileTree.child, if_neg hsize]
      rw [hmissing (hstep.trans hc), hnone (by rw [heldStyles, hp])]
    | some ns =>
      rw [project, get?_heldStyles h.wellFormed hp, FileTree.text?]
      cases he : FileTree.entry? t (ns ++ [name ++ ".css"]) with
      | none =>
        have hc : t.child ⟨some ns, .directory time⟩ (name ++ ".css") = .error .notFound := by
          simp only [FileTree.child, if_neg hsize, he]
        exact hmissing (hstep.trans hc)
      | some e =>
        have hc : t.child ⟨some ns, .directory time⟩ (name ++ ".css") =
            .ok ⟨some (ns ++ [name ++ ".css"]), e⟩ := by
          simp only [FileTree.child, if_neg hsize, he]
        rw [FileTree.entry?_concat, lookup_eq_some_iff_mem h.wellFormed.distinct] at he
        obtain ⟨s, time', rfl⟩ := h.styleTexts ns time hp name e he
        rw [loadStyle, hread, FileTree.read, hstep.trans hc]

end Styles

end Directory

def Warning.IsElsewhere (w : Warning) : Prop := ∀ type reason, w ≠ .brokenLayout type reason

namespace Build

theorem isElsewhere_of_registrations {files : List (String × LayoutFile)} {w : Warning}
    (hw : w ∈ (Catalog.registrations files).warnings) : w.IsElsewhere := by
  intro type reason
  rintro rfl
  obtain ⟨e, he, hx⟩ := List.mem_filterMap.1 hw
  obtain ⟨f, -, hf⟩ := List.mem_flatMap.1 he
  rw [Catalog.registration, List.mem_append, List.mem_map, List.mem_singleton] at hf
  rcases hf with ⟨id, -, rfl⟩ | rfl <;> cases hx

theorem isElsewhere_of_styleFailures {s : Inputs} {list : ModuleList} {names : List String}
    {w : Warning} (hw : w ∈ (styleFailures s list names).warnings) : w.IsElsewhere := by
  intro type reason
  rintro rfl
  obtain ⟨e, he, hx⟩ := List.mem_filterMap.1 hw
  obtain ⟨name, -, hn⟩ := List.mem_filterMap.1 he
  split at hn
  · cases hn
  · obtain rfl := Option.some.inj hn
    cases hx
  · obtain rfl := Option.some.inj hn
    cases hx

theorem isElsewhere_of_unresolved {c : Catalog} {name : String} {b : Breakpoint} {w : Warning}
    (hw : w ∈ b.unresolved c name) : w.IsElsewhere := by
  intro type reason
  rintro rfl
  unfold Breakpoint.unresolved at hw
  split at hw
  · cases hw
  · obtain ⟨r, -, hr⟩ := List.mem_flatMap.1 hw
    cases r with
    | every type => simp [Reference.unresolved] at hr
    | chosen ids =>
      obtain ⟨⟨type, ids⟩, -, he⟩ := List.mem_flatMap.1 hr
      dsimp only at he
      split at he <;> simp at he

theorem isElsewhere_of_sheetJournal {config : Config} {c : Catalog} {w : Warning}
    (hw : w ∈ (config.sheetJournal c).warnings) : w.IsElsewhere := by
  rw [Config.warnings_sheetJournal] at hw
  obtain ⟨e, -, he⟩ := List.mem_flatMap.1 hw
  rw [Config.warnings_journalAt] at he
  exact isElsewhere_of_unresolved he

def otherWarnings (s : Inputs) (config : Config) (files : List (String × LayoutFile)) :
    List Warning :=
  (Catalog.registrations files).warnings
    ++ Journal.warnings (styleFailures s .core config.core)
    ++ Journal.warnings (styleFailures s .common config.common)
    ++ (config.sheetJournal (Catalog.ofFiles files)).warnings

theorem isElsewhere_of_otherWarnings {s : Inputs} {config : Config}
    {files : List (String × LayoutFile)} {w : Warning} (hw : w ∈ otherWarnings s config files) :
    w.IsElsewhere := by
  simp only [otherWarnings, List.mem_append] at hw
  rcases hw with ((hw | hw) | hw) | hw
  · exact isElsewhere_of_registrations hw
  · exact isElsewhere_of_styleFailures hw
  · exact isElsewhere_of_styleFailures hw
  · exact isElsewhere_of_sheetJournal hw

theorem warnings_buildWith (s : Inputs) (format : Format) (config : Config)
    (listed : List String) :
    (s.buildWith format config listed).warnings =
      Journal.warnings (fileFailures s listed) ++
        otherWarnings s config (loadedFiles s listed) := by
  simp [warnings, Inputs.buildWith, otherWarnings, Journal.warnings, List.filterMap_cons,
    Event.warning?]

end Build

theorem forall₂_filterMap {α β : Type} {R : β → β → Prop} {f g : α → Option β} {l : List α}
    (h : ∀ a ∈ l, Option.Rel R (f a) (g a)) :
    List.Forall₂ R (l.filterMap f) (l.filterMap g) := by
  induction l with
  | nil => exact .nil
  | cons a l ih =>
    obtain ⟨ha, hl⟩ := List.forall_mem_cons.1 h
    rw [List.filterMap_cons, List.filterMap_cons]
    generalize f a = x at ha
    generalize g a = y at ha
    cases ha with
    | none => exact ih hl
    | some hr => exact .cons hr (ih hl)

namespace Directory

variable {d : Directory} {t : FileTree} {text : String}

theorem IsProject.loadedFiles_eq (h : d.IsProject t text) {listed : List String}
    (hl : listed = (d.heldLayouts t).map Prod.fst) :
    Build.loadedFiles (d.inputs t.files) listed =
      Build.loadedFiles (d.project t text).inputs listed := by
  subst hl
  refine List.filterMap_congr fun type hm ↦ ?_
  obtain ⟨s, hd, hp⟩ := h.exists_layout hm
  have hd : (d.inputs t.files).layout type = _ := hd
  rw [hd, hp]
  cases LayoutFile.load s <;> rfl

theorem IsProject.names_fileFailures (h : d.IsProject t text) {listed : List String}
    (hl : listed = (d.heldLayouts t).map Prod.fst) :
    List.Forall₂ d.Names (Journal.warnings (Build.fileFailures (d.inputs t.files) listed))
      (Journal.warnings (Build.fileFailures (d.project t text).inputs listed)) := by
  subst hl
  rw [Journal.warnings, Journal.warnings, Build.fileFailures, Build.fileFailures,
    List.filterMap_filterMap, List.filterMap_filterMap]
  refine forall₂_filterMap fun type hm ↦ ?_
  obtain ⟨s, hd, hp⟩ := h.exists_layout hm
  have hd : (d.inputs t.files).layout type = _ := hd
  rw [hd, hp, LayoutFile.load]
  cases LayoutFile.read s with
  | ok file => exact .none
  | error p => exact .some (.layout type p.message)

theorem IsProject.style_eq (h : d.IsProject t text) {c : Config} (hc : Config.read text = .ok c) :
    ∀ name ∈ c.core ++ c.common,
      (d.inputs t.files).style name = (d.project t text).inputs.style name := by
  intro name hm
  obtain ⟨hn, hf⟩ := h.modules c hc name hm
  exact h.loadStyle_eq hn hf

theorem IsProject.built (h : d.IsProject t text) {c : Config} (hc : Config.read text = .ok c)
    (format : Format) {listed : List String} (hl : listed = (d.heldLayouts t).map Prod.fst) :
    d.BuildsAlike (.ok ((d.inputs t.files).buildWith format c listed))
      (.ok ((d.project t text).inputs.buildWith format c listed)) := by
  have hstyle := h.style_eq hc
  have hcore := Build.styles_congr fun name hm ↦ hstyle name (List.mem_append_left _ hm)
  have hcommon := Build.styles_congr fun name hm ↦ hstyle name (List.mem_append_right _ hm)
  have hcoreFail := Build.styleFailures_congr .core fun name hm ↦
    hstyle name (List.mem_append_left _ hm)
  have hcommonFail := Build.styleFailures_congr .common fun name hm ↦
    hstyle name (List.mem_append_right _ hm)
  have hfiles := h.loadedFiles_eq hl
  refine .built ?_ ?_ ?_
  · simp only [Inputs.buildWith, hfiles, hcore, hcommon]
  · simp only [Inputs.buildWith, hfiles]
  · have hother : Build.otherWarnings (d.inputs t.files) c
        (Build.loadedFiles (d.inputs t.files) listed) =
        Build.otherWarnings (d.project t text).inputs c
          (Build.loadedFiles (d.project t text).inputs listed) := by
      simp only [Build.otherWarnings, hfiles, hcoreFail, hcommonFail]
    rw [Build.warnings_buildWith, Build.warnings_buildWith, hother]
    refine List.rel_append (h.names_fileFailures hl) ?_
    exact List.forall₂_same.2 fun w hw ↦ .other (Build.isElsewhere_of_otherWarnings hw)

theorem IsProject.loadConfig_eq (h : d.IsProject t text) :
    d.loadConfig t.files = (Config.load text).mapError (.located d.config) := by
  have hr : readAt t.files d.config = .ok text := congrArg (Except.mapError _) h.config
  rw [loadConfig, hr]
  rfl

/-- A project builds alike from its directory and from its texts. -/
theorem builds_alike (h : d.IsProject t text) (format : Format) :
    d.BuildsAlike ((d.inputs t.files).build format) ((d.project t text).inputs.build format) := by
  have hconfig : (d.inputs t.files).config = _ := h.loadConfig_eq
  have hconfig' : (d.project t text).inputs.config = Config.load text := rfl
  have htypes : (d.inputs t.files).types = _ := h.types_eq.1
  unfold Inputs.build
  rw [hconfig, hconfig', htypes, h.types_project, Config.load]
  cases hc : Config.read text with
  | error p => exact .failed p.message
  | ok c => exact h.built hc format rfl

section Examples

def dottedConfig : String := "\x7b\"core\":[\"x.y\",\"\"],\"common\":[\"gone\"]\x7d"

def dotted : FileTree where
  entries := [
    (["layout.config.json"], .file (.text dottedConfig) 1),
    (["layouts"], .directory none),
    (["layouts", ".a.b.json"], .file (.text "no layout") 1),
    (["layouts", ".json"], .file (.bytes [255]) 1),
    (["layouts", "b.json"], .file (.text "\x7b\"prefix\":\"grid\"\x7d") 1),
    (["core"], .directory none),
    (["core", "x.y.css"], .file (.text "a\x7b\x7d") 1),
    (["core", ".css"], .file (.text "b\x7b\x7d") 1)]

theorem builds_alike_dotted :
    besideConfig.IsProject dotted dottedConfig ∧
      besideConfig.BuildsAlike ((besideConfig.inputs dotted.files).build {})
        ((besideConfig.project dotted dottedConfig).inputs.build {}) := by
  have hpaths : dotted.files.withExtension besideConfig.layouts "json" =
      .ok ["layouts/.a.b.json", "layouts/b.json"] := by
    have hl : dotted.files.list besideConfig.layouts = .ok [".a.b.json", ".json", "b.json"] := by
      decide +kernel
    have hn : [".a.b.json", ".json", "b.json"].filter (Path.extension? · = some "json") =
        [".a.b.json", "b.json"] := by decide +kernel
    rw [Files.withExtension, hl, Except.map, hn, List.mergeSort_of_pairwise (by decide +kernel)]
    decide +kernel
  have hplace : dotted.place besideConfig.styles = .ok ⟨some ["core"], .directory none⟩ := by
    decide +kernel
  have hread : (Config.read dottedConfig).toOption.map (fun c ↦ c.core ++ c.common) =
      some ["x.y", "", "gone"] := by decide +kernel
  have h : besideConfig.IsProject dotted dottedConfig := by
    refine ⟨⟨by decide +kernel, by decide +kernel⟩, by decide +kernel, by decide +kernel, ?_,
      .inr ⟨_, _, hplace⟩, ?_, ?_⟩
    · intro paths hp p hm
      obtain rfl := Except.ok.inj (hpaths.symm.trans hp)
      obtain rfl | rfl : p = "layouts/.a.b.json" ∨ p = "layouts/b.json" := by simpa using hm
      · exact ⟨"no layout", by decide +kernel⟩
      · exact ⟨"\x7b\"prefix\":\"grid\"\x7d", by decide +kernel⟩
    · intro ns time hp m e he
      rw [hplace] at hp
      obtain ⟨rfl, rfl⟩ : ["core"] = ns ∧ none = time := by simpa using hp
      have hall : ∀ x ∈ dotted.entries, x.1.head? = some "core" →
          x.2 = .directory none ∧ x.1.length = 1 ∨
            x.2 = .file (.text "a\x7b\x7d") 1 ∨ x.2 = .file (.text "b\x7b\x7d") 1 := by
        decide +kernel
      rcases hall _ he rfl with ⟨-, hl⟩ | hx | hx
      · cases hl
      · exact ⟨_, _, hx⟩
      · exact ⟨_, _, hx⟩
    · intro c hc name hm
      rw [hc] at hread
      obtain rfl | rfl | rfl : name = "x.y" ∨ name = "" ∨ name = "gone" := by
        simpa [Option.some.inj hread] using hm
      all_goals exact ⟨by decide +kernel, by decide +kernel⟩
  exact ⟨h, builds_alike h {}⟩

end Examples

end Directory

end LayoutSheet
