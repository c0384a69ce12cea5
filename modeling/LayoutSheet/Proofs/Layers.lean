import LayoutSheet.Proofs.Breakpoints
import LayoutSheet.Proofs.Readback
import LayoutSheet.Proofs.Tokens
import Mathlib.Data.List.DropRight

namespace LayoutSheet

namespace Stylesheet

def asRead (name : String) : String :=
  .ofList ((name.toList.dropWhile Token.isBlank).rdropWhile Token.isBlank)

/-- The layers named in the statement that a stylesheet begins with. -/
def rankedLayers (css : String) : List String :=
  (((css.toList.drop "@layer".length).takeWhile (· ≠ ';')).splitOn ',').map fun cs ↦
    asRead (.ofList cs)

/-- How many names come before a layer's first occurrence. -/
def rank (css name : String) : Nat := (rankedLayers css).idxOf (asRead name)

section Reading

theorem of_mem_splitOn {x : Char} {l part : List Char} (h : part ∈ l.splitOn x) :
    x ∉ part ∧ part ⊆ l := by
  induction l generalizing part with
  | nil =>
    obtain rfl : part = [] := by simpa using h
    simp
  | cons a l ih =>
    rw [List.splitOn_cons_eq_if_modifyHead] at h
    split at h
    · rcases List.mem_cons.1 h with rfl | h
      · simp
      · exact ⟨(ih h).1, fun b hb ↦ List.mem_cons_of_mem a ((ih h).2 hb)⟩
    · next hne =>
      cases hs : l.splitOn x with
      | nil =>
        rw [hs] at h
        cases h
      | cons first rest =>
        rw [hs, List.modifyHead_cons] at h
        rcases List.mem_cons.1 h with rfl | h
        · obtain ⟨hx, hl⟩ := ih (hs ▸ List.mem_cons_self)
          refine ⟨?_, List.cons_subset_cons a hl⟩
          rw [List.mem_cons]
          rintro (rfl | hm)
          · exact hne (beq_self_eq_true x)
          · exact hx hm
        · obtain ⟨hx, hl⟩ := ih (hs ▸ List.mem_cons_of_mem first h)
          exact ⟨hx, fun b hb ↦ List.mem_cons_of_mem a (hl hb)⟩

theorem asRead_space (cs : List Char) : asRead (.ofList (' ' :: cs)) = asRead (.ofList cs) := by
  simp [asRead, Token.isBlank]

theorem mem_dropWhile_of_neg {p : Char → Bool} {l : List Char} {c : Char} (hp : p c = false)
    (h : c ∈ l) : c ∈ l.dropWhile p := by
  rw [← List.takeWhile_append_dropWhile (p := p) (l := l), List.mem_append] at h
  refine h.resolve_left fun ht ↦ ?_
  simp [List.mem_takeWhile_imp ht] at hp

theorem mem_asRead_iff {c : Char} (hc : Token.isBlank c = false) (name : String) :
    c ∈ (asRead name).toList ↔ c ∈ name.toList := by
  rw [asRead, String.toList_ofList]
  constructor
  · intro h
    exact (List.dropWhile_suffix _).subset ((List.rdropWhile_prefix _ _).subset h)
  · intro h
    rw [List.rdropWhile, List.mem_reverse]
    exact mem_dropWhile_of_neg hc (List.mem_reverse.2 (mem_dropWhile_of_neg hc h))

theorem of_mem_intercalate {sep : String} {names : List String} {c : Char}
    (h : c ∈ (String.intercalate sep names).toList) :
    c ∈ sep.toList ∨ ∃ name ∈ names, c ∈ name.toList := by
  cases names with
  | nil => simp at h
  | cons name names =>
    rw [toList_intercalate_cons, List.mem_append, List.mem_flatMap] at h
    rcases h with h | ⟨t, ht, h⟩
    · exact .inr ⟨name, List.mem_cons_self, h⟩
    · rw [List.mem_append] at h
      exact h.imp_right fun h ↦ ⟨t, List.mem_cons_of_mem name ht, h⟩

theorem space_intercalate {names : List String} (h : names ≠ []) :
    ' ' :: (String.intercalate ", " names).toList =
      [','].intercalate (names.map fun name ↦ ' ' :: name.toList) := by
  induction names with
  | nil => exact absurd rfl h
  | cons name names ih =>
    cases names with
    | nil => simp
    | cons next names =>
      have hn := ih (List.cons_ne_nil next names)
      rw [List.map_cons] at hn
      rw [String.intercalate_cons_of_ne_nil (List.cons_ne_nil next names), List.map_cons,
        List.map_cons, List.intercalate_cons_cons, ← hn]
      simp

end Reading

section Statement

variable (format : Format) (config : Config) (core common : String) (s : Sheet)

theorem exists_render : ∃ rest, (render format config core common s).toList.drop "@layer".length =
    ' ' :: (String.intercalate ", " (layerNames config)).toList ++ ';' :: rest := by
  have hl : (layerOrder config).toList = "@layer".toList ++
      (' ' :: (String.intercalate ", " (layerNames config)).toList ++ [';']) := by
    simp [layerOrder]
  rw [render, String.toList_append, parts, List.append_assoc, List.append_assoc, List.append_assoc,
    List.append_assoc, List.singleton_append, toList_intercalate_cons, hl, List.append_assoc,
    List.append_assoc, ← String.length_toList, List.drop_left, List.append_assoc]
  exact ⟨_, rfl⟩

theorem notMem_of_mem_rankedLayers {css name : String} (h : asRead name ∈ rankedLayers css) :
    ',' ∉ name.toList ∧ ';' ∉ name.toList := by
  obtain ⟨cs, hcs, he⟩ := List.mem_map.1 h
  obtain ⟨hcomma, hsub⟩ := of_mem_splitOn hcs
  have hsemi : ';' ∉ cs := fun hm ↦ by simpa using List.mem_takeWhile_imp (hsub hm)
  have hiff {c : Char} (hc : Token.isBlank c = false) : c ∈ name.toList ↔ c ∈ cs := by
    rw [← mem_asRead_iff hc, ← he, mem_asRead_iff hc, String.toList_ofList]
  exact ⟨mt (hiff (by decide)).1 hcomma, mt (hiff (by decide)).1 hsemi⟩

theorem rankedLayers_render
    (h : ∀ name ∈ layerNames config, ',' ∉ name.toList ∧ ';' ∉ name.toList) :
    rankedLayers (render format config core common s) = (layerNames config).map asRead := by
  have hne : layerNames config ≠ [] := List.cons_ne_nil _ _
  obtain ⟨rest, hr⟩ := exists_render format config core common s
  have hsemi : ∀ c ∈ ' ' :: (String.intercalate ", " (layerNames config)).toList,
      decide (c ≠ ';') = true := by
    rintro c hc
    refine decide_eq_true ?_
    rintro rfl
    obtain hc | ⟨name, hn, hc⟩ := of_mem_intercalate ((List.mem_cons.1 hc).resolve_left (by decide))
    · exact absurd hc (by decide)
    · exact (h name hn).2 hc
  have hcomma : ∀ part ∈ (layerNames config).map (fun name ↦ ' ' :: name.toList), ',' ∉ part := by
    intro part hp
    obtain ⟨name, hn, rfl⟩ := List.mem_map.1 hp
    simpa using (h name hn).1
  rw [rankedLayers, hr, List.takeWhile_append_of_pos hsemi, List.takeWhile_cons_of_neg (by simp),
    List.append_nil, space_intercalate hne, List.splitOn_intercalate _ hcomma (by simpa using hne),
    List.map_map]
  refine List.map_congr_left fun name _ ↦ ?_
  rw [Function.comp_apply, asRead_space, String.ofList_toList]

end Statement

section Ranks

variable {css : String} {names : List String}

theorem map_rank (h : rankedLayers css = names.map asRead) (hn : (names.map asRead).Nodup) :
    names.map (rank css) = List.range names.length := by
  refine List.ext_getElem (by simp) fun i hi _ ↦ ?_
  have hi : i < (names.map asRead).length := by simpa using hi
  have hg := hn.idxOf_getElem i hi
  rw [List.getElem_map] at hg
  rw [List.getElem_map, List.getElem_range, rank, h, hg]

theorem nodup_of_pairwise_rank (h : (names.map (rank css)).Pairwise (· < ·)) :
    (names.map asRead).Nodup := by
  rw [List.Nodup, List.pairwise_map]
  rw [List.pairwise_map] at h
  refine h.imp fun hlt he ↦ ?_
  rw [rank, rank, he] at hlt
  exact absurd hlt (lt_irrefl _)

end Ranks

end Stylesheet

open Stylesheet

section Rise

variable (config : Config) (c : Catalog) (merged : Bool) (core common : String)

def Config.layered : String := render ⟨true, merged⟩ config core common (config.sheet c)

/-- The layers stand in the order of the breakpoints, above the base layers, and each breakpoint's
rules stand in a layer of its own. -/
structure Config.LayersRise : Prop where
  ranked : ∀ name ∈ layerNames config,
    asRead name ∈ rankedLayers (config.layered c merged core common)
  lowest : baseLayers.map (fun base ↦
    rank (config.layered c merged core common) (layerName config.layer base)) = [0, 1, 2]
  above : ∀ base ∈ baseLayers, ∀ name ∈ config.breakpoints.keys,
    rank (config.layered c merged core common) (layerName config.layer base) <
      rank (config.layered c merged core common) (layerName config.layer name)
  rising : config.breakpoints.keys.Pairwise fun name later ↦
    rank (config.layered c merged core common) (layerName config.layer name) <
      rank (config.layered c merged core common) (layerName config.layer later)
  wrapped : ∀ e ∈ (config.sheet c).sections,
    (layerLines ⟨true, merged⟩ config.layer e.2.1 e.2.2).head? =
      some ("  @layer " ++ layerName config.layer e.2.1 ++ " \x7b") ∧
    asRead (layerName config.layer e.2.1) ∈ rankedLayers (config.layered c merged core common)
  apart : ∀ e ∈ (config.sheet c).sections, ∀ e' ∈ (config.sheet c).sections, e.2.1 ≠ e'.2.1 →
    asRead (layerName config.layer e.2.1) ≠ asRead (layerName config.layer e'.2.1)

theorem Config.name_mem_keys_of_mem_sections {e : String × String × Layer}
    (he : e ∈ (config.sheet c).sections) : e.2.1 ∈ config.breakpoints.keys := by
  rw [sheet_eq_ofWrites_runs, (config.runs_realized c).sections] at he
  obtain ⟨query, -, he⟩ := List.mem_flatMap.1 he
  obtain ⟨r, hr, rfl⟩ := List.mem_map.1 he
  exact List.mem_map_of_mem (of_mem_realized (List.mem_filter.1 hr).1).1

theorem layerName_inj {space name name' : String}
    (h : layerName space name = layerName space name') : name = name' := by
  rw [layerName, layerName] at h
  split at h
  · exact h
  · exact (String.append_right_inj _).1 h

theorem map_layerNames {β : Type} (f : String → β) :
    (layerNames config).map f = baseLayers.map (fun base ↦ f (layerName config.layer base)) ++
      config.breakpoints.keys.map fun name ↦ f (layerName config.layer name) := by
  rw [layerNames, List.map_map, List.map_append]
  rfl

theorem Config.LayersRise.pairwise_rank (h : config.LayersRise c merged core common) :
    ((layerNames config).map (rank (config.layered c merged core common))).Pairwise (· < ·) := by
  rw [map_layerNames, List.pairwise_append, h.lowest, List.pairwise_map]
  refine ⟨by decide, h.rising, fun r hr r' hr' ↦ ?_⟩
  rw [← h.lowest] at hr
  obtain ⟨base, hb, rfl⟩ := List.mem_map.1 hr
  obtain ⟨name, hn, rfl⟩ := List.mem_map.1 hr'
  exact h.above base hb name hn

/-- The layers rise with the breakpoints exactly when no layer's name holds a comma or a semicolon
and no two of them read alike. -/
theorem Config.layersRise_iff : config.LayersRise c merged core common ↔
    (∀ name ∈ layerNames config, ',' ∉ name.toList ∧ ';' ∉ name.toList) ∧
    ((layerNames config).map asRead).Nodup := by
  constructor
  · intro h
    exact ⟨fun name hn ↦ notMem_of_mem_rankedLayers (h.ranked name hn),
      nodup_of_pairwise_rank (h.pairwise_rank config c merged core common)⟩
  rintro ⟨hmarks, hdup⟩
  have hread : rankedLayers (config.layered c merged core common) =
      (layerNames config).map asRead := rankedLayers_render _ config core common _ hmarks
  have hranks := map_rank hread hdup
  have hrise := List.pairwise_lt_range (n := (layerNames config).length)
  have hnames {name : String} (hn : name ∈ config.breakpoints.keys) :
      layerName config.layer name ∈ layerNames config :=
    List.mem_map_of_mem (List.mem_append_right _ hn)
  rw [← hranks, map_layerNames, List.pairwise_append, List.pairwise_map, List.pairwise_map] at hrise
  obtain ⟨-, hrising, habove⟩ := hrise
  refine
    { ranked := fun name hn ↦ hread ▸ List.mem_map_of_mem hn
      lowest := ?_
      above := fun base hb name hn ↦
        habove _ (List.mem_map_of_mem hb) _ (List.mem_map_of_mem hn)
      rising := hrising
      wrapped := fun e he ↦ ⟨rfl, ?_⟩
      apart := fun e he e' he' hne hread ↦ hne ?_ }
  · have htake := congrArg (List.take baseLayers.length) hranks
    rw [map_layerNames, List.take_append_of_le_length (by simp), List.take_of_length_le (by simp),
      List.take_range, min_eq_left (by simp [layerNames])] at htake
    exact htake
  · rw [hread]
    exact List.mem_map_of_mem (hnames (config.name_mem_keys_of_mem_sections c he))
  · have hin := List.inj_on_of_nodup_map hdup
      (hnames (config.name_mem_keys_of_mem_sections c he))
      (hnames (config.name_mem_keys_of_mem_sections c he')) hread
    exact layerName_inj hin

def baseBreakpoint : Config where
  breakpoints := KeyedList.ofList
    [("md", Config.atLeast "720px"), ("base", Config.atLeast "1024px")]

theorem Config.not_layersRise_base : ¬ baseBreakpoint.LayersRise oneGrid true "" "" := by
  intro h
  exact lt_irrefl _ (h.above "base" (by decide) "base" (by decide))

end Rise

end LayoutSheet
