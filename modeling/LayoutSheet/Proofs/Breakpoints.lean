import LayoutSheet.Proofs.Gathering
import LayoutSheet.Proofs.Writes

namespace LayoutSheet

namespace Sheet

variable {ι : Type} {query name : ι → String} {run : ι → List Write} {rs : List ι}

theorem eraseDups_map_flatMap {key : Write → String} {k : ι → String}
    (hn : ∀ r ∈ rs, run r ≠ []) (hk : ∀ r ∈ rs, ∀ w ∈ run r, key w = k r) :
    ((rs.flatMap run).map key).eraseDups = (rs.map k).eraseDups := by
  induction rs using List.reverseRecOn with
  | nil => rfl
  | append_singleton rs r ih =>
    have hr : r ∈ rs ++ [r] := by simp
    have he : ∀ q ∈ (run r).map key, q = k r := by
      intro q hq
      obtain ⟨w, hw, rfl⟩ := List.mem_map.1 hq
      exact hk r hr w hw
    have hrs := ih (fun s hs ↦ hn s (List.mem_append_left _ hs))
      fun s hs ↦ hk s (List.mem_append_left _ hs)
    have hm : k r ∈ (rs.flatMap run).map key ↔ k r ∈ rs.map k := by
      rw [← List.mem_eraseDups, hrs, List.mem_eraseDups]
    rw [List.flatMap_append, List.flatMap_singleton, List.map_append,
      eraseDups_append_of_forall_eq (by simpa using hn r hr) he, List.map_append,
      List.map_singleton, eraseDups_concat, eraseDups_concat]
    simp only [hm, hrs]

theorem filter_flatMap_of_const {β : Type} {run : ι → List β} {keep : β → Bool}
    {keepRun : ι → Bool} (h : ∀ r ∈ rs, ∀ w ∈ run r, keep w = keepRun r) :
    (rs.flatMap run).filter keep = (rs.filter keepRun).flatMap run := by
  induction rs with
  | nil => rfl
  | cons r rs ih =>
    rw [List.flatMap_cons, List.filter_append, ih fun s hs ↦ h s (List.mem_cons_of_mem r hs)]
    have hr := h r List.mem_cons_self
    by_cases hk : keepRun r
    · rw [List.filter_cons_of_pos hk, List.flatMap_cons,
        List.filter_eq_self.2 fun w hw ↦ by rw [hr w hw, hk]]
    · rw [List.filter_cons_of_neg hk, List.filter_eq_nil_iff.2 fun w hw ↦ by rwa [hr w hw],
        List.nil_append]

theorem flatMap_filter_of_nil {keep : ι → Bool} (h : ∀ r ∈ rs, keep r = false → run r = []) :
    (rs.filter keep).flatMap run = rs.flatMap run := by
  induction rs with
  | nil => rfl
  | cons r rs ih =>
    have hrs := ih fun s hs ↦ h s (List.mem_cons_of_mem r hs)
    by_cases hk : keep r
    · rw [List.filter_cons_of_pos hk, List.flatMap_cons, List.flatMap_cons, hrs]
    · rw [List.filter_cons_of_neg hk, List.flatMap_cons, hrs,
        h r List.mem_cons_self (by simpa using hk), List.nil_append]

theorem filter_name_eq_singleton (hn : (rs.map name).Nodup) {r : ι} (hr : r ∈ rs) :
    rs.filter (fun s ↦ name s = name r) = [r] := by
  obtain ⟨before, after, rfl⟩ := List.append_of_mem hr
  rw [List.map_append, List.map_cons, List.nodup_middle, List.nodup_cons] at hn
  have hne : ∀ s ∈ before ++ after, name s ≠ name r := fun s hs he ↦
    hn.1 (by rw [← List.map_append, ← he]; exact List.mem_map_of_mem hs)
  rw [List.filter_append, List.filter_cons_of_pos (by simp),
    List.filter_eq_nil_iff.2 fun s hs ↦ by simpa using hne s (List.mem_append_left _ hs),
    List.filter_eq_nil_iff.2 fun s hs ↦ by simpa using hne s (List.mem_append_right _ hs)]
  rfl

/-- Each run writes something, for its query and under its name, and no two have one name. -/
structure Runs (rs : List ι) (query name : ι → String) (run : ι → List Write) : Prop where
  ne_nil : ∀ r ∈ rs, run r ≠ []
  query_eq : ∀ r ∈ rs, ∀ w ∈ run r, w.query = query r
  name_eq : ∀ r ∈ rs, ∀ w ∈ run r, w.breakpoint = name r
  nodup : (rs.map name).Nodup

namespace Runs

theorem filter_query (h : Runs rs query name run) (q : String) :
    (rs.flatMap run).filter (fun w ↦ w.query = q) =
      (rs.filter fun r ↦ query r = q).flatMap run :=
  filter_flatMap_of_const fun r hr w hw ↦ by rw [h.query_eq r hr w hw]

theorem filter (h : Runs rs query name run) (keep : ι → Bool) :
    Runs (rs.filter keep) query name run where
  ne_nil r hr := h.ne_nil r (List.mem_filter.1 hr).1
  query_eq r hr := h.query_eq r (List.mem_filter.1 hr).1
  name_eq r hr := h.name_eq r (List.mem_filter.1 hr).1
  nodup := h.nodup.sublist (List.filter_sublist.map name)

theorem filter_name (h : Runs rs query name run) {r : ι} (hr : r ∈ rs) :
    (rs.flatMap run).filter (fun w ↦ w.breakpoint = name r) = run r := by
  have hf : (rs.flatMap run).filter (fun w ↦ w.breakpoint = name r) =
      (rs.filter fun s ↦ name s = name r).flatMap run :=
    filter_flatMap_of_const fun s hs w hw ↦ by rw [h.name_eq s hs w hw]
  rw [hf, filter_name_eq_singleton h.nodup hr, List.flatMap_singleton]

theorem keys_blocks (h : Runs rs query name run) :
    (ofWrites (rs.flatMap run)).blocks.keys = (rs.map query).eraseDups := by
  rw [blocks_ofWrites, KeyedList.keys_gather, eraseDups_map_flatMap h.ne_nil h.query_eq]

theorem layer? (h : Runs rs query name run) {r : ι} (hr : r ∈ rs) :
    (ofWrites (rs.flatMap run)).layer? (query r) (name r) = some (Layer.ofWrites (run r)) := by
  have hq : r ∈ rs.filter fun s ↦ query s = query r := List.mem_filter.2 ⟨hr, by simp⟩
  rw [layer?_ofWrites, h.filter_query, (h.filter _).filter_name hq, if_neg (h.ne_nil r hr)]

theorem sections (h : Runs rs query name run) :
    (ofWrites (rs.flatMap run)).sections = (rs.map query).eraseDups.flatMap fun q ↦
      (rs.filter fun r ↦ query r = q).map fun r ↦ (q, name r, Layer.ofWrites (run r)) := by
  have hb (q : String) : (Block.ofWrites ((rs.flatMap run).filter fun w ↦ w.query = q)).toList =
      (rs.filter fun r ↦ query r = q).map fun r ↦ (name r, Layer.ofWrites (run r)) := by
    have hq := h.filter fun r ↦ query r = q
    rw [Block.toList_ofWrites, h.filter_query, eraseDups_map_flatMap hq.ne_nil hq.name_eq,
      eraseDups_of_nodup hq.nodup, List.map_map]
    exact List.map_congr_left fun r hr ↦ by simp only [Function.comp_apply, hq.filter_name hr]
  simp only [Sheet.sections, toList_blocks_ofWrites, List.flatMap_map, hb, List.map_map,
    eraseDups_map_flatMap h.ne_nil h.query_eq]
  rfl

end Runs

theorem warnings_journalFrom (s : Sheet) (ws : List Write) :
    Journal.warnings (s.journalFrom ws) = [] := by
  induction ws generalizing s with
  | nil => rfl
  | cons w ws ih =>
    have hs : Journal.warnings (s.sharing? w).toList = [] := by
      unfold sharing?
      split
      · rfl
      · next b _ =>
        split
        · rfl
        · cases b.keys.head? <;> rfl
    rw [journalFrom, Journal.warnings, List.filterMap_append]
    exact List.append_eq_nil_iff.2 ⟨hs, ih _⟩

end Sheet

namespace Config

variable (config : Config) (c : Catalog)

def only (name : String) (b : Breakpoint) : Config :=
  { config with breakpoints := KeyedList.ofList [(name, b)] }

/-- The breakpoints that have a query and place something. -/
def realized : List (String × Breakpoint) :=
  config.breakpoints.toList.filter fun e ↦
    e.2.query?.isSome && !(Placement.atBreakpoint c e.1 e.2).isEmpty

def queries : List String := ((config.realized c).filterMap fun e ↦ e.2.query?).eraseDups

def run (e : String × Breakpoint) : List Write :=
  Placement.writes config.element (Placement.atBreakpoint c e.1 e.2)

variable {config c}

theorem of_mem_realized {e : String × Breakpoint} (he : e ∈ config.realized c) :
    e ∈ config.breakpoints.toList ∧ ∃ query, e.2.query? = some query ∧
      Placement.atBreakpoint c e.1 e.2 ≠ [] := by
  obtain ⟨hm, h⟩ := List.mem_filter.1 he
  rw [Bool.and_eq_true, Option.isSome_iff_exists, Bool.not_eq_true', List.isEmpty_eq_false_iff] at h
  obtain ⟨⟨query, hq⟩, hn⟩ := h
  exact ⟨hm, query, hq, hn⟩

theorem run_eq_nil {e : String × Breakpoint}
    (h : (e.2.query?.isSome && !(Placement.atBreakpoint c e.1 e.2).isEmpty) = false) :
    config.run c e = [] := by
  have hp : Placement.atBreakpoint c e.1 e.2 = [] := by
    by_contra hn
    obtain ⟨p, hp⟩ := List.exists_mem_of_ne_nil _ hn
    simp [(Placement.of_mem_atBreakpoint hp).2, hn] at h
  rw [run, hp]
  rfl

variable (config c)

theorem runs_realized :
    Sheet.Runs (config.realized c) (fun e ↦ e.2.query?.getD "") Prod.fst (config.run c) where
  ne_nil e he := by
    obtain ⟨-, -, -, hn⟩ := of_mem_realized he
    exact Placement.writes_ne_nil hn
  query_eq e he w hw := by
    obtain ⟨p, hp, hw, -⟩ := Placement.exists_of_mem_writes hw
    rw [hw, (Placement.of_mem_atBreakpoint hp).2]
    rfl
  name_eq e he w hw := by
    obtain ⟨p, hp, -, hw⟩ := Placement.exists_of_mem_writes hw
    rw [hw, (Placement.of_mem_atBreakpoint hp).1]
  nodup := config.breakpoints.nodup_keys.sublist (List.filter_sublist.map Prod.fst)

theorem sheet_eq_ofWrites_runs :
    config.sheet c = .ofWrites ((config.realized c).flatMap (config.run c)) := by
  -- Reset keys hold the breakpoint's name, so no two breakpoints share one.
  have hd : config.breakpoints.toList.Pairwise fun e e' ↦
      ∀ p ∈ Placement.atBreakpoint c e.1 e.2, ∀ q ∈ Placement.atBreakpoint c e'.1 e'.2,
        p.resetKey ≠ q.resetKey := by
    refine (List.pairwise_map.1 config.breakpoints.nodup_keys).imp fun hne p hp q hq hk ↦ hne ?_
    have hb : p.breakpoint = q.breakpoint := congrArg (fun k ↦ k.2.1) hk
    rwa [(Placement.of_mem_atBreakpoint hp).1, (Placement.of_mem_atBreakpoint hq).1] at hb
  have hw : Placement.writes config.element (config.placements c) =
      config.breakpoints.toList.flatMap (config.run c) := Placement.writes_flatMap hd
  rw [sheet, hw, realized, Sheet.flatMap_filter_of_nil fun e _ h ↦ run_eq_nil h]

theorem realized_only {e : String × Breakpoint} (he : e ∈ config.realized c) :
    (config.only e.1 e.2).realized c = [e] :=
  List.filter_cons_of_pos (List.mem_filter.1 he).2

theorem sections_only {e : String × Breakpoint} {query : String} (he : e ∈ config.realized c)
    (hq : e.2.query? = some query) :
    ((config.only e.1 e.2).sheet c).sections =
      [(query, e.1, Layer.ofWrites (config.run c e))] := by
  have hs := ((config.only e.1 e.2).runs_realized c).sections
  have hone : [query].eraseDups = [query] := rfl
  rw [← sheet_eq_ofWrites_runs, config.realized_only c he] at hs
  rw [hs, List.map_singleton, hq, Option.getD_some, hone, List.flatMap_singleton,
    List.filter_cons_of_pos (by simp [hq])]
  rfl

theorem sections_only_of_inactive {e : String × Breakpoint} (hq : e.2.query? = none) :
    ((config.only e.1 e.2).sheet c).sections = [] := by
  have hs := ((config.only e.1 e.2).runs_realized c).sections
  have hr : (config.only e.1 e.2).realized c = [] := List.filter_cons_of_neg (by simp [hq])
  rw [← sheet_eq_ofWrites_runs, hr] at hs
  exact hs

theorem warnings_sheetJournal :
    (config.sheetJournal c).warnings =
      config.breakpoints.toList.flatMap fun e ↦ (Placement.journalAt c e.1 e.2).warnings := by
  have hs := Sheet.warnings_journalFrom ∅
    (Placement.writes config.element (config.placements c))
  rw [Journal.warnings] at hs
  rw [sheetJournal, Sheet.journal, Journal.warnings, List.filterMap_append, hs, List.append_nil,
    placementJournal, List.filterMap_flatMap]
  rfl

theorem warnings_sheetJournal_only (name : String) (b : Breakpoint) :
    ((config.only name b).sheetJournal c).warnings = (Placement.journalAt c name b).warnings := by
  rw [warnings_sheetJournal]
  exact List.flatMap_singleton ..

theorem query?_of_mem_realized {e : String × Breakpoint} (he : e ∈ config.realized c) :
    e.2.query? = some (e.2.query?.getD "") := by
  obtain ⟨-, query, hq, -⟩ := of_mem_realized he
  rw [hq, Option.getD_some]

theorem queries_eq :
    config.queries c = ((config.realized c).map fun e ↦ e.2.query?.getD "").eraseDups := by
  rw [queries, ← List.filterMap_eq_map,
    List.filterMap_congr fun e he ↦ config.query?_of_mem_realized c he]
  rfl

theorem sections_sheet :
    (config.sheet c).sections = (config.queries c).flatMap fun query ↦
      ((config.realized c).filter fun e ↦ e.2.query? = some query).flatMap fun e ↦
        ((config.only e.1 e.2).sheet c).sections := by
  have hf (query : String) : (config.realized c).filter (fun e ↦ e.2.query?.getD "" = query) =
      (config.realized c).filter fun e ↦ e.2.query? = some query := by
    refine List.filter_congr fun e he ↦ ?_
    rw [config.query?_of_mem_realized c he, Option.getD_some]
    simp
  have hl (query : String) :
      (((config.realized c).filter fun e ↦ e.2.query? = some query).flatMap fun e ↦
        ((config.only e.1 e.2).sheet c).sections) =
      ((config.realized c).filter fun e ↦ e.2.query? = some query).map fun e ↦
        (query, e.1, Layer.ofWrites (config.run c e)) := by
    rw [List.map_eq_flatMap]
    refine List.flatMap_congr fun e he ↦ ?_
    obtain ⟨he, hq⟩ := List.mem_filter.1 he
    exact config.sections_only c he (by simpa using hq)
  rw [sheet_eq_ofWrites_runs, (config.runs_realized c).sections, queries_eq]
  simp only [hf, hl]

/-- Breakpoints do not interfere. Each that has a query and places something makes the one layer
that it makes alone, the sheet has these layers and no others, blocks stand in the order of the
first breakpoints of their queries and layers within a block in the order of the breakpoints, and
what is reported is what the breakpoints alone report, one after the other; without a query a
breakpoint adds neither a layer nor a warning. -/
theorem sheet_of_breakpoints :
    (∀ e ∈ config.realized c, ∃ query l, e.2.query? = some query ∧
      ((config.only e.1 e.2).sheet c).sections = [(query, e.1, l)] ∧
      (config.sheet c).layer? query e.1 = some l) ∧
    (config.sheet c).blocks.keys = config.queries c ∧
    (config.sheet c).sections = (config.queries c).flatMap (fun query ↦
      ((config.realized c).filter fun e ↦ e.2.query? = some query).flatMap fun e ↦
        ((config.only e.1 e.2).sheet c).sections) ∧
    (config.sheetJournal c).warnings = config.breakpoints.toList.flatMap (fun e ↦
      ((config.only e.1 e.2).sheetJournal c).warnings) ∧
    ∀ e ∈ config.breakpoints.toList, e.2.query? = none →
      ((config.only e.1 e.2).sheet c).sections = [] ∧
      ((config.only e.1 e.2).sheetJournal c).warnings = [] := by
  refine ⟨fun e he ↦ ?_, ?_, config.sections_sheet c, ?_, fun e _ hq ↦ ?_⟩
  · have hq := config.query?_of_mem_realized c he
    refine ⟨_, _, hq, config.sections_only c he hq, ?_⟩
    rw [sheet_eq_ofWrites_runs]
    exact (config.runs_realized c).layer? he
  · rw [sheet_eq_ofWrites_runs, queries_eq]
    exact (config.runs_realized c).keys_blocks
  · rw [warnings_sheetJournal]
    exact List.flatMap_congr fun e _ ↦ (config.warnings_sheetJournal_only c e.1 e.2).symm
  · refine ⟨config.sections_only_of_inactive c hq, ?_⟩
    rw [warnings_sheetJournal_only, Placement.journalAt, hq]
    rfl

def atLeast (width : String) : Breakpoint := { min := width, layouts := [.every "grid"] }

def twins : Config where
  breakpoints := KeyedList.ofList
    [("md", atLeast "720px"), ("tablet", atLeast " 720px"), ("xs", {})]

def oneGrid : Catalog :=
  Catalog.ofFiles [("grid", { family := "grid", layouts := [{ id := "1" }] })]

theorem sheet_of_twins :
    ("tablet", atLeast " 720px") ∈ twins.realized oneGrid ∧
    (∃ query l, (atLeast " 720px").query? = some query ∧
      ((twins.only "tablet" (atLeast " 720px")).sheet oneGrid).sections = [(query, "tablet", l)] ∧
      (twins.sheet oneGrid).layer? query "tablet" = some l) ∧
    ("xs", ({} : Breakpoint)) ∈ twins.breakpoints.toList ∧ ({} : Breakpoint).query? = none ∧
    ((twins.only "xs" {}).sheet oneGrid).sections = [] ∧
    ((twins.only "xs" {}).sheetJournal oneGrid).warnings = [] := by
  have ht : ("tablet", atLeast " 720px") ∈ twins.realized oneGrid := by decide
  have hx : ("xs", ({} : Breakpoint)) ∈ twins.breakpoints.toList := by decide
  have hs := sheet_of_breakpoints twins oneGrid
  exact ⟨ht, hs.1 _ ht, hx, rfl, hs.2.2.2.2 _ hx rfl⟩

end Config

end LayoutSheet
