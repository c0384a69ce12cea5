import LayoutSheet.Placement
import Mathlib.Data.List.Nodup

namespace LayoutSheet

namespace Placement

section FirstOfEach

variable {α κ : Type} [DecidableEq κ] {key : α → κ}

theorem firstOfEach_sublist (key : α → κ) (seen : List κ) (as : List α) :
    (firstOfEach key seen as).Sublist as := by
  induction as generalizing seen with
  | nil => exact .slnil
  | cons a as ih =>
    rw [firstOfEach]
    split
    · exact (ih seen).cons a
    · exact (ih _).cons_cons a

theorem mem_firstOfEach_iff {seen : List κ} {as : List α} {a : α} :
    a ∈ firstOfEach key seen as ↔
      key a ∉ seen ∧ as.find? (fun x ↦ key x = key a) = some a := by
  induction as generalizing seen with
  | nil => simp [firstOfEach]
  | cons b as ih =>
    rw [firstOfEach]
    by_cases hk : key b = key a
    · rw [List.find?_cons_of_pos (by simpa using hk), hk]
      by_cases ha : key a ∈ seen
      · simp [ha, ih]
      · have hn : a ∉ firstOfEach key (key a :: seen) as := fun h ↦
          (ih.1 h).1 List.mem_cons_self
        simp [ha, hn, eq_comm]
    · rw [List.find?_cons_of_neg (by simpa using hk)]
      have hab : a ≠ b := fun he ↦ hk (he ▸ rfl)
      by_cases hb : key b ∈ seen
      · simp [hb, ih]
      · simp [hb, ih, hab, Ne.symm hk]

theorem firstOfEach_eq_eraseDupsBy (key : α → κ) (seen : List κ) (as : List α) :
    firstOfEach key seen as =
      (as.filter fun a ↦ key a ∉ seen).eraseDupsBy fun a b ↦ key a == key b := by
  induction as generalizing seen with
  | nil => rfl
  | cons a as ih =>
    rw [firstOfEach]
    by_cases ha : key a ∈ seen
    · rw [if_pos ha, ih, List.filter_cons_of_neg (by simpa using ha)]
    · rw [if_neg ha, ih, List.filter_cons_of_pos (by simpa using ha), List.eraseDupsBy_cons,
        List.filter_filter]
      refine congrArg (fun l ↦ a :: List.eraseDupsBy _ l) (List.filter_congr fun b _ ↦ ?_)
      simp

theorem nodup_map_firstOfEach (key : α → κ) (seen : List κ) (as : List α) :
    ((firstOfEach key seen as).map key).Nodup := by
  induction as generalizing seen with
  | nil => exact .nil
  | cons a as ih =>
    rw [firstOfEach]
    split
    · exact ih seen
    · rw [List.map_cons, List.nodup_cons]
      refine ⟨?_, ih _⟩
      intro hm
      obtain ⟨b, hb, he⟩ := List.mem_map.1 hm
      exact (mem_firstOfEach_iff.1 hb).1 (he ▸ List.mem_cons_self)

theorem exists_mem_firstOfEach (key : α → κ) {as : List α} {a : α} (ha : a ∈ as) :
    ∃ b ∈ firstOfEach key [] as, key b = key a := by
  have hf : (as.find? fun x ↦ key x = key a).isSome := List.find?_isSome.2 ⟨a, ha, by simp⟩
  obtain ⟨b, hb⟩ := Option.isSome_iff_exists.1 hf
  have hk : key b = key a := by simpa using List.find?_some hb
  exact ⟨b, mem_firstOfEach_iff.2 ⟨List.not_mem_nil, by simpa only [hk] using hb⟩, hk⟩

end FirstOfEach

theorem of_mem_atBreakpoint {c : Catalog} {name : String} {b : Breakpoint} {p : Placement}
    (hp : p ∈ atBreakpoint c name b) : p.breakpoint = name ∧ b.query? = some p.query := by
  unfold atBreakpoint at hp
  split at hp
  · cases hp
  · next query hq =>
    obtain ⟨e, -, rfl⟩ := List.mem_map.1 ((firstOfEach_sublist _ _ _).subset hp)
    exact ⟨rfl, hq⟩

end Placement

/-- What a reference selects, each variant with its family's word: all of a type, or those of the
chosen ids that are found. -/
def Reference.selected (c : Catalog) : Reference → List (String × Variant)
  | .every type =>
    match c.word? type, c.variants? type with
    | some word, some vs => vs.map (word, ·)
    | _, _ => []
  | .chosen ids => ids.toList.flatMap fun (type, ids) ↦
    match c.word? type with
    | some word => (ids.filterMap (c.find? type)).map (word, ·)
    | none => []

theorem Reference.filterMap_variant?_follow (c : Catalog) (name : String) (r : Reference) :
    (Placement.follow c name r).filterMap Placement.Finding.variant? = r.selected c := by
  have hchosen (type : String) (ids : List String) :
      (Placement.chosenOf c name type ids).filterMap Placement.Finding.variant? =
        match c.word? type with
        | some word => (ids.filterMap (c.find? type)).map (word, ·)
        | none => [] := by
    cases hf : c.get? type with
    | none => simp [Placement.chosenOf, Catalog.word?, hf, Placement.Finding.variant?]
    | some f =>
      simp only [Placement.chosenOf, Catalog.word?, Catalog.find?, hf, Option.map_some,
        Option.bind_some, List.filterMap_map, List.map_filterMap]
      refine List.filterMap_congr fun id _ ↦ ?_
      cases hv : f.variants.get? id <;> simp [hv, Placement.Finding.variant?]
  cases r with
  | every type =>
    cases hf : c.get? type with
    | none =>
      simp [Placement.follow, Placement.everyOf, selected, Catalog.word?, hf,
        Placement.Finding.variant?]
    | some f =>
      simp only [Placement.follow, Placement.everyOf, selected, Catalog.word?, Catalog.variants?,
        hf, Option.map_some, List.filterMap_map]
      rw [← List.filterMap_eq_map]
      rfl
  | chosen ids =>
    rw [Placement.follow, List.filterMap_flatMap, selected]
    exact List.flatMap_congr fun e _ ↦ hchosen e.1 e.2

def Breakpoint.selected (c : Catalog) (b : Breakpoint) : List (String × Variant) :=
  b.layouts.flatMap (Reference.selected c)

def Placement.ofSelected (name query : String) (s : String × Variant) : Placement where
  family := s.1
  id := Variant.bareId s.2.id
  breakpoint := name
  query := query
  variant := s.2

/-- The selection of an active breakpoint, of each family word and bare id the first. -/
def Breakpoint.resolved (c : Catalog) (name : String) (b : Breakpoint) : List Placement :=
  match b.query? with
  | none => []
  | some query =>
    ((b.selected c).map (Placement.ofSelected name query)).eraseDupsBy fun p q ↦
      p.family = q.family ∧ p.id = q.id

namespace Placement

variable {c : Catalog} {name : String} {b : Breakpoint}

theorem filterMap_variant?_findings (c : Catalog) (name : String) (b : Breakpoint) :
    (findings c name b).filterMap Finding.variant? = b.selected c := by
  rw [findings, List.filterMap_flatMap, Breakpoint.selected]
  exact List.flatMap_congr fun r _ ↦ r.filterMap_variant?_follow c name

theorem atBreakpoint_of_query (name : String) {query : String} (hq : b.query? = some query) :
    atBreakpoint c name b = firstOfEach (fun p ↦ (p.family, p.id)) []
      ((b.selected c).map (ofSelected name query)) := by
  rw [atBreakpoint, hq, ← filterMap_variant?_findings c name]
  rfl

theorem atBreakpoint_of_inactive (name : String) (hq : b.query? = none) :
    atBreakpoint c name b = [] := by rw [atBreakpoint, hq]

variable (c name b)

theorem atBreakpoint_eq_resolved : atBreakpoint c name b = b.resolved c name := by
  rw [Breakpoint.resolved]
  cases hq : b.query? with
  | none => exact atBreakpoint_of_inactive name hq
  | some query =>
    rw [atBreakpoint_of_query name hq, firstOfEach_eq_eraseDupsBy]
    simp only [List.not_mem_nil, not_false_eq_true, decide_true, List.filter_true, beq_eq_decide,
      Prod.mk.injEq]

theorem nodup_map_atBreakpoint :
    ((atBreakpoint c name b).map fun p ↦ (p.breakpoint, p.family, p.id)).Nodup := by
  apply List.Nodup.of_map Prod.snd
  rw [List.map_map]
  cases hq : b.query? with
  | none =>
    rw [atBreakpoint_of_inactive name hq]
    exact .nil
  | some query =>
    rw [atBreakpoint_of_query name hq]
    exact nodup_map_firstOfEach (fun p : Placement ↦ (p.family, p.id)) [] _

variable {c name b}

theorem mem_selected_of_mem_atBreakpoint {p : Placement} (hp : p ∈ atBreakpoint c name b) :
    (p.family, p.variant) ∈ b.selected c ∧ p.id = Variant.bareId p.variant.id := by
  cases hq : b.query? with
  | none =>
    rw [atBreakpoint_of_inactive name hq] at hp
    cases hp
  | some query =>
    rw [atBreakpoint_of_query name hq] at hp
    obtain ⟨s, hs, rfl⟩ := List.mem_map.1 ((firstOfEach_sublist _ _ _).subset hp)
    exact ⟨hs, rfl⟩

theorem exists_mem_atBreakpoint (name : String) {query : String} (hq : b.query? = some query)
    {s : String × Variant} (hs : s ∈ b.selected c) :
    ∃ p ∈ atBreakpoint c name b, p.family = s.1 ∧ p.id = Variant.bareId s.2.id := by
  rw [atBreakpoint_of_query name hq]
  obtain ⟨p, hp, hk⟩ := exists_mem_firstOfEach (fun p : Placement ↦ (p.family, p.id))
    (List.mem_map_of_mem hs : ofSelected name query s ∈ (b.selected c).map (ofSelected name query))
  exact ⟨p, hp, Prod.mk.injEq .. ▸ hk⟩

/-- A variant is placed when, under some family word, it is the first that is selected of its bare
id. -/
theorem exists_mem_atBreakpoint_iff (name : String) {query : String}
    (hq : b.query? = some query) {v : Variant} :
    (∃ p ∈ atBreakpoint c name b, p.variant = v) ↔
      ∃ word, (b.selected c).find?
        (fun s ↦ s.1 = word ∧ Variant.bareId s.2.id = Variant.bareId v.id) = some (word, v) := by
  have hat : atBreakpoint c name b = firstOfEach (fun p ↦ (p.family, p.id)) []
      ((b.selected c).map fun s ↦ ⟨s.1, Variant.bareId s.2.id, name, query, s.2⟩) :=
    atBreakpoint_of_query name hq
  simp only [hat, mem_firstOfEach_iff, List.not_mem_nil, not_false_eq_true, true_and,
    List.find?_map, Option.map_eq_some_iff]
  constructor
  · rintro ⟨p, ⟨⟨word, u⟩, hf, rfl⟩, rfl⟩
    exact ⟨word, by simpa [Function.comp_def] using hf⟩
  · rintro ⟨word, hf⟩
    exact ⟨⟨word, Variant.bareId v.id, name, query, v⟩,
      ⟨(word, v), by simpa [Function.comp_def] using hf, rfl⟩, rfl⟩

theorem mem_placements_iff {config : Config} (hb : (name, b) ∈ config.breakpoints.toList)
    {p : Placement} :
    p ∈ config.placements c ∧ p.breakpoint = name ↔ p ∈ atBreakpoint c name b := by
  rw [Config.placements, List.mem_flatMap]
  constructor
  · rintro ⟨⟨⟨name', b'⟩, hb', hp⟩, rfl⟩
    obtain rfl : p.breakpoint = name' := (of_mem_atBreakpoint hp).1
    rw [← KeyedList.get?_eq_some_iff] at hb hb'
    rw [hb] at hb'
    rwa [Option.some.inj hb']
  · intro hp
    exact ⟨⟨(name, b), hb, hp⟩, (of_mem_atBreakpoint hp).1⟩

end Placement

end LayoutSheet
