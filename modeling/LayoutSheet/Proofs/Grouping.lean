import LayoutSheet.Sheet.Grouping
import LayoutSheet.Proofs.Gathering
import Mathlib.Data.List.Perm.Subperm
import Mathlib.Order.Nat

namespace LayoutSheet

namespace Declarations

theorem sameAs_iff {a b : Declarations} :
    a.sameAs b = true ↔ ∀ property, a.get? property = b.get? property := by
  simp only [sameAs, ← KeyedList.length_keys, Bool.and_eq_true, beq_iff_eq, List.all_eq_true]
  constructor
  · rintro ⟨hs, ha⟩ property
    have hk : a.keys ⊆ b.keys := by
      intro k h
      obtain ⟨v, hv⟩ := KeyedList.mem_keys.1 h
      exact KeyedList.mem_keys.2 ⟨v, KeyedList.get?_eq_some_iff.1 (ha _ hv)⟩
    have hp : a.keys.Perm b.keys :=
      (a.nodup_keys.subperm hk).perm_of_length_le hs.ge
    cases h : a.get? property with
    | some v => exact (ha _ (KeyedList.get?_eq_some_iff.1 h)).symm
    | none =>
      rw [KeyedList.get?_eq_none_iff, hp.mem_iff] at h
      exact (KeyedList.get?_eq_none_iff.2 h).symm
  · intro h
    have hp : a.keys.Perm b.keys := by
      rw [List.perm_ext_iff_of_nodup a.nodup_keys b.nodup_keys]
      intro k
      rw [← not_iff_not, ← KeyedList.get?_eq_none_iff, ← KeyedList.get?_eq_none_iff, h]
    exact ⟨hp.length_eq, fun e he ↦ (h e.1).symm.trans (KeyedList.get?_eq_some_iff.2 he)⟩

theorem meets_iff {a b : Declarations} :
    a.meets b = true ↔ ∃ property, property ∈ a.keys ∧ property ∈ b.keys := by
  simp only [meets, List.any_eq_true, KeyedList.contains_iff]

end Declarations

namespace Group

theorem getElem?_set_cases {α : Type} {l : List α} {i j : Nat} {a b : α}
    (h : (l.set i a)[j]? = some b) : i = j ∧ a = b ∨ i ≠ j ∧ l[j]? = some b := by
  by_cases hij : i = j
  · subst hij
    have hlt : i < l.length := by simpa using (List.getElem?_eq_some_iff.1 h).1
    exact .inl ⟨rfl, by simpa [hlt] using h⟩
  · exact .inr ⟨hij, by simpa [List.getElem?_set_ne hij] using h⟩

theorem getElem?_of_newest? {groups : List (Nat × Group)} {d : Declarations} {slot : Nat}
    (h : newest? groups d = some slot) :
    ∃ start g, groups[slot]? = some (start, g) ∧ g.declarations.sameAs d = true := by
  obtain ⟨e, hf, rfl⟩ := Option.map_eq_some_iff.1 h
  have hm := List.mem_reverse.1 (List.mem_of_find?_eq_some hf)
  have hs := List.find?_some hf
  exact ⟨e.1.1, e.1.2, List.mem_zipIdx_iff_getElem?.1 hm, hs⟩

namespace Progress

variable {rules : List (String × Declarations)} {rule : String × Declarations} {p : Progress}

/-- What reading one rule can do: seat it in a group that sets the same values and that no rule
outside the group keeps it from, or open a group for it. -/
inductive Reads (p : Progress) (rule : String × Declarations) : Progress → Prop
  | joins {slot start : Nat} {g : Group} (hg : p.groups[slot]? = some (start, g))
      (hs : g.declarations.sameAs rule.2 = true)
      (hf : ∀ e ∈ p.placed.drop (start + 1), e.2.meets rule.2 = true → e.1 = slot) :
      Reads p rule
        ⟨p.groups.set slot (start, ⟨g.selectors ++ [rule.1], g.declarations⟩),
          p.placed ++ [(slot, rule.2)]⟩
  | opens (hj : p.join? rule.2 = none) :
      Reads p rule
        ⟨p.groups ++ [(p.placed.length, ⟨[rule.1], rule.2⟩)],
          p.placed ++ [(p.groups.length, rule.2)]⟩

theorem reads_step (p : Progress) (rule : String × Declarations) : Reads p rule (p.step rule) := by
  unfold step
  cases hj : p.join? rule.2 with
  | none => exact .opens hj
  | some slot =>
    obtain ⟨hn, hr⟩ := Option.filter_eq_some_iff.1 hj
    obtain ⟨start, g, hg, hs⟩ := getElem?_of_newest? hn
    simp only [reaches, hg, List.all_eq_true, Bool.or_eq_true, beq_iff_eq,
      Bool.not_eq_true'] at hr
    have hm : p.groups.modify slot (fun e ↦
        (e.1, ⟨e.2.selectors ++ [rule.1], e.2.declarations⟩)) =
        p.groups.set slot (start, ⟨g.selectors ++ [rule.1], g.declarations⟩) := by
      rw [List.modify_eq_set_getElem?]
      simp [hg]
    change Reads p rule ⟨p.groups.modify slot fun e ↦
      (e.1, ⟨e.2.selectors ++ [rule.1], e.2.declarations⟩), p.placed ++ [(slot, rule.2)]⟩
    rw [hm]
    refine .joins hg hs fun e he hd ↦ (hr e he).resolve_right ?_
    simp [hd]

def seats (rules : List (String × Declarations)) (p : Progress) :
    List (String × Nat × Declarations) :=
  (rules.map Prod.fst).zip p.placed

structure Sound (rules : List (String × Declarations)) (p : Progress) : Prop where
  declarations : p.placed.map Prod.snd = rules.map Prod.snd
  first : ∀ {slot start : Nat} {g : Group}, p.groups[slot]? = some (start, g) →
    ∃ before after, p.placed = before ++ (slot, g.declarations) :: after ∧
      before.length = start ∧ ∀ e ∈ before, e.1 < slot
  members : ∀ {slot start : Nat} {g : Group}, p.groups[slot]? = some (start, g) →
    g.selectors = ((p.seats rules).filter fun e ↦ e.2.1 = slot).map Prod.fst
  same : ∀ e ∈ p.placed, ∃ start g, p.groups[e.1]? = some (start, g) ∧
    g.declarations.sameAs e.2 = true
  order : p.placed.Pairwise fun d e ↦ d.2.meets e.2 = true → d.1 ≤ e.1

namespace Sound

theorem empty : Sound [] {} where
  declarations := rfl
  first h := by simp at h
  members h := by simp at h
  same := by simp
  order := .nil

theorem slot_lt (h : Sound rules p) {e : Nat × Declarations} (he : e ∈ p.placed) :
    e.1 < p.groups.length := by
  obtain ⟨start, g, hg, -⟩ := h.same e he
  exact (List.getElem?_eq_some_iff.1 hg).1

theorem seats_concat (h : Sound rules p) (groups : List (Nat × Group)) (slot : Nat) :
    seats (rules ++ [rule]) ⟨groups, p.placed ++ [(slot, rule.2)]⟩ =
      p.seats rules ++ [(rule.1, slot, rule.2)] := by
  have hl : (rules.map Prod.fst).length = p.placed.length := by
    simpa using (congrArg List.length h.declarations).symm
  simp only [seats, List.map_append, List.zip_append hl]
  rfl

theorem slot_lt_of_mem_seats (h : Sound rules p) {e : String × Nat × Declarations}
    (he : e ∈ p.seats rules) : e.2.1 < p.groups.length :=
  h.slot_lt (List.of_mem_zip he).2

theorem drop_of_first (h : Sound rules p) {slot start : Nat} {g : Group}
    (hg : p.groups[slot]? = some (start, g)) :
    ∃ before, p.placed = before ++ (slot, g.declarations) :: p.placed.drop (start + 1) ∧
      ∀ e ∈ before, e.1 < slot := by
  obtain ⟨before, after, hp, hl, hb⟩ := h.first hg
  refine ⟨before, ?_, hb⟩
  rw [hp, ← hl, List.drop_append, List.drop_of_length_le (Nat.le_succ _)]
  simp

/-- What a rule may join without overtaking: its group is no earlier than that of any rule that it
meets. -/
theorem slot_le_of_meets (h : Sound rules p) {slot start : Nat} {g : Group} {d : Declarations}
    (hg : p.groups[slot]? = some (start, g))
    (hf : ∀ e ∈ p.placed.drop (start + 1), e.2.meets d = true → e.1 = slot)
    {e : Nat × Declarations} (he : e ∈ p.placed) (hd : e.2.meets d = true) : e.1 ≤ slot := by
  obtain ⟨before, hp, hb⟩ := h.drop_of_first hg
  rw [hp, List.mem_append, List.mem_cons] at he
  obtain he | rfl | he := he
  · exact (hb e he).le
  · exact le_rfl
  · exact (hf e he hd).le

theorem joins (h : Sound rules p) {slot start : Nat} {g : Group}
    (hg : p.groups[slot]? = some (start, g)) (hs : g.declarations.sameAs rule.2 = true)
    (hf : ∀ e ∈ p.placed.drop (start + 1), e.2.meets rule.2 = true → e.1 = slot) :
    Sound (rules ++ [rule])
      ⟨p.groups.set slot (start, ⟨g.selectors ++ [rule.1], g.declarations⟩),
        p.placed ++ [(slot, rule.2)]⟩ := by
  have hlt : slot < p.groups.length := (List.getElem?_eq_some_iff.1 hg).1
  -- No group's first rule moves: what changes is one group's members and the last seat.
  refine ⟨by simp [h.declarations], ?_, ?_, ?_, ?_⟩
  · intro slot' start' g' hg'
    obtain ⟨rfl, he⟩ | ⟨-, hg'⟩ := getElem?_set_cases hg'
    · cases he
      obtain ⟨before, after, hp, hl, hb⟩ := h.first hg
      exact ⟨before, after ++ [(slot, rule.2)], by simp [hp], hl, hb⟩
    · obtain ⟨before, after, hp, hl, hb⟩ := h.first hg'
      exact ⟨before, after ++ [(slot, rule.2)], by simp [hp], hl, hb⟩
  · intro slot' start' g' hg'
    rw [h.seats_concat, List.filter_append, List.map_append]
    obtain ⟨rfl, he⟩ | ⟨hne, hg'⟩ := getElem?_set_cases hg'
    · cases he
      simp [h.members hg]
    · simp [h.members hg', hne]
  · intro e he
    rw [List.mem_append, List.mem_singleton] at he
    by_cases hslot : slot = e.1
    · refine ⟨start, ⟨g.selectors ++ [rule.1], g.declarations⟩, ?_, ?_⟩
      · simp [← hslot, hlt]
      · obtain he | rfl := he
        · obtain ⟨start', g', hg', hs'⟩ := h.same e he
          rw [← hslot, hg] at hg'
          cases hg'
          exact hs'
        · exact hs
    · obtain he | rfl := he
      · simpa only [List.getElem?_set_ne hslot] using h.same e he
      · exact absurd rfl hslot
  · refine List.pairwise_append.2 ⟨h.order, List.pairwise_singleton _ _, ?_⟩
    intro e he e' he' hd
    obtain rfl := List.mem_singleton.1 he'
    exact h.slot_le_of_meets hg hf he hd

theorem opens (h : Sound rules p) (rule : String × Declarations) :
    Sound (rules ++ [rule])
      ⟨p.groups ++ [(p.placed.length, ⟨[rule.1], rule.2⟩)],
        p.placed ++ [(p.groups.length, rule.2)]⟩ := by
  refine ⟨by simp [h.declarations], ?_, ?_, ?_, ?_⟩
  · intro slot start g hg
    obtain hg | ⟨rfl, he⟩ := getElem?_concat_eq_some_iff.1 hg
    · obtain ⟨before, after, hp, hl, hb⟩ := h.first hg
      exact ⟨before, after ++ [(p.groups.length, rule.2)], by simp [hp], hl, hb⟩
    · cases he
      exact ⟨p.placed, [], rfl, rfl, fun e he ↦ h.slot_lt he⟩
  · intro slot start g hg
    rw [h.seats_concat, List.filter_append, List.map_append]
    obtain hg | ⟨rfl, he⟩ := getElem?_concat_eq_some_iff.1 hg
    · have hne : p.groups.length ≠ slot := (List.getElem?_eq_some_iff.1 hg).1.ne'
      simp [h.members hg, hne]
    · cases he
      have hn : (p.seats rules).filter (fun e ↦ e.2.1 = p.groups.length) = [] :=
        List.filter_eq_nil_iff.2 fun e he ↦ by simpa using (h.slot_lt_of_mem_seats he).ne
      simp [hn]
  · intro e he
    rw [List.mem_append, List.mem_singleton] at he
    obtain he | rfl := he
    · obtain ⟨start, g, hg, hs⟩ := h.same e he
      exact ⟨start, g, by rw [List.getElem?_append_left (h.slot_lt he), hg], hs⟩
    · exact ⟨_, _, List.getElem?_concat_length, Declarations.sameAs_iff.2 fun _ ↦ rfl⟩
  · refine List.pairwise_append.2 ⟨h.order, List.pairwise_singleton _ _, ?_⟩
    intro e he e' he' hd
    obtain rfl := List.mem_singleton.1 he'
    exact (h.slot_lt he).le

theorem step (h : Sound rules p) (rule : String × Declarations) :
    Sound (rules ++ [rule]) (p.step rule) := by
  have hr := reads_step p rule
  generalize p.step rule = q at hr ⊢
  cases hr with
  | joins hg hs hf => exact h.joins hg hs hf
  | opens hj => exact h.opens rule

theorem foldl (h : Sound rules p) (rest : List (String × Declarations)) :
    Sound (rules ++ rest) (rest.foldl Progress.step p) := by
  induction rest generalizing rules p with
  | nil => simpa using h
  | cons rule rest ih => simpa using ih (h.step rule)

end Sound

end Progress

end Group

namespace Layer

variable (l : Layer)

def progress : Group.Progress := l.toList.foldl Group.Progress.step {}

theorem merged_eq : l.merged = l.progress.groups.map Prod.snd := rfl

theorem sound_progress : Group.Progress.Sound l.toList l.progress :=
  Group.Progress.Sound.empty.foldl l.toList

def seats : List (String × Nat × Declarations) := l.progress.seats l.toList

theorem map_seats : l.seats.map (fun e ↦ (e.1, e.2.2)) = l.toList := by
  have hd := l.sound_progress.declarations
  have hl : l.toList.length = l.progress.placed.length := by
    simpa using (congrArg List.length hd).symm
  calc l.seats.map (fun e ↦ (e.1, e.2.2))
      = (l.toList.map Prod.fst).zip (l.progress.placed.map Prod.snd) := by
        simp only [seats, Group.Progress.seats, List.zip_map_right]
        rfl
    _ = l.toList := by rw [hd, ← List.unzip_fst, ← List.unzip_snd, List.zip_unzip]

theorem getElem?_seats_iff {i : Nat} {selector : String} {d : Declarations} :
    l.toList[i]? = some (selector, d) ↔ ∃ slot, l.seats[i]? = some (selector, slot, d) := by
  rw [← l.map_seats, List.getElem?_map, Option.map_eq_some_iff]
  constructor
  · rintro ⟨e, he, h⟩
    cases h
    exact ⟨e.2.1, he⟩
  · rintro ⟨slot, h⟩
    exact ⟨_, h, rfl⟩

theorem exists_group_of_mem_seats {e : String × Nat × Declarations} (he : e ∈ l.seats) :
    ∃ g, l.merged[e.2.1]? = some g ∧ e.1 ∈ g.selectors ∧
      ∀ property, g.declarations.get? property = e.2.2.get? property := by
  obtain ⟨start, g, hg, hs⟩ := l.sound_progress.same e.2 (List.of_mem_zip he).2
  refine ⟨g, by simp [merged_eq, hg], ?_, Declarations.sameAs_iff.1 hs⟩
  rw [l.sound_progress.members hg]
  exact List.mem_map.2 ⟨e, List.mem_filter.2 ⟨he, by simp⟩, rfl⟩

theorem group_of_mem_seats {e : String × Nat × Declarations} {g : Group} (he : e ∈ l.seats)
    (hg : l.merged[e.2.1]? = some g) :
    e.1 ∈ g.selectors ∧ ∀ property, g.declarations.get? property = e.2.2.get? property := by
  obtain ⟨g', hg', h⟩ := l.exists_group_of_mem_seats he
  obtain rfl : g = g' := Option.some.inj (hg.symm.trans hg')
  exact h

theorem exists_seat_of_mem_selectors {slot : Nat} {g : Group} {selector : String}
    (hg : l.merged[slot]? = some g) (hs : selector ∈ g.selectors) :
    ∃ d, (selector, slot, d) ∈ l.seats := by
  rw [merged_eq, List.getElem?_map, Option.map_eq_some_iff] at hg
  obtain ⟨⟨start, g⟩, hg, rfl⟩ := hg
  rw [l.sound_progress.members hg] at hs
  obtain ⟨e, he, rfl⟩ := List.mem_map.1 hs
  obtain ⟨hm, hslot⟩ := List.mem_filter.1 he
  obtain rfl : e.2.1 = slot := by simpa using hslot
  exact ⟨e.2.2, hm⟩

theorem exists_of_mem_merged {g : Group} (h : g ∈ l.merged) :
    ∃ s ∈ g.selectors, (s, g.declarations) ∈ l.toList := by
  obtain ⟨slot, hslot⟩ := List.mem_iff_getElem?.1 h
  rw [merged_eq, List.getElem?_map, Option.map_eq_some_iff] at hslot
  obtain ⟨⟨start, g⟩, hg, rfl⟩ := hslot
  obtain ⟨before, after, hp, -, -⟩ := l.sound_progress.first hg
  have hl : l.progress.placed.length ≤ (l.toList.map Prod.fst).length := by
    simpa using (congrArg List.length l.sound_progress.declarations).le
  have hm : (slot, g.declarations) ∈ l.seats.map Prod.snd := by
    rw [seats, Group.Progress.seats, List.map_snd_zip hl, hp]
    simp
  obtain ⟨e, he, hs⟩ := List.mem_map.1 hm
  refine ⟨e.1, ?_, ?_⟩
  · rw [l.sound_progress.members hg]
    exact List.mem_map_of_mem (List.mem_filter.2 ⟨he, by simp [hs]⟩)
  · rw [← l.map_seats]
    exact List.mem_map.2 ⟨e, he, by rw [hs]⟩

/-- Merging keeps the order of rules that have a property in common. -/
theorem slot_le_of_meets {i j : Nat} (hij : i < j) {d e : String × Nat × Declarations}
    (hd : l.seats[i]? = some d) (he : l.seats[j]? = some e) (h : d.2.2.meets e.2.2 = true) :
    d.2.1 ≤ e.2.1 := by
  have hz {i : Nat} {d : String × Nat × Declarations} (hd : l.seats[i]? = some d) :
      l.progress.placed[i]? = some d.2 := (List.getElem?_zip_eq_some.1 hd).2
  obtain ⟨hi, hd⟩ := List.getElem?_eq_some_iff.1 (hz hd)
  obtain ⟨hj, he⟩ := List.getElem?_eq_some_iff.1 (hz he)
  have ho := List.pairwise_iff_getElem.1 l.sound_progress.order i j hi hj hij
  rw [hd, he] at ho
  exact ho h

end Layer

end LayoutSheet
