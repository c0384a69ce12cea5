import LayoutSheet.Proofs.Grouping
import Mathlib.Data.List.Induction
import Mathlib.Data.List.Nodup

namespace LayoutSheet

namespace Declarations

variable {a b c : Declarations}

theorem mem_keys_of_sameAs (h : a.sameAs b = true) {property : String} :
    property ∈ a.keys ↔ property ∈ b.keys := by
  rw [← not_iff_not, ← KeyedList.get?_eq_none_iff, ← KeyedList.get?_eq_none_iff,
    sameAs_iff.1 h property]

theorem meets_of_sameAs_left (h : a.sameAs b = true) : a.meets c = true ↔ b.meets c = true := by
  simp only [meets_iff, mem_keys_of_sameAs h]

theorem meets_of_sameAs_right (h : a.sameAs b = true) : c.meets a = true ↔ c.meets b = true := by
  simp only [meets_iff, mem_keys_of_sameAs h]

theorem meets_comm : a.meets b = true ↔ b.meets a = true := by
  simp only [meets_iff, and_comm]

theorem sameAs_comm : a.sameAs b = true ↔ b.sameAs a = true := by
  rw [sameAs_iff, sameAs_iff]
  exact forall_congr' fun _ ↦ eq_comm

theorem sameAs_trans (h : a.sameAs b = true) (h' : b.sameAs c = true) : a.sameAs c = true :=
  sameAs_iff.2 fun property ↦ (sameAs_iff.1 h property).trans (sameAs_iff.1 h' property)

end Declarations

namespace Group

theorem set_eq_self {α : Type} {l : List α} {i : Nat} {a : α} (h : l[i]? = some a) :
    l.set i a = l := by
  obtain ⟨hi, rfl⟩ := List.getElem?_eq_some_iff.1 h
  exact List.set_getElem_self hi

theorem getElem?_map_of {α β : Type} {l : List α} {i : Nat} {a : α} (f : α → β)
    (h : l[i]? = some a) : (l.map f)[i]? = some (f a) := by
  rw [List.getElem?_map, h]
  rfl

theorem newest?_concat (groups : List (Nat × Group)) (e : Nat × Group) (d : Declarations) :
    newest? (groups ++ [e]) d =
      if e.2.declarations.sameAs d = true then some groups.length else newest? groups d := by
  rw [newest?, List.zipIdx_append, List.reverse_append, List.zipIdx_singleton,
    List.reverse_singleton, List.singleton_append, List.find?_cons]
  cases e.2.declarations.sameAs d with
  | true => simp
  | false => simp [newest?]

theorem exists_newest? {groups : List (Nat × Group)} {d : Declarations} {i start : Nat} {g : Group}
    (hg : groups[i]? = some (start, g)) (hs : g.declarations.sameAs d = true) :
    ∃ slot, newest? groups d = some slot ∧ i ≤ slot := by
  induction groups using List.reverseRecOn with
  | nil => simp at hg
  | append_singleton groups e ih =>
    rw [newest?_concat]
    rcases getElem?_concat_eq_some_iff.1 hg with hg | ⟨rfl, rfl⟩
    · have hlt := (List.getElem?_eq_some_iff.1 hg).1
      split
      · exact ⟨groups.length, rfl, hlt.le⟩
      · exact ih hg
    · rw [if_pos hs]
      exact ⟨groups.length, rfl, le_rfl⟩

namespace Progress

variable {rules : List (String × Declarations)} {p : Progress}

def Admits (p : Progress) (slot : Nat) (d : Declarations) : Prop :=
  (∃ start g, p.groups[slot]? = some (start, g) ∧ g.declarations.sameAs d = true) ∧
    p.reaches slot d = true

def declared (p : Progress) : List Declarations := p.groups.map fun e ↦ e.2.declarations

theorem exists_group_of_declared {i : Nat} {d : Declarations} (h : p.declared[i]? = some d) :
    ∃ start g, p.groups[i]? = some (start, g) ∧ g.declarations = d := by
  rw [declared, List.getElem?_map] at h
  obtain ⟨⟨start, g⟩, hg, he⟩ := Option.map_eq_some_iff.1 h
  exact ⟨start, g, hg, he⟩

/-- Between two groups of the same values stands one that sets a property of theirs. -/
def Apart (ds : List Declarations) : Prop :=
  ∀ (i j : Nat) (d e : Declarations), i < j → ds[i]? = some d → ds[j]? = some e →
    d.sameAs e = true →
    ∃ (k : Nat) (f : Declarations), i < k ∧ k < j ∧ ds[k]? = some f ∧ f.meets e = true

theorem Apart.empty : Apart [] := by
  intro i j d e _ hi
  cases hi

theorem Apart.concat {ds : List Declarations} (h : Apart ds) {e : Declarations}
    (he : ∀ (i : Nat) (d : Declarations), ds[i]? = some d → d.sameAs e = true →
      ∃ (k : Nat) (f : Declarations), i < k ∧ ds[k]? = some f ∧ f.meets e = true) :
    Apart (ds ++ [e]) := by
  intro i j d e' hij hi hj hs
  have hlt := (List.getElem?_eq_some_iff.1 hj).1
  rw [List.length_append, List.length_singleton] at hlt
  rw [List.getElem?_append_left (by omega)] at hi
  rcases getElem?_concat_eq_some_iff.1 hj with hj | ⟨rfl, rfl⟩
  · obtain ⟨k, f, hik, hkj, hk, hm⟩ := h i j d e' hij hi hj hs
    have hjlt := (List.getElem?_eq_some_iff.1 hj).1
    exact ⟨k, f, hik, hkj, by rwa [List.getElem?_append_left (by omega)], hm⟩
  · obtain ⟨k, f, hik, hk, hm⟩ := he i d hi hs
    have hkj := (List.getElem?_eq_some_iff.1 hk).1
    exact ⟨k, f, hik, hkj, by rwa [List.getElem?_append_left hkj], hm⟩

namespace Sound

/-- Where a rule has to open a group, each group of its values has a later one behind it that sets
a property of the rule. -/
theorem exists_between (h : Sound rules p) {d : Declarations} (hj : p.join? d = none)
    {i start : Nat} {g : Group} (hg : p.groups[i]? = some (start, g))
    (hs : g.declarations.sameAs d = true) :
    ∃ k start' m, i < k ∧ p.groups[k]? = some (start', m) ∧ m.declarations.meets d = true := by
  obtain ⟨slot, hn, hi⟩ := exists_newest? hg hs
  obtain ⟨start', g', hg', hs'⟩ := getElem?_of_newest? hn
  -- What kept the rule from the newest of them sits in a later group.
  have hr : p.reaches slot d = false := by
    rw [join?, hn] at hj
    simpa using hj
  rw [reaches, hg', List.all_eq_false] at hr
  obtain ⟨e, he, hr⟩ := hr
  have hne : e.1 ≠ slot := fun hs ↦ hr (by simp [hs])
  have hm : e.2.meets d = true := by simpa [hne] using hr
  obtain ⟨before, hp, -⟩ := h.drop_of_first hg'
  have ho := h.order
  rw [hp] at ho
  have hle : slot ≤ e.1 := by
    apply (List.pairwise_cons.1 (List.pairwise_append.1 ho).2.1).1 e he
    rw [Declarations.meets_of_sameAs_left hs', Declarations.meets_comm]
    exact hm
  obtain ⟨start'', m, hg'', hs''⟩ := h.same e (List.mem_of_mem_drop he)
  refine ⟨e.1, start'', m, by omega, hg'', ?_⟩
  exact (Declarations.meets_of_sameAs_left hs'').2 hm

theorem apart_step (h : Sound rules p) (ha : Apart p.declared) (rule : String × Declarations) :
    Apart (p.step rule).declared := by
  have hr := reads_step p rule
  generalize p.step rule = q at hr ⊢
  cases hr with
  | @joins slot start g hg hs hf =>
    have hgm : p.declared[slot]? = some g.declarations := getElem?_map_of _ hg
    have hd : (p.groups.set slot (start, ⟨g.selectors ++ [rule.1], g.declarations⟩)).map
        (fun e ↦ e.2.declarations) = p.declared := by
      rw [List.map_set]
      exact set_eq_self hgm
    rw [declared, hd]
    exact ha
  | opens hj =>
    rw [declared, List.map_append]
    refine ha.concat fun i d hi hs ↦ ?_
    obtain ⟨start, g, hg, rfl⟩ := exists_group_of_declared hi
    obtain ⟨k, start', m, hik, hk, hm⟩ := h.exists_between hj hg hs
    exact ⟨k, m.declarations, hik, getElem?_map_of _ hk, hm⟩

theorem apart_foldl (h : Sound rules p) (ha : Apart p.declared)
    (rest : List (String × Declarations)) : Apart (rest.foldl Progress.step p).declared := by
  induction rest generalizing rules p with
  | nil => exact ha
  | cons rule rest ih => exact ih (h.step rule) (h.apart_step ha rule)

/-- The group that a rule could join is the newest of its values. -/
theorem join?_of_admits (h : Sound rules p) (ha : Apart p.declared) {slot : Nat}
    {d : Declarations} (hs : p.Admits slot d) : p.join? d = some slot := by
  obtain ⟨⟨start, g, hg, hsame⟩, hr⟩ := hs
  obtain ⟨newest, hn, hle⟩ := exists_newest? hg hsame
  obtain ⟨start', g', hg', hsame'⟩ := getElem?_of_newest? hn
  rcases hle.eq_or_lt with rfl | hlt
  · rw [join?, hn, Option.filter_some, if_pos hr]
  · exfalso
    obtain ⟨k, f, hik, -, hk, hm⟩ := ha slot newest g.declarations g'.declarations hlt
      (getElem?_map_of _ hg) (getElem?_map_of _ hg')
      (Declarations.sameAs_trans hsame (Declarations.sameAs_comm.1 hsame'))
    obtain ⟨start'', m, hgk, rfl⟩ := exists_group_of_declared hk
    have hmd : m.declarations.meets d = true := (Declarations.meets_of_sameAs_right hsame').1 hm
    -- The first rule of the group between is read behind the first of the group to be joined.
    obtain ⟨before, hp, hb⟩ := h.drop_of_first hg
    obtain ⟨before', hp', -⟩ := h.drop_of_first hgk
    have hmem : (k, m.declarations) ∈ p.placed := by
      rw [hp']
      simp
    rw [hp, List.mem_append, List.mem_cons] at hmem
    rw [reaches, hg, List.all_eq_true] at hr
    rcases hmem with hmem | hmem | hmem
    · exact hik.not_gt (hb _ hmem)
    · exact hik.ne' (congrArg Prod.fst hmem)
    · have hks : k = slot := by simpa [hmd] using hr _ hmem
      exact hik.ne' hks

end Sound

def Led (rules : List (String × Declarations)) (p : Progress) : Prop :=
  (p.groups.map fun e ↦ e.2.selectors.head?).Sublist (rules.map fun rule ↦ some rule.1)

theorem Led.empty : Led [] {} := .slnil

theorem Led.step (h : Led rules p) (rule : String × Declarations) :
    Led (rules ++ [rule]) (p.step rule) := by
  have hr := reads_step p rule
  generalize p.step rule = q at hr ⊢
  rw [Led, List.map_append]
  cases hr with
  | @joins slot start g hg hs hf =>
    have hgm : (p.groups.map fun e ↦ e.2.selectors.head?)[slot]? = some g.selectors.head? :=
      getElem?_map_of _ hg
    have hne : g.selectors ≠ [] := by
      obtain ⟨e, -, he⟩ := List.mem_map.1 (h.subset (List.mem_of_getElem? hgm))
      rintro hn
      rw [hn] at he
      cases he
    have hd : (p.groups.set slot (start, ⟨g.selectors ++ [rule.1], g.declarations⟩)).map
        (fun e ↦ e.2.selectors.head?) = p.groups.map fun e ↦ e.2.selectors.head? := by
      rw [List.map_set, List.head?_append_of_ne_nil _ hne]
      exact set_eq_self hgm
    rw [hd]
    exact h.trans (List.sublist_append_left _ _)
  | opens hj =>
    rw [List.map_append]
    exact h.append (.refl _)

theorem Led.foldl (h : Led rules p) (rest : List (String × Declarations)) :
    Led (rules ++ rest) (rest.foldl Progress.step p) := by
  induction rest generalizing rules p with
  | nil => simpa using h
  | cons rule rest ih => simpa using ih (h.step rule)

end Progress

end Group

namespace Layer

variable {l : Layer}

theorem map_fst_seats (l : Layer) : l.seats.map Prod.fst = l.keys := by
  have h := congrArg (List.map Prod.fst) l.map_seats
  rwa [List.map_map] at h

theorem eq_of_mem_seats {d e : String × Nat × Declarations} (hd : d ∈ l.seats) (he : e ∈ l.seats)
    (h : d.1 = e.1) : d = e :=
  List.inj_on_of_nodup_map (l.map_fst_seats ▸ l.nodup_keys) hd he h

theorem index_unique {i j : Nat} {d e : String × Nat × Declarations} (hi : l.seats[i]? = some d)
    (hj : l.seats[j]? = some e) (h : d.1 = e.1) : i = j := by
  have hn : (l.seats.map Prod.fst).Nodup := l.map_fst_seats ▸ l.nodup_keys
  have hlt := (List.getElem?_eq_some_iff.1 hi).1
  refine (List.getElem?_inj (by rwa [List.length_map]) hn).1 ?_
  rw [List.getElem?_map, List.getElem?_map, hi, hj, Option.map_some, Option.map_some, h]

theorem get?_of_mem_seats {e : String × Nat × Declarations} (he : e ∈ l.seats) :
    l.get? e.1 = some e.2.2 := by
  rw [KeyedList.get?_eq_some_iff, ← l.map_seats]
  exact List.mem_map_of_mem he

theorem mem_values_of_mem_seats {e : String × Nat × Declarations} (he : e ∈ l.seats) :
    e.2.2 ∈ l.values :=
  List.mem_map.2 ⟨_, KeyedList.get?_eq_some_iff.1 (get?_of_mem_seats he), rfl⟩

theorem mem_seats_of_get? {slot : Nat} {g : Group} {selector : String} {d : Declarations}
    (hg : l.merged[slot]? = some g) (hs : selector ∈ g.selectors)
    (hd : l.get? selector = some d) : (selector, slot, d) ∈ l.seats := by
  obtain ⟨d', hd'⟩ := l.exists_seat_of_mem_selectors hg hs
  obtain rfl : d' = d := Option.some.inj ((get?_of_mem_seats hd').symm.trans hd)
  exact hd'

theorem selectors_sublist {slot : Nat} {g : Group} (hg : l.merged[slot]? = some g) :
    g.selectors.Sublist l.keys := by
  rw [merged_eq, List.getElem?_map, Option.map_eq_some_iff] at hg
  obtain ⟨⟨start, g⟩, hg, rfl⟩ := hg
  rw [l.sound_progress.members hg, ← l.map_fst_seats]
  exact List.filter_sublist.map Prod.fst

theorem slot_unique {i j : Nat} {g h : Group} {selector : String} (hg : l.merged[i]? = some g)
    (hh : l.merged[j]? = some h) (hs : selector ∈ g.selectors) (hs' : selector ∈ h.selectors) :
    i = j := by
  obtain ⟨d, hd⟩ := l.exists_seat_of_mem_selectors hg hs
  obtain ⟨e, he⟩ := l.exists_seat_of_mem_selectors hh hs'
  exact congrArg (fun s ↦ s.2.1) (eq_of_mem_seats hd he rfl)

theorem nodup_selectors (l : Layer) : (l.merged.flatMap Group.selectors).Nodup := by
  refine List.nodup_flatMap.2 ⟨?_, ?_⟩
  · intro g hg
    obtain ⟨slot, hg⟩ := List.mem_iff_getElem?.1 hg
    exact (selectors_sublist hg).nodup l.nodup_keys
  · refine List.pairwise_iff_getElem.2 fun i j hi hj hij selector hs hs' ↦ ?_
    exact hij.ne (slot_unique (List.getElem?_eq_getElem hi) (List.getElem?_eq_getElem hj) hs hs')

theorem perm_selectors (l : Layer) : (l.merged.flatMap Group.selectors).Perm l.keys := by
  refine (List.perm_ext_iff_of_nodup l.nodup_selectors l.nodup_keys).2 fun selector ↦ ?_
  rw [List.mem_flatMap, ← l.map_fst_seats, List.mem_map]
  constructor
  · rintro ⟨g, hg, hs⟩
    obtain ⟨slot, hg⟩ := List.mem_iff_getElem?.1 hg
    obtain ⟨d, hd⟩ := l.exists_seat_of_mem_selectors hg hs
    exact ⟨_, hd, rfl⟩
  · rintro ⟨e, he, rfl⟩
    obtain ⟨g, hg, hs, -⟩ := l.exists_group_of_mem_seats he
    exact ⟨g, List.mem_of_getElem? hg, hs⟩

def progressAt (l : Layer) (i : Nat) : Group.Progress :=
  (l.toList.take i).foldl Group.Progress.step {}

/-- Groups that share out the selectors of a layer in order, with no two that could be one. -/
structure Partitions (l : Layer) (groups : List Group) : Prop where
  perm : (groups.flatMap Group.selectors).Perm l.keys
  ordered : ∀ g ∈ groups, g.selectors.Sublist l.keys
  /-- No group is empty, and they stand in the order of their first selectors. -/
  led : (groups.map fun g ↦ g.selectors.head?).Sublist (l.keys.map some)
  same : ∀ g ∈ groups, ∀ selector ∈ g.selectors, ∃ d, l.get? selector = some d ∧
    ∀ property, d.get? property = g.declarations.get? property
  apart : ∀ (i j : Nat) (g h : Group), i < j → groups[i]? = some g → groups[j]? = some h →
    (∀ property, g.declarations.get? property = h.declarations.get? property) →
    ∃ (k : Nat) (m : Group) (property : String), i < k ∧ k < j ∧ groups[k]? = some m ∧
      property ∈ m.declarations.keys ∧ property ∈ g.declarations.keys ∧
      property ∈ h.declarations.keys

theorem partitions_merged (l : Layer) : l.Partitions l.merged where
  perm := l.perm_selectors
  ordered g hg := by
    obtain ⟨slot, hg⟩ := List.mem_iff_getElem?.1 hg
    exact selectors_sublist hg
  led := by
    have h : Group.Progress.Led l.toList l.progress := Group.Progress.Led.empty.foldl l.toList
    rw [Group.Progress.Led] at h
    rw [merged_eq, KeyedList.keys, List.map_map, List.map_map]
    exact h
  same g hg selector hs := by
    obtain ⟨slot, hg⟩ := List.mem_iff_getElem?.1 hg
    obtain ⟨d, hd⟩ := l.exists_seat_of_mem_selectors hg hs
    obtain ⟨-, he⟩ := l.group_of_mem_seats hd hg
    exact ⟨d, get?_of_mem_seats hd, fun property ↦ (he property).symm⟩
  apart i j g h hij hg hh he := by
    have ha : Group.Progress.Apart l.progress.declared :=
      Group.Progress.Sound.empty.apart_foldl .empty l.toList
    have hd : l.progress.declared = l.merged.map Group.declarations := by
      rw [merged_eq, List.map_map]
      rfl
    rw [hd] at ha
    obtain ⟨k, f, hik, hkj, hk, hm⟩ := ha i j g.declarations h.declarations hij
      (Group.getElem?_map_of _ hg) (Group.getElem?_map_of _ hh)
      (Declarations.sameAs_iff.2 he)
    rw [List.getElem?_map] at hk
    obtain ⟨m, hmk, rfl⟩ := Option.map_eq_some_iff.1 hk
    obtain ⟨property, hpm, hph⟩ := Declarations.meets_iff.1 hm
    exact ⟨k, m, property, hik, hkj, hmk, hpm,
      (Declarations.mem_keys_of_sameAs (Declarations.sameAs_iff.2 he)).2 hph, hph⟩

theorem join?_progressAt {i slot : Nat} {d : Declarations}
    (h : (l.progressAt i).Admits slot d) : (l.progressAt i).join? d = some slot :=
  (Group.Progress.Sound.empty.foldl (l.toList.take i)).join?_of_admits
    (Group.Progress.Sound.empty.apart_foldl .empty (l.toList.take i)) h

end Layer

end LayoutSheet
