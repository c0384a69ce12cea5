import LayoutSheet.Proofs.Partition

namespace LayoutSheet

structure Longhands where
  sets : String → String → Bool
  nonempty : ∀ property, ∃ longhand, sets property longhand = true
  self : ∀ property longhand, sets property longhand = true → sets longhand longhand = true

namespace Longhands

variable {L : Longhands} {matched : String → Bool} {longhand : String} {groups : List Group}

def last? (L : Longhands) (longhand : String) (ds : List (String × String)) :
    Option (String × String) :=
  (ds.filter fun e ↦ L.sets e.1 longhand).getLast?

def applied (matched : String → Bool) (groups : List Group) : List (String × String) :=
  (groups.filter fun g ↦ g.selectors.any matched).flatMap fun g ↦ g.declarations.toList

def final? (L : Longhands) (matched : String → Bool) (longhand : String) (groups : List Group) :
    Option (String × String) :=
  L.last? longhand (applied matched groups)

def within? (L : Longhands) (matched : String → Bool) (longhand : String) (g : Group) :
    Option (String × String) :=
  if g.selectors.any matched then L.last? longhand g.declarations.toList else none

/-- Some property of the rule sets the longhand. -/
def Touches (L : Longhands) (d : Declarations) (longhand : String) : Prop :=
  ∃ property ∈ d.keys, L.sets property longhand = true

theorem mem_of_last? {ds : List (String × String)} {e : String × String}
    (h : L.last? longhand ds = some e) : e ∈ ds ∧ L.sets e.1 longhand = true :=
  List.mem_filter.1 (List.mem_of_getLast? h)

theorem last?_ne_none_iff {d : Declarations} :
    L.last? longhand d.toList ≠ none ↔ L.Touches d longhand := by
  rw [last?, Ne, List.getLast?_eq_none_iff, List.filter_eq_nil_iff, Touches]
  push Not
  constructor
  · rintro ⟨e, he, hs⟩
    exact ⟨e.1, KeyedList.mem_keys.2 ⟨e.2, he⟩, hs⟩
  · rintro ⟨property, hp, hs⟩
    obtain ⟨value, he⟩ := KeyedList.mem_keys.1 hp
    exact ⟨(property, value), he, hs⟩

theorem final?_concat (groups : List Group) (g : Group) :
    L.final? matched longhand (groups ++ [g]) =
      (L.within? matched longhand g).or (L.final? matched longhand groups) := by
  rw [final?, final?, applied, applied, List.filter_append, List.flatMap_append, last?, last?,
    List.filter_append, List.getLast?_append, within?]
  by_cases h : g.selectors.any matched = true
  · simp [h, last?]
  · simp [h]

/-- What sets a longhand in the end is the last group that matches and sets it. -/
theorem final?_eq_some_iff {e : String × String} :
    L.final? matched longhand groups = some e ↔ ∃ (i : Nat) (g : Group), groups[i]? = some g ∧
      L.within? matched longhand g = some e ∧
      ∀ (j : Nat) (h : Group), i < j → groups[j]? = some h →
        L.within? matched longhand h = none := by
  induction groups using List.reverseRecOn with
  | nil => simp [final?, applied, last?]
  | append_singleton groups g ih =>
    rw [final?_concat]
    cases hw : L.within? matched longhand g with
    | some e' =>
      rw [Option.some_or, Option.some_inj]
      constructor
      · rintro rfl
        refine ⟨groups.length, g, List.getElem?_concat_length, hw, ?_⟩
        intro j h hj hh
        have := (List.getElem?_eq_some_iff.1 hh).1
        rw [List.length_append, List.length_singleton] at this
        omega
      · rintro ⟨i, g', hg, he, hlast⟩
        rcases getElem?_concat_eq_some_iff.1 hg with hg | ⟨rfl, rfl⟩
        · have hi := (List.getElem?_eq_some_iff.1 hg).1
          rw [hlast groups.length g hi List.getElem?_concat_length] at hw
          cases hw
        · exact Option.some_inj.1 (hw.symm.trans he)
    | none =>
      rw [Option.none_or, ih]
      constructor
      · rintro ⟨i, g', hg, he, hlast⟩
        have hi := (List.getElem?_eq_some_iff.1 hg).1
        refine ⟨i, g', by rwa [List.getElem?_append_left hi], he, ?_⟩
        intro j h hj hh
        rcases getElem?_concat_eq_some_iff.1 hh with hh | ⟨-, rfl⟩
        · exact hlast j h hj hh
        · exact hw
      · rintro ⟨i, g', hg, he, hlast⟩
        rcases getElem?_concat_eq_some_iff.1 hg with hg | ⟨-, rfl⟩
        · refine ⟨i, g', hg, he, ?_⟩
          intro j h hj hh
          have hlt := (List.getElem?_eq_some_iff.1 hh).1
          exact hlast j h hj (by rwa [List.getElem?_append_left hlt])
        · rw [hw] at he
          cases he

theorem final?_eq_none_iff :
    L.final? matched longhand groups = none ↔
      ∀ g ∈ groups, L.within? matched longhand g = none := by
  induction groups using List.reverseRecOn with
  | nil => simp [final?, applied, last?]
  | append_singleton groups g ih =>
    rw [final?_concat, Option.or_eq_none_iff, ih]
    simp [or_imp, forall_and, and_comm]

theorem final?_of_unique {i : Nat} {g : Group} (hg : groups[i]? = some g)
    (hu : ∀ (j : Nat) (h : Group), groups[j]? = some h → h.selectors.any matched = true → j = i) :
    L.final? matched longhand groups = L.within? matched longhand g := by
  have hn (j : Nat) (h : Group) (hj : j ≠ i) (hh : groups[j]? = some h) :
      L.within? matched longhand h = none := if_neg fun hm ↦ hj (hu j h hh hm)
  cases hw : L.within? matched longhand g with
  | some e =>
    exact final?_eq_some_iff.2 ⟨i, g, hg, hw, fun j h hij hh ↦ hn j h hij.ne' hh⟩
  | none =>
    refine final?_eq_none_iff.2 fun h hh ↦ ?_
    obtain ⟨j, hh⟩ := List.mem_iff_getElem?.1 hh
    by_cases hj : j = i
    · subst hj
      obtain rfl : g = h := Option.some.inj (hg.symm.trans hh)
      exact hw
    · exact hn j h hj hh

theorem within?_of_mem {g : Group} {selector : String} (hs : selector ∈ g.selectors)
    (hm : matched selector = true) :
    L.within? matched longhand g = L.last? longhand g.declarations.toList :=
  if_pos (List.any_eq_true.2 ⟨selector, hs, hm⟩)

theorem of_within?_ne_none {g : Group} (h : L.within? matched longhand g ≠ none) :
    g.selectors.any matched = true ∧ L.last? longhand g.declarations.toList ≠ none := by
  rwa [within?, Ne, ite_eq_right_iff, Classical.not_imp] at h

end Longhands

namespace Layer

variable {l : Layer} {L : Longhands}

/-- Whatever matches an element, the same declaration sets each longhand in the end. -/
def KeepsLonghands (l : Layer) (L : Longhands) : Prop :=
  ∀ matched longhand, L.final? matched longhand l.merged = L.final? matched longhand l.separate

/-- A rule is printed before one that was written before it. -/
def Overtakes (l : Layer) (later earlier : Declarations) : Prop :=
  ∃ (i j a b : Nat) (s t : String) (g h : Group), i < j ∧
    l.toList[i]? = some (s, earlier) ∧ l.toList[j]? = some (t, later) ∧
    l.merged[a]? = some g ∧ s ∈ g.selectors ∧ l.merged[b]? = some h ∧ t ∈ h.selectors ∧ b < a

structure SafeFor (l : Layer) (L : Longhands) : Prop where
  /-- A member of a group sets each longhand last by the declaration that the group prints last. -/
  members : ∀ g ∈ l.merged, ∀ selector ∈ g.selectors, ∀ d, l.get? selector = some d →
    ∀ longhand, L.last? longhand d.toList = L.last? longhand g.declarations.toList
  order : ∀ later earlier, l.Overtakes later earlier → ∀ longhand,
    ¬(L.Touches earlier longhand ∧ L.Touches later longhand)

theorem getElem?_separate_iff {i : Nat} {g : Group} : l.separate[i]? = some g ↔
    ∃ selector slot d, l.seats[i]? = some (selector, slot, d) ∧ g = ⟨[selector], d⟩ := by
  rw [separate, List.getElem?_map, Option.map_eq_some_iff]
  constructor
  · rintro ⟨⟨selector, d⟩, hi, rfl⟩
    obtain ⟨slot, hi⟩ := l.getElem?_seats_iff.1 hi
    exact ⟨selector, slot, d, hi, rfl⟩
  · rintro ⟨selector, slot, d, hi, rfl⟩
    exact ⟨(selector, d), l.getElem?_seats_iff.2 ⟨slot, hi⟩, rfl⟩

theorem index_of_any {matched : String → Bool} {j : Nat} {h : Group}
    (hh : l.separate[j]? = some h) (hany : h.selectors.any matched = true) :
    ∃ selector slot d, matched selector = true ∧ l.seats[j]? = some (selector, slot, d) ∧
      h = ⟨[selector], d⟩ := by
  obtain ⟨t, ht, hm⟩ := List.any_eq_true.1 hany
  obtain ⟨selector, slot, d, hj, rfl⟩ := getElem?_separate_iff.1 hh
  obtain rfl := List.mem_singleton.1 ht
  exact ⟨t, slot, d, hm, hj, rfl⟩

theorem overtakes_of_seats {i j a b : Nat} {s t : String} {d e : Declarations} (hij : i < j)
    (hi : l.seats[i]? = some (s, a, d)) (hj : l.seats[j]? = some (t, b, e)) (hba : b < a) :
    l.Overtakes e d := by
  obtain ⟨g, hg, hs, -⟩ := l.exists_group_of_mem_seats (List.mem_of_getElem? hi)
  obtain ⟨h, hh, ht, -⟩ := l.exists_group_of_mem_seats (List.mem_of_getElem? hj)
  exact ⟨i, j, a, b, s, t, g, h, hij, l.getElem?_seats_iff.2 ⟨a, hi⟩,
    l.getElem?_seats_iff.2 ⟨b, hj⟩, hg, hs, hh, ht, hba⟩

theorem SafeFor.last?_eq (hl : l.SafeFor L) {selector : String} {slot : Nat} {d : Declarations}
    {g : Group} (hs : (selector, slot, d) ∈ l.seats) (hg : l.merged[slot]? = some g)
    (longhand : String) :
    L.last? longhand d.toList = L.last? longhand g.declarations.toList := by
  obtain ⟨hm, -⟩ := l.group_of_mem_seats hs hg
  exact hl.members g (List.mem_of_getElem? hg) selector hm d (get?_of_mem_seats hs) longhand

theorem SafeFor.final?_merged (hl : l.SafeFor L) {matched : String → Bool} {longhand : String}
    {e : String × String} (he : L.final? matched longhand l.separate = some e) :
    L.final? matched longhand l.merged = some e := by
  obtain ⟨i, _, hsep, hw, hlast⟩ := Longhands.final?_eq_some_iff.1 he
  obtain ⟨hany, -⟩ := Longhands.of_within?_ne_none (hw ▸ Option.some_ne_none e)
  obtain ⟨s, slot, d, hm, hi, rfl⟩ := index_of_any hsep hany
  rw [Longhands.within?_of_mem (List.mem_singleton_self s) hm] at hw
  obtain ⟨g, hg, hsg, -⟩ := l.exists_group_of_mem_seats (List.mem_of_getElem? hi)
  refine Longhands.final?_eq_some_iff.2 ⟨slot, g, hg, ?_, ?_⟩
  · rw [Longhands.within?_of_mem hsg hm, ← hl.last?_eq (List.mem_of_getElem? hi) hg]
    exact hw
  · intro slot' g' hlt hg'
    by_contra hne
    obtain ⟨hany, hne⟩ := Longhands.of_within?_ne_none hne
    obtain ⟨t, ht, hmt⟩ := List.any_eq_true.1 hany
    obtain ⟨d', hd'⟩ := l.exists_seat_of_mem_selectors hg' ht
    rw [← hl.last?_eq hd' hg'] at hne
    obtain ⟨j, hj⟩ := List.mem_iff_getElem?.1 hd'
    rcases lt_trichotomy i j with hij | rfl | hji
    · -- Behind the rule that counts no separate rule sets the longhand.
      have hn := hlast j ⟨[t], d'⟩ hij (getElem?_separate_iff.2 ⟨t, slot', d', hj, rfl⟩)
      rw [Longhands.within?_of_mem (List.mem_singleton_self t) hmt] at hn
      exact hne hn
    · rw [hi] at hj
      cases hj
      exact hlt.ne rfl
    · refine hl.order d d' (overtakes_of_seats hji hj hi hlt) longhand ⟨?_, ?_⟩
      · exact Longhands.last?_ne_none_iff.1 hne
      · exact Longhands.last?_ne_none_iff.1 (hw ▸ Option.some_ne_none e)

theorem SafeFor.keepsLonghands (hl : l.SafeFor L) : l.KeepsLonghands L := by
  intro matched longhand
  cases he : L.final? matched longhand l.separate with
  | some e => exact hl.final?_merged he
  | none =>
    rw [Longhands.final?_eq_none_iff] at he ⊢
    intro g hg
    by_contra hne
    obtain ⟨hany, hne⟩ := Longhands.of_within?_ne_none hne
    obtain ⟨s, hs, hm⟩ := List.any_eq_true.1 hany
    obtain ⟨slot, hg⟩ := List.mem_iff_getElem?.1 hg
    obtain ⟨d, hd⟩ := l.exists_seat_of_mem_selectors hg hs
    obtain ⟨i, hi⟩ := List.mem_iff_getElem?.1 hd
    have hn := he ⟨[s], d⟩
      (List.mem_of_getElem? (getElem?_separate_iff.2 ⟨s, slot, d, hi, rfl⟩))
    rw [Longhands.within?_of_mem (List.mem_singleton_self s) hm] at hn
    exact hne ((hl.last?_eq hd hg longhand).symm.trans hn)

theorem KeepsLonghands.members (hl : l.KeepsLonghands L) {selector : String} {slot : Nat}
    {d : Declarations} {g : Group} (hd : (selector, slot, d) ∈ l.seats)
    (hg : l.merged[slot]? = some g) (hs : selector ∈ g.selectors) (longhand : String) :
    L.last? longhand d.toList = L.last? longhand g.declarations.toList := by
  -- An element that this selector alone matches sees the one rule and the one group.
  have hm := hl (fun s ↦ s = selector) longhand
  obtain ⟨i, hi⟩ := List.mem_iff_getElem?.1 hd
  have hsep := getElem?_separate_iff.2 ⟨selector, slot, d, hi, rfl⟩
  rw [Longhands.final?_of_unique hg, Longhands.final?_of_unique hsep,
    Longhands.within?_of_mem hs (by simp),
    Longhands.within?_of_mem (List.mem_singleton_self selector) (by simp)] at hm
  · exact hm.symm
  · intro j h hh hany
    obtain ⟨t, slot', d', hm, hj, -⟩ := index_of_any hh hany
    exact index_unique hj hi (of_decide_eq_true hm)
  · intro j h hh hany
    obtain ⟨t, ht, hm⟩ := List.any_eq_true.1 hany
    obtain rfl : t = selector := of_decide_eq_true hm
    exact slot_unique hh hg ht hs

theorem exists_seats_of_overtakes {d e : Declarations} (h : l.Overtakes e d) :
    ∃ (i j a b : Nat) (s t : String), i < j ∧ l.seats[i]? = some (s, a, d) ∧
      l.seats[j]? = some (t, b, e) ∧ b < a := by
  obtain ⟨i, j, a, b, s, t, g, h, hij, hi, hj, hg, hs, hh, ht, hba⟩ := h
  obtain ⟨a', hi⟩ := l.getElem?_seats_iff.1 hi
  obtain ⟨b', hj⟩ := l.getElem?_seats_iff.1 hj
  obtain ⟨g', hg', hs', -⟩ := l.exists_group_of_mem_seats (List.mem_of_getElem? hi)
  obtain ⟨h', hh', ht', -⟩ := l.exists_group_of_mem_seats (List.mem_of_getElem? hj)
  obtain rfl := slot_unique hg hg' hs hs'
  obtain rfl := slot_unique hh hh' ht ht'
  exact ⟨i, j, a, b, s, t, hij, hi, hj, hba⟩

theorem KeepsLonghands.order (hl : l.KeepsLonghands L) {d e : Declarations}
    (h : l.Overtakes e d) (longhand : String) :
    ¬(L.Touches d longhand ∧ L.Touches e longhand) := by
  rintro ⟨hd, he⟩
  obtain ⟨i, j, a, b, s, t, hij, hi, hj, hba⟩ := exists_seats_of_overtakes h
  obtain ⟨g, hg, hs, -⟩ := l.exists_group_of_mem_seats (List.mem_of_getElem? hi)
  obtain ⟨h, hh, ht, -⟩ := l.exists_group_of_mem_seats (List.mem_of_getElem? hj)
  obtain ⟨u, hu⟩ := Option.ne_none_iff_exists'.1 (Longhands.last?_ne_none_iff.2 hd)
  obtain ⟨v, hv⟩ := Option.ne_none_iff_exists'.1 (Longhands.last?_ne_none_iff.2 he)
  -- To an element that both selectors match the later rule counts apart, the earlier one merged.
  have hm := hl (fun x ↦ x = s ∨ x = t) longhand
  have hsep : L.final? (fun x ↦ x = s ∨ x = t) longhand l.separate = some v := by
    refine Longhands.final?_eq_some_iff.2
      ⟨j, ⟨[t], e⟩, getElem?_separate_iff.2 ⟨t, b, e, hj, rfl⟩, ?_, ?_⟩
    · rw [Longhands.within?_of_mem (List.mem_singleton_self t) (by simp)]
      exact hv
    · intro k m hjk hk
      by_contra hne
      obtain ⟨x, slot, f, hxm, hk, -⟩ := index_of_any hk (Longhands.of_within?_ne_none hne).1
      rcases of_decide_eq_true hxm with rfl | rfl
      · exact (hij.trans hjk).ne (index_unique hi hk rfl)
      · exact hjk.ne (index_unique hj hk rfl)
  have hmer : L.final? (fun x ↦ x = s ∨ x = t) longhand l.merged = some u := by
    refine Longhands.final?_eq_some_iff.2 ⟨a, g, hg, ?_, ?_⟩
    · rw [Longhands.within?_of_mem hs (by simp),
        ← hl.members (List.mem_of_getElem? hi) hg hs]
      exact hu
    · intro k m hak hk
      by_contra hne
      obtain ⟨x, hx, hxm⟩ := List.any_eq_true.1 (Longhands.of_within?_ne_none hne).1
      rcases of_decide_eq_true hxm with rfl | rfl
      · exact hak.ne (slot_unique hg hk hs hx)
      · exact (hba.trans hak).ne (slot_unique hh hk ht hx)
  rw [hsep, hmer] at hm
  cases hm
  -- So both declare the same property, which merging keeps in order.
  have hmeet : d.meets e = true := Declarations.meets_iff.2 ⟨u.1,
    KeyedList.mem_keys.2 ⟨u.2, (Longhands.mem_of_last? hu).1⟩,
    KeyedList.mem_keys.2 ⟨u.2, (Longhands.mem_of_last? hv).1⟩⟩
  exact hba.not_ge (l.slot_le_of_meets hij hi hj hmeet)

theorem KeepsLonghands.safeFor (hl : l.KeepsLonghands L) : l.SafeFor L where
  members g hg selector hs d hd longhand := by
    obtain ⟨slot, hg⟩ := List.mem_iff_getElem?.1 hg
    exact hl.members (mem_seats_of_get? hg hs hd) hg hs longhand
  order later earlier h longhand := hl.order h longhand

/-- No two properties of the layer set a longhand in common. -/
def SetsApart (l : Layer) (L : Longhands) : Prop :=
  ∀ d ∈ l.values, ∀ e ∈ l.values, ∀ property ∈ d.keys, ∀ other ∈ e.keys, ∀ longhand,
    L.sets property longhand = true → L.sets other longhand = true → property = other

theorem SetsApart.last?_eq (hl : l.SetsApart L) {d e : Declarations} (hd : d ∈ l.values)
    (he : e ∈ l.values) (hs : d.sameAs e = true) (longhand : String) :
    L.last? longhand d.toList = L.last? longhand e.toList := by
  have ht : L.Touches d longhand ↔ L.Touches e longhand := by
    simp only [Longhands.Touches, Declarations.mem_keys_of_sameAs hs]
  cases hu : L.last? longhand d.toList with
  | none =>
    by_contra hne
    exact Longhands.last?_ne_none_iff.2 (ht.2 (Longhands.last?_ne_none_iff.1 (Ne.symm hne))) hu
  | some u =>
    have htd := Longhands.last?_ne_none_iff.1 (hu ▸ Option.some_ne_none u)
    obtain ⟨v, hv⟩ := Option.ne_none_iff_exists'.1 (Longhands.last?_ne_none_iff.2 (ht.1 htd))
    obtain ⟨hum, hus⟩ := Longhands.mem_of_last? hu
    obtain ⟨hvm, hvs⟩ := Longhands.mem_of_last? hv
    have hp : u.1 = v.1 := hl d hd e he u.1 (KeyedList.mem_keys.2 ⟨u.2, hum⟩) v.1
      (KeyedList.mem_keys.2 ⟨v.2, hvm⟩) longhand hus hvs
    -- The two rules hold the same value for the one property that sets the longhand.
    have hget := Declarations.sameAs_iff.1 hs u.1
    rw [KeyedList.get?_eq_some_iff.2 hum, hp, KeyedList.get?_eq_some_iff.2 hvm] at hget
    rw [hv]
    exact congrArg some (Prod.ext hp (Option.some.inj hget))

theorem SetsApart.safeFor (hl : l.SetsApart L) : l.SafeFor L where
  members g hg selector hs d hd longhand := by
    obtain ⟨s, -, hfirst⟩ := l.exists_of_mem_merged hg
    obtain ⟨slot, hslot⟩ := List.mem_iff_getElem?.1 hg
    have hseat := mem_seats_of_get? hslot hs hd
    obtain ⟨-, he⟩ := l.group_of_mem_seats hseat hslot
    refine hl.last?_eq (mem_values_of_mem_seats hseat) (List.mem_map.2 ⟨_, hfirst, rfl⟩) ?_ longhand
    exact Declarations.sameAs_iff.2 fun property ↦ (he property).symm
  order later earlier h longhand := by
    rintro ⟨⟨property, hp, hs⟩, other, ho, hs'⟩
    obtain ⟨i, j, a, b, s, t, hij, hi, hj, hba⟩ := exists_seats_of_overtakes h
    have hd : earlier ∈ l.values := mem_values_of_mem_seats (List.mem_of_getElem? hi)
    have he : later ∈ l.values := mem_values_of_mem_seats (List.mem_of_getElem? hj)
    obtain rfl := hl earlier hd later he property hp other ho longhand hs hs'
    exact hba.not_ge (l.slot_le_of_meets hij hi hj (Declarations.meets_iff.2 ⟨property, hp, ho⟩))

theorem keepsLonghands_of_setsApart (hl : l.SetsApart L) : l.KeepsLonghands L :=
  hl.safeFor.keepsLonghands

/-- Merging keeps what sets each longhand in the end exactly when every member of a group sets it
last as the group does and no rule overtakes one that sets a longhand of it. -/
theorem keepsLonghands_iff (l : Layer) (L : Longhands) : l.KeepsLonghands L ↔ l.SafeFor L :=
  ⟨fun h ↦ h.safeFor, fun h ↦ h.keepsLonghands⟩

def marginSides : List String := ["margin-top", "margin-right", "margin-bottom", "margin-left"]

def margins : Longhands where
  sets property longhand :=
    if property = "margin" then marginSides.contains longhand else longhand == property
  nonempty property := by
    by_cases h : property = "margin"
    · exact ⟨"margin-left", by rw [if_pos h]; decide⟩
    · exact ⟨property, by rw [if_neg h]; simp⟩
  self property longhand h := by
    have hne : longhand ≠ "margin" := by
      rintro rfl
      split at h
      · exact absurd h (by decide)
      · next hp => exact hp (eq_of_beq h).symm
    rw [if_neg hne]
    simp

def marginWrites : List Write :=
  [⟨"@media (min-width: 720px)", "md", "a", [("margin-left", "1rem")]⟩,
    ⟨"@media (min-width: 720px)", "md", "b", [("margin", "2rem")]⟩,
    ⟨"@media (min-width: 720px)", "md", "c", [("margin-left", "1rem")]⟩]

/-- An element that `b` and `c` match gets the side of `c` apart, that of `b` merged. -/
theorem not_keepsLonghands_margin :
    ¬∀ (L : Longhands) (ws : List Write) (query breakpoint : String) (l : Layer),
      (Sheet.ofWrites ws).layer? query breakpoint = some l → l.KeepsLonghands L := by
  intro h
  have hl : (Sheet.ofWrites marginWrites).layer? "@media (min-width: 720px)" "md" =
      some (KeyedList.ofList [("a", KeyedList.ofList [("margin-left", "1rem")]),
        ("b", KeyedList.ofList [("margin", "2rem")]),
        ("c", KeyedList.ofList [("margin-left", "1rem")])]) := by decide
  have hm := h margins marginWrites _ _ _ hl (fun s ↦ s == "b" || s == "c") "margin-left"
  exact absurd hm (by decide)

end Layer

end LayoutSheet
