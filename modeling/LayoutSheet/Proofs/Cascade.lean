import LayoutSheet.Proofs.Grouping
import Mathlib.Data.Bool.Basic
import Mathlib.Data.List.MinMax
import Mathlib.Data.Prod.Lex

namespace LayoutSheet

structure Cascade (σ : Type) where
  matched : String → Bool
  specificity : String → σ
  important : String → Bool

namespace Cascade

variable {σ : Type}

structure Contender (σ : Type) where
  important : Bool
  specificity : σ
  position : Nat
  value : String

def Contender.rank (a : Contender σ) : Bool ×ₗ σ ×ₗ Nat :=
  toLex (a.important, toLex (a.specificity, a.position))

def contender (c : Cascade σ) (position : Nat) (selector value : String) : Contender σ :=
  ⟨c.important value, c.specificity selector, position, value⟩

/-- The declarations of a property by matching selectors, those printed first in front. -/
def contenders (c : Cascade σ) (property : String) (groups : List Group) : List (Contender σ) :=
  groups.zipIdx.flatMap fun (g, position) ↦
    match g.declarations.get? property with
    | none => []
    | some value =>
      (g.selectors.filter c.matched).map fun selector ↦ c.contender position selector value

theorem mem_contenders {c : Cascade σ} {property : String} {groups : List Group}
    {a : Contender σ} :
    a ∈ c.contenders property groups ↔ ∃ position g selector value,
      groups[position]? = some g ∧ selector ∈ g.selectors ∧ c.matched selector = true ∧
      g.declarations.get? property = some value ∧ a = c.contender position selector value := by
  simp only [contenders, List.mem_flatMap, List.mem_zipIdx_iff_getElem?]
  constructor
  · rintro ⟨⟨g, position⟩, hg, ha⟩
    dsimp only at hg ha
    split at ha
    · simp at ha
    · next value hv =>
      obtain ⟨selector, hs, rfl⟩ := List.mem_map.1 ha
      obtain ⟨hs, hm⟩ := List.mem_filter.1 hs
      exact ⟨position, g, selector, value, hg, hs, hm, hv, rfl⟩
  · rintro ⟨position, g, selector, value, hg, hs, hm, hv, rfl⟩
    refine ⟨(g, position), hg, ?_⟩
    simp only [hv]
    exact List.mem_map_of_mem (List.mem_filter.2 ⟨hs, hm⟩)

theorem value_eq_of_position_eq {c : Cascade σ} {property : String} {groups : List Group}
    {a b : Contender σ} (ha : a ∈ c.contenders property groups)
    (hb : b ∈ c.contenders property groups) (h : a.position = b.position) :
    a.value = b.value := by
  obtain ⟨i, g, s, v, hg, -, -, hv, rfl⟩ := mem_contenders.1 ha
  obtain ⟨j, g', s', v', hg', -, -, hv', rfl⟩ := mem_contenders.1 hb
  obtain rfl : i = j := h
  obtain rfl : g = g' := Option.some.inj (hg.symm.trans hg')
  exact Option.some.inj (hv.symm.trans hv')

theorem mem_contenders_separate {c : Cascade σ} {property : String} {l : Layer}
    {a : Contender σ} :
    a ∈ c.contenders property l.separate ↔ ∃ (i : Nat) (selector : String) (slot : Nat)
      (d : Declarations) (value : String),
      l.seats[i]? = some (selector, slot, d) ∧ c.matched selector = true ∧
      d.get? property = some value ∧ a = c.contender i selector value := by
  simp only [mem_contenders, Layer.separate, List.getElem?_map, Option.map_eq_some_iff]
  constructor
  · rintro ⟨i, _, selector, value, ⟨⟨selector', d⟩, hi, rfl⟩, hs, hm, hv, rfl⟩
    obtain rfl := List.mem_singleton.1 hs
    obtain ⟨slot, hi⟩ := l.getElem?_seats_iff.1 hi
    exact ⟨i, selector, slot, d, value, hi, hm, hv, rfl⟩
  · rintro ⟨i, selector, slot, d, value, hi, hm, hv, rfl⟩
    exact ⟨i, _, selector, value, ⟨_, l.getElem?_seats_iff.2 ⟨slot, hi⟩, rfl⟩,
      List.mem_singleton_self _, hm, hv, rfl⟩

theorem mem_contenders_merged {c : Cascade σ} {property : String} {l : Layer}
    {a : Contender σ} :
    a ∈ c.contenders property l.merged ↔ ∃ (i : Nat) (selector : String) (slot : Nat)
      (d : Declarations) (value : String),
      l.seats[i]? = some (selector, slot, d) ∧ c.matched selector = true ∧
      d.get? property = some value ∧ a = c.contender slot selector value := by
  rw [mem_contenders]
  constructor
  · rintro ⟨slot, g, selector, value, hg, hs, hm, hv, rfl⟩
    obtain ⟨d, hd⟩ := l.exists_seat_of_mem_selectors hg hs
    obtain ⟨i, hi⟩ := List.mem_iff_getElem?.1 hd
    obtain ⟨g', hg', -, he⟩ := l.exists_group_of_mem_seats hd
    obtain rfl : g = g' := Option.some.inj (hg.symm.trans hg')
    exact ⟨i, selector, slot, d, value, hi, hm, (he property).symm.trans hv, rfl⟩
  · rintro ⟨i, selector, slot, d, value, hi, hm, hv, rfl⟩
    obtain ⟨g, hg, hs, he⟩ := l.exists_group_of_mem_seats (List.mem_of_getElem? hi)
    exact ⟨slot, g, selector, value, hg, hs, hm, (he property).trans hv, rfl⟩

variable [LinearOrder σ]

def winner? (c : Cascade σ) (property : String) (groups : List Group) : Option String :=
  ((c.contenders property groups).argmax Contender.rank).map Contender.value

theorem winner?_eq_none_iff {c : Cascade σ} {property : String} {groups : List Group} :
    c.winner? property groups = none ↔ c.contenders property groups = [] := by
  rw [winner?, Option.map_eq_none_iff, List.argmax_eq_none]

theorem winner?_eq_some_iff {c : Cascade σ} {property value : String} {groups : List Group} :
    c.winner? property groups = some value ↔
      ∃ a ∈ c.contenders property groups, a.value = value ∧
        ∀ b ∈ c.contenders property groups, b.rank ≤ a.rank := by
  rw [winner?, Option.map_eq_some_iff]
  constructor
  · rintro ⟨a, ha, hv⟩
    exact ⟨a, List.argmax_mem ha, hv, fun b hb ↦ List.le_of_mem_argmax hb ha⟩
  · rintro ⟨a, ha, rfl, hle⟩
    obtain ⟨b, hb⟩ : ∃ b, (c.contenders property groups).argmax Contender.rank = some b :=
      Option.ne_none_iff_exists'.1 fun h ↦ by simp [List.argmax_eq_none.1 h] at ha
    have he : b.rank = a.rank :=
      le_antisymm (hle b (List.argmax_mem hb)) (List.le_of_mem_argmax ha hb)
    have hp : b.position = a.position := congrArg (fun r ↦ (ofLex (ofLex r).2).2) he
    exact ⟨b, hb, value_eq_of_position_eq (List.argmax_mem hb) ha hp⟩

theorem rank_contender_le {c : Cascade σ} {i i' j j' : Nat} {s t v w : String}
    (h : (c.contender i s v).rank ≤ (c.contender j t w).rank) (hp : i ≤ j → i' ≤ j') :
    (c.contender i' s v).rank ≤ (c.contender j' t w).rank := by
  simp only [contender, Contender.rank, Prod.Lex.toLex_le_toLex] at h ⊢
  exact h.imp_right fun ⟨hi, h⟩ ↦ ⟨hi, h.imp_right fun ⟨hs, h⟩ ↦ ⟨hs, hp h⟩⟩

theorem winner?_merged_of_separate {c : Cascade σ} {property value : String} {l : Layer}
    (h : c.winner? property l.separate = some value) :
    c.winner? property l.merged = some value := by
  obtain ⟨_, ha, hw, hle⟩ := winner?_eq_some_iff.1 h
  obtain ⟨i, s, slot, d, v, hi, hm, hv, rfl⟩ := mem_contenders_separate.1 ha
  refine winner?_eq_some_iff.2
    ⟨_, mem_contenders_merged.2 ⟨i, s, slot, d, v, hi, hm, hv, rfl⟩, hw, fun b hb ↦ ?_⟩
  obtain ⟨j, s', slot', d', v', hj, hm', hv', rfl⟩ := mem_contenders_merged.1 hb
  refine rank_contender_le
    (hle _ (mem_contenders_separate.2 ⟨j, s', slot', d', v', hj, hm', hv', rfl⟩)) fun hji ↦ ?_
  -- Both rules declare the property, so the one read first sits in no later group.
  have hmeet : d'.meets d = true := Declarations.meets_iff.2
    ⟨property, KeyedList.mem_keys.2 ⟨v', KeyedList.get?_eq_some_iff.1 hv'⟩,
      KeyedList.mem_keys.2 ⟨v, KeyedList.get?_eq_some_iff.1 hv⟩⟩
  obtain hlt | rfl := hji.lt_or_eq
  · exact l.slot_le_of_meets hlt hj hi hmeet
  · obtain ⟨-, rfl, -⟩ : s' = s ∧ slot' = slot ∧ d' = d := by simpa [hi] using hj.symm
    exact le_rfl

/-- Merging the rules of a layer changes no outcome of the cascade: whatever selectors match,
however specific they are and whatever is important, each property has the same winner. -/
theorem winner?_merged (c : Cascade σ) (property : String) (l : Layer) :
    c.winner? property l.merged = c.winner? property l.separate := by
  cases h : c.winner? property l.separate with
  | some value => exact winner?_merged_of_separate h
  | none =>
    have hn := winner?_eq_none_iff.1 h
    rw [winner?_eq_none_iff, List.eq_nil_iff_forall_not_mem]
    intro a ha
    obtain ⟨i, s, slot, d, v, hi, hm, hv, -⟩ := mem_contenders_merged.1 ha
    have := mem_contenders_separate.2 ⟨i, s, slot, d, v, hi, hm, hv, rfl⟩
    rw [hn] at this
    exact List.not_mem_nil this

end Cascade

end LayoutSheet
