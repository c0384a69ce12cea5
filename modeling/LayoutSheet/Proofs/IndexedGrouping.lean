import LayoutSheet.Sheet.IndexedGrouping
import LayoutSheet.Proofs.Partition
import Mathlib.Data.String.Basic

namespace LayoutSheet

namespace Declarations

variable {a b : Declarations}

theorem pairwise_sorted (d : Declarations) :
    d.sorted.Pairwise fun a b ↦ a.1 < b.1 ∨ a.1 = b.1 ∧ a.2 ≤ b.2 := by
  refine List.Pairwise.imp of_decide_eq_true (List.pairwise_mergeSort ?_ ?_ d.toList)
  · intro a b c hab hbc
    simp only [decide_eq_true_eq] at hab hbc ⊢
    rcases hab with hab | ⟨hab, hab'⟩
    · rcases hbc with hbc | ⟨hbc, -⟩
      · exact .inl (hab.trans hbc)
      · exact .inl (hbc ▸ hab)
    · rcases hbc with hbc | ⟨hbc, hbc'⟩
      · exact .inl (hab ▸ hbc)
      · exact .inr ⟨hab.trans hbc, hab'.trans hbc'⟩
  · intro a b
    simp only [Bool.or_eq_true, decide_eq_true_eq]
    rcases lt_trichotomy a.1 b.1 with h | h | h
    · exact .inl (.inl h)
    · rcases le_total a.2 b.2 with h' | h'
      · exact .inl (.inr ⟨h, h'⟩)
      · exact .inr (.inr ⟨h.symm, h'⟩)
    · exact .inr (.inl h)

theorem nodup_toList (d : Declarations) : d.toList.Nodup := d.nodup.of_map

theorem perm_toList_iff :
    a.toList.Perm b.toList ↔ ∀ property, a.get? property = b.get? property := by
  constructor
  · intro h property
    refine Option.ext fun value ↦ ?_
    rw [KeyedList.get?_eq_some_iff, KeyedList.get?_eq_some_iff, h.mem_iff]
  · intro h
    refine (List.perm_ext_iff_of_nodup a.nodup_toList b.nodup_toList).2 fun e ↦ ?_
    rw [← KeyedList.get?_eq_some_iff, ← KeyedList.get?_eq_some_iff, h]

theorem sorted_eq_iff : a.sorted = b.sorted ↔ a.sameAs b = true := by
  have hp (d : Declarations) : d.sorted.Perm d.toList := List.mergeSort_perm _ _
  rw [sameAs_iff, ← perm_toList_iff]
  constructor
  · intro h
    exact (hp a).symm.trans (h ▸ hp b)
  · intro hab
    refine List.Perm.eq_of_pairwise ?_ a.pairwise_sorted b.pairwise_sorted
      ((hp a).trans (hab.trans (hp b).symm))
    rintro ⟨p, v⟩ ⟨q, w⟩ - - hpq hqp
    rcases hpq with hpq | ⟨rfl, hvw⟩
    · rcases hqp with hqp | ⟨rfl, -⟩
      · exact absurd hpq hqp.not_gt
      · exact absurd hpq (lt_irrefl _)
    · rcases hqp with hqp | ⟨-, hwv⟩
      · exact absurd hqp (lt_irrefl _)
      · exact congrArg (Prod.mk p) (hvw.antisymm hwv)

end Declarations

namespace Group

theorem newest?_eq (groups : List (Nat × Group)) (d : Declarations) :
    newest? groups d =
      (((groups.map fun e ↦ e.2.declarations).zipIdx.reverse.find? fun e ↦ e.1.sameAs d).map
        Prod.snd) := by
  rw [newest?, List.zipIdx_map, ← List.map_reverse, List.find?_map, Option.map_map]
  rfl

namespace Indexed

variable {rules before : List (String × Declarations)} {x : Indexed} {p : Progress}

structure Follows (x : Indexed) (p : Progress) : Prop where
  groups : x.groups = p.groups.map Prod.snd
  starts : x.starts = p.groups.map Prod.fst
  assigned : x.assigned = p.placed.map Prod.fst
  newest : ∀ d, x.newest.lookup d.sorted = newest? p.groups d

namespace Follows

theorem empty : Follows {} {} where
  groups := rfl
  starts := rfl
  assigned := rfl
  newest _ := rfl

theorem reaches_at (h : x.Follows p) (hp : p.Sound before) {rest : List (String × Declarations)}
    (hr : rules = before ++ rest) {j : Nat} {e : Nat × Declarations} (he : p.placed[j]? = some e) :
    ∃ selector, x.assigned[j]? = some e.1 ∧ rules[j]? = some (selector, e.2) := by
  have hd : before[j]?.map Prod.snd = some e.2 := by
    rw [← List.getElem?_map, ← hp.declarations, List.getElem?_map, he, Option.map_some]
  obtain ⟨⟨selector, d⟩, hb, rfl⟩ := Option.map_eq_some_iff.1 hd
  refine ⟨selector, ?_, ?_⟩
  · rw [h.assigned, List.getElem?_map, he, Option.map_some]
  · rw [hr, List.getElem?_append_left (List.getElem?_eq_some_iff.1 hb).1, hb]

theorem reaches_eq (h : x.Follows p) (hp : p.Sound before) {rest : List (String × Declarations)}
    (hr : rules = before ++ rest) (slot : Nat) (d : Declarations) :
    x.reaches rules before.length slot d = p.reaches slot d := by
  have hl : before.length = p.placed.length := by
    simpa using (congrArg List.length hp.declarations).symm
  rw [reaches, Progress.reaches, h.starts, List.getElem?_map]
  cases p.groups[slot]? with
  | none => rfl
  | some e =>
    -- One goes through the places between, the other through what was placed there.
    rw [Option.map_some, Bool.eq_iff_iff]
    simp only [List.all_eq_true, List.mem_range'_1]
    constructor
    · intro ha e he
      obtain ⟨k, hk⟩ := List.mem_iff_getElem?.1 he
      rw [List.getElem?_drop] at hk
      have hlt := (List.getElem?_eq_some_iff.1 hk).1
      obtain ⟨selector, hx, hs⟩ := h.reaches_at hp hr hk
      have hj := ha _ ⟨Nat.le_add_right _ k, by omega⟩
      rw [hx, hs] at hj
      exact hj
    · intro ha j hj
      have hlt : j < p.placed.length := by omega
      have hk := List.getElem?_eq_getElem hlt
      obtain ⟨selector, hx, hs⟩ := h.reaches_at hp hr hk
      rw [hx, hs]
      refine ha p.placed[j] (List.mem_iff_getElem?.2 ⟨j - (e.1 + 1), ?_⟩)
      rw [List.getElem?_drop, Nat.add_sub_cancel' hj.1, hk]

theorem join?_eq (h : x.Follows p) (hp : p.Sound before) {rest : List (String × Declarations)}
    (hr : rules = before ++ rest) (d : Declarations) :
    x.join? rules before.length d = p.join? d := by
  rw [join?, Progress.join?, h.newest]
  exact congrArg (Option.filter · _) (funext fun slot ↦ h.reaches_eq hp hr slot d)

theorem joins (h : x.Follows p) (join : Group → Group)
    (hj : ∀ g, (join g).declarations = g.declarations) (slot : Nat) (d : Declarations) :
    Follows
      { x with
        groups := x.groups.modify slot join
        assigned := x.assigned ++ [slot] }
      { groups := p.groups.modify slot fun e ↦ (e.1, join e.2)
        placed := p.placed ++ [(slot, d)] } where
  groups := by
    rw [h.groups]
    exact (map_modify Prod.snd _ join (fun _ ↦ rfl) p.groups slot).symm
  starts := by
    rw [h.starts]
    exact (map_modify_of_eq Prod.fst (fun e ↦ (e.1, join e.2)) (fun _ ↦ rfl) p.groups slot).symm
  assigned := by
    rw [h.assigned, List.map_append]
    rfl
  newest d := by
    rw [h.newest, newest?_eq, newest?_eq,
      map_modify_of_eq (fun e : Nat × Group ↦ e.2.declarations) _ (fun e ↦ hj e.2)]

theorem opens (h : x.Follows p) (rule : String × Declarations) {i : Nat}
    (hi : i = p.placed.length) :
    Follows
      { groups := x.groups ++ [⟨[rule.1], rule.2⟩]
        starts := x.starts ++ [i]
        assigned := x.assigned ++ [x.groups.length]
        newest := (rule.2.sorted, x.groups.length) :: x.newest }
      { groups := p.groups ++ [(p.placed.length, ⟨[rule.1], rule.2⟩)]
        placed := p.placed ++ [(p.groups.length, rule.2)] } where
  groups := by
    rw [h.groups, List.map_append]
    rfl
  starts := by
    rw [h.starts, List.map_append, hi]
    rfl
  assigned := by
    rw [h.assigned, h.groups, List.map_append, List.length_map]
    rfl
  newest d := by
    -- The new entry hides the older one of the same values, as the new group is the newer one.
    rw [List.lookup_cons, newest?_concat, h.newest, h.groups, List.length_map]
    by_cases hs : rule.2.sameAs d = true
    · have hd : d.sorted = rule.2.sorted := (Declarations.sorted_eq_iff.2 hs).symm
      simp [hs, hd]
    · have hd : d.sorted ≠ rule.2.sorted := fun he ↦ hs (Declarations.sorted_eq_iff.1 he.symm)
      rw [if_neg hs, beq_eq_false_iff_ne.2 hd]

theorem step (h : x.Follows p) (hp : p.Sound before) {rule : String × Declarations}
    {rest : List (String × Declarations)} (hr : rules = before ++ rule :: rest) :
    (x.step rules (rule, before.length)).Follows (p.step rule) := by
  have hl : before.length = p.placed.length := by
    simpa using (congrArg List.length hp.declarations).symm
  rw [Indexed.step, Progress.step, h.join?_eq hp hr]
  cases p.join? rule.2 with
  | some slot =>
    exact h.joins (fun g ↦ { g with selectors := g.selectors ++ [rule.1] }) (fun _ ↦ rfl) slot
      rule.2
  | none => exact h.opens rule hl

theorem foldl (h : x.Follows p) (hp : p.Sound before) {rest more : List (String × Declarations)}
    (hr : rules = before ++ (rest ++ more)) :
    ((rest.zipIdx before.length).foldl (Indexed.step rules) x).Follows
      (rest.foldl Progress.step p) := by
  induction rest generalizing x p before with
  | nil => exact h
  | cons rule rest ih =>
    have hb : rules = (before ++ [rule]) ++ (rest ++ more) := by
      rw [hr, List.append_assoc]
      rfl
    have hn := ih (h.step hp hr) (hp.step rule) hb
    rwa [List.length_append, List.length_singleton] at hn

end Follows

def Admits (rules : List (String × Declarations)) (x : Indexed) (i slot : Nat)
    (d : Declarations) : Prop :=
  (∃ g, x.groups[slot]? = some g ∧
    ∀ property, g.declarations.get? property = d.get? property) ∧
  x.reaches rules i slot d = true

theorem Follows.admits_iff (h : x.Follows p) (hp : p.Sound before)
    {rest : List (String × Declarations)} (hr : rules = before ++ rest) (slot : Nat)
    (d : Declarations) : x.Admits rules before.length slot d ↔ p.Admits slot d := by
  rw [Admits, Progress.Admits, h.reaches_eq hp hr, h.groups, List.getElem?_map]
  refine and_congr_left fun _ ↦ ?_
  constructor
  · rintro ⟨_, hg, hs⟩
    obtain ⟨⟨start, g⟩, hp, rfl⟩ := Option.map_eq_some_iff.1 hg
    exact ⟨start, g, hp, Declarations.sameAs_iff.2 hs⟩
  · rintro ⟨start, g, hg, hs⟩
    exact ⟨g, Option.map_eq_some_iff.2 ⟨_, hg, rfl⟩, Declarations.sameAs_iff.1 hs⟩

end Indexed

end Group

namespace Layer

variable {l : Layer}

theorem sound_progressAt (l : Layer) (i : Nat) : (l.progressAt i).Sound (l.toList.take i) :=
  Group.Progress.Sound.empty.foldl (l.toList.take i)

theorem follows_indexedAt (l : Layer) (i : Nat) : (l.indexedAt i).Follows (l.progressAt i) :=
  Group.Indexed.Follows.empty.foldl .empty (List.take_append_drop i l.toList).symm

/-- Grouping with the index merges as without it. -/
theorem grouped_eq_merged (l : Layer) : l.grouped = l.merged :=
  (Group.Indexed.Follows.empty.foldl .empty (List.append_nil l.toList).symm).groups

theorem join?_indexedAt {i slot : Nat} {selector : String} {d : Declarations}
    (hi : l.toList[i]? = some (selector, d)) (h : (l.indexedAt i).Admits l.toList i slot d) :
    (l.indexedAt i).join? l.toList i d = some slot := by
  have hl : (l.toList.take i).length = i :=
    List.length_take_of_le (List.getElem?_eq_some_iff.1 hi).1.le
  have hr := (List.take_append_drop i l.toList).symm
  have ha := (l.follows_indexedAt i).admits_iff (l.sound_progressAt i) hr slot d
  have hj := (l.follows_indexedAt i).join?_eq (l.sound_progressAt i) hr d
  rw [hl] at ha hj
  exact hj.trans (join?_progressAt (ha.1 h))

/-- The groups of a layer share out its selectors in order, and no two of them could have been one.
The index forgets all but the newest group of the same values, and yet a group that a rule could
join is the one that it joins. -/
theorem grouped_partitions (l : Layer) :
    l.Partitions l.grouped ∧ l.grouped = l.merged ∧
    ∀ i slot selector d, l.toList[i]? = some (selector, d) →
      (l.indexedAt i).Admits l.toList i slot d →
      (l.indexedAt i).join? l.toList i d = some slot := by
  refine ⟨?_, l.grouped_eq_merged, ?_⟩
  · rw [l.grouped_eq_merged]
    exact l.partitions_merged
  · intro i slot selector d hi h
    exact join?_indexedAt hi h

/-- The second rule keeps the third from the group of the first. -/
def reopened : Layer :=
  KeyedList.ofList [("a", KeyedList.ofList [("order", "1")]),
    ("b", KeyedList.ofList [("order", "2")]), ("c", KeyedList.ofList [("order", "1")]),
    ("d", KeyedList.ofList [("order", "1")])]

theorem admits_reopened :
    (reopened.indexedAt 3).Admits reopened.toList 3 2 (KeyedList.ofList [("order", "1")]) := by
  have h := (reopened.follows_indexedAt 3).admits_iff (reopened.sound_progressAt 3)
    (List.take_append_drop 3 reopened.toList).symm 2 (KeyedList.ofList [("order", "1")])
  exact h.2 ⟨⟨2, ⟨["c"], KeyedList.ofList [("order", "1")]⟩, by decide, by decide⟩, by decide⟩

theorem reopened_partitions :
    reopened.Partitions reopened.grouped ∧
    reopened.toList[3]? = some ("d", KeyedList.ofList [("order", "1")]) ∧
    (reopened.indexedAt 3).Admits reopened.toList 3 2 (KeyedList.ofList [("order", "1")]) ∧
    (reopened.indexedAt 3).join? reopened.toList 3 (KeyedList.ofList [("order", "1")]) =
      some 2 := by
  have h := grouped_partitions reopened
  have hi : reopened.toList[3]? = some ("d", KeyedList.ofList [("order", "1")]) := by decide
  exact ⟨h.1, hi, admits_reopened, h.2.2 3 2 "d" _ hi admits_reopened⟩

end Layer

end LayoutSheet
