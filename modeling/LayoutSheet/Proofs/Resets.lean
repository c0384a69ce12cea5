import LayoutSheet.Proofs.Containers
import LayoutSheet.Proofs.History

namespace LayoutSheet

universe u

namespace KeyedList

variable {β : Type u}

def Precedes (m : KeyedList β) (k k' : String) : Prop := [k, k'].Sublist m.keys

theorem precedes_iff {m : KeyedList β} {above below : List String} {k k' : String}
    (h : m.keys = above ++ k :: below) : m.Precedes k k' ↔ k' ∈ below := by
  have hn := m.nodup_keys
  rw [h, List.nodup_middle, List.nodup_cons] at hn
  rw [Precedes, h]
  constructor
  · intro hs
    obtain ⟨l₁, l₂, he, h₁, h₂⟩ := List.sublist_append_iff.1 hs
    cases l₁ with
    | nil =>
      rw [List.nil_append] at he
      subst he
      cases h₂ with
      | cons _ hb => exact absurd (List.mem_append_right above (hb.subset List.mem_cons_self)) hn.1
      | cons_cons _ hb => exact List.singleton_sublist.1 hb
    | cons c l₁ =>
      obtain ⟨rfl, -⟩ := List.cons_eq_cons.1 he
      exact absurd (List.mem_append_left below (h₁.subset List.mem_cons_self)) hn.1
  · intro hb
    exact ((List.singleton_sublist.2 hb).cons_cons k).trans (List.sublist_append_right above _)

theorem precedes_pair_iff {m : KeyedList β} {above below : List String} {a b k : String}
    (h : m.keys = above ++ a :: b :: below) (hk : k ∈ m.keys) (ha : k ≠ a) (hb : k ≠ b) :
    m.Precedes a k ∧ m.Precedes b k ↔ k ∉ above := by
  have h' : m.keys = above ++ [a] ++ b :: below := by
    rw [h, List.append_assoc, List.singleton_append]
  have hn := m.nodup_keys
  rw [h, List.nodup_append] at hn
  rw [precedes_iff h, precedes_iff h']
  constructor
  · rintro ⟨-, hm⟩ habove
    exact hn.2.2 k habove k (List.mem_cons_of_mem a (List.mem_cons_of_mem b hm)) rfl
  · intro hn
    rw [h, List.mem_append, List.mem_cons, List.mem_cons] at hk
    have hm : k ∈ below := by tauto
    exact ⟨List.mem_cons_of_mem b hm, hm⟩

end KeyedList

namespace Selector

def familyOpening (element breakpoint : String) : String := element ++ "[" ++ breakpoint ++ "*=\""

def containerOpening (element breakpoint : String) : String :=
  element ++ "[" ++ breakpoint ++ "=\""

variable (element breakpoint : String)

theorem under_familyOpening (family rest : String) :
    under (familyOpening element breakpoint) (ofFamily element breakpoint family ++ rest) = true :=
  under_iff.2 ⟨family ++ "(\"]" ++ rest, by
    simp only [ofFamily, familyOpening, String.append_assoc]⟩

theorem under_containerOpening (family id rest : String) :
    under (containerOpening element breakpoint) (container element breakpoint family id ++ rest) =
      true :=
  under_iff.2 ⟨Variant.qualify family id ++ "\"]" ++ rest, by
    simp only [container, containerOpening, String.append_assoc]⟩

variable {element breakpoint}

theorem not_under_familyOpening {s : String}
    (h : under (containerOpening element breakpoint) s = true) :
    under (familyOpening element breakpoint) s = false := by
  rw [Bool.eq_false_iff]
  intro hf
  obtain ⟨t, rfl⟩ := under_iff.1 h
  obtain ⟨u, hu⟩ := under_iff.1 hf
  have hl := congrArg String.toList hu
  simp [containerOpening, familyOpening] at hl

theorem ofFamily_inj {family family' : String} :
    ofFamily element breakpoint family = ofFamily element breakpoint family' ↔
      family = family' := by
  refine ⟨fun h ↦ ?_, fun h ↦ h ▸ rfl⟩
  have hl := congrArg String.toList h
  rw [toList_ofFamily, toList_ofFamily] at hl
  simpa [String.toList_inj] using hl

theorem childrenOf_inj {base base' : String} :
    childrenOf base = childrenOf base' ↔ base = base' := by
  refine ⟨fun h ↦ ?_, fun h ↦ h ▸ rfl⟩
  have hl := congrArg String.toList h
  simpa [childrenOf, String.toList_inj] using hl

theorem childrenOf_ne_ofFamily (base family : String) :
    childrenOf base ≠ ofFamily element breakpoint family := by
  intro h
  have hl := congrArg (fun s ↦ s.toList.reverse.head?) h
  simp [childrenOf, toList_ofFamily] at hl

end Selector

namespace Placement

/-- The two resets of a family, for its containers and for their children. -/
def resetsOf (element query breakpoint family : String) : List Write :=
  [⟨query, breakpoint, Selector.ofFamily element breakpoint family, [("--_ga", "initial")]⟩,
    ⟨query, breakpoint, Selector.childrenOf (Selector.ofFamily element breakpoint family),
      [("--layout-ga", "auto")]⟩]

variable {element query breakpoint family : String}

theorem resets_eq (p : Placement) :
    p.resets element = resetsOf element p.query p.breakpoint p.family := rfl

theorem of_mem_resetsOf {r : Write} (hr : r ∈ resetsOf element query breakpoint family) :
    r.query = query ∧ r.breakpoint = breakpoint ∧
      ∃ rest, r.selector = Selector.ofFamily element breakpoint family ++ rest := by
  simp only [resetsOf, List.mem_cons, List.not_mem_nil, or_false] at hr
  obtain rfl | rfl := hr
  · exact ⟨rfl, rfl, "", by rw [String.append_empty]⟩
  · exact ⟨rfl, rfl, " > *", rfl⟩

theorem key_of_mem_resetsOf {r : Write} (hr : r ∈ resetsOf element query breakpoint family) :
    r.key = (query, breakpoint, r.selector) := by
  obtain ⟨hq, hb, -⟩ := of_mem_resetsOf hr
  exact Write.key_eq_iff.2 ⟨hq, hb, rfl⟩

theorem eq_of_key_eq {query' breakpoint' family' : String} {w r : Write}
    (hw : w ∈ resetsOf element query' breakpoint' family')
    (hr : r ∈ resetsOf element query breakpoint family) (h : w.key = r.key) :
    (query', breakpoint', family') = (query, breakpoint, family) := by
  obtain ⟨hq, hb, hs⟩ := Write.key_eq_iff.1 h
  rw [(of_mem_resetsOf hw).1, (of_mem_resetsOf hr).1] at hq
  rw [(of_mem_resetsOf hw).2.1, (of_mem_resetsOf hr).2.1] at hb
  subst hq hb
  simp only [resetsOf, List.mem_cons, List.not_mem_nil, or_false] at hw hr
  obtain rfl | rfl := hw <;> obtain rfl | rfl := hr
  · rw [Selector.ofFamily_inj.1 hs]
  · exact absurd hs.symm (Selector.childrenOf_ne_ofFamily _ _)
  · exact absurd hs (Selector.childrenOf_ne_ofFamily _ _)
  · rw [Selector.ofFamily_inj.1 (Selector.childrenOf_inj.1 hs)]

theorem filter_key_resets {r : Write} (hr : r ∈ resetsOf element query breakpoint family)
    (p : Placement) :
    (p.resets element).filter (fun w ↦ w.key = r.key) =
      if p.resetKey = (query, breakpoint, family) then [r] else [] := by
  rw [resets_eq]
  split
  · next hk =>
    obtain ⟨rfl, rfl, rfl⟩ : p.query = query ∧ p.breakpoint = breakpoint ∧ p.family = family := by
      simpa [resetKey] using hk
    have hstar (base f : String) :
        Selector.childrenOf base ≠ Selector.ofFamily element p.breakpoint f :=
      Selector.childrenOf_ne_ofFamily base f
    simp only [resetsOf, List.mem_cons, List.not_mem_nil, or_false] at hr ⊢
    obtain rfl | rfl := hr
    · simp [Write.key, hstar]
    · simp [Write.key, (hstar _ _).symm]
  · next hk =>
    refine List.filter_eq_nil_iff.2 fun w hw ↦ ?_
    rw [decide_eq_true_eq]
    intro he
    exact hk (eq_of_key_eq hw hr he)

theorem under_containerOpening_of_mem_ownWrites {p : Placement} {w : Write}
    (hw : w ∈ p.ownWrites element) :
    Selector.under (Selector.containerOpening element p.breakpoint) w.selector = true := by
  obtain ⟨rest, declarations, rfl⟩ := exists_of_mem_ownWrites hw
  exact Selector.under_containerOpening ..

theorem filter_key_ownWrites {r : Write} (hr : r ∈ resetsOf element query breakpoint family)
    (p : Placement) : (p.ownWrites element).filter (fun w ↦ w.key = r.key) = [] := by
  refine List.filter_eq_nil_iff.2 fun w hw ↦ ?_
  rw [decide_eq_true_eq]
  intro he
  obtain ⟨-, hb, hs⟩ := Write.key_eq_iff.1 he
  obtain ⟨-, hn, rest, hf⟩ := of_mem_resetsOf hr
  have hc := under_containerOpening_of_mem_ownWrites hw
  rw [(of_mem_ownWrites hw).2, hn] at hb
  rw [hb, hs] at hc
  have hu := Selector.not_under_familyOpening hc
  rw [hf, Selector.under_familyOpening] at hu
  cases hu

theorem filter_key_writes {r : Write} (hr : r ∈ resetsOf element query breakpoint family)
    (ps : List Placement) :
    (writes element ps).filter (fun w ↦ w.key = r.key) =
      if (query, breakpoint, family) ∈ ps.map resetKey then [r] else [] := by
  induction ps using List.reverseRecOn with
  | nil => rfl
  | append_singleton ps p ih =>
    rw [writes_concat, List.filter_append, List.filter_append, ih, filter_key_ownWrites hr,
      List.append_nil, List.map_append, List.map_singleton]
    by_cases hk : p.resetKey = (query, breakpoint, family)
    · by_cases hm : (query, breakpoint, family) ∈ ps.map resetKey
      · rw [hk, if_pos hm, if_pos hm, if_pos (List.mem_append_left _ hm)]
        rfl
      · rw [hk, if_neg hm, if_neg hm, filter_key_resets hr, if_pos hk, if_pos (by simp)]
        rfl
    · have hm : (query, breakpoint, family) ∈ ps.map resetKey ++ [p.resetKey] ↔
          (query, breakpoint, family) ∈ ps.map resetKey := by simp [Ne.symm hk]
      have hr : (if p.resetKey ∈ ps.map resetKey then [] else p.resets element).filter
          (fun w ↦ w.key = r.key) = [] := by
        split
        · rfl
        · rw [filter_key_resets hr, if_neg hk]
      simp only [hr, hm, List.append_nil]

theorem key_mem_writes_iff {r : Write} (hr : r ∈ resetsOf element query breakpoint family)
    {ps : List Placement} :
    r.key ∈ (writes element ps).map Write.key ↔ (query, breakpoint, family) ∈ ps.map resetKey := by
  have hf := filter_key_writes hr ps
  constructor
  · intro hm
    by_contra hn
    rw [if_neg hn, List.filter_eq_nil_iff] at hf
    obtain ⟨w, hw, he⟩ := List.mem_map.1 hm
    exact hf w hw (decide_eq_true he)
  · intro hm
    rw [if_pos hm] at hf
    have hw : r ∈ (writes element ps).filter fun w ↦ w.key = r.key := hf ▸ List.mem_singleton_self r
    exact List.mem_map_of_mem (List.mem_filter.1 hw).1

theorem get?_reset {r : Write} (hr : r ∈ resetsOf element query breakpoint family)
    {ps : List Placement} (hk : (query, breakpoint, family) ∈ ps.map resetKey) :
    (Sheet.ofWrites (writes element ps)).get? query breakpoint r.selector =
      some (KeyedList.ofList r.declarations) := by
  rw [Sheet.get?_ofWrites, ← key_of_mem_resetsOf hr, if_pos ((key_mem_writes_iff hr).2 hk),
    Sheet.written, filter_key_writes hr, if_pos hk, List.flatMap_singleton]

theorem mem_selectors_iff {ws : List Write} {s : String} :
    s ∈ (ws.filter fun w ↦ w.query = query ∧ w.breakpoint = breakpoint).map Write.selector ↔
      (query, breakpoint, s) ∈ ws.map Write.key := by
  simp only [List.mem_map, List.mem_filter, decide_eq_true_eq, Write.key_eq_iff, and_assoc]

/-- Where the first placement of a key comes, its resets stand behind all that the layer held
before, one right behind the other, and before all that comes later. -/
theorem exists_keys_layer {before : List Placement} {p : Placement}
    (hk : p.resetKey = (query, breakpoint, family))
    (hp : (query, breakpoint, family) ∉ before.map resetKey) (after : List Placement) {l : Layer}
    (hl : (Sheet.ofWrites (writes element (before ++ p :: after))).layer? query breakpoint =
      some l) :
    ∃ above below, l.keys = above ++ Selector.ofFamily element breakpoint family ::
        Selector.childrenOf (Selector.ofFamily element breakpoint family) :: below ∧
      ∀ s, s ∈ above ↔ (query, breakpoint, s) ∈ (writes element before).map Write.key := by
  obtain ⟨rfl, rfl, rfl⟩ : p.query = query ∧ p.breakpoint = breakpoint ∧ p.family = family := by
    simpa [resetKey] using hk
  obtain ⟨rest, hw⟩ := writes_of_first element hp after
  have hnew {r : Write} (hr : r ∈ p.resets element) :
      (p.query, p.breakpoint, r.selector) ∉ (writes element before).map Write.key := by
    rw [← key_of_mem_resetsOf hr, key_mem_writes_iff hr]
    exact hp
  have hr : (p.resets element).filter
      (fun w ↦ w.query = p.query ∧ w.breakpoint = p.breakpoint) = p.resets element :=
    List.filter_eq_self.2 fun w hw ↦ by simp [(of_mem_resetsOf hw).1, (of_mem_resetsOf hw).2.1]
  obtain ⟨below, hd⟩ := exists_eraseDups_append_pair
    (mt mem_selectors_iff.1 (hnew List.mem_cons_self))
    (mt mem_selectors_iff.1 (hnew (List.mem_cons_of_mem _ (List.mem_singleton_self _))))
    (Selector.childrenOf_ne_ofFamily _ _)
    ((rest.filter fun w ↦ w.query = p.query ∧ w.breakpoint = p.breakpoint).map Write.selector)
  refine ⟨_, below, ?_, fun s ↦ List.mem_eraseDups.trans mem_selectors_iff⟩
  rw [(Sheet.views_ofWrites _).selectors _ _ l hl, hw, List.filter_append, List.filter_append,
    List.map_append, List.map_append, hr]
  exact hd

/-- Coming after `before`, `p` brings the entry into the sheet. -/
def Creates (element : String) (before : List Placement) (p : Placement)
    (query breakpoint selector : String) : Prop :=
  (Sheet.ofWrites (writes element before)).get? query breakpoint selector = none ∧
    ((Sheet.ofWrites (writes element (before ++ [p]))).get? query breakpoint selector).isSome

theorem creates_iff {before : List Placement} {p : Placement} {selector : String} :
    Creates element before p query breakpoint selector ↔
      (query, breakpoint, selector) ∉ (writes element before).map Write.key ∧
        (query, breakpoint, selector) ∈ (writes element (before ++ [p])).map Write.key := by
  rw [Creates, Sheet.isSome_get?_iff, ← Option.not_isSome_iff_eq_none, Sheet.isSome_get?_iff]

theorem of_creates {before : List Placement} {p : Placement} {selector : String}
    (h : Creates element before p query breakpoint selector) :
    p.query = query ∧ p.breakpoint = breakpoint := by
  obtain ⟨hn, hm⟩ := creates_iff.1 h
  obtain ⟨w, hw, hk⟩ := List.mem_map.1 hm
  obtain ⟨rfl, rfl, rfl⟩ := Write.key_eq_iff.1 hk
  rw [writes_concat, List.mem_append, List.mem_append] at hw
  obtain hw | hw | hw := hw
  · exact absurd (List.mem_map_of_mem hw) hn
  · split at hw
    · cases hw
    · exact ⟨(of_mem_resetsOf hw).1.symm, (of_mem_resetsOf hw).2.1.symm⟩
  · exact ⟨(of_mem_ownWrites hw).1.symm, (of_mem_ownWrites hw).2.symm⟩

theorem keys_writes_subset (element : String) (before after : List Placement) :
    (writes element before).map Write.key ⊆ (writes element (before ++ after)).map Write.key := by
  obtain ⟨rest, hw⟩ := exists_writes_append element before after
  rw [hw, List.map_append]
  exact List.subset_append_left ..

theorem exists_first {κ : Type} {key : Placement → κ} {k : κ} {ps : List Placement}
    (hk : k ∈ ps.map key) :
    ∃ before p after, ps = before ++ p :: after ∧ key p = k ∧ k ∉ before.map key := by
  obtain ⟨ks, ks', he, hn⟩ := List.eq_append_cons_of_mem hk
  obtain ⟨before, rest, rfl, rfl, hr⟩ := List.map_eq_append_iff.1 he
  obtain ⟨p, after, rfl, hp, -⟩ := List.map_eq_cons_iff.1 hr
  exact ⟨before, p, after, rfl, hp, hn⟩

structure HoldsResets (element : String) (ps : List Placement) (query breakpoint family : String)
    (l : Layer) : Prop where
  once : ∀ r ∈ resetsOf element query breakpoint family,
    (writes element ps).filter (fun w ↦ w.key = r.key) = [r]
  adjacent : ∃ above below, l.keys = above ++ Selector.ofFamily element breakpoint family ::
    Selector.childrenOf (Selector.ofFamily element breakpoint family) :: below
  initial : l.get? (Selector.ofFamily element breakpoint family) =
    some (KeyedList.ofList [("--_ga", "initial")])
  auto : l.get? (Selector.childrenOf (Selector.ofFamily element breakpoint family)) =
    some (KeyedList.ofList [("--layout-ga", "auto")])
  /-- They stand before every other entry that a placement of the family brought. -/
  first : ∀ before p after s, ps = before ++ p :: after → p.family = family →
    Creates element before p query breakpoint s → s ≠ Selector.ofFamily element breakpoint family →
    s ≠ Selector.childrenOf (Selector.ofFamily element breakpoint family) →
    l.Precedes (Selector.ofFamily element breakpoint family) s ∧
      l.Precedes (Selector.childrenOf (Selector.ofFamily element breakpoint family)) s
  /-- All that begins as a reset does is one, and all else begins as a container does. -/
  others : ∀ s ∈ l.keys,
    (∃ q ∈ ps, q.query = query ∧ q.breakpoint = breakpoint ∧
      (s = Selector.ofFamily element breakpoint q.family ∨
        s = Selector.childrenOf (Selector.ofFamily element breakpoint q.family))) ∨
    Selector.under (Selector.containerOpening element breakpoint) s = true ∧
      Selector.under (Selector.familyOpening element breakpoint) s = false
  /-- From the first placement of the family on, neither is changed or moved. -/
  kept : ∀ before after, ps = before ++ after →
    (query, breakpoint, family) ∈ before.map resetKey →
    ∃ l₀, (Sheet.ofWrites (writes element before)).layer? query breakpoint = some l₀ ∧
      l₀.keys <+: l.keys ∧
      ∀ r ∈ resetsOf element query breakpoint family, l₀.get? r.selector = l.get? r.selector

theorem layer_others {ps : List Placement} {l : Layer}
    (hl : (Sheet.ofWrites (writes element ps)).layer? query breakpoint = some l) {s : String}
    (hs : s ∈ l.keys) :
    (∃ q ∈ ps, q.query = query ∧ q.breakpoint = breakpoint ∧
      (s = Selector.ofFamily element breakpoint q.family ∨
        s = Selector.childrenOf (Selector.ofFamily element breakpoint q.family))) ∨
    Selector.under (Selector.containerOpening element breakpoint) s = true ∧
      Selector.under (Selector.familyOpening element breakpoint) s = false := by
  obtain ⟨w, hw, hk⟩ := List.mem_map.1 ((Sheet.mem_keys_layer hl).1 hs)
  obtain ⟨rfl, rfl, rfl⟩ := Write.key_eq_iff.1 hk
  obtain ⟨q, hq, hw | hw⟩ := exists_of_mem_writesFrom hw
  · left
    refine ⟨q, hq, (of_mem_resetsOf hw).1.symm, (of_mem_resetsOf hw).2.1.symm, ?_⟩
    simp only [resets, List.mem_cons, List.not_mem_nil, or_false] at hw
    obtain rfl | rfl := hw
    · exact .inl rfl
    · exact .inr rfl
  · right
    have hu := under_containerOpening_of_mem_ownWrites hw
    rw [(of_mem_ownWrites hw).2]
    exact ⟨hu, Selector.not_under_familyOpening hu⟩

theorem exists_layer (element : String) {ps : List Placement}
    (hk : (query, breakpoint, family) ∈ ps.map resetKey) :
    ∃ l, (Sheet.ofWrites (writes element ps)).layer? query breakpoint = some l ∧
      ∀ r ∈ resetsOf element query breakpoint family,
        l.get? r.selector = some (KeyedList.ofList r.declarations) := by
  obtain ⟨l, hl, -⟩ := Option.bind_eq_some_iff.1
    (get?_reset (show _ ∈ resetsOf element query breakpoint family from List.mem_cons_self) hk)
  refine ⟨l, hl, ?_⟩
  intro r hr
  have hg := get?_reset hr hk
  rwa [Sheet.get?, hl, Option.bind_some] at hg

theorem precedes_of_creates {ps before after : List Placement} {p : Placement} {s : String}
    {l : Layer} (hl : (Sheet.ofWrites (writes element ps)).layer? query breakpoint = some l)
    (hps : ps = before ++ p :: after) (hf : p.family = family)
    (hc : Creates element before p query breakpoint s)
    (hne : s ≠ Selector.ofFamily element breakpoint family)
    (hne' : s ≠ Selector.childrenOf (Selector.ofFamily element breakpoint family)) :
    l.Precedes (Selector.ofFamily element breakpoint family) s ∧
      l.Precedes (Selector.childrenOf (Selector.ofFamily element breakpoint family)) s := by
  obtain ⟨rfl, rfl⟩ := of_creates hc
  obtain ⟨hn, hm⟩ := creates_iff.1 hc
  subst hf
  -- The first placement of the key stands at `p` or before it.
  have hk : p.resetKey ∈ (before ++ [p]).map resetKey := by simp
  obtain ⟨ps₀, p₀, ps₁, he, hp₀, hn₀⟩ := exists_first hk
  have hsplit : ps = ps₀ ++ p₀ :: (ps₁ ++ after) := by
    rw [hps, ← List.singleton_append, ← List.append_assoc, he, List.append_assoc, List.cons_append]
  have hpre : ps₀ <+: before := by
    have hlen : ps₀.length ≤ before.length := by
      have hl := congrArg List.length he
      simp only [List.length_append, List.length_cons, List.length_nil] at hl
      omega
    have hp : ps₀ <+: before ++ [p] := he ▸ List.prefix_append ps₀ (p₀ :: ps₁)
    exact List.prefix_of_prefix_length_le hp (List.prefix_append before [p]) hlen
  rw [hsplit] at hl
  obtain ⟨above, below, hkeys, habove⟩ := exists_keys_layer hp₀ hn₀ _ hl
  have hs : s ∉ above := by
    intro ha
    obtain ⟨rest, rfl⟩ := hpre
    exact hn (keys_writes_subset element ps₀ rest ((habove s).1 ha))
  have hmem : s ∈ l.keys := by
    rw [Sheet.mem_keys_layer hl, ← hsplit, hps, ← List.singleton_append, ← List.append_assoc]
    exact keys_writes_subset element _ after hm
  exact (KeyedList.precedes_pair_iff hkeys hmem hne hne').2 hs

/-- For each query, breakpoint and family among placements in any order, the resets are written
once, stand before all that the family brings, and keep what they hold. -/
theorem exists_layer_holdsResets (element : String) (ps : List Placement)
    (query breakpoint family : String) (hk : (query, breakpoint, family) ∈ ps.map resetKey) :
    ∃ l, (Sheet.ofWrites (writes element ps)).layer? query breakpoint = some l ∧
      HoldsResets element ps query breakpoint family l := by
  obtain ⟨l, hl, hr⟩ := exists_layer element hk
  refine ⟨l, hl, ?_⟩
  refine
    { once := ?_, adjacent := ?_, initial := ?_, auto := ?_, first := ?_, others := ?_, kept := ?_ }
  · intro r hr
    rw [filter_key_writes hr, if_pos hk]
  · obtain ⟨before, p, after, rfl, hp, hn⟩ := exists_first hk
    obtain ⟨above, below, hkeys, -⟩ := exists_keys_layer hp hn after hl
    exact ⟨above, below, hkeys⟩
  · exact hr _ List.mem_cons_self
  · exact hr _ (List.mem_cons_of_mem _ List.mem_cons_self)
  · intro before p after s hps hf hc hne hne'
    exact precedes_of_creates hl hps hf hc hne hne'
  · intro s hs
    exact layer_others hl hs
  · rintro before after rfl hb
    obtain ⟨l₀, hl₀, hr₀⟩ := exists_layer element hb
    obtain ⟨rest, hw⟩ := exists_writes_append element before after
    obtain ⟨l', hl', hpre⟩ := (Sheet.extends_ofWrites _ rest).layer? hl₀
    rw [← hw, hl] at hl'
    refine ⟨l₀, hl₀, Option.some.inj hl' ▸ hpre, ?_⟩
    intro r hm
    rw [hr₀ r hm, hr r hm]

def spellingRule : ScopedRule where
  selector := "lay-out[md*=\"grid(\"]"
  properties := KeyedList.ofList [("--_ga", .text "none")]

def spellers : List Placement :=
  [⟨"subgrid", "1", "md", "@media (min-width: 720px)",
      { id := "subgrid(1)", rules := [spellingRule] }⟩,
    ⟨"grid", "1", "md", "@media (min-width: 720px)", { id := "grid(1)", rules := [spellingRule] }⟩,
    ⟨"grid", "2", "md", "@media (min-width: 720px)", { id := "grid(2)", columns := "1fr" }⟩]

theorem exists_layer_holdsResets_spellers :
    ("@media (min-width: 720px)", "md", "grid") ∈ spellers.map resetKey ∧
    ∃ l, (Sheet.ofWrites (writes "lay-out" spellers)).layer? "@media (min-width: 720px)" "md" =
        some l ∧
      HoldsResets "lay-out" spellers "@media (min-width: 720px)" "md" "grid" l := by
  have hk : ("@media (min-width: 720px)", "md", "grid") ∈ spellers.map resetKey := by decide
  exact ⟨hk, exists_layer_holdsResets "lay-out" spellers _ _ _ hk⟩

end Placement

end LayoutSheet
