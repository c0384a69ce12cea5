import LayoutSheet.Proofs.Gathering

namespace LayoutSheet

universe u

namespace KeyedList

variable {β : Type u} {r : β → β → Prop}

/-- Every key of `m` stands in `n` at the same place, its value related to the old one by `r`, and
what is new stands behind. -/
def Extends (r : β → β → Prop) (m n : KeyedList β) : Prop :=
  m.keys <+: n.keys ∧ ∀ k v, m.get? k = some v → ∃ v', n.get? k = some v' ∧ r v v'

theorem Extends.refl (hr : ∀ v, r v v) (m : KeyedList β) : m.Extends r m :=
  ⟨List.prefix_rfl, fun _ v h ↦ ⟨v, h, hr v⟩⟩

theorem Extends.trans (hr : ∀ {u v w}, r u v → r v w → r u w) {m n o : KeyedList β}
    (h : m.Extends r n) (h' : n.Extends r o) : m.Extends r o := by
  refine ⟨h.1.trans h'.1, ?_⟩
  intro k u hu
  obtain ⟨v, hv, huv⟩ := h.2 k u hu
  obtain ⟨w, hw, hvw⟩ := h'.2 k v hv
  exact ⟨w, hw, hr huv hvw⟩

theorem extends_upsert (hr : ∀ v, r v v) (m : KeyedList β) (k : String) (init : β) {f : β → β}
    (hf : ∀ v, r v (f v)) : m.Extends r (m.upsert k init f) := by
  constructor
  · rw [keys_upsert]
    split
    · exact List.prefix_rfl
    · exact List.prefix_append m.keys [k]
  · intro x v hv
    rw [get?_upsert]
    by_cases hx : x = k
    · subst hx
      rw [if_pos rfl, hv]
      exact ⟨f v, rfl, hf v⟩
    · rw [if_neg hx]
      exact ⟨v, hv, hr v⟩

theorem extends_insertAll (m : KeyedList β) (l : List (String × β)) :
    m.Extends (fun _ _ ↦ True) (m.insertAll l) := by
  induction l generalizing m with
  | nil => exact .refl (fun _ ↦ trivial) m
  | cons e l ih =>
    have hs : m.Extends (fun _ _ ↦ True) (m.insert e.1 e.2) :=
      extends_upsert (fun _ ↦ trivial) m e.1 e.2 fun _ ↦ trivial
    exact hs.trans (fun _ _ ↦ trivial) (ih (m.insert e.1 e.2))

theorem keys_ofList (l : List (String × β)) : (ofList l).keys = (l.map Prod.fst).eraseDups := by
  induction l using List.reverseRecOn with
  | nil => rfl
  | append_singleton l e ih =>
    rw [ofList_concat, insert, keys_upsert, ih, List.map_append, List.map_singleton,
      eraseDups_concat]
    simp only [List.mem_eraseDups]

theorem get?_ofList (l : List (String × β)) (k : String) :
    (ofList l).get? k = (l.filter fun e ↦ e.1 = k).getLast?.map Prod.snd := by
  induction l using List.reverseRecOn with
  | nil => rfl
  | append_singleton l e ih =>
    rw [ofList_concat, get?_insert, List.filter_append]
    by_cases h : k = e.1
    · simp [h]
    · rw [if_neg h, ih, List.filter_cons_of_neg (by simpa using Ne.symm h), List.filter_nil,
        List.append_nil]

theorem toList_ofList {l : List (String × β)} (h : (l.map Prod.fst).Nodup) :
    (ofList l).toList = l := by
  induction l using List.reverseRecOn with
  | nil => rfl
  | append_singleton l e ih =>
    rw [List.map_append, List.map_singleton, List.nodup_append] at h
    have hl := ih h.1
    have he : e.1 ∉ l.map Prod.fst := fun hm ↦ h.2.2 e.1 hm e.1 (List.mem_singleton.2 rfl) rfl
    have he' : e.1 ∉ (ofList l).entries.map Prod.fst := by
      rw [← toList, hl]
      exact he
    rw [ofList_concat]
    exact (upsertEntries_of_notMem he' e.2 _).trans (congrArg (· ++ [e]) hl)

theorem apply_getD {α γ : Type u} {init : α} {g : α → Option γ} (hg : g init = none)
    (o : Option α) : g (o.getD init) = o.bind g := by
  cases o with
  | none => rw [Option.getD_none, hg, Option.bind_none]
  | some a => rfl

end KeyedList

def Write.key (w : Write) : String × String × String := (w.query, w.breakpoint, w.selector)

theorem Write.key_eq_iff {w : Write} {query breakpoint selector : String} :
    w.key = (query, breakpoint, selector) ↔
      w.query = query ∧ w.breakpoint = breakpoint ∧ w.selector = selector := by
  rw [key, Prod.mk.injEq, Prod.mk.injEq]

namespace Sheet

def written (ws : List Write) (k : String × String × String) : List (String × String) :=
  (ws.filter fun w ↦ w.key = k).flatMap Write.declarations

/-- Queries, their breakpoints, the selectors of these and the properties of each selector stand
in `t` as they stand in `s`, and what is new stands behind. -/
def Extends (s t : Sheet) : Prop :=
  s.blocks.Extends (KeyedList.Extends (KeyedList.Extends (KeyedList.Extends fun _ _ ↦ True)))
    t.blocks

theorem extends_add (s : Sheet) (w : Write) : s.Extends (s.add w) := by
  have hd (d : Declarations) : d.Extends (fun _ _ ↦ True) d := .refl (fun _ ↦ trivial) d
  have hl (l : Layer) : l.Extends (KeyedList.Extends fun _ _ ↦ True) l := .refl hd l
  have hb (b : Block) :
      b.Extends (KeyedList.Extends (KeyedList.Extends fun _ _ ↦ True)) b := .refl hl b
  apply KeyedList.extends_upsert hb
  intro b
  apply KeyedList.extends_upsert hl
  intro l
  apply KeyedList.extends_upsert hd
  intro d
  exact d.extends_insertAll w.declarations

theorem get?_add (s : Sheet) (w : Write) (query breakpoint selector : String) :
    (s.add w).get? query breakpoint selector =
      if (query, breakpoint, selector) = w.key
      then some (((s.get? query breakpoint selector).getD ∅).insertAll w.declarations)
      else s.get? query breakpoint selector := by
  simp only [get?, layer?, add, Write.key, Prod.mk.injEq, KeyedList.get?_upsert]
  by_cases hq : query = w.query
  · -- An absent block or layer reads as an empty one.
    have hb : (((s.blocks.get? w.query).getD ∅).get? breakpoint) =
        (s.blocks.get? w.query).bind fun b ↦ b.get? breakpoint :=
      KeyedList.apply_getD (g := fun b : Block ↦ b.get? breakpoint) rfl _
    have hl (o : Option Layer) : (o.getD ∅).get? selector = o.bind fun l ↦ l.get? selector :=
      KeyedList.apply_getD (g := fun l : Layer ↦ l.get? selector) rfl o
    by_cases hn : breakpoint = w.breakpoint
    · subst hq hn
      simp only [if_true, Option.bind_some, true_and, hb, ← hl, Option.getD_some,
        KeyedList.get?_upsert]
      split
      · next hx => rw [hx]
      · rfl
    · simp [hq, hn, KeyedList.get?_upsert, hb]
  · simp [hq]

theorem ofWrites_concat (ws : List Write) (w : Write) :
    ofWrites (ws ++ [w]) = (ofWrites ws).add w := by
  rw [ofWrites, List.foldl_append]
  rfl

theorem Extends.refl (s : Sheet) : s.Extends s :=
  KeyedList.Extends.refl (.refl (.refl (.refl fun _ ↦ trivial))) s.blocks

theorem Extends.trans {s t u : Sheet} (h : s.Extends t) (h' : t.Extends u) : s.Extends u :=
  KeyedList.Extends.trans (.trans (.trans (.trans fun _ _ ↦ trivial))) h h'

theorem Extends.layer? {s t : Sheet} (h : s.Extends t) {query breakpoint : String} {l : Layer}
    (hl : s.layer? query breakpoint = some l) :
    ∃ l', t.layer? query breakpoint = some l' ∧ l.keys <+: l'.keys := by
  obtain ⟨b, hb, hn⟩ := Option.bind_eq_some_iff.1 hl
  obtain ⟨b', hb', hbb⟩ := h.2 query b hb
  obtain ⟨l', hl', hll⟩ := hbb.2 breakpoint l hn
  exact ⟨l', Option.bind_eq_some_iff.2 ⟨b', hb', hl'⟩, hll.1⟩

theorem extends_ofWrites (ws vs : List Write) : (ofWrites ws).Extends (ofWrites (ws ++ vs)) := by
  induction vs using List.reverseRecOn with
  | nil =>
    rw [List.append_nil]
    exact .refl _
  | append_singleton vs w ih =>
    rw [← List.append_assoc, ofWrites_concat]
    exact ih.trans (extends_add _ w)

theorem written_concat (ws : List Write) (w : Write) (k : String × String × String) :
    written (ws ++ [w]) k = written ws k ++ if k = w.key then w.declarations else [] := by
  rw [written, List.filter_append, List.flatMap_append]
  by_cases h : k = w.key
  · subst h
    simp [written]
  · simp [written, h, Ne.symm h]

theorem written_eq_nil {ws : List Write} {k : String × String × String}
    (h : k ∉ ws.map Write.key) : written ws k = [] := by
  have hf : ws.filter (fun w ↦ w.key = k) = [] :=
    List.filter_eq_nil_iff.2 fun w hw ↦ by
      simpa using fun he ↦ h (List.mem_map.2 ⟨w, hw, he⟩)
  rw [written, hf, List.flatMap_nil]

theorem get?_ofWrites (ws : List Write) (query breakpoint selector : String) :
    (ofWrites ws).get? query breakpoint selector =
      if (query, breakpoint, selector) ∈ ws.map Write.key
      then some (KeyedList.ofList (written ws (query, breakpoint, selector))) else none := by
  induction ws using List.reverseRecOn with
  | nil => rfl
  | append_singleton ws w ih =>
    have hm : (query, breakpoint, selector) ∈ (ws ++ [w]).map Write.key ↔
        (query, breakpoint, selector) ∈ ws.map Write.key ∨
          (query, breakpoint, selector) = w.key := by
      rw [List.map_append, List.mem_append, List.map_singleton, List.mem_singleton]
    rw [ofWrites_concat, get?_add, ih, written_concat]
    by_cases hw : (query, breakpoint, selector) = w.key
    · rw [if_pos hw, if_pos (hm.2 (.inr hw)), if_pos hw, KeyedList.ofList_append]
      split
      · rfl
      · next hn =>
        rw [Option.getD_none, written_eq_nil hn]
        rfl
    · simp only [hw, if_false, hm, or_false, List.append_nil]

def entries (s : Sheet) : List ((String × String × String) × Declarations) :=
  s.sections.flatMap fun (query, breakpoint, l) ↦
    l.toList.map fun (selector, d) ↦ ((query, breakpoint, selector), d)

theorem mem_entries {s : Sheet} {query breakpoint selector : String} {d : Declarations} :
    ((query, breakpoint, selector), d) ∈ s.entries ↔
      s.get? query breakpoint selector = some d := by
  simp only [entries, sections, get?, layer?, List.mem_flatMap, List.mem_map, Prod.exists,
    Prod.mk.injEq, Option.bind_eq_some_iff, KeyedList.get?_eq_some_iff]
  constructor
  · rintro ⟨_, _, _, ⟨_, b, hb, _, l, hl, rfl, rfl, rfl⟩, _, _, hd, ⟨rfl, rfl, rfl⟩, rfl⟩
    exact ⟨l, ⟨b, hb, hl⟩, hd⟩
  · rintro ⟨l, ⟨b, hb, hl⟩, hd⟩
    exact ⟨_, _, l, ⟨_, b, hb, _, _, hl, rfl, rfl, rfl⟩, _, _, hd, ⟨rfl, rfl, rfl⟩, rfl⟩

theorem keys_entries (s : Sheet) : s.entries.map Prod.fst =
    s.blocks.toList.flatMap fun e ↦ e.2.toList.flatMap fun e' ↦
      e'.2.keys.map fun selector ↦ (e.1, e'.1, selector) := by
  simp only [entries, sections, List.map_flatMap, List.flatMap_assoc, List.flatMap_map,
    KeyedList.keys, KeyedList.toList, List.map_map, Function.comp_def]

theorem nodup_keys_entries (s : Sheet) : (s.entries.map Prod.fst).Nodup := by
  rw [keys_entries]
  apply KeyedList.nodup_flatMap_toList Prod.fst
  · intro e he
    apply KeyedList.nodup_flatMap_toList (fun k ↦ k.2.1)
    · intro e' he'
      exact e'.2.nodup_keys.map fun x y h ↦ by simpa using h
    · intro e' he' k hk
      obtain ⟨x, -, rfl⟩ := List.mem_map.1 hk
      rfl
  · intro e he k hk
    obtain ⟨e', -, hk⟩ := List.mem_flatMap.1 hk
    obtain ⟨x, -, rfl⟩ := List.mem_map.1 hk
    rfl

theorem length_entries (s : Sheet) : s.entries.length = s.size := by
  have hb (b : Block) : b.values = b.toList.map Prod.snd := rfl
  have hs : s.blocks.values = s.blocks.toList.map Prod.snd := rfl
  rw [← List.length_map (f := Prod.fst), keys_entries, size, hs]
  simp [Block.selectors, hb, List.length_flatMap, Function.comp_def]

structure Views (s : Sheet) (ws : List Write) : Prop where
  isSome_iff : ∀ query breakpoint selector,
    (s.get? query breakpoint selector).isSome ↔
      (query, breakpoint, selector) ∈ ws.map Write.key
  /-- Its properties stand in the order of their first writes. -/
  properties : ∀ query breakpoint selector d, s.get? query breakpoint selector = some d →
    d.keys = ((written ws (query, breakpoint, selector)).map Prod.fst).eraseDups
  value : ∀ query breakpoint selector d, s.get? query breakpoint selector = some d →
    ∀ property, d.get? property = ((written ws (query, breakpoint, selector)).filter
      fun e ↦ e.1 = property).getLast?.map Prod.snd
  queries : s.blocks.keys = (ws.map Write.query).eraseDups
  breakpoints : ∀ query b, s.blocks.get? query = some b →
    b.keys = ((ws.filter fun w ↦ w.query = query).map Write.breakpoint).eraseDups
  selectors : ∀ query breakpoint l, s.layer? query breakpoint = some l →
    l.keys = ((ws.filter fun w ↦ w.query = query ∧ w.breakpoint = breakpoint).map
      Write.selector).eraseDups
  /-- Going through the sheet meets each entry once, with what it holds. -/
  nodup : (s.entries.map Prod.fst).Nodup
  mem_entries_iff : ∀ query breakpoint selector d,
    ((query, breakpoint, selector), d) ∈ s.entries ↔
      s.get? query breakpoint selector = some d
  size_eq : s.size = (ws.map Write.key).eraseDups.length
  block_ne : ∀ b ∈ s.blocks.values, b.size ≠ 0
  layer_ne : ∀ b ∈ s.blocks.values, ∀ l ∈ b.values, l.size ≠ 0

theorem isSome_get?_iff (ws : List Write) (query breakpoint selector : String) :
    ((ofWrites ws).get? query breakpoint selector).isSome ↔
      (query, breakpoint, selector) ∈ ws.map Write.key := by
  rw [get?_ofWrites]
  split
  · next h => simp [h]
  · next h => simp [h]

theorem mem_keys_layer {ws : List Write} {query breakpoint selector : String} {l : Layer}
    (hl : (ofWrites ws).layer? query breakpoint = some l) :
    selector ∈ l.keys ↔ (query, breakpoint, selector) ∈ ws.map Write.key := by
  rw [← isSome_get?_iff, get?, hl, Option.bind_some, ← not_iff_not, ← KeyedList.get?_eq_none_iff,
    Option.not_isSome_iff_eq_none]

theorem eq_ofList_written {ws : List Write} {query breakpoint selector : String}
    {d : Declarations} (h : (ofWrites ws).get? query breakpoint selector = some d) :
    d = KeyedList.ofList (written ws (query, breakpoint, selector)) := by
  rw [get?_ofWrites] at h
  split at h
  · exact (Option.some.inj h).symm
  · cases h

theorem perm_keys_entries (ws : List Write) :
    ((ofWrites ws).entries.map Prod.fst).Perm (ws.map Write.key).eraseDups := by
  refine (List.perm_ext_iff_of_nodup (nodup_keys_entries _) (nodup_eraseDups _)).2 ?_
  rintro ⟨query, breakpoint, selector⟩
  rw [List.mem_eraseDups, ← isSome_get?_iff, Option.isSome_iff_exists, List.mem_map]
  constructor
  · rintro ⟨⟨k, d⟩, h, rfl⟩
    exact ⟨d, mem_entries.1 h⟩
  · rintro ⟨d, h⟩
    exact ⟨(_, d), mem_entries.2 h, rfl⟩

theorem eq_of_get?_blocks {ws : List Write} {query : String} {b : Block}
    (h : (ofWrites ws).blocks.get? query = some b) :
    ws.filter (fun w ↦ w.query = query) ≠ [] ∧
      b = Block.ofWrites (ws.filter fun w ↦ w.query = query) := by
  rw [blocks_ofWrites] at h
  exact KeyedList.eq_of_get?_gather h

theorem size_layer_ne_zero {vs : List Write} {l : Layer} (hl : l ∈ (Block.ofWrites vs).values) :
    l.size ≠ 0 := by
  obtain ⟨n, hn⟩ := KeyedList.mem_values.1 hl
  obtain ⟨hv, rfl⟩ := KeyedList.eq_of_get?_gather hn
  exact KeyedList.size_gather_ne_zero hv

theorem size_block_ne_zero {vs : List Write} (hv : vs ≠ []) : (Block.ofWrites vs).size ≠ 0 := by
  obtain ⟨w, hw⟩ := List.exists_mem_of_ne_nil vs hv
  have hn : w.breakpoint ∈ (Block.ofWrites vs).keys := by
    rw [Block.ofWrites, KeyedList.keys_gather, List.mem_eraseDups]
    exact List.mem_map_of_mem hw
  obtain ⟨l, hl⟩ := KeyedList.mem_keys.1 hn
  have hl : l ∈ (Block.ofWrites vs).values :=
    KeyedList.mem_values.2 ⟨w.breakpoint, KeyedList.get?_eq_some_iff.2 hl⟩
  have hs : 0 < l.keys.length := by
    rw [KeyedList.length_keys]
    exact Nat.pos_of_ne_zero (size_layer_ne_zero hl)
  obtain ⟨x, hx⟩ := List.exists_mem_of_length_pos hs
  exact Nat.ne_of_gt (List.length_pos_of_mem (List.mem_flatMap.2 ⟨l, hl, hx⟩))

theorem views_ofWrites (ws : List Write) : (ofWrites ws).Views ws where
  isSome_iff := isSome_get?_iff ws
  properties query breakpoint selector d hd := by
    rw [eq_ofList_written hd, KeyedList.keys_ofList]
  value query breakpoint selector d hd property := by
    rw [eq_ofList_written hd, KeyedList.get?_ofList]
  queries := by rw [blocks_ofWrites, KeyedList.keys_gather]
  breakpoints query b hb := by
    rw [(eq_of_get?_blocks hb).2]
    exact KeyedList.keys_gather Write.breakpoint ∅ Layer.write _
  selectors query breakpoint l hl := by
    rw [layer?_ofWrites] at hl
    split at hl
    · cases hl
    · rw [← Option.some.inj hl, Layer.ofWrites, KeyedList.keys_gather, List.filter_filter]
      simp only [Bool.decide_and, Bool.and_comm]
  nodup := nodup_keys_entries _
  mem_entries_iff _ _ _ _ := mem_entries
  size_eq := by rw [← length_entries, ← (perm_keys_entries ws).length_eq, List.length_map]
  block_ne b hb := by
    obtain ⟨query, hq⟩ := KeyedList.mem_values.1 hb
    obtain ⟨hn, rfl⟩ := eq_of_get?_blocks hq
    exact size_block_ne_zero hn
  layer_ne b hb l hl := by
    obtain ⟨query, hq⟩ := KeyedList.mem_values.1 hb
    rw [(eq_of_get?_blocks hq).2] at hl
    exact size_layer_ne_zero hl

/-- In a sheet that was written no block and no layer is empty, so there are none to leave out. -/
theorem filled_ofWrites (ws : List Write) : (ofWrites ws).filled = ofWrites ws := by
  have hblocks : ∀ b ∈ (ofWrites ws).blocks.values, b.size ≠ 0 := (views_ofWrites ws).block_ne
  have hlayers : ∀ b ∈ (ofWrites ws).blocks.values, ∀ l ∈ b.values, l.isEmpty = false := by
    intro b hb l hl
    have hsize := (views_ofWrites ws).layer_ne b hb l hl
    rw [KeyedList.isEmpty, List.isEmpty_eq_false_iff]
    intro hn
    exact hsize (congrArg List.length hn)
  unfold filled
  rw [KeyedList.filterMap_eq_self]
  intro b hb _
  rw [if_neg (hblocks b hb), KeyedList.filterMap_eq_self]
  intro l hl _
  rw [hlayers b hb l hl, if_neg Bool.false_ne_true]

/-- The sheet shows exactly its history, and a further write changes what one entry holds, leaves
every other entry as it is, and moves nothing. -/
theorem ofWrites_shows_history (ws : List Write) :
    (ofWrites ws).Views ws ∧ ∀ w,
      (∀ query breakpoint selector, (query, breakpoint, selector) ≠ w.key →
        ((ofWrites ws).add w).get? query breakpoint selector =
          (ofWrites ws).get? query breakpoint selector) ∧
      (ofWrites ws).Extends ((ofWrites ws).add w) := by
  refine ⟨views_ofWrites ws, ?_⟩
  intro w
  refine ⟨?_, extends_add _ w⟩
  intro query breakpoint selector hne
  rw [get?_add, if_neg hne]

def repeatedWrites : List Write :=
  [⟨"@media (min-width: 720px)", "md", "a", [("gap", "1rem"), ("gap", "2rem")]⟩,
    ⟨"@media (min-width: 720px)", "tablet", "a", []⟩,
    ⟨"@media (min-width: 720px)", "md", "b", [("order", "1")]⟩]

def laterWrite : Write :=
  ⟨"@media (min-width: 720px)", "md", "a", [("order", "2"), ("gap", "0")]⟩

theorem repeatedWrites_show_history :
    (ofWrites repeatedWrites).Views repeatedWrites ∧
    ("@media (min-width: 720px)", "md", "b") ≠ laterWrite.key ∧
    ((ofWrites repeatedWrites).add laterWrite).get? "@media (min-width: 720px)" "md" "b" =
      (ofWrites repeatedWrites).get? "@media (min-width: 720px)" "md" "b" ∧
    (ofWrites repeatedWrites).Extends ((ofWrites repeatedWrites).add laterWrite) := by
  have hne : ("@media (min-width: 720px)", "md", "b") ≠ laterWrite.key := by decide
  have h := ofWrites_shows_history repeatedWrites
  exact ⟨h.1, hne, (h.2 laterWrite).1 _ _ _ hne, (h.2 laterWrite).2⟩

end Sheet

end LayoutSheet
