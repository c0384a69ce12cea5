namespace LayoutSheet

universe u v

/-- Values under distinct keys, in the order in which the keys first came. Writing to a key that is
there replaces its value and moves nothing; a new key goes to the end. -/
@[ext]
structure KeyedList (β : Type u) where
  entries : List (String × β)
  nodup : (entries.map Prod.fst).Nodup

namespace KeyedList

variable {β : Type u} {γ : Type v}

instance [DecidableEq β] : DecidableEq (KeyedList β) := fun a b ↦
  decidable_of_iff (a.entries = b.entries) KeyedList.ext_iff.symm

instance [Repr β] : Repr (KeyedList β) := ⟨fun m n ↦ reprPrec m.entries n⟩

def empty : KeyedList β := ⟨[], .nil⟩

instance : EmptyCollection (KeyedList β) := ⟨empty⟩

instance : Inhabited (KeyedList β) := ⟨empty⟩

def toList (m : KeyedList β) : List (String × β) := m.entries

def keys (m : KeyedList β) : List String := m.entries.map Prod.fst

def values (m : KeyedList β) : List β := m.entries.map Prod.snd

def size (m : KeyedList β) : Nat := m.entries.length

def isEmpty (m : KeyedList β) : Bool := m.entries.isEmpty

def get? (m : KeyedList β) (k : String) : Option β := m.entries.lookup k

def contains (m : KeyedList β) (k : String) : Bool := m.keys.contains k

def upsertEntries (k : String) (init : β) (f : β → β) : List (String × β) → List (String × β)
  | [] => [(k, f init)]
  | (k', v) :: r => if k' = k then (k', f v) :: r else (k', v) :: upsertEntries k init f r

theorem map_fst_upsertEntries (k : String) (init : β) (f : β → β) (l : List (String × β)) :
    (upsertEntries k init f l).map Prod.fst =
      if k ∈ l.map Prod.fst then l.map Prod.fst else l.map Prod.fst ++ [k] := by
  induction l with
  | nil => simp [upsertEntries]
  | cons e r ih =>
    obtain ⟨k', v⟩ := e
    by_cases h : k' = k
    · simp [upsertEntries, h]
    · simp only [upsertEntries, h, if_false, List.map_cons, ih, List.mem_cons, Ne.symm h, false_or]
      split <;> rfl

/-- Changes the value at `k` by `f`; a key not yet there first gets `init`. -/
def upsert (m : KeyedList β) (k : String) (init : β) (f : β → β) : KeyedList β where
  entries := upsertEntries k init f m.entries
  nodup := by
    rw [map_fst_upsertEntries]
    split
    · exact m.nodup
    · next h =>
      rw [List.nodup_append]
      refine ⟨m.nodup, by simp, fun a ha b hb ↦ ?_⟩
      rintro rfl
      exact h ((List.mem_singleton.1 hb) ▸ ha)

def insert (m : KeyedList β) (k : String) (v : β) : KeyedList β := m.upsert k v fun _ ↦ v

def getOrInsert (m : KeyedList β) (k : String) (init : β) : β × KeyedList β :=
  ((m.get? k).getD init, m.upsert k init id)

def insertAll (m : KeyedList β) (l : List (String × β)) : KeyedList β :=
  l.foldl (fun m e ↦ m.insert e.1 e.2) m

def ofList (l : List (String × β)) : KeyedList β := (∅ : KeyedList β).insertAll l

def filterMap (f : String → β → Option γ) (m : KeyedList β) : KeyedList γ where
  entries := m.entries.filterMap fun e ↦ (f e.1 e.2).map fun v ↦ (e.1, v)
  nodup := by
    rw [List.Nodup, List.pairwise_map, List.pairwise_filterMap]
    refine (List.pairwise_map.1 m.nodup).imp ?_
    intro e e' hne w hw w' hw'
    obtain ⟨v, -, rfl⟩ := Option.map_eq_some_iff.1 hw
    obtain ⟨v', -, rfl⟩ := Option.map_eq_some_iff.1 hw'
    exact hne

def without (m : KeyedList β) (k : String) : KeyedList β :=
  m.filterMap fun k' v ↦ if k' = k then none else some v

theorem keys_upsert (m : KeyedList β) (k : String) (init : β) (f : β → β) :
    (m.upsert k init f).keys = if k ∈ m.keys then m.keys else m.keys ++ [k] :=
  map_fst_upsertEntries k init f m.entries

theorem lookup_upsertEntries (k x : String) (init : β) (f : β → β) (l : List (String × β)) :
    (upsertEntries k init f l).lookup x =
      if x = k then some (f ((l.lookup k).getD init)) else l.lookup x := by
  induction l with
  | nil =>
    by_cases h : x = k
    · simp [upsertEntries, h]
    · simp [upsertEntries, h]
  | cons e r ih =>
    obtain ⟨k', v⟩ := e
    by_cases h : k' = k
    · subst h
      by_cases hx : x = k'
      · simp [upsertEntries, hx]
      · simp [upsertEntries, hx, List.lookup_cons, beq_eq_false_iff_ne.2 hx]
    · by_cases hx : x = k'
      · subst hx
        simp [upsertEntries, h]
      · simp only [upsertEntries, h, if_false, List.lookup_cons, beq_eq_false_iff_ne.2 hx,
          beq_eq_false_iff_ne.2 (Ne.symm h), ih]

theorem get?_upsert (m : KeyedList β) (k x : String) (init : β) (f : β → β) :
    (m.upsert k init f).get? x =
      if x = k then some (f ((m.get? k).getD init)) else m.get? x :=
  lookup_upsertEntries k x init f m.entries

theorem get?_insert (m : KeyedList β) (k x : String) (v : β) :
    (m.insert k v).get? x = if x = k then some v else m.get? x :=
  get?_upsert m k x v _

theorem nodup_keys (m : KeyedList β) : m.keys.Nodup := m.nodup

theorem length_keys (m : KeyedList β) : m.keys.length = m.size := List.length_map ..

theorem mem_keys {m : KeyedList β} {k : String} : k ∈ m.keys ↔ ∃ v, (k, v) ∈ m.toList := by
  simp [keys, toList]

theorem get?_eq_some_iff {m : KeyedList β} {k : String} {v : β} :
    m.get? k = some v ↔ (k, v) ∈ m.toList := by
  obtain ⟨l, hl⟩ := m
  simp only [get?, toList]
  induction l with
  | nil => simp
  | cons e r ih =>
    obtain ⟨k', w⟩ := e
    obtain ⟨hk, hr⟩ := List.nodup_cons.1 hl
    by_cases h : k = k'
    · subst h
      have hn : (k, v) ∉ r := fun hv ↦ hk (List.mem_map.2 ⟨(k, v), hv, rfl⟩)
      simp [hn, eq_comm]
    · simp [List.lookup_cons, beq_eq_false_iff_ne.2 h, ih hr, h]

theorem get?_eq_none_iff {m : KeyedList β} {k : String} : m.get? k = none ↔ k ∉ m.keys := by
  simp only [get?, keys, List.lookup_eq_none_iff, List.mem_map, bne_iff_ne]
  exact ⟨fun h ⟨e, he, hk⟩ ↦ h e he hk.symm, fun h e he hk ↦ h ⟨e, he, hk.symm⟩⟩

theorem contains_iff {m : KeyedList β} {k : String} : m.contains k = true ↔ k ∈ m.keys :=
  List.contains_iff_mem

theorem contains_eq_isSome (m : KeyedList β) (k : String) : m.contains k = (m.get? k).isSome := by
  rw [Bool.eq_iff_iff, contains_iff, ← Decidable.not_iff_not, ← get?_eq_none_iff,
    Option.not_isSome_iff_eq_none]

theorem upsertEntries_of_notMem {k : String} {l : List (String × β)} (h : k ∉ l.map Prod.fst)
    (init : β) (f : β → β) : upsertEntries k init f l = l ++ [(k, f init)] := by
  induction l with
  | nil => rfl
  | cons e l ih =>
    obtain ⟨k', v⟩ := e
    obtain ⟨hk, hl⟩ : k ≠ k' ∧ k ∉ l.map Prod.fst := by simpa using h
    rw [upsertEntries, if_neg (Ne.symm hk), ih hl, List.cons_append]

theorem upsertEntries_of_getElem? {l : List (String × β)} (hn : (l.map Prod.fst).Nodup) {i : Nat}
    {k : String} {v : β} (h : l[i]? = some (k, v)) (init : β) (f : β → β) :
    upsertEntries k init f l = l.set i (k, f v) := by
  induction l generalizing i with
  | nil => cases h
  | cons e l ih =>
    obtain ⟨k', w⟩ := e
    obtain ⟨hk, hl⟩ := List.nodup_cons.1 hn
    cases i with
    | zero =>
      cases h
      rw [upsertEntries, if_pos rfl]
      rfl
    | succ i =>
      have hne : k' ≠ k := by
        rintro rfl
        exact hk (List.mem_map.2 ⟨_, List.mem_of_getElem? h, rfl⟩)
      rw [upsertEntries, if_neg hne, ih hl h]
      rfl

theorem getElem?_upsertEntries {k : String} {e : String × β} (he : e.1 ≠ k) (init : β)
    (f : β → β) (l : List (String × β)) (i : Nat) :
    (upsertEntries k init f l)[i]? = some e ↔ l[i]? = some e := by
  induction l generalizing i with
  | nil =>
    cases i with
    | zero =>
      have hne : (k, f init) ≠ e := fun h ↦ he (h ▸ rfl)
      simp [upsertEntries, hne]
    | succ i => rfl
  | cons e' l ih =>
    obtain ⟨k', v⟩ := e'
    by_cases hk : k' = k
    · subst hk
      rw [upsertEntries, if_pos rfl]
      cases i with
      | zero =>
        simp only [List.getElem?_cons_zero, Option.some.injEq]
        exact iff_of_false (fun h ↦ he (h ▸ rfl)) (fun h ↦ he (h ▸ rfl))
      | succ i => rfl
    · rw [upsertEntries, if_neg hk]
      cases i with
      | zero => rfl
      | succ i => exact ih i

theorem filter_upsertEntries (keep : String → Bool) (k : String) (init : β) (g : β → β)
    (l : List (String × β)) :
    (upsertEntries k init g l).filter (fun e ↦ keep e.1) =
      if keep k then upsertEntries k init g (l.filter fun e ↦ keep e.1)
      else l.filter fun e ↦ keep e.1 := by
  induction l with
  | nil => by_cases h : keep k <;> simp [upsertEntries, h]
  | cons e r ih =>
    obtain ⟨k', v⟩ := e
    by_cases hk : k' = k
    · subst hk
      by_cases h : keep k' <;> simp [upsertEntries, h]
    · by_cases h : keep k <;> by_cases h' : keep k' <;> simp_all [upsertEntries]

theorem upsert_id {m : KeyedList β} {k : String} {v : β} (h : m.get? k = some v) (init : β) :
    m.upsert k init id = m := by
  obtain ⟨i, hi⟩ := List.mem_iff_getElem?.1 (get?_eq_some_iff.1 h)
  obtain ⟨hlt, he⟩ := List.getElem?_eq_some_iff.1 hi
  have hset : m.toList.set i (k, v) = m.toList := he ▸ List.set_getElem_self hlt
  exact KeyedList.ext ((upsertEntries_of_getElem? m.nodup hi init id).trans hset)

theorem insertAll_append (m : KeyedList β) (l l' : List (String × β)) :
    m.insertAll (l ++ l') = (m.insertAll l).insertAll l' := List.foldl_append

theorem ofList_append (l l' : List (String × β)) :
    ofList (l ++ l') = (ofList l).insertAll l' := insertAll_append ∅ l l'

theorem ofList_concat (l : List (String × β)) (e : String × β) :
    ofList (l ++ [e]) = (ofList l).insert e.1 e.2 := ofList_append l [e]

theorem toList_eq_map_keys {m : KeyedList β} {g : String → β}
    (h : ∀ k ∈ m.keys, m.get? k = some (g k)) : m.toList = m.keys.map fun k ↦ (k, g k) := by
  have he : ∀ e ∈ m.toList, (e.1, g e.1) = e := by
    intro e he
    have hg := h e.1 (mem_keys.2 ⟨e.2, he⟩)
    rw [get?_eq_some_iff.2 he] at hg
    rw [← Option.some.inj hg]
  calc m.toList = m.toList.map fun e ↦ (e.1, g e.1) := by
        rw [List.map_congr_left he, List.map_id']
    _ = m.keys.map fun k ↦ (k, g k) := by simp [keys, toList]

theorem mem_values {m : KeyedList β} {v : β} : v ∈ m.values ↔ ∃ k, m.get? k = some v := by
  simp only [get?_eq_some_iff, values, toList, List.mem_map, Prod.exists, exists_eq_right]

theorem map_some_values (m : KeyedList β) : m.values.map some = m.keys.map m.get? := by
  rw [values, keys, List.map_map, List.map_map]
  refine List.map_congr_left fun e he ↦ ?_
  exact (get?_eq_some_iff.2 he).symm

theorem map_values (m : KeyedList β) (f : β → γ) :
    m.values.map f = m.toList.map fun e ↦ f e.2 := List.map_map

theorem toList_filterMap (f : String → β → Option γ) (m : KeyedList β) :
    (m.filterMap f).toList = m.toList.filterMap fun e ↦ (f e.1 e.2).map fun v ↦ (e.1, v) := rfl

theorem filterMap_eq_self {f : String → β → Option β} {m : KeyedList β}
    (h : ∀ v ∈ m.values, ∀ k, f k v = some v) : m.filterMap f = m := by
  have hl (l : List (String × β)) (hl : ∀ e ∈ l, f e.1 e.2 = some e.2) :
      (l.filterMap fun e ↦ (f e.1 e.2).map fun v ↦ (e.1, v)) = l := by
    induction l with
    | nil => rfl
    | cons e l ih =>
      obtain ⟨he, hl⟩ := List.forall_mem_cons.1 hl
      rw [List.filterMap_cons, he, ih hl]
      rfl
  exact KeyedList.ext (hl m.entries fun e he ↦ h e.2 (List.mem_map_of_mem he) e.1)

theorem get?_filterMap (f : String → β → Option γ) (m : KeyedList β) (k : String) :
    (m.filterMap f).get? k = (m.get? k).bind (f k) := by
  refine Option.ext fun w ↦ ?_
  rw [get?_eq_some_iff, toList_filterMap, List.mem_filterMap, Option.bind_eq_some_iff]
  constructor
  · rintro ⟨⟨k', v⟩, hm, hw⟩
    obtain ⟨w', hf, he⟩ := Option.map_eq_some_iff.1 hw
    obtain ⟨rfl, rfl⟩ := Prod.mk.inj he
    exact ⟨v, get?_eq_some_iff.2 hm, hf⟩
  · rintro ⟨v, hm, hf⟩
    exact ⟨(k, v), get?_eq_some_iff.1 hm, by simp [hf]⟩

theorem get?_without (m : KeyedList β) (k k' : String) :
    (m.without k).get? k' = if k' = k then none else m.get? k' := by
  rw [without, get?_filterMap]
  split <;> simp

end KeyedList

end LayoutSheet
