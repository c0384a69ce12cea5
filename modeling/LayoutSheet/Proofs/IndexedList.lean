import LayoutSheet.IndexedList
import LayoutSheet.Proofs.History

namespace LayoutSheet

universe u

/-- A step in the life of a keyed list: a value is put under a key, or the one that stands there,
at first `init`, is changed. -/
inductive Update (β : Type u) where
  | insert (k : String) (v : β)
  | upsert (k : String) (init : β) (f : β → β)

namespace Update

variable {β : Type u}

def key : Update β → String
  | insert k _ => k
  | upsert k _ _ => k

def value : Update β → Option β → β
  | insert _ v, _ => v
  | upsert _ init f, old => f (old.getD init)

def inserts (l : List (String × β)) : List (Update β) := l.map fun e ↦ insert e.1 e.2

/-- The value that updates leave under a key. -/
def stored (cs : List (Update β)) (k : String) : Option β :=
  cs.foldl (fun old c ↦ if c.key = k then some (c.value old) else old) none

theorem stored_concat (cs : List (Update β)) (c : Update β) (k : String) :
    stored (cs ++ [c]) k = if c.key = k then some (c.value (stored cs k)) else stored cs k := by
  rw [stored, List.foldl_append]
  rfl

end Update

namespace KeyedList

variable {β : Type u}

def apply (m : KeyedList β) : Update β → KeyedList β
  | .insert k v => m.insert k v
  | .upsert k init f => m.upsert k init f

def applyAll (m : KeyedList β) (cs : List (Update β)) : KeyedList β := cs.foldl apply m

theorem keys_apply (m : KeyedList β) (c : Update β) :
    (m.apply c).keys = if c.key ∈ m.keys then m.keys else m.keys ++ [c.key] := by
  cases c with
  | insert k v => exact m.keys_upsert k v _
  | upsert k init f => exact m.keys_upsert k init f

theorem get?_apply (m : KeyedList β) (c : Update β) (k : String) :
    (m.apply c).get? k = if c.key = k then some (c.value (m.get? k)) else m.get? k := by
  cases c with
  | insert k' v =>
    rw [apply, get?_insert]
    simp only [Update.key, Update.value, eq_comm]
  | upsert k' init f =>
    rw [apply, get?_upsert]
    by_cases h : k = k'
    · subst h
      simp [Update.key, Update.value]
    · simp [Update.key, h, Ne.symm h]

theorem applyAll_concat (m : KeyedList β) (cs : List (Update β)) (c : Update β) :
    m.applyAll (cs ++ [c]) = (m.applyAll cs).apply c := by
  rw [applyAll, List.foldl_append]
  rfl

theorem ofList_eq_applyAll (l : List (String × β)) :
    ofList l = (∅ : KeyedList β).applyAll (Update.inserts l) := by
  rw [ofList, insertAll, applyAll, Update.inserts, List.foldl_map]
  rfl

theorem keys_applyAll (cs : List (Update β)) :
    ((∅ : KeyedList β).applyAll cs).keys = (cs.map Update.key).eraseDups := by
  induction cs using List.reverseRecOn with
  | nil => rfl
  | append_singleton cs c ih =>
    rw [applyAll_concat, keys_apply, ih, List.map_append, List.map_singleton, eraseDups_concat]
    simp only [List.mem_eraseDups]

theorem get?_applyAll (cs : List (Update β)) (k : String) :
    ((∅ : KeyedList β).applyAll cs).get? k = Update.stored cs k := by
  induction cs using List.reverseRecOn with
  | nil => rfl
  | append_singleton cs c ih => rw [applyAll_concat, get?_apply, ih, Update.stored_concat]

end KeyedList

namespace IndexedList

variable {β : Type u} {m : IndexedList β} {n : KeyedList β} {k : String} {slot : Nat}

/-- The entries are those of a keyed list, and the index holds the slots of their keys. -/
structure Holds (m : IndexedList β) (n : KeyedList β) : Prop where
  entries : m.entries = n.toList
  index : ∀ (k : String) (slot : Nat), m.index[k]? = some slot ↔ m.keys[slot]? = some k

theorem map_fst_eq_of_beq [BEq β] {l l' : List (String × β)} (h : (l == l') = true) :
    l.map Prod.fst = l'.map Prod.fst := by
  induction l generalizing l' with
  | nil =>
    cases l' with
    | nil => rfl
    | cons e' l' => cases h
  | cons e l ih =>
    cases l' with
    | nil => cases h
    | cons e' l' =>
      rw [List.cons_beq_cons, Bool.and_eq_true] at h
      have hk : e.1 = e'.1 := eq_of_beq (Bool.and_eq_true_iff.1 h.1).1
      rw [List.map_cons, List.map_cons, hk, ih h.2]

namespace Holds

theorem empty : Holds (∅ : IndexedList β) ∅ where
  entries := rfl
  index k slot := by
    have hk : (∅ : IndexedList β).index[k]? = none := Std.HashMap.getElem?_empty
    rw [hk]
    exact iff_of_false nofun nofun

theorem keys_eq (h : m.Holds n) : m.keys = n.keys := congrArg (List.map Prod.fst) h.entries

theorem nodup (h : m.Holds n) : m.keys.Nodup := h.keys_eq ▸ n.nodup_keys

theorem index_eq_none_iff (h : m.Holds n) : m.index[k]? = none ↔ k ∉ n.keys := by
  rw [Option.eq_none_iff_forall_ne_some, ← h.keys_eq, List.mem_iff_getElem?]
  simp only [ne_eq, h.index, not_exists]

theorem exists_entry (h : m.Holds n) (hs : m.index[k]? = some slot) :
    ∃ v, n.toList[slot]? = some (k, v) := by
  have hk := (h.index k slot).1 hs
  rw [keys, List.getElem?_map, Option.map_eq_some_iff] at hk
  obtain ⟨⟨k', v⟩, he, rfl⟩ := hk
  exact ⟨v, h.entries ▸ he⟩

theorem get?_eq (h : m.Holds n) (k : String) : m.get? k = n.get? k := by
  rw [get?]
  cases hs : m.index[k]? with
  | none => exact (KeyedList.get?_eq_none_iff.2 (h.index_eq_none_iff.1 hs)).symm
  | some slot =>
    obtain ⟨v, he⟩ := h.exists_entry hs
    have hg : n.get? k = some v := KeyedList.get?_eq_some_iff.2 (List.mem_of_getElem? he)
    rw [hg, Option.bind_some, at?, h.entries, he, Option.map_some]

theorem push (h : m.Holds n) (hk : m.index[k]? = none) (init : β) (f : β → β) :
    (m.push k (f init)).Holds (n.upsert k init f) where
  entries := by
    have hn : k ∉ n.entries.map Prod.fst := h.index_eq_none_iff.1 hk
    exact (congrArg (· ++ [(k, f init)]) h.entries).trans
      (KeyedList.upsertEntries_of_notMem hn init f).symm
  index k' slot := by
    have hkeys : (m.push k (f init)).keys = m.keys ++ [k] := List.map_append
    have hlen : m.entries.length = m.keys.length := (List.length_map ..).symm
    have hn : k ∉ m.keys := h.keys_eq ▸ h.index_eq_none_iff.1 hk
    rw [hkeys, getElem?_concat_eq_some_iff, IndexedList.push, Std.HashMap.getElem?_insert, hlen]
    by_cases he : k = k'
    · subst he
      rw [if_pos (beq_self_eq_true k), Option.some.injEq]
      constructor
      · intro hs
        exact .inr ⟨hs.symm, rfl⟩
      · rintro (hs | ⟨hs, -⟩)
        · exact absurd (List.mem_of_getElem? hs) hn
        · exact hs.symm
    · simp [he, h.index]

theorem modify (h : m.Holds n) (hs : m.index[k]? = some slot) (init : β) (f : β → β) :
    (m.modify slot f).Holds (n.upsert k init f) where
  entries := by
    obtain ⟨v, he⟩ := h.exists_entry hs
    have hset : m.entries.modify slot (fun e ↦ (e.1, f e.2)) = n.toList.set slot (k, f v) := by
      rw [h.entries, List.modify_eq_set_getElem?]
      simp [he]
    exact hset.trans (KeyedList.upsertEntries_of_getElem? n.nodup he init f).symm
  index k' slot' := by
    have hkeys : (m.modify slot f).keys = m.keys :=
      map_modify_of_eq Prod.fst (fun e ↦ (e.1, f e.2)) (fun _ ↦ rfl) m.entries slot
    rw [hkeys]
    exact h.index k' slot'

theorem modify_push (m : IndexedList β) (k : String) (init : β) (f : β → β) :
    (m.push k init).modify m.entries.length f = m.push k (f init) := by
  simp [IndexedList.modify, IndexedList.push, List.modify_eq_set_getElem?]

theorem insert (h : m.Holds n) (k : String) (v : β) :
    (m.insert k v).1 = n.get? k ∧ (m.insert k v).2.Holds (n.insert k v) := by
  have hg := h.get?_eq k
  rw [get?] at hg
  rw [IndexedList.insert]
  cases hs : m.index[k]? with
  | none =>
    rw [hs] at hg
    exact ⟨hg, h.push hs v fun _ ↦ v⟩
  | some slot =>
    rw [hs] at hg
    exact ⟨hg, h.modify hs v fun _ ↦ v⟩

theorem upsert (h : m.Holds n) (k : String) (init : β) (f : β → β) :
    (m.upsert k init f).Holds (n.upsert k init f) := by
  rw [IndexedList.upsert, reserve]
  cases hs : m.index[k]? with
  | none =>
    dsimp only
    rw [modify_push]
    exact h.push hs init f
  | some slot => exact h.modify hs init f

theorem getOrInsert_eq_self {v : β} (h : m.Holds n) (hk : n.get? k = some v) (init : β) :
    m.getOrInsert k init = (some v, m) := by
  have hv : m.get? k = some v := (h.get?_eq k).trans hk
  rw [get?, Option.bind_eq_some_iff] at hv
  obtain ⟨slot, hs, hv⟩ := hv
  simp only [IndexedList.getOrInsert, reserve, hs, hv]

theorem getOrInsert (h : m.Holds n) (k : String) (init : β) :
    (m.getOrInsert k init).1 = some (n.getOrInsert k init).1 ∧
      (m.getOrInsert k init).2.Holds (n.getOrInsert k init).2 := by
  rw [KeyedList.getOrInsert]
  cases hk : n.get? k with
  | none =>
    have hs : m.index[k]? = none := h.index_eq_none_iff.2 (KeyedList.get?_eq_none_iff.1 hk)
    simp only [IndexedList.getOrInsert, reserve, hs]
    refine ⟨?_, h.push hs init id⟩
    simp [at?, IndexedList.push]
  | some v =>
    rw [h.getOrInsert_eq_self hk, KeyedList.upsert_id hk]
    exact ⟨rfl, h⟩

/-- With the index being determined by the keys, equal entries make equal lists. -/
theorem beq_eq [BEq β] {m' : IndexedList β} {n' : KeyedList β} (h : m.Holds n)
    (h' : m'.Holds n') : (m == m') = (m.toList == m'.toList) := by
  change (m.entries == m'.entries && m.index == m'.index) = (m.entries == m'.entries)
  cases he : m.entries == m'.entries with
  | false => rfl
  | true =>
    have hkeys : m.keys = m'.keys := map_fst_eq_of_beq he
    have hindex : m.index.Equiv m'.index := by
      apply Std.HashMap.Equiv.of_forall_getElem?_eq
      intro k
      apply Option.ext
      intro slot
      rw [h.index, h'.index, hkeys]
    exact hindex.beq

end Holds

def apply (m : IndexedList β) : Update β → IndexedList β
  | .insert k v => (m.insert k v).2
  | .upsert k init f => m.upsert k init f

def applyAll (m : IndexedList β) (cs : List (Update β)) : IndexedList β := cs.foldl apply m

theorem Holds.apply (h : m.Holds n) (c : Update β) : (m.apply c).Holds (n.apply c) := by
  cases c with
  | insert k v => exact (h.insert k v).2
  | upsert k init f => exact h.upsert k init f

theorem Holds.applyAll (h : m.Holds n) (cs : List (Update β)) :
    (m.applyAll cs).Holds (n.applyAll cs) := by
  induction cs generalizing m n with
  | nil => exact h
  | cons c cs ih => exact ih (h.apply c)

def ofUpdates (l : List (String × β)) (cs : List (Update β)) : IndexedList β :=
  (ofList l).applyAll cs

theorem holds_ofUpdates (l : List (String × β)) (cs : List (Update β)) :
    (ofUpdates l cs).Holds ((∅ : KeyedList β).applyAll (Update.inserts l ++ cs)) := by
  have hl : ofList l = (∅ : IndexedList β).applyAll (Update.inserts l) := by
    rw [ofList, applyAll, Update.inserts, List.foldl_map]
    rfl
  have h : ofUpdates l cs = (∅ : IndexedList β).applyAll (Update.inserts l ++ cs) := by
    rw [ofUpdates, hl, applyAll, applyAll, applyAll, List.foldl_append]
  rw [h]
  exact Holds.empty.applyAll _

structure Views (m : IndexedList β) (cs : List (Update β)) : Prop where
  nodup : m.keys.Nodup
  /-- The index tells the places of the keys and knows no other. -/
  index_iff : ∀ (k : String) (slot : Nat), m.index[k]? = some slot ↔ m.keys[slot]? = some k
  slot_lt : ∀ (k : String) (slot : Nat), m.index[k]? = some slot → slot < m.size
  /-- The keys stand in the order in which they first came. -/
  keys_eq : m.keys = (cs.map Update.key).eraseDups
  get?_eq : ∀ k, m.get? k = Update.stored cs k
  contains_eq : ∀ k, m.contains k = (m.get? k).isSome
  size_eq : m.size = (cs.map Update.key).eraseDups.length
  isEmpty_iff : m.isEmpty = true ↔ cs = []
  /-- Going through the list meets every key in its place, with its value. -/
  toList_eq : m.toList.map some = m.keys.map fun k ↦ (m.get? k).map (k, ·)
  values_eq : m.values.map some = m.keys.map m.get?

theorem Holds.views {cs : List (Update β)} (h : m.Holds ((∅ : KeyedList β).applyAll cs)) :
    m.Views cs := by
  have hkeys : m.keys = (cs.map Update.key).eraseDups :=
    h.keys_eq.trans (KeyedList.keys_applyAll cs)
  have hsize : m.size = m.keys.length := (List.length_map ..).symm
  have hget (k : String) : m.get? k = Update.stored cs k :=
    (h.get?_eq k).trans (KeyedList.get?_applyAll cs k)
  have hpair : ∀ e ∈ m.entries, m.get? e.1 = some e.2 := by
    intro e he
    rw [h.get?_eq]
    exact KeyedList.get?_eq_some_iff.2 (h.entries ▸ he)
  constructor
  case nodup => exact h.nodup
  case index_iff => exact h.index
  case slot_lt =>
    intro k slot hs
    rw [hsize]
    exact (List.getElem?_eq_some_iff.1 ((h.index k slot).1 hs)).1
  case keys_eq => exact hkeys
  case get?_eq => exact hget
  case contains_eq =>
    intro k
    rw [h.get?_eq, ← KeyedList.contains_eq_isSome, Bool.eq_iff_iff, KeyedList.contains_iff,
      contains, Std.HashMap.contains_eq_isSome_getElem?, ← not_iff_not,
      Option.not_isSome_iff_eq_none, h.index_eq_none_iff]
  case size_eq => rw [hsize, hkeys]
  case isEmpty_iff =>
    have hk : m.isEmpty = m.keys.isEmpty := List.isEmpty_map.symm
    rw [hk, hkeys]
    cases cs with
    | nil => simp
    | cons c cs => simp [List.eraseDups_cons]
  case toList_eq =>
    rw [toList, keys, List.map_map]
    refine List.map_congr_left fun e he ↦ ?_
    rw [Function.comp_apply, hpair e he]
    rfl
  case values_eq =>
    rw [values, keys, List.map_map, List.map_map]
    refine List.map_congr_left fun e he ↦ ?_
    exact (hpair e he).symm

theorem Holds.getElem?_insert (h : m.Holds n) (v : β) {e : String × β} (he : e.1 ≠ k) (i : Nat) :
    (m.insert k v).2.toList[i]? = some e ↔ m.toList[i]? = some e := by
  rw [toList, toList, (h.insert k v).2.entries, h.entries]
  exact KeyedList.getElem?_upsertEntries he v _ n.toList i

/-- A list with its index is a list of its entries in the order in which their keys came: it shows
exactly its updates, as the list without an index does; inserting hands out the value from before
and touches no other entry, asking for a key that is there touches nothing, and two lists are
equal when their entries are. -/
theorem ofUpdates_shows_updates [BEq β] (l : List (String × β)) (cs : List (Update β)) :
    (ofUpdates l cs).Views (Update.inserts l ++ cs) ∧
    (ofUpdates l cs).toList = ((KeyedList.ofList l).applyAll cs).toList ∧
    (∀ k v, ((ofUpdates l cs).insert k v).1 = (ofUpdates l cs).get? k ∧
      ∀ e : String × β, e.1 ≠ k → ∀ i : Nat,
        ((ofUpdates l cs).insert k v).2.toList[i]? = some e ↔
          (ofUpdates l cs).toList[i]? = some e) ∧
    (∀ k init, ((ofUpdates l cs).getOrInsert k init).1 =
        some (((ofUpdates l cs).get? k).getD init) ∧
      ∀ v, (ofUpdates l cs).get? k = some v →
        ((ofUpdates l cs).getOrInsert k init).2 = ofUpdates l cs) ∧
    ∀ l' cs', (ofUpdates l cs == ofUpdates l' cs') =
      ((ofUpdates l cs).toList == (ofUpdates l' cs').toList) := by
  have h := holds_ofUpdates l cs
  refine ⟨h.views, ?_, ?_, ?_, ?_⟩
  · rw [toList, h.entries, KeyedList.ofList_eq_applyAll, KeyedList.applyAll, KeyedList.applyAll,
      KeyedList.applyAll, List.foldl_append]
  · intro k v
    exact ⟨(h.insert k v).1.trans (h.get?_eq k).symm, fun e he ↦ h.getElem?_insert v he⟩
  · intro k init
    constructor
    · rw [(h.getOrInsert k init).1, h.get?_eq]
      rfl
    · intro v hv
      rw [h.getOrInsert_eq_self ((h.get?_eq k).symm.trans hv)]
  · intro l' cs'
    exact h.beq_eq (holds_ofUpdates l' cs')

def repeatedUpdates : List (Update Nat) :=
  [.insert "md" 3, .upsert "lg" 0 (· + 1), .upsert "xl" 5 (· * 2)]

theorem repeatedUpdates_show_updates :
    (ofUpdates [("md", 1), ("lg", 2)] repeatedUpdates).Views
      (Update.inserts [("md", 1), ("lg", 2)] ++ repeatedUpdates) ∧
    ("lg", 3).1 ≠ "md" ∧
    (((ofUpdates [("md", 1), ("lg", 2)] repeatedUpdates).insert "md" 7).2.toList[1]? =
        some ("lg", 3) ↔
      (ofUpdates [("md", 1), ("lg", 2)] repeatedUpdates).toList[1]? = some ("lg", 3)) ∧
    (ofUpdates [("md", 1), ("lg", 2)] repeatedUpdates).get? "xl" = some 10 ∧
    ((ofUpdates [("md", 1), ("lg", 2)] repeatedUpdates).getOrInsert "xl" 0).2 =
      ofUpdates [("md", 1), ("lg", 2)] repeatedUpdates := by
  have h := ofUpdates_shows_updates [("md", 1), ("lg", 2)] repeatedUpdates
  have hne : ("lg", 3).1 ≠ "md" := by decide
  have hget : (ofUpdates [("md", 1), ("lg", 2)] repeatedUpdates).get? "xl" = some 10 := by
    rw [h.1.get?_eq]
    decide
  exact ⟨h.1, hne, (h.2.2.1 "md" 7).2 _ hne 1, hget, (h.2.2.2.1 "xl" 0).2 10 hget⟩

end IndexedList

end LayoutSheet
