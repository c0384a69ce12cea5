import LayoutSheet.Sheet
import Mathlib.Data.List.Induction
import Mathlib.Data.List.Nodup

namespace LayoutSheet

universe u v

theorem getElem?_concat_eq_some_iff {α : Type u} {l : List α} {i : Nat} {a b : α} :
    (l ++ [a])[i]? = some b ↔ l[i]? = some b ∨ i = l.length ∧ a = b := by
  constructor
  · intro h
    obtain hi | hi := Nat.lt_or_ge i l.length
    · exact .inl (by rwa [List.getElem?_append_left hi] at h)
    · rw [List.getElem?_append_right hi, List.getElem?_singleton,
        Option.ite_none_right_eq_some] at h
      exact .inr ⟨by omega, Option.some.inj h.2⟩
  · rintro (h | ⟨rfl, rfl⟩)
    · rwa [List.getElem?_append_left (List.getElem?_eq_some_iff.1 h).1]
    · exact List.getElem?_concat_length

theorem map_modify {α : Type u} {β : Type v} (f : α → β) (g : α → α) (g' : β → β)
    (h : ∀ a, f (g a) = g' (f a)) (l : List α) (i : Nat) :
    (l.modify i g).map f = (l.map f).modify i g' := by
  refine List.ext_getElem? fun j ↦ ?_
  rw [List.getElem?_map, List.getElem?_modify, List.getElem?_modify, List.getElem?_map]
  cases l[j]? with
  | none => rfl
  | some a => by_cases hij : i = j <;> simp [hij, h]

theorem map_modify_of_eq {α : Type u} {β : Type v} (f : α → β) (g : α → α) (h : ∀ a, f (g a) = f a)
    (l : List α) (i : Nat) : (l.modify i g).map f = l.map f := by
  rw [map_modify f g id h, List.modify_id]

section FirstOccurrences

variable {α : Type} [BEq α] [LawfulBEq α]

theorem eraseDups_concat (l : List α) (a : α) :
    (l ++ [a]).eraseDups = if a ∈ l then l.eraseDups else l.eraseDups ++ [a] := by
  rw [List.eraseDups_append]
  by_cases h : a ∈ l
  · have hr : [a].removeAll l = [] := by simpa [List.removeAll] using h
    rw [if_pos h, hr, List.eraseDups_nil, List.append_nil]
  · have hr : [a].removeAll l = [a] := by simpa [List.removeAll] using h
    rw [if_neg h, hr]
    rfl

theorem eraseDups_of_nodup {l : List α} (h : l.Nodup) :
    l.eraseDups = l := by
  induction l using List.reverseRecOn with
  | nil => rfl
  | append_singleton l a ih =>
    have ha : a ∉ l := fun hl ↦ List.disjoint_of_nodup_append h hl (List.mem_singleton_self a)
    rw [eraseDups_concat, if_neg ha, ih h.of_append_left]

theorem nodup_eraseDups (l : List α) : l.eraseDups.Nodup := by
  induction l using List.reverseRecOn with
  | nil => exact .nil
  | append_singleton l a ih =>
    rw [eraseDups_concat]
    split
    · exact ih
    · next h =>
      have ha : a ∉ l.eraseDups := mt List.mem_eraseDups.1 h
      exact List.concat_eq_append ▸ ih.concat ha

theorem eraseDups_map_of_injective {β : Type} [BEq β] [LawfulBEq β] {f : α → β}
    (hf : ∀ a b, f a = f b → a = b) (l : List α) : (l.map f).eraseDups = l.eraseDups.map f := by
  induction l using List.reverseRecOn with
  | nil => rfl
  | append_singleton l a ih =>
    have hm : f a ∈ l.map f ↔ a ∈ l := List.mem_map_of_injective hf
    rw [List.map_append, List.map_singleton, eraseDups_concat, eraseDups_concat, ih]
    by_cases h : a ∈ l
    · rw [if_pos h, if_pos (hm.2 h)]
    · rw [if_neg h, if_neg (mt hm.1 h), List.map_append, List.map_singleton]

theorem eraseDups_append_of_forall_eq {l m : List α} {a : α}
    (hm : m ≠ []) (h : ∀ b ∈ m, b = a) : (l ++ m).eraseDups = (l ++ [a]).eraseDups := by
  induction m using List.reverseRecOn with
  | nil => exact absurd rfl hm
  | append_singleton m b ih =>
    obtain rfl := h b (by simp)
    by_cases hn : m = []
    · rw [hn, List.nil_append]
    · have hb : b ∈ l ++ m := by
        obtain ⟨c, hc⟩ := List.exists_mem_of_ne_nil m hn
        exact List.mem_append_right l (h c (List.mem_append_left _ hc) ▸ hc)
      rw [← List.append_assoc, eraseDups_concat, if_pos hb]
      exact ih hn fun c hc ↦ h c (List.mem_append_left _ hc)

theorem exists_eraseDups_append_pair {l : List α} {a b : α} (ha : a ∉ l) (hb : b ∉ l)
    (hne : b ≠ a) (m : List α) :
    ∃ n, (l ++ a :: b :: m).eraseDups = l.eraseDups ++ a :: b :: n := by
  have hr : (a :: b :: m).removeAll l = a :: b :: m.removeAll l := by
    simp [List.removeAll, ha, hb]
  rw [List.eraseDups_append, hr, List.eraseDups_cons, List.filter_cons_of_pos (by simpa using hne),
    List.eraseDups_cons]
  exact ⟨_, rfl⟩

end FirstOccurrences

namespace KeyedList

variable {α : Type} {β : Type u} (key : α → String) (init : β) (f : α → β → β)

def gather (xs : List α) : KeyedList β := xs.foldl (fun m x ↦ m.upsert (key x) init (f x)) ∅

theorem gather_concat (xs : List α) (x : α) :
    gather key init f (xs ++ [x]) = (gather key init f xs).upsert (key x) init (f x) := by
  simp [gather]

theorem keys_gather (xs : List α) : (gather key init f xs).keys = (xs.map key).eraseDups := by
  induction xs using List.reverseRecOn with
  | nil => rfl
  | append_singleton xs x ih =>
    rw [gather_concat, keys_upsert, ih, List.map_append, List.map_singleton, eraseDups_concat]
    simp only [List.mem_eraseDups]

theorem filter_key_eq_nil_iff {key : α → String} {xs : List α} {k : String} :
    xs.filter (fun x ↦ key x = k) = [] ↔ k ∉ xs.map key := by
  simp [List.filter_eq_nil_iff]

theorem get?_gather (xs : List α) (k : String) :
    (gather key init f xs).get? k =
      if xs.filter (fun x ↦ key x = k) = [] then none
      else some ((xs.filter fun x ↦ key x = k).foldl (fun v x ↦ f x v) init) := by
  induction xs using List.reverseRecOn with
  | nil => rfl
  | append_singleton xs x ih =>
    rw [gather_concat, get?_upsert]
    by_cases h : k = key x
    · subst h
      have hv : ((gather key init f xs).get? (key x)).getD init =
          (xs.filter fun y ↦ key y = key x).foldl (fun v y ↦ f y v) init := by
        rw [ih]
        split
        · next hn => rw [hn, Option.getD_none, List.foldl_nil]
        · rfl
      rw [if_pos rfl, if_neg (by simp), hv, List.filter_append, List.foldl_append]
      simp
    · rw [if_neg h, ih]
      simp [Ne.symm h]

/-- Every key once, in the order of the first items, with what its own items make of it. -/
theorem toList_gather (xs : List α) :
    (gather key init f xs).toList = (xs.map key).eraseDups.map fun k ↦
      (k, (xs.filter fun x ↦ key x = k).foldl (fun v x ↦ f x v) init) := by
  rw [← keys_gather key init f]
  refine toList_eq_map_keys fun k hk ↦ ?_
  rw [keys_gather, List.mem_eraseDups] at hk
  rw [get?_gather, if_neg (mt filter_key_eq_nil_iff.1 (not_not_intro hk))]

variable {key init f} in
theorem eq_of_get?_gather {xs : List α} {k : String} {v : β}
    (h : (gather key init f xs).get? k = some v) :
    xs.filter (fun x ↦ key x = k) ≠ [] ∧
      v = (xs.filter fun x ↦ key x = k).foldl (fun v x ↦ f x v) init := by
  rw [get?_gather] at h
  split at h
  · cases h
  · next hn => exact ⟨hn, (Option.some.inj h).symm⟩

variable {key init f} in
theorem size_gather_ne_zero {xs : List α} (h : xs ≠ []) : (gather key init f xs).size ≠ 0 := by
  obtain ⟨x, hx⟩ := List.exists_mem_of_ne_nil xs h
  have hk : key x ∈ (gather key init f xs).keys := by
    rw [keys_gather, List.mem_eraseDups]
    exact List.mem_map_of_mem hx
  rw [← length_keys]
  exact Nat.ne_of_gt (List.length_pos_of_mem hk)

theorem filter_toList_gather (keep : String → Bool) (xs : List α) :
    (gather key init f xs).toList.filter (fun e ↦ keep e.1) =
      (gather key init f (xs.filter fun x ↦ keep (key x))).toList := by
  induction xs using List.reverseRecOn with
  | nil => rfl
  | append_singleton xs x ih =>
    simp only [toList] at ih ⊢
    rw [gather_concat, upsert, filter_upsertEntries, ih, List.filter_append]
    by_cases h : keep (key x)
    · simp [h, gather_concat, upsert]
    · simp [h]

theorem nodup_flatMap_toList {γ : Type} {m : KeyedList β} {f : String × β → List γ}
    (tag : γ → String) (hf : ∀ e ∈ m.toList, (f e).Nodup)
    (ht : ∀ e ∈ m.toList, ∀ c ∈ f e, tag c = e.1) : (m.toList.flatMap f).Nodup := by
  have hk : m.toList.Pairwise fun e e' ↦ e.1 ≠ e'.1 := List.pairwise_map.1 m.nodup_keys
  refine List.nodup_flatMap.2 ⟨hf, hk.imp_of_mem ?_⟩
  intro e e' he he' hne c hc hc'
  exact hne ((ht e he c hc).symm.trans (ht e' he' c hc'))

end KeyedList

def Layer.write (w : Write) (l : Layer) : Layer :=
  l.upsert w.selector ∅ fun d ↦ d.insertAll w.declarations

def Layer.ofWrites : List Write → Layer :=
  KeyedList.gather Write.selector ∅ fun w d ↦ d.insertAll w.declarations

def Block.write (w : Write) (b : Block) : Block := b.upsert w.breakpoint ∅ (Layer.write w)

def Block.ofWrites : List Write → Block := KeyedList.gather Write.breakpoint ∅ Layer.write

theorem Block.toList_ofWrites (ws : List Write) :
    (Block.ofWrites ws).toList = (ws.map Write.breakpoint).eraseDups.map fun name ↦
      (name, Layer.ofWrites (ws.filter fun w ↦ w.breakpoint = name)) :=
  KeyedList.toList_gather Write.breakpoint ∅ Layer.write ws

namespace Sheet

theorem blocks_ofWrites (ws : List Write) :
    (ofWrites ws).blocks = KeyedList.gather Write.query ∅ Block.write ws :=
  (List.foldl_hom Sheet.blocks fun _ _ ↦ rfl).symm

theorem toList_blocks_ofWrites (ws : List Write) :
    (ofWrites ws).blocks.toList = (ws.map Write.query).eraseDups.map fun query ↦
      (query, Block.ofWrites (ws.filter fun w ↦ w.query = query)) := by
  rw [blocks_ofWrites]
  exact KeyedList.toList_gather Write.query ∅ Block.write ws

/-- The layer of a query and breakpoint comes from the writes for both alone. -/
theorem layer?_ofWrites (ws : List Write) (query breakpoint : String) :
    (ofWrites ws).layer? query breakpoint =
      if (ws.filter fun w ↦ w.query = query).filter (fun w ↦ w.breakpoint = breakpoint) = []
      then none
      else some (Layer.ofWrites
        ((ws.filter fun w ↦ w.query = query).filter fun w ↦ w.breakpoint = breakpoint)) := by
  rw [layer?, blocks_ofWrites, KeyedList.get?_gather]
  split
  · next hn => rw [hn, List.filter_nil, if_pos rfl, Option.bind_none]
  · exact KeyedList.get?_gather Write.breakpoint ∅ Layer.write _ breakpoint

def sections (s : Sheet) : List (String × String × Layer) :=
  s.blocks.toList.flatMap fun (query, b) ↦ b.toList.map fun (breakpoint, l) ↦ (query, breakpoint, l)

end Sheet

end LayoutSheet
