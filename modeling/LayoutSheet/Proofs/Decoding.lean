import LayoutSheet.Proofs.Strictness
import LayoutSheet.Proofs.Writing

namespace LayoutSheet.Json

theorem mapM_of_forall₂ {m : Type → Type} [Monad m] [LawfulMonad m] {α β : Type} {f : α → m β}
    {l : List β} {as : List α} (h : l.Forall₂ (fun b a ↦ f a = pure b) as) :
    as.mapM f = pure l := by
  induction h with
  | nil => rfl
  | cons hx _ ih => simp only [List.mapM_cons, hx, ih, pure_bind]

theorem filterMap_key_of_notMem {β γ : Type*} (f : β → γ) {l : List (String × β)} {k : String}
    (h : k ∉ l.map Prod.fst) : (l.map fun e ↦ (e.1, f e.2)).filterMap
      (fun (key, v) ↦ if key = k then some v else none) = [] := by
  refine List.filterMap_eq_nil_iff.2 ?_
  intro x hx
  obtain ⟨e, he, rfl⟩ := List.mem_map.1 hx
  refine if_neg ?_
  rintro rfl
  exact h (List.mem_map_of_mem he)

theorem filterMap_key_of_mem {β γ : Type*} (f : β → γ) {l : List (String × β)} {k : String} {b : β}
    (hn : (l.map Prod.fst).Nodup) (h : (k, b) ∈ l) : (l.map fun e ↦ (e.1, f e.2)).filterMap
      (fun (key, v) ↦ if key = k then some v else none) = [f b] := by
  induction l with
  | nil => cases h
  | cons e l ih =>
    obtain ⟨he, hl⟩ := List.nodup_cons.1 hn
    obtain rfl | hm := List.mem_cons.1 h
    · simp only [List.map_cons, List.filterMap_cons, if_true, filterMap_key_of_notMem f he]
    · have hne : e.1 ≠ k := by
        rintro rfl
        exact he (List.mem_map.2 ⟨_, hm, rfl⟩)
      simp only [List.map_cons, List.filterMap_cons, if_neg hne, ih hl hm]

theorem Tree.enter_of_lt {depth : Nat} (h : depth < maxDepth) : enter depth = .ok (depth + 1) :=
  if_pos h

/-- The decoder reads every document of a value as that value, wherever `n` more levels may be
nested. -/
def Decoder.Reads {α : Type} (d : Decoder α) (w : Writing α) (n : Nat) : Prop :=
  ∀ ⦃a v depth⦄, w a v → depth + n ≤ Tree.maxDepth → d depth v.tree = .ok a

namespace Decoder

variable {α : Type} {d : Decoder α} {w : Writing α} {m n : Nat}

theorem Reads.mono (h : d.Reads w m) (hmn : m ≤ n) : d.Reads w n :=
  fun _ _ _ ha hd ↦ h ha (by omega)

theorem string_reads : string.Reads .text 0 := by
  rintro s v depth rfl -
  rfl

theorem boolean_reads : boolean.Reads .flag 0 := by
  rintro b v depth rfl -
  cases b <;> rfl

theorem word32_reads : word32.Reads .count 0 := by
  rintro k v depth rfl -
  have hk : k.toNat < 2 ^ 32 := k.toNat_lt
  have hv : (Numeral.ofInt k.toNat).value = .ok (.whole k.toNat) :=
    Numeral.value_ofInt ⟨by omega, by omega⟩
  have hs : k.toNat < UInt32.size := hk
  simp only [word32, Document.tree, hv]
  change (if k.toNat < UInt32.size then _ else _) = _
  rw [if_pos hs, UInt32.ofNat_toNat]

theorem optional_reads (h : d.Reads w n) (hw : ∀ a, ¬ w a (.word .null)) :
    (optional d).Reads (.optional w) n := by
  intro o v depth ho hd
  cases o with
  | none =>
    obtain rfl : v = .word .null := ho
    rfl
  | some a =>
    have hv := h ho hd
    unfold optional
    split
    · next ht => exact absurd (Document.eq_null_of_tree ht ▸ ho) (hw a)
    · rw [hv]; rfl

theorem enter_ok {depth : Nat} (h : depth < Tree.maxDepth) :
    liftFault (Tree.enter depth) = .ok (depth + 1) := by
  rw [Tree.enter_of_lt h]
  rfl

theorem list_reads (h : d.Reads w n) : (list d).Reads (.list w) (n + 1) := by
  rintro l v depth ⟨vs, rfl, hl⟩ hd
  have hvs : (vs.map Document.tree).mapM (d (depth + 1)) = .ok l := by
    refine mapM_of_forall₂ ?_
    rw [List.forall₂_map_right_iff]
    exact hl.imp fun _ _ hx ↦ h hx (by omega)
  simp only [list, Document.tree, Document.trees_eq_map, enter_ok (show depth < _ by omega),
    ok_bind, hvs]
  rfl

theorem keyed_reads (h : d.Reads w n) : (keyed d).Reads (.keyed w) (n + 1) := by
  rintro l v depth ⟨entries, ms, rfl, rfl, hl⟩ hd
  have hms : (Document.memberTrees ms).mapM (fun (key, v) ↦ do
      let key ← liftFault key
      return (key, ← d (depth + 1) v)) = .ok entries := by
    refine mapM_of_forall₂ ?_
    rw [Document.memberTrees_eq_map, List.forall₂_map_right_iff]
    refine hl.imp ?_
    rintro ⟨k, a⟩ ⟨k', v⟩ ⟨rfl, ha⟩
    have hv := h ha (show depth + 1 + n ≤ _ by omega)
    simp only [hv, bind, Except.bind]
    rfl
  simp only [keyed, Document.tree, enter_ok (show depth < _ by omega), ok_bind, hms]
  rfl

end Decoder

namespace Writing

variable {α : Type} {w : Writing α} {n : Nat}

def IsReadable (w : Writing α) (n : Nat) : Prop :=
  ∀ ⦃a v depth⦄, w a v → depth + n ≤ Tree.maxDepth → v.tree.readable depth = .ok ()

theorem readableItems_eq {depth : Nat} {vs : List Document}
    (h : ∀ v ∈ vs, v.tree.readable depth = .ok ()) :
    Tree.readableItems depth (Document.trees vs) = .ok () := by
  induction vs with
  | nil => rfl
  | cons v vs ih =>
    obtain ⟨hv, hvs⟩ := List.forall_mem_cons.1 h
    rw [Document.trees, Tree.readableItems, hv]
    exact ih hvs

theorem readableMembers_eq {depth : Nat} {ms : List (String × Document)}
    (h : ∀ m ∈ ms, m.2.tree.readable depth = .ok ()) :
    Tree.readableMembers depth (Document.memberTrees ms) = .ok () := by
  induction ms with
  | nil => rfl
  | cons m ms ih =>
    obtain ⟨hm, hms⟩ := List.forall_mem_cons.1 h
    rw [Document.memberTrees, Tree.readableMembers, hm]
    exact ih hms

theorem readable_list {depth : Nat} {vs : List Document} (hd : depth < Tree.maxDepth)
    (h : ∀ v ∈ vs, v.tree.readable (depth + 1) = .ok ()) :
    (Document.list vs).tree.readable depth = .ok () := by
  rw [Document.tree, Tree.readable, Tree.enter_of_lt hd, Decoder.ok_bind, readableItems_eq h]
  rfl

theorem readable_object {depth : Nat} {ms : List (String × Document)} (hd : depth < Tree.maxDepth)
    (h : ∀ m ∈ ms, m.2.tree.readable (depth + 1) = .ok ()) :
    (Document.object ms).tree.readable depth = .ok () := by
  rw [Document.tree, Tree.readable, Tree.enter_of_lt hd, Decoder.ok_bind, readableMembers_eq h]
  rfl

theorem text_isReadable : text.IsReadable 0 := by
  rintro s v depth rfl -
  rfl

theorem optional_isReadable (h : w.IsReadable n) : (optional w).IsReadable n := by
  intro o v depth ho hd
  cases o with
  | none =>
    obtain rfl : v = .word .null := ho
    rfl
  | some a => exact h ho hd

theorem list_isReadable (h : w.IsReadable n) : (list w).IsReadable (n + 1) := by
  rintro l v depth ⟨vs, rfl, hl⟩ hd
  refine readable_list (by omega) ?_
  intro v hv
  obtain ⟨a, -, ha⟩ := exists_mem_of_forall₂ hl v hv
  exact h ha (by omega)

theorem keyed_isReadable (h : w.IsReadable n) : (keyed w).IsReadable (n + 1) := by
  rintro m v depth ⟨entries, ms, rfl, -, hl⟩ hd
  refine readable_object (by omega) ?_
  intro x hx
  obtain ⟨e, -, -, he⟩ := exists_mem_of_forall₂ hl x hx
  exact h he (by omega)

theorem record_isReadable {slots : List (Slot α)} {blank : α}
    (h : ∀ s ∈ slots, s.writing.IsReadable n) : (record slots blank).IsReadable (n + 1) := by
  rintro a v depth ⟨ms, rfl, -, hms, -⟩ hd
  refine readable_object (by omega) ?_
  intro x hx
  obtain ⟨s, hs, -, hv⟩ := hms x hx
  exact h s hs hv (by omega)

theorem strings?_of_list_text {l : List String} {v : Document} (h : list text l v) :
    v.tree.strings? = some l := by
  obtain ⟨vs, rfl, hl⟩ := h
  rw [Document.tree, Tree.strings?, Document.trees_eq_map]
  refine mapM_of_forall₂ ?_
  rw [List.forall₂_map_right_iff]
  refine hl.imp ?_
  rintro s v rfl
  rfl

theorem members?_object (ms : List (String × Document)) :
    (Document.object ms).tree.members? = some (ms.map fun m ↦ (m.1, m.2.tree)) := by
  rw [Document.tree, Tree.members?, Document.memberTrees_eq_map]
  refine mapM_of_forall₂ ?_
  rw [List.forall₂_map_left_iff, List.forall₂_map_right_iff, List.forall₂_same]
  exact fun _ _ ↦ rfl

end Writing

namespace Decoder

variable {α : Type} {d : Decoder α} {w : Writing α} {n : Nat}

theorem form_reads {name : String} {read : Tree → Option α} (hr : w.IsReadable n)
    (h : ∀ a v, w a v → read v.tree = some a) : (form name read).Reads w n := by
  intro a v depth hv hd
  rw [form, hr hv hd, h a v hv]
  rfl

theorem choice_reads {first second : String × α} (h : first.1 ≠ second.1)
    (hw : ∀ a v, w a v →
      a = first.2 ∧ v = .string first.1 ∨ a = second.2 ∧ v = .string second.1) :
    (choice first second).Reads w 0 := by
  intro a v depth hv _
  obtain ⟨rfl, rfl⟩ | ⟨rfl, rfl⟩ := hw a v hv
  · exact if_pos rfl
  · exact (if_neg h.symm).trans (if_pos rfl)

theorem run_reads (h : d.Reads w n) (hn : n ≤ Tree.maxDepth) {a : α} {text : String}
    (ht : w.Text a text) : d.run text = .ok a := by
  obtain ⟨v, hv, ht⟩ := ht
  rw [run, Document.ofTokens_of_text ht]
  dsimp only
  rw [h hv (by omega)]
  rfl

end Decoder

/-- A slot and a field of a record that fit: the field reads what is written for the slot, and
leaves what the other slots hold. -/
def Slot.Fits {α : Type} (slots : List (Slot α)) (n : Nat) (s : Slot α) (f : Field α) : Prop :=
  ∃ (d : Decoder s.Content) (set : α → s.Content → α),
    f = ⟨s.name, !s.needed, fun depth t a ↦ (d depth t).map (set a)⟩ ∧ d.Reads s.writing n ∧
      (∀ a x, s.get (set a x) = x) ∧
        ∀ s' ∈ slots, s'.name ≠ s.name → ∀ a x, s'.get (set a x) = s'.get a

theorem Slot.fits {α β : Type} {slots : List (Slot α)} {n : Nat} {name : String} {needed : Bool}
    {get : α → β} {w : Writing β} {d : Decoder β} {set : α → β → α} (hd : d.Reads w n)
    (hget : ∀ a x, get (set a x) = x)
    (ho : ∀ s ∈ slots, s.name ≠ name → ∀ a x, s.get (set a x) = s.get a) :
    Slot.Fits slots n ⟨name, needed, β, get, w⟩
      ⟨name, !needed, fun depth t a ↦ (d depth t).map (set a)⟩ :=
  ⟨d, set, rfl, hd, hget, ho⟩

namespace Record

variable {α : Type}

structure Fits (r : Record α) (slots : List (Slot α)) (n : Nat) : Prop where
  fields : slots.Forall₂ (Slot.Fits slots n) r.fields
  distinct : (slots.map Slot.name).Nodup
  ext : ∀ a b, (∀ s ∈ slots, s.get a = s.get b) → a = b

variable {r : Record α} {slots : List (Slot α)} {n : Nat} {s : Slot α} {a : α}

theorem exists_find? {l : List (Slot α)} {fs : List (Field α)}
    (h : l.Forall₂ (Slot.Fits slots n) fs) (hd : (l.map Slot.name).Nodup) (hs : s ∈ l) :
    ∃ f, fs.find? (fun f ↦ f.name == s.name) = some f ∧ s.Fits slots n f := by
  induction h with
  | nil => cases hs
  | @cons s' f l fs hf _ ih =>
    obtain ⟨hn, hd⟩ := List.nodup_cons.1 hd
    have hname : f.name = s'.name := by
      obtain ⟨d, set, rfl, -⟩ := hf
      rfl
    obtain rfl | hs := List.mem_cons.1 hs
    · exact ⟨f, List.find?_cons_of_pos (beq_iff_eq.2 hname), hf⟩
    · have hne : ¬ (f.name == s.name) = true := by
        rw [beq_iff_eq, hname]
        exact fun he ↦ hn (he ▸ List.mem_map_of_mem hs)
      obtain ⟨f', hf', hfits⟩ := ih hd hs
      refine ⟨f', ?_, hfits⟩
      rw [← hf']
      exact List.find?_cons_of_neg hne

theorem exists_field? (h : r.Fits slots n) (hs : s ∈ slots) :
    ∃ f, r.field? s.name = some f ∧ s.Fits slots n f :=
  exists_find? h.fields h.distinct hs

/-- What is read so far: the slots with the names in `seen` are those of `a`, the others blank. -/
def ReadSoFar (r : Record α) (slots : List (Slot α)) (a : α) (seen : List String) (b : α) : Prop :=
  ∀ s ∈ slots, s.get b = if s.name ∈ seen then s.get a else s.get r.blank

theorem readSoFar_nil : r.ReadSoFar slots a [] r.blank :=
  fun _ _ ↦ (if_neg List.not_mem_nil).symm

theorem ReadSoFar.cons {seen : List String} {b c : α} (h : r.ReadSoFar slots a seen b)
    (hd : (slots.map Slot.name).Nodup) (hs : s ∈ slots) (hc : s.get c = s.get a)
    (hothers : ∀ s' ∈ slots, s'.name ≠ s.name → s'.get c = s'.get b) :
    r.ReadSoFar slots a (s.name :: seen) c := by
  intro s' hs'
  by_cases hn : s'.name = s.name
  · obtain rfl := List.inj_on_of_nodup_map hd hs' hs hn
    rw [if_pos List.mem_cons_self, hc]
  · rw [hothers s' hs' hn, h s' hs']
    simp only [List.mem_cons, hn, false_or]

theorem readMembers_reads (h : r.Fits slots n) {depth : Nat} (hd : depth + n ≤ Tree.maxDepth)
    {ms : List (String × Document)} {seen : List String} {b : α}
    (hms : ∀ m ∈ ms, ∃ s ∈ slots, s.name = m.1 ∧ s.writing (s.get a) m.2)
    (hn : (ms.map Prod.fst).Nodup) (hseen : ∀ m ∈ ms, m.1 ∉ seen)
    (hb : r.ReadSoFar slots a seen b) :
    ∃ seen' c, r.readMembers depth (Document.memberTrees ms) seen b = .ok (seen', c) ∧
      (∀ k, k ∈ seen' ↔ k ∈ ms.map Prod.fst ∨ k ∈ seen) ∧ r.ReadSoFar slots a seen' c := by
  induction ms generalizing seen b with
  | nil => exact ⟨seen, b, rfl, by simp, hb⟩
  | cons m ms ih =>
    obtain ⟨k, v⟩ := m
    obtain ⟨⟨s, hs, rfl, hv⟩, hrest⟩ := List.forall_mem_cons.1 hms
    obtain ⟨hk, hseen⟩ := List.forall_mem_cons.1 hseen
    obtain ⟨hkn, hn⟩ := List.nodup_cons.1 hn
    obtain ⟨f, hf, d, set, rfl, hread, hget, hothers⟩ := exists_field? h hs
    -- The member is read into its own slot, so the value agrees on one more name.
    have hc := hb.cons h.distinct hs (hget b (s.get a))
      fun s' hs' hne ↦ hothers s' hs' hne b (s.get a)
    have hseen' : ∀ m ∈ ms, m.1 ∉ s.name :: seen := by
      intro m hm hmem
      obtain he | hmem := List.mem_cons.1 hmem
      · exact hkn (List.mem_map.2 ⟨m, hm, he⟩)
      · exact hseen m hm hmem
    obtain ⟨seen', c, hr, hkeys, hc'⟩ := ih hrest hn hseen' hc
    have hone : (d depth v.tree).map (set b) = .ok (set b (s.get a)) := by
      rw [hread hv hd]
      rfl
    refine ⟨seen', c, ?_, ?_, hc'⟩
    · simp only [Document.memberTrees, readMembers, liftFault, Except.mapError, Decoder.ok_bind, hf,
        hone, hr, if_neg hk]
    · intro k
      rw [hkeys, List.map_cons, List.mem_cons, List.mem_cons]
      exact or_left_comm.trans or_assoc.symm

theorem Fits.decoder_reads (h : r.Fits slots n) :
    r.decoder.Reads (.record slots r.blank) (n + 1) := by
  rintro a v depth ⟨ms, rfl, hn, hms, habsent⟩ hd
  have hdepth : depth + 1 + n ≤ Tree.maxDepth := by omega
  obtain ⟨seen, b, hr, hkeys, hb⟩ := readMembers_reads h hdepth hms hn
    (fun _ _ ↦ List.not_mem_nil) readSoFar_nil
  have hall : b = a := by
    refine h.ext b a ?_
    intro s hs
    rw [hb s hs]
    split
    · rfl
    · next hmem =>
      obtain hm | ⟨-, he⟩ := habsent s hs
      · exact absurd ((hkeys _).2 (.inl hm)) hmem
      · exact he.symm
  -- A field that may not be left out has a member.
  have hmissing : r.missing? seen = none := by
    rw [missing?, Option.map_eq_none_iff, List.find?_eq_none]
    intro f hf
    obtain ⟨s, hs, d, set, rfl, -⟩ := exists_mem_of_forall₂ h.fields f hf
    obtain hm | ⟨hneed, -⟩ := habsent s hs
    · have hc : s.name ∈ seen := (hkeys _).2 (.inl hm)
      simp [hc]
    · simp [hneed]
  simp only [decoder, Document.tree, Decoder.enter_ok (show depth < _ by omega), Decoder.ok_bind,
    hr, hmissing, hall]
  rfl

end Record

end LayoutSheet.Json
