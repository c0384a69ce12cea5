import LayoutSheet.Json.Record
import LayoutSheet.Proofs.Trees

namespace LayoutSheet.Json

theorem Decoder.ok_bind {ε α β : Type} (a : α) (f : α → Except ε β) : (.ok a >>= f) = f a := rfl

theorem bind_eq_ok {ε α β : Type} {x : Except ε α} {f : α → Except ε β} {b : β} :
    (x >>= f) = .ok b ↔ ∃ a, x = .ok a ∧ f a = .ok b := by
  cases x with
  | error e => exact iff_of_false nofun nofun
  | ok a => simp [bind, Except.bind]

theorem map_eq_ok {ε α β : Type} {x : Except ε α} {f : α → β} {b : β} :
    x.map f = .ok b ↔ ∃ a, x = .ok a ∧ f a = b := by
  cases x <;> simp [Except.map]

theorem liftFault_eq_ok {α : Type} {x : Except Fault α} {a : α} :
    liftFault x = .ok a ↔ x = .ok a := by
  cases x <;> simp [liftFault, Except.mapError]

theorem ListStop.check_eq_ok {stop : ListStop} : stop.check = .ok () ↔ stop = .closed := by
  cases stop <;> simp [check]

theorem ListStop.skim_eq_ok {stop : ListStop} : stop.skim = .ok () ↔ stop = .closed := by
  cases stop <;> simp [skim, check]

theorem ListStop.checkLast_eq_ok {stop : ListStop} : stop.checkLast = .ok () ↔ stop = .closed := by
  cases stop <;> simp [checkLast, check]

theorem ObjectStop.check_eq_ok {stop : ObjectStop} : stop.check = .ok () ↔ stop = .closed := by
  unfold check
  split <;> simp

theorem ObjectStop.skim_eq_ok {stop : ObjectStop} : stop.skim = .ok () ↔ stop = .closed := by
  unfold skim
  split <;> simp [check_eq_ok]

namespace Tree

mutual

theorem isWhole_of_skim (v : Tree) (h : v.skim = .ok ()) : v.IsWhole := by
  cases v with
  | word w => exact .word w
  | numeral n => exact .numeral n
  | string s => exact .string s
  | list items stop =>
    rw [skim] at h
    obtain ⟨⟨⟩, hi, hs⟩ := bind_eq_ok.1 h
    obtain rfl := ListStop.skim_eq_ok.1 hs
    exact .list (isWhole_of_skimItems items hi)
  | object members stop =>
    rw [skim] at h
    obtain ⟨⟨⟩, hm, hs⟩ := bind_eq_ok.1 h
    obtain rfl := ObjectStop.skim_eq_ok.1 hs
    exact .object (isWhole_of_skimMembers members hm)
  | broken | unpaired => cases h

theorem isWhole_of_skimItems (vs : List Tree) (h : skimItems vs = .ok ()) :
    ∀ v ∈ vs, v.IsWhole := by
  cases vs with
  | nil => exact nofun
  | cons v vs =>
    rw [skimItems] at h
    obtain ⟨⟨⟩, hv, hvs⟩ := bind_eq_ok.1 h
    exact List.forall_mem_cons.2 ⟨isWhole_of_skim v hv, isWhole_of_skimItems vs hvs⟩

theorem isWhole_of_skimMembers (ms : List Member) (h : skimMembers ms = .ok ()) :
    ∀ m ∈ ms, m.2.IsWhole := by
  cases ms with
  | nil => exact nofun
  | cons m ms =>
    obtain ⟨k, v⟩ := m
    rw [skimMembers] at h
    obtain ⟨⟨⟩, hv, hms⟩ := bind_eq_ok.1 h
    exact List.forall_mem_cons.2 ⟨isWhole_of_skim v hv, isWhole_of_skimMembers ms hms⟩

end

mutual

theorem isWhole_of_readable (v : Tree) (depth : Nat) (h : v.readable depth = .ok ()) :
    v.IsWhole := by
  cases v with
  | word w => exact .word w
  | numeral n => exact .numeral n
  | string s => exact .string s
  | list items stop =>
    rw [readable] at h
    obtain ⟨depth, -, h⟩ := bind_eq_ok.1 h
    obtain ⟨⟨⟩, hi, hs⟩ := bind_eq_ok.1 h
    obtain rfl := ListStop.check_eq_ok.1 hs
    exact .list (isWhole_of_readableItems items depth hi)
  | object members stop =>
    rw [readable] at h
    obtain ⟨depth, -, h⟩ := bind_eq_ok.1 h
    obtain ⟨⟨⟩, hm, hs⟩ := bind_eq_ok.1 h
    obtain rfl := ObjectStop.check_eq_ok.1 hs
    exact .object (isWhole_of_readableMembers members depth hm)
  | broken | unpaired => cases h

theorem isWhole_of_readableItems (vs : List Tree) (depth : Nat)
    (h : readableItems depth vs = .ok ()) : ∀ v ∈ vs, v.IsWhole := by
  cases vs with
  | nil => exact nofun
  | cons v vs =>
    rw [readableItems] at h
    obtain ⟨⟨⟩, hv, hvs⟩ := bind_eq_ok.1 h
    exact List.forall_mem_cons.2
      ⟨isWhole_of_readable v depth hv, isWhole_of_readableItems vs depth hvs⟩

theorem isWhole_of_readableMembers (ms : List Member) (depth : Nat)
    (h : readableMembers depth ms = .ok ()) : ∀ m ∈ ms, m.2.IsWhole := by
  cases ms with
  | nil => exact nofun
  | cons m ms =>
    obtain ⟨k, v⟩ := m
    rw [readableMembers] at h
    obtain ⟨⟨⟩, -, h⟩ := bind_eq_ok.1 h
    obtain ⟨⟨⟩, hv, hms⟩ := bind_eq_ok.1 h
    exact List.forall_mem_cons.2
      ⟨isWhole_of_readable v depth hv, isWhole_of_readableMembers ms depth hms⟩

end

theorem skimItems_eq_ok {vs : List Tree} (h : ∀ v ∈ vs, v.skim = .ok ()) :
    skimItems vs = .ok () := by
  induction vs with
  | nil => rfl
  | cons v vs ih =>
    obtain ⟨hv, hvs⟩ := List.forall_mem_cons.1 h
    rw [skimItems, hv]
    exact ih hvs

theorem skimMembers_eq_ok {ms : List Member} (h : ∀ m ∈ ms, m.2.skim = .ok ()) :
    skimMembers ms = .ok () := by
  induction ms with
  | nil => rfl
  | cons m ms ih =>
    obtain ⟨hm, hms⟩ := List.forall_mem_cons.1 h
    rw [skimMembers, hm]
    exact ih hms

/-- A whole tree is passed over, however deep it is. -/
theorem IsWhole.skim {v : Tree} (h : v.IsWhole) : v.skim = .ok () := by
  induction h with
  | word | numeral | string => rfl
  | list _ ih =>
    rw [Tree.skim, skimItems_eq_ok ih]
    rfl
  | object _ ih =>
    rw [Tree.skim, skimMembers_eq_ok ih]
    rfl

end Tree

namespace Decoder

variable {α : Type} {d : Decoder α}

/-- The decoder accepts no tree with a fault of grammar. -/
def Strict (d : Decoder α) : Prop := ∀ ⦃depth v a⦄, d depth v = .ok a → v.IsWhole

theorem mismatch_ne_ok {expected : String} {v : Tree} {a : α} : mismatch expected v ≠ .ok a := by
  unfold mismatch
  split <;> nofun

theorem string_strict : string.Strict := by
  intro depth v a h
  unfold string at h
  split at h
  · exact .string _
  · exact absurd h mismatch_ne_ok

theorem boolean_strict : boolean.Strict := by
  intro depth v a h
  unfold boolean at h
  split at h
  · exact .word _
  · exact .word _
  · exact absurd h mismatch_ne_ok

theorem unit_strict : unit.Strict := by
  intro depth v a h
  unfold unit at h
  split at h
  · exact .word _
  · exact absurd h mismatch_ne_ok

theorem word32_strict : word32.Strict := by
  intro depth v a h
  unfold word32 at h
  split at h
  · exact .numeral _
  · exact absurd h mismatch_ne_ok

theorem optional_strict (hd : d.Strict) : (optional d).Strict := by
  intro depth v a h
  unfold optional at h
  split at h
  · exact .word _
  · obtain ⟨b, hb, -⟩ := map_eq_ok.1 h
    exact hd hb

theorem exists_of_mapM_eq_ok {β γ ε : Type} {f : β → Except ε γ} {l : List β} {m : List γ}
    (h : l.mapM f = .ok m) : ∀ b ∈ l, ∃ c, f b = .ok c := by
  induction l generalizing m with
  | nil => exact nofun
  | cons b l ih =>
    rw [List.mapM_cons] at h
    obtain ⟨c, hc, h⟩ := bind_eq_ok.1 h
    obtain ⟨cs, hcs, -⟩ := bind_eq_ok.1 h
    exact List.forall_mem_cons.2 ⟨⟨c, hc⟩, ih hcs⟩

theorem list_strict (hd : d.Strict) : (list d).Strict := by
  intro depth v l h
  unfold list at h
  split at h
  · obtain ⟨depth, -, h⟩ := bind_eq_ok.1 h
    obtain ⟨vs, hvs, h⟩ := bind_eq_ok.1 h
    obtain ⟨⟨⟩, hs, -⟩ := bind_eq_ok.1 h
    obtain rfl := ListStop.check_eq_ok.1 (liftFault_eq_ok.1 hs)
    refine .list fun w hw ↦ ?_
    obtain ⟨a, ha⟩ := exists_of_mapM_eq_ok hvs w hw
    exact hd ha
  · exact absurd h mismatch_ne_ok

theorem keyed_strict (hd : d.Strict) : (keyed d).Strict := by
  intro depth v l h
  unfold keyed at h
  split at h
  · obtain ⟨depth, -, h⟩ := bind_eq_ok.1 h
    obtain ⟨es, hes, h⟩ := bind_eq_ok.1 h
    obtain ⟨⟨⟩, hs, -⟩ := bind_eq_ok.1 h
    obtain rfl := ObjectStop.check_eq_ok.1 (liftFault_eq_ok.1 hs)
    refine .object fun m hm ↦ ?_
    obtain ⟨e, he⟩ := exists_of_mapM_eq_ok hes m hm
    obtain ⟨k, -, he⟩ := bind_eq_ok.1 he
    obtain ⟨a, ha, -⟩ := bind_eq_ok.1 he
    exact hd ha
  · exact absurd h mismatch_ne_ok

theorem form_strict {name : String} {read : Tree → Option α} : (form name read).Strict := by
  intro depth v a h
  obtain ⟨⟨⟩, hr, -⟩ := bind_eq_ok.1 h
  exact v.isWhole_of_readable depth (liftFault_eq_ok.1 hr)

theorem choice_strict {first second : String × α} : (choice first second).Strict := by
  intro depth v a h
  unfold choice at h
  split at h
  · exact .string _
  · obtain ⟨depth, -, h⟩ := bind_eq_ok.1 h
    split at h
    · split at h
      · cases h
      · obtain ⟨⟨⟩, -, h⟩ := bind_eq_ok.1 h
        cases h
    · obtain ⟨k, -, h⟩ := bind_eq_ok.1 h
      obtain ⟨a, -, h⟩ := bind_eq_ok.1 h
      obtain ⟨⟨⟩, hu, h⟩ := bind_eq_ok.1 h
      split at h
      · exact .object (List.forall_mem_singleton.2 (unit_strict hu))
      · cases h
      · cases h
  all_goals cases h

theorem Strict.exists_text (hd : d.Strict) {text : String} {a : α} (h : d.run text = .ok a) :
    ∃ v : Tree, v.Text text := by
  unfold run at h
  rcases hv : Tree.ofTokens (Token.scan text.toList) with ⟨v, rest⟩
  rw [hv] at h
  obtain ⟨b, hb, h⟩ := bind_eq_ok.1 h
  split at h
  · next hr =>
    obtain rfl := List.isEmpty_iff.1 hr
    exact ⟨v, Tree.text_iff.2 ⟨hv, hd hb⟩⟩
  · cases h

end Decoder

def Field.Strict {α : Type} (f : Field α) : Prop :=
  ∀ ⦃depth v a b⦄, f.read depth v a = .ok b → v.IsWhole

theorem Field.strict {α β : Type} {d : Decoder β} (hd : d.Strict) {name : String}
    {isOptional : Bool} {set : α → β → α} :
    Field.Strict ⟨name, isOptional, fun depth v a ↦ (d depth v).map (set a)⟩ := by
  intro depth v a b h
  obtain ⟨x, hx, -⟩ := map_eq_ok.1 h
  exact hd hx

namespace Record

variable {α : Type} {r : Record α}

theorem isWhole_of_readMembers (hr : ∀ f ∈ r.fields, f.Strict) {depth : Nat} {ms : List Tree.Member}
    {seen : List String} {a : α} {p : List String × α}
    (h : r.readMembers depth ms seen a = .ok p) : ∀ m ∈ ms, m.2.IsWhole := by
  induction ms generalizing seen a with
  | nil => exact nofun
  | cons m ms ih =>
    obtain ⟨k, v⟩ := m
    obtain ⟨name, -, h⟩ := bind_eq_ok.1 h
    split at h
    · obtain ⟨⟨⟩, hv, h⟩ := bind_eq_ok.1 h
      exact List.forall_mem_cons.2 ⟨v.isWhole_of_skim (liftFault_eq_ok.1 hv), ih h⟩
    · next f hf =>
      split at h
      · cases h
      · obtain ⟨b, hb, h⟩ := bind_eq_ok.1 h
        exact List.forall_mem_cons.2 ⟨hr f (List.mem_of_find?_eq_some hf) hb, ih h⟩

theorem isWhole_of_readItems {depth : Nat} {stop : ListStop} {done : Nat} {fs : List (Field α)}
    (hf : ∀ f ∈ fs, f.Strict) {vs : List Tree} {a b : α}
    (h : r.readItems depth stop done fs vs a = .ok b) :
    (Tree.list vs stop).IsWhole := by
  induction fs generalizing done vs a with
  | nil =>
    cases vs with
    | nil =>
      obtain ⟨⟨⟩, hs, -⟩ := bind_eq_ok.1 h
      obtain rfl := ListStop.checkLast_eq_ok.1 (liftFault_eq_ok.1 hs)
      exact .list nofun
    | cons v vs => cases h
  | cons f fs ih =>
    obtain ⟨hf, hfs⟩ := List.forall_mem_cons.1 hf
    cases vs with
    | nil =>
      obtain ⟨⟨⟩, -, h⟩ := bind_eq_ok.1 h
      split at h
      · exact ih hfs h
      · cases h
    | cons v vs =>
      obtain ⟨b, hb, h⟩ := bind_eq_ok.1 h
      cases ih hfs h with
      | list hvs => exact .list (List.forall_mem_cons.2 ⟨hf hb, hvs⟩)

theorem decoder_strict (hr : ∀ f ∈ r.fields, f.Strict) : r.decoder.Strict := by
  intro depth v a h
  unfold decoder at h
  split at h
  · obtain ⟨depth, -, h⟩ := bind_eq_ok.1 h
    obtain ⟨p, hp, h⟩ := bind_eq_ok.1 h
    obtain ⟨⟨⟩, hs, -⟩ := bind_eq_ok.1 h
    obtain rfl := ObjectStop.check_eq_ok.1 (liftFault_eq_ok.1 hs)
    exact .object (isWhole_of_readMembers hr hp)
  · obtain ⟨depth, -, h⟩ := bind_eq_ok.1 h
    exact isWhole_of_readItems hr h
  · exact absurd h Decoder.mismatch_ne_ok

end Record

end LayoutSheet.Json
