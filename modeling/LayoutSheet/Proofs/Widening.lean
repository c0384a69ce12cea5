import LayoutSheet.Proofs.Strictness

namespace LayoutSheet.Json

/-- Where the records of a value stand. -/
inductive Shape where
  | plain
  | list (items : Shape)
  | keyed (values : Shape)
  | record (fields : List (String × Shape))

/-- The second tree is the first with one more member in one of its records, under a key that is
no field of the record. -/
inductive Widens (key : Except Fault String) : Shape → Tree → Tree → Prop
  | member {fields : List (String × Shape)} {before behind : List Tree.Member} {w : Tree}
      {stop : ObjectStop} : (∀ e ∈ fields, key ≠ .ok e.1) → w.IsWhole →
    Widens key (.record fields) (.object (before ++ behind) stop)
      (.object (before ++ (key, w) :: behind) stop)
  | field {fields : List (String × Shape)} {name : String} {s : Shape}
      {before behind : List Tree.Member} {v v' : Tree} {stop : ObjectStop} :
    fields.lookup name = some s → Widens key s v v' →
    Widens key (.record fields) (.object (before ++ (.ok name, v) :: behind) stop)
      (.object (before ++ (.ok name, v') :: behind) stop)
  /-- A record that is written as the list of its fields. -/
  | place {fields : List (String × Shape)} {name : String} {s : Shape}
      {before behind : List Tree} {v v' : Tree} {stop : ListStop} :
    fields[before.length]? = some (name, s) → Widens key s v v' →
    Widens key (.record fields) (.list (before ++ v :: behind) stop)
      (.list (before ++ v' :: behind) stop)
  | item {s : Shape} {before behind : List Tree} {v v' : Tree} {stop : ListStop} :
    Widens key s v v' → Widens key (.list s) (.list (before ++ v :: behind) stop)
      (.list (before ++ v' :: behind) stop)
  | value {s : Shape} {before behind : List Tree.Member} {k : Except Fault String} {v v' : Tree}
      {stop : ObjectStop} :
    Widens key s v v' → Widens key (.keyed s) (.object (before ++ (k, v) :: behind) stop)
      (.object (before ++ (k, v') :: behind) stop)

/-- What comes of a value behind a further key: the same, or the fault of the key. -/
def behindKey {α : Type} (key : Except Fault String) (a : α) : Except Problem α :=
  match key with
  | .ok _ => .ok a
  | .error f => .error (.fault f)

theorem behindKey_bind {α β : Type} {key : Except Fault String} {a : α} {b : β}
    {f : α → Except Problem β} (h : f a = .ok b) : (behindKey key a >>= f) = behindKey key b := by
  cases key with
  | error e => rfl
  | ok k => exact h

theorem mapM_behindKey {α β : Type} {key : Except Fault String} {f : α → Except Problem β}
    {before behind : List α} {v v' : α} {l : List β} (h : (before ++ v :: behind).mapM f = .ok l)
    (hv : ∀ b, f v = .ok b → f v' = behindKey key b) :
    (before ++ v' :: behind).mapM f = behindKey key l := by
  induction before generalizing l with
  | nil =>
    rw [List.nil_append, List.mapM_cons] at h ⊢
    obtain ⟨b, hb, h⟩ := bind_eq_ok.1 h
    rw [hv b hb]
    exact behindKey_bind h
  | cons a before ih =>
    rw [List.cons_append, List.mapM_cons] at h ⊢
    obtain ⟨b, hb, h⟩ := bind_eq_ok.1 h
    obtain ⟨bs, hbs, h⟩ := bind_eq_ok.1 h
    rw [hb, ih hbs]
    exact behindKey_bind h

/-- The decoder accepts whole trees only, and reads a widened value as the value, unless the further
key says nothing. -/
structure Decoder.Overlooks {α : Type} (d : Decoder α) (s : Shape) : Prop where
  strict : d.Strict
  widened : ∀ ⦃key v v' depth a⦄, Widens key s v v' → d depth v = .ok a →
    d depth v' = behindKey key a

namespace Decoder

variable {α : Type} {d : Decoder α} {s : Shape}

theorem Strict.overlooks (hd : d.Strict) : d.Overlooks .plain where
  strict := hd
  widened := nofun

theorem Overlooks.list (hd : d.Overlooks s) : (list d).Overlooks (.list s) where
  strict := list_strict hd.strict
  widened := by
    intro key v v' depth l hw h
    cases hw with
    | item hw =>
      obtain ⟨depth', hdepth, h⟩ := bind_eq_ok.1 h
      obtain ⟨as, has, h⟩ := bind_eq_ok.1 h
      have has' := mapM_behindKey has fun b ↦ hd.widened hw
      simp only [Decoder.list, hdepth]
      change (List.mapM (d depth') _ >>= _) = _
      rw [has']
      exact behindKey_bind h

theorem Overlooks.keyed (hd : d.Overlooks s) : (keyed d).Overlooks (.keyed s) where
  strict := keyed_strict hd.strict
  widened := by
    intro key v v' depth l hw h
    cases hw with
    | @value _ before behind k v v' stop hw =>
      obtain ⟨depth', hdepth, h⟩ := bind_eq_ok.1 h
      obtain ⟨es, hes, h⟩ := bind_eq_ok.1 h
      have hes' := @mapM_behindKey _ _ _ _ before behind _ (k, v') _ hes fun e he ↦ by
        obtain ⟨name, hk, he⟩ := bind_eq_ok.1 he
        obtain ⟨a, ha, he⟩ := bind_eq_ok.1 he
        simp only [hk]
        change (d depth' v' >>= _) = _
        rw [hd.widened hw ha]
        exact behindKey_bind he
      simp only [Decoder.keyed, hdepth]
      change ((List.mapM _ _ : Except Problem (List (String × α))) >>= _) = _
      rw [hes']
      exact behindKey_bind h

end Decoder

structure Field.Overlooks {α : Type} (f : Field α) (e : String × Shape) : Prop where
  name : f.name = e.1
  strict : f.Strict
  widened : ∀ ⦃key v v' depth a b⦄, Widens key e.2 v v' → f.read depth v a = .ok b →
    f.read depth v' a = behindKey key b

theorem Decoder.Overlooks.field {α β : Type} {d : Decoder β} {s : Shape} (hd : d.Overlooks s)
    {name : String} {isOptional : Bool} {set : α → β → α} :
    Field.Overlooks ⟨name, isOptional, fun depth v a ↦ (d depth v).map (set a)⟩ (name, s) where
  name := rfl
  strict := Field.strict hd.strict
  widened := by
    intro key v v' depth a b hw h
    obtain ⟨x, hx, rfl⟩ := map_eq_ok.1 h
    dsimp only
    rw [hd.widened hw hx]
    cases key <;> rfl

namespace Record

variable {α : Type} {r : Record α} {fields : List (String × Shape)} {key : Except Fault String}
  {depth : Nat}

theorem exists_field?_of_lookup (hr : r.fields.Forall₂ Field.Overlooks fields) {name : String}
    {s : Shape} (h : fields.lookup name = some s) :
    ∃ f, r.field? name = some f ∧ f.Overlooks (name, s) := by
  unfold field?
  generalize r.fields = fs at hr
  induction hr with
  | nil => cases h
  | @cons f e fs fields hf _ ih =>
    by_cases hn : name = e.1
    · subst hn
      rw [List.lookup_cons_self, Option.some.injEq] at h
      subst h
      exact ⟨f, List.find?_cons_of_pos (beq_iff_eq.2 hf.name), hf⟩
    · rw [List.lookup_cons, beq_eq_false_iff_ne.2 hn] at h
      rw [List.find?_cons_of_neg]
      · exact ih h
      · rw [beq_iff_eq, hf.name]
        exact Ne.symm hn

theorem field?_eq_none (hr : r.fields.Forall₂ Field.Overlooks fields) {name : String}
    (h : ∀ e ∈ fields, name ≠ e.1) : r.field? name = none := by
  unfold field?
  generalize r.fields = fs at hr
  induction hr with
  | nil => rfl
  | cons hf _ ih =>
    obtain ⟨he, hes⟩ := List.forall_mem_cons.1 h
    rw [List.find?_cons_of_neg, ih hes]
    rw [beq_iff_eq, hf.name]
    exact Ne.symm he

section Members

variable {before ms ms' : List Tree.Member} {seen : List String} {a : α} {p : List String × α}
  {name : String} {v v' : Tree}

theorem readMembers_unknown (hf : r.field? name = none) :
    r.readMembers depth ((.ok name, v) :: ms) seen a =
      liftFault v.skim >>= fun _ ↦ r.readMembers depth ms seen a := by
  simp only [readMembers, liftFault, Except.mapError, Decoder.ok_bind, hf]

theorem readMembers_known {f : Field α} (hf : r.field? name = some f) :
    r.readMembers depth ((.ok name, v) :: ms) seen a =
      if name ∈ seen then .error (.duplicateField name)
      else f.read depth v a >>= r.readMembers depth ms (name :: seen) := by
  simp only [readMembers, liftFault, Except.mapError, Decoder.ok_bind, hf]

theorem readMembers_behindKey (h : r.readMembers depth (before ++ ms) seen a = .ok p)
    (hms : ∀ ⦃seen a⦄, r.readMembers depth ms seen a = .ok p →
      r.readMembers depth ms' seen a = behindKey key p) :
    r.readMembers depth (before ++ ms') seen a = behindKey key p := by
  induction before generalizing seen a with
  | nil => exact hms h
  | cons m before ih =>
    obtain ⟨k, v⟩ := m
    rw [List.cons_append] at h ⊢
    cases k with
    | error e => cases h
    | ok name =>
      cases hf : r.field? name with
      | none =>
        rw [readMembers_unknown hf] at h ⊢
        obtain ⟨⟨⟩, hv, h⟩ := bind_eq_ok.1 h
        rw [hv]
        exact ih h
      | some f =>
        rw [readMembers_known hf] at h ⊢
        split at h
        · cases h
        · next hseen =>
          obtain ⟨b, hb, h⟩ := bind_eq_ok.1 h
          rw [if_neg hseen, hb]
          exact ih h

theorem readMembers_member (hr : r.fields.Forall₂ Field.Overlooks fields)
    (hkey : ∀ e ∈ fields, key ≠ .ok e.1) (hv : v.IsWhole)
    (h : r.readMembers depth ms seen a = .ok p) :
    r.readMembers depth ((key, v) :: ms) seen a = behindKey key p := by
  cases key with
  | error e => rfl
  | ok name =>
    have hf := field?_eq_none hr fun e he hn ↦ hkey e he (congrArg Except.ok hn)
    rw [readMembers_unknown hf, hv.skim, h]
    rfl

theorem readMembers_field (hr : r.fields.Forall₂ Field.Overlooks fields) {s : Shape}
    (hs : fields.lookup name = some s) (hw : Widens key s v v')
    (h : r.readMembers depth ((.ok name, v) :: ms) seen a = .ok p) :
    r.readMembers depth ((.ok name, v') :: ms) seen a = behindKey key p := by
  obtain ⟨f, hf, ho⟩ := exists_field?_of_lookup hr hs
  rw [readMembers_known hf] at h ⊢
  split at h
  · cases h
  · next hseen =>
    obtain ⟨b, hb, h⟩ := bind_eq_ok.1 h
    rw [if_neg hseen, ho.widened hw hb]
    exact behindKey_bind h

end Members

theorem readItems_place {fs : List (Field α)} (hr : fs.Forall₂ Field.Overlooks fields)
    {name : String} {s : Shape} {before behind : List Tree}
    (hs : fields[before.length]? = some (name, s)) {v v' : Tree} (hw : Widens key s v v')
    {stop : ListStop} {done : Nat} {a b : α}
    (h : r.readItems depth stop done fs (before ++ v :: behind) a = .ok b) :
    r.readItems depth stop done fs (before ++ v' :: behind) a = behindKey key b := by
  induction hr generalizing before done a with
  | nil => cases hs
  | @cons f e fs fields hf _ ih =>
    cases before with
    | nil =>
      obtain rfl := Option.some.inj hs
      obtain ⟨c, hc, h⟩ := bind_eq_ok.1 h
      change (f.read depth v' a >>= _) = _
      rw [hf.widened hw hc]
      exact behindKey_bind h
    | cons w before =>
      obtain ⟨c, hc, h⟩ := bind_eq_ok.1 h
      change (f.read depth w a >>= _) = _
      rw [hc]
      exact ih hs h

theorem decoder_object {ms ms' : List Tree.Member} {stop : ObjectStop} {a : α}
    (hms : ∀ ⦃depth p⦄, r.readMembers depth ms [] r.blank = .ok p →
      r.readMembers depth ms' [] r.blank = behindKey key p)
    (h : r.decoder depth (.object ms stop) = .ok a) :
    r.decoder depth (.object ms' stop) = behindKey key a := by
  obtain ⟨depth', hdepth, h⟩ := bind_eq_ok.1 h
  obtain ⟨p, hp, h⟩ := bind_eq_ok.1 h
  simp only [decoder, hdepth]
  change (r.readMembers depth' ms' [] r.blank >>= _) = _
  rw [hms hp]
  exact behindKey_bind h

theorem strict_of_forall₂ (hr : r.fields.Forall₂ Field.Overlooks fields) :
    ∀ f ∈ r.fields, f.Strict := by
  generalize r.fields = fs at hr
  induction hr with
  | nil => exact nofun
  | cons hf _ ih => exact List.forall_mem_cons.2 ⟨hf.strict, ih⟩

theorem decoder_overlooks (hr : r.fields.Forall₂ Field.Overlooks fields) :
    r.decoder.Overlooks (.record fields) where
  strict := decoder_strict (strict_of_forall₂ hr)
  widened := by
    intro key v v' depth a hw h
    cases hw with
    | member hkey hw =>
      refine decoder_object (fun depth p hp ↦ ?_) h
      exact readMembers_behindKey hp fun seen a ↦ readMembers_member hr hkey hw
    | field hs hw =>
      refine decoder_object (fun depth p hp ↦ ?_) h
      exact readMembers_behindKey hp fun seen a ↦ readMembers_field hr hs hw
    | place hs hw =>
      obtain ⟨depth', hdepth, h⟩ := bind_eq_ok.1 h
      simp only [decoder, hdepth]
      exact readItems_place hr hs hw h

end Record

/-- Every accepted text has a tree, and a text that widens it is read as it is, unless the further
key says nothing. -/
structure OverlooksUnknownKeys {α : Type} (read : String → Except Problem α) (s : Shape) :
    Prop where
  exists_tree : ∀ {text a}, read text = .ok a → ∃ v : Tree, v.Text text
  read_widened : ∀ {key v v' text text' a}, Tree.Text v text → Tree.Text v' text' →
    Widens key s v v' → read text = .ok a → read text' = behindKey key a

theorem Decoder.Overlooks.run {α : Type} {d : Decoder α} {s : Shape} (hd : d.Overlooks s) :
    OverlooksUnknownKeys d.run s where
  exists_tree := hd.strict.exists_text
  read_widened := by
    intro key v v' text text' a hv hv' hw h
    unfold Decoder.run at h ⊢
    rw [(Tree.text_iff.1 hv).1] at h
    rw [(Tree.text_iff.1 hv').1]
    obtain ⟨b, hb, h⟩ := bind_eq_ok.1 h
    exact (congrArg (· >>= _) (hd.widened hw hb)).trans (behindKey_bind h)

end LayoutSheet.Json
