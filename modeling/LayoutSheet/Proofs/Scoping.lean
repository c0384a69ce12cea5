import LayoutSheet.Proofs.Containers

namespace LayoutSheet

namespace Text

theorem dropBlanks_of_head {c : Char} {cs : List Char} (h : isBlank c = false) :
    dropBlanks (c :: cs) = c :: cs := by
  simp [dropBlanks, h]

theorem trimChars_of_ends {c d : Char} {cs : List Char} (hc : isBlank c = false)
    (hd : isBlank d = false) : trimChars (c :: (cs ++ [d])) = c :: (cs ++ [d]) := by
  rw [trimChars, dropBlanks_of_head hc, ← List.cons_append]
  simp [dropBlanksEnd, hd]

theorem length_dropBlanksEnd_le (cs : List Char) : (dropBlanksEnd cs).length ≤ cs.length := by
  rw [dropBlanksEnd, List.length_reverse, ← cs.length_reverse]
  exact (List.dropWhile_sublist _).length_le

theorem prefix_trimChars_append {a : List Char} (h : trimChars a = a) (b : List Char) :
    a <+: trimChars (a ++ b) := by
  cases a with
  | nil => exact List.nil_prefix
  | cons c a =>
    have hc : isBlank c = false := by
      rw [Bool.eq_false_iff]
      intro hc
      have hl := congrArg List.length h
      have hd : (dropBlanks (c :: a)).length ≤ a.length := by
        simpa [dropBlanks, hc] using (List.dropWhile_sublist _).length_le
      have := length_dropBlanksEnd_le (dropBlanks (c :: a))
      rw [trimChars, List.length_cons] at hl
      omega
    rw [trimChars, dropBlanks_of_head hc] at h
    rw [trimChars, List.cons_append, dropBlanks_of_head hc, ← List.cons_append, dropBlanksEnd,
      List.reverse_append, List.dropWhile_append]
    split
    · exact (congrArg (c :: a <+: ·) h).mpr List.prefix_rfl
    · rw [List.reverse_append, List.reverse_reverse]
      exact List.prefix_append _ _

end Text

namespace Selector

/-- Where in a selector a character stands: how many brackets are open before it, which quote, and
whether a backslash takes it. -/
structure Place where
  depth : Nat := 0
  quote : Option Char := none
  escaped : Bool := false
  deriving DecidableEq, Repr

namespace Place

def step (s : Place) (c : Char) : Place :=
  if s.escaped then { s with escaped := false }
  else if c = '\\' then { s with escaped := true }
  else match s.quote with
    | some q => if c = q then { s with quote := none } else s
    | none =>
      if c = '"' ∨ c = '\'' then { s with quote := some c }
      else if c = '(' ∨ c = '[' then { s with depth := s.depth + 1 }
      else if c = ')' ∨ c = ']' then { s with depth := s.depth - 1 }
      else s

def cuts (s : Place) (c : Char) : Bool := s = {} && c = ','

/-- Where a text leads that no comma cuts. -/
def cross? : Place → List Char → Option Place
  | s, [] => some s
  | s, c :: r => if s.cuts c then none else cross? (s.step c) r

theorem cross?_append (s : Place) (a b : List Char) :
    s.cross? (a ++ b) = (s.cross? a).bind fun t ↦ t.cross? b := by
  induction a generalizing s with
  | nil => rfl
  | cons c a ih =>
    simp only [List.cons_append, cross?]
    split
    · rfl
    · exact ih _

theorem cross?_of_still {s : Place} {a : List Char}
    (h : ∀ c ∈ a, s.cuts c = false ∧ s.step c = s) : s.cross? a = some s := by
  induction a with
  | nil => rfl
  | cons c a ih =>
    obtain ⟨hc, hs⟩ := h c List.mem_cons_self
    simp [cross?, hc, hs, ih fun d hd ↦ h d (List.mem_cons_of_mem c hd)]

end Place

def partsFrom : Place → List Char → List (List Char)
  | _, [] => [[]]
  | s, c :: r =>
    if s.cuts c then [] :: partsFrom {} r else (partsFrom (s.step c) r).modifyHead (c :: ·)

def parts (s : String) : List String := (partsFrom {} s.toList).map String.ofList

theorem partsFrom_append {s t : Place} {a : List Char} (h : s.cross? a = some t) (b : List Char) :
    partsFrom s (a ++ b) = (partsFrom t b).modifyHead (a ++ ·) := by
  induction a generalizing s with
  | nil =>
    obtain rfl := Option.some.inj h
    exact (List.modifyHead_id ▸ rfl)
  | cons c a ih =>
    rw [Place.cross?, Option.ite_none_left_eq_some] at h
    rw [List.cons_append, partsFrom, if_neg h.1, ih h.2, List.modifyHead_modifyHead]
    rfl

theorem partsFrom_of_cross? {s t : Place} {a : List Char} (h : s.cross? a = some t) :
    partsFrom s a = [a] := by
  simpa [partsFrom] using partsFrom_append h []

/-- Every part of the selector list begins with `base`. -/
def Scoped (base s : String) : Prop := ∀ part ∈ parts s, under base (Text.trim part) = true

instance (base s : String) : Decidable (Scoped base s) := inferInstanceAs (Decidable (∀ _ ∈ _, _))

/-- A selector that is one part, leaves nothing open and has no blank at either end. -/
structure Whole (base : String) : Prop where
  closed : Place.cross? {} base.toList = some {}
  trimmed : Text.trim base = base

def isInert (c : Char) : Bool := c ∉ [',', '"', '\'', '(', ')', '[', ']', '\\']

theorem Place.still_of_isInert {n : Nat} {c : Char} (h : isInert c = true) :
    ({ depth := n } : Place).cuts c = false ∧ ({ depth := n } : Place).step c = { depth := n } := by
  simp only [isInert, List.mem_cons, List.not_mem_nil, or_false, not_or, decide_eq_true_eq] at h
  simp [cuts, step, h]

theorem Place.still_of_quoted {n : Nat} {q c : Char} (hq : c ≠ q) (he : c ≠ '\\') :
    ({ depth := n, quote := some q } : Place).cuts c = false ∧
      ({ depth := n, quote := some q } : Place).step c = { depth := n, quote := some q } := by
  simp [cuts, step, hq, he]

namespace Whole

/-- A container is whole when element and breakpoint are plain names and nothing in the attribute
text ends or escapes the quotes around it. -/
theorem container {element breakpoint family id : String}
    (he : ∀ c ∈ element.toList, isInert c = true ∧ Text.isBlank c = false)
    (hb : ∀ c ∈ breakpoint.toList, isInert c = true)
    (ht : ∀ c ∈ (Variant.qualify family id).toList, c ≠ '"' ∧ c ≠ '\\') :
    Whole (container element breakpoint family id) where
  closed := by
    have h₁ : Place.cross? {} element.toList = some {} :=
      Place.cross?_of_still fun c hc ↦ Place.still_of_isInert (he c hc).1
    have h₂ : Place.cross? { depth := 1 } breakpoint.toList = some { depth := 1 } :=
      Place.cross?_of_still fun c hc ↦ Place.still_of_isInert (hb c hc)
    have h₃ : Place.cross? { depth := 1, quote := some '"' } (Variant.qualify family id).toList =
        some { depth := 1, quote := some '"' } :=
      Place.cross?_of_still fun c hc ↦ Place.still_of_quoted (ht c hc).1 (ht c hc).2
    have hs : Place.cross? {} (stem element breakpoint) = some { depth := 1 } := by
      rw [stem, Place.cross?_append, h₁]
      exact h₂
    rw [toList_container, List.append_assoc, Place.cross?_append, hs]
    change Place.cross? { depth := 1, quote := some '"' }
      ((Variant.qualify family id).toList ++ ['"', ']']) = _
    rw [Place.cross?_append, h₃]
    rfl
  trimmed := by
    obtain ⟨c, cs, hs, hc⟩ : ∃ c cs, (Selector.container element breakpoint family id).toList =
        c :: (cs ++ [']']) ∧ Text.isBlank c = false := by
      cases h : element.toList with
      | nil =>
        exact ⟨'[', breakpoint.toList ++ '=' :: '"' :: (Variant.qualify family id).toList ++ ['"'],
          by simp [toList_container, stem, h], rfl⟩
      | cons c cs =>
        exact ⟨c, cs ++ '[' :: breakpoint.toList ++ '=' :: '"' ::
          (Variant.qualify family id).toList ++ ['"'],
          by simp [toList_container, stem, h], (he c (h ▸ List.mem_cons_self)).2⟩
    rw [← String.toList_inj, Text.trim, String.toList_ofList, hs]
    exact Text.trimChars_of_ends hc rfl

variable {base : String}

theorem under_trim_append (h : Whole base) (rest : List Char) :
    under base (Text.trim (String.ofList (base.toList ++ rest))) = true := by
  have ht : Text.trimChars base.toList = base.toList := by
    simpa [Text.trim] using congrArg String.toList h.trimmed
  rw [under, List.isPrefixOf_iff_prefix, Text.trim, String.toList_ofList, String.toList_ofList]
  exact Text.prefix_trimChars_append ht rest

theorem scoped_append_iff (h : Whole base) (rest : String) :
    Scoped base (base ++ rest) ↔
      ∀ part ∈ (parts rest).tail, under base (Text.trim part) = true := by
  have hp : parts (base ++ rest) =
      ((partsFrom {} rest.toList).modifyHead (base.toList ++ ·)).map String.ofList := by
    rw [parts, String.toList_append, partsFrom_append h.closed]
  rw [Scoped, hp, parts]
  cases partsFrom {} rest.toList with
  | nil => simp
  | cons first others =>
    simp only [List.modifyHead_cons, List.map_cons, List.forall_mem_cons, List.tail_cons]
    exact and_iff_right (h.under_trim_append first)

end Whole

theorem tail_parts_append {a : String} (h : Place.cross? {} a.toList = some {}) (b : String) :
    (parts (a ++ b)).tail = (parts b).tail := by
  rw [parts, String.toList_append, partsFrom_append h, parts]
  cases partsFrom {} b.toList <;> rfl

theorem tail_parts_eq_nil {a : String} {t : Place} (h : Place.cross? {} a.toList = some t) :
    (parts a).tail = [] := by
  rw [parts, partsFrom_of_cross? h]
  rfl

/-- A declared selector keeps to its container exactly when its parts after the first begin with
the container by themselves. -/
theorem scoped_scope_iff {element base : String} (h : Whole base)
    (he : ∃ t, Place.cross? {} element.toList = some t) (declared : String) :
    Scoped base (scope element base declared) ↔
      ∀ part ∈ (parts (Text.trim declared)).tail, under base (Text.trim part) = true := by
  obtain ⟨t, he⟩ := he
  have hself : Scoped base base := by
    have hn := (h.scoped_append_iff "").2 (List.forall_mem_nil _)
    rwa [String.append_empty] at hn
  rw [scope]
  generalize Text.trim declared = s
  split
  · next hs =>
    have hn : (parts s).tail = [] := by
      obtain rfl | rfl | rfl := hs
      · rfl
      · rfl
      · exact tail_parts_eq_nil he
    simp [hn, hself]
  · split
    · next hs =>
      subst hs
      rw [childrenOf, h.scoped_append_iff]
      exact Iff.rfl
    · split
      · next rest hs =>
        have hr : s = "&" ++ String.ofList rest := by
          rw [← String.toList_inj, hs, String.toList_append, String.toList_ofList]
          simp
        rw [h.scoped_append_iff, hr, tail_parts_append rfl]
      · rw [String.append_assoc, h.scoped_append_iff, tail_parts_append rfl]

end Selector

theorem Sheet.isSome_get?_ofWrites {ws : List Write} {w : Write} (hw : w ∈ ws) :
    ((ofWrites ws).get? w.query w.breakpoint w.selector).isSome = true := by
  have hl : w ∈ (ws.filter fun v ↦ v.query = w.query).filter
      fun v ↦ v.breakpoint = w.breakpoint := by simp [hw]
  rw [get?, layer?_ofWrites, if_neg (List.ne_nil_of_mem hl), Option.bind_some, Layer.ofWrites,
    KeyedList.get?_gather, if_neg]
  · rfl
  · exact List.ne_nil_of_mem (List.mem_filter.2 ⟨hl, by simp⟩)

namespace Placement

variable {element : String}

/-- Each declared rule of a placed variant is stored, and its selector list keeps to the variant's
container exactly when every part that the author wrote after the first begins with the container.
No brackets or quotes in the declared selector need to match for this. -/
theorem stored_rule_scoped_iff {ps : List Placement} {p : Placement} {rule : ScopedRule}
    (hp : p ∈ ps) (hr : rule ∈ p.variant.rules) (hw : Selector.Whole (p.selector element)) :
    ((Sheet.ofWrites (writes element ps)).get? p.query p.breakpoint
      (Selector.scope element (p.selector element) rule.selector)).isSome = true ∧
    (Selector.Scoped (p.selector element)
        (Selector.scope element (p.selector element) rule.selector) ↔
      ∀ part ∈ (Selector.parts (Text.trim rule.selector)).tail,
        Selector.under (p.selector element) (Text.trim part) = true) := by
  constructor
  · have hm : p.write (Selector.scope element (p.selector element) rule.selector) _ ∈
        p.ownWrites element := List.mem_append_right _ (List.mem_map_of_mem hr)
    generalize Selector.scope element (p.selector element) rule.selector = s at hm ⊢
    exact Sheet.isSome_get?_ofWrites (mem_writesFrom_of_mem_ownWrites hp hm)
  · refine Selector.scoped_scope_iff hw ?_ rule.selector
    have hc := hw.closed
    rw [selector, Selector.toList_container, Selector.stem, List.append_assoc, List.append_assoc,
      Selector.Place.cross?_append] at hc
    obtain ⟨t, ht, -⟩ := Option.bind_eq_some_iff.1 hc
    exact ⟨t, ht⟩

def pairedRule : ScopedRule := { selector := "&:is(p, i), lay-out[md=\"grid(1)\"] > b" }

def pairedGrid : Placement :=
  ⟨"grid", "1", "md", "@media (min-width: 720px)", { id := "grid(1)", rules := [pairedRule] }⟩

theorem pairedGrid_scoped :
    pairedGrid ∈ [pairedGrid] ∧ pairedRule ∈ pairedGrid.variant.rules ∧
    Selector.Whole (pairedGrid.selector "lay-out") ∧
    ((Sheet.ofWrites (writes "lay-out" [pairedGrid])).get? "@media (min-width: 720px)" "md"
      (Selector.scope "lay-out" (pairedGrid.selector "lay-out") pairedRule.selector)).isSome =
        true ∧
    Selector.Scoped (pairedGrid.selector "lay-out")
      (Selector.scope "lay-out" (pairedGrid.selector "lay-out") pairedRule.selector) := by
  have hp : pairedGrid ∈ [pairedGrid] := List.mem_singleton_self _
  have hr : pairedRule ∈ pairedGrid.variant.rules := List.mem_singleton_self _
  have hw : Selector.Whole (pairedGrid.selector "lay-out") :=
    .container (by simp [Selector.isInert, Text.isBlank]) (by simp [pairedGrid, Selector.isInert])
      (by simp [pairedGrid, Variant.qualify])
  have h := stored_rule_scoped_iff hp hr hw
  exact ⟨hp, hr, hw, h.1, h.2.2 (by decide)⟩

/-- The second part of a plain selector list is left to reach everywhere. -/
theorem not_scoped_list :
    ¬ Selector.Scoped (pairedGrid.selector "lay-out")
      (Selector.scope "lay-out" (pairedGrid.selector "lay-out") "span, em") := by
  decide

end Placement

end LayoutSheet
