import LayoutSheet.Proofs.Gathering
import LayoutSheet.Proofs.Grouping
import LayoutSheet.Sheet.Rendering

namespace LayoutSheet

/-- The texts of the members of `D` can be told apart and end where they show: whatever follows two
of them, if it is all one text, the members are the same and so is what follows. -/
def Delimits {α : Type} (D : α → Prop) (w : α → List Char) : Prop :=
  ∀ ⦃a b⦄, D a → D b → ∀ {r s}, w a ++ r = w b ++ s → a = b ∧ r = s

namespace Delimits

variable {α β : Type} {D : α → Prop} {E : β → Prop} {w : α → List Char} {v : β → List Char}

theorem pair (h : Delimits D w) (h' : Delimits E v) :
    Delimits (fun e : α × β ↦ D e.1 ∧ E e.2) fun e ↦ w e.1 ++ v e.2 := by
  intro a b ha hb r s he
  simp only [List.append_assoc] at he
  obtain ⟨h₁, he⟩ := h ha.1 hb.1 he
  obtain ⟨h₂, he⟩ := h' ha.2 hb.2 he
  exact ⟨Prod.ext h₁ h₂, he⟩

theorem flatMap (h : Delimits D w) {l l' : List α} (hl : ∀ a ∈ l, D a) (hl' : ∀ a ∈ l', D a)
    {r s : List Char} (hr : ∀ a t, D a → w a ++ t ≠ r) (hs : ∀ a t, D a → w a ++ t ≠ s)
    (he : l.flatMap w ++ r = l'.flatMap w ++ s) : l = l' ∧ r = s := by
  induction l generalizing l' with
  | nil =>
    cases l' with
    | nil => exact ⟨rfl, he⟩
    | cons b l' =>
      rw [List.flatMap_cons, List.append_assoc] at he
      exact absurd he.symm (hr b _ (hl' b List.mem_cons_self))
  | cons a l ih =>
    cases l' with
    | nil =>
      rw [List.flatMap_cons, List.append_assoc] at he
      exact absurd he (hs a _ (hl a List.mem_cons_self))
    | cons b l' =>
      simp only [List.flatMap_cons, List.append_assoc] at he
      obtain ⟨rfl, hn⟩ := h (hl a List.mem_cons_self) (hl' b List.mem_cons_self) he
      obtain ⟨rfl, ht⟩ := ih (fun c hc ↦ hl c (List.mem_cons_of_mem a hc))
        (fun c hc ↦ hl' c (List.mem_cons_of_mem a hc)) hn
      exact ⟨rfl, ht⟩

end Delimits

def OneLine (s : String) : Prop := '\n' ∉ s.toList

instance (s : String) : Decidable (OneLine s) := inferInstanceAs (Decidable ('\n' ∉ _))

namespace Stylesheet

def lineChars (lines : List String) : List Char := lines.flatMap fun l ↦ l.toList ++ ['\n']

theorem lineChars_cons (l : String) (lines : List String) :
    lineChars (l :: lines) = l.toList ++ '\n' :: lineChars lines := by
  simp [lineChars]

theorem lineChars_append (a b : List String) :
    lineChars (a ++ b) = lineChars a ++ lineChars b := List.flatMap_append

theorem lineChars_spaced_cons (a : List String) (r : List (List String)) :
    lineChars (spaced (a :: r)) =
      lineChars a ++ r.flatMap fun b ↦ '\n' :: lineChars b := by
  induction r generalizing a with
  | nil => simp [spaced]
  | cons b r ih =>
    rw [spaced, lineChars_append, lineChars_cons, ih]
    · simp
    · simp

theorem append_cons_inj {c : Char} {a b r s : List Char} (ha : c ∉ a) (hb : c ∉ b)
    (h : a ++ c :: r = b ++ c :: s) : a = b ∧ r = s := by
  induction a generalizing b with
  | nil =>
    cases b with
    | nil => exact ⟨rfl, (List.cons.inj h).2⟩
    | cons d b =>
      obtain ⟨rfl, -⟩ := List.cons.inj h
      exact absurd List.mem_cons_self hb
  | cons d a ih =>
    cases b with
    | nil =>
      obtain ⟨rfl, -⟩ := List.cons.inj h
      exact absurd List.mem_cons_self ha
    | cons e b =>
      obtain ⟨rfl, hn⟩ := List.cons.inj h
      obtain ⟨rfl, ht⟩ := ih (fun hc ↦ ha (List.mem_cons_of_mem d hc))
        (fun hc ↦ hb (List.mem_cons_of_mem d hc)) hn
      exact ⟨rfl, ht⟩

theorem delimits_line (before after : List Char) (ha : '\n' ∉ after) :
    Delimits OneLine fun s ↦ before ++ s.toList ++ after ++ ['\n'] := by
  intro a b h h' r s he
  simp only [List.append_assoc, List.singleton_append, List.append_cancel_left_eq] at he
  rw [← List.append_assoc, ← List.append_assoc] at he
  obtain ⟨hl, hr⟩ := append_cons_inj (by simpa [OneLine] using ⟨h, ha⟩)
    (by simpa [OneLine] using ⟨h', ha⟩) he
  exact ⟨String.toList_inj.1 (List.append_cancel_right hl), hr⟩

def selectorLine (after : List Char) (s : String) : List Char :=
  [' ', ' ', ' ', ' '] ++ s.toList ++ after ++ ['\n']

theorem lineChars_selectorLines_singleton (s : String) :
    lineChars (selectorLines 2 [s]) = selectorLine [' ', '\x7b'] s := by
  have hi : indent 2 = "    " := rfl
  simp [selectorLines, lineChars, selectorLine, hi]

theorem lineChars_selectorLines_cons_cons (s t : String) (l : List String) :
    lineChars (selectorLines 2 (s :: t :: l)) =
      selectorLine [','] s ++ lineChars (selectorLines 2 (t :: l)) := by
  have hi : indent 2 = "    " := rfl
  simp [selectorLines, lineChars_cons, selectorLine, hi]

theorem selectorLine_ne {s t : String} (hs : OneLine s) (ht : OneLine t) (r r' : List Char) :
    selectorLine [' ', '\x7b'] s ++ r ≠ selectorLine [','] t ++ r' := by
  intro he
  simp only [selectorLine, List.append_assoc, List.append_cancel_left_eq] at he
  rw [← List.append_assoc, ← List.append_assoc t.toList] at he
  have hl := (append_cons_inj (by simpa [OneLine] using hs) (by simpa [OneLine] using ht) he).1
  simpa using congrArg List.getLast? hl

/-- A selector list ends at the first line that does not end with a comma. -/
theorem delimits_selectors :
    Delimits (fun l ↦ l ≠ [] ∧ ∀ s ∈ l, OneLine s) fun l ↦ lineChars (selectorLines 2 l) := by
  intro a
  induction a with
  | nil => exact fun b ha ↦ absurd rfl ha.1
  | cons s l ih =>
    rintro b ⟨-, ha⟩ ⟨hb, hb'⟩ r r' he
    obtain ⟨t, m, rfl⟩ := List.exists_cons_of_ne_nil hb
    obtain ⟨hs, hl⟩ := List.forall_mem_cons.1 ha
    obtain ⟨ht, hm⟩ := List.forall_mem_cons.1 hb'
    cases l with
    | nil =>
      cases m with
      | nil =>
        simp only [lineChars_selectorLines_singleton] at he
        obtain ⟨rfl, hr⟩ := delimits_line _ [' ', '\x7b'] (by decide) hs ht he
        exact ⟨rfl, hr⟩
      | cons t' m =>
        simp only [lineChars_selectorLines_singleton, lineChars_selectorLines_cons_cons,
          List.append_assoc] at he
        exact absurd he (selectorLine_ne hs ht _ _)
    | cons s' l =>
      cases m with
      | nil =>
        simp only [lineChars_selectorLines_singleton, lineChars_selectorLines_cons_cons,
          List.append_assoc] at he
        exact absurd he.symm (selectorLine_ne ht hs _ _)
      | cons t' m =>
        simp only [lineChars_selectorLines_cons_cons, List.append_assoc] at he
        obtain ⟨rfl, hn⟩ := delimits_line _ [','] (by decide) hs ht he
        obtain ⟨hlm, hr⟩ := ih ⟨List.cons_ne_nil _ _, hl⟩ ⟨List.cons_ne_nil _ _, hm⟩ hn
        exact ⟨congrArg (s :: ·) hlm, hr⟩

/-- A declaration that stands on one line and whose property has no colon. -/
structure Plain (d : String × String) : Prop where
  property : OneLine d.1
  colon : ':' ∉ d.1.toList
  value : OneLine d.2

instance (d : String × String) : Decidable (Plain d) :=
  decidable_of_iff (OneLine d.1 ∧ ':' ∉ d.1.toList ∧ OneLine d.2)
    ⟨fun h ↦ ⟨h.1, h.2.1, h.2.2⟩, fun h ↦ ⟨h.property, h.colon, h.value⟩⟩

theorem declarationLine_toList (d : String × String) :
    (declarationLine 2 d).toList =
      "      ".toList ++ (d.1.toList ++ ':' :: ' ' :: (d.2.toList ++ [';'])) := by
  have hi : indent 3 = "      " := rfl
  simp [declarationLine, hi]

theorem delimits_declaration :
    Delimits Plain fun d ↦ (declarationLine 2 d).toList ++ ['\n'] := by
  rintro ⟨p, v⟩ ⟨p', v'⟩ h h' r s he
  have hn {d : String × String} (h : Plain d) : '\n' ∉ (declarationLine 2 d).toList := by
    rw [declarationLine_toList]
    simpa [OneLine] using ⟨h.property, h.value⟩
  simp only [List.append_assoc, List.singleton_append] at he
  obtain ⟨hl, hr⟩ := append_cons_inj (hn h) (hn h') he
  simp only [declarationLine_toList, List.append_cancel_left_eq] at hl
  obtain ⟨hp, hv⟩ := append_cons_inj h.colon h'.colon hl
  rw [List.cons.injEq, List.append_cancel_right_eq] at hv
  exact ⟨Prod.ext (String.toList_inj.1 hp) (String.toList_inj.1 hv.2), hr⟩

end Stylesheet

structure Group.Legible (g : Group) : Prop where
  ne_nil : g.selectors ≠ []
  selectors : ∀ s ∈ g.selectors, OneLine s
  declarations : ∀ d ∈ g.declarations.toList, Stylesheet.Plain d

namespace Stylesheet

def groupRule (g : Group) : List String := ruleLines 2 g.selectors g.declarations.toList

theorem delimits_group : Delimits Group.Legible fun g ↦ lineChars (groupRule g) := by
  intro g g' h h' r s he
  simp only [groupRule, ruleLines, lineChars_append, List.append_assoc] at he
  obtain ⟨hs, hd⟩ := delimits_selectors ⟨h.ne_nil, h.selectors⟩ ⟨h'.ne_nil, h'.selectors⟩ he
  simp only [lineChars, List.flatMap_map] at hd
  have hclose (d : String × String) (t r : List Char) :
      (declarationLine 2 d).toList ++ ['\n'] ++ t ≠ lineChars [indent 2 ++ "\x7d"] ++ r := by
    have hi : indent 2 = "    " := rfl
    simp [declarationLine_toList, lineChars, hi]
  obtain ⟨hl, hr⟩ := delimits_declaration.flatMap h.declarations h'.declarations
    (fun d t _ ↦ hclose d t _) (fun d t _ ↦ hclose d t _) hd
  refine ⟨?_, List.append_cancel_left hr⟩
  cases g
  cases g'
  exact Group.mk.injEq .. ▸ ⟨hs, KeyedList.ext hl⟩

theorem delimits_spaced {α : Type} {D : α → Prop} {f : α → List String} {z : List Char}
    (h : Delimits D fun a ↦ lineChars (f a)) (hn : ∀ t r, '\n' :: t ≠ z ++ r)
    (hc : ∀ a t r, D a → lineChars (f a) ++ t ≠ z ++ r) :
    Delimits (fun l : List α ↦ ∀ a ∈ l, D a) fun l ↦ lineChars (spaced (l.map f)) ++ z := by
  have hs : Delimits D fun a ↦ '\n' :: lineChars (f a) := fun a b ha hb r s he ↦
    h ha hb (List.cons.inj he).2
  intro l l' hl hl' r s he
  -- Where one list ends and the other does not, the closing line would open a member.
  cases l with
  | nil =>
    cases l' with
    | nil => exact ⟨rfl, List.append_cancel_left he⟩
    | cons b l' =>
      simp only [List.map_cons, lineChars_spaced_cons, List.append_assoc] at he
      exact absurd he.symm (hc b _ _ (hl' b List.mem_cons_self))
  | cons a l =>
    cases l' with
    | nil =>
      simp only [List.map_cons, lineChars_spaced_cons, List.append_assoc] at he
      exact absurd he (hc a _ _ (hl a List.mem_cons_self))
    | cons b l' =>
      simp only [List.map_cons, lineChars_spaced_cons, List.append_assoc, List.flatMap_map] at he
      obtain ⟨rfl, ht⟩ := h (hl a List.mem_cons_self) (hl' b List.mem_cons_self) he
      obtain ⟨rfl, hr⟩ := hs.flatMap (fun c hc ↦ hl c (List.mem_cons_of_mem a hc))
        (fun c hc ↦ hl' c (List.mem_cons_of_mem a hc)) (fun c t _ ↦ hn _ _) (fun c t _ ↦ hn _ _) ht
      exact ⟨rfl, List.append_cancel_left hr⟩

def layeredLines (space : String) (e : String × List Group) : List String :=
  ("  @layer " ++ layerName space e.1 ++ " \x7b") :: groupLines 2 e.2 ++ ["  \x7d"]

theorem lineChars_layeredLines (space : String) (e : String × List Group) :
    lineChars (layeredLines space e) =
      ("  @layer ".toList ++ (if space.isEmpty then "" else space ++ ".").toList ++ e.1.toList ++
        [' ', '\x7b'] ++ ['\n']) ++
      (lineChars (spaced (e.2.map groupRule)) ++ lineChars ["  \x7d"]) := by
  have hg : groupLines 2 e.2 = spaced (e.2.map groupRule) := rfl
  rw [layeredLines, lineChars_append, lineChars_cons, layerName, hg]
  split <;> simp

theorem delimits_layer (space : String) :
    Delimits (fun e : String × List Group ↦ OneLine e.1 ∧ ∀ g ∈ e.2, g.Legible)
      fun e ↦ lineChars (layeredLines space e) := by
  have hc (g : Group) (t r : List Char) (hg : g.Legible) :
      lineChars (groupRule g) ++ t ≠ lineChars ["  \x7d"] ++ r := by
    obtain ⟨s, l, hs⟩ := List.exists_cons_of_ne_nil hg.ne_nil
    have hi : indent 2 = "    " := rfl
    cases l <;> simp [groupRule, ruleLines, hs, selectorLines, lineChars, hi]
  have hp := (delimits_line
    ("  @layer ".toList ++ (if space.isEmpty then "" else space ++ ".").toList)
    [' ', '\x7b'] (by decide)).pair
    (delimits_spaced delimits_group (z := lineChars ["  \x7d"]) (by simp [lineChars]) hc)
  simpa only [lineChars_layeredLines] using hp

def queryLines (space : String) (e : String × List (String × List Group)) : List String :=
  (e.1 ++ " \x7b") :: spaced (e.2.map (layeredLines space)) ++ ["\x7d"]

theorem lineChars_queryLines (space : String) (e : String × List (String × List Group)) :
    lineChars (queryLines space e) =
      ("".toList ++ e.1.toList ++ [' ', '\x7b'] ++ ['\n']) ++
      (lineChars (spaced (e.2.map (layeredLines space))) ++ lineChars ["\x7d"]) := by
  rw [queryLines, lineChars_append, lineChars_cons]
  simp

theorem delimits_query (space : String) :
    Delimits (fun e : String × List (String × List Group) ↦
        OneLine e.1 ∧ ∀ l ∈ e.2, OneLine l.1 ∧ ∀ g ∈ l.2, g.Legible)
      fun e ↦ lineChars (queryLines space e) := by
  have hc (e : String × List Group) (t r : List Char)
      (_ : OneLine e.1 ∧ ∀ g ∈ e.2, g.Legible) :
      lineChars (layeredLines space e) ++ t ≠ lineChars ["\x7d"] ++ r := by
    rw [lineChars_layeredLines]
    simp [lineChars]
  have hp := (delimits_line "".toList [' ', '\x7b'] (by decide)).pair
    (delimits_spaced (delimits_layer space) (by simp [lineChars]) hc)
  simpa only [lineChars_queryLines] using hp

theorem toList_intercalate_cons (sep s : String) (l : List String) :
    (String.intercalate sep (s :: l)).toList =
      s.toList ++ l.flatMap fun t ↦ sep.toList ++ t.toList := by
  induction l generalizing s with
  | nil => simp
  | cons t l ih =>
    rw [String.intercalate_cons_of_ne_nil (List.cons_ne_nil t l), String.toList_append,
      String.toList_append, ih]
    simp

theorem toList_intercalate_append (sep : String) {l : List String} (h : l ≠ [])
    (m : List String) :
    (String.intercalate sep (l ++ m)).toList =
      (String.intercalate sep l).toList ++ m.flatMap fun t ↦ sep.toList ++ t.toList := by
  obtain ⟨s, l, rfl⟩ := List.exists_cons_of_ne_nil h
  rw [List.cons_append, toList_intercalate_cons, toList_intercalate_cons, List.flatMap_append,
    List.append_assoc]

theorem toList_unlines_append {lines : List String} (h : lines ≠ []) :
    (unlines lines).toList ++ ['\n'] = lineChars lines := by
  obtain ⟨l, m, rfl⟩ := List.exists_cons_of_ne_nil h
  rw [unlines, toList_intercalate_cons]
  induction m generalizing l with
  | nil => simp [lineChars]
  | cons t m ih => simpa [lineChars_cons] using ih t (List.cons_ne_nil t m)

end Stylesheet

def Layer.groups (format : Format) (l : Layer) : List Group :=
  if format.merged then l.merged else l.separate

/-- What a sheet has to say in a format: its queries, under each its breakpoints, under each its
groups. -/
def Sheet.outline (format : Format) (s : Sheet) :
    List (String × List (String × List Group)) :=
  s.blocks.toList.map fun (query, b) ↦ (query, b.toList.map fun (name, l) ↦ (name, l.groups format))

namespace Stylesheet

theorem blockLines_eq {format : Format} (h : format.layered = true) (space query : String)
    (b : Block) :
    blockLines format space query b =
      queryLines space (query, b.toList.map fun (name, l) ↦ (name, l.groups format)) := by
  simp only [blockLines, queryLines, layerLines, h, if_true, List.map_map]
  rfl

def preface (config : Config) : List String :=
  layerOrder config :: (page? config.page).toList
    ++ config.themes.toList.filterMap fun (name, t) ↦ theme? config.element name t

theorem flatMap_lineEnd {α : Type} (f : α → List Char) (l : List α) :
    (l.flatMap fun a ↦ "\n\n".toList ++ f a) ++ "\n".toList =
      '\n' :: l.flatMap fun a ↦ '\n' :: (f a ++ ['\n']) := by
  induction l with
  | nil => rfl
  | cons a l ih =>
    rw [List.flatMap_cons, List.append_assoc, ih]
    simp

theorem toList_render {format : Format} (h : format.layered = true) (config : Config)
    (s : Sheet) :
    (render format config "" "" s).toList =
      (String.intercalate "\n\n" (preface config)).toList ++
        '\n' :: (s.outline format).flatMap fun e ↦
          '\n' :: lineChars (queryLines config.layer e) := by
  have hp : parts format config "" "" s =
      preface config ++ s.blocks.toList.map fun (query, b) ↦ block format config.layer query b := by
    simp [parts, preface, module?, Text.nonBlank?, Text.isAllBlank]
  have hb (query : String) (b : Block) :
      (block format config.layer query b).toList ++ ['\n'] =
        lineChars (queryLines config.layer
          (query, b.toList.map fun (name, l) ↦ (name, l.groups format))) := by
    rw [block, toList_unlines_append (by simp [blockLines]), blockLines_eq h]
  rw [render, String.toList_append, hp, toList_intercalate_append _ (by simp [preface]),
    List.append_assoc, List.flatMap_map]
  rw [flatMap_lineEnd fun e : String × Block ↦ (block format config.layer e.1 e.2).toList]
  simp only [hb, Sheet.outline, List.flatMap_map]

end Stylesheet

namespace Layer

def Legible (l : Layer) : Prop :=
  ∀ e ∈ l.toList, OneLine e.1 ∧ ∀ d ∈ e.2.toList, Stylesheet.Plain d

instance (l : Layer) : Decidable l.Legible := inferInstanceAs (Decidable (∀ _ ∈ _, _))

theorem Legible.of_mem_groups {l : Layer} (h : l.Legible) {format : Format} {g : Group}
    (hg : g ∈ l.groups format) : g.Legible := by
  rw [groups] at hg
  split at hg
  · obtain ⟨s, hs, hd⟩ := l.exists_of_mem_merged hg
    refine ⟨List.ne_nil_of_mem hs, fun t ht ↦ ?_, (h _ hd).2⟩
    obtain ⟨slot, hslot⟩ := List.mem_iff_getElem?.1 hg
    obtain ⟨d, ht⟩ := l.exists_seat_of_mem_selectors hslot ht
    exact (h (t, d) (l.map_seats ▸ List.mem_map_of_mem ht)).1
  · obtain ⟨e, he, rfl⟩ := List.mem_map.1 hg
    exact ⟨List.cons_ne_nil _ _, fun s hs ↦ List.mem_singleton.1 hs ▸ (h e he).1, (h e he).2⟩

end Layer

namespace Sheet

/-- A sheet whose queries, breakpoints, selectors, properties and values stand on one line each and
whose properties have no colon. All else may stand in them. -/
def Legible (s : Sheet) : Prop :=
  ∀ e ∈ s.blocks.toList, OneLine e.1 ∧ ∀ l ∈ e.2.toList, OneLine l.1 ∧ l.2.Legible

instance (s : Sheet) : Decidable s.Legible := inferInstanceAs (Decidable (∀ _ ∈ _, _))

theorem Legible.of_mem_outline {s : Sheet} (h : s.Legible) {format : Format}
    {e : String × List (String × List Group)} (he : e ∈ s.outline format) :
    OneLine e.1 ∧ ∀ l ∈ e.2, OneLine l.1 ∧ ∀ g ∈ l.2, g.Legible := by
  obtain ⟨b, hb, rfl⟩ := List.mem_map.1 he
  refine ⟨(h b hb).1, fun l hl ↦ ?_⟩
  obtain ⟨m, hm, rfl⟩ := List.mem_map.1 hl
  exact ⟨((h b hb).2 m hm).1, fun g hg ↦ ((h b hb).2 m hm).2.of_mem_groups hg⟩

theorem render_eq_of_outline_eq {format : Format} (hf : format.layered = true) (config : Config)
    {s s' : Sheet} (h : s.outline format = s'.outline format) :
    Stylesheet.render format config "" "" s = Stylesheet.render format config "" "" s' := by
  apply String.toList_injective
  rw [Stylesheet.toList_render hf, Stylesheet.toList_render hf, h]

/-- A layered stylesheet can be read back: two legible sheets with the same text have the same
queries, the same breakpoints under each and the same rules under those, in the same order. -/
theorem outline_eq_of_render_eq {format : Format} (hf : format.layered = true) (config : Config)
    {ws ws' : List Write} (h : (ofWrites ws).Legible) (h' : (ofWrites ws').Legible)
    (he : Stylesheet.render format config "" "" (ofWrites ws) =
      Stylesheet.render format config "" "" (ofWrites ws')) :
    (ofWrites ws).outline format = (ofWrites ws').outline format := by
  have ht := congrArg String.toList he
  rw [Stylesheet.toList_render hf, Stylesheet.toList_render hf] at ht
  have hq := (List.cons.inj (List.append_cancel_left ht)).2
  have hd : Delimits (fun e : String × List (String × List Group) ↦
        OneLine e.1 ∧ ∀ l ∈ e.2, OneLine l.1 ∧ ∀ g ∈ l.2, g.Legible)
      fun e ↦ '\n' :: Stylesheet.lineChars (Stylesheet.queryLines config.layer e) :=
    fun a b ha hb r s he ↦ Stylesheet.delimits_query config.layer ha hb (List.cons.inj he).2
  refine (hd.flatMap (r := []) (s := []) (fun e ↦ h.of_mem_outline) (fun e ↦ h'.of_mem_outline)
    (by simp) (by simp) ?_).1
  rwa [List.append_nil, List.append_nil]

def braces : List Write :=
  [⟨"@media \x7b", "md", "a, b \x7b", [("--x", "1; \x7d"), ("--y", "\",")]⟩,
    ⟨"@media \x7b", "md", "c", [("--x", "1; \x7d"), ("--y", "\",")]⟩]

/-- The second rule in another order: it joins the first, whose order its group prints. -/
def bracesAnew : List Write :=
  [⟨"@media \x7b", "md", "a, b \x7b", [("--x", "1; \x7d"), ("--y", "\",")]⟩,
    ⟨"@media \x7b", "md", "c", [("--y", "\","), ("--x", "1; \x7d")]⟩]

theorem outline_bracesAnew :
    ({} : Format).layered = true ∧ ofWrites braces ≠ ofWrites bracesAnew ∧
    (ofWrites braces).Legible ∧ (ofWrites bracesAnew).Legible ∧
    Stylesheet.render {} {} "" "" (ofWrites braces) =
      Stylesheet.render {} {} "" "" (ofWrites bracesAnew) ∧
    (ofWrites braces).outline {} = (ofWrites bracesAnew).outline {} := by
  have hne : ofWrites braces ≠ ofWrites bracesAnew := by decide
  have h : (ofWrites braces).Legible := by decide
  have h' : (ofWrites bracesAnew).Legible := by decide
  have he : Stylesheet.render {} {} "" "" (ofWrites braces) =
      Stylesheet.render {} {} "" "" (ofWrites bracesAnew) :=
    render_eq_of_outline_eq rfl {} (by decide)
  exact ⟨rfl, hne, h, h', he, outline_eq_of_render_eq rfl {} h h' he⟩

end Sheet

end LayoutSheet
