import LayoutSheet.Proofs.Catalog
import LayoutSheet.Proofs.Containers
import Mathlib.Data.List.TakeWhile

namespace LayoutSheet

namespace Variant

def behindClose (cs : List Char) : List Char := (cs.reverse.takeWhile (· ≠ ')')).reverse

def opened? : List Char → Option (List Char)
  | '(' :: c :: inner => some (c :: inner)
  | _ => none

/-- The id can be had back from its qualified form: the family word has an opening parenthesis only
before a closing one. -/
structure Retrievable (family id : String) : Prop where
  nonempty : id ≠ ""
  unclosed : ')' ∉ id.toList
  closed : ∀ before behind, family.toList = before ++ '(' :: behind → ')' ∈ behind

theorem close_notMem_behindClose (cs : List Char) : ')' ∉ behindClose cs := by
  rw [behindClose, List.mem_reverse]
  intro h
  simpa using List.mem_takeWhile_imp h

theorem behindClose_suffix (cs : List Char) : behindClose cs <:+ cs := by
  rw [← List.reverse_prefix, behindClose, List.reverse_reverse]
  exact List.takeWhile_prefix _

theorem behindClose_append {b : List Char} (h : ')' ∉ b) (a : List Char) :
    behindClose (a ++ b) = behindClose a ++ b := by
  have hall : ∀ c ∈ b.reverse, decide (c ≠ ')') = true := by
    intro c hc
    refine decide_eq_true fun he ↦ ?_
    exact h (he ▸ List.mem_reverse.1 hc)
  rw [behindClose, List.reverse_append, List.takeWhile_append_of_pos hall, List.reverse_append,
    List.reverse_reverse]
  rfl

theorem open_notMem_behindClose_iff {cs : List Char} :
    '(' ∉ behindClose cs ↔ ∀ before behind, cs = before ++ '(' :: behind → ')' ∈ behind := by
  constructor
  · rintro h before behind rfl
    by_contra hn
    have ho : ')' ∉ '(' :: behind := by simpa using hn
    rw [behindClose_append ho] at h
    simp at h
  · intro h ho
    obtain ⟨front, hf⟩ := behindClose_suffix cs
    obtain ⟨before, behind, hs⟩ := List.append_of_mem ho
    have hc := h (front ++ before) behind (by rw [List.append_assoc, ← hs, hf])
    refine close_notMem_behindClose cs ?_
    rw [hs]
    exact List.mem_append_right _ (List.mem_cons_of_mem _ hc)

theorem bareChars_concat (cs : List Char) :
    bareChars (cs ++ [')']) =
      (opened? ((behindClose cs).dropWhile (· ≠ '('))).getD (cs ++ [')']) := by
  rw [bareChars, List.reverse_append]
  change (match (behindClose cs).dropWhile (· ≠ '(') with
    | '(' :: c :: inner => c :: inner
    | _ => cs ++ [')']) = _
  unfold opened?
  split <;> rfl

theorem opened?_cons {inner : List Char} (h : inner ≠ []) :
    opened? ('(' :: inner) = some inner := by
  cases inner with
  | nil => exact absurd rfl h
  | cons c inner => rfl

theorem of_opened? {cs inner : List Char} (h : opened? cs = some inner) : cs = '(' :: inner := by
  unfold opened? at h
  split at h
  · exact congrArg ('(' :: ·) (Option.some.inj h)
  · cases h

theorem bareChars_ne_of_close {id : List Char} (h : ')' ∈ id) (front : List Char) :
    bareChars (front ++ id ++ [')']) ≠ id := by
  rw [bareChars_concat]
  cases ho : opened? ((behindClose (front ++ id)).dropWhile (· ≠ '(')) with
  | none =>
    rw [Option.getD_none]
    intro he
    have hl := congrArg List.length he
    simp only [List.length_append, List.length_singleton] at hl
    omega
  | some inner =>
    rw [Option.getD_some]
    rintro rfl
    have hd := (List.dropWhile_suffix (p := fun c ↦ decide (c ≠ '('))
      (l := behindClose (front ++ inner))).subset
    rw [of_opened? ho] at hd
    exact close_notMem_behindClose _ (hd (List.mem_cons_of_mem _ h))

/-- The first opening parenthesis behind the last closing one decides: it is that of the id when the
family word has none there, and one further to the front otherwise. -/
theorem bareChars_qualified (family id : List Char) :
    bareChars (family ++ '(' :: id ++ [')']) = id ↔
      id ≠ [] ∧ ')' ∉ id ∧ '(' ∉ behindClose family := by
  by_cases hc : ')' ∈ id
  · have hassoc : family ++ '(' :: id = family ++ ['('] ++ id := by simp
    rw [hassoc]
    exact iff_of_false (bareChars_ne_of_close hc _) fun h ↦ h.2.1 hc
  have hb : behindClose (family ++ '(' :: id) = behindClose family ++ '(' :: id :=
    behindClose_append (by simpa using hc) family
  rw [bareChars_concat, hb]
  by_cases ho : '(' ∈ behindClose family
  · refine iff_of_false ?_ fun h ↦ h.2.2 ho
    obtain ⟨before, behind, hs, hn⟩ := List.eq_append_cons_of_mem ho
    have hd : (behindClose family ++ '(' :: id).dropWhile (· ≠ '(') =
        '(' :: (behind ++ '(' :: id) := by
      rw [hs, List.append_assoc, List.dropWhile_append_of_pos]
      · rfl
      · intro c hm
        exact decide_eq_true fun he ↦ hn (he ▸ hm)
    rw [hd, opened?_cons (by simp), Option.getD_some]
    intro he
    have hl := congrArg List.length he
    simp only [List.length_append, List.length_cons] at hl
    omega
  · have hd : (behindClose family ++ '(' :: id).dropWhile (· ≠ '(') = '(' :: id := by
      rw [List.dropWhile_append_of_pos]
      · rfl
      · intro c hm
        exact decide_eq_true fun he ↦ ho (he ▸ hm)
    rw [hd]
    cases id with
    | nil => simp [opened?]
    | cons c id =>
      rw [opened?_cons (List.cons_ne_nil c id), Option.getD_some]
      exact iff_of_true rfl ⟨List.cons_ne_nil c id, hc, ho⟩

theorem bareId_qualify_eq_iff {family id : String} :
    bareId (qualify family id) = id ↔ Retrievable family id := by
  have htext : (qualify family id).toList = family.toList ++ '(' :: id.toList ++ [')'] := by
    simp [qualify]
  have hid : bareId (qualify family id) = id ↔
      bareChars (qualify family id).toList = id.toList := by
    rw [bareId, ← String.toList_inj, String.toList_ofList]
  rw [hid, htext, bareChars_qualified, open_notMem_behindClose_iff]
  constructor
  · rintro ⟨hne, hc, ho⟩
    exact ⟨fun he ↦ hne (he ▸ rfl), hc, ho⟩
  · rintro ⟨hne, hc, ho⟩
    exact ⟨fun he ↦ hne (String.toList_inj.1 he), hc, ho⟩

end Variant

theorem Config.exists_file_of_mem_placements {config : Config}
    {files : List (String × LayoutFile)} {p : Placement}
    (hp : p ∈ config.placements (Catalog.ofFiles files)) :
    p.id = Variant.bareId p.variant.id ∧ ∃ type file v, (type, file) ∈ files ∧ v ∈ file.layouts ∧
      p.family = file.family ∧ p.variant = { v with id := Variant.qualify file.family v.id } := by
  obtain ⟨e, -, he⟩ := List.mem_flatMap.1 hp
  obtain ⟨hs, hid⟩ := Placement.mem_selected_of_mem_atBreakpoint he
  obtain ⟨r, -, hr⟩ := List.mem_flatMap.1 hs
  obtain ⟨type, f, hf, hw, hv⟩ := Reference.of_mem_selected hr
  obtain ⟨file, hm, rfl⟩ := Catalog.exists_of_get?_ofFiles hf
  obtain ⟨v, hl, hq⟩ := List.mem_map.1 (Family.mem_qualified_of_mem_list hv)
  exact ⟨hid, type, file, v, hm, hl, hw, hq.symm⟩

/-- Qualifying is undone exactly for a retrievable id, and exactly then the attribute of a placed
variant's container is the variant's qualified id. -/
theorem Config.attributeText_eq_iff :
    (∀ family id,
      Variant.bareId (Variant.qualify family id) = id ↔ Variant.Retrievable family id) ∧
    ∀ (config : Config) (files : List (String × LayoutFile)),
      ∀ p ∈ config.placements (Catalog.ofFiles files), ∃ type file v,
        (type, file) ∈ files ∧ v ∈ file.layouts ∧ p.family = file.family ∧
        p.variant = { v with id := Variant.qualify file.family v.id } ∧
        (p.attributeText = p.variant.id ↔ Variant.Retrievable file.family v.id) := by
  refine ⟨fun family id ↦ Variant.bareId_qualify_eq_iff, fun config files p hp ↦ ?_⟩
  obtain ⟨hid, type, file, v, hm, hl, hw, hv⟩ := exists_file_of_mem_placements hp
  refine ⟨type, file, v, hm, hl, hw, hv, ?_⟩
  rw [← Variant.bareId_qualify_eq_iff, Placement.attributeText, hw, hid, hv]
  simp [Variant.qualify, String.append_left_inj, String.append_right_inj]

def openWord : List (String × LayoutFile) :=
  [("grid", { family := "a(b", layouts := [{ id := "1" }] })]

def everyGrid : Config where
  breakpoints := KeyedList.ofList [("md", { min := "720px", layouts := [.every "grid"] })]

/-- The attribute of this container is `a(b(b(1)`. -/
def openPlacement : Placement :=
  ⟨"a(b", "b(1", "md", "@media (min-width: 720px)", { id := "a(b(1)" }⟩

theorem Config.attributeText_openWord :
    openPlacement ∈ everyGrid.placements (Catalog.ofFiles openWord) ∧
      openPlacement.attributeText ≠ openPlacement.variant.id := by
  have hp : openPlacement ∈ everyGrid.placements (Catalog.ofFiles openWord) :=
    List.mem_singleton_self _
  obtain ⟨type, file, v, hm, hl, -, -, hiff⟩ :=
    Config.attributeText_eq_iff.2 everyGrid openWord openPlacement hp
  obtain ⟨rfl, rfl⟩ := Prod.mk.inj (List.mem_singleton.1 hm)
  obtain rfl := List.mem_singleton.1 hl
  refine ⟨hp, fun h ↦ ?_⟩
  exact absurd ((hiff.1 h).closed ['a'] ['b'] rfl) (by decide)

end LayoutSheet
