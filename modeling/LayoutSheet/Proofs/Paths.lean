import LayoutSheet.FileTree
import Mathlib.Data.List.TakeWhile

namespace LayoutSheet

namespace Path

/-- A name that an entry of a directory can have. -/
def IsName (n : String) : Prop :=
  isStep n.toList = true ∧ n.toList ≠ ['.', '.'] ∧ '/' ∉ n.toList ∧ '\x00' ∉ n.toList ∧
    n.utf8ByteSize ≤ FileTree.maxName

instance (n : String) : Decidable (IsName n) := inferInstanceAs (Decidable (_ ∧ _))

theorem segments_ne_nil (cs : List Char) : segments cs ≠ [] := by
  cases cs with
  | nil => simp [segments]
  | cons c cs =>
    rw [segments]
    split
    · simp
    · split <;> simp

theorem segments_append (a b : List Char) :
    segments (a ++ '/' :: b) = segments a ++ segments b := by
  induction a with
  | nil => simp [segments]
  | cons c a ih =>
    rw [List.cons_append, segments, ih, segments]
    split
    · rfl
    · cases hs : segments a with
      | nil => exact absurd hs (segments_ne_nil a)
      | cons s r => rfl

theorem segments_of_notMem {n : List Char} (h : '/' ∉ n) : segments n = [n] := by
  induction n with
  | nil => rfl
  | cons c n ih =>
    have hc : c ≠ '/' := fun hc ↦ h (hc ▸ List.mem_cons_self)
    rw [segments, if_neg hc, ih fun hn ↦ h (List.mem_cons_of_mem c hn)]

def front (path : List Char) : List Char :=
  if path = [] ∨ path.getLast? = some '/' then path else path ++ ['/']

theorem suffix_slash_iff {cs : List Char} : ['/'] <:+ cs ↔ cs.getLast? = some '/' := by
  constructor
  · rintro ⟨a, rfl⟩
    simp
  · intro h
    obtain ⟨a, rfl⟩ := List.getLast?_eq_some_iff.1 h
    exact ⟨a, rfl⟩

theorem front_cases (path : List Char) :
    front path = [] ∧ path = [] ∨
      ∃ b, front path = b ++ ['/'] ∧ (path = b ∧ b ≠ [] ∨ path = b ++ ['/']) := by
  unfold front
  split
  · next h =>
    rcases h with rfl | h
    · exact .inl ⟨rfl, rfl⟩
    · obtain ⟨b, rfl⟩ := List.getLast?_eq_some_iff.1 h
      exact .inr ⟨b, rfl, .inr rfl⟩
  · next h => exact .inr ⟨path, rfl, .inl ⟨rfl, fun hp ↦ h (.inl hp)⟩⟩

theorem toList_join {n : String} (h : '/' ∉ n.toList) (path : String) :
    (join path n).toList = front path.toList ++ n.toList := by
  have hn : n.startsWith "/" = false := by
    rw [Bool.eq_false_iff, Ne, String.startsWith_string_iff]
    rintro ⟨r, hr⟩
    exact h (hr ▸ List.mem_append_left r (List.mem_singleton.2 rfl))
  have he : (path.isEmpty || path.endsWith "/") = true ↔
      path.toList = [] ∨ path.toList.getLast? = some '/' := by
    have hs : path.endsWith "/" = true ↔ "/".toList <:+ path.toSlice.copy.toList :=
      String.Slice.endsWith_string_iff
    rw [String.copy_toSlice] at hs
    rw [Bool.or_eq_true, String.isEmpty_iff, hs, ← suffix_slash_iff, String.toList_eq_nil_iff]
    rfl
  rw [join, hn, front]
  simp only [Bool.false_eq_true, if_false, he]
  split <;> simp

theorem join_empty {n : String} (h : '/' ∉ n.toList) : join "" n = n := by
  rw [← String.toList_inj, toList_join h]
  rfl

theorem exists_lead_append {n : List Char} (hn : '/' ∉ n) (hs : isStep n = true)
    (path : List Char) :
    ∃ ss, segments (lead (front path ++ n)).2 = ss ++ [n] := by
  have hseg := segments_of_notMem hn
  obtain ⟨hf, -⟩ | ⟨b, hf, -⟩ := front_cases path
  · refine ⟨[], ?_⟩
    rw [hf, List.nil_append]
    unfold lead
    split
    · simp at hn
    · simp [isStep] at hs
    · simp at hn
    · exact hseg
  · rw [hf]
    unfold lead
    split
    · next r h =>
      cases b with
      | nil =>
        obtain rfl : n = r := by simpa using h
        exact ⟨[], hseg⟩
      | cons c b =>
        obtain ⟨-, rfl⟩ : c = '/' ∧ b ++ '/' :: n = r := by simpa using h
        exact ⟨segments b, by rw [segments_append, hseg]⟩
    · next h =>
      have := congrArg List.length h
      cases b <;> cases n <;> simp [isStep] at this hs
    · next r h =>
      cases b with
      | nil => simp at h
      | cons c b =>
        obtain ⟨-, h⟩ : c = '.' ∧ b ++ '/' :: n = '/' :: r := by simpa using h
        exact ⟨segments b, by rw [← h, segments_append, hseg]⟩
    · exact ⟨segments b, by rw [List.append_assoc, List.singleton_append, segments_append, hseg]⟩

theorem fileName?_join {n : String} (h : IsName n) (path : String) :
    fileName? (join path n) = some n := by
  obtain ⟨hs, hd, hn, -, -⟩ := h
  obtain ⟨ss, hl⟩ := exists_lead_append hn hs path.toList
  have hc : (components (join path n)).getLast? = some (.name n) := by
    simp only [components, toList_join hn, hl, List.filter_append, List.map_append]
    rw [← List.append_assoc]
    simp [hs, hd]
  rw [fileName?, hc]

theorem stem?_join {n : String} (h : IsName n) (path : String) :
    stem? (join path n) = some (cutName n).1 := by
  rw [stem?, fileName?_join h]
  rfl

theorem extension?_join {n : String} (h : IsName n) (path : String) :
    extension? (join path n) = (cutName n).2 := by
  rw [extension?, fileName?_join h]
  rfl

theorem eq_of_cutName {n e : String} (h : (cutName n).2 = some e) :
    n = (cutName n).1 ++ "." ++ e := by
  have hc := List.takeWhile_append_dropWhile (p := (· ≠ '.')) (l := n.toList.reverse)
  unfold cutName at h ⊢
  dsimp only at h ⊢
  split at h
  · next before _ hd =>
    obtain rfl := Option.some.inj h
    rw [hd] at hc
    have hr := congrArg List.reverse hc
    rw [List.reverse_reverse] at hr
    rw [← String.toList_inj]
    refine hr.symm.trans ?_
    simp
  · cases h

end Path

namespace FileTree

variable (t : FileTree)

theorem walk_append (s : Spot) (a b : List (List Char)) :
    t.walk s (a ++ b) = (t.walk s a).bind fun s ↦ t.walk s b := by
  induction a generalizing s with
  | nil => rfl
  | cons c a ih =>
    rw [List.cons_append, walk, walk]
    cases t.step s c with
    | error e => rfl
    | ok s => exact ih s

theorem walk_singleton (s : Spot) (c : List Char) : t.walk s [c] = t.step s c := by
  rw [walk]
  cases t.step s c <;> rfl

theorem step_nil_bind (s : Spot) (c : List Char) :
    ((t.step s []).bind fun s ↦ t.step s c) = t.step s c := by
  obtain ⟨names, e⟩ := s
  cases e <;> rfl

theorem start_front_append {n : List Char} (hn : '/' ∉ n) (path : List Char) :
    start (Path.front path ++ n) = start path := by
  have hh : (Path.front path ++ n).head? = some '/' ↔ path.head? = some '/' := by
    obtain ⟨hf, rfl⟩ | ⟨b, hf, ⟨rfl, hb⟩ | rfl⟩ := Path.front_cases path
    · rw [hf, List.nil_append]
      refine iff_of_false (fun h ↦ ?_) (by simp)
      exact hn (List.mem_of_mem_head? h)
    · obtain ⟨c, b, rfl⟩ := List.exists_cons_of_ne_nil hb
      rw [hf]
      rfl
    · rw [hf]
      cases b <;> rfl
  simp only [start, hh]

/-- A name joined to a path leads one step on from where the path leads. -/
theorem place_join {n : String} (hn : '/' ∉ n.toList) (path : String) :
    t.place (Path.join path n) = (t.place path).bind fun s ↦ t.step s n.toList := by
  have hs (s : Spot) (c : List Char) : t.walk s [c] = t.step s c := t.walk_singleton s c
  have hseg := Path.segments_of_notMem hn
  rw [place, place, Path.toList_join hn, start_front_append hn]
  obtain ⟨hf, hp⟩ | ⟨b, hf, hp⟩ := Path.front_cases path.toList
  · rw [hf, hp, List.nil_append, hseg, hs, Path.segments, hs]
    exact (t.step_nil_bind _ _).symm
  · rw [hf, List.append_assoc, List.singleton_append, Path.segments_append, hseg, walk_append]
    rcases hp with ⟨hp, -⟩ | hp
    · rw [hp]
      simp only [hs]
    · rw [hp, Path.segments_append, walk_append, Path.segments]
      cases t.walk (start (b ++ ['/'])) (Path.segments b) with
      | error e => rfl
      | ok s =>
        simp only [Except.bind, hs]
        exact (t.step_nil_bind s n.toList).symm

end FileTree

end LayoutSheet
