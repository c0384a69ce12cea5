import LayoutSheet.Watching
import LayoutSheet.Proofs.Listing

namespace LayoutSheet

namespace Path

def steps (path : String) : List (List Char) := (segments path.toList).filter isStep

def ofStep (s : List Char) : Component := if s = ['.', '.'] then .up else .name (String.ofList s)

def anchor (path : String) : List Component :=
  match (lead path.toList).1 with
  | ['/'] => [.root]
  | ['.'] => [.here]
  | _ => []

theorem ofStep_injective : Function.Injective ofStep := by
  intro a b h
  unfold ofStep at h
  split at h <;> split at h
  · next ha hb => rw [ha, hb]
  · cases h
  · cases h
  · exact String.ofList_injective (Component.name.inj h)

theorem steps_lead (cs : List Char) :
    (segments (lead cs).2).filter isStep = (segments cs).filter isStep := by
  unfold lead
  split
  · rfl
  · rfl
  · rfl
  · rfl

theorem components_eq (path : String) :
    components path = anchor path ++ (steps path).map ofStep := by
  rw [steps, ← steps_lead]
  rfl

theorem lead_eq_root_iff (cs : List Char) : (lead cs).1 = ['/'] ↔ cs.head? = some '/' := by
  unfold lead
  split
  · simp
  · simp
  · simp
  · next cs h _ _ =>
    refine iff_of_false (by simp) fun hh ↦ ?_
    obtain ⟨r, rfl⟩ := List.head?_eq_some_iff.1 hh
    exact h r rfl

theorem root_mem_anchor (path : String) :
    .root ∈ anchor path ↔ path.toList.head? = some '/' := by
  rw [← lead_eq_root_iff, anchor]
  split
  · next h => simp [h]
  · next h => simp [h]
  · next h _ => exact iff_of_false (by simp) h

def isAnchor (c : Component) : Bool := c ∈ [.root, .here]

theorem isAnchor_of_mem_anchor {path : String} {c : Component} (h : c ∈ anchor path) :
    isAnchor c = true := by
  unfold anchor at h
  split at h
  · obtain rfl := List.mem_singleton.1 h
    rfl
  · obtain rfl := List.mem_singleton.1 h
    rfl
  · cases h

theorem isAnchor_ofStep (s : List Char) : isAnchor (ofStep s) = false := by
  unfold ofStep
  split
  · rfl
  · simp [isAnchor]

theorem eq_of_components_eq {p q : String} (h : components p = components q) :
    steps p = steps q ∧ (p.toList.head? = some '/' ↔ q.toList.head? = some '/') := by
  have hanchor (path : String) : (components path).filter isAnchor = anchor path := by
    rw [components_eq, List.filter_append, List.filter_eq_self.2 fun c ↦ isAnchor_of_mem_anchor,
      List.filter_map, List.filter_eq_nil_iff.2 fun s _ ↦ by simp [isAnchor_ofStep], List.map_nil,
      List.append_nil]
  have hsteps (path : String) :
      (components path).filter (fun c ↦ !isAnchor c) = (steps path).map ofStep := by
    rw [components_eq, List.filter_append,
      List.filter_eq_nil_iff.2 fun c hc ↦ by simp [isAnchor_of_mem_anchor hc], List.nil_append,
      List.filter_map, List.filter_eq_self.2 fun s _ ↦ by simp [isAnchor_ofStep]]
  constructor
  · exact List.map_injective_iff.2 ofStep_injective (by rw [← hsteps, ← hsteps, h])
  · rw [← root_mem_anchor, ← root_mem_anchor, ← hanchor, ← hanchor, h]

end Path

namespace FileTree

variable {t : FileTree}

theorem step_of_not_isStep {s s' : Spot} {segment : List Char} (hs : Path.isStep segment = false)
    (h : t.step s segment = .ok s') : s' = s := by
  unfold step at h
  split at h
  · cases h
  · rw [hs] at h
    exact (Except.ok.inj h).symm

theorem walk_filter {s s' : Spot} {segments : List (List Char)}
    (h : t.walk s segments = .ok s') : t.walk s (segments.filter Path.isStep) = .ok s' := by
  induction segments generalizing s with
  | nil => exact h
  | cons segment segments ih =>
    rw [walk] at h
    cases hs : t.step s segment with
    | error e =>
      rw [hs] at h
      cases h
    | ok spot =>
      rw [hs] at h
      by_cases hstep : Path.isStep segment = true
      · rw [List.filter_cons_of_pos hstep, walk, hs]
        exact ih h
      · rw [List.filter_cons_of_neg hstep]
        obtain rfl := step_of_not_isStep (Bool.eq_false_iff.2 hstep) hs
        exact ih h

theorem place_of_find {path : String} {s : Spot} (h : t.find path = .ok s) :
    t.place path = .ok s := by
  unfold find at h
  split at h
  · cases h
  · cases hc : checkPath path with
    | error e =>
      rw [hc] at h
      cases h
    | ok u =>
      rw [hc] at h
      exact h

/-- Two paths of the same components that are found are found at one place. -/
theorem find_eq_of_components_eq {p q : String} {s s' : Spot}
    (h : Path.components p = Path.components q) (hp : t.find p = .ok s) (hq : t.find q = .ok s') :
    s = s' := by
  obtain ⟨hsteps, hhead⟩ := Path.eq_of_components_eq h
  have hstart : start p.toList = start q.toList := by simp only [start, hhead]
  have hp : t.walk (start p.toList) (Path.steps p) = .ok s := walk_filter (place_of_find hp)
  have hq : t.walk (start q.toList) (Path.steps q) = .ok s' := walk_filter (place_of_find hq)
  rw [hstart, hsteps, hq] at hp
  exact (Except.ok.inj hp).symm

theorem find_of_isFile {path : String} (h : t.isFile path = true) : ∃ s, t.find path = .ok s := by
  unfold isFile at h
  split at h
  · next hf => exact ⟨_, hf⟩
  · cases h

theorem isFile_of_read {path text : String} (h : t.read path = .ok text) :
    t.isFile path = true := by
  unfold read at h
  unfold isFile
  split at h
  · cases h
  · cases h
  · next hf => rw [hf]
  · cases h

end FileTree

namespace Times

theorem lastOfEach_subset (l : Times) : lastOfEach l ⊆ l := by
  fun_induction lastOfEach l with
  | case1 => exact List.Subset.refl []
  | case2 a => exact List.Subset.refl [a]
  | case3 a b r _ ih => exact List.subset_cons_of_subset a ih
  | case4 a b r _ ih => exact List.cons_subset_cons a ih

theorem exists_mem_lastOfEach {l : Times} {a : String × Option Nat} (h : a ∈ l) :
    ∃ b ∈ lastOfEach l, Path.components b.1 = Path.components a.1 := by
  fun_induction lastOfEach l generalizing a with
  | case1 => cases h
  | case2 b =>
    obtain rfl := List.mem_singleton.1 h
    exact ⟨a, List.mem_singleton_self a, rfl⟩
  | case3 b c r he ih =>
    rcases List.mem_cons.1 h with rfl | h
    · obtain ⟨e, hm, hc⟩ := ih List.mem_cons_self
      exact ⟨e, hm, hc.trans he.symm⟩
    · exact ih h
  | case4 b c r _ ih =>
    rcases List.mem_cons.1 h with rfl | h
    · exact ⟨a, List.mem_cons_self, rfl⟩
    · obtain ⟨e, hm, hc⟩ := ih h
      exact ⟨e, List.mem_cons_of_mem b hm, hc⟩

theorem exists_of_mem_key {l : List (String × Option Nat)} {e : List Path.Component × Option Nat}
    (h : e ∈ (ofList l).key) : ∃ a ∈ l, (Path.components a.1, a.2) = e := by
  obtain ⟨a, ha, rfl⟩ := List.mem_map.1 h
  exact ⟨a, List.mem_mergeSort.1 (lastOfEach_subset _ ha), rfl⟩

theorem mem_key {l : List (String × Option Nat)}
    (h : ∀ a ∈ l, ∀ b ∈ l, Path.components a.1 = Path.components b.1 → a.2 = b.2)
    {p : String} {time : Option Nat} (hp : (p, time) ∈ l) :
    (Path.components p, time) ∈ (ofList l).key := by
  obtain ⟨b, hb, hc⟩ := exists_mem_lastOfEach (List.mem_mergeSort.2 hp)
  have htime : b.2 = time := h b (List.mem_mergeSort.1 (lastOfEach_subset _ hb)) (p, time) hp hc
  rw [← hc, ← htime]
  exact List.mem_map.2 ⟨b, hb, rfl⟩

end Times

namespace Directory

variable {d : Directory} {t u : FileTree}

def Present (d : Directory) (t : FileTree) : Prop := ∀ p ∈ d.watched t.files, t.isFile p = true

theorem present_of_isFile_config (h : t.isFile d.config = true) : d.Present t := by
  have hlist {directory extension p : String}
      (hp : p ∈ (t.files.withExtension directory extension).toOption.getD []) :
      t.isFile p = true := by
    cases hl : t.files.withExtension directory extension with
    | error e =>
      rw [hl] at hp
      cases hp
    | ok paths =>
      rw [hl] at hp
      obtain ⟨names, hn, rfl⟩ := Files.withExtension_eq_ok hl
      obtain ⟨n, hm, rfl⟩ := List.mem_map.1 hp
      exact (FileTree.of_mem_list hn (List.mem_filter.1 (List.mem_mergeSort.1 hm)).1).2
  intro p hp
  rcases List.mem_append.1 hp with hp | hp
  · rcases List.mem_cons.1 hp with rfl | hp
    · exact h
    · exact hlist hp
  · exact hlist hp

theorem isFile_config_of_loadConfig {c : Config} (h : d.loadConfig t.files = .ok c) :
    t.isFile d.config = true := by
  cases hr : t.read d.config with
  | ok text => exact FileTree.isFile_of_read hr
  | error e =>
    have hf : t.files.read d.config = .error e := hr
    rw [loadConfig, readAt, hf] at h
    cases h

theorem Present.time?_eq (h : d.Present t) {p q : String} (hp : p ∈ d.watched t.files)
    (hq : q ∈ d.watched t.files) (hc : Path.components p = Path.components q) :
    t.time? p = t.time? q := by
  obtain ⟨s, hs⟩ := FileTree.find_of_isFile (h p hp)
  obtain ⟨s', hs'⟩ := FileTree.find_of_isFile (h q hq)
  rw [FileTree.time?, FileTree.time?, hs, hs', FileTree.find_eq_of_components_eq hc hs hs']

def key (d : Directory) (t : FileTree) : Times.Key := (d.times t.files).key

/-- Looks at the same files that agree have found each file with one time. -/
theorem time?_eq_of_key_eq (hw : d.watched t.files = d.watched u.files) (ht : d.Present t)
    (hu : d.Present u) (h : d.key t = d.key u) {p : String} (hp : p ∈ d.watched t.files) :
    t.time? p = u.time? p := by
  have hmem : (Path.components p, t.time? p) ∈ d.key t := by
    have hl : (p, t.time? p) ∈ (d.watched t.files).map fun path ↦ (path, t.files.time? path) :=
      List.mem_map_of_mem hp
    refine Times.mem_key (fun a ha b hb hc ↦ ?_) hl
    obtain ⟨q, hq, rfl⟩ := List.mem_map.1 ha
    obtain ⟨q', hq', rfl⟩ := List.mem_map.1 hb
    exact ht.time?_eq hq hq' hc
  rw [h] at hmem
  obtain ⟨a, ha, he⟩ := Times.exists_of_mem_key hmem
  obtain ⟨q, hq, rfl⟩ := List.mem_map.1 ha
  obtain ⟨hc, htime⟩ := Prod.mk.inj he
  rw [← htime]
  exact hu.time?_eq hq (hw ▸ hp) hc

end Directory

end LayoutSheet
