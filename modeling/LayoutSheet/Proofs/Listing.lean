import LayoutSheet.Inputs.Directory
import LayoutSheet.Proofs.Paths
import Mathlib.Data.List.Nodup

namespace LayoutSheet

namespace FileTree

structure WellFormed (t : FileTree) : Prop where
  distinct : (t.entries.map Prod.fst).Nodup
  named : ∀ e ∈ t.entries, ∀ n ∈ e.1, Path.IsName n

variable {t : FileTree}

theorem mem_fileNames {ns : List String} {n : String} :
    n ∈ t.fileNames ns ↔ ∃ content time, (ns ++ [n], .file content time) ∈ t.entries := by
  simp only [fileNames, List.mem_filterMap, Prod.exists]
  constructor
  · rintro ⟨path, e, he, h⟩
    split at h
    · next content time last hl =>
      split at h
      · next hd =>
        obtain rfl := Option.some.inj h
        obtain ⟨above, rfl⟩ := List.getLast?_eq_some_iff.1 hl
        rw [List.dropLast_concat] at hd
        exact ⟨content, time, hd ▸ he⟩
      · cases h
    · cases h
  · rintro ⟨content, time, he⟩
    refine ⟨_, _, he, ?_⟩
    simp

theorem WellFormed.isName_of_mem_fileNames (h : t.WellFormed) {ns : List String} {n : String}
    (hn : n ∈ t.fileNames ns) : Path.IsName n := by
  obtain ⟨content, time, he⟩ := mem_fileNames.1 hn
  exact h.named _ he n (by simp)

theorem nodup_fileNames (h : t.WellFormed) (ns : List String) : (t.fileNames ns).Nodup := by
  have hd := List.pairwise_map.1 h.distinct
  rw [fileNames, List.Nodup, List.pairwise_filterMap]
  refine hd.imp ?_
  intro e e' hne n hn n' hn' heq
  obtain ⟨names, entry⟩ := e
  obtain ⟨names', entry'⟩ := e'
  refine hne ?_
  dsimp only at hn hn'
  split at hn
  · next last hl =>
    split at hn
    · next hns =>
      split at hn'
      · next last' hl' =>
        split at hn'
        · next hns' =>
          obtain rfl := Option.some.inj hn
          obtain rfl := Option.some.inj hn'
          obtain ⟨a, rfl⟩ := List.getLast?_eq_some_iff.1 hl
          obtain ⟨a', rfl⟩ := List.getLast?_eq_some_iff.1 hl'
          rw [List.dropLast_concat] at hns hns'
          rw [hns, hns', heq]
        · cases hn'
      · cases hn'
    · cases hn
  · cases hn

theorem nodup_of_list (h : t.WellFormed) {path : String} {names : List String}
    (hl : t.list path = .ok names) : names.Nodup := by
  unfold list at hl
  split at hl
  · cases hl
  · cases hl
  · obtain rfl := Except.ok.inj hl
    exact (nodup_fileNames h _).filter _
  · obtain rfl := Except.ok.inj hl
    exact .nil

theorem of_mem_list {path n : String} {names : List String} (hl : t.list path = .ok names)
    (hn : n ∈ names) : (∃ ns, n ∈ t.fileNames ns) ∧ t.isFile (Path.join path n) = true := by
  unfold list at hl
  split at hl
  · cases hl
  · cases hl
  · obtain rfl := Except.ok.inj hl
    obtain ⟨hf, hi⟩ := List.mem_filter.1 hn
    exact ⟨⟨_, hf⟩, hi⟩
  · obtain rfl := Except.ok.inj hl
    cases hn

end FileTree

namespace Files

variable {t : FileTree} {directory extension : String} {paths : List String}

theorem withExtension_eq_ok (h : t.files.withExtension directory extension = .ok paths) :
    ∃ names, t.list directory = .ok names ∧ paths =
      ((names.filter fun n ↦ Path.extension? n = some extension).mergeSort fun a b ↦ a ≤ b).map
        (Path.join directory) := by
  have hf : t.files.list directory = t.list directory := rfl
  rw [withExtension, hf] at h
  cases hl : t.list directory with
  | error e => rw [hl] at h; cases h
  | ok names =>
    rw [hl] at h
    exact ⟨names, rfl, (Except.ok.inj h).symm⟩

theorem withExtension_eq_error {e : FileFault} :
    t.files.withExtension directory extension = .error e ↔ t.list directory = .error e := by
  have hf : t.files.list directory = t.list directory := rfl
  rw [withExtension, hf]
  cases t.list directory with
  | error f => exact Iff.rfl
  | ok names => exact iff_of_false (by rintro ⟨⟩) (by rintro ⟨⟩)

variable (ht : t.WellFormed) (h : t.files.withExtension directory extension = .ok paths)
include ht h

theorem exists_of_mem_withExtension {p : String} (hp : p ∈ paths) :
    ∃ n, Path.IsName n ∧ p = Path.join directory n ∧ (Path.cutName n).2 = some extension ∧
      t.isFile p = true := by
  obtain ⟨names, hl, rfl⟩ := withExtension_eq_ok h
  obtain ⟨n, hn, rfl⟩ := List.mem_map.1 hp
  rw [List.mem_mergeSort, List.mem_filter, decide_eq_true_eq] at hn
  obtain ⟨⟨ns, hf⟩, hi⟩ := FileTree.of_mem_list hl hn.1
  have hname := ht.isName_of_mem_fileNames hf
  refine ⟨n, hname, rfl, ?_, hi⟩
  have he := Path.extension?_join hname ""
  rw [Path.join_empty hname.2.2.1] at he
  exact he ▸ hn.2

theorem extension?_of_mem_withExtension {p : String} (hp : p ∈ paths) :
    Path.extension? p = some extension := by
  obtain ⟨n, hname, rfl, hc, -⟩ := exists_of_mem_withExtension ht h hp
  rw [Path.extension?_join hname, hc]

theorem nodup_withExtension : paths.Nodup := by
  obtain ⟨names, hl, rfl⟩ := withExtension_eq_ok h
  have hs : ((names.filter fun n ↦ Path.extension? n = some extension).mergeSort
      fun a b ↦ a ≤ b).Nodup :=
    (List.mergeSort_perm _ _).nodup_iff.2 ((FileTree.nodup_of_list ht hl).filter _)
  refine hs.map_on ?_
  intro a ha b hb hj
  rw [List.mem_mergeSort, List.mem_filter] at ha hb
  obtain ⟨⟨_, hfa⟩, -⟩ := FileTree.of_mem_list hl ha.1
  obtain ⟨⟨_, hfb⟩, -⟩ := FileTree.of_mem_list hl hb.1
  have hna := (ht.isName_of_mem_fileNames hfa).2.2.1
  have hnb := (ht.isName_of_mem_fileNames hfb).2.2.1
  rw [← String.toList_inj, Path.toList_join hna, Path.toList_join hnb] at hj
  exact String.toList_inj.1 (List.append_cancel_left hj)

theorem join_of_stem? {p stem : String} (hp : p ∈ paths) (hs : Path.stem? p = some stem) :
    Path.join directory (stem ++ "." ++ extension) = p := by
  obtain ⟨n, hname, rfl, hc, -⟩ := exists_of_mem_withExtension ht h hp
  rw [Path.stem?_join hname] at hs
  obtain rfl := Option.some.inj hs
  rw [← Path.eq_of_cutName hc]

end Files

namespace Directory

variable {d : Directory} {t : FileTree}

theorem types_eq_ok {listed : List String} (h : d.types t.files = .ok listed) :
    ∃ paths, t.files.withExtension d.layouts "json" = .ok paths ∧
      listed = paths.filterMap Path.stem? := by
  unfold types at h
  split at h
  · cases h
  · next paths hp => exact ⟨paths, hp, (Except.ok.inj h).symm⟩

/-- The file of a listed type is the one that it is listed from. -/
theorem layoutPath_of_stem? {paths : List String} {p type : String} (ht : t.WellFormed)
    (h : t.files.withExtension d.layouts "json" = .ok paths) (hp : p ∈ paths)
    (hs : Path.stem? p = some type) : d.layoutPath type = p := by
  have hj := Files.join_of_stem? ht h hp hs
  rwa [String.append_assoc] at hj

end Directory

end LayoutSheet
