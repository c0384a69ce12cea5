import LayoutSheet.Proofs.History
import LayoutSheet.Proofs.Placements

namespace LayoutSheet

/-- The members that came before in the list, each time they come again. -/
def laterCopies (ids : List String) : List String :=
  (ids.zipIdx.filter fun e ↦ e.1 ∈ ids.take e.2).map Prod.fst

theorem laterCopies_concat (ids : List String) (id : String) :
    laterCopies (ids ++ [id]) = laterCopies ids ++ if id ∈ ids then [id] else [] := by
  have hf : ids.zipIdx.filter (fun e ↦ e.1 ∈ (ids ++ [id]).take e.2) =
      ids.zipIdx.filter fun e ↦ e.1 ∈ ids.take e.2 := by
    refine List.filter_congr fun e he ↦ ?_
    have hlt := (List.mem_zipIdx' he).1
    rw [List.take_append_of_le_length (Nat.le_of_lt hlt)]
  rw [laterCopies, List.zipIdx_append, List.filter_append, List.map_append, hf, laterCopies]
  refine congrArg (_ ++ ·) ?_
  by_cases h : id ∈ ids <;> simp [h]

theorem laterCopies_map {f : String → String} (hf : ∀ a b, f a = f b → a = b)
    (ids : List String) : laterCopies (ids.map f) = (laterCopies ids).map f := by
  induction ids using List.reverseRecOn with
  | nil => rfl
  | append_singleton ids id ih =>
    have hm : f id ∈ ids.map f ↔ id ∈ ids := List.mem_map_of_injective hf
    rw [List.map_append, List.map_singleton, laterCopies_concat, laterCopies_concat, ih,
      List.map_append]
    by_cases h : id ∈ ids <;> simp [hm, h]

theorem Variant.qualify_inj {family id id' : String}
    (h : qualify family id = qualify family id') : id = id' := by
  simpa [qualify, String.append_left_inj, String.append_right_inj] using h

theorem Family.repeated_concat (seen ids : List String) (id : String) :
    repeated seen (ids ++ [id]) =
      repeated seen ids ++ if id ∈ seen ∨ id ∈ ids then [id] else [] := by
  induction ids generalizing seen with
  | nil =>
    rw [List.nil_append, repeated]
    split <;> simp_all [repeated]
  | cons first ids ih =>
    rw [List.cons_append, repeated, repeated, ih, ih]
    by_cases hf : first ∈ seen
    · have hid : id = first → id ∈ seen := fun he ↦ he ▸ hf
      simp only [if_pos hf, List.cons_append, List.mem_cons]
      by_cases he : id = first
      · simp [hid he]
      · simp [he]
    · simp only [if_neg hf, List.mem_cons]
      by_cases he : id = first <;> simp [he]

theorem Family.repeated_qualified (file : LayoutFile) :
    repeated [] ((qualified file).map Variant.id) =
      (laterCopies (file.layouts.map Variant.id)).map (Variant.qualify file.family) := by
  have hids : (qualified file).map Variant.id =
      (file.layouts.map Variant.id).map (Variant.qualify file.family) := by
    simp [qualified, Function.comp_def]
  have hall (ids : List String) : repeated [] ids = laterCopies ids := by
    induction ids using List.reverseRecOn with
    | nil => rfl
    | append_singleton ids id ih =>
      rw [repeated_concat, laterCopies_concat, ih]
      simp
  rw [hall, hids, laterCopies_map fun a b ↦ Variant.qualify_inj]

/-- What registering a file warns of: each bare id that came before in it, in its order. -/
theorem Catalog.warnings_registration (type : String) (file : LayoutFile) :
    Journal.warnings (registration type file) =
      (laterCopies (file.layouts.map Variant.id)).map fun id ↦
        .repeatedVariant type (Variant.qualify file.family id) := by
  rw [Journal.warnings, registration, Family.repeated_qualified, List.filterMap_append,
    List.map_map, List.filterMap_map]
  exact (List.append_nil _).trans (congrFun List.filterMap_eq_map _)

theorem Catalog.ofFiles_eq_ofList (files : List (String × LayoutFile)) :
    Catalog.ofFiles files = KeyedList.ofList (files.map fun f ↦ (f.1, Family.ofFile f.2)) := by
  rw [KeyedList.ofList, KeyedList.insertAll, List.foldl_map]
  rfl

theorem Catalog.get?_ofFiles (files : List (String × LayoutFile)) (type : String) :
    (Catalog.ofFiles files).get? type =
      (files.filter fun f ↦ f.1 = type).getLast?.map fun f ↦ Family.ofFile f.2 := by
  rw [ofFiles_eq_ofList, KeyedList.get?_ofList, List.filter_map, List.getLast?_map, Option.map_map]
  rfl

theorem Catalog.exists_of_get?_ofFiles {files : List (String × LayoutFile)} {type : String}
    {f : Family} (h : (Catalog.ofFiles files).get? type = some f) :
    ∃ file, (type, file) ∈ files ∧ f = Family.ofFile file := by
  rw [get?_ofFiles] at h
  obtain ⟨e, he, rfl⟩ := Option.map_eq_some_iff.1 h
  obtain ⟨hm, ht⟩ := List.mem_filter.1 (List.mem_of_getLast? he)
  obtain rfl : e.1 = type := of_decide_eq_true ht
  exact ⟨e.2, hm, rfl⟩

theorem Family.mem_qualified_of_mem_list {file : LayoutFile} {v : Variant}
    (h : v ∈ (ofFile file).list) : v ∈ qualified file := by
  obtain ⟨id, hid⟩ := KeyedList.mem_values.1 h
  rw [ofFile, KeyedList.get?_ofList] at hid
  obtain ⟨e, he, rfl⟩ := Option.map_eq_some_iff.1 hid
  obtain ⟨u, hu, rfl⟩ := List.mem_map.1 (List.mem_filter.1 (List.mem_of_getLast? he)).1
  exact hu

theorem Reference.of_mem_selected {c : Catalog} {r : Reference} {s : String × Variant}
    (h : s ∈ r.selected c) : ∃ type f, c.get? type = some f ∧ s.1 = f.word ∧ s.2 ∈ f.list := by
  cases r with
  | every type =>
    cases hf : c.get? type with
    | none => simp [selected, Catalog.word?, hf] at h
    | some f =>
      simp only [selected, Catalog.word?, Catalog.variants?, hf, Option.map_some] at h
      obtain ⟨v, hv, rfl⟩ := List.mem_map.1 h
      exact ⟨type, f, hf, rfl, hv⟩
  | chosen ids =>
    obtain ⟨⟨type, ids⟩, -, hs⟩ := List.mem_flatMap.1 h
    cases hf : c.get? type with
    | none => simp [Catalog.word?, hf] at hs
    | some f =>
      simp only [Catalog.word?, hf, Option.map_some] at hs
      obtain ⟨v, hv, rfl⟩ := List.mem_map.1 hs
      obtain ⟨id, -, hid⟩ := List.mem_filterMap.1 hv
      rw [Catalog.find?, hf, Option.bind_some] at hid
      exact ⟨type, f, hf, rfl, KeyedList.mem_values.2 ⟨id, hid⟩⟩

end LayoutSheet
