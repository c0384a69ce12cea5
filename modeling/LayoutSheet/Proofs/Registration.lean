import LayoutSheet.IndexedCatalog
import LayoutSheet.Proofs.Catalog
import Mathlib.Algebra.GroupWithZero.Nat

namespace LayoutSheet

/-- What a file says last of a bare id, under the qualified id. -/
def LayoutFile.last? (file : LayoutFile) (id : String) : Option Variant :=
  (file.layouts.filter fun v ↦ v.id = id).getLast?.map fun v ↦
    { v with id := Variant.qualify file.family id }

namespace Family

variable {file : LayoutFile}

theorem keys_ofFile (file : LayoutFile) :
    (ofFile file).variants.keys =
      (file.layouts.map Variant.id).eraseDups.map (Variant.qualify file.family) := by
  have hk : ((qualified file).map fun v ↦ (v.id, v)).map Prod.fst =
      (file.layouts.map Variant.id).map (Variant.qualify file.family) := by
    simp [qualified, Function.comp_def]
  rw [ofFile, KeyedList.keys_ofList, hk]
  exact eraseDups_map_of_injective (fun a b ↦ Variant.qualify_inj) _

theorem get?_ofFile (file : LayoutFile) (id : String) :
    (ofFile file).variants.get? (Variant.qualify file.family id) = file.last? id := by
  have hq : ((qualified file).map fun v ↦ (v.id, v)).filter
      (fun e ↦ e.1 = Variant.qualify file.family id) =
      (file.layouts.filter fun v ↦ v.id = id).map fun v ↦
        (Variant.qualify file.family v.id,
          { v with id := Variant.qualify file.family v.id }) := by
    rw [qualified, List.map_map, List.filter_map]
    refine congrArg _ (List.filter_congr fun v _ ↦ ?_)
    exact decide_eq_decide.2
      ⟨Variant.qualify_inj, fun h ↦ congrArg (Variant.qualify file.family) h⟩
  rw [ofFile, KeyedList.get?_ofList, hq, List.getLast?_map, Option.map_map, LayoutFile.last?]
  refine Option.map_congr fun v hv ↦ ?_
  have hid : v.id = id := of_decide_eq_true (List.mem_filter.1 (List.mem_of_getLast? hv)).2
  rw [Function.comp_apply, hid]

theorem list_ofFile (file : LayoutFile) :
    (ofFile file).list.map some = (file.layouts.map Variant.id).eraseDups.map file.last? := by
  rw [list, KeyedList.map_some_values, keys_ofFile, List.map_map]
  exact List.map_congr_left fun id _ ↦ get?_ofFile file id

end Family

namespace IndexedFamily

variable {f : IndexedFamily} {m : KeyedList Variant} {type : String} {reports : Journal}

/-- The places are those where the ids stand in the list. -/
def Agrees (f : IndexedFamily) : Prop :=
  ∀ id slot, f.places.get? id = some slot ↔ ∃ v, f.variants[slot]? = some v ∧ v.id = id

structure Holds (f : IndexedFamily) (m : KeyedList Variant) : Prop where
  agrees : f.Agrees
  entries : m.toList = f.variants.map fun v ↦ (v.id, v)

theorem Agrees.nodup (h : f.Agrees) : (f.variants.map Variant.id).Nodup := by
  refine List.pairwise_iff_getElem.2 fun i j hi hj hij he ↦ ?_
  rw [List.length_map] at hi hj
  rw [List.getElem_map, List.getElem_map] at he
  have hi' := (h _ i).2 ⟨_, List.getElem?_eq_getElem hi, rfl⟩
  have hj' := (h _ j).2 ⟨_, List.getElem?_eq_getElem hj, he.symm⟩
  exact Nat.ne_of_lt hij (Option.some.inj (hi'.symm.trans hj'))

theorem Agrees.find?_eq_some_iff (h : f.Agrees) {id : String} {v : Variant} :
    f.find? id = some v ↔ v ∈ f.variants ∧ v.id = id := by
  rw [find?, Option.bind_eq_some_iff]
  constructor
  · rintro ⟨slot, hs, hv⟩
    obtain ⟨w, hw, hid⟩ := (h id slot).1 hs
    obtain rfl : w = v := Option.some.inj (hw.symm.trans hv)
    exact ⟨List.mem_of_getElem? hw, hid⟩
  · rintro ⟨hv, hid⟩
    obtain ⟨slot, hv⟩ := List.mem_iff_getElem?.1 hv
    exact ⟨slot, (h id slot).2 ⟨v, hv, hid⟩, hv⟩

theorem holds_empty (word : String) : Holds { word := word } ∅ where
  agrees id slot := by
    constructor
    · intro h
      cases h
    · rintro ⟨v, hv, -⟩
      cases hv
  entries := rfl

namespace Holds

theorem values (h : f.Holds m) : m.values = f.variants := by
  have hv := congrArg (List.map Prod.snd) h.entries
  rw [List.map_map] at hv
  exact hv.trans (List.map_id _)

theorem keys (h : f.Holds m) : m.keys = f.variants.map Variant.id := by
  have hk := congrArg (List.map Prod.fst) h.entries
  rw [List.map_map] at hk
  exact hk

theorem place_eq_none_iff (h : f.Holds m) {id : String} :
    f.places.get? id = none ↔ id ∉ m.keys := by
  rw [h.keys, List.mem_map, Option.eq_none_iff_forall_ne_some]
  constructor
  · rintro hn ⟨v, hv, hid⟩
    obtain ⟨slot, hv⟩ := List.mem_iff_getElem?.1 hv
    exact hn slot ((h.agrees id slot).2 ⟨v, hv, hid⟩)
  · intro hn slot hs
    obtain ⟨v, hv, hid⟩ := (h.agrees id slot).1 hs
    exact hn ⟨v, List.mem_of_getElem? hv, hid⟩

theorem find?_eq (h : f.Holds m) (id : String) : f.find? id = m.get? id := by
  refine Option.ext fun v ↦ ?_
  rw [h.agrees.find?_eq_some_iff, KeyedList.get?_eq_some_iff, h.entries, List.mem_map]
  constructor
  · rintro ⟨hv, rfl⟩
    exact ⟨v, hv, rfl⟩
  · rintro ⟨w, hw, he⟩
    obtain ⟨rfl, rfl⟩ := Prod.mk.inj he
    exact ⟨hw, rfl⟩

theorem replace (h : f.Holds m) {v : Variant} {slot : Nat} (hs : f.places.get? v.id = some slot) :
    Holds { f with variants := f.variants.set slot v } (m.insert v.id v) where
  agrees id slot' := by
    obtain ⟨old, hold, hid⟩ := (h.agrees v.id slot).1 hs
    have hlt := (List.getElem?_eq_some_iff.1 hold).1
    -- The index stays as it is: what goes has the id of what comes.
    rw [h.agrees, List.getElem?_set, if_pos hlt]
    split
    · next he =>
      subst he
      simp [hold, hid]
    · rfl
  entries := by
    obtain ⟨old, hold, hid⟩ := (h.agrees v.id slot).1 hs
    have he : m.entries[slot]? = some (v.id, old) := by
      have ht : m.entries = f.variants.map fun v ↦ (v.id, v) := h.entries
      rw [ht, List.getElem?_map, hold, Option.map_some, hid]
    refine (KeyedList.upsertEntries_of_getElem? m.nodup he v fun _ ↦ v).trans ?_
    rw [List.map_set]
    exact congrArg (fun l ↦ l.set slot (v.id, v)) h.entries

theorem push (h : f.Holds m) {v : Variant} (hn : f.places.get? v.id = none) :
    Holds { f with
      places := f.places.insert v.id f.variants.length
      variants := f.variants ++ [v] } (m.insert v.id v) where
  agrees id slot := by
    simp only [KeyedList.get?_insert, getElem?_concat_eq_some_iff]
    constructor
    · intro hs
      split at hs
      · next he => exact ⟨v, .inr ⟨(Option.some.inj hs).symm, rfl⟩, he.symm⟩
      · obtain ⟨w, hw, hid⟩ := (h.agrees id slot).1 hs
        exact ⟨w, .inl hw, hid⟩
    · rintro ⟨w, hw | ⟨rfl, rfl⟩, hid⟩
      · have hs := (h.agrees id slot).2 ⟨w, hw, hid⟩
        have hne : id ≠ v.id := by
          rintro rfl
          rw [hn] at hs
          cases hs
        rw [if_neg hne, hs]
      · rw [if_pos hid.symm]
  entries := by
    refine (KeyedList.upsertEntries_of_notMem (h.place_eq_none_iff.1 hn) v fun _ ↦ v).trans ?_
    rw [List.map_append]
    exact congrArg (· ++ [(v.id, v)]) h.entries

theorem place (h : f.Holds m) (v : Variant) :
    (place type (f, reports) v).1.Holds (m.insert v.id v) := by
  rw [IndexedFamily.place]
  cases hs : f.places.get? v.id with
  | some slot => exact h.replace hs
  | none => exact h.push hs

theorem reports_place (h : f.Holds m) (v : Variant) :
    (IndexedFamily.place type (f, reports) v).2 =
      reports ++ if v.id ∈ m.keys then [.warned (.repeatedVariant type v.id)] else [] := by
  rw [IndexedFamily.place]
  cases hs : f.places.get? v.id with
  | some slot =>
    have hm : v.id ∈ m.keys := by
      by_contra hm
      rw [h.place_eq_none_iff.2 hm] at hs
      cases hs
    rw [if_pos hm]
  | none => rw [if_neg (h.place_eq_none_iff.1 hs), List.append_nil]

end Holds

theorem word_place (v : Variant) : (place type (f, reports) v).1.word = f.word := by
  rw [place]
  split <;> rfl

theorem holds_foldl (word type : String) (vs : List Variant) :
    (vs.foldl (place type) ({ word := word }, [])).1.Holds
        (KeyedList.ofList (vs.map fun v ↦ (v.id, v))) ∧
      (vs.foldl (place type) ({ word := word }, [])).1.word = word ∧
      (vs.foldl (place type) ({ word := word }, [])).2 =
        (Family.repeated [] (vs.map Variant.id)).map fun id ↦
          .warned (.repeatedVariant type id) := by
  induction vs using List.reverseRecOn with
  | nil => exact ⟨holds_empty word, rfl, rfl⟩
  | append_singleton vs v ih =>
    -- The last variant meets an index of all before it, whose keys are the ids that came before.
    obtain ⟨h, hw, hr⟩ := ih
    rw [List.foldl_append, List.foldl_cons, List.foldl_nil, List.map_append, List.map_singleton,
      KeyedList.ofList_concat]
    refine ⟨h.place v, (word_place v).trans hw, ?_⟩
    have hm : v.id ∈ (KeyedList.ofList (vs.map fun v ↦ (v.id, v))).keys ↔
        v.id ∈ vs.map Variant.id := by
      rw [KeyedList.keys_ofList, List.mem_eraseDups, List.map_map]
      rfl
    refine (h.reports_place v).trans ?_
    rw [hr, List.map_append, List.map_singleton, Family.repeated_concat, List.map_append]
    by_cases hid : v.id ∈ vs.map Variant.id
    · rw [if_pos (hm.2 hid), if_pos (.inr hid)]
      rfl
    · rw [if_neg fun h ↦ hid (hm.1 h), if_neg fun h ↦ hid (by simpa using h)]
      rfl

theorem holds_ofFile (type : String) (file : LayoutFile) :
    (ofFile type file).1.Holds (Family.ofFile file).variants :=
  (holds_foldl file.family type (Family.qualified file)).1

theorem word_ofFile (type : String) (file : LayoutFile) :
    (ofFile type file).1.word = file.family :=
  (holds_foldl file.family type (Family.qualified file)).2.1

theorem reports_ofFile (type : String) (file : LayoutFile) :
    (ofFile type file).2 = (Family.repeated [] ((Family.qualified file).map Variant.id)).map
      fun id ↦ .warned (.repeatedVariant type id) :=
  (holds_foldl file.family type (Family.qualified file)).2.2

end IndexedFamily

theorem Catalog.variantCount_eq (c : Catalog) :
    c.variantCount = (c.types.map fun type ↦ ((c.variants? type).getD []).length).sum := by
  rw [variantCount, List.length_flatMap, types, KeyedList.values, KeyedList.keys, List.map_map,
    List.map_map]
  refine congrArg List.sum (List.map_congr_left fun e he ↦ ?_)
  have hg : c.get? e.1 = some e.2 := KeyedList.get?_eq_some_iff.2 he
  simp [variants?, hg]

namespace IndexedCatalog

variable {c : IndexedCatalog} {d : Catalog} {files : List (String × LayoutFile)}

structure Holds (c : IndexedCatalog) (d : Catalog) : Prop where
  order : c.order = d.keys
  keys : c.families.keys = d.keys
  families : ∀ type f, c.families.get? type = some f →
    ∃ g, d.get? type = some g ∧ f.word = g.word ∧ f.Holds g.variants

theorem holds_empty : Holds {} ∅ where
  order := rfl
  keys := rfl
  families _ _ h := by cases h

theorem Holds.register (h : c.Holds d) (type : String) (file : LayoutFile) :
    (c.register type file).1.Holds (d.register type file) where
  order := by
    rw [Catalog.register, KeyedList.insert, KeyedList.keys_upsert, IndexedCatalog.register,
      ← h.order]
    simp only [KeyedList.contains_iff, h.keys, h.order]
  keys := by
    rw [Catalog.register, KeyedList.insert, KeyedList.keys_upsert, IndexedCatalog.register,
      KeyedList.insert, KeyedList.keys_upsert, h.keys]
  families other f hf := by
    rw [IndexedCatalog.register, KeyedList.get?_insert] at hf
    rw [Catalog.register, KeyedList.get?_insert]
    split at hf
    · next he =>
      obtain rfl := Option.some.inj hf
      rw [if_pos he]
      exact ⟨_, rfl, IndexedFamily.word_ofFile type file, IndexedFamily.holds_ofFile type file⟩
    · next he =>
      rw [if_neg he]
      exact h.families other f hf

theorem journal_register (c : IndexedCatalog) (type : String) (file : LayoutFile) :
    (c.register type file).2 = Catalog.registration type file := by
  have hl : (IndexedFamily.ofFile type file).1.variants.length =
      (Family.ofFile file).variants.size := by
    rw [← (IndexedFamily.holds_ofFile type file).values, KeyedList.values, List.length_map,
      KeyedList.size]
  rw [register, Catalog.registration, IndexedFamily.reports_ofFile, hl]

theorem ofFiles_concat (files : List (String × LayoutFile)) (f : String × LayoutFile) :
    ofFiles (files ++ [f]) = add (ofFiles files) f := List.foldl_append

theorem holds_ofFiles (files : List (String × LayoutFile)) :
    (ofFiles files).1.Holds (Catalog.ofFiles files) := by
  induction files using List.reverseRecOn with
  | nil => exact holds_empty
  | append_singleton files f ih =>
    rw [ofFiles_concat, Catalog.ofFiles, List.foldl_append]
    exact ih.register f.1 f.2

theorem journal_ofFiles (files : List (String × LayoutFile)) :
    (ofFiles files).2 = Catalog.registrations files := by
  induction files using List.reverseRecOn with
  | nil => rfl
  | append_singleton files f ih =>
    rw [ofFiles_concat, add, ih, journal_register, Catalog.registrations, Catalog.registrations,
      List.flatMap_append, List.flatMap_singleton]

namespace Holds

theorem get?_cases (h : c.Holds d) (type : String) :
    (c.families.get? type = none ∧ d.get? type = none) ∨
      ∃ f g, c.families.get? type = some f ∧ d.get? type = some g ∧ f.word = g.word ∧
        f.Holds g.variants := by
  cases hf : c.families.get? type with
  | none =>
    refine .inl ⟨rfl, ?_⟩
    rw [KeyedList.get?_eq_none_iff] at hf ⊢
    rwa [← h.keys]
  | some f =>
    obtain ⟨g, hg, hw, hv⟩ := h.families type f hf
    exact .inr ⟨f, g, rfl, hg, hw, hv⟩

theorem word?_eq (h : c.Holds d) (type : String) : c.word? type = d.word? type := by
  rw [word?, Catalog.word?]
  obtain ⟨hc, hd⟩ | ⟨f, g, hc, hd, hw, -⟩ := h.get?_cases type
  · rw [hc, hd]
    rfl
  · rw [hc, hd, Option.map_some, Option.map_some, hw]

theorem variants?_eq (h : c.Holds d) (type : String) : c.variants? type = d.variants? type := by
  rw [variants?, Catalog.variants?]
  obtain ⟨hc, hd⟩ | ⟨f, g, hc, hd, -, hv⟩ := h.get?_cases type
  · rw [hc, hd]
    rfl
  · rw [hc, hd, Option.map_some, Option.map_some, Family.list, hv.values]

theorem find?_eq (h : c.Holds d) (type id : String) : c.find? type id = d.find? type id := by
  rw [find?, Catalog.find?]
  obtain ⟨hc, hd⟩ | ⟨f, g, hc, hd, -, hv⟩ := h.get?_cases type
  · rw [hc, hd]
    rfl
  · rw [hc, hd, Option.bind_some, Option.bind_some, hv.find?_eq]

theorem variantCount_eq (h : c.Holds d) :
    c.variantCount = (c.types.map fun type ↦ ((c.variants? type).getD []).length).sum := by
  rw [variantCount, types, h.order, ← h.keys, List.sum_eq_foldl, KeyedList.keys, List.map_map,
    List.foldl_map, KeyedList.values, List.foldl_map]
  refine List.foldl_ext _ _ _ fun n e he ↦ ?_
  have hg : c.families.get? e.1 = some e.2 := KeyedList.get?_eq_some_iff.2 he
  rw [Function.comp_apply, variants?, hg, Option.map_some, Option.getD_some]

end Holds

structure AnswersLike (c : IndexedCatalog) (d : Catalog) : Prop where
  types : c.types = d.types
  word : ∀ type, c.word? type = d.word? type
  variants : ∀ type, c.variants? type = d.variants? type
  find : ∀ type id, c.find? type id = d.find? type id
  count : c.variantCount = d.variantCount

theorem Holds.answersLike (h : c.Holds d) : c.AnswersLike d where
  types := h.order
  word := h.word?_eq
  variants := h.variants?_eq
  find := h.find?_eq
  count := by
    rw [h.variantCount_eq, Catalog.variantCount_eq, types, h.order, Catalog.types]
    simp only [h.variants?_eq]

def latest? (files : List (String × LayoutFile)) (type : String) : Option LayoutFile :=
  (files.filter fun f ↦ f.1 = type).getLast?.map Prod.snd

structure Shows (c : IndexedCatalog) (files : List (String × LayoutFile)) : Prop where
  types : c.types = (files.map Prod.fst).eraseDups
  word : ∀ type, c.word? type = (latest? files type).map LayoutFile.family
  /-- Each bare id of the last file once, where it comes first, with what was said of it last. -/
  variants : ∀ type, (c.variants? type).map (List.map some) =
    (latest? files type).map fun file ↦ (file.layouts.map Variant.id).eraseDups.map file.last?
  agrees : ∀ type, ∀ f ∈ c.families.get? type, f.Agrees
  find_iff : ∀ type id v, c.find? type id = some v ↔
    ∃ vs, c.variants? type = some vs ∧ v ∈ vs ∧ v.id = id
  distinct : ∀ type, ∀ vs ∈ c.variants? type, (vs.map Variant.id).Nodup
  count : c.variantCount = (c.types.map fun type ↦ ((c.variants? type).getD []).length).sum

theorem get?_catalog (files : List (String × LayoutFile)) (type : String) :
    (Catalog.ofFiles files).get? type = (latest? files type).map Family.ofFile := by
  rw [Catalog.get?_ofFiles, latest?, Option.map_map]
  rfl

theorem Holds.agrees (h : c.Holds d) {type : String} {f : IndexedFamily}
    (hf : c.families.get? type = some f) : f.Agrees := by
  obtain ⟨g, -, -, hv⟩ := h.families type f hf
  exact hv.agrees

theorem Holds.find?_eq_some_iff (h : c.Holds d) {type id : String} {v : Variant} :
    c.find? type id = some v ↔ ∃ vs, c.variants? type = some vs ∧ v ∈ vs ∧ v.id = id := by
  rw [find?, variants?]
  cases hf : c.families.get? type with
  | none => simp
  | some f => simp [(h.agrees hf).find?_eq_some_iff]

theorem shows_ofFiles (files : List (String × LayoutFile)) : (ofFiles files).1.Shows files where
  types := by
    rw [types, (holds_ofFiles files).order, Catalog.ofFiles_eq_ofList, KeyedList.keys_ofList,
      List.map_map]
    rfl
  word type := by
    rw [(holds_ofFiles files).word?_eq, Catalog.word?, get?_catalog, Option.map_map]
    rfl
  variants type := by
    rw [(holds_ofFiles files).variants?_eq, Catalog.variants?, get?_catalog, Option.map_map,
      Option.map_map]
    exact Option.map_congr fun file _ ↦ Family.list_ofFile file
  agrees _ _ hf := (holds_ofFiles files).agrees hf
  find_iff _ _ _ := (holds_ofFiles files).find?_eq_some_iff
  distinct type vs hvs := by
    obtain ⟨f, hf, rfl⟩ := Option.map_eq_some_iff.1 hvs
    exact ((holds_ofFiles files).agrees hf).nodup
  count := (holds_ofFiles files).variantCount_eq

/-- A catalog shows the files registered so far, and with its indexes it answers as without them.
One more file changes nothing under the other types, and warns of each bare id that came before in
it, in its order. -/
theorem ofFiles_shows_files (files : List (String × LayoutFile)) :
    (ofFiles files).1.Shows files ∧ (ofFiles files).1.AnswersLike (Catalog.ofFiles files) ∧
      (ofFiles files).2 = Catalog.registrations files ∧
      ∀ type file,
        ofFiles (files ++ [(type, file)]) = add (ofFiles files) (type, file) ∧
        (∀ other, other ≠ type →
          ((ofFiles files).1.register type file).1.families.get? other =
            (ofFiles files).1.families.get? other) ∧
        Journal.warnings ((ofFiles files).1.register type file).2 =
          (laterCopies (file.layouts.map Variant.id)).map fun id ↦
            .repeatedVariant type (Variant.qualify file.family id) := by
  refine ⟨shows_ofFiles files, (holds_ofFiles files).answersLike, journal_ofFiles files, ?_⟩
  intro type file
  refine ⟨ofFiles_concat files (type, file), ?_, ?_⟩
  · intro other hne
    rw [register, KeyedList.get?_insert, if_neg hne]
  · rw [journal_register, Catalog.warnings_registration]

def columnsAndGrid : List (String × LayoutFile) :=
  [("columns", { family := "columns", layouts := [{ id := "2" }, { id := "2" }] }),
    ("grid", { family := "grid", layouts := [{ id := "3a" }] })]

def columnsAnew : LayoutFile where
  family := "cols"
  layouts := [{ id := "2" }, { id := "3" }, { id := "2", columns := some "2fr 1fr" }]

theorem columnsAndGrid_shown :
    (ofFiles columnsAndGrid).1.Shows columnsAndGrid ∧ "grid" ≠ "columns" ∧
    ((ofFiles columnsAndGrid).1.register "columns" columnsAnew).1.families.get? "grid" =
      (ofFiles columnsAndGrid).1.families.get? "grid" ∧
    Journal.warnings ((ofFiles columnsAndGrid).1.register "columns" columnsAnew).2 =
      [.repeatedVariant "columns" "cols(2)"] := by
  have hne : "grid" ≠ "columns" := by decide
  have h := ofFiles_shows_files columnsAndGrid
  obtain ⟨-, hothers, hwarnings⟩ := h.2.2.2 "columns" columnsAnew
  exact ⟨h.1, hne, hothers "grid" hne, hwarnings.trans (by decide)⟩

end IndexedCatalog

end LayoutSheet
