import LayoutSheet.Catalog

namespace LayoutSheet

structure IndexedFamily where
  word : String
  variants : List Variant := []
  places : KeyedList Nat := ∅

namespace IndexedFamily

/-- Puts a variant in the place of the one with its id, which is reported, or at the end. -/
def place (type : String) (s : IndexedFamily × Journal) (v : Variant) : IndexedFamily × Journal :=
  match s.1.places.get? v.id with
  | some slot =>
    ({ s.1 with variants := s.1.variants.set slot v },
      s.2 ++ [.warned (.repeatedVariant type v.id)])
  | none =>
    ({ s.1 with
        places := s.1.places.insert v.id s.1.variants.length
        variants := s.1.variants ++ [v] }, s.2)

def ofFile (type : String) (file : LayoutFile) : IndexedFamily × Journal :=
  (Family.qualified file).foldl (place type) ({ word := file.family }, [])

def find? (f : IndexedFamily) (id : String) : Option Variant :=
  (f.places.get? id).bind fun slot ↦ f.variants[slot]?

end IndexedFamily

structure IndexedCatalog where
  families : KeyedList IndexedFamily := ∅
  order : List String := []

namespace IndexedCatalog

def register (c : IndexedCatalog) (type : String) (file : LayoutFile) : IndexedCatalog × Journal :=
  let s := IndexedFamily.ofFile type file
  ({ families := c.families.insert type s.1
     order := if c.families.contains type then c.order else c.order ++ [type] },
    s.2 ++ [.registered type file.family s.1.variants.length])

def add (s : IndexedCatalog × Journal) (f : String × LayoutFile) : IndexedCatalog × Journal :=
  ((s.1.register f.1 f.2).1, s.2 ++ (s.1.register f.1 f.2).2)

def ofFiles (files : List (String × LayoutFile)) : IndexedCatalog × Journal :=
  files.foldl add ({}, [])

def types (c : IndexedCatalog) : List String := c.order

def variants? (c : IndexedCatalog) (type : String) : Option (List Variant) :=
  (c.families.get? type).map IndexedFamily.variants

def find? (c : IndexedCatalog) (type id : String) : Option Variant :=
  (c.families.get? type).bind fun f ↦ f.find? id

def word? (c : IndexedCatalog) (type : String) : Option String :=
  (c.families.get? type).map IndexedFamily.word

def variantCount (c : IndexedCatalog) : Nat :=
  c.families.values.foldl (fun n f ↦ n + f.variants.length) 0

end IndexedCatalog

end LayoutSheet
