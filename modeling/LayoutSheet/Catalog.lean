import LayoutSheet.Layout
import LayoutSheet.Event

namespace LayoutSheet

structure Family where
  word : String
  variants : KeyedList Variant

abbrev Catalog := KeyedList Family

namespace Family

def qualified (file : LayoutFile) : List Variant :=
  file.layouts.map fun v ↦ { v with id := Variant.qualify file.family v.id }

/-- A repeated id takes the place of the earlier variant where it stands. -/
def ofFile (file : LayoutFile) : Family where
  word := file.family
  variants := KeyedList.ofList ((qualified file).map fun v ↦ (v.id, v))

/-- The ids of the list that came before in it, with repeats. -/
def repeated : List String → List String → List String
  | _, [] => []
  | seen, id :: ids => if id ∈ seen then id :: repeated seen ids else repeated (id :: seen) ids

def list (f : Family) : List Variant := f.variants.values

end Family

namespace Catalog

/-- A type that is registered again gets new content and keeps its place. -/
def register (c : Catalog) (type : String) (file : LayoutFile) : Catalog :=
  c.insert type (Family.ofFile file)

def registration (type : String) (file : LayoutFile) : Journal :=
  (Family.repeated [] ((Family.qualified file).map Variant.id)).map
      (fun id ↦ .warned (.repeatedVariant type id))
    ++ [.registered type file.family (Family.ofFile file).variants.size]

def ofFiles (files : List (String × LayoutFile)) : Catalog :=
  files.foldl (fun c f ↦ register c f.1 f.2) ∅

def registrations (files : List (String × LayoutFile)) : Journal :=
  files.flatMap fun f ↦ registration f.1 f.2

def types (c : Catalog) : List String := c.keys

def variants? (c : Catalog) (type : String) : Option (List Variant) := (c.get? type).map Family.list

def find? (c : Catalog) (type id : String) : Option Variant :=
  (c.get? type).bind fun f ↦ f.variants.get? id

def word? (c : Catalog) (type : String) : Option String := (c.get? type).map Family.word

def variantCount (c : Catalog) : Nat := (c.values.flatMap Family.list).length

end Catalog

end LayoutSheet
