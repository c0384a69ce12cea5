import LayoutSheet.IndexedCatalog
import LayoutSheet.Placement

namespace LayoutSheet

/-- What a walk over the breakpoints has placed and logged so far, and which family words and bare
ids the breakpoint at hand has placed. -/
structure Placement.Walk where
  placed : List Placement := []
  journal : Journal := []
  seen : List (String × String) := []

namespace Placement.Walk

variable (c : IndexedCatalog) (name query : String)

def log (s : Walk) (e : Event) : Walk := { s with journal := s.journal ++ [e] }

def place (family : String) (s : Walk) (v : Variant) : Walk :=
  let id := Variant.bareId v.id
  if (family, id) ∈ s.seen then s
  else
    { s with
      placed := s.placed ++ [{ family, id, breakpoint := name, query, variant := v }]
      seen := (family, id) :: s.seen }

def everyOf (s : Walk) (type : String) : Walk :=
  match c.variants? type, c.word? type with
  | some vs, some family => vs.foldl (place name query family) s
  | _, _ => s.log (.warned (.missingType name type))

def choose (type family : String) (s : Walk) (id : String) : Walk :=
  match c.find? type id with
  | some v => s.place name query family v
  | none => s.log (.warned (.missingVariant name type id))

def chosenOf (s : Walk) (e : String × List String) : Walk :=
  match c.word? e.1 with
  | some family => e.2.foldl (choose c name query e.1 family) s
  | none => s.log (.warned (.missingType name e.1))

def follow (s : Walk) : Reference → Walk
  | .every type => s.everyOf c name query type
  | .chosen ids => ids.toList.foldl (chosenOf c name query) s

def visit (s : Walk) (e : String × Breakpoint) : Walk :=
  match e.2.query? with
  | none => s.log (.inactive e.1)
  | some query =>
    let t := e.2.layouts.foldl (follow c e.1 query) { s with seen := [] }
    t.log (.placed e.1 (t.placed.length - s.placed.length))

end Placement.Walk

/-- The placements of a configuration as one loop finds them, breakpoint by breakpoint. -/
def Config.walk (config : Config) (c : IndexedCatalog) : Placement.Walk :=
  config.breakpoints.toList.foldl (Placement.Walk.visit c) {}

end LayoutSheet
