import LayoutSheet.Config
import LayoutSheet.Catalog

namespace LayoutSheet

structure Placement where
  family : String
  id : String
  breakpoint : String
  query : String
  variant : Variant

namespace Placement

inductive Finding where
  | found (family : String) (v : Variant)
  | missing (w : Warning)

namespace Finding

def variant? : Finding → Option (String × Variant)
  | found family v => some (family, v)
  | missing _ => none

def warning? : Finding → Option Warning
  | found _ _ => none
  | missing w => some w

end Finding

def everyOf (c : Catalog) (breakpoint type : String) : List Finding :=
  match c.get? type with
  | none => [.missing (.missingType breakpoint type)]
  | some f => f.list.map (.found f.word)

def chosenOf (c : Catalog) (breakpoint type : String) (ids : List String) : List Finding :=
  match c.get? type with
  | none => [.missing (.missingType breakpoint type)]
  | some f => ids.map fun id ↦
      match f.variants.get? id with
      | some v => .found f.word v
      | none => .missing (.missingVariant breakpoint type id)

def follow (c : Catalog) (breakpoint : String) : Reference → List Finding
  | .every type => everyOf c breakpoint type
  | .chosen ids => ids.toList.flatMap fun (type, ids) ↦ chosenOf c breakpoint type ids

/-- The members whose key no earlier member has. -/
def firstOfEach {α κ : Type} [DecidableEq κ] (key : α → κ) : List κ → List α → List α
  | _, [] => []
  | seen, a :: as =>
    if key a ∈ seen then firstOfEach key seen as else a :: firstOfEach key (key a :: seen) as

/-- Of the variants with one family word and one bare id only the first is kept. -/
def ofBreakpoint (findings : List Finding) (breakpoint query : String) : List Placement :=
  firstOfEach (fun p ↦ (p.family, p.id)) [] <|
    (findings.filterMap Finding.variant?).map fun (family, v) ↦
      { family, id := Variant.bareId v.id, breakpoint, query, variant := v }

def findings (c : Catalog) (name : String) (b : Breakpoint) : List Finding :=
  b.layouts.flatMap (follow c name)

def atBreakpoint (c : Catalog) (name : String) (b : Breakpoint) : List Placement :=
  match b.query? with
  | none => []
  | some query => ofBreakpoint (findings c name b) name query

def journalAt (c : Catalog) (name : String) (b : Breakpoint) : Journal :=
  match b.query? with
  | none => [.inactive name]
  | some query =>
    ((findings c name b).filterMap Finding.warning?).map .warned
      ++ [.placed name (ofBreakpoint (findings c name b) name query).length]

end Placement

def Config.placements (config : Config) (c : Catalog) : List Placement :=
  config.breakpoints.toList.flatMap fun (name, b) ↦ Placement.atBreakpoint c name b

def Config.placementJournal (config : Config) (c : Catalog) : Journal :=
  config.breakpoints.toList.flatMap fun (name, b) ↦ Placement.journalAt c name b

end LayoutSheet
