import LayoutSheet.Writes

namespace LayoutSheet

abbrev Declarations := KeyedList String

abbrev Layer := KeyedList Declarations

abbrev Block := KeyedList Layer

structure Sheet where
  blocks : KeyedList Block
  deriving DecidableEq, Repr

def Block.selectors (b : Block) : List String := b.values.flatMap fun l ↦ l.keys

def Block.size (b : Block) : Nat := b.selectors.length

namespace Sheet

def empty : Sheet := ⟨∅⟩

instance : EmptyCollection Sheet := ⟨empty⟩

instance : Inhabited Sheet := ⟨empty⟩

/-- A selector that is there keeps its place and has its properties set anew where they stand; new
properties, and all else that is new, go to the end. -/
def add (s : Sheet) (w : Write) : Sheet where
  blocks := s.blocks.upsert w.query ∅ fun b ↦
    b.upsert w.breakpoint ∅ fun l ↦
      l.upsert w.selector ∅ fun d ↦ d.insertAll w.declarations

def ofWrites (ws : List Write) : Sheet := ws.foldl add ∅

def layer? (s : Sheet) (query breakpoint : String) : Option Layer :=
  (s.blocks.get? query).bind fun b ↦ b.get? breakpoint

def get? (s : Sheet) (query breakpoint selector : String) : Option Declarations :=
  (s.layer? query breakpoint).bind fun l ↦ l.get? selector

def size (s : Sheet) : Nat := (s.blocks.values.flatMap Block.selectors).length

/-- The sheet without layers that hold no rule and without blocks that hold none. -/
def filled (s : Sheet) : Sheet where
  blocks := s.blocks.filterMap fun _ b ↦
    if b.size = 0 then none
    else some (b.filterMap fun _ l ↦ if l.isEmpty then none else some l)

/-- The breakpoint that had a query first, when another now writes under it. -/
def sharing? (s : Sheet) (w : Write) : Option Event :=
  match s.blocks.get? w.query with
  | none => none
  | some b =>
    if b.contains w.breakpoint then none
    else b.keys.head?.map fun first ↦ .shared w.breakpoint w.query first

def journalFrom (s : Sheet) : List Write → Journal
  | [] => []
  | w :: ws => (s.sharing? w).toList ++ (s.add w).journalFrom ws

def journal (ws : List Write) : Journal := journalFrom ∅ ws

end Sheet

def Config.sheet (config : Config) (c : Catalog) : Sheet :=
  .ofWrites (Placement.writes config.element (config.placements c))

def Config.sheetJournal (config : Config) (c : Catalog) : Journal :=
  config.placementJournal c ++ Sheet.journal (Placement.writes config.element (config.placements c))

end LayoutSheet
