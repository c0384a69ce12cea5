import LayoutSheet.Sheet.Grouping

namespace LayoutSheet

structure Format where
  layered : Bool := true
  merged : Bool := true
  deriving DecidableEq, Repr

namespace Stylesheet

def indent (depth : Nat) : String := String.join (List.replicate depth "  ")

/-- Lines into text, the last without a line end. -/
def unlines (lines : List String) : String := String.intercalate "\n" lines

def selectorLines (depth : Nat) : List String → List String
  | [] => []
  | [s] => [indent depth ++ s ++ " \x7b"]
  | s :: r => (indent depth ++ s ++ ",") :: selectorLines depth r

def declarationLine (depth : Nat) (d : String × String) : String :=
  indent (depth + 1) ++ d.1 ++ ": " ++ d.2 ++ ";"

def ruleLines (depth : Nat) (selectors : List String) (declarations : List (String × String)) :
    List String :=
  selectorLines depth selectors ++ declarations.map (declarationLine depth)
    ++ [indent depth ++ "\x7d"]

/-- Items with an empty line between neighbours. -/
def spaced : List (List String) → List String
  | [] => []
  | [a] => a
  | a :: r => a ++ "" :: spaced r

def groupLines (depth : Nat) (groups : List Group) : List String :=
  spaced (groups.map fun g ↦ ruleLines depth g.selectors g.declarations.toList)

def baseLayers : List String := ["base", "reset", "animations"]

/-- The full name of a layer; outside every space it is the name alone. -/
def layerName (space name : String) : String :=
  if space.isEmpty then name else space ++ "." ++ name

/-- The layers of a configuration from the weakest to the strongest. -/
def layerNames (config : Config) : List String :=
  (baseLayers ++ config.breakpoints.keys).map (layerName config.layer)

def layerOrder (config : Config) : String :=
  "@layer " ++ String.intercalate ", " (layerNames config) ++ ";"

def layerLines (format : Format) (space breakpoint : String) (l : Layer) : List String :=
  let groups := if format.merged then l.merged else l.separate
  if format.layered then
    ("  @layer " ++ layerName space breakpoint ++ " \x7b") :: groupLines 2 groups ++ ["  \x7d"]
  else groupLines 1 groups

def blockLines (format : Format) (space query : String) (b : Block) : List String :=
  (query ++ " \x7b")
    :: spaced (b.toList.map fun (breakpoint, l) ↦ layerLines format space breakpoint l)
    ++ ["\x7d"]

def block (format : Format) (space query : String) (b : Block) : String :=
  unlines (blockLines format space query b)

/-- Sets a length's own property, or the standard one when it names none. -/
def lengthDeclaration (standard : String) (l : Length) : String × String :=
  (l.property.getD standard, l.value)

def centering? (maxWidth margin : Option String) : Option String :=
  match maxWidth, margin with
  | some w, some m => some ("max(var(" ++ m ++ "), (100% - var(" ++ w ++ ")) / 2)")
  | some w, none => some ("max(0px, (100% - var(" ++ w ++ ")) / 2)")
  | none, some m => some ("var(" ++ m ++ ")")
  | none, none => none

def pageDeclarations (page : PageContainer) : List (String × String) :=
  let maxWidth := page.maxWidth.map (lengthDeclaration "--layout-bleed-mw")
  let margin := page.margin.map (lengthDeclaration "--layout-mi")
  let centering :=
    if page.centered then centering? (maxWidth.map Prod.fst) (margin.map Prod.fst) else none
  maxWidth.toList ++ margin.toList
    ++ page.widths.toList.map (fun (name, l) ↦ lengthDeclaration ("--layout-w-" ++ name) l)
    ++ (centering.map fun v ↦ ("margin-inline", v)).toList

def rule? (selector : String) : List (String × String) → Option String
  | [] => none
  | declarations => some (unlines (ruleLines 0 [selector] declarations))

def page? (page : PageContainer) : Option String := rule? page.target (pageDeclarations page)

def theme? (element name : String) (t : Theme) : Option String :=
  rule? (element ++ "[theme=\"" ++ name ++ "\"]") <|
    (t.background.map fun v ↦ ("--layout-bg", v)).toList
      ++ (t.color.map fun v ↦ ("--layout-c", v)).toList

def module? (text : String) : Option String := (Text.nonBlank? text).map Text.trimEnd

def parts (format : Format) (config : Config) (core common : String) (s : Sheet) : List String :=
  [layerOrder config]
    ++ (module? core).toList ++ (module? common).toList
    ++ (page? config.page).toList
    ++ config.themes.toList.filterMap (fun (name, t) ↦ theme? config.element name t)
    ++ s.blocks.toList.map fun (query, b) ↦ block format config.layer query b

def render (format : Format) (config : Config) (core common : String) (s : Sheet) : String :=
  String.intercalate "\n\n" (parts format config core common s) ++ "\n"

end Stylesheet

end LayoutSheet
