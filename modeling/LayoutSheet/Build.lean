import LayoutSheet.Inputs
import LayoutSheet.Sheet.Rendering

namespace LayoutSheet

structure Build where
  css : String
  rules : Nat
  journal : Journal

namespace Build

def warnings (b : Build) : List Warning := b.journal.warnings

def size (b : Build) : Nat := b.css.utf8ByteSize

def loadedFiles (s : Inputs) (types : List String) : List (String × LayoutFile) :=
  types.filterMap fun type ↦ (s.layout type).toOption.map (type, ·)

def fileFailures (s : Inputs) (types : List String) : Journal :=
  types.filterMap fun type ↦
    match s.layout type with
    | .ok _ => none
    | .error e => some (.warned (.brokenLayout type e.message))

def styleTexts (s : Inputs) (names : List String) : List String :=
  names.filterMap fun name ↦ (s.style name).toOption.join

def styleFailures (s : Inputs) (list : ModuleList) (names : List String) : Journal :=
  names.filterMap fun name ↦
    match s.style name with
    | .ok (some _) => none
    | .ok none => some (.warned (.missingModule list name))
    | .error e => some (.warned (.brokenModule list name e.message))

def styles (s : Inputs) (names : List String) : String :=
  String.intercalate "\n\n" (styleTexts s names)

end Build

def Inputs.buildWith (s : Inputs) (format : Format) (config : Config) (types : List String) :
    Build :=
  let files := Build.loadedFiles s types
  let catalog := Catalog.ofFiles files
  let sheet := config.sheet catalog
  let css := Stylesheet.render format config (Build.styles s config.core)
    (Build.styles s config.common) sheet
  { css
    rules := sheet.size
    journal := Build.fileFailures s types
      ++ Catalog.registrations files
      ++ [.loaded catalog.size catalog.variantCount]
      ++ Build.styleFailures s .core config.core
      ++ Build.styleFailures s .common config.common
      ++ config.sheetJournal catalog
      ++ [.generated sheet.size css.utf8ByteSize] }

/-- Only a configuration that cannot be loaded and layout types that cannot be listed stop a build;
what else is missing or broken is left out and reported. -/
def Inputs.build (s : Inputs) (format : Format) : Except BuildError Build :=
  match s.config with
  | .error e => .error (.config e)
  | .ok config =>
    match s.types with
    | .error e => .error (.types e)
    | .ok types => .ok (s.buildWith format config types)

end LayoutSheet
