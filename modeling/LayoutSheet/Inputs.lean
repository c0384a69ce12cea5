import LayoutSheet.Config.Reading
import LayoutSheet.Layout.Reading
import LayoutSheet.LoadError

namespace LayoutSheet

structure Inputs where
  config : Except LoadError Config
  types : Except LoadError (List String)
  layout : String → Except LoadError LayoutFile
  /-- Nothing when there is no module of that name. -/
  style : String → Except LoadError (Option String)

def Config.load (text : String) : Except LoadError Config :=
  (Config.read text).mapError fun p ↦ .malformed none p.message

def LayoutFile.load (text : String) : Except LoadError LayoutFile :=
  (LayoutFile.read text).mapError fun p ↦ .malformed none p.message

structure Project where
  config : String
  layouts : KeyedList String := ∅
  styles : KeyedList String := ∅
  deriving DecidableEq, Repr

def Project.inputs (p : Project) : Inputs where
  config := Config.load p.config
  types := .ok p.layouts.keys
  layout type :=
    match p.layouts.get? type with
    | some text => LayoutFile.load text
    | none => .error (.unknown type)
  style name := .ok (p.styles.get? name)

end LayoutSheet
