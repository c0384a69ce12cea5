import LayoutSheet.KeyedList
import LayoutSheet.Text.Blank

namespace LayoutSheet

inductive QueryKind where
  | media
  | container
  deriving DecidableEq, Repr, Inhabited

inductive Reference where
  | every (type : String)
  | chosen (ids : KeyedList (List String))
  deriving DecidableEq, Repr

structure Breakpoint where
  kind : QueryKind := .media
  min : Option String := none
  max : Option String := none
  container : Option String := none
  layouts : List Reference := []
  deriving DecidableEq, Repr

inductive Length where
  | plain (value : String)
  | detailed (value : String) (property : Option String)
  deriving DecidableEq, Repr

structure PageContainer where
  element : Option String := none
  maxWidth : Option Length := none
  margin : Option Length := none
  widths : KeyedList Length := ∅
  centered : Bool := false
  deriving DecidableEq, Repr

structure Theme where
  background : Option String := none
  color : Option String := none
  deriving DecidableEq, Repr

structure Config where
  breakpoints : KeyedList Breakpoint := ∅
  core : List String := []
  common : List String := []
  page : PageContainer := {}
  element : String := "lay-out"
  layer : String := "layout"
  themes : KeyedList Theme := ∅
  deriving DecidableEq, Repr

instance : Inhabited Config := ⟨{}⟩

def QueryKind.rule : QueryKind → String
  | media => "@media"
  | container => "@container"

namespace Length

def value : Length → String
  | plain v => v
  | detailed v _ => v

def property : Length → Option String
  | plain _ => none
  | detailed _ p => p

end Length

def PageContainer.target (p : PageContainer) : String :=
  match p.element with
  | some e => if e.isEmpty then "body" else e
  | none => "body"

namespace Breakpoint

/-- A width bound as a condition; a blank bound is none. -/
def condition? (feature : String) (bound : Option String) : Option String :=
  (bound.bind Text.nonBlank?).map fun v ↦ "(" ++ feature ++ ": " ++ Text.trim v ++ ")"

/-- The head of the breakpoint's query block. Without a bound there is none, and the breakpoint is
not active. -/
def query? (b : Breakpoint) : Option String :=
  match (condition? "min-width" b.min).toList ++ (condition? "max-width" b.max).toList with
  | [] => none
  | conditions =>
    let name := match b.kind, b.container with
      | .container, some n => if n.isEmpty then "" else " " ++ n
      | _, _ => ""
    some (b.kind.rule ++ name ++ " " ++ String.intercalate " and " conditions)

end Breakpoint

end LayoutSheet
