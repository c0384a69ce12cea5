import LayoutSheet.Layout
import LayoutSheet.Text.Blank

namespace LayoutSheet.Selector

def container (element breakpoint family id : String) : String :=
  element ++ "[" ++ breakpoint ++ "=\"" ++ Variant.qualify family id ++ "\"]"

def ofFamily (element breakpoint family : String) : String :=
  element ++ "[" ++ breakpoint ++ "*=\"" ++ family ++ "(\"]"

def childrenOf (base : String) : String := base ++ " > *"

/-- A declared selector, relative to the container `base`: an ampersand, the word root and the
element's name stand for the container itself, what follows an ampersand is attached to it, and
anything else names children. -/
def scope (element base declared : String) : String :=
  let s := Text.trim declared
  if s = "&" ∨ s = "root" ∨ s = element then base
  else if s = "&>*" then childrenOf base
  else match s.toList with
    | '&' :: rest => base ++ String.ofList rest
    | _ => base ++ " > " ++ s

end LayoutSheet.Selector
