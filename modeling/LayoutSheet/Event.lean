import LayoutSheet.Warning
import LayoutSheet.Decimal.Rounded

namespace LayoutSheet

inductive Level where
  | error
  | warn
  | info
  | debug
  | trace
  deriving DecidableEq, Repr

namespace Level

def name : Level → String
  | error => "ERROR"
  | warn => "WARN"
  | info => "INFO"
  | debug => "DEBUG"
  | trace => "TRACE"

def rank : Level → Nat
  | error => 1
  | warn => 2
  | info => 3
  | debug => 4
  | trace => 5

end Level

inductive Event where
  | warned (w : Warning)
  | registered (type family : String) (variants : Nat)
  | loaded (types variants : Nat)
  | inactive (breakpoint : String)
  | placed (breakpoint : String) (variants : Nat)
  | shared (breakpoint query first : String)
  | generated (rules bytes : Nat)
  deriving DecidableEq, Repr

abbrev Journal := List Event

namespace Event

def level : Event → Level
  | warned _ => .warn
  | generated _ _ => .info
  | _ => .debug

def message : Event → String
  | warned w => w.message
  | registered type family n =>
    "registered " ++ toString n ++ " variant(s) for '" ++ type ++ "' (prefix '" ++ family ++ "')"
  | loaded types variants =>
    "loaded " ++ toString types ++ " layout type(s), " ++ toString variants ++ " variant(s)"
  | inactive breakpoint => "breakpoint '" ++ breakpoint ++ "' has no range, skipping"
  | placed breakpoint n =>
    "breakpoint '" ++ breakpoint ++ "' resolved " ++ toString n ++ " variant(s)"
  | shared breakpoint query first =>
    "breakpoint '" ++ breakpoint ++ "' shares query '" ++ query ++ "' with '" ++ first ++ "'"
  | generated rules bytes =>
    "generated " ++ toString rules ++ " rule(s), " ++ Decimal.kilobytes bytes ++ " KB"

def channel : Event → String
  | warned _ => "layout_css::diagnostics"
  | registered _ _ _ => "layout_css::registry"
  | loaded _ _ => "layout_css::builder"
  | inactive _ => "layout_css::resolve"
  | placed _ _ => "layout_css::resolve"
  | shared _ _ _ => "layout_css::table"
  | generated _ _ => "layout_css::builder"

def warning? : Event → Option Warning
  | warned w => some w
  | _ => none

end Event

def Journal.warnings (j : Journal) : List Warning := j.filterMap Event.warning?

end LayoutSheet
