import LayoutSheet.Pattern.Meaning
import LayoutSheet.Pattern.Reading
import LayoutSheet.Pattern.Weight

namespace LayoutSheet

structure Pattern where
  expr : Pattern.Expr
  deriving DecidableEq, Repr

namespace Pattern

def meaning (text : String) : Except Fault Expr := do
  let (e, _) ← (← Node.read text).meaning {}
  return e

def read (text : String) : Except String Pattern :=
  match meaning text with
  | .error fault => .error (fault.report text)
  | .ok e => if maxWeight < e.weight then .error overweightMessage else .ok ⟨e⟩

def occursIn (p : Pattern) (text : String) : Bool := p.expr.occursIn text

end Pattern

end LayoutSheet
