import LayoutSheet.Decimal.Shortest

namespace LayoutSheet.Json

inductive Number where
  | whole (n : Int)
  | real (x : Float)
  deriving Repr

def Number.text : Number → String
  | whole n => toString n
  | real x => Decimal.ofFloat x

end LayoutSheet.Json
