import LayoutSheet.KeyedList
import LayoutSheet.Json.Number

namespace LayoutSheet

inductive RuleValue where
  | text (s : String)
  | number (n : Json.Number)
  deriving Repr

structure ScopedRule where
  selector : String
  properties : KeyedList RuleValue := ∅
  deriving Repr

structure Variant where
  id : String
  columns : Option String := none
  rows : Option String := none
  items : Option UInt32 := none
  rules : List ScopedRule := []
  deriving Repr

structure LayoutFile where
  family : String
  name : Option String := none
  desc : Option String := none
  layouts : List Variant := []
  deriving Repr

namespace Variant

def qualify (family id : String) : String := family ++ "(" ++ id ++ ")"

/-- The text between the last pair of parentheses when the id ends with one and that text is not
empty; otherwise the whole id. -/
def bareChars (cs : List Char) : List Char :=
  match cs.reverse with
  | ')' :: r =>
    match (r.takeWhile (· ≠ ')')).reverse.dropWhile (· ≠ '(') with
    | '(' :: c :: inner => c :: inner
    | _ => cs
  | _ => cs

def bareId (id : String) : String := String.ofList (bareChars id.toList)

end Variant

end LayoutSheet
