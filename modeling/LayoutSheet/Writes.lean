import LayoutSheet.Placement
import LayoutSheet.Selector

namespace LayoutSheet

structure Write where
  query : String
  breakpoint : String
  selector : String
  declarations : List (String × String)
  deriving DecidableEq, Repr

def RuleValue.css : RuleValue → String
  | .text s => s
  | .number n => n.text

/-- A decimal count below 2 ^ 32, a plus sign before it allowed. -/
def count? (cs : List Char) : Option Nat :=
  let digits := match cs with
    | '+' :: r => r
    | r => r
  if digits.isEmpty || digits.any (fun c ↦ !c.isDigit) then none
  else
    let n := digits.foldl (fun n c ↦ 10 * n + (c.toNat - '0'.toNat)) 0
    if n < UInt32.size then some n else none

namespace Placement

/-- The tracks of a lanes layout: at most `n` lanes fit beside each other. -/
def laneTracks (n : Nat) : String :=
  "repeat(auto-fill, minmax(calc((100% - " ++ toString (n - 1) ++ " * var(--layout-cg, 1rem)) / "
    ++ toString n ++ "), 1fr))"

def lanes? (id : String) : Option String :=
  match count? (Text.trim id).toList with
  | some (n + 1) => some (laneTracks (n + 1))
  | _ => none

def columns? (family id : String) (v : Variant) : Option String :=
  match v.columns.bind Text.nonBlank? with
  | some columns => some columns
  | none => if family = "lanes" then lanes? id else none

def itemCount? (family : String) (v : Variant) : Option String :=
  if family = "columns" then
    match v.items with
    | some n => if n = 0 then none else some (toString n.toNat)
    | none => none
  else none

def containerDeclarations (family id : String) (v : Variant) : List (String × String) :=
  ((columns? family id v).map fun t ↦ ("--layout-gtc", t)).toList
    ++ ((v.rows.bind Text.nonBlank?).map fun t ↦ ("--layout-gtr", t)).toList
    ++ ((itemCount? family v).map fun t ↦ ("--_ci", t)).toList

variable (element : String)

def selector (p : Placement) : String := Selector.container element p.breakpoint p.family p.id

def write (p : Placement) (selector : String) (declarations : List (String × String)) : Write :=
  { query := p.query, breakpoint := p.breakpoint, selector, declarations }

/-- Placement state of the family's containers and of their children starts anew. -/
def resets (p : Placement) : List Write :=
  let base := Selector.ofFamily element p.breakpoint p.family
  [p.write base [("--_ga", "initial")],
    p.write (Selector.childrenOf base) [("--layout-ga", "auto")]]

def containerWrites (p : Placement) : List Write :=
  match containerDeclarations p.family p.id p.variant with
  | [] => []
  | declarations => [p.write (p.selector element) declarations]

def ruleWrites (p : Placement) : List Write :=
  p.variant.rules.map fun rule ↦
    p.write (Selector.scope element (p.selector element) rule.selector)
      (rule.properties.toList.map fun (property, value) ↦ (property, value.css))

def ownWrites (p : Placement) : List Write := p.containerWrites element ++ p.ruleWrites element

def resetKey (p : Placement) : String × String × String := (p.query, p.breakpoint, p.family)

def writesFrom : List (String × String × String) → List Placement → List Write
  | _, [] => []
  | seen, p :: ps =>
    if p.resetKey ∈ seen then p.ownWrites element ++ writesFrom seen ps
    else p.resets element ++ p.ownWrites element ++ writesFrom (p.resetKey :: seen) ps

/-- The first placement of a family under a query and breakpoint brings the resets of the whole
family. -/
def writes (ps : List Placement) : List Write := writesFrom element [] ps

end Placement

end LayoutSheet
