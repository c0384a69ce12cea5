import LayoutSheet.Pattern.Expr
import LayoutSheet.Pattern.Fault

namespace LayoutSheet.Pattern

inductive Flag where
  | caseless
  | multiline
  | dotAll
  /-- Which of two repetitions is tried first; what can be found does not depend on it. -/
  | swapped
  | unicode
  | wideLines
  | loose
  deriving DecidableEq, Repr

def Flag.ofChar? : Char → Option Flag
  | 'i' => some caseless
  | 'm' => some multiline
  | 's' => some dotAll
  | 'U' => some swapped
  | 'u' => some unicode
  | 'R' => some wideLines
  | 'x' => some loose
  | _ => none

structure Flags where
  on : List Flag
  off : List Flag
  deriving DecidableEq, Repr

def Flags.state? (fs : Flags) (f : Flag) : Option Bool :=
  if f ∈ fs.on then some true else if f ∈ fs.off then some false else none

/-- A character that stands for itself; a byte is one that is given by two hexadecimal digits. -/
structure Literal where
  char : Char
  byte : Bool
  span : Span
  deriving DecidableEq, Repr

inductive Shorthand where
  | digit
  | blank
  | word
  deriving DecidableEq, Repr

structure Named where
  name : String
  value : Option String
  negated : Bool
  span : Span
  deriving DecidableEq, Repr

/-- Conditions on a gap, before the flags tell what they mean. -/
inductive Anchor where
  | lineStart
  | lineEnd
  | textStart
  | textEnd
  | edge (e : Edge)
  deriving DecidableEq, Repr

inductive Atom where
  | literal (l : Literal)
  | dot (span : Span)
  | anchor (a : Anchor) (span : Span)
  | shorthand (k : Shorthand) (negated : Bool) (span : Span)
  | named (n : Named)
  deriving DecidableEq, Repr

def Atom.span : Atom → Span
  | literal l => l.span
  | dot s => s
  | anchor _ s => s
  | shorthand _ _ s => s
  | named n => n.span

inductive ClassOperator where
  | intersection
  | difference
  | symmetricDifference
  deriving DecidableEq, Repr

inductive Item where
  | literal (l : Literal)
  | range (first last : Literal)
  | ascii (r : Text.Ranges) (negated : Bool) (span : Span)
  | shorthand (k : Shorthand) (negated : Bool) (span : Span)
  | named (n : Named)
  | union (items : List Item) (span : Span)
  | operation (o : ClassOperator) (a b : Item)
  | brackets (negated : Bool) (i : Item) (span : Span)

def Item.first : Item → Place
  | literal l => l.span.first
  | range a _ => a.span.first
  | ascii _ _ s => s.first
  | shorthand _ _ s => s.first
  | named n => n.span.first
  | union _ s => s.first
  | operation _ a _ => a.first
  | brackets _ _ s => s.first

def Item.stop : Item → Place
  | literal l => l.span.stop
  | range _ b => b.span.stop
  | ascii _ _ s => s.stop
  | shorthand _ _ s => s.stop
  | named n => n.span.stop
  | union _ s => s.stop
  | operation _ _ b => b.stop
  | brackets _ _ s => s.stop

def Item.span (i : Item) : Span := ⟨i.first, i.stop⟩

inductive Node where
  | empty (span : Span)
  | flags (fs : Flags) (span : Span)
  | atom (a : Atom)
  | brackets (negated : Bool) (i : Item) (span : Span)
  | rep (n : Node) (least : Nat) (most : Option Nat) (span : Span)
  | group (fs : Flags) (n : Node) (span : Span)
  | sequence (ns : List Node) (span : Span)
  | choice (ns : List Node) (span : Span)

def Node.span : Node → Span
  | empty s => s
  | flags _ s => s
  | atom a => a.span
  | brackets _ _ s => s
  | rep _ _ _ s => s
  | group _ _ s => s
  | sequence _ s => s
  | choice _ s => s

/-- Patterns may be nested to a depth only. -/
def descend (depth : Nat) (span : Span) : Except Fault Nat :=
  if depth < maxNesting then .ok (depth + 1) else .error ⟨.tooDeep, span, none⟩

mutual

def Item.checkDepth (depth : Nat) : Item → Except Fault Unit
  | .union [] _ => .ok ()
  | .union is span => do Item.checkDepths (← descend depth span) is
  | .operation o a b => do
    let depth ← descend depth (Item.operation o a b).span
    a.checkDepth depth
    b.checkDepth depth
  | .brackets _ i span => do i.checkDepth (← descend depth span)
  | _ => .ok ()

def Item.checkDepths (depth : Nat) : List Item → Except Fault Unit
  | [] => .ok ()
  | i :: is => do
    i.checkDepth depth
    Item.checkDepths depth is

end

mutual

def Node.checkDepth (depth : Nat) : Node → Except Fault Unit
  | .brackets _ i span => do i.checkDepth (← descend depth span)
  | .rep n _ _ span => do n.checkDepth (← descend depth span)
  | .group _ n span => do n.checkDepth (← descend depth span)
  | .sequence ns span => do Node.checkDepths (← descend depth span) ns
  | .choice ns span => do Node.checkDepths (← descend depth span) ns
  | _ => .ok ()

def Node.checkDepths (depth : Nat) : List Node → Except Fault Unit
  | [] => .ok ()
  | n :: ns => do
    n.checkDepth depth
    Node.checkDepths depth ns

end

end LayoutSheet.Pattern
