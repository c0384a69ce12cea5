import LayoutSheet.Pattern.Property
import LayoutSheet.Pattern.Syntax

namespace LayoutSheet.Pattern

structure Mode where
  caseless : Bool := false
  multiline : Bool := false
  dotAll : Bool := false
  unicode : Bool := true
  wideLines : Bool := false
  deriving DecidableEq, Repr

namespace Mode

def apply (m : Mode) (fs : Flags) : Mode where
  caseless := (fs.state? .caseless).getD m.caseless
  multiline := (fs.state? .multiline).getD m.multiline
  dotAll := (fs.state? .dotAll).getD m.dotAll
  unicode := (fs.state? .unicode).getD m.unicode
  wideLines := (fs.state? .wideLines).getD m.wideLines

def folded (m : Mode) (s : CharSet) : CharSet := if m.caseless then .caseless (!m.unicode) s else s

def closed (m : Mode) (s : CharSet) (negated : Bool) (span : Span) : Except Fault CharSet :=
  let s := if negated then .complement s else s
  if !m.unicode && s.contains '\x80' then .error ⟨.invalidText, span, none⟩ else .ok s

/-- A character; a byte beyond ASCII is none where only ASCII counts. -/
def char (m : Mode) (l : Literal) : Except Fault Char :=
  if !m.unicode && l.byte && 0x80 ≤ l.char.toNat then .error ⟨.invalidText, l.span, none⟩
  else .ok l.char

def classChar (m : Mode) (l : Literal) : Except Fault Char := do
  let c ← m.char l
  if !m.unicode && 0x80 ≤ c.toNat then throw ⟨.beyondAscii, l.span, none⟩ else return c

def shorthand (m : Mode) (k : Shorthand) (negated : Bool) (span : Span) : Except Fault CharSet :=
  let s : CharSet := match k with
    | .digit => if m.unicode then .property .digit else .ranges [(0x30, 0x39)]
    | .blank => if m.unicode then .property .blank else .ranges [(0x09, 0x0d), (0x20, 0x20)]
    | .word =>
      if m.unicode then .property .word
      else .ranges [(0x30, 0x39), (0x41, 0x5a), (0x5f, 0x5f), (0x61, 0x7a)]
  m.closed s negated span

def named (m : Mode) (n : Named) : Except Fault CharSet :=
  if !m.unicode then .error ⟨.beyondAscii, n.span, none⟩
  else match Property.find n.name n.value with
    | .error flaw => .error ⟨flaw, n.span, none⟩
    | .ok p => m.closed (m.folded (.property p)) n.negated n.span

def dot (m : Mode) (span : Span) : Except Fault CharSet :=
  if !m.unicode then .error ⟨.invalidText, span, none⟩
  else if m.dotAll then .ok (.property .any)
  else if m.wideLines then .ok (.complement (.ranges [(0x0a, 0x0a), (0x0d, 0x0d)]))
  else .ok (.complement (.single '\n'))

def look (m : Mode) : Anchor → Look
  | .textStart => .textStart
  | .textEnd => .textEnd
  | .lineStart =>
    if m.multiline then if m.wideLines then .wideLineStart else .lineStart else .textStart
  | .lineEnd => if m.multiline then if m.wideLines then .wideLineEnd else .lineEnd else .textEnd
  | .edge e => .edge (!m.unicode) e

end Mode

def ClassOperator.apply : ClassOperator → CharSet → CharSet → CharSet
  | intersection => .intersection
  | difference => .difference
  | symmetricDifference => .symmetricDifference

mutual

def Item.meaning (m : Mode) : Item → Except Fault CharSet
  | .literal l => do return .single (← m.classChar l)
  | .range a b => do
    let first ← m.classChar a
    let last ← m.classChar b
    return .ranges [(first.toNat, last.toNat)]
  | .ascii r negated span => m.closed (m.folded (.ranges r)) negated span
  | .shorthand k negated span => m.shorthand k negated span
  | .named n => m.named n
  | .union is _ => Item.unionMeaning m is
  | .operation o a b => do
    let s ← a.meaning m
    let t ← b.meaning m
    return o.apply (m.folded s) (m.folded t)
  | .brackets negated i span => do m.closed (m.folded (← i.meaning m)) negated span

def Item.unionMeaning (m : Mode) : List Item → Except Fault CharSet
  | [] => .ok .none
  | i :: is => do
    let s ← i.meaning m
    return .union s (← Item.unionMeaning m is)

end

def Atom.meaning (m : Mode) : Atom → Except Fault Expr
  | literal l => do return .set (m.folded (.single (← m.char l)))
  | dot span => do return .set (← m.dot span)
  | anchor a _ => .ok (.look (m.look a))
  | shorthand k negated span => do return .set (← m.shorthand k negated span)
  | named n => do return .set (← m.named n)

mutual

/-- The expression, and the flags behind it. Flags in a group hold up to its end, in all
alternatives that follow. -/
def Node.meaning (m : Mode) : Node → Except Fault (Expr × Mode)
  | .empty _ => .ok (.empty, m)
  | .flags fs _ => .ok (.empty, m.apply fs)
  | .atom a => do return (← a.meaning m, m)
  | .brackets negated i span => do
    return (.set (← m.closed (m.folded (← i.meaning m)) negated span), m)
  | .rep n least most _ => do
    let (e, m) ← n.meaning m
    return (.rep e least most, m)
  | .group fs n _ => do
    let (e, _) ← n.meaning (m.apply fs)
    return (e, m)
  | .sequence ns _ => Node.sequenceMeaning m ns
  | .choice ns _ => Node.choiceMeaning m ns

def Node.sequenceMeaning (m : Mode) : List Node → Except Fault (Expr × Mode)
  | [] => .ok (.empty, m)
  | n :: ns => do
    let (e, m) ← n.meaning m
    let (f, m) ← Node.sequenceMeaning m ns
    return (e.followedBy f, m)

def Node.choiceMeaning (m : Mode) : List Node → Except Fault (Expr × Mode)
  | [] => .ok (.set .none, m)
  | n :: ns => do
    let (e, m) ← n.meaning m
    let (f, m) ← Node.choiceMeaning m ns
    return (.alt e f, m)

end

end LayoutSheet.Pattern
