import LayoutSheet.Pattern.Escape

namespace LayoutSheet.Pattern

namespace Atom

def item : Atom → Except Fault Item
  | literal l => .ok (.literal l)
  | shorthand k negated span => .ok (.shorthand k negated span)
  | named n => .ok (.named n)
  | a => fail .foreignInClass a.span

def boundary : Atom → Except Fault Literal
  | literal l => .ok l
  | a => fail .rangeOfMany a.span

end Atom

def Literal.here (c : Char) (k : Cursor) : Literal := ⟨c, false, k.charSpan⟩

namespace Item

def asciiRanges? : String → Option Text.Ranges
  | "alnum" => some [(0x30, 0x39), (0x41, 0x5a), (0x61, 0x7a)]
  | "alpha" => some [(0x41, 0x5a), (0x61, 0x7a)]
  | "ascii" => some [(0, 0x7f)]
  | "blank" => some [(0x09, 0x09), (0x20, 0x20)]
  | "cntrl" => some [(0, 0x1f), (0x7f, 0x7f)]
  | "digit" => some [(0x30, 0x39)]
  | "graph" => some [(0x21, 0x7e)]
  | "lower" => some [(0x61, 0x7a)]
  | "print" => some [(0x20, 0x7e)]
  | "punct" => some [(0x21, 0x2f), (0x3a, 0x40), (0x5b, 0x60), (0x7b, 0x7e)]
  | "space" => some [(0x09, 0x0d), (0x20, 0x20)]
  | "upper" => some [(0x41, 0x5a)]
  | "word" => some [(0x30, 0x39), (0x41, 0x5a), (0x5f, 0x5f), (0x61, 0x7a)]
  | "xdigit" => some [(0x30, 0x39), (0x41, 0x46), (0x61, 0x66)]
  | _ => none

/-- A class of ASCII by its name, in brackets and colons. What is none may still be brackets. -/
def ascii? (k : Cursor) : Option (Item × Cursor) := do
  let k' ← k.drop? ['[', ':']
  let negated := k'.char? = some '^'
  let k' := if negated then k'.next else k'
  let name := k'.rest.takeWhile (· ≠ ':')
  let k' ← (name.foldl (fun k _ ↦ k.next) k').drop? [':', ']']
  let ranges ← asciiRanges? (.ofList name)
  return (.ascii ranges negated (k'.since k.place), k')

structure Open where
  negated : Bool
  span : Span
  left : Option (Item × ClassOperator) := none
  items : List Item
  start : Place

namespace Open

def push (o : Open) (i : Item) : Open := { o with items := i :: o.items }

def united (o : Open) : Item :=
  match o.items with
  | [] => .union [] ⟨o.start, o.start⟩
  | [i] => i
  | last :: is =>
    .union (last :: is).reverse ⟨((last :: is).getLast?.map Item.first).getD o.start, last.stop⟩

def content (o : Open) : Item :=
  match o.left with
  | none => o.united
  | some (a, operator) => .operation operator a o.united

def operate (o : Open) (operator : ClassOperator) (k : Cursor) : Open :=
  { o with left := some (o.content, operator), items := [], start := k.place }

end Open

def dashes (start : Place) : Nat → List Item → Cursor → Except Fault (List Item × Cursor)
  | 0, is, k => .ok (is, k)
  | n + 1, is, k =>
    if k.char? ≠ some '-' then .ok (is, k)
    else if k.advance.atEnd then fail .openClass ⟨start, start⟩
    else dashes start n (.literal (.here '-' k) :: is) k.advance

/-- A closing bracket right behind the opening one stands for itself, and so do dashes there. -/
def opening (k : Cursor) : Except Fault (Open × Cursor) := do
  let start := k.place
  let k := k.advance
  let negated := k.char? = some '^'
  let k := if negated then k.advance else k
  if k.atEnd then fail .openClass (k.since start)
  else
    let (is, j) ← dashes start k.rest.length [] k
    if is.isEmpty && j.char? = some ']' then
      let behind := j.advance
      if behind.atEnd then fail .openClass (behind.since start)
      else return (⟨negated, behind.since start, none, [.literal (.here ']' j)], k.place⟩, behind)
    else return (⟨negated, j.since start, none, is, k.place⟩, j)

def atom (k : Cursor) : Except Fault (Atom × Cursor) :=
  match k.char? with
  | some '\\' => Atom.escape k
  | c => .ok (.literal (.here (c.getD '\\') k), k.next)

def single (o : Open) (k : Cursor) : Except Fault (Item × Cursor) := do
  let (a, k) ← atom k
  let k := k.skip
  if k.atEnd then fail .openClass o.span
  else if k.char? ≠ some '-' || k.peekCounting? = some ']' || k.peekCounting? = some '-' then
    return (← a.item, k)
  else
    let k := k.advance
    if k.atEnd then fail .openClass o.span
    else
      let (b, k) ← atom k
      let first ← a.boundary
      let last ← b.boundary
      if last.char < first.char then fail .reversedRange ⟨a.span.first, b.span.stop⟩
      else return (.range first last, k)

def operator? (k : Cursor) : Option ClassOperator :=
  match k.rest with
  | '&' :: '&' :: _ => some .intersection
  | '-' :: '-' :: _ => some .difference
  | '~' :: '~' :: _ => some .symmetricDifference
  | _ => none

def inside : Nat → Open → Cursor → Except Fault ((Item × Span) × Cursor)
  | 0, o, _ => fail .openClass o.span
  | n + 1, o, k => do
    let k := k.skip
    match k.char? with
    | none => fail .openClass o.span
    | some ']' => return ((o.content, k.next.since o.span.first), k.next)
    | some '[' =>
      match ascii? k with
      | some (i, k) => inside n (o.push i) k
      | none =>
        let (inner, k) ← opening k
        let ((i, span), k) ← inside n inner k
        inside n (o.push (.brackets inner.negated i span)) k
    | some _ =>
      match operator? k with
      | some operator => inside n (o.operate operator k.next.next) k.next.next
      | none =>
        let (i, k) ← single o k
        inside n (o.push i) k

end Item

def Node.readBrackets (k : Cursor) : Except Fault (Node × Cursor) := do
  let (o, j) ← Item.opening k
  let ((i, span), j) ← Item.inside k.rest.length o j
  return (.brackets o.negated i span, j)

end LayoutSheet.Pattern
