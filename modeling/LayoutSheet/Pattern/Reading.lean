import LayoutSheet.Pattern.Brackets

namespace LayoutSheet.Pattern

namespace Cursor

def decimal (k : Cursor) : Except Fault Nat × Cursor :=
  let start := (k.takeWhile Text.isBlank).2
  let (digits, stop) := start.takeWhile Char.isDigit
  let n := digits.foldl (fun n c ↦ 10 * n + (c.toNat - '0'.toNat)) 0
  let span := stop.since start.place
  let value : Except Fault Nat :=
    if digits.isEmpty then fail .emptyCount span
    else if n < UInt32.size then .ok n
    else fail .invalidCount span
  (value, (stop.takeWhile Text.isBlank).2)

def counts (k : Cursor) : Except Fault ((Nat × Option Nat) × Cursor) := do
  let start := k.place
  let k := k.advance
  if k.atEnd then fail .openCount (k.since start)
  else
    let (least, k) := k.decimal
    if k.atEnd then fail .openCount (k.since start)
    else
      let ((least, most), k) ← (do
        if k.char? ≠ some ',' then
          let n ← least
          return ((n, some n), k)
        else
          let k := k.advance
          if k.atEnd then fail .openCount (k.since start)
          else if k.char? = some '}' then return ((← least, none), k)
          else
            let n ← least
            let (most, k) := k.decimal
            return ((n, some (← most)), k)
        : Except Fault ((Nat × Option Nat) × Cursor))
      if k.char? ≠ some '}' then fail .openCount (k.since start)
      else
        let k := k.advance
        let k := if k.char? = some '?' then k.next else k
        if most.any (· < least) then fail .reversedCounts (k.since start)
        else return ((least, most), k)

def repetition (k : Cursor) (c : Char) : Except Fault ((Nat × Option Nat) × Cursor) :=
  let behind := if k.next.char? = some '?' then k.next.next else k.next
  match c with
  | '?' => .ok ((0, some 1), behind)
  | '*' => .ok ((0, none), behind)
  | '+' => .ok ((1, none), behind)
  | _ => k.counts

def isNameStart (c : Char) : Bool := c = '_' || Text.isAlphabetic c

def isNamePart (c : Char) : Bool :=
  isNameStart c || c = '.' || c = '[' || c = ']' || Text.isNumeric c

def groupName (k : Cursor) : Except Fault Cursor := do
  let start := k.place
  let name := k.rest.takeWhile (· ≠ '>')
  let good := match name with
    | c :: r => if isNameStart c then c :: r.takeWhile isNamePart else []
    | [] => []
  let j := good.foldl (fun k _ ↦ k.next) k
  let span := j.since start
  match j.char? with
  | none => fail .cutName j.here
  | some '>' =>
    if good.isEmpty then fail .emptyName span
    else match j.names.lookup (.ofList good) with
      | some earlier => .error ⟨.repeatedName, span, some earlier⟩
      | none => return { j.next with names := j.names ++ [(.ofList good, span)] }
  | some _ => fail .invalidName j.charSpan

/-- Flags up to a colon or parenthesis, with the dash between those on and those off as none. -/
def flagItems : Nat → List (Option Flag × Span) → Cursor →
    Except Fault (List (Option Flag × Span) × Cursor)
  | 0, _, k => fail .cutFlags k.here
  | n + 1, is, k =>
    match k.char? with
    | none => fail .cutFlags k.here
    | some c =>
      if c = ':' || c = ')' then .ok (is, k)
      else do
        let item ←
          if c = '-' then pure none
          else match Flag.ofChar? c with
            | some f => pure (some f)
            | none => fail .unknownFlag k.charSpan
        match is.lookup item with
        | some earlier =>
          let flaw := if item.isNone then .repeatedNegation else .repeatedFlag
          .error ⟨flaw, k.charSpan, some earlier⟩
        | none =>
          if k.next.atEnd then fail .cutFlags k.next.here
          else flagItems n (is ++ [(item, k.charSpan)]) k.next

def flags (k : Cursor) : Except Fault (Flags × Cursor) := do
  let (is, j) ← flagItems k.rest.length [] k
  match is.getLast? with
  | some (none, span) => fail .danglingNegation span
  | _ =>
    let fs := is.map Prod.fst
    return (⟨(fs.takeWhile Option.isSome).filterMap id, (fs.dropWhile Option.isSome).filterMap id⟩,
      j)

end Cursor

/-- What a parenthesis opens: a group with flags of its own, or flags for what follows. -/
inductive Opening where
  | group (fs : Flags)
  | flags (fs : Flags)

def lookArounds : List (List Char) := [['?', '='], ['?', '!'], ['?', '<', '='], ['?', '<', '!']]

def Opening.read (start : Cursor) : Except Fault (Opening × Cursor) := do
  let k := start.next.skip
  match lookArounds.findSome? k.drop? with
  | some k => fail .lookAround (k.since start.place)
  | none =>
    match (k.drop? ['?', 'P', '<']).or (k.drop? ['?', '<']) with
    | some k => return (.group ⟨[], []⟩, ← k.groupName)
    | none =>
      match k.drop? ['?'] with
      | none => return (.group ⟨[], []⟩, k)
      | some inner =>
        if inner.atEnd then fail .openGroup start.charSpan
        else
          let (fs, j) ← inner.flags
          if j.char? = some ':' then return (.group fs, j.next)
          else if fs.on.isEmpty && fs.off.isEmpty then fail .nothingToRepeat k.here
          else return (.flags fs, j.next)

structure Draft where
  start : Place
  /-- The complete alternatives, from the last to the first. -/
  choices : List Node
  begun : Place
  /-- Its parts, from the last to the first. -/
  parts : List Node

namespace Draft

def empty (p : Place) : Draft := ⟨p, [], p, []⟩

def push (d : Draft) (n : Node) : Draft := { d with parts := n :: d.parts }

def alternative (d : Draft) (stop : Place) : Node :=
  match d.parts with
  | [] => .empty ⟨d.begun, stop⟩
  | [n] => n
  | ns => .sequence ns.reverse ⟨d.begun, stop⟩

def fork (d : Draft) (k : Cursor) : Draft :=
  { d with choices := d.alternative k.place :: d.choices, begun := k.next.place, parts := [] }

def finish (d : Draft) (stop : Place) : Node :=
  match d.choices with
  | [] => d.alternative stop
  | ns => .choice (d.alternative stop :: ns).reverse ⟨d.start, stop⟩

def repeatLast (d : Draft) (c : Char) (k : Cursor) : Except Fault (Draft × Cursor) :=
  match d.parts with
  | [] => fail .nothingToRepeat k.here
  | .flags _ _ :: _ => fail .nothingToRepeat k.here
  | n :: ns => do
    let ((least, most), j) ← k.repetition c
    return ({ d with parts := .rep n least most (j.since n.span.first) :: ns }, j)

def single (c : Char) (k : Cursor) : Except Fault (Node × Cursor) :=
  match c with
  | '\\' => (Atom.escape k).map fun (a, k) ↦ (.atom a, k)
  | '.' => .ok (.atom (.dot k.charSpan), k.next)
  | '^' => .ok (.atom (.anchor .lineStart k.charSpan), k.next)
  | '$' => .ok (.atom (.anchor .lineEnd k.charSpan), k.next)
  | c => .ok (.atom (.literal (.here c k)), k.next)

end Draft

namespace Node

def inside : Nat → Draft → Cursor → Except Fault (Node × Cursor)
  | 0, d, k => .ok (d.finish k.place, k)
  | n + 1, d, k => do
    let k := k.skip
    match k.char? with
    | none => return (d.finish k.place, k)
    | some ')' => return (d.finish k.place, k)
    | some '|' => inside n (d.fork k) k.next
    | some '[' =>
      let (node, k) ← readBrackets k
      inside n (d.push node) k
    | some '(' =>
      match ← Opening.read k with
      | (.flags fs, j) =>
        inside n (d.push (.flags fs (j.since k.place)))
          { j with loose := (fs.state? .loose).getD k.loose }
      | (.group fs, j) =>
        let (node, j) ← inside n (.empty j.place)
          { j with loose := (fs.state? .loose).getD k.loose }
        if j.atEnd then fail .openGroup k.charSpan
        else
          let node := .group fs node (j.next.since k.place)
          inside n (d.push node) { j.next with loose := k.loose }
    | some c =>
      if c = '?' || c = '*' || c = '+' || c = '\x7b' then
        let (d, k) ← d.repeatLast c k
        inside n d k
      else
        let (node, k) ← Draft.single c k
        inside n (d.push node) k

def read (pattern : String) : Except Fault Node := do
  let k := Cursor.ofText pattern
  let (node, j) ← inside (k.rest.length + 1) (.empty k.place) k
  if j.atEnd then
    node.checkDepth 0
    return node
  else fail .unopenedGroup j.charSpan

end Node

end LayoutSheet.Pattern
