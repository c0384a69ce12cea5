import LayoutSheet.Pattern.Cursor
import LayoutSheet.Pattern.Syntax

namespace LayoutSheet.Pattern

open Text (hexValue? hexNumber)

namespace Atom

def isHex (c : Char) : Bool := (hexValue? c).isSome

def charOfHex? (digits : List Char) : Option Char :=
  let n := hexNumber digits
  if h : n.isValidChar then some (.ofNatAux n h) else none

def fixedDigits : Nat → Cursor → Except Fault (List Char × Cursor)
  | 0, k => .ok ([], k)
  | n + 1, k =>
    match k.rest with
    | [] => fail .cutEscape k.here
    | c :: _ =>
      if isHex c then do
        let (cs, k) ← fixedDigits n k.advance
        return (c :: cs, k)
      else fail .invalidHexDigit k.charSpan

def bracedDigits (k : Cursor) : Except Fault (List Char × Cursor) := do
  let (digits, j) := k.advance.takeWhile isHex
  match j.char? with
  | none => fail .cutEscape (j.since k.place)
  | some '}' => return (digits, j)
  | some _ => fail .invalidHexDigit j.charSpan

def hexadecimal (start : Place) (k : Cursor) : Except Fault (Atom × Cursor) := do
  let width := if k.char? = some 'x' then 2 else if k.char? = some 'u' then 4 else 8
  let k := k.advance
  if k.atEnd then fail .cutEscape k.here
  else if k.char? = some '{' then
    let (digits, j) ← bracedDigits k
    let behind := j.advance
    if digits.isEmpty then fail .emptyHex (behind.since k.place)
    else match charOfHex? digits with
      | some c => return (.literal ⟨c, false, behind.since start⟩, behind)
      | none => fail .invalidHex (j.since k.next.place)
  else
    let (digits, j) ← fixedDigits width k
    match charOfHex? digits with
    | some c => return (.literal ⟨c, width = 2, j.since start⟩, j)
    | none => fail .invalidHex (j.since k.place)

def splitName (text : String) : String × Option String :=
  let cut (sign : String) : Option (String × Option String) :=
    match text.splitOn sign with
    | name :: value :: r => some (name, some (String.intercalate sign (value :: r)))
    | _ => none
  ((cut "!=").or ((cut ":").or (cut "="))).getD (text, none)

def property (start : Place) (k : Cursor) : Except Fault (Atom × Cursor) :=
  let negated := k.char? = some 'P'
  let k := k.advance
  match k.char? with
  | none => fail .cutEscape k.here
  | some '{' =>
    let (name, j) := k.advance.takeWhile (· ≠ '}')
    if j.atEnd then fail .cutEscape j.here
    else
      let (name, value) := splitName (.ofList name)
      .ok (.named ⟨name, value, negated, j.next.since start⟩, j.next)
  | some '\\' => fail .invalidProperty k.charSpan
  | some c =>
    .ok (.named ⟨String.singleton c, none, negated, k.advance.since start⟩, k.advance)

def isEdgeLetter (c : Char) : Bool := c.isAlpha || c = '-'

def edgeOfName? : List Char → Option Edge
  | ['s', 't', 'a', 'r', 't'] => some .start
  | ['e', 'n', 'd'] => some .finish
  | ['s', 't', 'a', 'r', 't', '-', 'h', 'a', 'l', 'f'] => some .startHalf
  | ['e', 'n', 'd', '-', 'h', 'a', 'l', 'f'] => some .finishHalf
  | _ => none

/-- The kind of an edge in braces, if there is one. Braces may count repetitions instead. -/
def braced? (start : Place) (k : Cursor) : Except Fault (Option (Edge × Cursor)) :=
  if k.char? ≠ some '{' then .ok none
  else
    let inside := k.advance
    match inside.char? with
    | none => fail .cutEdge (inside.since start)
    | some c =>
      if !isEdgeLetter c then .ok none
      else
        let (name, j) := inside.takeWhile isEdgeLetter
        if j.char? ≠ some '}' then fail .openEdge (j.since k.place)
        else match edgeOfName? name with
          | some e => .ok (some (e, j.next))
          | none => fail .unknownEdge (j.since inside.place)

def isEscapable (c : Char) : Bool :=
  c.toNat < 0x80 && !c.isAlphanum && c ≠ '<' && c ≠ '>'

def special? : Char → Option Char
  | 'a' => some '\x07'
  | 'f' => some '\x0c'
  | 't' => some '\t'
  | 'n' => some '\n'
  | 'r' => some '\r'
  | 'v' => some '\x0b'
  | _ => none

def anchor? : Char → Option Anchor
  | 'A' => some .textStart
  | 'z' => some .textEnd
  | 'B' => some (.edge .none)
  | '<' => some (.edge .start)
  | '>' => some (.edge .finish)
  | _ => none

def shorthand? : Char → Option (Shorthand × Bool)
  | 'd' => some (.digit, false)
  | 's' => some (.blank, false)
  | 'w' => some (.word, false)
  | 'D' => some (.digit, true)
  | 'S' => some (.blank, true)
  | 'W' => some (.word, true)
  | _ => none

def short (start : Place) (c : Char) (k : Cursor) : Except Fault (Atom × Cursor) := do
  let span := k.since start
  if isEscapable c then return (.literal ⟨c, false, span⟩, k)
  else if c = 'b' then
    match ← braced? start k with
    | some (e, k) => return (.anchor (.edge e) (k.since start), k)
    | none => return (.anchor (.edge .any) span, k)
  else match special? c, anchor? c, shorthand? c with
    | some d, _, _ => return (.literal ⟨d, false, span⟩, k)
    | _, some a, _ => return (.anchor a span, k)
    | _, _, some (kind, negated) => return (.shorthand kind negated span, k)
    | _, _, _ => fail .unknownEscape span

def escape (k : Cursor) : Except Fault (Atom × Cursor) :=
  let start := k.place
  let k := k.next
  match k.char? with
  | none => fail .cutEscape (k.since start)
  | some c =>
    if c.isDigit then fail .backreference (k.next.since start)
    else if c = 'x' || c = 'u' || c = 'U' then hexadecimal start k
    else if c = 'p' || c = 'P' then property start k
    else short start c k.next

end Atom

end LayoutSheet.Pattern
