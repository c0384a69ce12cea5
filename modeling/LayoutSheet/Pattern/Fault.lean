namespace LayoutSheet.Pattern

structure Place where
  line : Nat
  column : Nat
  deriving DecidableEq, Repr

def Place.start : Place := ⟨1, 1⟩

def Place.behind (p : Place) (c : Char) : Place :=
  if c = '\n' then ⟨p.line + 1, 1⟩ else ⟨p.line, p.column + 1⟩

/-- A part of a pattern, up to a place that is not in it. -/
structure Span where
  first : Place
  stop : Place
  deriving DecidableEq, Repr

inductive Flaw where
  | foreignInClass
  | reversedRange
  | rangeOfMany
  | openClass
  | invalidCount
  | emptyHex
  | invalidHex
  | invalidHexDigit
  | cutEscape
  | unknownEscape
  | danglingNegation
  | repeatedFlag
  | repeatedNegation
  | cutFlags
  | unknownFlag
  | repeatedName
  | emptyName
  | invalidName
  | cutName
  | openGroup
  | unopenedGroup
  | tooDeep
  | reversedCounts
  | emptyCount
  | openCount
  | nothingToRepeat
  | openEdge
  | unknownEdge
  | cutEdge
  | invalidProperty
  | backreference
  | lookAround
  | beyondAscii
  | invalidText
  | unknownProperty
  | unknownValue
  deriving DecidableEq, Repr

/-- How deep groups, classes and what joins them may be nested. -/
def maxNesting : Nat := 250

def Flaw.message : Flaw → String
  | foreignInClass => "invalid escape sequence found in character class"
  | reversedRange => "invalid character class range, the start must be <= the end"
  | rangeOfMany => "invalid range boundary, must be a literal"
  | openClass => "unclosed character class"
  | invalidCount => "decimal literal invalid"
  | emptyHex => "hexadecimal literal empty"
  | invalidHex => "hexadecimal literal is not a Unicode scalar value"
  | invalidHexDigit => "invalid hexadecimal digit"
  | cutEscape => "incomplete escape sequence, reached end of pattern prematurely"
  | unknownEscape => "unrecognized escape sequence"
  | danglingNegation => "dangling flag negation operator"
  | repeatedFlag => "duplicate flag"
  | repeatedNegation => "flag negation operator repeated"
  | cutFlags => "expected flag but got end of regex"
  | unknownFlag => "unrecognized flag"
  | repeatedName => "duplicate capture group name"
  | emptyName => "empty capture group name"
  | invalidName => "invalid capture group character"
  | cutName => "unclosed capture group name"
  | openGroup => "unclosed group"
  | unopenedGroup => "unopened group"
  | tooDeep =>
    "exceed the maximum number of nested parentheses/brackets (" ++ toString maxNesting ++ ")"
  | reversedCounts => "invalid repetition count range, the start must be <= the end"
  | emptyCount => "repetition quantifier expects a valid decimal"
  | openCount => "unclosed counted repetition"
  | nothingToRepeat => "repetition operator missing expression"
  | openEdge =>
    "special word boundary assertion is either unclosed or contains an invalid character"
  | unknownEdge =>
    "unrecognized special word boundary assertion, valid choices are: start, end, start-half "
      ++ "or end-half"
  | cutEdge =>
    "found either the beginning of a special word boundary or a bounded repetition on a \\b with "
      ++ "an opening brace, but no closing brace"
  | invalidProperty => "invalid Unicode character class"
  | backreference => "backreferences are not supported"
  | lookAround => "look-around, including look-ahead and look-behind, is not supported"
  | beyondAscii => "Unicode not allowed here"
  | invalidText => "pattern can match invalid UTF-8"
  | unknownProperty => "Unicode property not found"
  | unknownValue => "Unicode property value not found"

structure Fault where
  flaw : Flaw
  span : Span
  earlier : Option Span
  deriving DecidableEq, Repr

namespace Fault

/-- Marks under the columns of spans of one line, from a column on. -/
def marks : Nat → List Span → List Char
  | _, [] => []
  | column, s :: r =>
    let width := max 1 (s.stop.column - s.first.column)
    List.replicate (s.first.column - column) ' ' ++ List.replicate width '^'
      ++ marks (max column s.first.column + width) r

def spans (f : Fault) : List Span :=
  match f.earlier with
  | none => [f.span]
  | some e =>
    if e.first.line < f.span.first.line
        || e.first.line = f.span.first.line && e.first.column ≤ f.span.first.column then
      [e, f.span]
    else [f.span, e]

def isOneLine (s : Span) : Bool := s.first.line = s.stop.line

def placeText (p : Place) : String :=
  "line " ++ toString p.line ++ " (column " ++ toString p.column ++ ")"

/-- Lines without their ends; the last one may have none. -/
def linesOf (pattern : String) : List String :=
  let pieces := pattern.splitOn "\n"
  let ended := pieces.dropLast.map fun l ↦ if l.endsWith "\r" then (l.dropEnd 1).toString else l
  ended ++ pieces.getLast?.toList.filter (· ≠ "")

/-- The number of a line, as wide as the widest; a line by itself has none. -/
def label (count number : Nat) : String :=
  if count ≤ 1 then "    "
  else
    let width := (toString count).length - (toString number).length
    String.ofList (List.replicate width ' ') ++ toString number ++ ": "

def noted (f : Fault) (count number : Nat) (line : String) : List String :=
  let head := label count number
  match f.spans.filter fun s ↦ isOneLine s && s.first.line = number with
  | [] => [head ++ line]
  | ss => [head ++ line, String.ofList (List.replicate head.length ' ' ++ marks 1 ss)]

def far (f : Fault) : List String :=
  (f.spans.filter fun s ↦ !isOneLine s).map fun s ↦
    "on " ++ placeText s.first ++ " through " ++ placeText ⟨s.stop.line, s.stop.column - 1⟩

def report (f : Fault) (pattern : String) : String :=
  let lines := linesOf pattern
  let count := lines.length + if pattern.endsWith "\n" then 1 else 0
  let notes := (lines.zipIdx.map fun (l, i) ↦ f.noted count (i + 1) l).flatten
  let rule := String.ofList (List.replicate 79 '~')
  let body := if pattern.contains '\n' then [rule] ++ notes ++ [rule] ++ f.far else notes
  String.intercalate "\n" (["regex parse error:"] ++ body ++ ["error: " ++ f.flaw.message])

end Fault

end LayoutSheet.Pattern
