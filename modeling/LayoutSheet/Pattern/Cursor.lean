import LayoutSheet.Text.Blank
import LayoutSheet.Pattern.Fault

namespace LayoutSheet.Pattern

structure Cursor where
  rest : List Char
  place : Place
  loose : Bool
  names : List (String × Span)

def fail {α : Type} (flaw : Flaw) (span : Span) : Except Fault α := .error ⟨flaw, span, none⟩

namespace Cursor

def ofText (pattern : String) : Cursor := ⟨pattern.toList, .start, false, []⟩

def atEnd (k : Cursor) : Bool := k.rest.isEmpty

def char? (k : Cursor) : Option Char := k.rest.head?

def next (k : Cursor) : Cursor :=
  match k.rest with
  | [] => k
  | c :: r => { k with rest := r, place := k.place.behind c }

/-- Passes over blanks and comments, from within a comment or from outside. -/
def skipFrom : Bool → List Char → Place → List Char × Place
  | _, [], p => ([], p)
  | true, c :: r, p => skipFrom (c ≠ '\n') r (p.behind c)
  | false, c :: r, p =>
    if Text.isBlank c then skipFrom false r (p.behind c)
    else if c = '#' then skipFrom true r (p.behind c)
    else (c :: r, p)

def skip (k : Cursor) : Cursor :=
  if k.loose then
    let (rest, place) := skipFrom false k.rest k.place
    { k with rest := rest, place := place }
  else k

def advance (k : Cursor) : Cursor := k.next.skip

def here (k : Cursor) : Span := ⟨k.place, k.place⟩

def charSpan (k : Cursor) : Span := ⟨k.place, k.next.place⟩

def since (k : Cursor) (p : Place) : Span := ⟨p, k.place⟩

def drop? (k : Cursor) (word : List Char) : Option Cursor :=
  if word.isPrefixOf k.rest then some (word.foldl (fun k _ ↦ k.next) k) else none

/-- The first character that counts, if there is one. A comment counts from its first character. -/
def countingFrom : Bool → List Char → Option Char
  | _, [] => none
  | comment, c :: r =>
    if Text.isBlank c then countingFrom comment r
    else if !comment && c = '#' then countingFrom true r
    else some c

def peek? (k : Cursor) : Option Char := k.rest.tail.head?

def peekCounting? (k : Cursor) : Option Char :=
  if k.loose then (countingFrom false k.rest.tail).or k.peek? else k.peek?

def takeWithin (p : Char → Bool) : Nat → Cursor → List Char × Cursor
  | 0, k => ([], k)
  | n + 1, k =>
    match k.rest with
    | c :: _ =>
      if p c then
        let (cs, k) := takeWithin p n k.advance
        (c :: cs, k)
      else ([], k)
    | [] => ([], k)

def takeWhile (p : Char → Bool) (k : Cursor) : List Char × Cursor := takeWithin p k.rest.length k

end Cursor

end LayoutSheet.Pattern
