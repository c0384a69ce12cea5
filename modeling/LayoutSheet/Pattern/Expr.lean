import LayoutSheet.Text.Blank
import LayoutSheet.Text.Case
import LayoutSheet.Text.Letter
import LayoutSheet.Text.Script

namespace LayoutSheet.Pattern

open Text (Category Ranges Script)

inductive Property where
  | any
  | ascii
  | assigned
  | unassigned
  /-- A control, a format character, one for private use, or none at all. -/
  | other
  | blank
  | digit
  | word
  | alphabetic
  | lowercase
  | uppercase
  | categories (ks : List Category)
  | script (name : String)
  deriving DecidableEq, Repr

def Property.holds (c : Char) : Property → Bool
  | any => true
  | ascii => c.toNat < 0x80
  | assigned => (Category.ofChar? c).isSome
  | unassigned => (Category.ofChar? c).isNone
  | other => (Category.ofChar? c).isNone || Text.isOf [.control, .format, .privateUse] c
  | blank => Text.isBlank c
  | digit => Text.isDecimal c
  | word => Text.isWord c
  | alphabetic => Text.isAlphabetic c
  | lowercase => Text.isLowercase c
  | uppercase => Text.isUppercase c
  | categories ks => Text.isOf ks c
  | script name => (Script.ofName? name).any (·.characters.holds c)

inductive CharSet where
  | ranges (r : Ranges)
  | property (p : Property)
  | union (s t : CharSet)
  | intersection (s t : CharSet)
  | complement (s : CharSet)
  /-- With the characters that differ in case only; perhaps only letters of ASCII do. -/
  | caseless (ascii : Bool) (s : CharSet)
  deriving DecidableEq, Repr

namespace CharSet

def none : CharSet := .ranges []

def single (c : Char) : CharSet := .ranges [(c.toNat, c.toNat)]

def contains (c : Char) : CharSet → Bool
  | ranges r => r.holds c
  | property p => p.holds c
  | union s t => s.contains c || t.contains c
  | intersection s t => s.contains c && t.contains c
  | complement s => !s.contains c
  | caseless ascii s =>
    (if ascii then Text.asciiCaseVariants c else Text.caseVariants c).any fun d ↦ s.contains d

def difference (s t : CharSet) : CharSet := intersection s (complement t)

def symmetricDifference (s t : CharSet) : CharSet := union (difference s t) (difference t s)

end CharSet

structure Gap where
  before : Option Char
  behind : Option Char
  deriving DecidableEq, Repr

inductive Edge where
  | any
  | none
  | start
  | finish
  | startHalf
  | finishHalf
  deriving DecidableEq, Repr

def Edge.holds (before behind : Bool) : Edge → Bool
  | any => before != behind
  | none => before == behind
  | start => !before && behind
  | finish => before && !behind
  | startHalf => !before
  | finishHalf => !behind

inductive Look where
  | textStart
  | textEnd
  | lineStart
  | lineEnd
  /-- Where a carriage return, or one and a newline, ends a line too. -/
  | wideLineStart
  | wideLineEnd
  | edge (ascii : Bool) (e : Edge)
  deriving DecidableEq, Repr

def isAsciiWord (c : Char) : Bool := c.isAlphanum || c = '_'

def Look.holds (g : Gap) : Look → Bool
  | textStart => g.before.isNone
  | textEnd => g.behind.isNone
  | lineStart => g.before.isNone || g.before = some '\n'
  | lineEnd => g.behind.isNone || g.behind = some '\n'
  | wideLineStart =>
    g.before.isNone || g.before = some '\n' || g.before = some '\r' && g.behind ≠ some '\n'
  | wideLineEnd =>
    g.behind.isNone || g.behind = some '\r' || g.behind = some '\n' && g.before ≠ some '\r'
  | edge ascii e =>
    let isWord := if ascii then isAsciiWord else Text.isWord
    e.holds (g.before.any isWord) (g.behind.any isWord)

inductive Expr where
  | empty
  | set (s : CharSet)
  | look (l : Look)
  | seq (a b : Expr)
  | alt (a b : Expr)
  /-- At least `least` times, and at most `most` times if that is given. -/
  | rep (a : Expr) (least : Nat) (most : Option Nat)
  deriving DecidableEq, Repr

namespace Expr

def nullable (g : Gap) : Expr → Bool
  | empty => true
  | set _ => false
  | look l => l.holds g
  | seq a b => a.nullable g && b.nullable g
  | alt a b => a.nullable g || b.nullable g
  | rep a least _ => least == 0 || a.nullable g

def followedBy (a b : Expr) : Expr :=
  if a = empty then b else if b = empty then a else seq a b

/-- What is left behind a character, in a gap before it. A repetition whose parts need no character
here may leave out as many of them as it wants. -/
def residuals (g : Gap) (c : Char) : Expr → List Expr
  | empty => []
  | set s => if s.contains c then [empty] else []
  | look _ => []
  | seq a b =>
    (a.residuals g c).map (·.followedBy b) ++ if a.nullable g then b.residuals g c else []
  | alt a b => a.residuals g c ++ b.residuals g c
  | rep a least most =>
    if most = some 0 then []
    else
      let rest := rep a (if a.nullable g then 0 else least - 1) (most.map (· - 1))
      (a.residuals g c).map (·.followedBy rest)

/-- Whether an expression has, by its form, all the texts of another one. -/
def covers : Expr → Expr → Bool
  | rep a least most, rep b least' most' =>
    a = b && least ≤ least' && most.all fun m ↦ most'.any fun m' ↦ m' ≤ m
  | seq a b, seq c d => a.covers c && b.covers d
  | a, b => a = b

def essential : List Expr → List Expr
  | [] => []
  | e :: es =>
    let rest := essential es
    if rest.any (·.covers e) then rest else e :: rest.filter fun f ↦ !e.covers f

/-- Whether the expression, or one that is left from before, can be found to its end. -/
def occursFrom (e : Expr) (before : Option Char) (pending : List Expr) : List Char → Bool
  | [] => (e :: pending).any (·.nullable ⟨before, none⟩)
  | c :: r =>
    let g : Gap := ⟨before, some c⟩
    (e :: pending).any (·.nullable g)
      || occursFrom e (some c) (essential ((e :: pending).flatMap (·.residuals g c))) r

def occursIn (e : Expr) (s : String) : Bool := e.occursFrom none [] s.toList

end Expr

end LayoutSheet.Pattern
