import LayoutSheet.Event
import LayoutSheet.Pattern
import LayoutSheet.Text.Blank

namespace LayoutSheet.CommandLine

structure Directive where
  channel : Option String
  rank : Nat
  deriving DecidableEq, Repr

structure Filter where
  directives : List Directive
  pattern : Option Pattern := none
  deriving DecidableEq, Repr

namespace Directive

def maxRank : Nat := 5

def rank? (s : String) : Option Nat :=
  match s.toList.map Char.toLower with
  | ['o', 'f', 'f'] => some 0
  | ['e', 'r', 'r', 'o', 'r'] => some 1
  | ['w', 'a', 'r', 'n'] => some 2
  | ['i', 'n', 'f', 'o'] => some 3
  | ['d', 'e', 'b', 'u', 'g'] => some 4
  | ['t', 'r', 'a', 'c', 'e'] => some 5
  | _ => none

/-- A level, a channel, or both with an equals sign between; otherwise what is wrong. -/
def read (s : String) : Except String Directive :=
  match s.splitOn "=" with
  | [one] =>
    match rank? one with
    | some rank => .ok ⟨none, rank⟩
    | none => .ok ⟨some one, maxRank⟩
  | [channel, level] =>
    if (Text.trim level).isEmpty then .ok ⟨some channel, maxRank⟩
    else match rank? (Text.trim level) with
      | some rank => .ok ⟨some channel, rank⟩
      | none => .error (Text.trim level)
  | _ => .error s

def size (d : Directive) : Nat := (d.channel.getD "").utf8ByteSize

def covers (d : Directive) (channel : String) : Bool :=
  match d.channel with
  | none => true
  | some name => channel.startsWith name

end Directive

namespace Filter

/-- A directive takes the place of one for the same channels. -/
def insert (f : Filter) (d : Directive) : Filter :=
  if f.directives.any fun e ↦ e.channel = d.channel then
    { f with directives := f.directives.map fun e ↦ if e.channel = d.channel then d else e }
  else { f with directives := f.directives ++ [d] }

def ofVerbosity (n : Nat) : Filter := ⟨[⟨none, min (3 + n) Directive.maxRank⟩], none⟩

def readPattern : List String → Option Pattern × List String
  | [] => (none, [])
  | text :: _ =>
    match Pattern.read text with
    | .ok p => (some p, [])
    | .error report => (none, ["invalid regex filter - " ++ report])

def read (f : Filter) (spec : String) : Filter × List String :=
  match spec.splitOn "/" with
  | directives :: rest =>
    if 1 < rest.length then (f, ["invalid logging spec '" ++ spec ++ "' (too many '/'s)"])
    else
      let parts := ((directives.splitOn ",").map Text.trim).filter (· ≠ "")
      let readings := parts.map Directive.read
      let f := (readings.filterMap Except.toOption).foldl insert f
      let faults := readings.filterMap fun r ↦
        match r with
        | .ok _ => none
        | .error s => some ("invalid logging spec '" ++ s ++ "'")
      let (pattern, report) := readPattern rest
      ({ f with pattern := pattern }, faults ++ report)
  | [] => (f, [])

/-- The directive that decides: the last of the longest that cover the channel. -/
def decisive? (f : Filter) (channel : String) : Option Directive :=
  ((f.directives.mergeSort fun a b ↦ a.size ≤ b.size).filter (·.covers channel)).getLast?

def shows (f : Filter) (channel : String) (level : Level) (message : String) : Bool :=
  ((f.decisive? channel).any fun d ↦ level.rank ≤ d.rank)
    && f.pattern.all (·.occursIn message)

end Filter

end LayoutSheet.CommandLine
