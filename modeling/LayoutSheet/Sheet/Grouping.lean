import LayoutSheet.Sheet

namespace LayoutSheet

/-- Equal as maps, in whatever order the properties were written. -/
def Declarations.sameAs (a b : Declarations) : Bool :=
  a.size == b.size && a.toList.all fun (property, value) ↦ b.get? property == some value

def Declarations.meets (a b : Declarations) : Bool := a.keys.any b.contains

structure Group where
  selectors : List String
  declarations : Declarations
  deriving DecidableEq, Repr

namespace Group

/-- A grouping of the rules of a layer read so far: for each group the place of its first rule,
and for each rule its declarations and its group. -/
structure Progress where
  groups : List (Nat × Group) := []
  placed : List (Nat × Declarations) := []

def newest? (groups : List (Nat × Group)) (d : Declarations) : Option Nat :=
  (groups.zipIdx.reverse.find? fun g ↦ g.1.2.declarations.sameAs d).map Prod.snd

namespace Progress

/-- No rule after the group's first, outside the group, sets a property of `d`. -/
def reaches (p : Progress) (slot : Nat) (d : Declarations) : Bool :=
  match p.groups[slot]? with
  | none => false
  | some (start, _) =>
    (p.placed.drop (start + 1)).all fun (other, e) ↦ other == slot || !Declarations.meets e d

/-- A rule joins the newest group of equal declarations unless a rule between, outside the group,
sets one of its properties: that rule has to keep its place before it. -/
def join? (p : Progress) (d : Declarations) : Option Nat :=
  (newest? p.groups d).filter fun slot ↦ p.reaches slot d

def step (p : Progress) (rule : String × Declarations) : Progress :=
  match p.join? rule.2 with
  | some slot =>
    { groups := p.groups.modify slot fun (start, g) ↦
        (start, { g with selectors := g.selectors ++ [rule.1] })
      placed := p.placed ++ [(slot, rule.2)] }
  | none =>
    { groups := p.groups ++ [(p.placed.length, ⟨[rule.1], rule.2⟩)]
      placed := p.placed ++ [(p.groups.length, rule.2)] }

end Progress

end Group

namespace Layer

def separate (l : Layer) : List Group := l.toList.map fun (selector, d) ↦ ⟨[selector], d⟩

/-- A group stands where its first rule was written and prints the declarations of that rule. -/
def merged (l : Layer) : List Group :=
  (l.toList.foldl Group.Progress.step {}).groups.map Prod.snd

end Layer

end LayoutSheet
