import LayoutSheet.Sheet.Grouping

namespace LayoutSheet

/-- The entries in an order that forgets how they were written. -/
def Declarations.sorted (d : Declarations) : List (String × String) :=
  d.toList.mergeSort fun a b ↦ a.1 < b.1 ∨ a.1 = b.1 ∧ a.2 ≤ b.2

namespace Group

/-- A grouping of the rules of a layer read so far, with an index of the newest groups. -/
structure Indexed where
  groups : List Group := []
  starts : List Nat := []
  assigned : List Nat := []
  newest : List (List (String × String) × Nat) := []

namespace Indexed

def reaches (rules : List (String × Declarations)) (x : Indexed) (i slot : Nat)
    (d : Declarations) : Bool :=
  match x.starts[slot]? with
  | none => false
  | some start => (List.range' (start + 1) (i - (start + 1))).all fun j ↦
    match x.assigned[j]?, rules[j]? with
    | some other, some (_, e) => other == slot || !e.meets d
    | _, _ => false

def join? (rules : List (String × Declarations)) (x : Indexed) (i : Nat) (d : Declarations) :
    Option Nat :=
  (x.newest.lookup d.sorted).filter fun slot ↦ x.reaches rules i slot d

def step (rules : List (String × Declarations)) (x : Indexed)
    (rule : (String × Declarations) × Nat) : Indexed :=
  match x.join? rules rule.2 rule.1.2 with
  | some slot =>
    { x with
      groups := x.groups.modify slot fun g ↦ { g with selectors := g.selectors ++ [rule.1.1] }
      assigned := x.assigned ++ [slot] }
  | none =>
    { groups := x.groups ++ [⟨[rule.1.1], rule.1.2⟩]
      starts := x.starts ++ [rule.2]
      assigned := x.assigned ++ [x.groups.length]
      newest := (rule.1.2.sorted, x.groups.length) :: x.newest }

end Indexed

end Group

namespace Layer

def indexedAt (l : Layer) (i : Nat) : Group.Indexed :=
  (l.toList.take i).zipIdx.foldl (Group.Indexed.step l.toList) {}

def grouped (l : Layer) : List Group :=
  (l.toList.zipIdx.foldl (Group.Indexed.step l.toList) {}).groups

end Layer

end LayoutSheet
