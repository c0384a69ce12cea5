import LayoutSheet.Json.Decoder

namespace LayoutSheet.Json

structure Field (α : Type) where
  name : String
  isOptional : Bool
  read : Nat → Tree → α → Except Problem α

structure Record (α : Type) where
  title : String
  blank : α
  fields : List (Field α)

namespace Field

variable {α β : Type}

def optional (name : String) (d : Decoder β) (set : α → β → α) : Field α where
  name
  isOptional := true
  read depth t a := (d depth t).map (set a)

def required (name : String) (d : Decoder β) (set : α → β → α) : Field α where
  name
  isOptional := false
  read depth t a := (d depth t).map (set a)

end Field

namespace Record

variable {α : Type}

def field? (r : Record α) (name : String) : Option (Field α) :=
  r.fields.find? fun f ↦ f.name == name

/-- Reads members into `a`; `seen` are the fields already read. -/
def readMembers (r : Record α) (depth : Nat) :
    List Tree.Member → List String → α → Except Problem (List String × α)
  | [], seen, a => .ok (seen, a)
  | (key, v) :: ms, seen, a => do
    let key ← liftFault key
    match r.field? key with
    | none => do
      liftFault v.skim
      r.readMembers depth ms seen a
    | some f =>
      if key ∈ seen then .error (.duplicateField key)
      else do
        let a ← f.read depth v a
        r.readMembers depth ms (key :: seen) a

def missing? (r : Record α) (seen : List String) : Option String :=
  (r.fields.find? fun f ↦ !f.isOptional && !seen.contains f.name).map Field.name

def expected (r : Record α) : String := "struct " ++ r.title

def count (r : Record α) : String :=
  r.expected ++ " with " ++ toString r.fields.length ++ " elements"

/-- Reads items into `a`, field by field; `done` counts the fields already read. -/
def readItems (r : Record α) (depth : Nat) (stop : ListStop) :
    Nat → List (Field α) → List Tree → α → Except Problem α
  | _, [], [], a => do
    liftFault stop.checkLast
    return a
  | _, [], _ :: _, _ => .error (.fault .trailingCharacters)
  | done, f :: fs, [], a => do
    liftFault stop.check
    if f.isOptional then r.readItems depth stop (done + 1) fs [] a
    else .error (.wrongLength done r.count)
  | done, f :: fs, v :: vs, a => do
    let a ← f.read depth v a
    r.readItems depth stop (done + 1) fs vs a

/-- A record is an object, its fields in any order and unknown keys passed over, or a list of its
fields in the order of their declaration. -/
def decoder (r : Record α) : Decoder α := fun depth t ↦
  match t with
  | .object members stop => do
    let depth ← liftFault (Tree.enter depth)
    let (seen, a) ← r.readMembers depth members [] r.blank
    liftFault stop.check
    match r.missing? seen with
    | some name => .error (.missingField name)
    | none => .ok a
  | .list items stop => do
    let depth ← liftFault (Tree.enter depth)
    r.readItems depth stop 0 r.fields items r.blank
  | t => Decoder.mismatch r.expected t

end Record

end LayoutSheet.Json
