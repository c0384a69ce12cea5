import LayoutSheet.KeyedList
import LayoutSheet.Json.Tree
import LayoutSheet.Json.Problem

namespace LayoutSheet.Json

/-- What a broken token means where a value has to begin and is read. -/
def Broken.fault : Broken → Fault
  | .word true => .endInValue
  | .word false => .expectedWord
  | .numeral .ended => .endInValue
  | .numeral .malformed => .invalidNumber
  | .string reading _ => reading
  | .stray => .expectedValue

/-- What it means where the value is passed over. -/
def Broken.skimFault : Broken → Fault
  | .numeral _ => .invalidNumber
  | .string _ skimming => skimming
  | b => b.fault

def Token.fault : Option Token → Fault
  | none => .endInValue
  | some (.broken b) => b.fault
  | some _ => .expectedValue

def Token.skimFault : Option Token → Fault
  | none => .endInValue
  | some (.broken b) => b.skimFault
  | some _ => .expectedValue

def Token.colonFault : Option Token → Fault
  | none => .endInObject
  | some _ => .expectedColon

namespace ListStop

def check : ListStop → Except Fault Unit
  | closed => .ok ()
  | cut => .error .endInList
  | stray => .error .expectedListEnd
  | danglingClose => .error .trailingComma
  | danglingCut => .error .endInValue

def skim : ListStop → Except Fault Unit
  | danglingClose => .error .expectedValue
  | stop => stop.check

def checkLast : ListStop → Except Fault Unit
  | stray => .error .trailingCharacters
  | danglingCut => .error .trailingCharacters
  | stop => stop.check

end ListStop

namespace ObjectStop

def check : ObjectStop → Except Fault Unit
  | closed => .ok ()
  | cut => .error .endInObject
  | stray => .error .expectedObjectEnd
  | danglingClose => .error .trailingComma
  | danglingCut => .error .endInValue
  | keyless (.broken (.string reading _)) => .error reading
  | keyless _ => .error .keyNotString

def skim : ObjectStop → Except Fault Unit
  | danglingClose => .error .keyNotString
  | danglingCut => .error .endInObject
  | keyless (.broken (.string _ skimming)) => .error skimming
  | stop => stop.check

end ObjectStop

namespace Tree

/-- The deepest nesting of a value that is used. -/
def maxDepth : Nat := 127

def enter (depth : Nat) : Except Fault Nat :=
  if depth < maxDepth then .ok (depth + 1) else .error .tooDeep

mutual

/-- A value passed over: only its grammar counts. -/
def skim : Tree → Except Fault Unit
  | word _ => .ok ()
  | numeral _ => .ok ()
  | string _ => .ok ()
  | list items stop => do
    skimItems items
    stop.skim
  | object members stop => do
    skimMembers members
    stop.skim
  | broken found => .error (Token.skimFault found)
  | unpaired found => .error (Token.colonFault found)

def skimItems : List Tree → Except Fault Unit
  | [] => .ok ()
  | v :: vs => do
    skim v
    skimItems vs

def skimMembers : List (Except Fault String × Tree) → Except Fault Unit
  | [] => .ok ()
  | (_, v) :: ms => do
    skim v
    skimMembers ms

end

mutual

def readable (depth : Nat) : Tree → Except Fault Unit
  | word _ => .ok ()
  | numeral n => n.value.map fun _ ↦ ()
  | string s => s.map fun _ ↦ ()
  | list items stop => do
    let depth ← enter depth
    readableItems depth items
    stop.check
  | object members stop => do
    let depth ← enter depth
    readableMembers depth members
    stop.check
  | broken found => .error (Token.fault found)
  | unpaired found => .error (Token.colonFault found)

def readableItems (depth : Nat) : List Tree → Except Fault Unit
  | [] => .ok ()
  | v :: vs => do
    readable depth v
    readableItems depth vs

def readableMembers (depth : Nat) : List (Except Fault String × Tree) → Except Fault Unit
  | [] => .ok ()
  | (key, v) :: ms => do
    discard key
    readable depth v
    readableMembers depth ms

end

def kind : Tree → Except Fault Kind
  | word .null => .ok .null
  | word .true => .ok (.boolean true)
  | word .false => .ok (.boolean false)
  | numeral n => n.value.map .number
  | string s => s.map .string
  | list _ _ => .ok .list
  | object _ _ => .ok .object
  | broken found => .error (Token.fault found)
  | unpaired found => .error (Token.colonFault found)

end Tree

def liftFault {α : Type} (r : Except Fault α) : Except Problem α := r.mapError .fault

/-- A decoder is told how many lists and objects it stands in. It walks a tree in the order of the
text and stops at the first problem. -/
abbrev Decoder (α : Type) := Nat → Tree → Except Problem α

namespace Decoder

variable {α : Type}

def mismatch (expected : String) (t : Tree) : Except Problem α :=
  match t.kind with
  | .error f => .error (.fault f)
  | .ok k => .error (.wrongKind k expected)

def string : Decoder String := fun _ t ↦
  match t with
  | .string (.ok s) => .ok s
  | t => mismatch "a string" t

def boolean : Decoder Bool := fun _ t ↦
  match t with
  | .word .true => .ok true
  | .word .false => .ok false
  | t => mismatch "a boolean" t

def unit : Decoder Unit := fun _ t ↦
  match t with
  | .word .null => .ok ()
  | t => mismatch "unit" t

def word32 : Decoder UInt32 := fun _ t ↦
  match t with
  | .numeral n => do
    match ← liftFault n.value with
    | .whole (.ofNat k) =>
      if k < UInt32.size then .ok (.ofNat k)
      else .error (.wrongValue (.number (.whole k)) "u32")
    | .whole k => .error (.wrongValue (.number (.whole k)) "u32")
    | .real x => .error (.wrongKind (.number (.real x)) "u32")
  | t => mismatch "u32" t

def optional (d : Decoder α) : Decoder (Option α) := fun depth t ↦
  match t with
  | .word .null => .ok none
  | t => (d depth t).map some

def list (d : Decoder α) : Decoder (List α) := fun depth t ↦
  match t with
  | .list items stop => do
    let depth ← liftFault (Tree.enter depth)
    let vs ← items.mapM (d depth)
    liftFault stop.check
    return vs
  | t => mismatch "a sequence" t

/-- The members of an object; a key that comes again replaces the value where it stands. -/
def keyed (d : Decoder α) : Decoder (KeyedList α) := fun depth t ↦
  match t with
  | .object members stop => do
    let depth ← liftFault (Tree.enter depth)
    let entries ← members.mapM fun (key, v) ↦ do
      let key ← liftFault key
      return (key, ← d depth v)
    liftFault stop.check
    return .ofList entries
  | t => mismatch "a map with string keys" t

/-- One of two words, alone or as the only key of an object, with null for its value. -/
def choice (first second : String × α) : Decoder α := fun depth t ↦
  let pick (s : String) : Except Problem α :=
    if s = first.1 then .ok first.2
    else if s = second.1 then .ok second.2
    else .error (.unknownChoice s first.1 second.1)
  match t with
  | .string s => do pick (← liftFault s)
  | .object members stop => do
    let depth ← liftFault (Tree.enter depth)
    match members with
    | [] => do
      match stop with
      | .closed => .error (.fault .expectedValue)
      | stop =>
        liftFault stop.check
        .error (.fault .keyNotString)
    | (key, v) :: rest => do
      let a ← pick (← liftFault key)
      unit depth v
      match rest, stop with
      | [], .closed => .ok a
      | [], .cut => .error (.fault .endInObject)
      | _, _ => .error (.fault .expectedValue)
  | .broken none => .error (.fault .endInValue)
  | .broken (some (.broken (.string reading _))) => .error (.fault reading)
  | .unpaired found => .error (.fault (Token.colonFault found))
  | _ => .error (.fault .expectedValue)

/-- One of several forms, chosen by a look at the whole value. -/
def form (name : String) (read : Tree → Option α) : Decoder α := fun depth t ↦ do
  liftFault (t.readable depth)
  match read t with
  | some a => .ok a
  | none => .error (.noForm name)

def run (d : Decoder α) (text : String) : Except Problem α := do
  let (t, rest) := Tree.ofTokens (Token.scan text.toList)
  let a ← d 0 t
  if rest.isEmpty then .ok a else .error (.fault .trailingCharacters)

end Decoder

namespace Tree

def string? : Tree → Option String
  | string (.ok s) => some s
  | _ => none

def strings? : Tree → Option (List String)
  | list items _ => items.mapM string?
  | _ => none

def number? : Tree → Option Number
  | numeral n => n.value.toOption
  | _ => none

def members? : Tree → Option (List (String × Tree))
  | object members _ => members.mapM fun (key, v) ↦ key.toOption.map (·, v)
  | _ => none

end Tree

end LayoutSheet.Json
