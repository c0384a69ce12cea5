import LayoutSheet.Pattern.Expr

namespace LayoutSheet.Pattern

open Text (Category Script)

def stateWeight : Nat := 32

/-- The room for a range of characters beyond ASCII, on the average. -/
def rangeWeight : Nat := 65

namespace Property

def rangeCount : Property → Nat
  | any => 10
  | ascii => 1
  | assigned => 735
  | unassigned => 735
  | other => 735
  | blank => 10
  | digit => 72
  | word => 775
  | alphabetic => 761
  | lowercase => 677
  | uppercase => 660
  | categories ks => (ks.flatMap fun k ↦ (Category.table.lookup k).getD []).length
  | script name => ((Script.ofName? name).map (·.characters.length)).getD 0

end Property

namespace CharSet

def weight : CharSet → Nat
  | ranges r =>
    if r.all fun (_, b) ↦ b < 0x80 then stateWeight + 8 * r.length else 2 * rangeWeight * r.length
  | property p => rangeWeight * p.rangeCount
  | union s t => s.weight + t.weight
  | intersection s t => s.weight + t.weight
  | complement s => 15 * rangeWeight + s.weight
  | caseless _ s => 2 * rangeWeight + s.weight

def isAsciiChar : CharSet → Bool
  | ranges [(a, b)] => a == b && b < 0x80
  | _ => false

end CharSet

namespace Expr

def isSpaceless : Expr → Bool
  | set _ => false
  | empty => true
  | look _ => true
  | seq a b => a.isSpaceless && b.isSpaceless
  | alt a b => a.isSpaceless && b.isSpaceless
  | rep a _ most => most == some 0 || a.isSpaceless

/-- Bytes of room: a repetition takes what it repeats once for each time. -/
def weight : Expr → Nat
  | empty => stateWeight
  | set s => if s.isAsciiChar then stateWeight else s.weight
  | look _ => stateWeight
  | seq a b => a.weight + b.weight
  | alt a b => stateWeight + a.weight + b.weight
  | rep a least most =>
    if a.isSpaceless then 3 * stateWeight + a.weight
    else match most with
      | none => max least 1 * a.weight + 2 * stateWeight
      | some m => least * a.weight + stateWeight + (m - least) * (a.weight + stateWeight + 8)

end Expr

def maxWeight : Nat := 10485760

def overweightMessage : String :=
  "Compiled regex exceeds size limit of " ++ toString maxWeight ++ " bytes."

end LayoutSheet.Pattern
