namespace LayoutSheet.Text

def hexValue? (c : Char) : Option Nat :=
  if c.isDigit then some (c.toNat - '0'.toNat)
  else if 'a' ≤ c ∧ c ≤ 'f' then some (c.toNat - 'a'.toNat + 10)
  else if 'A' ≤ c ∧ c ≤ 'F' then some (c.toNat - 'A'.toNat + 10)
  else none

/-- The number that digits write; what is no digit counts for nothing. -/
def hexNumber (cs : List Char) : Nat :=
  (cs.filterMap hexValue?).foldl (fun n d ↦ 16 * n + d) 0

end LayoutSheet.Text
