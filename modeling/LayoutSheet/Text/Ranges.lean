import LayoutSheet.Text.Hexadecimal

namespace LayoutSheet.Text

abbrev Ranges := List (Nat × Nat)

namespace Ranges

def holds (r : Ranges) (c : Char) : Bool := r.any fun (a, b) ↦ a ≤ c.toNat && c.toNat ≤ b

def ofWord? (word : String) : Option (Nat × Nat) :=
  match word.splitOn "-" with
  | [""] => none
  | [one] => some (hexNumber one.toList, hexNumber one.toList)
  | [first, last] => some (hexNumber first.toList, hexNumber last.toList)
  | _ => none

/-- Ranges in words, on one line or more. -/
def read (s : String) : Ranges := ((s.splitOn "\n").flatMap (·.splitOn " ")).filterMap ofWord?

end Ranges

end LayoutSheet.Text
