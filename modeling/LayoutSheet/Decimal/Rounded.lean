namespace LayoutSheet.Decimal

/-- The whole number nearest to `num / den`; of two, the even one. -/
def roundDiv (num den : Nat) : Nat :=
  let q := num / den
  let twice := 2 * (num % den)
  if twice < den then q
  else if den < twice then q + 1
  else if q % 2 = 0 then q
  else q + 1

theorem roundDiv_near {num den : Nat} (h : 0 < den) :
    2 * (roundDiv num den * den) ≤ 2 * num + den ∧
      2 * num ≤ 2 * (roundDiv num den * den) + den := by
  have hd := Nat.div_add_mod num den
  have hm := Nat.mod_lt num h
  have hs : (num / den + 1) * den = den * (num / den) + den := by
    rw [Nat.add_mul, Nat.one_mul, Nat.mul_comm]
  have hc : num / den * den = den * (num / den) := Nat.mul_comm _ _
  unfold roundDiv
  dsimp only
  split
  · omega
  · split
    · rw [hs]; omega
    · split
      · omega
      · rw [hs]; omega

def padLeft (width : Nat) (s : String) : String :=
  String.ofList (List.replicate (width - s.length) '0') ++ s

def fixed (places num den : Nat) : String :=
  let q := roundDiv (num * Nat.pow 10 places) den
  toString (q / Nat.pow 10 places) ++ "." ++ padLeft places (toString (q % Nat.pow 10 places))

def kilobytes (bytes : Nat) : String := fixed 2 bytes 1024

end LayoutSheet.Decimal
