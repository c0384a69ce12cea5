namespace LayoutSheet.Decimal

/-- A positive double, `significand * 2 ^ exponent`, and whether the double below it is only half
as far away as the one above. -/
structure Binary where
  significand : Nat
  exponent : Int
  isNarrowBelow : Bool
  deriving DecidableEq, Repr

namespace Binary

def span : Nat := 1 <<< 52

def ofBits (bits : Nat) : Binary :=
  let fraction : Nat := bits % span
  let biased : Nat := bits / span % 2048
  if biased = 0 then ⟨fraction, -1074, false⟩
  else ⟨span + fraction, biased - 1075, fraction = 0 && biased > 1⟩

/-- The value and the ends of the reals that round to it, in quarters of the last binary place. -/
def center (b : Binary) : Nat := 4 * b.significand

def lower (b : Binary) : Nat := 4 * b.significand - (if b.isNarrowBelow then 1 else 2)

def upper (b : Binary) : Nat := 4 * b.significand + 2

def quarters (b : Binary) (grid : Int) (x : Nat) : Nat :=
  x * Nat.pow 2 (b.exponent - 2).toNat * Nat.pow 10 (-grid).toNat

def steps (b : Binary) (grid : Int) (n : Nat) : Nat :=
  n * Nat.pow 2 (2 - b.exponent).toNat * Nat.pow 10 grid.toNat

/-- The ends belong to an even significand. -/
def holds (b : Binary) (grid : Int) (n : Nat) : Bool :=
  let p := b.steps grid n
  let low := b.quarters grid b.lower
  let high := b.quarters grid b.upper
  if b.significand % 2 = 0 then low ≤ p && p ≤ high else low < p && p < high

def point? (b : Binary) (grid : Int) : Option Nat :=
  let v := b.quarters grid b.center
  let below := v / b.steps grid 1
  match b.holds grid below, b.holds grid (below + 1) with
  | true, true =>
    let twice := 2 * v
    let middle := b.steps grid (2 * below + 1)
    if twice < middle ∨ (twice = middle ∧ below % 2 = 0) then some below else some (below + 1)
  | true, false => some below
  | false, true => some (below + 1)
  | false, false => none

def search (b : Binary) : Nat → Int → Nat × Int
  | 0, grid => (b.quarters grid b.center / b.steps grid 1, grid)
  | count + 1, grid =>
    match b.point? grid with
    | some n => (n, grid)
    | none => b.search count (grid - 1)

/-- A grid at least as coarse as the first digit. -/
def coarsest (b : Binary) : Int :=
  ((Nat.log2 b.significand : Int) + b.exponent + 1) * 30103 / 100000 + 1

/-- Of the decimal grids, from the coarsest on, the first that has a point among the reals which
round to the double; of two such points the nearer, of two equally near the even one. The digits
stand as a number beside the power of ten of the last one. -/
def shortest (b : Binary) : Nat × Int := b.search 20 b.coarsest

end Binary

/-- Digits with a point: positional with at least one digit behind the point while the first digit
stands no more than 16 places before it and no more than 4 zeros lie between; otherwise with an
exponent. -/
def layout (digits : List Char) (last : Int) : List Char :=
  let zeros (n : Int) := List.replicate n.toNat '0'
  let point := digits.length + last
  if 0 ≤ last ∧ point ≤ 16 then digits ++ zeros last ++ ['.', '0']
  else if 0 < point ∧ point ≤ 16 then digits.take point.toNat ++ '.' :: digits.drop point.toNat
  else if -5 < point ∧ point ≤ 0 then ['0', '.'] ++ zeros (-point) ++ digits
  else
    let behind := match digits.drop 1 with
      | [] => []
      | ds => '.' :: ds
    let sign := if point - 1 < 0 then '-' else '+'
    digits.take 1 ++ behind ++ 'e' :: sign :: (toString (point - 1).natAbs).toList

def ofFloat (x : Float) : String :=
  let bits := x.toBits.toNat
  let b := Binary.ofBits bits
  let magnitude :=
    if b.significand = 0 then ['0', '.', '0']
    else
      let (n, last) := b.shortest
      layout (toString n).toList last
  String.ofList (if UInt64.size / 2 ≤ bits then '-' :: magnitude else magnitude)

end LayoutSheet.Decimal
