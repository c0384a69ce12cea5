import LayoutSheet.Json.Fault
import LayoutSheet.Json.Number

namespace LayoutSheet.Json

structure Numeral where
  negative : Bool
  whole : List Char
  fraction : Option (List Char)
  /-- The sign, true for minus, and the digits. -/
  exponent : Option (Bool × List Char)
  deriving DecidableEq, Repr

namespace Numeral

inductive Break where
  | ended
  | malformed
  deriving DecidableEq, Repr

def digitRun (cs : List Char) : Except Break (List Char × List Char) :=
  match cs.takeWhile Char.isDigit, cs.dropWhile Char.isDigit with
  | [], [] => .error .ended
  | [], _ :: _ => .error .malformed
  | ds, r => .ok (ds, r)

/-- The digits before the point: a zero alone, or a run that begins with no zero. -/
def wholePart : List Char → Except Break (List Char × List Char)
  | '0' :: r => if r.head?.any Char.isDigit then .error .malformed else .ok (['0'], r)
  | cs => digitRun cs

def fractionPart : List Char → Except Break (Option (List Char) × List Char)
  | '.' :: r => (digitRun r).map fun (ds, r) ↦ (some ds, r)
  | cs => .ok (none, cs)

def signedRun : List Char → Except Break ((Bool × List Char) × List Char)
  | '-' :: r => (digitRun r).map fun (ds, r) ↦ ((true, ds), r)
  | '+' :: r => (digitRun r).map fun (ds, r) ↦ ((false, ds), r)
  | r => (digitRun r).map fun (ds, r) ↦ ((false, ds), r)

def exponentPart : List Char → Except Break (Option (Bool × List Char) × List Char)
  | c :: r =>
    if c = 'e' ∨ c = 'E' then (signedRun r).map fun (e, r) ↦ (some e, r) else .ok (none, c :: r)
  | [] => .ok (none, [])

def unsigned (negative : Bool) (cs : List Char) : Except Break (Numeral × List Char) := do
  let (whole, cs) ← wholePart cs
  let (fraction, cs) ← fractionPart cs
  let (exponent, cs) ← exponentPart cs
  return ({ negative, whole, fraction, exponent }, cs)

def read : List Char → Except Break (Numeral × List Char)
  | '-' :: r => unsigned true r
  | cs => unsigned false cs

theorem digitRun_length_lt {cs ds r : List Char} (h : digitRun cs = .ok (ds, r)) :
    r.length < cs.length := by
  have ha := congrArg List.length (List.takeWhile_append_dropWhile (p := Char.isDigit) (l := cs))
  unfold digitRun at h
  split at h
  · simp at h
  · simp at h
  · next a b h₁ h₂ =>
    simp only [Except.ok.injEq, Prod.mk.injEq] at h
    obtain ⟨rfl, rfl⟩ := h
    have : (cs.takeWhile Char.isDigit).length ≠ 0 := by
      intro h₀
      have h₀ := List.length_eq_zero_iff.1 h₀
      cases hd : cs.dropWhile Char.isDigit with
      | nil => exact h₁ h₀ hd
      | cons x y => exact h₂ x y h₀ hd
    rw [List.length_append] at ha
    omega

theorem wholePart_length_lt {cs ds r : List Char} (h : wholePart cs = .ok (ds, r)) :
    r.length < cs.length := by
  unfold wholePart at h
  split at h
  · split at h
    · simp at h
    · simp only [Except.ok.injEq, Prod.mk.injEq] at h
      obtain ⟨-, rfl⟩ := h
      simp
  · exact digitRun_length_lt h

theorem map_digitRun_length_lt {α : Type} {f : List Char × List Char → α × List Char}
    {cs r : List Char} {a : α} (h : (digitRun cs).map f = .ok (a, r)) (hf : ∀ p, (f p).2 = p.2) :
    r.length < cs.length := by
  cases hx : digitRun cs with
  | error e => rw [hx] at h; cases h
  | ok p =>
    obtain ⟨ds, s⟩ := p
    rw [hx] at h
    have hp : f (ds, s) = (a, r) := Except.ok.inj h
    have hs := hf (ds, s)
    rw [hp] at hs
    cases hs
    exact digitRun_length_lt hx

theorem fractionPart_length_le {cs r : List Char} {f : Option (List Char)}
    (h : fractionPart cs = .ok (f, r)) : r.length ≤ cs.length := by
  unfold fractionPart at h
  split at h
  · have := map_digitRun_length_lt h fun _ ↦ rfl
    simp only [List.length_cons]
    omega
  · cases h
    exact Nat.le_refl _

theorem signedRun_length_le {cs r : List Char} {e : Bool × List Char}
    (h : signedRun cs = .ok (e, r)) : r.length ≤ cs.length := by
  unfold signedRun at h
  split at h
  · have := map_digitRun_length_lt h fun _ ↦ rfl
    simp only [List.length_cons]
    omega
  · have := map_digitRun_length_lt h fun _ ↦ rfl
    simp only [List.length_cons]
    omega
  · exact Nat.le_of_lt (map_digitRun_length_lt h fun _ ↦ rfl)

theorem exponentPart_length_le {cs r : List Char} {e : Option (Bool × List Char)}
    (h : exponentPart cs = .ok (e, r)) : r.length ≤ cs.length := by
  unfold exponentPart at h
  split at h
  · next c t =>
    split at h
    · cases hx : signedRun t with
      | error e => rw [hx] at h; cases h
      | ok p =>
        obtain ⟨e, s⟩ := p
        rw [hx] at h
        cases h
        have := signedRun_length_le hx
        simp only [List.length_cons]
        omega
    · cases h
      exact Nat.le_refl _
  · cases h
    exact Nat.le_refl _

theorem unsigned_length_lt {negative : Bool} {cs r : List Char} {n : Numeral}
    (h : unsigned negative cs = .ok (n, r)) : r.length < cs.length := by
  unfold unsigned at h
  cases hw : wholePart cs with
  | error e => rw [hw] at h; cases h
  | ok w =>
    obtain ⟨ds, s⟩ := w
    cases hf : fractionPart s with
    | error e => simp only [hw, bind, Except.bind, hf] at h; cases h
    | ok f =>
      obtain ⟨f, t⟩ := f
      cases he : exponentPart t with
      | error e => simp only [hw, bind, Except.bind, hf, he] at h; cases h
      | ok e =>
        obtain ⟨e, u⟩ := e
        simp only [hw, bind, Except.bind, hf, he, pure, Except.pure] at h
        cases h
        have h₁ := wholePart_length_lt hw
        have h₂ := fractionPart_length_le hf
        have h₃ := exponentPart_length_le he
        omega

theorem read_length_lt {cs r : List Char} {n : Numeral} (h : read cs = .ok (n, r)) :
    r.length < cs.length := by
  unfold read at h
  split at h
  · have := unsigned_length_lt h
    simp only [List.length_cons]
    omega
  · exact unsigned_length_lt h

def digitValue (c : Char) : Nat := c.toNat - '0'.toNat

/-- The digits appended to `s` while it stays below 2 ^ 64, and the digits left. -/
def absorb (s : Nat) : List Char → Nat × List Char
  | [] => (s, [])
  | c :: r =>
    if 10 * s + digitValue c < UInt64.size then absorb (10 * s + digitValue c) r else (s, c :: r)

def natural (digits : List Char) : Nat := digits.foldl (fun n c ↦ 10 * n + digitValue c) 0

def powerOfTen (n : Nat) : Float := Float.ofScientific 1 false n

/-- A power of ten divided out, in steps that a double can hold. -/
def scaleDown (f : Float) (e : Nat) : Float :=
  if e ≤ 308 then f / powerOfTen e
  else if f == 0 then f
  else scaleDown (f / powerOfTen 308) (e - 308)
termination_by e

def scale? (f : Float) : Int → Option Float
  | .ofNat e =>
    if e ≤ 308 then
      let g := f * powerOfTen e
      if g.isInf then none else some g
    else if f == 0 then some f
    else none
  | .negSucc e => some (scaleDown f (e + 1))

/-- The double of a significand below 2 ^ 64, a power of ten and a written exponent. A written
exponent of 2 ^ 31 or more leaves zero, or is out of range. -/
def double? (significand : Nat) (shift : Int) : Option (Bool × List Char) → Option Float
  | none => scale? significand.toUInt64.toFloat shift
  | some (negative, digits) =>
    let e := natural digits
    if UInt32.size / 2 ≤ e then if significand = 0 ∨ negative then some 0 else none
    else scale? significand.toUInt64.toFloat (if negative then shift - e else shift + e)

def real? (n : Numeral) : Option Float :=
  let (s, dropped) := absorb 0 n.whole
  let fraction := n.fraction.getD []
  let (t, skipped) := absorb s fraction
  let kept := fraction.length - skipped.length
  (double? t (dropped.length - kept : Int) n.exponent).map fun f ↦ if n.negative then -f else f

def whole? (n : Numeral) : Option Int :=
  match n.fraction, n.exponent with
  | none, none =>
    let s := natural n.whole
    if n.negative then if 0 < s ∧ s ≤ UInt64.size / 2 then some (-s) else none
    else if s < UInt64.size then some s
    else none
  | _, _ => none

def value (n : Numeral) : Except Fault Number :=
  match n.whole? with
  | some k => .ok (.whole k)
  | none =>
    match n.real? with
    | some x => .ok (.real x)
    | none => .error .numberOutOfRange

end Numeral

end LayoutSheet.Json
