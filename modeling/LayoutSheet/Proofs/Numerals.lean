import LayoutSheet.Json.Numeral
import Mathlib.Algebra.Group.Int.Defs
import Mathlib.Data.List.Basic
import Mathlib.Data.List.TakeWhile

namespace LayoutSheet.Json.Numeral

def Digits (ds : List Char) : Prop := ds ≠ [] ∧ ∀ c ∈ ds, c.isDigit = true

instance (ds : List Char) : Decidable (Digits ds) :=
  decidable_of_iff (ds ≠ [] ∧ ds.all Char.isDigit = true) (and_congr_right' List.all_eq_true)

/-- A zero alone, or digits that begin with none. -/
def Whole (ds : List Char) : Prop := ds = ['0'] ∨ Digits ds ∧ ds.head? ≠ some '0'

inductive Fraction : Option (List Char) → List Char → Prop
  | none : Fraction none []
  | digits {ds : List Char} : Digits ds → Fraction (some ds) ('.' :: ds)

inductive Exponent : Option (Bool × List Char) → List Char → Prop
  | none : Exponent none []
  | digits {e : Char} {ds : List Char} :
    e = 'e' ∨ e = 'E' → Digits ds → Exponent (some (false, ds)) (e :: ds)
  | plus {e : Char} {ds : List Char} :
    e = 'e' ∨ e = 'E' → Digits ds → Exponent (some (false, ds)) (e :: '+' :: ds)
  | minus {e : Char} {ds : List Char} :
    e = 'e' ∨ e = 'E' → Digits ds → Exponent (some (true, ds)) (e :: '-' :: ds)

inductive Spelling : Numeral → List Char → Prop
  | positive {w u v : List Char} {f : Option (List Char)} {e : Option (Bool × List Char)} :
    Whole w → Fraction f u → Exponent e v → Spelling ⟨false, w, f, e⟩ (w ++ (u ++ v))
  | negative {w u v : List Char} {f : Option (List Char)} {e : Option (Bool × List Char)} :
    Whole w → Fraction f u → Exponent e v → Spelling ⟨true, w, f, e⟩ ('-' :: (w ++ (u ++ v)))

theorem Whole.eq_cons {ds : List Char} (h : Whole ds) :
    ∃ c s, ds = c :: s ∧ c.isDigit = true := by
  rcases h with rfl | ⟨hd, -⟩
  · exact ⟨'0', [], rfl, rfl⟩
  · obtain ⟨c, s, rfl⟩ := List.exists_cons_of_ne_nil hd.1
    exact ⟨c, s, rfl, hd.2 c List.mem_cons_self⟩

def DigitsEndBefore (cs : List Char) : Prop := ∀ c ∈ cs.head?, c.isDigit = false

/-- A numeral does not go on into such a text. -/
def EndsBefore (cs : List Char) : Prop :=
  ∀ c ∈ cs.head?, c.isDigit = false ∧ c ≠ '.' ∧ c ≠ 'e' ∧ c ≠ 'E'

variable {ds r : List Char}

theorem EndsBefore.digits (h : EndsBefore r) : DigitsEndBefore r := fun c hc ↦ (h c hc).1

theorem takeWhile_append (hd : ∀ c ∈ ds, c.isDigit = true) (hr : DigitsEndBefore r) :
    (ds ++ r).takeWhile Char.isDigit = ds ∧ (ds ++ r).dropWhile Char.isDigit = r := by
  rw [List.takeWhile_append_of_pos hd, List.dropWhile_append_of_pos hd]
  cases r with
  | nil => exact ⟨List.append_nil ds, rfl⟩
  | cons c r =>
    have hc : ¬ c.isDigit = true := by simp [hr c rfl]
    rw [List.takeWhile_cons_of_neg hc, List.dropWhile_cons_of_neg hc]
    exact ⟨List.append_nil ds, rfl⟩

theorem digitRun_append (hd : Digits ds) (hr : DigitsEndBefore r) :
    digitRun (ds ++ r) = .ok (ds, r) := by
  obtain ⟨ht, hw⟩ := takeWhile_append hd.2 hr
  cases ds with
  | nil => exact absurd rfl hd.1
  | cons c ds => rw [digitRun, ht, hw]

theorem digits_of_digitRun {cs : List Char} (h : digitRun cs = .ok (ds, r)) :
    Digits ds ∧ cs = ds ++ r := by
  have happend := List.takeWhile_append_dropWhile (p := Char.isDigit) (l := cs)
  unfold digitRun at h
  split at h
  · cases h
  · cases h
  · next a b h₁ h₂ =>
    obtain ⟨rfl, rfl⟩ := Prod.mk.inj (Except.ok.inj h)
    refine ⟨⟨?_, fun c hc ↦ List.mem_takeWhile_imp hc⟩, happend.symm⟩
    intro hn
    cases hd : cs.dropWhile Char.isDigit with
    | nil => exact h₁ hn hd
    | cons x y => exact h₂ x y hn hd

theorem wholePart_append (h : Whole ds) (hr : DigitsEndBefore r) :
    wholePart (ds ++ r) = .ok (ds, r) := by
  rcases h with rfl | ⟨hd, hz⟩
  · have hh : r.head?.any Char.isDigit = false := by
      cases r with
      | nil => rfl
      | cons c r => exact hr c rfl
    rw [List.singleton_append, wholePart, hh]
    rfl
  · unfold wholePart
    split
    · next s hs =>
      refine absurd ?_ hz
      rw [← List.head?_append_of_ne_nil ds hd.1, hs]
      rfl
    · exact digitRun_append hd hr

theorem whole_of_wholePart {cs : List Char} (h : wholePart cs = .ok (ds, r)) :
    Whole ds ∧ cs = ds ++ r := by
  unfold wholePart at h
  split at h
  · split at h
    · cases h
    · obtain ⟨rfl, rfl⟩ := Prod.mk.inj (Except.ok.inj h)
      exact ⟨.inl rfl, rfl⟩
  · next hz =>
    obtain ⟨hd, rfl⟩ := digits_of_digitRun h
    refine ⟨.inr ⟨hd, ?_⟩, rfl⟩
    intro h0
    cases ds with
    | nil => cases h0
    | cons c ds =>
      obtain rfl : c = '0' := Option.some.inj h0
      exact hz (ds ++ r) rfl

theorem fractionPart_append {f : Option (List Char)} {u : List Char} (h : Fraction f u)
    (hr : DigitsEndBefore r) (hp : ∀ s, r ≠ '.' :: s) : fractionPart (u ++ r) = .ok (f, r) := by
  cases h with
  | none =>
    rw [List.nil_append]
    unfold fractionPart
    split
    · exact absurd rfl (hp _)
    · rfl
  | digits hd =>
    rw [List.cons_append, fractionPart, digitRun_append hd hr]
    rfl

theorem fraction_of_fractionPart {cs : List Char} {f : Option (List Char)}
    (h : fractionPart cs = .ok (f, r)) : ∃ u, Fraction f u ∧ cs = u ++ r := by
  unfold fractionPart at h
  split at h
  · next s =>
    cases hd : digitRun s with
    | error e => rw [hd] at h; cases h
    | ok p =>
      rw [hd] at h
      cases h
      obtain ⟨hp, rfl⟩ := digits_of_digitRun hd
      exact ⟨_, .digits hp, rfl⟩
  · cases h
    exact ⟨[], .none, rfl⟩

theorem signedRun_append (hd : Digits ds) (hr : DigitsEndBefore r) :
    signedRun (ds ++ r) = .ok ((false, ds), r) := by
  have hsign : ∀ c s, ds ++ r = c :: s → c.isDigit = true := by
    intro c s h
    cases ds with
    | nil => exact absurd rfl hd.1
    | cons d ds => exact (List.cons.inj h).1 ▸ hd.2 d List.mem_cons_self
  unfold signedRun
  split
  · next h => cases hsign _ _ h
  · next h => cases hsign _ _ h
  · rw [digitRun_append hd hr]
    rfl

theorem exponent_of_signedRun {c : Char} {cs : List Char} {e : Bool × List Char}
    (hc : c = 'e' ∨ c = 'E') (h : signedRun cs = .ok (e, r)) :
    ∃ v, Exponent (some e) (c :: v) ∧ cs = v ++ r := by
  have hrun {b : Bool} {s : List Char}
      (h : (digitRun s).map (fun p ↦ ((b, p.1), p.2)) = .ok (e, r)) :
      ∃ ds, e = (b, ds) ∧ Digits ds ∧ s = ds ++ r := by
    cases hd : digitRun s with
    | error e => rw [hd] at h; cases h
    | ok p =>
      rw [hd] at h
      cases h
      exact ⟨p.1, rfl, digits_of_digitRun hd⟩
  unfold signedRun at h
  split at h
  · obtain ⟨ds, rfl, hd, rfl⟩ := hrun h
    exact ⟨_, .minus hc hd, rfl⟩
  · obtain ⟨ds, rfl, hd, rfl⟩ := hrun h
    exact ⟨_, .plus hc hd, rfl⟩
  · obtain ⟨ds, rfl, hd, rfl⟩ := hrun h
    exact ⟨_, .digits hc hd, rfl⟩

theorem exponentPart_append {e : Option (Bool × List Char)} {v : List Char} (h : Exponent e v)
    (hr : EndsBefore r) : exponentPart (v ++ r) = .ok (e, r) := by
  cases h with
  | none =>
    cases r with
    | nil => rfl
    | cons c r => exact if_neg (not_or.2 (hr c rfl).2.2)
  | digits he hd =>
    rw [List.cons_append, exponentPart, if_pos he, signedRun_append hd hr.digits]
    rfl
  | plus he hd =>
    rw [List.cons_append, List.cons_append, exponentPart, if_pos he, signedRun,
      digitRun_append hd hr.digits]
    rfl
  | minus he hd =>
    rw [List.cons_append, List.cons_append, exponentPart, if_pos he, signedRun,
      digitRun_append hd hr.digits]
    rfl

theorem exponent_of_exponentPart {cs : List Char} {e : Option (Bool × List Char)}
    (h : exponentPart cs = .ok (e, r)) : ∃ v, Exponent e v ∧ cs = v ++ r := by
  unfold exponentPart at h
  split at h
  · next c s =>
    split at h
    · next hc =>
      cases hs : signedRun s with
      | error e => rw [hs] at h; cases h
      | ok p =>
        rw [hs] at h
        cases h
        obtain ⟨v, hv, rfl⟩ := exponent_of_signedRun hc hs
        exact ⟨_, hv, rfl⟩
    · cases h
      exact ⟨[], .none, rfl⟩
  · cases h
    exact ⟨[], .none, rfl⟩

theorem unsigned_append {b : Bool} {w u v : List Char} {f : Option (List Char)}
    {e : Option (Bool × List Char)} (hw : Whole w) (hf : Fraction f u) (he : Exponent e v)
    (hr : EndsBefore r) : unsigned b (w ++ (u ++ v) ++ r) = .ok (⟨b, w, f, e⟩, r) := by
  -- No part goes on into the next.
  have hv : DigitsEndBefore (v ++ r) ∧ ∀ s, v ++ r ≠ '.' :: s := by
    cases he with
    | none =>
      refine ⟨hr.digits, ?_⟩
      rintro s rfl
      exact (hr '.' rfl).2.1 rfl
    | digits hc | plus hc | minus hc =>
      rcases hc with rfl | rfl
      all_goals exact ⟨fun c hc ↦ Option.some.inj hc ▸ rfl, nofun⟩
  have hu : DigitsEndBefore (u ++ (v ++ r)) := by
    cases hf with
    | none => exact hv.1
    | digits => exact fun c hc ↦ Option.some.inj hc ▸ rfl
  rw [List.append_assoc, List.append_assoc]
  simp only [unsigned, wholePart_append hw hu, fractionPart_append hf hv.1 hv.2,
    exponentPart_append he hr, bind, Except.bind, pure, Except.pure]

/-- A numeral is read as it is spelled. -/
theorem read_append {n : Numeral} {cs : List Char} (h : Spelling n cs) (hr : EndsBefore r) :
    read (cs ++ r) = .ok (n, r) := by
  cases h with
  | @positive w u v f e hw hf he =>
    rw [← unsigned_append hw hf he hr]
    unfold read
    split
    · next s hs =>
      obtain ⟨c, t, rfl, hc⟩ := hw.eq_cons
      obtain rfl : c = '-' := (List.cons.inj hs).1
      cases hc
    · rfl
  | negative hw hf he =>
    rw [List.cons_append, read, unsigned_append hw hf he hr]

theorem parts_of_unsigned {b : Bool} {cs : List Char} {n : Numeral}
    (h : unsigned b cs = .ok (n, r)) : ∃ w u v f e, Whole w ∧ Fraction f u ∧ Exponent e v ∧
      n = ⟨b, w, f, e⟩ ∧ cs = w ++ (u ++ v) ++ r := by
  unfold unsigned at h
  cases hw : wholePart cs with
  | error e => rw [hw] at h; cases h
  | ok p =>
    obtain ⟨w, s⟩ := p
    cases hf : fractionPart s with
    | error e => simp only [hw, bind, Except.bind, hf] at h; cases h
    | ok p =>
      obtain ⟨f, t⟩ := p
      cases he : exponentPart t with
      | error e => simp only [hw, bind, Except.bind, hf, he] at h; cases h
      | ok p =>
        obtain ⟨e, t'⟩ := p
        simp only [hw, bind, Except.bind, hf, he, pure, Except.pure] at h
        cases h
        obtain ⟨hw', rfl⟩ := whole_of_wholePart hw
        obtain ⟨u, hf', rfl⟩ := fraction_of_fractionPart hf
        obtain ⟨v, he', rfl⟩ := exponent_of_exponentPart he
        exact ⟨w, u, v, f, e, hw', hf', he', rfl, by simp⟩

theorem spelling_of_read {cs : List Char} {n : Numeral} (h : read cs = .ok (n, r)) :
    ∃ u, Spelling n u ∧ cs = u ++ r := by
  unfold read at h
  split at h
  · obtain ⟨w, u, v, f, e, hw, hf, he, rfl, rfl⟩ := parts_of_unsigned h
    exact ⟨_, .negative hw hf he, rfl⟩
  · obtain ⟨w, u, v, f, e, hw, hf, he, rfl, rfl⟩ := parts_of_unsigned h
    exact ⟨_, .positive hw hf he, rfl⟩

theorem Spelling.eq_cons {n : Numeral} {cs : List Char} (h : Spelling n cs) :
    ∃ c s, cs = c :: s ∧ (c = '-' ∨ c.isDigit = true) := by
  cases h with
  | positive hw =>
    obtain ⟨c, s, rfl, hc⟩ := hw.eq_cons
    exact ⟨c, _, rfl, .inr hc⟩
  | negative hw => exact ⟨'-', _, rfl, .inl rfl⟩

def ofInt (n : Int) : Numeral where
  negative := n < 0
  whole := Nat.toDigits 10 n.natAbs
  fraction := none
  exponent := none

theorem isDigit_toDigits {m : Nat} {c : Char} (h : c ∈ Nat.toDigits 10 m) : c.isDigit = true :=
  Nat.isDigit_of_mem_toDigits (by decide) (by decide) h

theorem head?_toDigits (m : Nat) (h : 0 < m) : (Nat.toDigits 10 m).head? ≠ some '0' := by
  induction m using Nat.strongRecOn with
  | ind m ih =>
    by_cases hm : m < 10
    · rw [Nat.toDigits_of_lt_base hm, List.head?_cons, Ne, Option.some.injEq,
        Nat.digitChar_eq_zero]
      omega
    · have hq := ih (m / 10) (by omega) (by omega)
      rw [Nat.toDigits_of_base_le (by decide) (Nat.not_lt.1 hm),
        List.head?_append_of_ne_nil _ Nat.toDigits_ne_nil]
      exact hq

theorem toList_toString (n : Int) : (toString n).toList =
    (if n < 0 then ['-'] else []) ++ Nat.toDigits 10 n.natAbs := by
  rw [Int.toString_eq_repr, Int.repr_eq_if]
  by_cases h : 0 ≤ n
  · have hn : n.toNat = n.natAbs := by omega
    rw [if_pos h, if_neg (by omega), Nat.toList_repr, hn, List.nil_append]
  · have hn : (-n).toNat = n.natAbs := by omega
    rw [if_neg h, if_pos (by omega), String.toList_append, Nat.toList_repr, hn]
    rfl

theorem whole_toDigits (m : Nat) : Whole (Nat.toDigits 10 m) := by
  obtain rfl | hm := Nat.eq_zero_or_pos m
  · exact .inl (Nat.toDigits_zero 10)
  · exact .inr ⟨⟨Nat.toDigits_ne_nil, fun _ ↦ isDigit_toDigits⟩, head?_toDigits m hm⟩

theorem spelling_toString (n : Int) : Spelling (ofInt n) (toString n).toList := by
  have hw := whole_toDigits n.natAbs
  rw [toList_toString]
  by_cases h : n < 0
  · have hs := Spelling.negative hw .none .none
    simpa [ofInt, h] using hs
  · have hs := Spelling.positive hw .none .none
    simpa [ofInt, h] using hs

/-- A whole number of 64 bits, signed or not. -/
def Fits (n : Int) : Prop := -2 ^ 63 ≤ n ∧ n < 2 ^ 64

theorem natural_toDigits (m : Nat) : natural (Nat.toDigits 10 m) = m :=
  Nat.ofDigitChars_ten_toDigits

theorem value_ofInt {n : Int} (h : Fits n) : (ofInt n).value = .ok (.whole n) := by
  obtain ⟨hl, hu⟩ := h
  have hw : (ofInt n).whole? = some n := by
    simp only [whole?, ofInt, natural_toDigits, decide_eq_true_eq]
    by_cases hn : n < 0
    · have hs : 0 < n.natAbs ∧ n.natAbs ≤ UInt64.size / 2 := by
        refine ⟨by omega, ?_⟩
        change n.natAbs ≤ 2 ^ 63
        omega
      rw [if_pos hn, if_pos hs, Option.some.injEq]
      omega
    · have hs : n.natAbs < UInt64.size := by
        change n.natAbs < 2 ^ 64
        omega
      rw [if_neg hn, if_pos hs, Option.some.injEq]
      omega
  rw [value, hw]

end LayoutSheet.Json.Numeral
