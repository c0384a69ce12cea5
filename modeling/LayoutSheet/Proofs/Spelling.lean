import LayoutSheet.Json.Quoted
import Mathlib.Data.List.Basic

namespace LayoutSheet.Json

namespace Quoted

open Text (hexValue?)

def IsHexDigit (d : Nat) (c : Char) : Prop :=
  d < 16 ∧ (c = Nat.digitChar d ∨ c = (Nat.digitChar d).toUpper)

instance (d : Nat) (c : Char) : Decidable (IsHexDigit d c) := inferInstanceAs (Decidable (_ ∧ _))

inductive Hex : Nat → List Char → Prop
  | digits {n : Nat} {a b c d : Char} :
    IsHexDigit (n / 4096) a → IsHexDigit (n / 256 % 16) b → IsHexDigit (n / 16 % 16) c →
      IsHexDigit (n % 16) d → Hex n [a, b, c, d]

inductive Escaped : Char → List Char → Prop
  | letter {c e : Char} : simpleEscape? e = some c → Escaped c [e]
  | unit {c : Char} {ds : List Char} : Hex c.toNat ds → Escaped c ('u' :: ds)
  /-- A character beyond the first 2 ^ 16, as two surrogates. -/
  | pair {c : Char} {hs ls : List Char} : 0x10000 ≤ c.toNat →
    Hex (0xD800 + (c.toNat - 0x10000) / 0x400) hs → Hex (0xDC00 + (c.toNat - 0x10000) % 0x400) ls →
      Escaped c ('u' :: (hs ++ '\\' :: 'u' :: ls))

inductive CharSpelling : Char → List Char → Prop
  | plain {c : Char} : c ≠ '"' → c ≠ '\\' → 0x20 ≤ c.toNat → CharSpelling c [c]
  | escaped {c : Char} {u : List Char} : Escaped c u → CharSpelling c ('\\' :: u)

inductive Spelling : List Char → List Char → Prop
  | nil : Spelling [] []
  | cons {c : Char} {s u cs : List Char} :
    CharSpelling c u → Spelling s cs → Spelling (c :: s) (u ++ cs)

theorem hexValue?_eq_some {d : Nat} {c : Char} (h : IsHexDigit d c) : hexValue? c = some d := by
  obtain ⟨hd, hc⟩ := h
  have hall : ∀ d < 16, hexValue? (Nat.digitChar d) = some d ∧
      hexValue? (Nat.digitChar d).toUpper = some d := by decide
  rcases hc with rfl | rfl
  · exact (hall d hd).1
  · exact (hall d hd).2

theorem hex4_append {n : Nat} {ds : List Char} (h : Hex n ds) (r : List Char) :
    hex4 (ds ++ r) = .ok (n, r) := by
  obtain ⟨ha, hb, hc, hd⟩ := h
  have hn : n / 4096 < 16 := ha.1
  have hsum : ((n / 4096 * 16 + n / 256 % 16) * 16 + n / 16 % 16) * 16 + n % 16 = n := by omega
  simp only [hex4, List.cons_append, List.nil_append, hexValue?_eq_some ha, hexValue?_eq_some hb,
    hexValue?_eq_some hc, hexValue?_eq_some hd, hsum]

theorem not_surrogate (c : Char) :
    isLowSurrogate c.toNat = false ∧ isHighSurrogate c.toNat = false := by
  have hv := c.valid
  have hc : c.toNat = c.val.toNat := rfl
  simp only [isLowSurrogate, isHighSurrogate, Bool.and_eq_false_iff, decide_eq_false_iff_not]
  rcases hv with hv | hv <;> omega

theorem unicode_unit {c : Char} {ds : List Char} (h : Hex c.toNat ds) (r : List Char) :
    unicode (ds ++ r) = .ok (c, r) := by
  obtain ⟨hl, hh⟩ := not_surrogate c
  simp only [unicode, hex4_append h, hl, hh, Bool.false_eq_true, if_false, Char.ofNat_toNat]

theorem toNat_lt_max (c : Char) : c.toNat < 0x110000 := by
  have hv := c.valid
  have hc : c.toNat = c.val.toNat := rfl
  rcases hv with hv | hv <;> omega

theorem unicode_pair {c : Char} {hs ls : List Char} (hc : 0x10000 ≤ c.toNat)
    (hh : Hex (0xD800 + (c.toNat - 0x10000) / 0x400) hs)
    (hl : Hex (0xDC00 + (c.toNat - 0x10000) % 0x400) ls) (r : List Char) :
    unicode (hs ++ '\\' :: 'u' :: (ls ++ r)) = .ok (c, r) := by
  have hmax := toNat_lt_max c
  have hlow : isLowSurrogate (0xDC00 + (c.toNat - 0x10000) % 0x400) = true := by
    simp only [isLowSurrogate, Bool.and_eq_true, decide_eq_true_eq]
    omega
  have hnot : isLowSurrogate (0xD800 + (c.toNat - 0x10000) / 0x400) = false := by
    simp only [isLowSurrogate, Bool.and_eq_false_iff, decide_eq_false_iff_not]
    omega
  have hhigh : isHighSurrogate (0xD800 + (c.toNat - 0x10000) / 0x400) = true := by
    simp only [isHighSurrogate, Bool.and_eq_true, decide_eq_true_eq]
    omega
  have hsum : 0x10000 + (0xD800 + (c.toNat - 0x10000) / 0x400 - 0xD800) * 0x400 +
      (0xDC00 + (c.toNat - 0x10000) % 0x400 - 0xDC00) = c.toNat := by omega
  have hhalf : lowHalf ('\\' :: 'u' :: (ls ++ r)) =
      .ok (0xDC00 + (c.toNat - 0x10000) % 0x400, r) := by
    rw [lowHalf, hex4_append hl]
    simp only [hlow, if_true]
  simp only [unicode, hex4_append hh, hnot, hhigh, hhalf, hsum, Bool.false_eq_true, if_false,
    if_true, Char.ofNat_toNat]

theorem escape_append {c : Char} {u : List Char} (h : Escaped c u) (r : List Char) :
    escape (u ++ r) = .ok (c, r) := by
  cases h with
  | @letter e he =>
    rw [List.singleton_append]
    unfold escape
    split
    · next h => cases h
    · next h => cases h; cases he
    · next h => cases h; simp only [he]
  | unit hd => exact unicode_unit hd r
  | @pair hs ls hc hh hl =>
    rw [List.cons_append, List.append_assoc]
    exact unicode_pair hc hh hl r

theorem text_backslash {c : Char} {r s : List Char} (h : escape r = .ok (c, s)) :
    text ('\\' :: r) = (text s).map fun p ↦ (c :: p.1, p.2) := by
  have hb : ¬ '\\' = '"' := by decide
  rw [text, if_neg hb, if_pos rfl]
  split
  · next h' => cases h.symm.trans h'
  · next h' => cases h.symm.trans h'; rfl

theorem skim_backslash {r s : List Char} (h : skimEscape r = .ok s) :
    skim ('\\' :: r) = skim s := by
  have hb : ¬ '\\' = '"' := by decide
  rw [skim, if_neg hb, if_pos rfl]
  split
  · next h' => cases h.symm.trans h'
  · next h' => cases h.symm.trans h'; rfl

theorem skimEscape_unit {n : Nat} {ds : List Char} (h : Hex n ds) (r : List Char) :
    skimEscape ('u' :: (ds ++ r)) = .ok r := by
  rw [skimEscape, hex4_append h]
  rfl

theorem text_charSpelling {c : Char} {u : List Char} (h : CharSpelling c u) (r : List Char) :
    text (u ++ r) = (text r).map fun p ↦ (c :: p.1, p.2) := by
  cases h with
  | plain hq hb hc =>
    rw [List.singleton_append, text, if_neg hq, if_neg hb, if_neg (Nat.not_lt.2 hc)]
  | escaped hu => exact text_backslash (escape_append hu r)

theorem text_spelling {s cs : List Char} (h : Spelling s cs) (r : List Char) :
    text (cs ++ '"' :: r) = .ok (s, r) := by
  induction h with
  | nil => rw [List.nil_append, text, if_pos rfl]
  | cons hu _ ih =>
    rw [List.append_assoc, text_charSpelling hu, ih]
    rfl

theorem spelling_self {s : List Char} (h : ∀ c ∈ s, c ≠ '"' ∧ c ≠ '\\' ∧ 0x20 ≤ c.toNat) :
    Spelling s s := by
  induction s with
  | nil => exact .nil
  | cons c s ih =>
    obtain ⟨⟨hq, hb, hc⟩, hs⟩ := List.forall_mem_cons.1 h
    exact .cons (.plain hq hb hc) (ih hs)

theorem exists_hex {n : Nat} (h : n < 0x10000) : ∃ ds, Hex n ds :=
  ⟨_, .digits ⟨by omega, .inl rfl⟩ ⟨by omega, .inl rfl⟩ ⟨by omega, .inl rfl⟩ ⟨by omega, .inl rfl⟩⟩

theorem exists_charSpelling (c : Char) : ∃ u, CharSpelling c u := by
  by_cases hq : c = '"'
  · subst hq
    exact ⟨_, .escaped (@Escaped.letter '"' '"' rfl)⟩
  by_cases hb : c = '\\'
  · subst hb
    exact ⟨_, .escaped (@Escaped.letter '\\' '\\' rfl)⟩
  by_cases hc : 0x20 ≤ c.toNat
  · exact ⟨_, .plain hq hb hc⟩
  · obtain ⟨ds, hd⟩ := exists_hex (n := c.toNat) (by omega)
    exact ⟨_, .escaped (.unit hd)⟩

theorem exists_spelling (s : List Char) : ∃ cs, Spelling s cs := by
  induction s with
  | nil => exact ⟨_, .nil⟩
  | cons c s ih =>
    obtain ⟨u, hu⟩ := exists_charSpelling c
    obtain ⟨cs, hs⟩ := ih
    exact ⟨_, .cons hu hs⟩

inductive Literal : List Char → Prop
  | nil : Literal []
  | plain {c : Char} {cs : List Char} :
    c ≠ '"' → c ≠ '\\' → 0x20 ≤ c.toNat → Literal cs → Literal (c :: cs)
  | letter {c e : Char} {cs : List Char} :
    simpleEscape? e = some c → Literal cs → Literal ('\\' :: e :: cs)
  /-- Any four digits, those of half a surrogate pair too. -/
  | unit {n : Nat} {ds cs : List Char} :
    Hex n ds → Literal cs → Literal ('\\' :: 'u' :: (ds ++ cs))

def decode (lit : List Char) : Except Fault String :=
  (text (lit ++ ['"'])).map fun p ↦ String.ofList p.1

theorem skimEscape_letter {c e : Char} (h : simpleEscape? e = some c) (r : List Char) :
    skimEscape (e :: r) = .ok r := by
  unfold skimEscape
  split
  · next h' => cases h'
  · next h' => cases h'; cases h
  · next h' => cases h'; simp only [h, Option.isSome_some, if_true]

theorem skim_literal {lit : List Char} (h : Literal lit) (r : List Char) :
    skim (lit ++ '"' :: r) = .ok r := by
  induction h with
  | nil => rw [List.nil_append, skim, if_pos rfl]
  | plain hq hb hc _ ih =>
    rw [List.cons_append, skim, if_neg hq, if_neg hb, if_neg (Nat.not_lt.2 hc), ih]
  | letter he _ ih =>
    rw [List.cons_append, List.cons_append, skim_backslash (skimEscape_letter he _), ih]
  | unit hd _ ih =>
    rw [List.cons_append, List.cons_append, List.append_assoc,
      skim_backslash (skimEscape_unit hd _), ih]

theorem toNat_lt_of_hexValue? {d : Nat} {c : Char} (h : hexValue? c = some d) : c.toNat < 128 := by
  have hle {a : Char} (hc : c ≤ a) : c.toNat ≤ a.toNat := hc
  unfold hexValue? at h
  split at h
  · next hc =>
    simp only [Char.isDigit, Bool.and_eq_true, decide_eq_true_eq] at hc
    exact Nat.lt_of_le_of_lt (hle hc.2) (by decide)
  · split at h
    · next hc => exact Nat.lt_of_le_of_lt (hle hc.2) (by decide)
    · split at h
      · next hc => exact Nat.lt_of_le_of_lt (hle hc.2) (by decide)
      · cases h

theorem isHexDigit_of_hexValue? {d : Nat} {c : Char} (h : hexValue? c = some d) :
    IsHexDigit d c := by
  have hall : ∀ n < 128, ∀ d ∈ hexValue? (Char.ofNat n), IsHexDigit d (Char.ofNat n) := by decide
  have hc := hall c.toNat (toNat_lt_of_hexValue? h) d
  rw [Char.ofNat_toNat] at hc
  exact hc h

theorem hex_of_hex4 {cs r : List Char} {n : Nat} (h : hex4 cs = .ok (n, r)) :
    ∃ ds, Hex n ds ∧ cs = ds ++ r := by
  unfold hex4 at h
  split at h
  · next a b c d r' =>
    split at h
    · next a' b' c' d' ha hb hc hd =>
      obtain ⟨rfl, rfl⟩ := Prod.mk.inj (Except.ok.inj h)
      have ha := isHexDigit_of_hexValue? ha
      have hb := isHexDigit_of_hexValue? hb
      have hc := isHexDigit_of_hexValue? hc
      have hd := isHexDigit_of_hexValue? hd
      have hlt : a' < 16 ∧ b' < 16 ∧ c' < 16 ∧ d' < 16 := ⟨ha.1, hb.1, hc.1, hd.1⟩
      have ea : (((a' * 16 + b') * 16 + c') * 16 + d') / 4096 = a' := by omega
      have eb : (((a' * 16 + b') * 16 + c') * 16 + d') / 256 % 16 = b' := by omega
      have ec : (((a' * 16 + b') * 16 + c') * 16 + d') / 16 % 16 = c' := by omega
      have ed : (((a' * 16 + b') * 16 + c') * 16 + d') % 16 = d' := by omega
      exact ⟨[a, b, c, d], .digits (by rwa [ea]) (by rwa [eb]) (by rwa [ec]) (by rwa [ed]), rfl⟩
    · cases h
  · split at h <;> cases h

theorem literal_of_skimEscape {cs s : List Char} (h : skimEscape cs = .ok s) :
    ∃ u, cs = u ++ s ∧ ∀ lit, Literal lit → Literal ('\\' :: (u ++ lit)) := by
  unfold skimEscape at h
  split at h
  · cases h
  · next r =>
    cases hx : hex4 r with
    | error e => rw [hx] at h; cases h
    | ok p =>
      rw [hx] at h
      cases h
      obtain ⟨ds, hd, rfl⟩ := hex_of_hex4 hx
      exact ⟨'u' :: ds, rfl, fun lit hl ↦ .unit hd hl⟩
  · next c r hu =>
    split at h
    · next hc =>
      cases h
      obtain ⟨d, hd⟩ := Option.isSome_iff_exists.1 hc
      exact ⟨[c], rfl, fun lit hl ↦ .letter hd hl⟩
    · cases h

theorem literal_of_skim {cs r : List Char} (h : skim cs = .ok r) :
    ∃ lit, Literal lit ∧ cs = lit ++ '"' :: r := by
  fun_induction skim cs with
  | case1 => cases h
  | case2 => cases h; exact ⟨[], .nil, rfl⟩
  | case3 => cases h
  | case4 r' s hs _ ih =>
    obtain ⟨lit, hl, rfl⟩ := ih h
    obtain ⟨u, rfl, hu⟩ := literal_of_skimEscape hs
    exact ⟨_, hu lit hl, by simp⟩
  | case5 => cases h
  | case6 c r' hq hb hc ih =>
    obtain ⟨lit, hl, rfl⟩ := ih h
    exact ⟨c :: lit, .plain hq hb (Nat.not_lt.1 hc) hl, rfl⟩

theorem text_error {r : List Char} {f : Fault} (h : escape r = .error f) :
    text ('\\' :: r) = .error f := by
  have hb : ¬ '\\' = '"' := by decide
  rw [text, if_neg hb, if_pos rfl]
  split
  · next h' => cases h.symm.trans h'; rfl
  · next h' => cases h.symm.trans h'

theorem lowHalf_broken {cs : List Char} (hn : cs ≠ []) (hb : cs ≠ ['\\'])
    (hu : ∀ s, cs ≠ '\\' :: 'u' :: s) : lowHalf cs = .error .brokenSurrogatePair := by
  unfold lowHalf
  split
  · exact absurd rfl hn
  · exact absurd rfl hb
  · exact absurd rfl (hu _)
  · rfl

theorem Hex.lt {n : Nat} {ds : List Char} (h : Hex n ds) : n < 0x10000 := by
  obtain ⟨ha, -, -, -⟩ := h
  have hn : n / 4096 < 16 := ha.1
  omega

theorem isValidChar_of_not_surrogate {n : Nat} (hn : n < 0x10000)
    (hl : isLowSurrogate n = false) (hh : isHighSurrogate n = false) : n.isValidChar := by
  simp only [isLowSurrogate, isHighSurrogate, Bool.and_eq_false_iff, decide_eq_false_iff_not]
    at hl hh
  simp only [Nat.isValidChar]
  omega

theorem toNat_ofNat {n : Nat} (h : n.isValidChar) : (Char.ofNat n).toNat = n := by
  rw [Char.ofNat, dif_pos h]
  rfl

theorem surrogate_pair {n m : Nat} (hn : isHighSurrogate n = true) (hm : isLowSurrogate m = true) :
    ∃ c : Char, 0x10000 ≤ c.toNat ∧ 0xD800 + (c.toNat - 0x10000) / 0x400 = n ∧
      0xDC00 + (c.toNat - 0x10000) % 0x400 = m := by
  simp only [isLowSurrogate, isHighSurrogate, Bool.and_eq_true, decide_eq_true_eq] at hn hm
  have hc : (Char.ofNat (0x10000 + (n - 0xD800) * 0x400 + (m - 0xDC00))).toNat =
      0x10000 + (n - 0xD800) * 0x400 + (m - 0xDC00) := by
    apply toNat_ofNat
    simp only [Nat.isValidChar]
    omega
  refine ⟨.ofNat (0x10000 + (n - 0xD800) * 0x400 + (m - 0xDC00)), ?_, ?_, ?_⟩
  all_goals
    rw [hc]
    omega

theorem Literal.lowHalf {cs : List Char} (h : Literal cs) :
    (∃ n ds s, Hex n ds ∧ isLowSurrogate n = true ∧ Literal s ∧ cs = '\\' :: 'u' :: (ds ++ s)) ∨
      ∃ f, ∀ r, lowHalf (cs ++ '"' :: r) = .error f := by
  cases h with
  | nil => exact .inr ⟨_, fun r ↦ lowHalf_broken (by simp) (by simp) (by simp)⟩
  | plain _ hb _ _ => exact .inr ⟨_, fun r ↦ lowHalf_broken (by simp) (by simp) (by simp [hb])⟩
  | @letter c e cs he _ =>
    refine .inr ⟨_, fun r ↦ lowHalf_broken (by simp) (by simp) ?_⟩
    intro s hs
    obtain rfl : e = 'u' := (List.cons.inj (List.cons.inj hs).2).1
    cases he
  | @unit n ds cs hd hs =>
    cases hl : isLowSurrogate n with
    | true => exact .inl ⟨n, ds, cs, hd, hl, hs, rfl⟩
    | false =>
      refine .inr ⟨.loneSurrogate, fun r ↦ ?_⟩
      rw [List.cons_append, List.cons_append, List.append_assoc, Quoted.lowHalf, hex4_append hd]
      simp only [hl, Bool.false_eq_true, if_false]

theorem Literal.escape {cs : List Char} (h : Literal ('\\' :: cs)) :
    (∃ c u s, Escaped c u ∧ Literal s ∧ cs = u ++ s) ∨
      ∃ f, ∀ r, escape (cs ++ '"' :: r) = .error f := by
  cases h with
  | plain _ hb _ _ => exact absurd rfl hb
  | @letter c e cs he hs => exact .inl ⟨c, [e], cs, .letter he, hs, rfl⟩
  | @unit n ds cs hd hs =>
    have hu (r : List Char) : Quoted.escape ('u' :: (ds ++ cs) ++ '"' :: r) =
        unicode (ds ++ (cs ++ '"' :: r)) := by
      rw [List.cons_append, List.append_assoc, Quoted.escape]
    cases hl : isLowSurrogate n with
    | true =>
      refine .inr ⟨.loneSurrogate, fun r ↦ ?_⟩
      rw [hu, unicode, hex4_append hd]
      simp only [hl, if_true]
    | false =>
      cases hh : isHighSurrogate n with
      | false =>
        have hc : (Char.ofNat n).toNat = n :=
          toNat_ofNat (isValidChar_of_not_surrogate hd.lt hl hh)
        exact .inl ⟨_, 'u' :: ds, cs, .unit (hc.symm ▸ hd), hs, rfl⟩
      | true =>
        obtain ⟨m, ds', s, hd', hl', hs', rfl⟩ | ⟨f, hf⟩ := hs.lowHalf
        · obtain ⟨c, hc, hhigh, hlow⟩ := surrogate_pair hh hl'
          refine .inl ⟨_, _, s, .pair hc (hhigh.symm ▸ hd) (hlow.symm ▸ hd'), hs', ?_⟩
          simp
        · refine .inr ⟨f, fun r ↦ ?_⟩
          rw [hu, unicode, hex4_append hd]
          simp only [hl, hh, hf, Bool.false_eq_true, if_false, if_true]

/-- A literal spells a text, or reading it meets a fault, whatever follows it. -/
theorem Literal.reads {lit : List Char} (h : Literal lit) :
    (∃ s, Spelling s lit) ∨ ∃ f, ∀ r, text (lit ++ '"' :: r) = .error f := by
  -- The halves of a surrogate pair are two steps of a literal, so the induction is on its length.
  induction hn : lit.length using Nat.strongRecOn generalizing lit with
  | ind n ih =>
    by_cases hb : ∃ cs, lit = '\\' :: cs
    · obtain ⟨cs, rfl⟩ := hb
      obtain ⟨c, u, s, hu, hs, rfl⟩ | ⟨f, hf⟩ := h.escape
      · have hlt : s.length < n := by
          rw [← hn, List.length_cons, List.length_append]
          omega
        obtain ⟨t, ht⟩ | ⟨f, hf⟩ := ih s.length hlt hs rfl
        · exact .inl ⟨c :: t, .cons (.escaped hu) ht⟩
        · refine .inr ⟨f, fun r ↦ ?_⟩
          rw [List.cons_append, List.append_assoc, text_backslash (escape_append hu _), hf]
          rfl
      · exact .inr ⟨f, fun r ↦ text_error (hf r)⟩
    · cases h with
      | nil => exact .inl ⟨[], .nil⟩
      | @plain c cs hq hbs hc hs =>
        have hlt : cs.length < n := hn ▸ Nat.lt_succ_self cs.length
        obtain ⟨t, ht⟩ | ⟨f, hf⟩ := ih cs.length hlt hs rfl
        · exact .inl ⟨c :: t, .cons (.plain hq hbs hc) ht⟩
        · refine .inr ⟨f, fun r ↦ ?_⟩
          rw [List.cons_append, text, if_neg hq, if_neg hbs, if_neg (Nat.not_lt.2 hc), hf]
          rfl
      | letter => exact absurd ⟨_, rfl⟩ hb
      | unit => exact absurd ⟨_, rfl⟩ hb

theorem Spelling.literal {s cs : List Char} (h : Spelling s cs) : Literal cs := by
  induction h with
  | nil => exact .nil
  | cons hu _ ih =>
    cases hu with
    | plain hq hb hc => exact .plain hq hb hc ih
    | escaped hu =>
      cases hu with
      | letter he => exact .letter he ih
      | unit hd => exact .unit hd ih
      | pair _ hh hl =>
        have hs := Literal.unit hh (.unit hl ih)
        simpa using hs

theorem decode_spelling {s lit : List Char} (h : Spelling s lit) :
    decode lit = .ok (String.ofList s) := by
  rw [decode, text_spelling h]
  rfl

/-- A literal says exactly what it spells. -/
theorem decode_eq_ok_iff {lit : List Char} (h : Literal lit) {s : String} :
    decode lit = .ok s ↔ Spelling s.toList lit := by
  constructor
  · intro hs
    obtain ⟨t, ht⟩ | ⟨f, hf⟩ := h.reads
    · rw [decode_spelling ht] at hs
      obtain rfl := Except.ok.inj hs
      rwa [String.toList_ofList]
    · rw [decode, hf] at hs
      cases hs
  · intro hs
    rw [decode_spelling hs, String.ofList_toList]

theorem text_literal {lit : List Char} (h : Literal lit) (r : List Char) :
    (text (lit ++ '"' :: r)).map (fun p ↦ String.ofList p.1) = decode lit := by
  obtain ⟨s, hs⟩ | ⟨f, hf⟩ := h.reads
  · rw [decode_spelling hs, text_spelling hs]
    rfl
  · rw [decode, hf, hf]

end Quoted

end LayoutSheet.Json
