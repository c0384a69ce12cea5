import LayoutSheet.Json.Token
import LayoutSheet.Proofs.Numerals
import LayoutSheet.Proofs.Spelling
import Mathlib.Data.List.Chain

namespace LayoutSheet.Json.Token

inductive Lexeme : Token → List Char → Prop
  | mark {t : Token} {c : Char} : mark? c = some t → Lexeme t [c]
  | word (w : Word) : Lexeme (.word w) w.chars
  | numeral {n : Numeral} {cs : List Char} : n.Spelling cs → Lexeme (.numeral n) cs
  | string {lit : List Char} :
    Quoted.Literal lit → Lexeme (.string (Quoted.decode lit)) ('"' :: (lit ++ ['"']))

/-- A text that writes tokens, with blanks before, between and behind them. -/
inductive Written : List Token → List Char → Prop
  | done {b : List Char} : (∀ c ∈ b, isSpace c = true) → Written [] b
  | token {t : Token} {ts : List Token} {b u cs : List Char} :
    (∀ c ∈ b, isSpace c = true) → Lexeme t u → Written ts cs → Written (t :: ts) (b ++ (u ++ cs))

def IsNumeral : Token → Prop
  | .numeral _ => True
  | _ => False

def IsBroken : Token → Prop
  | .broken _ => True
  | _ => False

def Apart (ts : List Token) : Prop := ts.IsChain fun a b ↦ ¬ (a.IsNumeral ∧ b.IsNumeral)

theorem eq_append_of_behind {ws cs r : List Char} (h : behind ws cs = .ok r) : cs = ws ++ r := by
  fun_induction behind ws cs with
  | case1 => exact Except.ok.inj h
  | case2 => cases h
  | case3 w cs ws ih => rw [ih h, List.cons_append]
  | case4 => cases h

theorem string?_literal {lit : List Char} (h : Quoted.Literal lit) (r : List Char) :
    string? (lit ++ '"' :: r) = .ok (string (Quoted.decode lit), r) := by
  rw [string?, Quoted.skim_literal h, ← Quoted.text_literal h r]

theorem literal_of_string? {t : Token} {cs r : List Char} (h : string? cs = .ok (t, r)) :
    ∃ lit, Quoted.Literal lit ∧ t = string (Quoted.decode lit) ∧ cs = lit ++ '"' :: r := by
  cases hs : Quoted.skim cs with
  | error e =>
    rw [string?, hs] at h
    dsimp only at h
    split at h <;> cases h
  | ok s =>
    obtain ⟨lit, hl, rfl⟩ := Quoted.literal_of_skim hs
    rw [string?_literal hl] at h
    cases h
    exact ⟨lit, hl, rfl, rfl⟩

theorem next_of_numeral {c : Char} {cs r : List Char} {n : Numeral} (hc : c = '-' ∨ c.isDigit)
    (h : Numeral.read (c :: cs) = .ok (n, r)) :
    isSpace c = false ∧ next c cs = .ok (numeral n, r) := by
  have hm : mark? c = none := by
    unfold mark?
    split <;> first | exact absurd hc (by decide) | rfl
  have hw : word? c = none := by
    unfold word?
    split <;> first | exact absurd hc (by decide) | rfl
  have hs : isSpace c = false := by
    rw [Bool.eq_false_iff]
    intro hs
    simp only [isSpace, Bool.or_eq_true, beq_iff_eq] at hs
    rcases hs with ((rfl | rfl) | rfl) | rfl <;> exact absurd hc (by decide)
  have hq : c ≠ '"' := by
    rintro rfl
    exact absurd hc (by decide)
  refine ⟨hs, ?_⟩
  simp only [next, hm, hw, hq, hc, h, if_false, if_true]

theorem next_lexeme {t : Token} {u r : List Char} (h : Lexeme t u)
    (hr : t.IsNumeral → Numeral.EndsBefore r) :
    ∃ c v, u = c :: v ∧ isSpace c = false ∧ next c (v ++ r) = .ok (t, r) := by
  cases h with
  | @mark _ c h =>
    refine ⟨c, [], rfl, ?_, by rw [next, h]; rfl⟩
    unfold mark? at h
    split at h <;> first | rfl | cases h
  | word w => cases w <;> exact ⟨_, _, rfl, rfl, rfl⟩
  | numeral hn =>
    have hread := Numeral.read_append hn (hr trivial)
    obtain ⟨c, v, rfl, hc⟩ := hn.eq_cons
    exact ⟨c, v, rfl, next_of_numeral hc hread⟩
  | string hl =>
    refine ⟨'"', _, rfl, rfl, ?_⟩
    rw [List.append_assoc]
    exact string?_literal hl r

theorem lexeme_of_next {c : Char} {cs r : List Char} {t : Token} (h : next c cs = .ok (t, r)) :
    ∃ u, Lexeme t u ∧ c :: cs = u ++ r := by
  unfold next at h
  split at h
  · next t' hm =>
    cases h
    exact ⟨[c], .mark hm, rfl⟩
  · split at h
    · next w _ =>
      split at h
      · next hb =>
        cases h
        exact ⟨_, .word w, eq_append_of_behind hb⟩
      · cases h
    · split at h
      · next hq =>
        subst hq
        obtain ⟨lit, hl, rfl, rfl⟩ := literal_of_string? h
        exact ⟨_, .string hl, by simp⟩
      · split at h
        · split at h
          · next hn =>
            cases h
            obtain ⟨u, hu, he⟩ := Numeral.spelling_of_read hn
            exact ⟨u, .numeral hu, he⟩
          · cases h
        · cases h

theorem endsBefore_lexeme {t : Token} {u : List Char} (h : Lexeme t u) (ht : ¬ t.IsNumeral)
    (cs : List Char) : Numeral.EndsBefore (u ++ cs) := by
  intro c hc
  cases h with
  | @mark _ c' h =>
    obtain rfl : c' = c := Option.some.inj hc
    unfold mark? at h
    split at h <;> first | decide | cases h
  | word w =>
    cases w
    all_goals
      obtain rfl := Option.some.inj hc
      decide
  | numeral _ => exact absurd trivial ht
  | string _ =>
    obtain rfl := Option.some.inj hc
    decide

theorem scan_blanks {b : List Char} (hb : ∀ c ∈ b, isSpace c = true) (cs : List Char) :
    scan (b ++ cs) = scan cs := by
  induction b with
  | nil => rfl
  | cons c b ih =>
    obtain ⟨hc, hb⟩ := List.forall_mem_cons.1 hb
    rw [List.cons_append, scan, if_pos hc, ih hb]

theorem endsBefore_written {t : Token} {ts : List Token} {cs : List Char} (h : Written ts cs)
    (hc : Apart (t :: ts)) (ht : t.IsNumeral) : Numeral.EndsBefore cs := by
  have hspace : ∀ c, isSpace c = true → c.isDigit = false ∧ c ≠ '.' ∧ c ≠ 'e' ∧ c ≠ 'E' := by
    intro c hc
    simp only [isSpace, Bool.or_eq_true, beq_iff_eq] at hc
    rcases hc with ((rfl | rfl) | rfl) | rfl <;> decide
  cases h with
  | done hb =>
    intro c hc
    exact hspace c (hb c (List.mem_of_mem_head? hc))
  | @token t' ts b u cs hb hu hl =>
    cases b with
    -- With no blank between them, the next token itself ends the numeral.
    | nil => exact endsBefore_lexeme hu (fun ht' ↦ (List.isChain_cons_cons.1 hc).1 ⟨ht, ht'⟩) cs
    | cons c b =>
      intro d hd
      obtain rfl := Option.some.inj hd
      exact hspace c (hb c List.mem_cons_self)

theorem scan_of_next {c : Char} {cs r : List Char} {t : Token} (hs : isSpace c = false)
    (h : next c cs = .ok (t, r)) : scan (c :: cs) = t :: scan r := by
  rw [scan, if_neg (by simp [hs])]
  split
  · next h' =>
    cases h.symm.trans h'
    rfl
  · next h' => cases h.symm.trans h'

/-- A text scans as the tokens it writes. -/
theorem scan_written {ts : List Token} {cs : List Char} (h : Written ts cs) (hc : Apart ts) :
    scan cs = ts := by
  induction h with
  | done hb =>
    have hs := scan_blanks hb []
    rw [List.append_nil] at hs
    rw [hs, scan]
  | @token t ts b u cs hb hu hl ih =>
    obtain ⟨c, v, rfl, hs, hn⟩ := next_lexeme hu (endsBefore_written hl hc)
    rw [scan_blanks hb, List.cons_append, scan_of_next hs hn, ih hc.tail]

theorem Written.blank {ts : List Token} {c : Char} {cs : List Char} (hc : isSpace c = true)
    (h : Written ts cs) : Written ts (c :: cs) := by
  cases h with
  | done hb => exact .done (List.forall_mem_cons.2 ⟨hc, hb⟩)
  | token hb hu hl =>
    rw [← List.cons_append]
    exact .token (List.forall_mem_cons.2 ⟨hc, hb⟩) hu hl

theorem written_flatten {ts : List Token} {us : List (List Char)} (h : ts.Forall₂ Lexeme us) :
    Written ts us.flatten := by
  induction h with
  | nil => exact .done nofun
  | cons hu _ ih => exact @Written.token _ _ [] _ _ nofun hu ih

/-- A text in which nothing is broken writes the tokens that it scans as. -/
theorem written_scan {cs : List Char} (h : ∀ t ∈ scan cs, ¬ t.IsBroken) : Written (scan cs) cs := by
  fun_induction scan cs with
  | case1 => exact .done nofun
  | case2 c r hc ih => exact (ih h).blank hc
  | case3 c r _ t s hn ih =>
    obtain ⟨u, hu, he⟩ := lexeme_of_next hn
    rw [he]
    exact @Written.token t _ [] u s nofun hu (ih (List.forall_mem_cons.1 h).2)
  | case4 c r _ b hn => exact absurd trivial (h _ List.mem_cons_self)

/-- The spellings of a token. Of the numerals only the whole ones have theirs here. -/
inductive Spells : Token → List Char → Prop
  | mark {t : Token} {c : Char} : mark? c = some t → Spells t [c]
  | word (w : Word) : Spells (.word w) w.chars
  | numeral (n : Int) : Spells (.numeral (.ofInt n)) (toString n).toList
  | string {s : String} {cs : List Char} :
    Quoted.Spelling s.toList cs → Spells (.string (.ok s)) ('"' :: (cs ++ ['"']))

inductive Laid : List Token → List Char → Prop
  | done {b : List Char} : (∀ c ∈ b, isSpace c = true) → Laid [] b
  | token {t : Token} {ts : List Token} {b u cs : List Char} :
    (∀ c ∈ b, isSpace c = true) → Spells t u → Laid ts cs → Laid (t :: ts) (b ++ (u ++ cs))

theorem Spells.lexeme {t : Token} {u : List Char} (h : Spells t u) : Lexeme t u := by
  cases h with
  | mark hc => exact .mark hc
  | word w => exact .word w
  | numeral n => exact .numeral (Numeral.spelling_toString n)
  | string hs =>
    rw [← (Quoted.decode_eq_ok_iff hs.literal).2 hs]
    exact .string hs.literal

theorem lexeme_self {s : String}
    (h : s.toList.all (fun c ↦ c ≠ '"' ∧ c ≠ '\\' ∧ 0x20 ≤ c.toNat) = true) :
    Lexeme (.string (.ok s)) ('"' :: (s.toList ++ ['"'])) :=
  Spells.lexeme
    (.string (Quoted.spelling_self fun c hc ↦ of_decide_eq_true (List.all_eq_true.1 h c hc)))

theorem Laid.written {ts : List Token} {cs : List Char} (h : Laid ts cs) : Written ts cs := by
  induction h with
  | done hb => exact .done hb
  | token hb hu _ ih => exact .token hb hu.lexeme ih

theorem exists_laid {ts : List Token} (h : ∀ t ∈ ts, ∃ u, Spells t u) : ∃ cs, Laid ts cs := by
  induction ts with
  | nil => exact ⟨[], .done nofun⟩
  | cons t ts ih =>
    obtain ⟨⟨u, hu⟩, hts⟩ := List.forall_mem_cons.1 h
    obtain ⟨cs, hcs⟩ := ih hts
    exact ⟨_, .token (List.forall_mem_nil _) hu hcs⟩

end LayoutSheet.Json.Token
