import LayoutSheet.Json.Fault
import LayoutSheet.Text.Hexadecimal

namespace LayoutSheet.Json.Quoted

open Text (hexValue?)

/-- Four hexadecimal digits. With less than four bytes of text left the text ends within them. -/
def hex4 : List Char → Except Fault (Nat × List Char)
  | a :: b :: c :: d :: r =>
    match hexValue? a, hexValue? b, hexValue? c, hexValue? d with
    | some a, some b, some c, some d => .ok (((a * 16 + b) * 16 + c) * 16 + d, r)
    | _, _, _, _ => .error .invalidEscape
  | short =>
    if (String.ofList short).utf8ByteSize < 4 then .error .endInString else .error .invalidEscape

def simpleEscape? (c : Char) : Option Char :=
  match c with
  | '"' => some '"'
  | '\\' => some '\\'
  | '/' => some '/'
  | 'b' => some '\x08'
  | 'f' => some '\x0c'
  | 'n' => some '\n'
  | 'r' => some '\x0d'
  | 't' => some '\t'
  | _ => none

def isHighSurrogate (n : Nat) : Bool := 0xD800 ≤ n && n ≤ 0xDBFF

def isLowSurrogate (n : Nat) : Bool := 0xDC00 ≤ n && n ≤ 0xDFFF

def lowHalf : List Char → Except Fault (Nat × List Char)
  | [] => .error .endInString
  | ['\\'] => .error .endInString
  | '\\' :: 'u' :: r =>
    match hex4 r with
    | .error e => .error e
    | .ok (n, r) => if isLowSurrogate n then .ok (n, r) else .error .loneSurrogate
  | _ => .error .brokenSurrogatePair

def unicode (cs : List Char) : Except Fault (Char × List Char) :=
  match hex4 cs with
  | .error e => .error e
  | .ok (n, r) =>
    if isLowSurrogate n then .error .loneSurrogate
    else if isHighSurrogate n then
      match lowHalf r with
      | .error e => .error e
      | .ok (m, r) => .ok (.ofNat (0x10000 + (n - 0xD800) * 0x400 + (m - 0xDC00)), r)
    else .ok (.ofNat n, r)

def escape : List Char → Except Fault (Char × List Char)
  | [] => .error .endInString
  | 'u' :: r => unicode r
  | c :: r =>
    match simpleEscape? c with
    | some d => .ok (d, r)
    | none => .error .invalidEscape

def skimEscape : List Char → Except Fault (List Char)
  | [] => .error .endInString
  | 'u' :: r => (hex4 r).map Prod.snd
  | c :: r => if (simpleEscape? c).isSome then .ok r else .error .invalidEscape

theorem hex4_length_lt {cs r : List Char} {n : Nat} (h : hex4 cs = .ok (n, r)) :
    r.length < cs.length := by
  unfold hex4 at h
  split at h
  · split at h
    · simp only [Except.ok.injEq, Prod.mk.injEq] at h
      obtain ⟨-, rfl⟩ := h
      simp only [List.length_cons]
      omega
    · simp at h
  · split at h <;> simp at h

theorem lowHalf_length_lt {cs r : List Char} {n : Nat} (h : lowHalf cs = .ok (n, r)) :
    r.length < cs.length := by
  unfold lowHalf at h
  split at h
  · simp at h
  · simp at h
  · split at h
    · simp at h
    · next hx =>
      split at h
      · simp only [Except.ok.injEq, Prod.mk.injEq] at h
        obtain ⟨-, rfl⟩ := h
        have := hex4_length_lt hx
        simp only [List.length_cons]
        omega
      · simp at h
  · simp at h

theorem unicode_length_lt {cs r : List Char} {c : Char} (h : unicode cs = .ok (c, r)) :
    r.length < cs.length := by
  unfold unicode at h
  split at h
  · simp at h
  · next n s hx =>
    have hs := hex4_length_lt hx
    split at h
    · simp at h
    · split at h
      · split at h
        · simp at h
        · next hl =>
          simp only [Except.ok.injEq, Prod.mk.injEq] at h
          obtain ⟨-, rfl⟩ := h
          exact Nat.lt_trans (lowHalf_length_lt hl) hs
      · simp only [Except.ok.injEq, Prod.mk.injEq] at h
        obtain ⟨-, rfl⟩ := h
        exact hs

theorem escape_length_lt {cs r : List Char} {c : Char} (h : escape cs = .ok (c, r)) :
    r.length < cs.length := by
  unfold escape at h
  split at h
  · simp at h
  · have := unicode_length_lt h
    simp only [List.length_cons]
    omega
  · split at h
    · simp only [Except.ok.injEq, Prod.mk.injEq] at h
      obtain ⟨-, rfl⟩ := h
      simp
    · simp at h

theorem skimEscape_length_lt {cs r : List Char} (h : skimEscape cs = .ok r) :
    r.length < cs.length := by
  unfold skimEscape at h
  split at h
  · simp at h
  · next s =>
    cases hx : hex4 s with
    | error e => rw [hx] at h; cases h
    | ok p =>
      obtain ⟨n, t⟩ := p
      rw [hx] at h
      cases h
      have := hex4_length_lt hx
      simp only [List.length_cons]
      omega
  · split at h
    · cases h; simp
    · simp at h

def text (cs : List Char) : Except Fault (List Char × List Char) :=
  match cs with
  | [] => .error .endInString
  | c :: r =>
    if c = '"' then .ok ([], r)
    else if c = '\\' then
      match _h : escape r with
      | .error e => .error e
      | .ok (d, s) => (text s).map fun (a, b) ↦ (d :: a, b)
    else if c.toNat < 0x20 then .error .controlCharacter
    else (text r).map fun (a, b) ↦ (c :: a, b)
termination_by cs.length
decreasing_by
  · have := escape_length_lt ‹_›
    simp only [List.length_cons]
    omega
  · simp

/-- The text behind the closing quote. Any escape of four hexadecimal digits passes, surrogate or
not. -/
def skim (cs : List Char) : Except Fault (List Char) :=
  match cs with
  | [] => .error .endInString
  | c :: r =>
    if c = '"' then .ok r
    else if c = '\\' then
      match _h : skimEscape r with
      | .error e => .error e
      | .ok s => skim s
    else if c.toNat < 0x20 then .error .controlCharacter
    else skim r
termination_by cs.length
decreasing_by
  · have := skimEscape_length_lt ‹_›
    simp only [List.length_cons]
    omega
  · simp

theorem skim_length_lt {cs r : List Char} (h : skim cs = .ok r) : r.length < cs.length := by
  fun_induction skim cs with
  | case1 => simp at h
  | case2 r' => cases h; simp
  | case3 => simp at h
  | case4 r' s h' _ ih =>
    have := skimEscape_length_lt h'
    have := ih h
    simp only [List.length_cons]
    omega
  | case5 => simp at h
  | case6 c r' _ _ _ ih =>
    have := ih h
    simp only [List.length_cons]
    omega

end LayoutSheet.Json.Quoted
