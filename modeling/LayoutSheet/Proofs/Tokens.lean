import LayoutSheet.Proofs.Spans

namespace LayoutSheet.Stylesheet

open Piece

inductive Token where
  | comment (text : List Char)
  | string (text : List Char)
  | url (text : List Char)
  | escape (c : Char)
  | plain (c : Char)
  deriving DecidableEq, Repr

namespace Token

def chars : Token → List Char
  | comment t => t
  | string t => t
  | url t => t
  | escape c => ['\\', c]
  | plain c => [c]

def isKept : Token → Bool
  | comment _ => false
  | plain _ => false
  | _ => true

def isBlank (c : Char) : Bool := c ∈ [' ', '\t', '\n', '\r', '\x0c']

/-- Whether `url(` before this text begins an unquoted url: what follows the blanks is no quote. -/
def opensUrl : List Char → Bool
  | [] => false
  | c :: r => if isBlank c then opensUrl r else c != '"' && c != '\''

def token? : List Char → Option (Token × List Char)
  | [] => none
  | '/' :: '*' :: r => (throughCommentEnd r).map fun (a, b) ↦ (comment ('/' :: '*' :: a), b)
  | '"' :: r => (throughQuote '"' r).map fun (a, b) ↦ (string ('"' :: a), b)
  | '\'' :: r => (throughQuote '\'' r).map fun (a, b) ↦ (string ('\'' :: a), b)
  | '\\' :: c :: r => some (escape c, r)
  | 'u' :: 'r' :: 'l' :: '(' :: r =>
    if opensUrl r then
      (throughParen r).map fun (a, b) ↦ (url ('u' :: 'r' :: 'l' :: '(' :: a), b)
    else some (plain 'u', 'r' :: 'l' :: '(' :: r)
  | c :: r => some (plain c, r)

theorem token?_append {cs r : List Char} {t : Token} (h : token? cs = some (t, r)) :
    t.chars ++ r = cs ∧ t.chars ≠ [] := by
  unfold token? at h
  split at h
  · cases h
  · obtain ⟨⟨x, y⟩, hx, he⟩ := Option.map_eq_some_iff.1 h
    cases he
    simp [chars, throughCommentEnd_append hx]
  · obtain ⟨⟨x, y⟩, hx, he⟩ := Option.map_eq_some_iff.1 h
    cases he
    simp [chars, throughQuote_append hx]
  · obtain ⟨⟨x, y⟩, hx, he⟩ := Option.map_eq_some_iff.1 h
    cases he
    simp [chars, throughQuote_append hx]
  · cases h
    simp [chars]
  · split at h
    · obtain ⟨⟨x, y⟩, hx, he⟩ := Option.map_eq_some_iff.1 h
      cases he
      simp [chars, throughParen_append hx]
    · cases h
      simp [chars]
  · cases h
    simp [chars]

theorem token?_length_lt {cs r : List Char} {t : Token} (h : token? cs = some (t, r)) :
    r.length < cs.length := by
  obtain ⟨ha, hn⟩ := token?_append h
  have := congrArg List.length ha
  have := List.length_pos_iff.2 hn
  rw [List.length_append] at *
  omega

def read (cs : List Char) : Option (List Token) :=
  match cs with
  | [] => some []
  | c :: r =>
    match _h : token? (c :: r) with
    | none => none
    | some (t, s) => (read s).map (t :: ·)
termination_by cs.length
decreasing_by exact token?_length_lt ‹_›

theorem read_nil : read [] = some [] := by rw [read]

theorem read_of_token? {cs r : List Char} {t : Token} (h : token? cs = some (t, r)) :
    read cs = (read r).map (t :: ·) := by
  cases cs with
  | nil => cases h
  | cons c cs =>
    rw [read]
    split
    · next h' =>
      rw [h] at h'
      cases h'
    · next h' =>
      rw [h] at h'
      cases h'
      rfl

theorem exists_of_read_cons {c : Char} {r : List Char} {ts : List Token}
    (h : read (c :: r) = some ts) :
    ∃ k s us, token? (c :: r) = some (k, s) ∧ read s = some us ∧ ts = k :: us := by
  rw [read] at h
  split at h
  · cases h
  · next k s hk =>
    obtain ⟨us, hu, rfl⟩ := Option.map_eq_some_iff.1 h
    exact ⟨k, s, us, hk, hu, rfl⟩

theorem eq_plain_of_token? {c : Char} {r s : List Char} {k : Token} (hn : span? (c :: r) = none)
    (hc : c ≠ '\\') (h : token? (c :: r) = some (k, s)) : k = .plain c ∧ s = r := by
  unfold token? at h
  split at h
  · next he => cases he
  · next he =>
    cases he
    obtain ⟨x, hx, -⟩ := Option.map_eq_some_iff.1 h
    simp [span?, hx] at hn
  · next he =>
    cases he
    obtain ⟨x, hx, -⟩ := Option.map_eq_some_iff.1 h
    simp [span?, hx] at hn
  · next he =>
    cases he
    obtain ⟨x, hx, -⟩ := Option.map_eq_some_iff.1 h
    simp [span?, hx] at hn
  · next he =>
    cases he
    exact absurd rfl hc
  · next he =>
    cases he
    split at h
    · obtain ⟨x, hx, -⟩ := Option.map_eq_some_iff.1 h
      simp [span?, hx] at hn
    · cases h
      exact ⟨rfl, rfl⟩
  · next he =>
    cases he
    cases h
    exact ⟨rfl, rfl⟩

/-- A plain character is one that opens nothing, but for `url(` before a string, and that escapes
nothing. -/
theorem token?_eq_plain_iff {c : Char} {r : List Char} :
    token? (c :: r) = some (plain c, r) ↔ (c = '\\' → r = []) ∧
      ∀ o s, Opening.of? (c :: r) = some (o, s) → o = .url ∧ opensUrl s = false := by
  have hu (o : Opening) (h : o.head.length < 4) : o ≠ .url := by
    rintro rfl
    exact absurd h (by decide)
  unfold token?
  split
  · next h => cases h
  · next r' h =>
    cases h
    exact iff_of_false (by simp) fun h ↦ hu .comment (by decide) (h.2 _ r' rfl).1
  · next r' h =>
    cases h
    exact iff_of_false (by simp) fun h ↦
      hu (.quote '"' (by decide)) (show 1 < 4 by decide) (h.2 _ r rfl).1
  · next r' h =>
    cases h
    exact iff_of_false (by simp) fun h ↦
      hu (.quote '\'' (by decide)) (show 1 < 4 by decide) (h.2 _ r rfl).1
  · next d r' h =>
    cases h
    exact iff_of_false (by simp) fun h ↦ absurd (h.1 rfl) (List.cons_ne_nil d r')
  · next r' h =>
    cases h
    split
    · next ho =>
      refine iff_of_false (by simp) fun h ↦ ?_
      rw [(h.2 .url r' rfl).2] at ho
      cases ho
    · next ho =>
      refine iff_of_true rfl ⟨fun h ↦ absurd h (by decide), fun o s hs ↦ ?_⟩
      cases hs
      exact ⟨rfl, Bool.eq_false_iff.2 ho⟩
  · next c' r' h₁ h₂ h₃ h₄ h₅ h =>
    cases h
    refine iff_of_true rfl ⟨?_, ?_⟩
    · rintro rfl
      cases r with
      | nil => rfl
      | cons d r => exact absurd rfl (h₄ d r rfl)
    · intro o s hs
      unfold Opening.of? at hs
      split at hs
      · next h => exact (h₁ _ (List.cons.inj h).1 (List.cons.inj h).2).elim
      · next h => exact (h₂ (List.cons.inj h).1).elim
      · next h => exact (h₃ (List.cons.inj h).1).elim
      · next h => exact (h₅ _ (List.cons.inj h).1 (List.cons.inj h).2).elim
      · cases hs

def Sealed (cs : List Char) : Prop := ∀ c ∈ cs.getLast?, c ∈ ['"', '\'', ')']

theorem Sealed.of_append {a b : List Char} (h : Sealed (a ++ b)) : Sealed b := by
  intro c hc
  refine h c ?_
  rw [List.getLast?_append, Option.mem_def.1 hc]
  rfl

theorem of?_of_append {t rest s : List Char} {o : Opening} (ht : Sealed t) (hn : t ≠ [])
    (h : Opening.of? (t ++ rest) = some (o, s)) :
    ∃ r, Opening.of? t = some (o, r) ∧ s = r ++ rest := by
  obtain ⟨he, hl⟩ := Opening.of?_local h
  obtain ⟨a, hh, hr⟩ | ⟨r, hs, hr⟩ := List.append_eq_append_iff.1 he
  · have ha : a = [] := by
      obtain ⟨c, hc⟩ := Option.isSome_iff_exists.1 (List.getLast?_isSome.2 hn)
      have hs := ht c hc
      have hm : c ∈ o.head := hh ▸ List.mem_append_left a (List.mem_of_getLast? hc)
      have hq {q : Char} (hh : [q] = t ++ a) : a = [] := by
        cases t with
        | nil => exact absurd rfl hn
        | cons d t => exact (List.append_eq_nil_iff.1 (List.cons.inj hh).2.symm).2
      unfold Opening.of? at h
      split at h
      all_goals cases h
      · exact absurd hs ((by simp : ∀ c ∈ ['/', '*'], c ∉ ['"', '\'', ')']) c hm)
      · exact hq hh
      · exact hq hh
      · exact absurd hs ((by simp : ∀ c ∈ ['u', 'r', 'l', '('], c ∉ ['"', '\'', ')']) c hm)
    subst ha
    rw [List.append_nil] at hh
    rw [List.nil_append] at hr
    refine ⟨[], ?_, hr.symm⟩
    have := hl []
    rwa [List.append_nil, hh] at this
  · exact ⟨r, hs ▸ hl r, hr⟩

theorem opensUrl_append {r : List Char} (h : Sealed r) (hn : r ≠ []) (rest : List Char) :
    opensUrl (r ++ rest) = opensUrl r := by
  induction r with
  | nil => exact absurd rfl hn
  | cons c r ih =>
    rw [List.cons_append, opensUrl, opensUrl]
    split
    · next hb =>
      refine ih (Sealed.of_append (a := [c]) h) ?_
      rintro rfl
      exact absurd hb ((by simp [isBlank] : ∀ d ∈ ['"', '\'', ')'], ¬ isBlank d = true) c (h c rfl))
    · rfl

theorem token?_append_of_sealed {t s : List Char} {k : Token} (ht : Sealed t)
    (h : token? t = some (k, s)) (rest : List Char) :
    token? (t ++ rest) = some (k, s ++ rest) := by
  -- More text could only make an opening of a character at the end, or a url of `url(` there, and
  -- neither stands at the end of a sealed text.
  have hp {c : Char} {r : List Char} (ht : Sealed (c :: r))
      (h : token? (c :: r) = some (plain c, r)) :
      token? (c :: (r ++ rest)) = some (plain c, r ++ rest) := by
    obtain ⟨he, ho⟩ := token?_eq_plain_iff.1 h
    refine token?_eq_plain_iff.2 ⟨fun hc ↦ ?_, fun o s' hs ↦ ?_⟩
    · subst hc
      rw [he rfl] at ht
      exact absurd (ht '\\' rfl) (by decide)
    · obtain ⟨r', hr, rfl⟩ := of?_of_append ht (List.cons_ne_nil c r) hs
      obtain ⟨rfl, hu⟩ := ho o r' hr
      have hr := (Opening.of?_local hr).1
      rw [hr] at ht
      refine ⟨rfl, (opensUrl_append ht.of_append ?_ rest).trans hu⟩
      rintro rfl
      exact absurd (ht '(' rfl) (by decide)
  have h' := h
  unfold token? at h
  split at h
  · cases h
  · obtain ⟨⟨x, y⟩, hx, he⟩ := Option.map_eq_some_iff.1 h
    cases he
    rw [Closer.throughCommentEnd_eq] at hx
    simp [token?, Closer.throughCommentEnd_eq, Closer.through_append hx]
  · obtain ⟨⟨x, y⟩, hx, he⟩ := Option.map_eq_some_iff.1 h
    cases he
    rw [Closer.throughQuote_eq (by decide)] at hx
    simp [token?, Closer.throughQuote_eq, Closer.through_append hx]
  · obtain ⟨⟨x, y⟩, hx, he⟩ := Option.map_eq_some_iff.1 h
    cases he
    rw [Closer.throughQuote_eq (by decide)] at hx
    simp [token?, Closer.throughQuote_eq, Closer.through_append hx]
  · cases h
    rfl
  · split at h
    · next r ho =>
      obtain ⟨⟨x, y⟩, hx, he⟩ := Option.map_eq_some_iff.1 h
      cases he
      have hn : r ≠ [] := by
        rintro rfl
        cases hx
      have hr : Sealed r := Sealed.of_append (a := ['u', 'r', 'l', '(']) ht
      rw [Closer.throughParen_eq] at hx
      simp [token?, opensUrl_append hr hn, ho, Closer.throughParen_eq, Closer.through_append hx]
    · cases h
      exact hp ht h'
  · cases h
    exact hp ht h'

/-- A sealed text reads the same whatever follows it. -/
theorem read_append {t : List Char} {us : List Token} (ht : Sealed t) (h : read t = some us)
    (rest : List Char) : read (t ++ rest) = (read rest).map (us ++ ·) := by
  fun_induction read t generalizing us with
  | case1 =>
    cases h
    simp
  | case2 c r hn => cases h
  | case3 c r k s hk ih =>
    obtain ⟨vs, hv, rfl⟩ := Option.map_eq_some_iff.1 h
    have hs : Sealed s := by
      rw [← (token?_append hk).1] at ht
      exact ht.of_append
    rw [read_of_token? (token?_append_of_sealed ht hk rest), ih hs hv, Option.map_map]
    rfl

end Token

end LayoutSheet.Stylesheet
