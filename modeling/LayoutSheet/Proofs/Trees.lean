import LayoutSheet.Json.Tree
import LayoutSheet.Proofs.Lexemes

namespace LayoutSheet.Json.Tree

/-- A tree without a fault of grammar. -/
inductive IsWhole : Tree → Prop
  | word (w : Word) : IsWhole (.word w)
  | numeral (n : Numeral) : IsWhole (.numeral n)
  | string (text : Except Fault String) : IsWhole (.string text)
  | list {items : List Tree} : (∀ v ∈ items, IsWhole v) → IsWhole (.list items .closed)
  | object {members : List Member} :
    (∀ m ∈ members, IsWhole m.2) → IsWhole (.object members .closed)

mutual

def tokens : Tree → List Token
  | word w => [.word w]
  | numeral n => [.numeral n]
  | string s => [.string s]
  | list [] _ => [.openList, .closeList]
  | list (v :: vs) _ => .openList :: (tokens v ++ moreItems vs)
  | object [] _ => [.openObject, .closeObject]
  | object ((k, v) :: ms) _ => .openObject :: .string k :: .colon :: (tokens v ++ moreMembers ms)
  | broken _ => []
  | unpaired _ => []

/-- The tokens behind an item of a list, up to the end of the list. -/
def moreItems : List Tree → List Token
  | [] => [.closeList]
  | v :: vs => .comma :: (tokens v ++ moreItems vs)

def moreMembers : List Member → List Token
  | [] => [.closeObject]
  | (k, v) :: ms => .comma :: .string k :: .colon :: (tokens v ++ moreMembers ms)

end

structure Text (v : Tree) (text : String) : Prop where
  whole : v.IsWhole
  written : Token.Written v.tokens text.toList

variable {n : Nat} {t : Token} {ts r : List Token} {v : Tree}

theorem value_openList (ht : t ≠ .closeList) : value (n + 1) (.openList :: t :: ts) =
    (.list (items n (t :: ts)).1 (items n (t :: ts)).2.1, (items n (t :: ts)).2.2) := by
  rw [value]
  · exact nofun
  · intro s h
    exact ht (List.cons.inj h).1

theorem value_openObject (ht : t ≠ .closeObject) : value (n + 1) (.openObject :: t :: ts) =
    (.object (members n (t :: ts)).1 (members n (t :: ts)).2.1, (members n (t :: ts)).2.2) := by
  rw [value]
  · exact nofun
  · intro s h
    exact ht (List.cons.inj h).1

theorem items_closeList (h : value n ts = (v, .closeList :: r)) :
    items (n + 1) ts = ([v], .closed, r) := by
  rw [items, h]

theorem items_comma (h : value n ts = (v, .comma :: t :: r)) (ht : t ≠ .closeList) :
    items (n + 1) ts =
      (v :: (items n (t :: r)).1, (items n (t :: r)).2.1, (items n (t :: r)).2.2) := by
  rw [items, h]
  cases t <;> first | exact absurd rfl ht | rfl

theorem members_closeObject {k : Except Fault String}
    (h : valueOf n ts = (v, .closeObject :: r)) :
    members (n + 1) (.string k :: ts) = ([(k, v)], .closed, r) := by
  rw [members, h]

theorem members_comma {k : Except Fault String} (h : valueOf n ts = (v, .comma :: t :: r))
    (ht : t ≠ .closeObject) : members (n + 1) (.string k :: ts) =
      ((k, v) :: (members n (t :: r)).1, (members n (t :: r)).2.1, (members n (t :: r)).2.2) := by
  rw [members, h]
  cases t <;> first | exact absurd rfl ht | rfl

theorem IsWhole.tokens_eq_cons (h : v.IsWhole) :
    ∃ t ts, v.tokens = t :: ts ∧ t ≠ .closeList ∧ t ≠ .closeObject := by
  cases h with
  | word | numeral | string => exact ⟨_, _, rfl, nofun, nofun⟩
  | @list vs => cases vs <;> exact ⟨_, _, rfl, nofun, nofun⟩
  | @object ms => cases ms <;> exact ⟨_, _, rfl, nofun, nofun⟩

-- Each step of the parser takes one from its fuel, so the induction is on the fuel.
mutual

theorem value_tokens (v : Tree) (h : v.IsWhole) (n : Nat) (r : List Token)
    (hn : 3 * v.tokens.length ≤ n + 2) : value n (v.tokens ++ r) = (v, r) := by
  cases n with
  | zero =>
    obtain ⟨t, ts, ht, -⟩ := h.tokens_eq_cons
    rw [ht, List.length_cons] at hn
    omega
  | succ n =>
    cases h with
    | word | numeral | string => rfl
    | @list vs hvs =>
      cases vs with
      | nil => rfl
      | cons v vs =>
        obtain ⟨hv, hvs⟩ := List.forall_mem_cons.1 hvs
        rw [tokens, List.length_cons] at hn
        obtain ⟨t, ts, he, ht, -⟩ := hv.tokens_eq_cons
        have hi := items_tokens v vs hv hvs n r (by omega)
        rw [he, List.cons_append] at hi
        rw [tokens, List.cons_append, List.append_assoc, he, List.cons_append,
          value_openList ht, hi]
    | @object ms hms =>
      cases ms with
      | nil => rfl
      | cons m ms =>
        obtain ⟨k, v⟩ := m
        obtain ⟨hv, hms⟩ := List.forall_mem_cons.1 hms
        rw [tokens, List.length_cons, List.length_cons, List.length_cons] at hn
        have hm := members_tokens k v ms hv hms n r (by omega)
        rw [tokens, List.cons_append, List.cons_append, List.cons_append, List.append_assoc,
          value_openObject (by nofun), hm]
termination_by n

theorem items_tokens (v : Tree) (vs : List Tree) (hv : v.IsWhole) (hvs : ∀ w ∈ vs, w.IsWhole)
    (n : Nat) (r : List Token) (hn : 3 * (v.tokens ++ moreItems vs).length ≤ n + 2) :
    items n (v.tokens ++ (moreItems vs ++ r)) = (v :: vs, .closed, r) := by
  rw [List.length_append] at hn
  cases n with
  | zero =>
    obtain ⟨t, ts, ht, -⟩ := hv.tokens_eq_cons
    rw [ht, List.length_cons] at hn
    omega
  | succ n =>
    cases vs with
    | nil =>
      rw [moreItems, List.length_singleton] at hn
      exact items_closeList (value_tokens v hv n _ (by omega))
    | cons w vs =>
      obtain ⟨hw, hws⟩ := List.forall_mem_cons.1 hvs
      rw [moreItems, List.length_cons] at hn
      obtain ⟨t, ts, he, ht, -⟩ := hw.tokens_eq_cons
      have hv := value_tokens v hv n (moreItems (w :: vs) ++ r) (by omega)
      have hi := items_tokens w vs hw hws n r (by omega)
      rw [moreItems, List.cons_append, List.append_assoc, he, List.cons_append] at hv
      rw [he, List.cons_append] at hi
      rw [moreItems, List.cons_append, List.append_assoc, he, List.cons_append,
        items_comma hv ht, hi]
termination_by n

theorem members_tokens (k : Except Fault String) (v : Tree) (ms : List Member) (hv : v.IsWhole)
    (hms : ∀ m ∈ ms, m.2.IsWhole) (n : Nat) (r : List Token)
    (hn : 3 * (v.tokens ++ moreMembers ms).length + 6 ≤ n + 2) :
    members n (.string k :: .colon :: (v.tokens ++ (moreMembers ms ++ r))) =
      ((k, v) :: ms, .closed, r) := by
  rw [List.length_append] at hn
  obtain ⟨n, rfl⟩ : ∃ m, n = m + 2 := ⟨n - 2, by omega⟩
  have hv : ∀ s, valueOf (n + 1) (.colon :: (v.tokens ++ s)) = (v, s) :=
    fun s ↦ value_tokens v hv n s (by omega)
  cases ms with
  | nil => exact members_closeObject (hv _)
  | cons m ms =>
    obtain ⟨l, w⟩ := m
    obtain ⟨hw, hws⟩ := List.forall_mem_cons.1 hms
    rw [moreMembers, List.length_cons, List.length_cons, List.length_cons] at hn
    have hm := members_tokens l w ms hw hws (n + 1) r (by omega)
    rw [moreMembers, List.cons_append, List.cons_append, List.cons_append, List.append_assoc,
      members_comma (hv _) (by nofun), hm]
termination_by n

end

theorem ofTokens_tokens (h : v.IsWhole) : ofTokens v.tokens = (v, []) := by
  have hv := value_tokens v h (3 * v.tokens.length + 1) [] (by omega)
  rwa [List.append_nil] at hv

theorem items_closed {vs : List Tree} (h : items (n + 1) ts = (vs, .closed, r)) :
    ∃ v s, value n ts = (v, s) ∧ (s = .closeList :: r ∧ vs = [v] ∨
      ∃ ws s', s = .comma :: s' ∧ items n s' = (ws, .closed, r) ∧ vs = v :: ws) := by
  obtain ⟨v, s, hv⟩ : ∃ v s, value n ts = (v, s) := ⟨_, _, rfl⟩
  refine ⟨v, s, hv, ?_⟩
  rw [items, hv] at h
  dsimp only at h
  split at h
  · cases h
  · cases h
    exact .inl ⟨rfl, rfl⟩
  · cases h
  · cases h
  · next s' _ _ =>
    obtain ⟨ws, stop, s'', hi⟩ : ∃ ws stop s'', items n s' = (ws, stop, s'') := ⟨_, _, _, rfl⟩
    rw [hi] at h
    cases h
    exact .inr ⟨ws, s', rfl, hi, rfl⟩
  · cases h

theorem members_closed {ms : List Member} (h : members (n + 1) ts = (ms, .closed, r)) :
    ∃ k s v s', ts = .string k :: s ∧ valueOf n s = (v, s') ∧
      (s' = .closeObject :: r ∧ ms = [(k, v)] ∨
        ∃ ns s'', s' = .comma :: s'' ∧ members n s'' = (ns, .closed, r) ∧ ms = (k, v) :: ns) := by
  cases ts with
  | nil => cases h
  | cons t s =>
    cases t with
    | string k =>
      obtain ⟨v, s', hv⟩ : ∃ v s', valueOf n s = (v, s') := ⟨_, _, rfl⟩
      refine ⟨k, s, v, s', rfl, hv, ?_⟩
      rw [members, hv] at h
      dsimp only at h
      split at h
      · cases h
      · cases h
        exact .inl ⟨rfl, rfl⟩
      · cases h
      · cases h
      · next s'' _ _ =>
        obtain ⟨ns, stop, t, hm⟩ : ∃ ns stop t, members n s'' = (ns, stop, t) := ⟨_, _, _, rfl⟩
        rw [hm] at h
        cases h
        exact .inr ⟨ns, s'', rfl, hm, rfl⟩
      · cases h
    | _ => cases h

-- What is whole has been closed, so each step has taken the tokens of what it found.
mutual

theorem eq_tokens_of_value {n : Nat} {ts r : List Token} {v : Tree} (h : value n ts = (v, r))
    (hv : v.IsWhole) : ts = v.tokens ++ r := by
  cases n with
  | zero =>
    cases h
    cases hv
  | succ n =>
    cases ts with
    | nil =>
      cases h
      cases hv
    | cons t ts =>
      cases t with
      | word | numeral | string =>
        cases h
        rfl
      | openList =>
        cases ts with
        | nil =>
          cases h
          cases hv
        | cons t ts =>
          by_cases ht : t = .closeList
          · subst ht
            cases h
            rfl
          · obtain ⟨vs, stop, r', hi⟩ : ∃ vs stop r', items n (t :: ts) = (vs, stop, r') :=
              ⟨_, _, _, rfl⟩
            rw [value_openList ht, hi] at h
            cases h
            cases hv with
            | list hvs =>
              obtain ⟨w, ws, rfl, he⟩ := eq_tokens_of_items hi hvs
              rw [he, tokens, List.cons_append, List.append_assoc]
      | openObject =>
        cases ts with
        | nil =>
          cases h
          cases hv
        | cons t ts =>
          by_cases ht : t = .closeObject
          · subst ht
            cases h
            rfl
          · obtain ⟨ms, stop, r', hm⟩ : ∃ ms stop r', members n (t :: ts) = (ms, stop, r') :=
              ⟨_, _, _, rfl⟩
            rw [value_openObject ht, hm] at h
            cases h
            cases hv with
            | object hms =>
              obtain ⟨k, w, ns, rfl, he⟩ := eq_tokens_of_members hm hms
              rw [he, tokens, List.cons_append, List.cons_append, List.cons_append,
                List.append_assoc]
      | closeList | closeObject | comma | colon | broken =>
        cases h
        cases hv
termination_by n

theorem eq_tokens_of_items {n : Nat} {ts r : List Token} {vs : List Tree}
    (h : items n ts = (vs, .closed, r)) (hvs : ∀ v ∈ vs, v.IsWhole) :
    ∃ v ws, vs = v :: ws ∧ ts = v.tokens ++ (moreItems ws ++ r) := by
  cases n with
  | zero => cases h
  | succ n =>
    obtain ⟨v, s, hv, ⟨rfl, rfl⟩ | ⟨ws, s', rfl, hi, rfl⟩⟩ := items_closed h
    · refine ⟨v, [], rfl, ?_⟩
      exact eq_tokens_of_value hv (hvs v List.mem_cons_self)
    · obtain ⟨hv', hws⟩ := List.forall_mem_cons.1 hvs
      obtain ⟨w, us, rfl, rfl⟩ := eq_tokens_of_items hi hws
      refine ⟨v, w :: us, rfl, ?_⟩
      rw [eq_tokens_of_value hv hv', moreItems, List.cons_append, List.append_assoc]
termination_by n

theorem eq_tokens_of_members {n : Nat} {ts r : List Token} {ms : List Member}
    (h : members n ts = (ms, .closed, r)) (hms : ∀ m ∈ ms, m.2.IsWhole) :
    ∃ k v ns, ms = (k, v) :: ns ∧
      ts = .string k :: .colon :: (v.tokens ++ (moreMembers ns ++ r)) := by
  cases n with
  | zero => cases h
  | succ n =>
    obtain ⟨k, s, v, s', rfl, hv, ⟨rfl, rfl⟩ | ⟨ns, s'', rfl, hm, rfl⟩⟩ := members_closed h
    · refine ⟨k, v, [], rfl, ?_⟩
      rw [eq_tokens_of_valueOf hv (hms _ List.mem_cons_self)]
      rfl
    · obtain ⟨hv', hns⟩ := List.forall_mem_cons.1 hms
      obtain ⟨l, w, us, rfl, rfl⟩ := eq_tokens_of_members hm hns
      refine ⟨k, v, (l, w) :: us, rfl, ?_⟩
      rw [eq_tokens_of_valueOf hv hv', moreMembers, List.cons_append, List.cons_append,
        List.cons_append, List.append_assoc]
termination_by n

theorem eq_tokens_of_valueOf {n : Nat} {ts r : List Token} {v : Tree} (h : valueOf n ts = (v, r))
    (hv : v.IsWhole) : ts = .colon :: (v.tokens ++ r) := by
  cases n with
  | zero =>
    cases h
    cases hv
  | succ n =>
    cases ts with
    | nil =>
      cases h
      cases hv
    | cons t ts =>
      cases t with
      | colon => rw [eq_tokens_of_value h hv]
      | _ =>
        cases h
        cases hv
termination_by n

end

theorem eq_tokens_of_ofTokens {ts : List Token} (h : ofTokens ts = (v, [])) (hv : v.IsWhole) :
    ts = v.tokens := by
  rw [eq_tokens_of_value h hv, List.append_nil]

/-- Tokens of which none is broken, and no two numerals next to each other. -/
def Regular (ts : List Token) : Prop := Token.Apart ts ∧ ∀ t ∈ ts, ¬ t.IsBroken

/-- Tokens that can stand behind any token. -/
def Fenced (ts : List Token) : Prop := Regular ts ∧ ∀ t ∈ ts.head?, ¬ t.IsNumeral

theorem Regular.cons (h : Regular ts) (hn : ¬ t.IsNumeral) (hb : ¬ t.IsBroken) :
    Regular (t :: ts) :=
  ⟨List.isChain_cons.2 ⟨fun _ _ ht ↦ hn ht.1, h.1⟩, List.forall_mem_cons.2 ⟨hb, h.2⟩⟩

theorem Fenced.numeral (h : Fenced ts) (k : Numeral) : Regular (.numeral k :: ts) :=
  ⟨List.isChain_cons.2 ⟨fun s hs ht ↦ h.2 s hs ht.2, h.1.1⟩,
    List.forall_mem_cons.2 ⟨nofun, h.1.2⟩⟩

theorem Regular.fenced (h : Regular ts) (hn : ¬ t.IsNumeral) (hb : ¬ t.IsBroken) :
    Fenced (t :: ts) := by
  refine ⟨h.cons hn hb, ?_⟩
  intro s hs
  obtain rfl := Option.some.inj hs
  exact hn

theorem Regular.key (h : Regular ts) (k : Except Fault String) :
    Regular (.string k :: .colon :: ts) := by
  have hc : Regular (.colon :: ts) := h.cons nofun nofun
  exact hc.cons nofun nofun

mutual

theorem regular_tokens (v : Tree) (hv : v.IsWhole) {r : List Token} (h : Fenced r) :
    Regular (v.tokens ++ r) := by
  cases hv with
  | word | string => exact h.1.cons nofun nofun
  | numeral k => exact h.numeral k
  | @list vs hvs =>
    cases vs with
    | nil =>
      have hc : Regular (.closeList :: r) := h.1.cons nofun nofun
      exact hc.cons nofun nofun
    | cons v vs =>
      obtain ⟨hv, hvs⟩ := List.forall_mem_cons.1 hvs
      rw [tokens, List.cons_append, List.append_assoc]
      exact (regular_tokens v hv (fenced_moreItems vs hvs h.1)).cons nofun nofun
  | @object ms hms =>
    cases ms with
    | nil =>
      have hc : Regular (.closeObject :: r) := h.1.cons nofun nofun
      exact hc.cons nofun nofun
    | cons m ms =>
      obtain ⟨k, v⟩ := m
      obtain ⟨hv, hms⟩ := List.forall_mem_cons.1 hms
      have hv := regular_tokens v hv (fenced_moreMembers ms hms h.1)
      rw [tokens, List.cons_append, List.cons_append, List.cons_append, List.append_assoc]
      exact (hv.key k).cons nofun nofun

theorem fenced_moreItems (vs : List Tree) (hvs : ∀ v ∈ vs, v.IsWhole) {r : List Token}
    (h : Regular r) : Fenced (moreItems vs ++ r) := by
  cases vs with
  | nil => exact h.fenced nofun nofun
  | cons v vs =>
    obtain ⟨hv, hvs⟩ := List.forall_mem_cons.1 hvs
    rw [moreItems, List.cons_append, List.append_assoc]
    exact (regular_tokens v hv (fenced_moreItems vs hvs h)).fenced nofun nofun

theorem fenced_moreMembers (ms : List Member) (hms : ∀ m ∈ ms, m.2.IsWhole) {r : List Token}
    (h : Regular r) : Fenced (moreMembers ms ++ r) := by
  cases ms with
  | nil => exact h.fenced nofun nofun
  | cons m ms =>
    obtain ⟨k, v⟩ := m
    obtain ⟨hv, hms⟩ := List.forall_mem_cons.1 hms
    have hv := regular_tokens v hv (fenced_moreMembers ms hms h)
    rw [moreMembers, List.cons_append, List.cons_append, List.cons_append, List.append_assoc]
    exact (hv.key k).fenced nofun nofun

end

theorem IsWhole.regular (h : v.IsWhole) : Regular v.tokens := by
  have hv := regular_tokens v h (r := []) ⟨⟨.nil, nofun⟩, nofun⟩
  rwa [List.append_nil] at hv

/-- The tree of a text is the one found in it, with nothing behind it. -/
theorem text_iff {text : String} :
    v.Text text ↔ ofTokens (Token.scan text.toList) = (v, []) ∧ v.IsWhole := by
  constructor
  · intro h
    rw [Token.scan_written h.written h.whole.regular.1, ofTokens_tokens h.whole]
    exact ⟨rfl, h.whole⟩
  · rintro ⟨h, hv⟩
    refine ⟨hv, ?_⟩
    have hs := eq_tokens_of_ofTokens h hv
    rw [← hs]
    apply Token.written_scan
    rw [hs]
    exact hv.regular.2

end LayoutSheet.Json.Tree
