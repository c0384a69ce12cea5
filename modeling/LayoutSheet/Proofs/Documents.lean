import LayoutSheet.Proofs.Trees

namespace LayoutSheet.Json

inductive Document where
  | word (w : Word)
  | whole (n : Int)
  | string (s : String)
  | list (items : List Document)
  | object (members : List (String × Document))

namespace Document

mutual

def tokens : Document → List Token
  | word w => [.word w]
  | whole n => [.numeral (.ofInt n)]
  | string s => [.string (.ok s)]
  | list [] => [.openList, .closeList]
  | list (v :: vs) => .openList :: (tokens v ++ moreItems vs)
  | object [] => [.openObject, .closeObject]
  | object ((k, v) :: ms) =>
    .openObject :: .string (.ok k) :: .colon :: (tokens v ++ moreMembers ms)

def moreItems : List Document → List Token
  | [] => [.closeList]
  | v :: vs => .comma :: (tokens v ++ moreItems vs)

def moreMembers : List (String × Document) → List Token
  | [] => [.closeObject]
  | (k, v) :: ms => .comma :: .string (.ok k) :: .colon :: (tokens v ++ moreMembers ms)

end

mutual

def tree : Document → Tree
  | word w => .word w
  | whole n => .numeral (.ofInt n)
  | string s => .string (.ok s)
  | list vs => .list (trees vs) .closed
  | object ms => .object (memberTrees ms) .closed

def trees : List Document → List Tree
  | [] => []
  | v :: vs => tree v :: trees vs

def memberTrees : List (String × Document) → List Tree.Member
  | [] => []
  | (k, v) :: ms => (.ok k, tree v) :: memberTrees ms

end

theorem trees_eq_map (vs : List Document) : trees vs = vs.map tree := by
  induction vs with
  | nil => rfl
  | cons v vs ih => rw [trees, ih, List.map_cons]

theorem memberTrees_eq_map (ms : List (String × Document)) :
    memberTrees ms = ms.map fun m ↦ (.ok m.1, tree m.2) := by
  induction ms with
  | nil => rfl
  | cons m ms ih => rw [memberTrees, ih, List.map_cons]

theorem eq_null_of_tree {v : Document} (h : v.tree = .word .null) : v = .word .null := by
  cases v with
  | word w =>
    obtain rfl := Tree.word.inj h
    rfl
  | _ => cases h

mutual

theorem tokens_tree (v : Document) : v.tree.tokens = v.tokens := by
  cases v with
  | word | whole | string => rfl
  | list vs =>
    cases vs with
    | nil => rfl
    | cons v vs => rw [tree, trees, Tree.tokens, tokens, tokens_tree v, moreItems_trees vs]
  | object ms =>
    cases ms with
    | nil => rfl
    | cons m ms =>
      obtain ⟨k, v⟩ := m
      rw [tree, memberTrees, Tree.tokens, tokens, tokens_tree v, moreMembers_memberTrees ms]

theorem moreItems_trees (vs : List Document) : Tree.moreItems (trees vs) = moreItems vs := by
  cases vs with
  | nil => rfl
  | cons v vs => rw [trees, Tree.moreItems, moreItems, tokens_tree v, moreItems_trees vs]

theorem moreMembers_memberTrees (ms : List (String × Document)) :
    Tree.moreMembers (memberTrees ms) = moreMembers ms := by
  cases ms with
  | nil => rfl
  | cons m ms =>
    obtain ⟨k, v⟩ := m
    rw [memberTrees, Tree.moreMembers, moreMembers, tokens_tree v, moreMembers_memberTrees ms]

end

mutual

theorem isWhole_tree (v : Document) : v.tree.IsWhole := by
  cases v with
  | word w => exact .word w
  | whole n => exact .numeral _
  | string s => exact .string _
  | list vs => exact .list (isWhole_trees vs)
  | object ms => exact .object (isWhole_memberTrees ms)

theorem isWhole_trees (vs : List Document) : ∀ v ∈ trees vs, v.IsWhole := by
  cases vs with
  | nil => exact nofun
  | cons v vs => exact List.forall_mem_cons.2 ⟨isWhole_tree v, isWhole_trees vs⟩

theorem isWhole_memberTrees (ms : List (String × Document)) :
    ∀ m ∈ memberTrees ms, m.2.IsWhole := by
  cases ms with
  | nil => exact nofun
  | cons m ms => exact List.forall_mem_cons.2 ⟨isWhole_tree m.2, isWhole_memberTrees ms⟩

end

def Spellable (ts : List Token) : Prop := ∀ t ∈ ts, ∃ u, Token.Spells t u

theorem Spellable.mark {t : Token} {ts : List Token} {c : Char} (h : Spellable ts)
    (hc : Token.mark? c = some t) : Spellable (t :: ts) :=
  List.forall_mem_cons.2 ⟨⟨_, .mark hc⟩, h⟩

theorem Spellable.string {ts : List Token} (h : Spellable ts) (s : String) :
    Spellable (.string (.ok s) :: ts) := by
  obtain ⟨cs, hs⟩ := Quoted.exists_spelling s.toList
  exact List.forall_mem_cons.2 ⟨⟨_, .string hs⟩, h⟩

mutual

theorem spellable_tokens (v : Document) {r : List Token} (h : Spellable r) :
    Spellable (v.tokens ++ r) := by
  cases v with
  | word w => exact List.forall_mem_cons.2 ⟨⟨_, .word w⟩, h⟩
  | whole n => exact List.forall_mem_cons.2 ⟨⟨_, .numeral n⟩, h⟩
  | string s => exact h.string s
  | list vs =>
    cases vs with
    | nil => exact (h.mark (c := ']') rfl).mark (c := '[') rfl
    | cons v vs =>
      rw [tokens, List.cons_append, List.append_assoc]
      exact (spellable_tokens v (spellable_moreItems vs h)).mark (c := '[') rfl
  | object ms =>
    cases ms with
    | nil => exact (h.mark (c := '\x7d') rfl).mark (c := '\x7b') rfl
    | cons m ms =>
      obtain ⟨k, v⟩ := m
      have hv := spellable_tokens v (spellable_moreMembers ms h)
      rw [tokens, List.cons_append, List.cons_append, List.cons_append, List.append_assoc]
      exact ((hv.mark (c := ':') rfl).string k).mark (c := '\x7b') rfl

theorem spellable_moreItems (vs : List Document) {r : List Token} (h : Spellable r) :
    Spellable (moreItems vs ++ r) := by
  cases vs with
  | nil => exact h.mark (c := ']') rfl
  | cons v vs =>
    rw [moreItems, List.cons_append, List.append_assoc]
    exact (spellable_tokens v (spellable_moreItems vs h)).mark (c := ',') rfl

theorem spellable_moreMembers (ms : List (String × Document)) {r : List Token}
    (h : Spellable r) : Spellable (moreMembers ms ++ r) := by
  cases ms with
  | nil => exact h.mark (c := '\x7d') rfl
  | cons m ms =>
    obtain ⟨k, v⟩ := m
    have hv := spellable_tokens v (spellable_moreMembers ms h)
    rw [moreMembers, List.cons_append, List.cons_append, List.cons_append, List.append_assoc]
    exact ((hv.mark (c := ':') rfl).string k).mark (c := ',') rfl

end

def Text (v : Document) (text : String) : Prop := Token.Laid v.tokens text.toList

theorem exists_text (v : Document) : ∃ text, v.Text text := by
  have hs := spellable_tokens v (r := []) nofun
  rw [List.append_nil] at hs
  obtain ⟨cs, h⟩ := Token.exists_laid hs
  exact ⟨String.ofList cs, by rwa [Text, String.toList_ofList]⟩

theorem text_tree {v : Document} {text : String} (h : v.Text text) : v.tree.Text text where
  whole := isWhole_tree v
  written := by
    rw [tokens_tree]
    exact h.written

theorem ofTokens_of_text {v : Document} {text : String} (h : v.Text text) :
    Tree.ofTokens (Token.scan text.toList) = (v.tree, []) := (Tree.text_iff.1 (text_tree h)).1

end Document

end LayoutSheet.Json
