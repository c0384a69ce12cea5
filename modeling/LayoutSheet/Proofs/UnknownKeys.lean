import LayoutSheet.Config.Reading
import LayoutSheet.Layout.Reading
import LayoutSheet.Proofs.Widening

namespace LayoutSheet

open Json

def Breakpoint.shape : Shape :=
  .record [("type", .plain), ("min", .plain), ("max", .plain), ("container", .plain),
    ("layouts", .plain)]

def PageContainer.shape : Shape :=
  .record [("element", .plain), ("maxLayoutWidth", .plain), ("layoutMargin", .plain),
    ("widthTokens", .plain), ("setRoot", .plain)]

def Theme.shape : Shape := .record [("bg", .plain), ("color", .plain)]

def Config.shape : Shape :=
  .record [("breakpoints", .keyed Breakpoint.shape), ("core", .plain), ("common", .plain),
    ("layoutContainer", PageContainer.shape), ("element", .plain), ("layer", .plain),
    ("themes", .keyed Theme.shape)]

def ScopedRule.shape : Shape := .record [("selector", .plain), ("properties", .plain)]

def Variant.shape : Shape :=
  .record [("id", .plain), ("columns", .plain), ("rows", .plain), ("items", .plain),
    ("rules", .list ScopedRule.shape)]

def LayoutFile.shape : Shape :=
  .record [("prefix", .plain), ("name", .plain), ("desc", .plain),
    ("layouts", .list Variant.shape)]

open Decoder

theorem Breakpoint.overlooks : record.decoder.Overlooks shape := by
  apply Record.decoder_overlooks
  exact .cons choice_strict.overlooks.field <|
    .cons (optional_strict string_strict).overlooks.field <|
    .cons (optional_strict string_strict).overlooks.field <|
    .cons (optional_strict string_strict).overlooks.field <|
    .cons (list_strict form_strict).overlooks.field .nil

theorem PageContainer.overlooks : record.decoder.Overlooks shape := by
  apply Record.decoder_overlooks
  exact .cons (optional_strict string_strict).overlooks.field <|
    .cons (optional_strict form_strict).overlooks.field <|
    .cons (optional_strict form_strict).overlooks.field <|
    .cons (keyed_strict form_strict).overlooks.field <|
    .cons boolean_strict.overlooks.field .nil

theorem Theme.overlooks : record.decoder.Overlooks shape := by
  apply Record.decoder_overlooks
  exact .cons (optional_strict string_strict).overlooks.field <|
    .cons (optional_strict string_strict).overlooks.field .nil

theorem Config.overlooks : record.decoder.Overlooks shape := by
  apply Record.decoder_overlooks
  exact .cons Breakpoint.overlooks.keyed.field <|
    .cons (list_strict string_strict).overlooks.field <|
    .cons (list_strict string_strict).overlooks.field <|
    .cons PageContainer.overlooks.field <|
    .cons string_strict.overlooks.field <|
    .cons string_strict.overlooks.field <|
    .cons Theme.overlooks.keyed.field .nil

theorem ScopedRule.overlooks : record.decoder.Overlooks shape := by
  apply Record.decoder_overlooks
  exact .cons string_strict.overlooks.field <|
    .cons (keyed_strict form_strict).overlooks.field .nil

theorem Variant.overlooks : record.decoder.Overlooks shape := by
  apply Record.decoder_overlooks
  exact .cons string_strict.overlooks.field <|
    .cons (optional_strict string_strict).overlooks.field <|
    .cons (optional_strict string_strict).overlooks.field <|
    .cons (optional_strict word32_strict).overlooks.field <|
    .cons ScopedRule.overlooks.list.field .nil

theorem LayoutFile.overlooks : record.decoder.Overlooks shape := by
  apply Record.decoder_overlooks
  exact .cons string_strict.overlooks.field <|
    .cons (optional_strict string_strict).overlooks.field <|
    .cons (optional_strict string_strict).overlooks.field <|
    .cons Variant.overlooks.list.field .nil

/-- Every configuration and every layout file that is read has a tree. One more member in any record
of it, under a key that names no field, with any value, leaves the result as it is when the key is a
text, and else is a fault. -/
theorem unknown_keys_overlooked :
    OverlooksUnknownKeys Config.read Config.shape ∧
      OverlooksUnknownKeys LayoutFile.read LayoutFile.shape :=
  ⟨Config.overlooks.run, LayoutFile.overlooks.run⟩

def halfPair : List Char := ['\\', 'u', 'd', '8', '0', '0']

theorem halfPair_literal : Quoted.Literal halfPair :=
  @Quoted.Literal.unit 0xD800 ['d', '8', '0', '0'] []
    (.digits (by decide) (by decide) (by decide) (by decide)) .nil

theorem decode_halfPair : Quoted.decode halfPair = .error .brokenSurrogatePair := by
  have ht : Quoted.text (halfPair ++ ['"']) = .error .brokenSurrogatePair := Quoted.text_error rfl
  rw [Quoted.decode, ht]
  rfl

def themed (members : List Tree.Member) : Tree :=
  .object [(.ok "themes", .object [(.ok "a", .object members .closed)] .closed)] .closed

/-- A value good only for being passed over: a number out of range and half of a surrogate pair. -/
def oddValue : Tree :=
  .list [.numeral ⟨false, ['1'], none, some (false, ['9', '9', '9'])⟩,
    .string (Quoted.decode halfPair)] .closed

theorem themed_isWhole {members : List Tree.Member} (h : ∀ m ∈ members, m.2.IsWhole) :
    (themed members).IsWhole :=
  .object (List.forall_mem_singleton.2 (.object (List.forall_mem_singleton.2 (.object h))))

theorem oddValue_isWhole : oddValue.IsWhole :=
  .list (List.forall_mem_cons.2 ⟨.numeral _, List.forall_mem_singleton.2 (.string _)⟩)

theorem text_of_lexemes {v : Tree} {text : String} (us : List (List Char)) (hv : v.IsWhole)
    (hu : v.tokens.Forall₂ Token.Lexeme us) (h : text.toList = us.flatten) : v.Text text where
  whole := hv
  written := h ▸ Token.written_flatten hu

theorem themed_text : (themed []).Text "\x7b\"themes\":\x7b\"a\":\x7b\x7d\x7d\x7d" :=
  text_of_lexemes
    [['\x7b'], '"' :: ("themes".toList ++ ['"']), [':'], ['\x7b'], '"' :: ("a".toList ++ ['"']),
      [':'], ['\x7b'], ['\x7d'], ['\x7d'], ['\x7d']]
    (themed_isWhole (List.forall_mem_nil _))
    (.cons (.mark rfl) <| .cons (Token.lexeme_self (by decide)) <| .cons (.mark rfl) <|
      .cons (.mark rfl) <| .cons (Token.lexeme_self (by decide)) <| .cons (.mark rfl) <|
      .cons (.mark rfl) <| .cons (.mark rfl) <| .cons (.mark rfl) <| .cons (.mark rfl) .nil)
    (by decide)

theorem themed_oddValue_text : (themed [(.ok "x", oddValue)]).Text
    "\x7b\"themes\":\x7b\"a\":\x7b\"x\":[1e999,\"\\ud800\"]\x7d\x7d\x7d" := by
  have hn : (⟨false, ['1'], none, some (false, ['9', '9', '9'])⟩ : Numeral).Spelling
      ['1', 'e', '9', '9', '9'] :=
    .positive (.inr ⟨by decide, by decide⟩) .none (.digits (.inl rfl) (by decide))
  exact text_of_lexemes
    [['\x7b'], '"' :: ("themes".toList ++ ['"']), [':'], ['\x7b'], '"' :: ("a".toList ++ ['"']),
      [':'], ['\x7b'], '"' :: ("x".toList ++ ['"']), [':'], ['['], ['1', 'e', '9', '9', '9'], [','],
      '"' :: (halfPair ++ ['"']), [']'], ['\x7d'], ['\x7d'], ['\x7d']]
    (themed_isWhole (List.forall_mem_singleton.2 oddValue_isWhole))
    (.cons (.mark rfl) <| .cons (Token.lexeme_self (by decide)) <| .cons (.mark rfl) <|
      .cons (.mark rfl) <| .cons (Token.lexeme_self (by decide)) <| .cons (.mark rfl) <|
      .cons (.mark rfl) <| .cons (Token.lexeme_self (by decide)) <| .cons (.mark rfl) <|
      .cons (.mark rfl) <| .cons (.numeral hn) <| .cons (.mark rfl) <|
      .cons (.string halfPair_literal) <| .cons (.mark rfl) <| .cons (.mark rfl) <|
      .cons (.mark rfl) <| .cons (.mark rfl) .nil)
    (by decide)

theorem oddValue_overlooked :
    (themed []).Text "\x7b\"themes\":\x7b\"a\":\x7b\x7d\x7d\x7d" ∧
    (themed [(.ok "x", oddValue)]).Text
      "\x7b\"themes\":\x7b\"a\":\x7b\"x\":[1e999,\"\\ud800\"]\x7d\x7d\x7d" ∧
    Widens (.ok "x") Config.shape (themed []) (themed [(.ok "x", oddValue)]) ∧
    Config.read "\x7b\"themes\":\x7b\"a\":\x7b\x7d\x7d\x7d" =
      .ok { themes := .ofList [("a", {})] } ∧
    Config.read "\x7b\"themes\":\x7b\"a\":\x7b\"x\":[1e999,\"\\ud800\"]\x7d\x7d\x7d" =
      .ok { themes := .ofList [("a", {})] } := by
  have hmember : Widens (.ok "x") Theme.shape (.object [] .closed)
      (.object [(.ok "x", oddValue)] .closed) :=
    @Widens.member _ _ [] [] _ _ (by decide) oddValue_isWhole
  have hvalue : Widens (.ok "x") (.keyed Theme.shape)
      (.object [(.ok "a", .object [] .closed)] .closed)
      (.object [(.ok "a", .object [(.ok "x", oddValue)] .closed)] .closed) :=
    @Widens.value _ _ [] [] _ _ _ _ hmember
  have hwidens : Widens (.ok "x") Config.shape (themed []) (themed [(.ok "x", oddValue)]) :=
    @Widens.field _ _ _ _ [] [] _ _ _ rfl hvalue
  have hread : Config.read "\x7b\"themes\":\x7b\"a\":\x7b\x7d\x7d\x7d" =
      .ok { themes := .ofList [("a", {})] } := by
    rw [Config.read, Decoder.run, (Tree.text_iff.1 themed_text).1]
    rfl
  exact ⟨themed_text, themed_oddValue_text, hwidens, hread,
    unknown_keys_overlooked.1.read_widened themed_text themed_oddValue_text hwidens hread⟩

/-- Half of a surrogate pair is passed over in a value and not in a key. -/
theorem halfPair_not_overlooked :
    (Tree.object [] .closed).Text "\x7b\x7d" ∧
    (Tree.object [(Quoted.decode halfPair, .numeral ⟨false, ['0'], none, none⟩)] .closed).Text
      "\x7b\"\\ud800\":0\x7d" ∧
    Widens (Quoted.decode halfPair) Config.shape (.object [] .closed)
      (.object [(Quoted.decode halfPair, .numeral ⟨false, ['0'], none, none⟩)] .closed) ∧
    Config.read "\x7b\x7d" = .ok {} ∧
    Config.read "\x7b\"\\ud800\":0\x7d" = .error (.fault .brokenSurrogatePair) := by
  have hempty : (Tree.object [] .closed).Text "\x7b\x7d" :=
    text_of_lexemes [['\x7b'], ['\x7d']] (.object (List.forall_mem_nil _))
      (.cons (.mark rfl) <| .cons (.mark rfl) .nil) (by decide)
  have hzero : (⟨false, ['0'], none, none⟩ : Numeral).Spelling ['0'] :=
    .positive (.inl rfl) .none .none
  have htext : (Tree.object [(Quoted.decode halfPair, .numeral ⟨false, ['0'], none, none⟩)]
      .closed).Text "\x7b\"\\ud800\":0\x7d" :=
    text_of_lexemes [['\x7b'], '"' :: (halfPair ++ ['"']), [':'], ['0'], ['\x7d']]
      (.object (List.forall_mem_singleton.2 (.numeral _)))
      (.cons (.mark rfl) <| .cons (.string halfPair_literal) <| .cons (.mark rfl) <|
        .cons (.numeral hzero) <| .cons (.mark rfl) .nil)
      (by decide)
  have hwidens : Widens (Quoted.decode halfPair) Config.shape (.object [] .closed)
      (.object [(Quoted.decode halfPair, .numeral ⟨false, ['0'], none, none⟩)] .closed) :=
    @Widens.member _ _ [] [] _ _ (by simp [decode_halfPair]) (.numeral _)
  have hread : Config.read "\x7b\x7d" = .ok {} := by
    rw [Config.read, Decoder.run, (Tree.text_iff.1 hempty).1]
    rfl
  refine ⟨hempty, htext, hwidens, hread, ?_⟩
  have hf := Config.overlooks.run.read_widened hempty htext hwidens hread
  rw [decode_halfPair] at hf
  exact hf

end LayoutSheet
