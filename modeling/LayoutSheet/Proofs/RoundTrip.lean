import LayoutSheet.Config.Reading
import LayoutSheet.Layout.Reading
import LayoutSheet.Proofs.Decoding
import LayoutSheet.Writes

namespace LayoutSheet

open Json

def QueryKind.writing : Writing QueryKind
  | .media, v => v = .string "@media"
  | .container, v => v = .string "@container"

def Reference.writing : Writing Reference
  | .every type, v => v = .string type
  | .chosen ids, v => Writing.keyed (.list .text) ids v

def Length.valueSlot : Slot (String × Option String) := .required "value" Prod.fst .text

def Length.propertySlot : Slot (String × Option String) :=
  .optional "cssProperty" Prod.snd (.optional .text)

def Length.writing : Writing Length
  | .plain value, v => v = .string value
  | .detailed value property, v =>
    Writing.record [valueSlot, propertySlot] ("", none) (value, property) v

def Breakpoint.slots : List (Slot Breakpoint) := [
  .optional "type" Breakpoint.kind QueryKind.writing,
  .optional "min" Breakpoint.min (.optional .text),
  .optional "max" Breakpoint.max (.optional .text),
  .optional "container" Breakpoint.container (.optional .text),
  .optional "layouts" Breakpoint.layouts (.list Reference.writing)]

def PageContainer.slots : List (Slot PageContainer) := [
  .optional "element" PageContainer.element (.optional .text),
  .optional "maxLayoutWidth" PageContainer.maxWidth (.optional Length.writing),
  .optional "layoutMargin" PageContainer.margin (.optional Length.writing),
  .optional "widthTokens" PageContainer.widths (.keyed Length.writing),
  .optional "setRoot" PageContainer.centered .flag]

def Theme.slots : List (Slot Theme) := [
  .optional "bg" Theme.background (.optional .text),
  .optional "color" Theme.color (.optional .text)]

def Config.slots : List (Slot Config) := [
  .optional "breakpoints" Config.breakpoints (.keyed (.record Breakpoint.slots {})),
  .optional "core" Config.core (.list .text),
  .optional "common" Config.common (.list .text),
  .optional "layoutContainer" Config.page (.record PageContainer.slots {}),
  .optional "element" Config.element .text,
  .optional "layer" Config.layer .text,
  .optional "themes" Config.themes (.keyed (.record Theme.slots {}))]

def Config.writing : Writing Config := .record slots {}

def RuleValue.writing : Writing RuleValue
  | .text s, v => v = .string s
  | .number (.whole n), v => Numeral.Fits n ∧ v = .whole n
  | .number (.real _), _ => False

def ScopedRule.slots : List (Slot ScopedRule) := [
  .required "selector" ScopedRule.selector .text,
  .optional "properties" ScopedRule.properties (.keyed RuleValue.writing)]

def Variant.slots : List (Slot Variant) := [
  .required "id" Variant.id .text,
  .optional "columns" Variant.columns (.optional .text),
  .optional "rows" Variant.rows (.optional .text),
  .optional "items" Variant.items (.optional .count),
  .optional "rules" Variant.rules (.list (.record ScopedRule.slots { selector := "" }))]

def LayoutFile.slots : List (Slot LayoutFile) := [
  .required "prefix" LayoutFile.family .text,
  .optional "name" LayoutFile.name (.optional .text),
  .optional "desc" LayoutFile.desc (.optional .text),
  .optional "layouts" LayoutFile.layouts (.list (.record Variant.slots { id := "" }))]

def LayoutFile.writing : Writing LayoutFile := .record slots { family := "" }

theorem QueryKind.decoder_reads : decoder.Reads writing 0 := by
  refine Decoder.choice_reads (by decide) ?_
  intro k v hv
  cases k with
  | media => exact .inl ⟨rfl, hv⟩
  | container => exact .inr ⟨rfl, hv⟩

theorem Reference.decoder_reads : decoder.Reads writing 2 := by
  refine Decoder.form_reads ?_ ?_
  · intro r v depth hv hd
    cases r with
    | every type => exact Writing.text_isReadable hv (by omega)
    | chosen ids =>
      exact Writing.keyed_isReadable (Writing.list_isReadable Writing.text_isReadable) hv hd
  · intro r v hv
    cases r with
    | every type =>
      obtain rfl : v = .string type := hv
      rfl
    | chosen ids =>
      obtain ⟨entries, ms, rfl, rfl, hl⟩ := hv
      have hentries : (ms.map fun m ↦ (m.1, m.2.tree)).mapM
          (fun m ↦ m.2.strings?.map (m.1, ·)) = some entries := by
        refine mapM_of_forall₂ ?_
        rw [List.forall₂_map_right_iff]
        refine hl.imp ?_
        rintro ⟨k, l⟩ ⟨k', v⟩ ⟨rfl, h⟩
        simp only [Writing.strings?_of_list_text h]
        rfl
      have hms := Writing.members?_object ms
      rw [Document.tree] at hms
      simp only [Document.tree, hms, Option.bind_eq_bind, Option.bind_some, hentries]
      rfl

theorem Length.decoder_reads : decoder.Reads writing 1 := by
  refine Decoder.form_reads ?_ ?_
  · intro l v depth hv hd
    cases l with
    | plain value => exact Writing.text_isReadable hv (by omega)
    | detailed value property =>
      refine Writing.record_isReadable ?_ hv hd
      rw [List.forall_mem_cons, List.forall_mem_singleton]
      exact ⟨Writing.text_isReadable, Writing.optional_isReadable Writing.text_isReadable⟩
  · intro l v hv
    cases l with
    | plain value =>
      obtain rfl : v = .string value := hv
      rfl
    | detailed value property =>
      obtain ⟨ms, rfl, hn, -⟩ := id hv
      have hslots : ([valueSlot, propertySlot].map Slot.name).Nodup := by decide
      have hvalue : ("value", .string value) ∈ ms := by
        obtain ⟨v, hm, rfl⟩ | ⟨-, h, -⟩ := Writing.member_or_absent hslots hv (.head _)
        · exact hm
        · cases h
      have hms := Writing.members?_object ms
      rw [Document.tree] at hms
      simp only [Document.tree, hms, Option.bind_eq_bind, Option.bind_some,
        filterMap_key_of_mem Document.tree hn hvalue]
      obtain ⟨v, hm, hw⟩ | ⟨hk, -, h⟩ := Writing.member_or_absent hslots hv (.tail _ (.head _))
      · have hproperty : ("cssProperty", v) ∈ ms := hm
        simp only [filterMap_key_of_mem Document.tree hn hproperty]
        cases property with
        | none =>
          obtain rfl : v = .word .null := hw
          rfl
        | some p =>
          obtain rfl : v = .string p := hw
          rfl
      · have hproperty : "cssProperty" ∉ ms.map Prod.fst := hk
        obtain rfl : property = none := h
        simp only [filterMap_key_of_notMem Document.tree hproperty]
        rfl

theorem RuleValue.decoder_reads : decoder.Reads writing 0 := by
  refine Decoder.form_reads ?_ ?_
  · intro x v depth hv hd
    match x, hv with
    | .text s, hv => exact Writing.text_isReadable hv hd
    | .number (.whole n), ⟨hn, hv⟩ =>
      subst hv
      rw [Document.tree, Tree.readable, Numeral.value_ofInt hn]
      rfl
  · intro x v hv
    match x, hv with
    | .text s, hv =>
      obtain rfl : v = .string s := hv
      rfl
    | .number (.whole n), ⟨hn, hv⟩ =>
      subst hv
      simp only [Document.tree, Tree.number?, Numeral.value_ofInt hn]
      rfl

theorem string?_reads : (Decoder.optional .string).Reads (.optional .text) 0 :=
  Decoder.optional_reads Decoder.string_reads nofun

theorem Length.optional_reads : (Decoder.optional decoder).Reads (.optional writing) 1 := by
  refine Decoder.optional_reads decoder_reads ?_
  intro l hl
  cases l with
  | plain value => cases hl
  | detailed value property =>
    obtain ⟨ms, h, -⟩ := hl
    cases h

theorem Breakpoint.fits : record.Fits slots 3 where
  fields := by
    have ht := string?_reads.mono (Nat.zero_le 3)
    refine .cons (Slot.fits (QueryKind.decoder_reads.mono (by omega)) (fun _ _ ↦ rfl) ?_) <|
      .cons (Slot.fits ht (fun _ _ ↦ rfl) ?_) <|
      .cons (Slot.fits ht (fun _ _ ↦ rfl) ?_) <|
      .cons (Slot.fits ht (fun _ _ ↦ rfl) ?_) <|
      .cons (Slot.fits (Decoder.list_reads Reference.decoder_reads) (fun _ _ ↦ rfl) ?_) .nil
    all_goals simp [slots, Slot.optional]
  distinct := by decide
  ext := by
    intro a b h
    cases a
    cases b
    simpa [slots, Slot.optional] using h

theorem PageContainer.fits : record.Fits slots 2 where
  fields := by
    have hl := Length.optional_reads.mono (show 1 ≤ 2 by omega)
    refine .cons (Slot.fits (string?_reads.mono (by omega)) (fun _ _ ↦ rfl) ?_) <|
      .cons (Slot.fits hl (fun _ _ ↦ rfl) ?_) <|
      .cons (Slot.fits hl (fun _ _ ↦ rfl) ?_) <|
      .cons (Slot.fits (Decoder.keyed_reads Length.decoder_reads) (fun _ _ ↦ rfl) ?_) <|
      .cons (Slot.fits (Decoder.boolean_reads.mono (by omega)) (fun _ _ ↦ rfl) ?_) .nil
    all_goals simp [slots, Slot.optional]
  distinct := by decide
  ext := by
    intro a b h
    cases a
    cases b
    simpa [slots, Slot.optional] using h

theorem Theme.fits : record.Fits slots 0 where
  fields := by
    refine .cons (Slot.fits string?_reads (fun _ _ ↦ rfl) ?_) <|
      .cons (Slot.fits string?_reads (fun _ _ ↦ rfl) ?_) .nil
    all_goals simp [slots, Slot.optional]
  distinct := by decide
  ext := by
    intro a b h
    cases a
    cases b
    simpa [slots, Slot.optional] using h

theorem Config.fits : record.Fits slots 5 where
  fields := by
    have hs := Decoder.string_reads.mono (Nat.zero_le 5)
    have hl := (Decoder.list_reads Decoder.string_reads).mono (show 1 ≤ 5 by omega)
    have hb := Decoder.keyed_reads Breakpoint.fits.decoder_reads
    have hp := PageContainer.fits.decoder_reads.mono (show 3 ≤ 5 by omega)
    have ht := (Decoder.keyed_reads Theme.fits.decoder_reads).mono (show 2 ≤ 5 by omega)
    refine .cons (Slot.fits hb (fun _ _ ↦ rfl) ?_) <|
      .cons (Slot.fits hl (fun _ _ ↦ rfl) ?_) <|
      .cons (Slot.fits hl (fun _ _ ↦ rfl) ?_) <|
      .cons (Slot.fits hp (fun _ _ ↦ rfl) ?_) <|
      .cons (Slot.fits hs (fun _ _ ↦ rfl) ?_) <|
      .cons (Slot.fits hs (fun _ _ ↦ rfl) ?_) <|
      .cons (Slot.fits ht (fun _ _ ↦ rfl) ?_) .nil
    all_goals simp [slots, Slot.optional]
  distinct := by decide
  ext := by
    intro a b h
    cases a
    cases b
    simpa [slots, Slot.optional] using h

theorem ScopedRule.fits : record.Fits slots 1 where
  fields := by
    have hp := Decoder.keyed_reads RuleValue.decoder_reads
    refine .cons (Slot.fits (Decoder.string_reads.mono (by omega)) (fun _ _ ↦ rfl) ?_) <|
      .cons (Slot.fits hp (fun _ _ ↦ rfl) ?_) .nil
    all_goals simp [slots, Slot.optional, Slot.required]
  distinct := by decide
  ext := by
    intro a b h
    cases a
    cases b
    simpa [slots, Slot.optional, Slot.required] using h

theorem Variant.fits : record.Fits slots 3 where
  fields := by
    have ht := string?_reads.mono (Nat.zero_le 3)
    have hc := (Decoder.optional_reads Decoder.word32_reads nofun).mono (Nat.zero_le 3)
    have hr := Decoder.list_reads ScopedRule.fits.decoder_reads
    refine .cons (Slot.fits (Decoder.string_reads.mono (by omega)) (fun _ _ ↦ rfl) ?_) <|
      .cons (Slot.fits ht (fun _ _ ↦ rfl) ?_) <|
      .cons (Slot.fits ht (fun _ _ ↦ rfl) ?_) <|
      .cons (Slot.fits hc (fun _ _ ↦ rfl) ?_) <|
      .cons (Slot.fits hr (fun _ _ ↦ rfl) ?_) .nil
    all_goals simp [slots, Slot.optional, Slot.required]
  distinct := by decide
  ext := by
    intro a b h
    cases a
    cases b
    simpa [slots, Slot.optional, Slot.required] using h

theorem LayoutFile.fits : record.Fits slots 5 where
  fields := by
    have ht := string?_reads.mono (Nat.zero_le 5)
    have hl := Decoder.list_reads Variant.fits.decoder_reads
    refine .cons (Slot.fits (Decoder.string_reads.mono (by omega)) (fun _ _ ↦ rfl) ?_) <|
      .cons (Slot.fits ht (fun _ _ ↦ rfl) ?_) <|
      .cons (Slot.fits ht (fun _ _ ↦ rfl) ?_) <|
      .cons (Slot.fits hl (fun _ _ ↦ rfl) ?_) .nil
    all_goals simp [slots, Slot.optional, Slot.required]
  distinct := by decide
  ext := by
    intro a b h
    cases a
    cases b
    simpa [slots, Slot.optional, Slot.required] using h

def RuleValue.IsWhole : RuleValue → Prop
  | .text _ => True
  | .number (.whole n) => Numeral.Fits n
  | .number (.real _) => False

def LayoutFile.IsWhole (f : LayoutFile) : Prop :=
  ∀ v ∈ f.layouts, ∀ r ∈ v.rules, ∀ x ∈ r.properties.values, x.IsWhole

open Writing

theorem covers_text? (o : Option String) : (Writing.optional .text).Covers o :=
  covers_optional fun s _ ↦ covers_text s

theorem covers_texts (l : List String) : (Writing.list .text).Covers l :=
  covers_list fun s _ ↦ covers_text s

theorem Reference.covers (r : Reference) : writing.Covers r := by
  cases r with
  | every type => exact ⟨_, rfl⟩
  | chosen ids => exact covers_keyed fun l _ ↦ covers_texts l

theorem Length.covers (l : Length) : writing.Covers l := by
  cases l with
  | plain value => exact ⟨_, rfl⟩
  | detailed value property =>
    refine covers_record (by decide) ?_
    rw [List.forall_mem_cons, List.forall_mem_singleton]
    exact ⟨covers_text value, covers_text? property⟩

theorem Breakpoint.covers (b : Breakpoint) : (Writing.record slots {}).Covers b := by
  have hk : QueryKind.writing.Covers b.kind := by
    cases b.kind <;> exact ⟨_, rfl⟩
  refine covers_record fits.distinct ?_
  simp only [slots, List.forall_mem_cons]
  exact ⟨hk, covers_text? _, covers_text? _, covers_text? _,
    covers_list fun r _ ↦ r.covers, nofun⟩

theorem PageContainer.covers (p : PageContainer) : (Writing.record slots {}).Covers p := by
  refine covers_record fits.distinct ?_
  simp only [slots, List.forall_mem_cons]
  exact ⟨covers_text? _, covers_optional fun l _ ↦ l.covers, covers_optional fun l _ ↦ l.covers,
    covers_keyed fun l _ ↦ l.covers, covers_flag _, nofun⟩

theorem Theme.covers (t : Theme) : (Writing.record slots {}).Covers t := by
  refine covers_record fits.distinct ?_
  simp only [slots, List.forall_mem_cons]
  exact ⟨covers_text? _, covers_text? _, nofun⟩

theorem Config.covers (c : Config) : writing.Covers c := by
  refine covers_record fits.distinct ?_
  simp only [slots, List.forall_mem_cons]
  exact ⟨covers_keyed fun b _ ↦ b.covers, covers_texts _, covers_texts _, c.page.covers,
    covers_text _, covers_text _, covers_keyed fun t _ ↦ t.covers, nofun⟩

theorem RuleValue.covers {x : RuleValue} (h : x.IsWhole) : writing.Covers x := by
  match x, h with
  | .text _, _ => exact ⟨_, rfl⟩
  | .number (.whole _), h => exact ⟨_, h, rfl⟩

theorem ScopedRule.covers {r : ScopedRule} (h : ∀ x ∈ r.properties.values, x.IsWhole) :
    (Writing.record slots { selector := "" }).Covers r := by
  refine covers_record fits.distinct ?_
  simp only [slots, List.forall_mem_cons]
  exact ⟨covers_text _, covers_keyed fun x hx ↦ RuleValue.covers (h x hx), nofun⟩

theorem Variant.covers {v : Variant} (h : ∀ r ∈ v.rules, ∀ x ∈ r.properties.values, x.IsWhole) :
    (Writing.record slots { id := "" }).Covers v := by
  refine covers_record fits.distinct ?_
  simp only [slots, List.forall_mem_cons]
  exact ⟨covers_text _, covers_text? _, covers_text? _, covers_optional fun n _ ↦ covers_count n,
    covers_list fun r hr ↦ ScopedRule.covers (h r hr), nofun⟩

theorem LayoutFile.covers {f : LayoutFile} (h : f.IsWhole) : writing.Covers f := by
  refine covers_record fits.distinct ?_
  simp only [slots, List.forall_mem_cons]
  exact ⟨covers_text _, covers_text? _, covers_text? _,
    covers_list fun v hv ↦ Variant.covers (h v hv), nofun⟩

/-- The decimal digits of a whole number, behind a sign when it is negative. -/
def IsDecimal (n : Int) (cs : List Char) : Prop :=
  ∃ ds, cs = (if n < 0 then ['-'] else []) ++ ds ∧ ds ≠ [] ∧ (∀ d ∈ ds, d.isDigit = true) ∧
    Nat.ofDigitChars 10 ds 0 = n.natAbs ∧ (ds.head? = some '0' → ds = ['0'])

theorem isDecimal_toString (n : Int) : IsDecimal n (toString n).toList := by
  refine ⟨_, Numeral.toList_toString n, Nat.toDigits_ne_nil, fun _ ↦ Numeral.isDigit_toDigits,
    Nat.ofDigitChars_ten_toDigits, ?_⟩
  intro h
  have hn : n.natAbs = 0 :=
    (Nat.eq_zero_or_pos _).resolve_right fun hp ↦ Numeral.head?_toDigits _ hp h
  rw [hn, Nat.toDigits_zero]

/-- Values are written as JSON and read back unchanged: the fields in any order, those with their
defaults there or not, any spelling of the strings and any blanks between the tokens. -/
structure RoundTrips : Prop where
  config_written (c : Config) : ∃ text, Config.writing.Text c text
  config_read (c : Config) (text : String) :
    Config.writing.Text c text → Config.read text = .ok c
  file_written (f : LayoutFile) : f.IsWhole → ∃ text, LayoutFile.writing.Text f text
  file_read (f : LayoutFile) (text : String) :
    LayoutFile.writing.Text f text → LayoutFile.read text = .ok f
  order {β : Type} (entries : List (String × β)) :
    (entries.map Prod.fst).Nodup → (KeyedList.ofList entries).toList = entries
  digits (n : Int) : IsDecimal n (RuleValue.number (.whole n)).css.toList

theorem roundTrips : RoundTrips where
  config_written c := c.covers.exists_text
  config_read _ _ h := Decoder.run_reads Config.fits.decoder_reads (by decide) h
  file_written _ h := (LayoutFile.covers h).exists_text
  file_read _ _ h := Decoder.run_reads LayoutFile.fits.decoder_reads (by decide) h
  order _ h := KeyedList.toList_ofList h
  digits n := isDecimal_toString n

def spaced : String := "\x7b \"layer\":\"\\u00E9\"\n, \"core\" : []\x7d\t"

theorem config_read_spaced : Config.writing.Text { layer := "é" } spaced ∧
    Config.read spaced = .ok { layer := "é" } := by
  have hw : Config.writing { layer := "é" }
      (.object [("layer", .string "é"), ("core", .list [])]) := by
    refine ⟨_, rfl, by decide, ?_, ?_⟩
    · rw [List.forall_mem_cons, List.forall_mem_singleton]
      exact ⟨⟨Config.slots[5], by simp [Config.slots], rfl, rfl⟩,
        ⟨Config.slots[1], by simp [Config.slots], rfl, _, rfl, .nil⟩⟩
    · simp only [Config.slots, List.forall_mem_cons]
      exact ⟨.inr ⟨rfl, rfl⟩, .inl (by decide), .inr ⟨rfl, rfl⟩, .inr ⟨rfl, rfl⟩, .inr ⟨rfl, rfl⟩,
        .inl (by decide), .inr ⟨rfl, rfl⟩, nofun⟩
  have hs (s : String) (h : s.toList.all fun c ↦ c ≠ '"' ∧ c ≠ '\\' ∧ 0x20 ≤ c.toNat) :
      Token.Spells (.string (.ok s)) ('"' :: (s.toList ++ ['"'])) :=
    .string (Quoted.spelling_self fun c hc ↦ of_decide_eq_true (List.all_eq_true.1 h c hc))
  have hb {c : Char} (h : Token.isSpace c = true) : ∀ d ∈ [c], Token.isSpace d = true :=
    List.forall_mem_singleton.2 h
  have he : Quoted.Spelling "é".toList "\\u00E9".toList :=
    @Quoted.Spelling.cons 'é' [] _ [] (.escaped (.unit (.digits (by decide) (by decide)
      (by decide) (by decide)))) .nil
  have hl : Token.Laid (Document.object [("layer", .string "é"), ("core", .list [])]).tokens
      spaced.toList := by
    refine @Token.Laid.token _ _ [] ['\x7b'] _ nofun (.mark rfl) ?_
    refine @Token.Laid.token _ _ [' '] _ _ (hb rfl) (hs "layer" (by decide)) ?_
    refine @Token.Laid.token _ _ [] [':'] _ nofun (.mark rfl) ?_
    refine @Token.Laid.token _ _ [] _ _ nofun (.string he) ?_
    refine @Token.Laid.token _ _ ['\n'] [','] _ (hb rfl) (.mark rfl) ?_
    refine @Token.Laid.token _ _ [' '] _ _ (hb rfl) (hs "core" (by decide)) ?_
    refine @Token.Laid.token _ _ [' '] [':'] _ (hb rfl) (.mark rfl) ?_
    refine @Token.Laid.token _ _ [' '] ['['] _ (hb rfl) (.mark rfl) ?_
    refine @Token.Laid.token _ _ [] [']'] _ nofun (.mark rfl) ?_
    refine @Token.Laid.token _ _ [] ['\x7d'] _ nofun (.mark rfl) ?_
    exact @Token.Laid.done ['\t'] (hb rfl)
  exact ⟨⟨_, hw, hl⟩, roundTrips.config_read _ _ ⟨_, hw, hl⟩⟩

end LayoutSheet
