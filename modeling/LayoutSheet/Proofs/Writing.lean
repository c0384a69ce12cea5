import LayoutSheet.Proofs.Documents
import LayoutSheet.Proofs.History

namespace LayoutSheet.Json

section Lists

variable {γ δ : Type*} {R : γ → δ → Prop} {l : List γ} {ds : List δ}

theorem exists_forall₂ (h : ∀ c ∈ l, ∃ d, R c d) : ∃ ds, l.Forall₂ R ds := by
  induction l with
  | nil => exact ⟨[], .nil⟩
  | cons c l ih =>
    obtain ⟨⟨d, hd⟩, hl⟩ := List.forall_mem_cons.1 h
    obtain ⟨ds, hds⟩ := ih hl
    exact ⟨d :: ds, .cons hd hds⟩

theorem exists_mem_of_forall₂ (h : l.Forall₂ R ds) : ∀ d ∈ ds, ∃ c ∈ l, R c d := by
  induction h with
  | nil => exact nofun
  | cons hx _ ih =>
    refine List.forall_mem_cons.2 ⟨⟨_, List.mem_cons_self, hx⟩, ?_⟩
    intro d hd
    obtain ⟨c, hc, hcd⟩ := ih d hd
    exact ⟨c, List.mem_cons_of_mem _ hc, hcd⟩

end Lists

/-- The documents that a value of the type can be written as. -/
abbrev Writing (α : Type) := α → Document → Prop

structure Slot (α : Type) where
  name : String
  needed : Bool
  Content : Type
  get : α → Content
  writing : Writing Content

namespace Slot

variable {α β : Type}

def optional (name : String) (get : α → β) (w : Writing β) : Slot α := ⟨name, false, β, get, w⟩

def required (name : String) (get : α → β) (w : Writing β) : Slot α := ⟨name, true, β, get, w⟩

end Slot

namespace Writing

variable {α β : Type}

def text : Writing String := fun s v ↦ v = .string s

def flag : Writing Bool := fun b v ↦ v = .word (if b then .true else .false)

def count : Writing UInt32 := fun n v ↦ v = .whole n.toNat

def optional (w : Writing α) : Writing (Option α)
  | none, v => v = .word .null
  | some a, v => w a v

def list (w : Writing α) : Writing (List α) := fun l v ↦ ∃ vs, v = .list vs ∧ l.Forall₂ w vs

/-- Members in the order of the keys. A key may be written again: the members are those of some
list of pairs with the keyed list's values. -/
def keyed (w : Writing α) : Writing (KeyedList α) := fun m v ↦
  ∃ entries ms, v = .object ms ∧ m = .ofList entries ∧
    entries.Forall₂ (fun e x ↦ e.1 = x.1 ∧ w e.2 x.2) ms

/-- The fields in any order. A field as in the blank value may be left out. -/
def record (slots : List (Slot α)) (blank : α) : Writing α := fun a v ↦
  ∃ ms, v = .object ms ∧ (ms.map Prod.fst).Nodup ∧
    (∀ m ∈ ms, ∃ s ∈ slots, s.name = m.1 ∧ s.writing (s.get a) m.2) ∧
    ∀ s ∈ slots, s.name ∈ ms.map Prod.fst ∨ s.needed = false ∧ s.get a = s.get blank

def Covers (w : Writing α) (a : α) : Prop := ∃ v, w a v

variable {w : Writing α}

theorem covers_text (s : String) : text.Covers s := ⟨_, rfl⟩

theorem covers_flag (b : Bool) : flag.Covers b := ⟨_, rfl⟩

theorem covers_count (n : UInt32) : count.Covers n := ⟨_, rfl⟩

theorem covers_optional {o : Option α} (h : ∀ a ∈ o, w.Covers a) : (optional w).Covers o := by
  cases o with
  | none => exact ⟨_, rfl⟩
  | some a => exact h a rfl

theorem covers_list {l : List α} (h : ∀ a ∈ l, w.Covers a) : (list w).Covers l := by
  obtain ⟨vs, hvs⟩ := exists_forall₂ h
  exact ⟨_, vs, rfl, hvs⟩

theorem covers_keyed {m : KeyedList α} (h : ∀ a ∈ m.values, w.Covers a) :
    (keyed w).Covers m := by
  have hx : ∀ e ∈ m.toList, ∃ x : String × Document, e.1 = x.1 ∧ w e.2 x.2 := by
    intro e he
    obtain ⟨v, hv⟩ := h e.2 (List.mem_map_of_mem he)
    exact ⟨(e.1, v), rfl, hv⟩
  obtain ⟨ms, hms⟩ := exists_forall₂ hx
  exact ⟨_, m.toList, ms, rfl, KeyedList.ext (KeyedList.toList_ofList m.nodup).symm, hms⟩

theorem covers_record {slots : List (Slot α)} {blank a : α} (hd : (slots.map Slot.name).Nodup)
    (h : ∀ s ∈ slots, s.writing.Covers (s.get a)) : (record slots blank).Covers a := by
  have hx : ∀ s ∈ slots, ∃ x : String × Document, s.name = x.1 ∧ s.writing (s.get a) x.2 := by
    intro s hs
    obtain ⟨v, hv⟩ := h s hs
    exact ⟨(s.name, v), rfl, hv⟩
  obtain ⟨ms, hms⟩ := exists_forall₂ hx
  have hn : slots.map Slot.name = ms.map Prod.fst := by
    rw [← List.forall₂_eq_eq_eq, List.forall₂_map_left_iff, List.forall₂_map_right_iff]
    exact hms.imp fun _ _ hm ↦ hm.1
  refine ⟨_, ms, rfl, hn ▸ hd, ?_, ?_⟩
  · intro m hm
    exact exists_mem_of_forall₂ hms m hm
  · intro s hs
    exact .inl (hn ▸ List.mem_map_of_mem hs)

theorem member_or_absent {slots : List (Slot α)} {blank a : α} {ms : List (String × Document)}
    {s : Slot α} (hd : (slots.map Slot.name).Nodup) (h : record slots blank a (.object ms))
    (hs : s ∈ slots) : (∃ v, (s.name, v) ∈ ms ∧ s.writing (s.get a) v) ∨
      s.name ∉ ms.map Prod.fst ∧ s.needed = false ∧ s.get a = s.get blank := by
  obtain ⟨_, he, -, hms, habsent⟩ := h
  cases he
  by_cases hk : s.name ∈ ms.map Prod.fst
  · obtain ⟨⟨k, v⟩, hv, rfl⟩ := List.mem_map.1 hk
    obtain ⟨s', hs', hn, hw⟩ := hms _ hv
    obtain rfl := List.inj_on_of_nodup_map hd hs' hs hn
    exact .inl ⟨v, hv, hw⟩
  · exact .inr ⟨hk, (habsent s hs).resolve_left hk⟩

def Text (w : Writing α) (a : α) (text : String) : Prop := ∃ v, w a v ∧ v.Text text

theorem Covers.exists_text {a : α} (h : w.Covers a) : ∃ text, w.Text a text := by
  obtain ⟨v, hv⟩ := h
  obtain ⟨text, ht⟩ := v.exists_text
  exact ⟨text, v, hv, ht⟩

end Writing

end LayoutSheet.Json
