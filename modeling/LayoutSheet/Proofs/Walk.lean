import LayoutSheet.Placement.Walk
import LayoutSheet.Proofs.Placements
import LayoutSheet.Proofs.Registration

namespace LayoutSheet

namespace Placement.Walk

variable {c : IndexedCatalog} {d : Catalog} {name query : String}

/-- What a walk does with one finding. -/
def take (name query : String) (s : Walk) : Finding → Walk
  | .found family v => s.place name query family v
  | .missing w => s.log (.warned w)

theorem everyOf_eq (h : c.Holds d) (s : Walk) (type : String) :
    s.everyOf c name query type = (Placement.everyOf d name type).foldl (take name query) s := by
  rw [everyOf, h.variants?_eq, h.word?_eq, Catalog.variants?, Catalog.word?, Placement.everyOf]
  cases d.get? type with
  | none => rfl
  | some f =>
    rw [List.foldl_map]
    rfl

theorem chosenOf_eq (h : c.Holds d) (s : Walk) (e : String × List String) :
    s.chosenOf c name query e =
      (Placement.chosenOf d name e.1 e.2).foldl (take name query) s := by
  rw [chosenOf, h.word?_eq, Catalog.word?, Placement.chosenOf]
  cases hf : d.get? e.1 with
  | none => rfl
  | some f =>
    rw [List.foldl_map]
    refine congrArg (fun g ↦ e.2.foldl g s) (funext₂ fun s id ↦ ?_)
    rw [choose, h.find?_eq, Catalog.find?, hf, Option.bind_some]
    cases f.variants.get? id <;> rfl

theorem follow_eq (h : c.Holds d) (s : Walk) (r : Reference) :
    s.follow c name query r = (Placement.follow d name r).foldl (take name query) s := by
  cases r with
  | every type => exact everyOf_eq h s type
  | chosen ids =>
    rw [follow, Placement.follow, List.foldl_flatMap]
    exact congrArg (fun g ↦ ids.toList.foldl g s) (funext₂ fun s e ↦ chosenOf_eq h s e)

theorem foldl_follow_eq (h : c.Holds d) (s : Walk) (b : Breakpoint) :
    b.layouts.foldl (follow c name query) s = (findings d name b).foldl (take name query) s := by
  rw [findings, List.foldl_flatMap]
  exact congrArg (fun g ↦ b.layouts.foldl g s) (funext₂ fun s r ↦ follow_eq h s r)

theorem place_of_mem {s : Walk} {family : String} {v : Variant}
    (h : (family, Variant.bareId v.id) ∈ s.seen) : s.place name query family v = s :=
  if_pos h

theorem place_of_notMem {s : Walk} {family : String} {v : Variant}
    (h : (family, Variant.bareId v.id) ∉ s.seen) :
    s.place name query family v = { s with
      placed := s.placed ++ [ofSelected name query (family, v)]
      seen := (family, Variant.bareId v.id) :: s.seen } :=
  if_neg h

theorem foldl_take (name query : String) (fs : List Finding) (s : Walk) :
    (fs.foldl (take name query) s).placed =
        s.placed ++ firstOfEach (fun p ↦ (p.family, p.id)) s.seen
          ((fs.filterMap Finding.variant?).map (ofSelected name query)) ∧
      (fs.foldl (take name query) s).journal =
        s.journal ++ (fs.filterMap Finding.warning?).map .warned := by
  induction fs generalizing s with
  | nil => exact ⟨(List.append_nil _).symm, (List.append_nil _).symm⟩
  | cons f fs ih =>
    rw [List.foldl_cons]
    cases f with
    | missing w =>
      obtain ⟨hp, hj⟩ := ih (s.log (.warned w))
      exact ⟨hp, hj.trans (List.append_assoc _ _ _)⟩
    | found family v =>
      rw [take, List.filterMap_cons_some (by rfl), List.map_cons, firstOfEach]
      split
      · next hk =>
        have hs : (family, Variant.bareId v.id) ∈ s.seen := hk
        rw [place_of_mem hs]
        exact ih s
      · next hk =>
        have hs : (family, Variant.bareId v.id) ∉ s.seen := hk
        rw [place_of_notMem hs]
        exact ⟨(ih _).1.trans (List.append_assoc _ _ _), (ih _).2⟩

/-- Every breakpoint starts with nothing seen, so what those before have placed stands in no one's
way. -/
theorem visit_eq (h : c.Holds d) (s : Walk) (e : String × Breakpoint) :
    (s.visit c e).placed = s.placed ++ atBreakpoint d e.1 e.2 ∧
      (s.visit c e).journal = s.journal ++ journalAt d e.1 e.2 := by
  rw [visit, atBreakpoint, journalAt]
  cases e.2.query? with
  | none => exact ⟨(List.append_nil _).symm, rfl⟩
  | some query =>
    obtain ⟨hp, hj⟩ := foldl_take e.1 query (findings d e.1 e.2) { s with seen := [] }
    have hn : ofBreakpoint (findings d e.1 e.2) e.1 query = firstOfEach
        (fun p ↦ (p.family, p.id)) []
        (((findings d e.1 e.2).filterMap Finding.variant?).map (ofSelected e.1 query)) := rfl
    simp only [foldl_follow_eq h, log, hp, hj, ← hn, List.length_append, Nat.add_sub_cancel_left,
      List.append_assoc, and_self]

theorem foldl_visit (h : c.Holds d) (bs : List (String × Breakpoint)) (s : Walk) :
    (bs.foldl (visit c) s).placed = s.placed ++ bs.flatMap (fun e ↦ atBreakpoint d e.1 e.2) ∧
      (bs.foldl (visit c) s).journal =
        s.journal ++ bs.flatMap (fun e ↦ journalAt d e.1 e.2) := by
  induction bs generalizing s with
  | nil => exact ⟨(List.append_nil _).symm, (List.append_nil _).symm⟩
  | cons e bs ih =>
    obtain ⟨hp, hj⟩ := visit_eq h s e
    rw [List.foldl_cons, (ih _).1, (ih _).2, hp, hj, List.flatMap_cons, List.flatMap_cons,
      List.append_assoc, List.append_assoc]
    exact ⟨rfl, rfl⟩

end Placement.Walk

/-- The loop finds and reports breakpoint by breakpoint what the configuration places. -/
theorem Config.walk_ofFiles (config : Config) (files : List (String × LayoutFile)) :
    (config.walk (IndexedCatalog.ofFiles files).1).placed =
        config.placements (Catalog.ofFiles files) ∧
      (config.walk (IndexedCatalog.ofFiles files).1).journal =
        config.placementJournal (Catalog.ofFiles files) :=
  Placement.Walk.foldl_visit (IndexedCatalog.holds_ofFiles files) config.breakpoints.toList {}

end LayoutSheet
