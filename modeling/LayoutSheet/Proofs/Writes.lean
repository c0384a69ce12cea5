import LayoutSheet.Proofs.Placements
import LayoutSheet.Writes

namespace LayoutSheet

theorem Selector.exists_scope_eq (element base declared : String) :
    ∃ rest, scope element base declared = base ++ rest := by
  rw [scope]
  split
  · exact ⟨"", by rw [String.append_empty]⟩
  · split
    · exact ⟨" > *", rfl⟩
    · split
      · exact ⟨_, rfl⟩
      · exact ⟨_, by rw [String.append_assoc]⟩

namespace Placement

variable {element : String}

theorem exists_of_mem_resets {p : Placement} {w : Write} (hw : w ∈ p.resets element) :
    ∃ rest declarations,
      w = p.write (Selector.ofFamily element p.breakpoint p.family ++ rest) declarations := by
  simp only [resets, List.mem_cons, List.not_mem_nil, or_false] at hw
  obtain rfl | rfl := hw
  · exact ⟨"", _, by rw [String.append_empty]⟩
  · exact ⟨" > *", _, rfl⟩

theorem exists_of_mem_ownWrites {p : Placement} {w : Write} (hw : w ∈ p.ownWrites element) :
    ∃ rest declarations, w = p.write (p.selector element ++ rest) declarations := by
  simp only [ownWrites, containerWrites, ruleWrites, List.mem_append, List.mem_map] at hw
  obtain hw | ⟨rule, -, rfl⟩ := hw
  · split at hw
    · cases hw
    · obtain rfl := List.mem_singleton.1 hw
      exact ⟨"", _, by rw [String.append_empty]⟩
  · obtain ⟨rest, hr⟩ := Selector.exists_scope_eq element (p.selector element) rule.selector
    exact ⟨rest, _, by rw [hr]⟩

theorem of_mem_ownWrites {p : Placement} {w : Write} (hw : w ∈ p.ownWrites element) :
    w.query = p.query ∧ w.breakpoint = p.breakpoint := by
  obtain ⟨rest, declarations, rfl⟩ := exists_of_mem_ownWrites hw
  exact ⟨rfl, rfl⟩

theorem exists_of_mem_writesFrom {seen : List (String × String × String)} {ps : List Placement}
    {w : Write} (hw : w ∈ writesFrom element seen ps) :
    ∃ p ∈ ps, w ∈ p.resets element ∨ w ∈ p.ownWrites element := by
  induction ps generalizing seen with
  | nil => cases hw
  | cons p ps ih =>
    rw [writesFrom] at hw
    split at hw
    · obtain hw | hw := List.mem_append.1 hw
      · exact ⟨p, List.mem_cons_self, .inr hw⟩
      · obtain ⟨q, hq, h⟩ := ih hw
        exact ⟨q, List.mem_cons_of_mem p hq, h⟩
    · obtain hw | hw := List.mem_append.1 hw
      · exact ⟨p, List.mem_cons_self, List.mem_append.1 hw⟩
      · obtain ⟨q, hq, h⟩ := ih hw
        exact ⟨q, List.mem_cons_of_mem p hq, h⟩

theorem mem_writesFrom_of_mem_ownWrites {seen : List (String × String × String)}
    {ps : List Placement} {p : Placement} {w : Write} (hp : p ∈ ps)
    (hw : w ∈ p.ownWrites element) : w ∈ writesFrom element seen ps := by
  induction ps generalizing seen with
  | nil => cases hp
  | cons q ps ih =>
    rw [writesFrom]
    obtain rfl | hp := List.mem_cons.1 hp
    · split <;> simp [hw]
    · split
      · exact List.mem_append_right _ (ih hp)
      · exact List.mem_append_right _ (ih hp)

theorem exists_of_mem_writes {ps : List Placement} {w : Write} (hw : w ∈ writes element ps) :
    ∃ p ∈ ps, w.query = p.query ∧ w.breakpoint = p.breakpoint := by
  obtain ⟨p, hp, hw | hw⟩ := exists_of_mem_writesFrom hw
  · obtain ⟨rest, declarations, rfl⟩ := exists_of_mem_resets hw
    exact ⟨p, hp, rfl, rfl⟩
  · obtain ⟨rest, declarations, rfl⟩ := exists_of_mem_ownWrites hw
    exact ⟨p, hp, rfl, rfl⟩

theorem writes_ne_nil {ps : List Placement} (h : ps ≠ []) : writes element ps ≠ [] := by
  cases ps with
  | nil => exact absurd rfl h
  | cons p ps => simp [writes, writesFrom, resets]

theorem writesFrom_congr {s t : List (String × String × String)} {ps : List Placement}
    (h : ∀ p ∈ ps, p.resetKey ∈ s ↔ p.resetKey ∈ t) :
    writesFrom element s ps = writesFrom element t ps := by
  induction ps generalizing s t with
  | nil => rfl
  | cons p ps ih =>
    have hps : ∀ q ∈ ps, q.resetKey ∈ s ↔ q.resetKey ∈ t := fun q hq ↦
      h q (List.mem_cons_of_mem p hq)
    have hcons : ∀ q ∈ ps, q.resetKey ∈ p.resetKey :: s ↔ q.resetKey ∈ p.resetKey :: t :=
      fun q hq ↦ by rw [List.mem_cons, List.mem_cons, hps q hq]
    simp only [writesFrom, h p List.mem_cons_self, ih hps, ih hcons]

theorem writesFrom_append {seen : List (String × String × String)} {ps qs : List Placement} :
    writesFrom element seen (ps ++ qs) =
      writesFrom element seen ps ++ writesFrom element (ps.map resetKey ++ seen) qs := by
  induction ps generalizing seen with
  | nil => rfl
  | cons p ps ih =>
    rw [List.cons_append, writesFrom, writesFrom, ih, ih]
    by_cases hp : p.resetKey ∈ seen
    · have hs : writesFrom element (ps.map resetKey ++ seen) qs =
          writesFrom element ((p :: ps).map resetKey ++ seen) qs := by
        refine writesFrom_congr fun q _ ↦ ?_
        have hk : q.resetKey = p.resetKey → q.resetKey ∈ seen := fun h ↦ h ▸ hp
        simp only [List.mem_append, List.map_cons, List.mem_cons]
        tauto
      rw [if_pos hp, if_pos hp, hs, List.append_assoc]
    · have hs : writesFrom element (ps.map resetKey ++ p.resetKey :: seen) qs =
          writesFrom element ((p :: ps).map resetKey ++ seen) qs := by
        refine writesFrom_congr fun q _ ↦ ?_
        simp only [List.mem_append, List.map_cons, List.mem_cons]
        tauto
      rw [if_neg hp, if_neg hp, hs]
      simp only [List.append_assoc]

/-- One more placement adds its own writes, before them its resets when no earlier one has its
key. -/
theorem writes_concat (ps : List Placement) (p : Placement) :
    writes element (ps ++ [p]) = writes element ps ++
      ((if p.resetKey ∈ ps.map resetKey then [] else p.resets element) ++ p.ownWrites element) := by
  rw [writes, writesFrom_append, writesFrom, writesFrom, writesFrom, List.append_nil, writes]
  split
  · rw [List.append_nil, List.nil_append]
  · rw [List.append_nil]

theorem exists_writes_append (element : String) (before after : List Placement) :
    ∃ rest, writes element (before ++ after) = writes element before ++ rest := by
  rw [writes, writes, writesFrom_append]
  exact ⟨_, rfl⟩

theorem writes_of_first (element : String) {before : List Placement} {p : Placement}
    (hp : p.resetKey ∉ before.map resetKey) (after : List Placement) :
    ∃ rest, writes element (before ++ p :: after) =
      writes element before ++ (p.resets element ++ rest) := by
  rw [writes, writesFrom_append, writesFrom, List.append_nil, if_neg hp, List.append_assoc]
  exact ⟨_, rfl⟩

/-- Parts of a run that share no reset pair write as each alone. -/
theorem writes_flatMap {ι : Type} {rs : List ι} {part : ι → List Placement}
    (h : rs.Pairwise fun r s ↦ ∀ p ∈ part r, ∀ q ∈ part s, p.resetKey ≠ q.resetKey) :
    writes element (rs.flatMap part) = rs.flatMap fun r ↦ writes element (part r) := by
  induction h with
  | nil => rfl
  | @cons r rs hr _ ih =>
    have hd : ∀ p ∈ part r, ∀ q ∈ rs.flatMap part, p.resetKey ≠ q.resetKey := by
      intro p hp q hq
      obtain ⟨s, hs, hq⟩ := List.mem_flatMap.1 hq
      exact hr s hs p hp q hq
    rw [List.flatMap_cons, List.flatMap_cons, ← ih, writes, writesFrom_append, writes]
    refine congrArg (writes element (part r) ++ ·) (writesFrom_congr fun q hq ↦ ?_)
    simpa using fun p hp ↦ hd p hp q hq

end Placement

end LayoutSheet
