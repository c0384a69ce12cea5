import LayoutSheet.Watching
import Mathlib.Data.List.Chain

namespace LayoutSheet.Watcher

variable {σ : Type} [DecidableEq σ]

def after (w : Watcher σ) (looks : List σ) : Watcher σ :=
  looks.foldl (fun w now ↦ (w.observe now).1) w

def reported (first : σ) (looks : List σ) : List σ :=
  ((looks.zip ((mk first none).answers looks)).filter Prod.snd).map Prod.fst

/-- What the latest look that called for a build found; the first state, when there was none. -/
def latest (first : σ) (looks : List σ) : σ := (reported first looks).getLast?.getD first

section Step

variable (w : Watcher σ) (now : σ)

theorem observe_iff : (w.observe now).2 = true ↔ now ≠ w.settled ∧ w.unsettled = some now := by
  unfold observe
  split
  · next h => simp [h]
  · next h => split <;> simp_all

theorem settled_observe :
    (w.observe now).1.settled = if (w.observe now).2 then now else w.settled := by
  unfold observe
  split
  · rfl
  · split <;> rfl

theorem unsettled_observe :
    (w.observe now).1.unsettled =
      if now = (w.observe now).1.settled then none else some now := by
  unfold observe
  split
  · simp
  · split <;> simp_all

end Step

theorem length_answers (w : Watcher σ) (looks : List σ) :
    (w.answers looks).length = looks.length := by
  induction looks generalizing w with
  | nil => rfl
  | cons now looks ih => simp [answers, ih]

theorem after_append (w : Watcher σ) (looks more : List σ) :
    w.after (looks ++ more) = (w.after looks).after more := List.foldl_append

theorem answers_append (w : Watcher σ) (looks more : List σ) :
    w.answers (looks ++ more) = w.answers looks ++ (w.after looks).answers more := by
  induction looks generalizing w with
  | nil => rfl
  | cons now looks ih =>
    rw [List.cons_append, answers, answers, ih]
    rfl

theorem unsettled_after_concat (w : Watcher σ) (looks : List σ) (now : σ) :
    (w.after (looks ++ [now])).unsettled =
      if now = (w.after (looks ++ [now])).settled then none else some now := by
  rw [after_append]
  exact unsettled_observe (w.after looks) now

theorem getElem?_answers {looks : List σ} {k : Nat} {now : σ} (w : Watcher σ)
    (h : looks[k]? = some now) :
    (w.answers looks)[k]? = some ((w.after (looks.take k)).observe now).2 := by
  obtain ⟨hk, rfl⟩ := List.getElem?_eq_some_iff.1 h
  have hs : looks = looks.take k ++ looks[k] :: looks.drop (k + 1) := by
    rw [← List.drop_eq_getElem_cons hk, List.take_append_drop]
  have ht : (w.answers (looks.take k)).length = k := by
    rw [length_answers, List.length_take]
    omega
  conv_lhs => rw [hs]
  rw [answers_append, List.getElem?_append_right (by omega), ht, Nat.sub_self]
  rfl

section Reports

variable (first : σ) (looks : List σ) (now : σ)

theorem reported_concat :
    reported first (looks ++ [now]) = reported first looks ++
      if (((mk first none).after looks).observe now).2 then [now] else [] := by
  rw [reported, answers_append, List.zip_append (length_answers _ _).symm, List.filter_append,
    List.map_append]
  refine congrArg (reported first looks ++ ·) ?_
  cases h : (((mk first none).after looks).observe now).2 <;> simp [answers, h]

theorem settled_after : ((mk first none).after looks).settled = latest first looks := by
  induction looks using List.reverseRecOn with
  | nil => rfl
  | append_singleton looks now ih =>
    have hs := settled_observe ((mk first none).after looks) now
    rw [after_append, latest, reported_concat]
    refine hs.trans ?_
    rw [ih]
    split
    · simp
    · rw [List.append_nil]
      rfl

theorem isChain_reported : (first :: reported first looks).IsChain (· ≠ ·) := by
  induction looks using List.reverseRecOn with
  | nil => exact .singleton first
  | append_singleton looks now ih =>
    rw [reported_concat]
    split
    · next h =>
      have hne := ((observe_iff _ now).1 h).1
      rw [settled_after, latest] at hne
      rw [← List.cons_append]
      refine ih.append (.singleton now) ?_
      intro x hx y hy
      obtain rfl : now = y := by simpa using hy
      rw [List.getLast?_cons] at hx
      obtain rfl := Option.some.inj hx
      exact hne.symm
    · rwa [List.append_nil]

end Reports

theorem answers_of_isChain {w : Watcher σ} {looks : List σ} (hl : looks.IsChain (· ≠ ·))
    (hw : ∀ now ∈ looks.head?, w.unsettled ≠ some now) :
    (∀ a ∈ w.answers looks, a = false) ∧ (w.after looks).settled = w.settled := by
  induction looks generalizing w with
  | nil => exact ⟨by simp [answers], rfl⟩
  | cons now looks ih =>
    have hn : (w.observe now).2 = false := by
      rw [Bool.eq_false_iff]
      intro h
      exact hw now rfl ((observe_iff w now).1 h).2
    have hs : (w.observe now).1.settled = w.settled := by rw [settled_observe, hn]; rfl
    have hu : ∀ x ∈ looks.head?, (w.observe now).1.unsettled ≠ some x := by
      intro x hx h
      have hne : now ≠ x := hl.rel_head? hx
      rw [unsettled_observe] at h
      split at h
      · cases h
      · exact hne (Option.some.inj h)
    obtain ⟨ha, he⟩ := ih hl.tail hu
    exact ⟨List.forall_mem_cons.2 ⟨hn, ha⟩, he.trans hs⟩

theorem answers_of_forall_eq {w : Watcher σ} {looks : List σ} (h : ∀ x ∈ looks, x = w.settled) :
    ∀ a ∈ w.answers looks, a = false := by
  induction looks generalizing w with
  | nil => simp [answers]
  | cons now looks ih =>
    obtain ⟨hn, hl⟩ := List.forall_mem_cons.1 h
    have ho : w.observe now = ({ w with unsettled := none }, false) := by simp [observe, hn]
    rw [answers, ho]
    exact List.forall_mem_cons.2 ⟨rfl, ih hl⟩

structure SettlesChanges (first : σ) (looks : List σ) : Prop where
  answered : ((mk first none).answers looks).length = looks.length
  calls_iff : ∀ k, ((mk first none).answers looks)[k]? = some true ↔ ∃ j now, k = j + 1 ∧
    looks[j]? = some now ∧ looks[k]? = some now ∧ now ≠ latest first (looks.take k)
  apart : ∀ k, ((mk first none).answers looks)[k]? = some true →
    ((mk first none).answers looks)[k + 1]? ≠ some true
  /-- A change that no two looks agree on and that is then taken back. -/
  reverted : ∀ before changing back, looks = before ++ changing ++ back →
    (before.getLast?.toList ++ changing).IsChain (· ≠ ·) →
    (∀ x ∈ back, x = latest first before) →
    ∀ a ∈ ((mk first none).answers looks).drop before.length, a = false
  kept : ∀ k now, looks[k]? = some now → looks[k + 1]? = some now →
    ((mk first none).after (looks.take (k + 2))).settled = now
  built : ∀ k, ((mk first none).after (looks.take k)).settled = latest first (looks.take k)
  once : (first :: reported first looks).IsChain (· ≠ ·)

theorem take_succ_of_getElem? {α : Type} {l : List α} {k : Nat} {a : α} (h : l[k]? = some a) :
    l.take (k + 1) = l.take k ++ [a] := by
  rw [List.take_add_one, h]
  rfl

section Run

variable (first : σ) (looks : List σ)

theorem calls_iff (k : Nat) : ((mk first none).answers looks)[k]? = some true ↔
    ∃ j now, k = j + 1 ∧ looks[j]? = some now ∧ looks[k]? = some now ∧
      now ≠ latest first (looks.take k) := by
  cases hk : looks[k]? with
  | none =>
    have hlen : ((mk first none).answers looks).length ≤ k := by
      rw [length_answers]
      exact List.getElem?_eq_none_iff.1 hk
    rw [List.getElem?_eq_none hlen]
    simp
  | some now =>
    rw [getElem?_answers _ hk, Option.some_inj, observe_iff, settled_after]
    constructor
    · rintro ⟨hne, hu⟩
      cases k with
      | zero => cases hu
      | succ j =>
        obtain ⟨last, hj⟩ : ∃ last, looks[j]? = some last := by
          have hlen := (List.getElem?_eq_some_iff.1 hk).1
          exact ⟨looks[j], List.getElem?_eq_getElem (by omega)⟩
        rw [take_succ_of_getElem? hj, unsettled_after_concat] at hu
        split at hu
        · cases hu
        · exact ⟨j, now, rfl, hj.trans hu, rfl, hne⟩
    · rintro ⟨j, now, rfl, hj, hn, hne⟩
      obtain rfl := Option.some.inj hn
      refine ⟨hne, ?_⟩
      rw [take_succ_of_getElem? hj] at hne ⊢
      rw [unsettled_after_concat, settled_after, if_neg hne]

theorem settled_of_agree {k : Nat} {now : σ} (hk : looks[k]? = some now)
    (hk' : looks[k + 1]? = some now) :
    ((mk first none).after (looks.take (k + 2))).settled = now := by
  have hc := calls_iff first looks (k + 1)
  rw [getElem?_answers _ hk', Option.some_inj] at hc
  rw [take_succ_of_getElem? hk', after_append]
  refine (settled_observe ((mk first none).after (looks.take (k + 1))) now).trans ?_
  split
  · rfl
  · next hn =>
    rw [settled_after]
    by_contra hne
    exact hn (hc.2 ⟨k, now, rfl, hk, hk', Ne.symm hne⟩)

/-- A watcher calls for builds exactly when a change has settled. -/
theorem settlesChanges : SettlesChanges first looks where
  answered := length_answers _ looks
  calls_iff := calls_iff first looks
  apart k hk hk' := by
    obtain ⟨j, now, rfl, hj, hn, -⟩ := (calls_iff first looks k).1 hk
    obtain ⟨i, next, hi, hp, hn', hne⟩ := (calls_iff first looks (j + 2)).1 hk'
    obtain rfl : j + 1 = i := by omega
    obtain rfl := Option.some.inj (hn.symm.trans hp)
    exact hne ((settled_of_agree first looks hj hn).symm.trans (settled_after _ _))
  reverted before changing back hl hc hb := by
    subst hl
    have hu : ∀ now ∈ changing.head?, ((mk first none).after before).unsettled ≠ some now := by
      intro now hnow h
      obtain rfl | ⟨before, last, rfl⟩ := before.eq_nil_or_concat
      · cases h
      · rw [List.concat_eq_append, unsettled_after_concat] at h
        split at h
        · cases h
        · obtain rfl := Option.some.inj h
          rw [List.concat_eq_append, List.getLast?_append] at hc
          exact (List.IsChain.rel_head? hc hnow) rfl
    obtain ⟨hf, hs⟩ := answers_of_isChain (List.isChain_append.1 hc).2.1 hu
    have hback := answers_of_forall_eq (w := ((mk first none).after before).after changing)
      fun x hx ↦ (hb x hx).trans ((hs.trans (settled_after first before)).symm)
    rw [answers_append, answers_append, after_append, List.append_assoc,
      ← length_answers (mk first none) before, List.drop_left]
    exact List.forall_mem_append.2 ⟨hf, hback⟩
  kept k now := settled_of_agree first looks
  built k := settled_after first (looks.take k)
  once := isChain_reported first looks

end Run

example : (mk 1 none).answers [2, 2, 2, 3, 4, 4, 5, 4, 4] =
    [false, true, false, false, false, true, false, false, false] := by decide

end LayoutSheet.Watcher
