import LayoutSheet.CommandLine.Run
import LayoutSheet.Proofs.Looks
import LayoutSheet.Proofs.Settling
import Mathlib.Logic.Relation

namespace LayoutSheet

/-- A step from states to states that can end in several ways, each with a result. -/
def Possible (σ α : Type) : Type := σ → α → σ → Prop

instance (σ : Type) : Monad (Possible σ) where
  pure a := fun s b s' ↦ b = a ∧ s' = s
  bind x f := fun s b s'' ↦ ∃ a s', x s a s' ∧ f a s' b s''

section Trees

variable {d : Directory} {t t' u : FileTree}

/-- Trees with the same watched files, whatever these hold. -/
structure Directory.SameFiles (d : Directory) (t t' : FileTree) : Prop where
  watched : d.watched t'.files = d.watched t.files
  isFile : ∀ p ∈ d.watched t.files, t'.isFile p = t.isFile p

structure Directory.Alike (d : Directory) (t t' : FileTree) : Prop where
  watched : d.watched t'.files = d.watched t.files
  find : ∀ p ∈ d.watched t.files, t'.find p = t.find p

/-- Watched files are written anew in place, and one of them gets a time that it had in none of the
trees. -/
structure Directory.Edited (d : Directory) (t : FileTree) (past : List FileTree) (t' : FileTree) :
    Prop extends d.SameFiles t t' where
  fresh : ∃ p ∈ d.watched t.files, ∃ time, t'.time? p = some time ∧
    ∀ u ∈ t :: past, u.time? p ≠ some time

structure Directory.Precedes (d : Directory) (u t : FileTree) : Prop extends d.SameFiles u t where
  time : ∃ p ∈ d.watched u.files, u.time? p ≠ t.time? p

namespace Directory

theorem SameFiles.refl (t : FileTree) : d.SameFiles t t := ⟨rfl, fun _ _ ↦ rfl⟩

theorem SameFiles.trans (h : d.SameFiles u t) (h' : d.SameFiles t t') : d.SameFiles u t' where
  watched := h'.watched.trans h.watched
  isFile p hp := (h'.isFile p (h.watched ▸ hp)).trans (h.isFile p hp)

theorem SameFiles.present_iff (h : d.SameFiles t t') : d.Present t' ↔ d.Present t := by
  rw [Present, h.watched]
  exact forall₂_congr fun p hp ↦ by rw [h.isFile p hp]

section Alike

variable (h : d.Alike t t') {p : String} (hp : p ∈ d.watched t.files)
include h

theorem Alike.sameFiles : d.SameFiles t t' where
  watched := h.watched
  isFile p hp := by rw [FileTree.isFile, FileTree.isFile, h.find p hp]

include hp

theorem Alike.time?_eq : t'.time? p = t.time? p := by
  rw [FileTree.time?, FileTree.time?, h.find p hp]

theorem Alike.read_eq : t'.read p = t.read p := by rw [FileTree.read, FileTree.read, h.find p hp]

omit hp

theorem Alike.key_eq : d.key t' = d.key t := by
  have ht : (d.watched t.files).map (fun p ↦ (p, t'.files.time? p)) =
      (d.watched t.files).map fun p ↦ (p, t.files.time? p) :=
    List.map_congr_left fun p hp ↦ congrArg (Prod.mk p) (h.time?_eq hp)
  rw [key, times, h.watched, ht]
  rfl

theorem Alike.precedes (hu : d.Precedes u t) : d.Precedes u t' := by
  obtain ⟨p, hp, hne⟩ := hu.time
  refine ⟨hu.toSameFiles.trans h.sameFiles, p, hp, ?_⟩
  rwa [h.time?_eq (hu.watched ▸ hp)]

end Alike

theorem Edited.precedes {past : List FileTree} (h : d.Edited t past t')
    (hpast : ∀ u ∈ past, d.Precedes u t) (hu : u ∈ t :: past) : d.Precedes u t' := by
  have hsame : d.SameFiles u t := by
    rcases List.mem_cons.1 hu with rfl | hu
    · exact .refl u
    · exact (hpast u hu).toSameFiles
  obtain ⟨p, hp, time, htime, hfresh⟩ := h.fresh
  refine ⟨hsame.trans h.toSameFiles, p, hsame.watched ▸ hp, ?_⟩
  rw [htime]
  exact hfresh u hu

theorem Precedes.key_ne (h : d.Precedes u t) (ht : d.Present t) : d.key u ≠ d.key t := by
  obtain ⟨p, hp, hne⟩ := h.time
  intro hk
  exact hne (time?_eq_of_key_eq h.watched.symm (h.present_iff.1 ht) ht hk hp)

end Directory

end Trees

structure World where
  tree : FileTree
  /-- The trees before the edits, the latest first. -/
  past : List FileTree := []
  /-- What the polls since the latest edit found, the latest first. -/
  looks : List Times.Key := []
  built : Option FileTree := none

namespace World

def init (t : FileTree) : World where
  tree := t

def UpToDate (d : Directory) (w : World) : Prop :=
  ∃ t ∈ w.built, ∀ p ∈ d.watched w.tree.files, t.read p = w.tree.read p

/-- What is done from outside: edits, and whatever leaves the watched files as they are. -/
inductive Change (d : Directory) : World → World → Prop
  | edit {w : World} {t : FileTree} (h : d.Edited w.tree w.past t) :
      Change d w { w with tree := t, past := w.tree :: w.past, looks := [] }
  | aside {w : World} {t : FileTree} (h : d.Alike w.tree t) : Change d w { w with tree := t }

abbrev Changes (d : Directory) : World → World → Prop := Relation.ReflTransGen (Change d)

def Recorded (d : Directory) (w : World) : Prop := ∀ u ∈ w.past, d.Precedes u w.tree

section Changes

variable {d : Directory} {w w' : World} (h : Changes d w w')
include h

theorem Recorded.changes (hr : w.Recorded d) : w'.Recorded d := by
  induction h with
  | refl => exact hr
  | tail _ hc ih =>
    cases hc with
    | edit ht => exact fun u hu ↦ ht.precedes ih hu
    | aside ht => exact fun u hu ↦ ht.precedes (ih u hu)

theorem present_changes (hp : d.Present w.tree) : d.Present w'.tree := by
  induction h with
  | refl => exact hp
  | tail _ hc ih =>
    cases hc with
    | edit ht => exact ht.present_iff.2 ih
    | aside ht => exact ht.sameFiles.present_iff.2 ih

end Changes

def read (w : World) : World := { w with built := some w.tree }

def seen (d : Directory) (w : World) : World := { w with looks := d.key w.tree :: w.looks }

def begun (w : World) : World := { w with looks := [] }

end World

open World

/-- A run among changes from outside; what it writes itself is not watched. -/
def CommandLine.amid (d : Directory) : CommandLine.Surroundings (Possible World) where
  files := fun w f w' ↦ ∃ v, Changes d w v ∧ f = v.tree.files ∧ w' = v.read
  look := fun w k w' ↦ ∃ v, Changes d w v ∧ k = d.key v.tree ∧ w' = v.seen d
  write _ _ := fun w _ w' ↦ ∃ t, d.Alike w.tree t ∧ w' = { w with tree := t }
  log _ := fun w _ w' ↦ w' = w
  report _ := fun w _ w' ↦ w' = w

namespace CommandLine

variable {o : Options} {w w' : World} {s s' : Session Times.Key}

section Steps

variable {d : Directory}

theorem changes_of_deliver {outputs : List (String × String × Option Nat)}
    {r : List Notice × Option WriteFault} (h : deliver (amid d).write outputs w r w') :
    Changes d w w' := by
  induction outputs generalizing w r with
  | nil =>
    obtain ⟨-, rfl⟩ := h
    exact .refl
  | cons output outputs ih =>
    obtain ⟨result, v, ⟨t, ht, rfl⟩, h⟩ := h
    refine .head (.aside ht) ?_
    cases result with
    | error e =>
      obtain ⟨-, rfl⟩ := h
      exact .refl
    | ok _ =>
      obtain ⟨⟨ns, e⟩, v, hd, -, rfl⟩ := h
      exact ih hd

theorem changes_of_attempt {f : Files} {r : List Notice × Option (List String)}
    (h : attempt (amid d).write o f w r w') : Changes d w w' := by
  unfold attempt at h
  cases hb : (o.directory.inputs f).build o.format with
  | error e =>
    simp only [hb] at h
    obtain ⟨-, rfl⟩ := h
    exact .refl
  | ok b =>
    simp only [hb] at h
    obtain ⟨⟨ns, fault⟩, v, hd, h⟩ := h
    cases fault with
    | some e =>
      obtain ⟨-, rfl⟩ := h
      exact changes_of_deliver hd
    | none =>
      obtain ⟨-, rfl⟩ := h
      exact changes_of_deliver hd

theorem exists_build_of_attempt {f : Files} {log : List Notice}
    (h : attempt (amid d).write o f w (log, none) w') :
    ∃ b, (o.directory.inputs f).build o.format = .ok b := by
  unfold attempt at h
  cases hb : (o.directory.inputs f).build o.format with
  | error e =>
    simp only [hb] at h
    obtain ⟨h, -⟩ := h
    cases h
  | ok b => exact ⟨b, rfl⟩

theorem of_launch (h : (amid d).launch o w (.ok s) w') :
    ∃ v v', Changes d w v ∧ (∃ b, (o.directory.inputs v.tree.files).build o.format = .ok b) ∧
      Changes d v.read v' ∧ s = { watcher := { settled := d.key v'.tree } } ∧ w' = v'.seen d := by
  obtain ⟨goes, v₁, hfirst, h⟩ := h
  obtain ⟨f, v₂, ⟨v, hv, rfl, rfl⟩, ⟨log, failure⟩, v₃, ha, u, v₄, rfl, hend⟩ := hfirst
  cases failure with
  | some chain =>
    obtain ⟨-, v₅, -, rfl, rfl⟩ := hend
    obtain ⟨he, -⟩ := h
    cases he
  | none =>
    obtain ⟨rfl, rfl⟩ := hend
    cases hw : o.watch with
    | false =>
      simp only [hw] at h
      obtain ⟨he, -⟩ := h
      cases he
    | true =>
      simp only [hw] at h
      obtain ⟨-, v₅, rfl, s', v₆, ⟨k, v₇, ⟨v', hv', rfl, rfl⟩, rfl, rfl⟩, he, rfl⟩ := h
      obtain rfl := Except.ok.inj he
      exact ⟨v, v', hv, exists_build_of_attempt ha, (changes_of_attempt ha).trans hv', rfl, rfl⟩

theorem of_poll (h : (amid d).poll o s w s' w') : ∃ v, Changes d w v ∧
    ((s.watcher.observe (d.key v.tree)).2 = false ∧
      s' = { s with watcher := (s.watcher.observe (d.key v.tree)).1 } ∧ w' = v.seen d ∨
    (s.watcher.observe (d.key v.tree)).2 = true ∧
      s' = { watcher := (s.watcher.observe (d.key v.tree)).1, generation := s.generation + 1 } ∧
      ∃ v', Changes d (v.seen d) v' ∧ Changes d v'.read w') := by
  obtain ⟨k, v₁, ⟨v, hv, rfl, rfl⟩, h⟩ := h
  refine ⟨v, hv, ?_⟩
  cases hc : (s.watcher.observe (d.key v.tree)).2 with
  | false =>
    simp only [hc] at h
    obtain ⟨rfl, rfl⟩ := h
    exact .inl ⟨rfl, rfl, rfl⟩
  | true =>
    simp only [hc] at h
    obtain ⟨u, v₂, ⟨f, v₃, ⟨v', hv', rfl, rfl⟩, r, v₄, ⟨r', v₅, ha, rfl, rfl⟩, rfl⟩, rfl, rfl⟩ := h
    exact .inr ⟨rfl, rfl, v', hv', changes_of_attempt ha⟩

end Steps

section Invariants

variable {d : Directory} {first : Prop}

structure Tracks (d : Directory) (s : Session Times.Key) (w : World) : Prop where
  recorded : w.Recorded d
  present : d.Present w.tree
  settled : ∃ u ∈ w.tree :: w.past, d.key u = s.watcher.settled
  latest : ∀ k rest, w.looks = k :: rest → k = d.key w.tree ∧
    s.watcher.unsettled = if k = s.watcher.settled then none else some k
  agreed : ∀ k k' rest, w.looks = k :: k' :: rest → s.watcher.settled = k

/-- Where nothing was edited since the settled look, the latest build is up to date when it is not
the first. -/
def Settles (d : Directory) (first : Prop) (s : Session Times.Key) (w : World) : Prop :=
  d.key w.tree = s.watcher.settled → (w.UpToDate d ↔ 0 < s.generation ∨ first)

theorem Tracks.key_ne (h : Tracks d s w) {t : FileTree} (ht : d.Edited w.tree w.past t) :
    d.key t ≠ s.watcher.settled := by
  obtain ⟨u, hu, hk⟩ := h.settled
  rw [← hk]
  exact ((ht.precedes h.recorded hu).key_ne (ht.present_iff.2 h.present)).symm

theorem Tracks.change (h : Tracks d s w) (hc : Change d w w') : Tracks d s w' := by
  have hrecorded := h.recorded.changes (.single hc)
  have hpresent := present_changes (.single hc) h.present
  obtain ⟨u, hu, hk⟩ := h.settled
  cases hc with
  | edit ht =>
    exact {
      recorded := hrecorded
      present := hpresent
      settled := ⟨u, List.mem_cons_of_mem _ hu, hk⟩
      latest := fun k rest hl ↦ by cases hl
      agreed := fun k k' rest hl ↦ by cases hl }
  | @aside t ht =>
    refine {
      recorded := hrecorded
      present := hpresent
      settled := ?_
      latest := fun k rest hl ↦ by
        rw [ht.key_eq]
        exact h.latest k rest hl
      agreed := h.agreed }
    rcases List.mem_cons.1 hu with rfl | hu
    · exact ⟨t, List.mem_cons_self, ht.key_eq.trans hk⟩
    · exact ⟨u, List.mem_cons_of_mem t hu, hk⟩

theorem Settles.change (hb : Settles d first s w) (h : Tracks d s w) (hc : Change d w w') :
    Settles d first s w' := by
  cases hc with
  | edit ht => exact fun hk ↦ absurd hk (h.key_ne ht)
  | @aside t ht =>
    intro hk
    rw [← hb (ht.key_eq.symm.trans hk)]
    have hread (b : FileTree) : (∀ p ∈ d.watched t.files, b.read p = t.read p) ↔
        ∀ p ∈ d.watched w.tree.files, b.read p = w.tree.read p := by
      rw [ht.watched]
      exact forall₂_congr fun p hp ↦ by rw [ht.read_eq hp]
    exact exists_congr fun b ↦ and_congr_right fun _ ↦ hread b

theorem Tracks.changes (h : Tracks d s w) (hc : Changes d w w') : Tracks d s w' := by
  induction hc with
  | refl => exact h
  | tail _ hc ih => exact ih.change hc

theorem Settles.changes (hb : Settles d first s w) (h : Tracks d s w) (hc : Changes d w w') :
    Settles d first s w' := by
  induction hc with
  | refl => exact hb
  | tail hcs hc ih => exact ih.change (h.changes hcs) hc

theorem Tracks.seen (h : Tracks d s w) (generation : Nat) :
    Tracks d ⟨(s.watcher.observe (d.key w.tree)).1, generation⟩ (w.seen d) := by
  have hsettled := Watcher.settled_observe s.watcher (d.key w.tree)
  have hcalls := Watcher.observe_iff s.watcher (d.key w.tree)
  refine {
    recorded := h.recorded
    present := h.present
    settled := ?_
    latest := fun k rest hl ↦ ?_
    agreed := fun k k' rest hl ↦ ?_ }
  · rw [hsettled]
    split
    · exact ⟨w.tree, List.mem_cons_self, rfl⟩
    · exact h.settled
  · obtain ⟨rfl, -⟩ := List.cons.inj hl
    exact ⟨rfl, Watcher.unsettled_observe s.watcher (d.key w.tree)⟩
  · obtain ⟨rfl, hrest⟩ := List.cons.inj hl
    obtain ⟨rfl, hu⟩ := h.latest k' rest hrest
    rw [hsettled]
    split
    · rfl
    · next hc =>
      by_contra hne
      rw [if_neg (Ne.symm hne)] at hu
      exact hc (hcalls.2 ⟨Ne.symm hne, hu⟩)

theorem Tracks.poll (h : Tracks d s w) (hb : Settles d first s w)
    (hp : (amid d).poll o s w s' w') : Tracks d s' w' ∧ Settles d first s' w' := by
  obtain ⟨v, hv, hcase⟩ := of_poll hp
  have hv' := h.changes hv
  have hsettled := Watcher.settled_observe s.watcher (d.key v.tree)
  obtain ⟨hc, rfl, rfl⟩ | ⟨hc, rfl, u, hu, hw⟩ := hcase
  · refine ⟨hv'.seen s.generation, ?_⟩
    have hsettles := hb.changes h hv
    intro hk
    rw [hsettled, hc] at hk
    exact hsettles hk
  · -- The build reads the tree as it is, whatever happened since the look that called for it.
    have hread : Tracks d ⟨(s.watcher.observe (d.key v.tree)).1, s.generation + 1⟩ u.read := by
      have hu := (hv'.seen (s.generation + 1)).changes hu
      exact ⟨hu.recorded, hu.present, hu.settled, hu.latest, hu.agreed⟩
    have hsettles :
        Settles d first ⟨(s.watcher.observe (d.key v.tree)).1, s.generation + 1⟩ u.read := fun _ ↦
      iff_of_true ⟨u.tree, rfl, fun p _ ↦ rfl⟩ (.inl (Nat.succ_pos s.generation))
    exact ⟨hread.changes hw, hsettles.changes hread hw⟩

theorem tracks_of_launch {t : FileTree} {o : Options}
    (h : (amid o.directory).launch o (.init t) (.ok s) w) :
    Tracks o.directory s w.begun ∧ Settles o.directory (w.UpToDate o.directory) s w.begun := by
  obtain ⟨v, v', hv, ⟨b, hb⟩, hv', rfl, rfl⟩ := of_launch h
  have hrecorded : v.Recorded o.directory := Recorded.changes hv fun u hu ↦ by cases hu
  have hconfig : ∃ c, o.directory.loadConfig v.tree.files = .ok c := by
    cases hc : o.directory.loadConfig v.tree.files with
    | ok c => exact ⟨c, rfl⟩
    | error e =>
      have hi : (o.directory.inputs v.tree.files).config = .error e := hc
      rw [Inputs.build, hi] at hb
      cases hb
  obtain ⟨c, hc⟩ := hconfig
  have hpresent : o.directory.Present v.tree :=
    Directory.present_of_isFile_config (Directory.isFile_config_of_loadConfig hc)
  have hrecorded' := Recorded.changes hv' hrecorded
  have hpresent' := present_changes hv' hpresent
  refine ⟨?_, fun _ ↦ (or_iff_right (Nat.lt_irrefl 0)).symm⟩
  exact {
    recorded := hrecorded'
    present := hpresent'
    settled := ⟨v'.tree, List.mem_cons_self, rfl⟩
    latest := fun k rest hl ↦ by cases hl
    agreed := fun k k' rest hl ↦ by cases hl }

end Invariants

inductive Moves (o : Options) : Session Times.Key × World → Session Times.Key × World → Prop
  | poll {s s' : Session Times.Key} {w w' : World}
      (h : (amid o.directory).poll o s w s' w') : Moves o (s, w) (s', w')
  | sleep {s : Session Times.Key} {w w' : World} (h : Changes o.directory w w') :
      Moves o (s, w) (s, w')

theorem Tracks.moves {o : Options} {first : Prop} {a b : Session Times.Key × World}
    (h : Tracks o.directory a.1 a.2) (hb : Settles o.directory first a.1 a.2)
    (hm : Relation.ReflTransGen (Moves o) a b) :
    Tracks o.directory b.1 b.2 ∧ Settles o.directory first b.1 b.2 := by
  induction hm with
  | refl => exact ⟨h, hb⟩
  | tail _ hstep ih =>
    obtain ⟨h, hb⟩ := ih
    cases hstep with
    | poll hp => exact h.poll hb hp
    | sleep hc => exact ⟨h.changes hc, hb.changes h hc⟩

/-- When two polls in a row have found the same and nothing was edited since the first of them, the
latest build has read what is there if a change has called for a build, and otherwise exactly if the
first build had read what the first look found. -/
theorem upToDate_iff {o : Options} {t : FileTree} {s s' : Session Times.Key} {w w' : World}
    (hl : (amid o.directory).launch o (.init t) (.ok s) w)
    (hm : Relation.ReflTransGen (Moves o) (s, w.begun) (s', w')) {k : Times.Key}
    {rest : List Times.Key} (hk : w'.looks = k :: k :: rest) :
    w'.UpToDate o.directory ↔ 0 < s'.generation ∨ w.UpToDate o.directory := by
  obtain ⟨hstart, hfirst⟩ := tracks_of_launch hl
  obtain ⟨htracks, hsettles⟩ :=
    Tracks.moves (a := (s, w.begun)) (b := (s', w')) hstart hfirst hm
  have hsettled := htracks.agreed k k rest hk
  have hkey := (htracks.latest k (k :: rest) hk).1
  exact hsettles (hkey.symm.trans hsettled.symm)

/-- No edit is lost: when two polls in a row have found the same and nothing was edited since the
first of them, the latest build has read what is there. -/
def KeepsUp (o : Options) : Prop :=
  ∀ (t : FileTree) (s s' : Session Times.Key) (w w' : World) (k : Times.Key)
    (rest : List Times.Key), (amid o.directory).launch o (.init t) (.ok s) w →
    Relation.ReflTransGen (Moves o) (s, w.begun) (s', w') → w'.looks = k :: k :: rest →
    w'.UpToDate o.directory

section Examples

variable {d : Directory} {b : Build}

theorem exists_deliver (outputs : List (String × String × Option Nat)) (w : World) :
    ∃ ns, deliver (amid d).write outputs w (ns, none) w := by
  induction outputs with
  | nil => exact ⟨[], rfl, rfl⟩
  | cons output outputs ih =>
    obtain ⟨ns, hns⟩ := ih
    exact ⟨_, .ok (), w, ⟨w.tree, ⟨rfl, fun _ _ ↦ rfl⟩, rfl⟩, (ns, none), w, hns, rfl, rfl⟩

theorem exists_attempt {f : Files} (hb : (o.directory.inputs f).build o.format = .ok b)
    (w : World) : ∃ log, attempt (amid d).write o f w (log, none) w := by
  obtain ⟨ns, hns⟩ := exists_deliver (d := d) (o.outputs b) w
  unfold attempt
  simp only [hb]
  exact ⟨_, (ns, none), w, hns, rfl, rfl⟩

theorem launch_of_build (ho : o.watch = true)
    (hb : (o.directory.inputs w.tree.files).build o.format = .ok b) (hc : Changes d w.read w') :
    (amid d).launch o w (.ok { watcher := { settled := d.key w'.tree } }) (w'.seen d) := by
  obtain ⟨log, hlog⟩ := exists_attempt (d := d) hb w.read
  refine ⟨true, w.read, ⟨w.tree.files, w.read, ⟨w, .refl, rfl, rfl⟩, (log, none), w.read, hlog, (),
    w.read, rfl, rfl, rfl⟩, ?_⟩
  simp only [ho]
  exact ⟨(), w.read, rfl, _, w'.seen d, ⟨_, w'.seen d, ⟨w', hc, rfl, rfl⟩, rfl, rfl⟩, rfl, rfl⟩

theorem poll_of_quiet {before after : Watcher Times.Key} (generation : Nat)
    (hc : before.observe (d.key w.tree) = (after, false)) :
    (amid d).poll o ⟨before, generation⟩ w ⟨after, generation⟩ (w.seen d) := by
  refine ⟨d.key w.tree, w.seen d, ⟨w, .refl, rfl, rfl⟩, ?_⟩
  simp only [hc]
  exact ⟨rfl, rfl⟩

theorem poll_of_settled {before after : Watcher Times.Key} (generation : Nat)
    (hc : before.observe (d.key w.tree) = (after, true))
    (hb : (o.directory.inputs w.tree.files).build o.format = .ok b) :
    (amid d).poll o ⟨before, generation⟩ w ⟨after, generation + 1⟩ (w.seen d).read := by
  obtain ⟨log, hlog⟩ := exists_attempt (d := d) hb (w.seen d).read
  refine ⟨d.key w.tree, w.seen d, ⟨w, .refl, rfl, rfl⟩, ?_⟩
  simp only [hc]
  exact ⟨(), (w.seen d).read, ⟨w.tree.files, (w.seen d).read, ⟨w.seen d, .refl, rfl, rfl⟩, _,
    (w.seen d).read, ⟨(log, none), (w.seen d).read, hlog, rfl, rfl⟩, rfl⟩, rfl, rfl⟩

def configured (text : String) (time : Nat) : FileTree where
  entries := [(["layout.config.json"], .file (.text text) time), (["layouts"], .directory none)]

def unnamed : FileTree := configured "\x7b\x7d" 1

def named : FileTree := configured "\x7b\"layer\":\"b\"\x7d" 2

def watching : Options := .ofDraft { flags := [.watch] }

theorem exists_build {t : FileTree} (ht : t ∈ [unnamed, named]) :
    ∃ b, (watching.directory.inputs t.files).build watching.format = .ok b := by
  have hok : ∀ t ∈ [unnamed, named],
      ((watching.directory.inputs t.files).build watching.format).isOk = true := by
    decide +kernel
  have h := hok t ht
  cases hb : (watching.directory.inputs t.files).build watching.format with
  | ok b => exact ⟨b, rfl⟩
  | error e =>
    rw [hb] at h
    cases h

theorem edited_named : watching.directory.Edited unnamed [] named where
  watched := by decide +kernel
  isFile := by decide +kernel
  fresh := ⟨"layout.config.json", by decide +kernel, 2, by decide +kernel, by decide +kernel⟩

theorem not_keepsUp_watching : ¬ KeepsUp watching := by
  obtain ⟨b, hb⟩ := exists_build (t := unnamed) (by simp)
  have hlaunch := launch_of_build (w := .init unnamed) (d := watching.directory) rfl hb
    (.single (.edit edited_named))
  have hquiet (k : Times.Key) :
      Watcher.observe { settled := k } k = ({ settled := k }, false) := by
    rw [Watcher.observe, if_pos rfl]
  have hpoll (w : World) (hw : w.tree = named) : (amid watching.directory).poll watching
      { watcher := { settled := watching.directory.key named } } w
      { watcher := { settled := watching.directory.key named } } (w.seen watching.directory) :=
    poll_of_quiet 0 (hw ▸ hquiet _)
  intro h
  obtain ⟨t, ht, hread⟩ := h unnamed _ _ _ _ _ _ hlaunch
    (.tail (.single (.poll (hpoll _ rfl))) (.poll (hpoll _ rfl))) rfl
  obtain rfl := Option.some.inj ht
  have hconfig := hread "layout.config.json" (by decide +kernel)
  revert hconfig
  decide +kernel

theorem upToDate_named : ∃ s s' w w' k rest,
    (amid watching.directory).launch watching (.init unnamed) (.ok s) w ∧
    Relation.ReflTransGen (Moves watching) (s, w.begun) (s', w') ∧ w'.looks = k :: k :: rest ∧
    w'.tree = named ∧ w'.UpToDate watching.directory := by
  obtain ⟨b, hb⟩ := exists_build (t := unnamed) (by simp)
  obtain ⟨b', hb'⟩ := exists_build (t := named) (by simp)
  have hlaunch := launch_of_build (w := .init unnamed) (d := watching.directory) rfl hb .refl
  have hedit : Changes watching.directory ((init unnamed).read.seen watching.directory).begun
      { tree := named, past := [unnamed], built := some unnamed } :=
    .single (.edit edited_named)
  have hne : watching.directory.key named ≠ watching.directory.key unnamed := by decide +kernel
  have hfirst : Watcher.observe { settled := watching.directory.key unnamed }
      (watching.directory.key named) = ({
        settled := watching.directory.key unnamed
        unsettled := some (watching.directory.key named) }, false) := by
    simp [Watcher.observe, hne]
  have hsecond : Watcher.observe {
        settled := watching.directory.key unnamed
        unsettled := some (watching.directory.key named) }
      (watching.directory.key named) = ({ settled := watching.directory.key named }, true) := by
    simp [Watcher.observe, hne]
  have hmoves := ((Relation.ReflTransGen.single (Moves.sleep hedit)).tail
    (Moves.poll (poll_of_quiet 0 hfirst))).tail (Moves.poll (poll_of_settled 0 hsecond hb'))
  refine ⟨_, _, _, _, _, _, hlaunch, hmoves, rfl, rfl, ?_⟩
  exact (upToDate_iff hlaunch hmoves rfl).2 (.inl (Nat.succ_pos 0))

end Examples

end CommandLine

end LayoutSheet
