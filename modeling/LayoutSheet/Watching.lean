import LayoutSheet.Inputs.Directory

namespace LayoutSheet

/-- The state that the last build is for, and a different one that the last look found. -/
structure Watcher (σ : Type) where
  settled : σ
  unsettled : Option σ := none
  deriving DecidableEq, Repr

namespace Watcher

variable {σ : Type} [DecidableEq σ]

/-- A difference from what was built last has to be seen by two looks in a row before it has
settled. -/
def observe (w : Watcher σ) (now : σ) : Watcher σ × Bool :=
  if now = w.settled then ({ w with unsettled := none }, false)
  else if w.unsettled = some now then ({ settled := now }, true)
  else ({ w with unsettled := some now }, false)

def answers (w : Watcher σ) : List σ → List Bool
  | [] => []
  | now :: r => (w.observe now).2 :: (w.observe now).1.answers r

end Watcher

/-- A run that watches, from its first look on: the watcher, and the count of builds that changes
have called for. -/
structure Session (σ : Type) where
  watcher : Watcher σ
  generation : Nat := 0
  deriving DecidableEq, Repr

namespace Session

variable {σ : Type} {m : Type → Type} [Monad m]

def start (look : m σ) : m (Session σ) := do
  return { watcher := { settled := ← look } }

def next [DecidableEq σ] (look : m σ) (build : Nat → m Unit) (s : Session σ) : m (Session σ) := do
  let (watcher, changed) := s.watcher.observe (← look)
  if changed then
    build (s.generation + 1)
    return { watcher, generation := s.generation + 1 }
  else return { s with watcher }

end Session

/-- The watched files with the times of their last writing, in the order of paths, each path once.
Nothing stands for a file that is not there. -/
abbrev Times := List (String × Option Nat)

namespace Times

/-- One entry for each run of equal paths: the last. -/
def lastOfEach : Times → Times
  | [] => []
  | [a] => [a]
  | a :: b :: r =>
    if Path.components a.1 = Path.components b.1 then lastOfEach (b :: r)
    else a :: lastOfEach (b :: r)

def ofList (l : List (String × Option Nat)) : Times :=
  lastOfEach (l.mergeSort fun a b ↦ (Path.compare a.1 b.1).isLE)

abbrev Key := List (List Path.Component × Option Nat)

def key (t : Times) : Key := t.map fun (path, time) ↦ (Path.components path, time)

end Times

def Directory.times (d : Directory) (f : Files) : Times :=
  .ofList ((d.watched f).map fun path ↦ (path, f.time? path))

end LayoutSheet
