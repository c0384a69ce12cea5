import LayoutSheet.Build
import LayoutSheet.Watching
import LayoutSheet.FileTree.Writing
import LayoutSheet.Stylesheet.Compact
import LayoutSheet.Text.Terminal
import LayoutSheet.CommandLine.Options
import LayoutSheet.CommandLine.Filter

namespace LayoutSheet.CommandLine

inductive Notice where
  | event (e : Event)
  | wrote (path : String) (bytes : Nat) (rules : Option Nat)
  | finished (warnings : Nat)
  | watching
  | rebuilding (generation : Nat)
  | failed (generation : Nat) (chain : List String)
  deriving DecidableEq, Repr

namespace Notice

def level : Notice → Level
  | event e => e.level
  | finished _ => .warn
  | failed _ _ => .error
  | _ => .info

def channel : Notice → String
  | event e => e.channel
  | _ => "layout_css"

def message : Notice → String
  | event e => e.message
  | wrote path bytes (some rules) =>
    "wrote " ++ path ++ " (" ++ Decimal.kilobytes bytes ++ " KB, " ++ toString rules ++ " rule(s))"
  | wrote path bytes none => "wrote " ++ path ++ " (" ++ Decimal.kilobytes bytes ++ " KB)"
  | finished n => "build finished with " ++ toString n ++ " warning(s)"
  | watching => "watching for changes (ctrl-c to stop)"
  | rebuilding n => "rebuilding (generation " ++ toString n ++ ")"
  | failed n chain => "generation " ++ toString n ++ " failed: " ++ String.intercalate ": " chain

/-- The level's name in brackets, five places wide, and the message, its further lines indented. -/
def entry (n : Notice) : String :=
  let name := n.level.name
  "[" ++ name ++ String.ofList (List.replicate (5 - name.length) ' ') ++ "] "
    ++ String.intercalate "\n    " (n.message.splitOn "\n") ++ "\n"

end Notice

/-- The log without what only a terminal understands; each entry is written on its own. -/
def Filter.log (f : Filter) (ns : List Notice) : String :=
  String.join ((ns.filter fun n ↦ f.shows n.channel n.level n.message).map fun n ↦
    Text.Terminal.strip n.entry)

/-- A cause with its number, if there are several; further lines stand under the first. -/
def causeText (number : Option Nat) (text : String) : String :=
  let (first, next) := match number with
    | some n =>
      (String.ofList (List.replicate (5 - (toString n).length) ' ') ++ toString n ++ ": ",
        "       ")
    | none => ("    ", "    ")
  first ++ String.intercalate ("\n" ++ next) (text.splitOn "\n")

def causesText : List String → String
  | [] => ""
  | [cause] => "\n\nCaused by:\n" ++ causeText none cause
  | causes =>
    "\n\nCaused by:\n"
      ++ String.intercalate "\n" (causes.zipIdx.map fun (c, i) ↦ causeText (some i) c)

def reportText : List String → String
  | [] => "Error: \n"
  | top :: causes => "Error: " ++ top ++ causesText causes ++ "\n"

def BuildError.chain (e : BuildError) : List String :=
  e.message :: e.cause.message :: e.cause.cause?.toList

namespace Options

def directory (o : Options) : Directory := .ofConfig o.config o.layouts o.modules

def outputs (o : Options) (b : Build) : List (String × String × Option Nat) :=
  (o.output, b.css, some b.rules)
    :: if o.minify then [(Path.compacted o.output, Stylesheet.compact b.css, none)] else []

end Options

/-- Writes outputs in order, up to the first that fails. -/
def deliver {m : Type → Type} [Monad m] (write : String → String → m (Except WriteFault Unit)) :
    List (String × String × Option Nat) → m (List Notice × Option WriteFault)
  | [] => return ([], none)
  | (path, text, rules) :: r => do
    match ← write path text with
    | .error e => return ([], some e)
    | .ok () =>
      let (ns, e) ← deliver write r
      return (.wrote path text.utf8ByteSize rules :: ns, e)

def attempt {m : Type → Type} [Monad m] (write : String → String → m (Except WriteFault Unit))
    (o : Options) (f : Files) : m (List Notice × Option (List String)) :=
  match (o.directory.inputs f).build o.format with
  | .error e => return ([], some (("build from " ++ o.config ++ " failed") :: BuildError.chain e))
  | .ok b => do
    let (ns, fault) ← deliver write (o.outputs b)
    let log := b.journal.map .event ++ ns
    match fault with
    | some e => return (log, some e.chain)
    | none =>
      let n := b.warnings.length
      return (if n = 0 then log else log ++ [.finished n], none)

/-- The log of a build in a watching run. A failure is logged and ends nothing. -/
def rebuild {m : Type → Type} [Monad m] (write : String → String → m (Except WriteFault Unit))
    (o : Options) (f : Files) (generation : Nat) : m (List Notice) := do
  let (log, failure) ← attempt write o f
  return .rebuilding generation :: log ++ (failure.map (.failed generation)).toList

structure Surroundings (m : Type → Type) where
  files : m Files
  look : m Times.Key
  write : String → String → m (Except WriteFault Unit)
  log : List Notice → m Unit
  report : List String → m Unit

namespace Surroundings

variable {m : Type → Type} [Monad m] (s : Surroundings m) (o : Options)

/-- The first build, and whether the run goes on after it. -/
def first : m Bool := do
  let (log, failure) ← attempt s.write o (← s.files)
  s.log log
  match failure with
  | some chain =>
    s.report chain
    return false
  | none => return true

def launch : m (Except Nat (Session Times.Key)) := do
  if ← s.first o then
    if o.watch then
      s.log [.watching]
      return .ok (← Session.start s.look)
    else return .error 0
  else return .error 1

def again (generation : Nat) : m Unit := do
  s.log (← rebuild s.write o (← s.files) generation)

def poll (session : Session Times.Key) : m (Session Times.Key) := session.next s.look (s.again o)

end Surroundings

/-- What a run shows and leaves behind; without a code it goes on watching. -/
structure Outcome where
  code : Option Nat
  shown : String
  logged : String
  tree : FileTree

def Stop.text (s : Stop) : String := Text.Terminal.strip s.message ++ "\n"

def Stop.outcome (tree : FileTree) (s : Stop) : Outcome :=
  if s.code = 0 then ⟨some 0, s.text, "", tree⟩ else ⟨some s.code, "", s.text, tree⟩

def filterOf (o : Options) (spec : Option String) : Filter × String :=
  let base := Filter.ofVerbosity o.verbosity
  match spec with
  | none => (base, "")
  | some s =>
    let (f, faults) := base.read s
    (f, String.join (faults.map fun t ↦ "warning: " ++ t ++ ", ignoring it\n"))

structure Scene where
  tree : FileTree
  logged : String

def inTree (d : Directory) (f : Filter) : Surroundings (StateM Scene) where
  files := return (← get).tree.files
  look := return (d.times (← get).tree.files).key
  write path text := modifyGet fun s ↦
    let (tree, r) := s.tree.write path text 0
    (r, { s with tree })
  log ns := modify fun s ↦ { s with logged := s.logged ++ f.log ns }
  report chain := modify fun s ↦ { s with logged := s.logged ++ reportText chain }

def run (tree : FileTree) (arguments : List String) (spec : Option String) : Outcome :=
  match Options.read arguments with
  | .error s => s.outcome tree
  | .ok o =>
    let (filter, faults) := filterOf o spec
    let (start, scene) := (inTree o.directory filter).launch o ⟨tree, faults⟩
    let code := match start with
      | .error code => some code
      | .ok _ => none
    ⟨code, "", scene.logged, scene.tree⟩

end LayoutSheet.CommandLine
