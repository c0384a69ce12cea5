import LayoutSheet.LoadError
import LayoutSheet.Path

namespace LayoutSheet

inductive Content where
  | text (s : String)
  | bytes (b : List UInt8)
  deriving DecidableEq, Repr

inductive Entry where
  | file (content : Content) (time : Nat)
  /-- The time of a directory may not be known. -/
  | directory (time : Option Nat)
  deriving DecidableEq, Repr

def Entry.time? : Entry → Option Nat
  | file _ time => some time
  | directory time => time

/-- Entries under the names that lead to them from the root; the root itself is not listed. -/
structure FileTree where
  entries : List (List String × Entry) := []
  deriving DecidableEq, Repr

namespace FileTree

/-- A place that a path leads to; above the root there are no names. -/
structure Spot where
  names : Option (List String)
  entry : Entry
  deriving DecidableEq, Repr

def start (path : List Char) : Spot where
  names := if path.head? = some '/' then none else some []
  entry := .directory none

def entry? (t : FileTree) (names : List String) : Option Entry :=
  if names.isEmpty then some (.directory none) else t.entries.lookup names

/-- The longest name of an entry, in bytes. -/
def maxName : Nat := 255

/-- The longest path, in bytes. -/
def maxPath : Nat := 4095

def up (s : Spot) : Spot where
  names := s.names.bind fun ns ↦ if ns.isEmpty then none else some ns.dropLast
  entry := .directory none

def child (t : FileTree) (s : Spot) (name : String) : Except FileFault Spot :=
  if maxName < name.utf8ByteSize then .error .nameTooLong
  else match s.names with
    | none => .error .notFound
    | some ns =>
      match t.entry? (ns ++ [name]) with
      | none => .error .notFound
      | some e => .ok ⟨some (ns ++ [name]), e⟩

def step (t : FileTree) (s : Spot) (segment : List Char) : Except FileFault Spot :=
  match s.entry with
  | .file _ _ => .error .notDirectory
  | .directory _ =>
    if !Path.isStep segment then .ok s
    else if segment = ['.', '.'] then .ok (up s)
    else t.child s (String.ofList segment)

def walk (t : FileTree) (s : Spot) : List (List Char) → Except FileFault Spot
  | [] => .ok s
  | segment :: r =>
    match t.step s segment with
    | .error e => .error e
    | .ok s => t.walk s r

def checkPath (path : String) : Except FileFault Unit :=
  if path.isEmpty then .error .notFound
  else if maxPath < path.utf8ByteSize then .error .nameTooLong
  else .ok ()

/-- Every step of a path has to start in a directory and to end at something that is there. What
lies above the root is a directory with nothing in it. -/
def place (t : FileTree) (path : String) : Except FileFault Spot :=
  t.walk (start path.toList) (Path.segments path.toList)

def find (t : FileTree) (path : String) : Except FileFault Spot :=
  if path.toList.contains '\x00' then .error .nulInName
  else do
    checkPath path
    t.place path

def isDirectory (t : FileTree) (path : String) : Bool :=
  match t.find path with
  | .ok ⟨_, .directory _⟩ => true
  | _ => false

def isFile (t : FileTree) (path : String) : Bool :=
  match t.find path with
  | .ok ⟨_, .file _ _⟩ => true
  | _ => false

def read (t : FileTree) (path : String) : Except FileFault String :=
  match t.find path with
  | .error e => .error e
  | .ok ⟨_, .directory _⟩ => .error .isDirectory
  | .ok ⟨_, .file (.text s) _⟩ => .ok s
  | .ok ⟨_, .file (.bytes _) _⟩ => .error .notText

def fileNames (t : FileTree) (names : List String) : List String :=
  t.entries.filterMap fun (ns, e) ↦
    match e, ns.getLast? with
    | .file _ _, some name => if ns.dropLast = names then some name else none
    | _, _ => none

def list (t : FileTree) (path : String) : Except FileFault (List String) :=
  match t.find path with
  | .error e => .error e
  | .ok ⟨_, .file _ _⟩ => .error .notDirectory
  | .ok ⟨some names, .directory _⟩ =>
    .ok ((t.fileNames names).filter fun n ↦ t.isFile (Path.join path n))
  | .ok ⟨none, .directory _⟩ => .ok []

def time? (t : FileTree) (path : String) : Option Nat :=
  (t.find path).toOption.bind (·.entry.time?)

def put (t : FileTree) (names : List String) (e : Entry) : FileTree where
  entries := t.entries.filter (fun x ↦ x.1 ≠ names) ++ [(names, e)]

def putDeep (t : FileTree) (names : List String) (e : Entry) : FileTree :=
  let above := (List.range names.length).map fun n ↦ names.take n
  let step (t : FileTree) (ns : List String) : FileTree :=
    if (t.entry? ns).isSome then t else t.put ns (.directory none)
  (above.foldl step t).put names e

def remove (t : FileTree) (names : List String) : FileTree where
  entries := t.entries.filter fun x ↦ !names.isPrefixOf x.1

/-- A path that something is to be made at: the place for it, its last segment, and whether a
slash follows. -/
def target (t : FileTree) (path : String) : Except FileFault (Spot × List Char × Bool) := do
  checkPath path
  let segments := Path.segments path.toList
  let named := (segments.reverse.dropWhile List.isEmpty).reverse
  match named.getLast? with
  | none => return (start path.toList, [], false)
  | some last =>
    let s ← t.walk (start path.toList) named.dropLast
    match s.entry with
    | .file _ _ => throw .notDirectory
    | .directory _ => return (s, last, named.length < segments.length)

def makeDirectory (t : FileTree) (path : String) : Except FileFault FileTree :=
  if path.toList.contains '\x00' then .error .nulInName
  else do
    let (s, last, _) ← t.target path
    if !Path.isStep last || last = ['.', '.'] then throw .occupied
    else match t.child s (String.ofList last) with
      | .ok _ => throw .occupied
      | .error .notFound =>
        match s.names with
        | some ns => return t.put (ns ++ [String.ofList last]) (.directory none)
        | none => throw .notFound
      | .error e => throw e

def lineage : Nat → String → List String
  | 0, path => [path]
  | n + 1, path =>
    match Path.parent? path with
    | none => [path]
    | some above => path :: lineage n above

/-- A failure to make a directory is none when the directory is there. -/
def unlessThere (t : FileTree) (path : String) (e : FileFault) : Except FileFault Unit :=
  if t.isDirectory path then .ok () else .error e

def makeLineage (t : FileTree) : List String → FileTree × Except FileFault Unit
  | [] => (t, .error (.other "failed to create whole tree"))
  | path :: above =>
    if path.isEmpty then (t, .ok ())
    else match t.makeDirectory path with
      | .ok t => (t, .ok ())
      | .error .notFound =>
        match t.makeLineage above with
        | (t, .error e) => (t, .error e)
        | (t, .ok ()) =>
          match t.makeDirectory path with
          | .ok t => (t, .ok ())
          | .error e => (t, t.unlessThere path e)
      | .error e => (t, t.unlessThere path e)

def makeDirectories (t : FileTree) (path : String) : FileTree × Except FileFault Unit :=
  t.makeLineage (lineage path.length path)

/-- Moves a finished file to a path, over the file that is there. Above the root it is out of
sight. -/
def replace (t : FileTree) (path : String) (content : Content) (time : Nat) :
    Except FileFault FileTree :=
  if path.toList.contains '\x00' then .error .invalidArgument
  else do
    let (s, last, slash) ← t.target path
    if !Path.isStep last || last = ['.', '.'] then throw .busy
    else match t.child s (String.ofList last) with
      | .error .nameTooLong => throw .nameTooLong
      | found =>
        if slash then throw .notDirectory
        else match found with
          | .ok ⟨_, .directory _⟩ => throw .isDirectory
          | _ =>
            match s.names with
            | some ns => return t.put (ns ++ [String.ofList last]) (.file content time)
            | none => return t

end FileTree

end LayoutSheet
