import LayoutSheet.FileTree

namespace LayoutSheet

inductive WriteFault where
  | cannotCreate (directory : String) (fault : FileFault)
  | cannotReplace (path : String) (fault : FileFault)
  deriving DecidableEq, Repr

def WriteFault.chain : WriteFault → List String
  | cannotCreate directory fault => ["failed to create " ++ directory, fault.message]
  | cannotReplace path fault =>
    ["failed to replace " ++ path, "failed to persist temporary file: " ++ fault.message,
      fault.message]

/-- The directory of an output; without one, the current directory. -/
def Path.outputDirectory (path : String) : String :=
  match Path.parent? path with
  | some d => if d.isEmpty then "." else d
  | none => "."

/-- The text is finished before it takes the place of the old one, and directories on the way are
made. -/
def FileTree.write (t : FileTree) (path text : String) (time : Nat) :
    FileTree × Except WriteFault Unit :=
  let directory := Path.outputDirectory path
  match t.makeDirectories directory with
  | (t, .error e) => (t, .error (.cannotCreate directory e))
  | (t, .ok ()) =>
    match t.replace path (.text text) time with
    | .ok t => (t, .ok ())
    | .error e => (t, .error (.cannotReplace path e))

end LayoutSheet
