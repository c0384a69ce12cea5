import LayoutSheet.FileTree

namespace LayoutSheet

structure Files where
  read : String → Except FileFault String
  /-- The names of the files right inside a directory, in any order. -/
  list : String → Except FileFault (List String)
  time? : String → Option Nat

def FileTree.files (t : FileTree) : Files where
  read := t.read
  list := t.list
  time? := t.time?

namespace Files

def withExtension (f : Files) (directory extension : String) : Except FileFault (List String) :=
  (f.list directory).map fun names ↦
    ((names.filter fun n ↦ Path.extension? n = some extension).mergeSort fun a b ↦ a ≤ b).map
      (Path.join directory)

end Files

end LayoutSheet
