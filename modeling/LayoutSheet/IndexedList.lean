import Mathlib.Data.List.Nodup

namespace LayoutSheet

universe u

structure IndexedList (β : Type u) where
  entries : List (String × β) := []
  index : Std.HashMap String Nat := ∅

namespace IndexedList

variable {β : Type u}

instance : EmptyCollection (IndexedList β) := ⟨{}⟩

instance : Inhabited (IndexedList β) := ⟨∅⟩

instance [BEq β] : BEq (IndexedList β) :=
  ⟨fun m n ↦ m.entries == n.entries && m.index == n.index⟩

def toList (m : IndexedList β) : List (String × β) := m.entries

def keys (m : IndexedList β) : List String := m.entries.map Prod.fst

def values (m : IndexedList β) : List β := m.entries.map Prod.snd

def size (m : IndexedList β) : Nat := m.entries.length

def isEmpty (m : IndexedList β) : Bool := m.entries.isEmpty

def contains (m : IndexedList β) (k : String) : Bool := m.index.contains k

def at? (m : IndexedList β) (slot : Nat) : Option β := m.entries[slot]?.map Prod.snd

def get? (m : IndexedList β) (k : String) : Option β := m.index[k]?.bind m.at?

def push (m : IndexedList β) (k : String) (v : β) : IndexedList β where
  entries := m.entries ++ [(k, v)]
  index := m.index.insert k m.entries.length

def modify (m : IndexedList β) (slot : Nat) (f : β → β) : IndexedList β :=
  { m with entries := m.entries.modify slot fun e ↦ (e.1, f e.2) }

/-- Puts `v` in the place of the value at `k`, which is returned, or at the end. -/
def insert (m : IndexedList β) (k : String) (v : β) : Option β × IndexedList β :=
  match m.index[k]? with
  | some slot => (m.at? slot, m.modify slot fun _ ↦ v)
  | none => (none, m.push k v)

/-- The slot of `k` and the list with it; a key not yet there gets `init`. -/
def reserve (m : IndexedList β) (k : String) (init : β) : Nat × IndexedList β :=
  match m.index[k]? with
  | some slot => (slot, m)
  | none => (m.entries.length, m.push k init)

def getOrInsert (m : IndexedList β) (k : String) (init : β) : Option β × IndexedList β :=
  ((m.reserve k init).2.at? (m.reserve k init).1, (m.reserve k init).2)

def upsert (m : IndexedList β) (k : String) (init : β) (f : β → β) : IndexedList β :=
  (m.reserve k init).2.modify (m.reserve k init).1 f

def ofList (l : List (String × β)) : IndexedList β := l.foldl (fun m e ↦ (m.insert e.1 e.2).2) ∅

end IndexedList

end LayoutSheet
