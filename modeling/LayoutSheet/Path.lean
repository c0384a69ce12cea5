namespace LayoutSheet.Path

inductive Component where
  | root
  | here
  | up
  | name (s : String)
  deriving DecidableEq, Repr

def lead : List Char → List Char × List Char
  | '/' :: r => (['/'], r)
  | ['.'] => (['.'], [])
  | '.' :: '/' :: r => (['.'], '/' :: r)
  | cs => ([], cs)

def segments : List Char → List (List Char)
  | [] => [[]]
  | c :: cs =>
    if c = '/' then [] :: segments cs
    else match segments cs with
      | s :: r => (c :: s) :: r
      | [] => [[c]]

def joinSegments : List (List Char) → List Char
  | [] => []
  | [s] => s
  | s :: r => s ++ '/' :: joinSegments r

def isStep (s : List Char) : Bool := s ≠ [] && s ≠ ['.']

def trimSteps (ss : List (List Char)) : List (List Char) :=
  (ss.reverse.dropWhile fun s ↦ !isStep s).reverse

/-- Empty segments and single dots between others count for nothing, except a slash or a dot at the
very front. -/
def components (path : String) : List Component :=
  let (front, body) := lead path.toList
  let first := match front with
    | ['/'] => [.root]
    | ['.'] => [.here]
    | _ => []
  first ++ ((segments body).filter isStep).map fun s ↦
    if s = ['.', '.'] then .up else .name (String.ofList s)

def parent? (path : String) : Option String :=
  let (front, body) := lead path.toList
  match (trimSteps (segments body)).reverse with
  | _ :: r => some (String.ofList (front ++ joinSegments (trimSteps r.reverse)))
  | [] => if front = ['.'] then some "" else none

def fileName? (path : String) : Option String :=
  match (components path).getLast? with
  | some (.name s) => some s
  | _ => none

/-- A relative path goes on from the base, an absolute one replaces it. -/
def join (base path : String) : String :=
  if path.startsWith "/" then path
  else if base.isEmpty || base.endsWith "/" then base ++ path
  else base ++ "/" ++ path

/-- The path with another last component; one without a name gets it appended. -/
def withFileName (path name : String) : String :=
  if (fileName? path).isSome then join ((parent? path).getD path) name else join path name

/-- A name cut at its last dot, unless the dot is the first character. -/
def cutName (name : String) : String × Option String :=
  let cs := name.toList.reverse
  match cs.dropWhile (· ≠ '.') with
  | '.' :: before@(_ :: _) =>
    (String.ofList before.reverse, some (String.ofList (cs.takeWhile (· ≠ '.')).reverse))
  | _ => (name, none)

def stem? (path : String) : Option String := (fileName? path).map fun n ↦ (cutName n).1

def extension? (path : String) : Option String := (fileName? path).bind fun n ↦ (cutName n).2

/-- The components as keys: the root before the dot, that before two dots, and names last. -/
def Component.key : Component → Nat × String
  | root => (0, "")
  | here => (1, "")
  | up => (2, "")
  | name s => (3, s)

def Component.compare (a b : Component) : Ordering :=
  (Ord.compare a.key.1 b.key.1).then (Ord.compare a.key.2 b.key.2)

def compareComponents : List Component → List Component → Ordering
  | [], [] => .eq
  | [], _ :: _ => .lt
  | _ :: _, [] => .gt
  | a :: as, b :: bs => (a.compare b).then (compareComponents as bs)

def compare (a b : String) : Ordering := compareComponents (components a) (components b)

/-- Where the compact form of a stylesheet goes: beside it, with one more word in its name. -/
def compacted (path : String) : String :=
  withFileName path
    ((stem? path).getD "" ++ ".min." ++ (extension? path).getD "css")

end LayoutSheet.Path
