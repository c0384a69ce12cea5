import LayoutSheet.Json.Token

namespace LayoutSheet.Json

inductive ListStop where
  | closed
  /-- The text ends behind the opening bracket or an item. -/
  | cut
  /-- An item is followed by neither a comma nor the end. -/
  | stray
  /-- A comma is followed by the closing bracket. -/
  | danglingClose
  /-- A comma is followed by the end of the text. -/
  | danglingCut
  deriving DecidableEq, Repr

inductive ObjectStop where
  | closed
  | cut
  | stray
  | danglingClose
  | danglingCut
  /-- Something that is no key stands where a key has to. -/
  | keyless (found : Token)

/-- A text that is not JSON has a tree too: where the tokens cannot go on, the tree records what
stands there, and nothing behind it is read. -/
inductive Tree where
  | word (w : Word)
  | numeral (n : Numeral)
  | string (text : Except Fault String)
  | list (items : List Tree) (stop : ListStop)
  | object (members : List (Except Fault String × Tree)) (stop : ObjectStop)
  /-- No value can begin here. -/
  | broken (found : Option Token)
  /-- The colon that leads to a value is not here. -/
  | unpaired (found : Option Token)

namespace Tree

abbrev Member := Except Fault String × Tree

mutual

def value : Nat → List Token → Tree × List Token
  | 0, _ => (.broken none, [])
  | _ + 1, [] => (.broken none, [])
  | n + 1, t :: ts =>
    match t with
    | .word w => (.word w, ts)
    | .numeral k => (.numeral k, ts)
    | .string s => (.string s, ts)
    | .openList =>
      match ts with
      | [] => (.list [] .cut, [])
      | .closeList :: ts => (.list [] .closed, ts)
      | ts =>
        let (items, stop, ts) := items n ts
        (.list items stop, ts)
    | .openObject =>
      match ts with
      | [] => (.object [] .cut, [])
      | .closeObject :: ts => (.object [] .closed, ts)
      | ts =>
        let (members, stop, ts) := members n ts
        (.object members stop, ts)
    | t => (.broken (some t), [])

def items : Nat → List Token → List Tree × ListStop × List Token
  | 0, _ => ([], .cut, [])
  | n + 1, ts =>
    let (v, ts) := value n ts
    match ts with
    | [] => ([v], .cut, [])
    | .closeList :: ts => ([v], .closed, ts)
    | [.comma] => ([v], .danglingCut, [])
    | .comma :: .closeList :: ts => ([v], .danglingClose, ts)
    | .comma :: ts =>
      let (vs, stop, ts) := items n ts
      (v :: vs, stop, ts)
    | _ => ([v], .stray, [])

def members : Nat → List Token → List Member × ObjectStop × List Token
  | 0, _ => ([], .cut, [])
  | _ + 1, [] => ([], .cut, [])
  | n + 1, .string key :: ts =>
    let (v, ts) := valueOf n ts
    match ts with
    | [] => ([(key, v)], .cut, [])
    | .closeObject :: ts => ([(key, v)], .closed, ts)
    | [.comma] => ([(key, v)], .danglingCut, [])
    | .comma :: .closeObject :: ts => ([(key, v)], .danglingClose, ts)
    | .comma :: ts =>
      let (ms, stop, ts) := members n ts
      ((key, v) :: ms, stop, ts)
    | _ => ([(key, v)], .stray, [])
  | _ + 1, t :: _ => ([], .keyless t, [])

def valueOf : Nat → List Token → Tree × List Token
  | 0, _ => (.unpaired none, [])
  | n + 1, .colon :: ts => value n ts
  | _ + 1, [] => (.unpaired none, [])
  | _ + 1, t :: _ => (.unpaired (some t), [])

end

/-- The tree of all tokens, and the tokens behind it. Each step of a value takes a token, and no
more than two steps lie between one token and the next. -/
def ofTokens (ts : List Token) : Tree × List Token := value (3 * ts.length + 1) ts

end Tree

end LayoutSheet.Json
