import LayoutSheet.Pattern.Expr
import LayoutSheet.Pattern.Fault

namespace LayoutSheet.Pattern

open Text (Category Script)

namespace Property

/-- Case, blanks, dashes and low lines count for nothing, and neither does a leading "is". -/
def plainName (name : String) : String :=
  let cs := name.toList.map Char.toLower
  let (marked, cs) := match cs with
    | 'i' :: 's' :: r => (true, r)
    | cs => (false, cs)
  let cs := cs.filter fun c ↦ c ≠ ' ' && c ≠ '_' && c ≠ '-' && c.toNat < 0x80
  if marked && cs = ['c'] then "isc" else .ofList cs

def letterCase : List Category := [.lowercaseLetter, .titlecaseLetter, .uppercaseLetter]

def ofCategoryName? : String → Option Property
  | "any" => some any
  | "ascii" => some ascii
  | "assigned" => some assigned
  | "cn" | "unassigned" => some unassigned
  | "c" | "other" => some .other
  | "cc" | "control" | "cntrl" => some (categories [.control])
  | "cf" | "format" => some (categories [.format])
  | "co" | "privateuse" => some (categories [.privateUse])
  | "l" | "letter" => some (categories Text.letterCategories)
  | "lc" | "casedletter" => some (categories letterCase)
  | "ll" | "lowercaseletter" => some (categories [.lowercaseLetter])
  | "lm" | "modifierletter" => some (categories [.modifierLetter])
  | "lo" | "otherletter" => some (categories [.otherLetter])
  | "lt" | "titlecaseletter" => some (categories [.titlecaseLetter])
  | "lu" | "uppercaseletter" => some (categories [.uppercaseLetter])
  | "m" | "mark" | "combiningmark" => some (categories Text.markCategories)
  | "mc" | "spacingmark" => some (categories [.spacingMark])
  | "me" | "enclosingmark" => some (categories [.enclosingMark])
  | "mn" | "nonspacingmark" => some (categories [.nonspacingMark])
  | "n" | "number" => some (categories [.decimalNumber, .letterNumber, .otherNumber])
  | "nd" | "decimalnumber" | "digit" => some digit
  | "nl" | "letternumber" => some (categories [.letterNumber])
  | "no" | "othernumber" => some (categories [.otherNumber])
  | "p" | "punctuation" | "punct" =>
    some (categories [.connectorPunctuation, .dashPunctuation, .openPunctuation,
      .closePunctuation, .initialPunctuation, .finalPunctuation, .otherPunctuation])
  | "pc" | "connectorpunctuation" => some (categories [.connectorPunctuation])
  | "pd" | "dashpunctuation" => some (categories [.dashPunctuation])
  | "pe" | "closepunctuation" => some (categories [.closePunctuation])
  | "pf" | "finalpunctuation" => some (categories [.finalPunctuation])
  | "pi" | "initialpunctuation" => some (categories [.initialPunctuation])
  | "po" | "otherpunctuation" => some (categories [.otherPunctuation])
  | "ps" | "openpunctuation" => some (categories [.openPunctuation])
  | "s" | "symbol" =>
    some (categories [.mathSymbol, .currencySymbol, .modifierSymbol, .otherSymbol])
  | "sc" | "currencysymbol" => some (categories [.currencySymbol])
  | "sk" | "modifiersymbol" => some (categories [.modifierSymbol])
  | "sm" | "mathsymbol" => some (categories [.mathSymbol])
  | "so" | "othersymbol" => some (categories [.otherSymbol])
  | "z" | "separator" =>
    some (categories [.spaceSeparator, .lineSeparator, .paragraphSeparator])
  | "zl" | "lineseparator" => some (categories [.lineSeparator])
  | "zp" | "paragraphseparator" => some (categories [.paragraphSeparator])
  | "zs" | "spaceseparator" => some (categories [.spaceSeparator])
  | _ => none

def ofScriptName? (name : String) : Option Property :=
  if (Script.ofName? name).isSome then some (script name) else none

def ofPlainName? : String → Option Property
  | "alpha" | "alphabetic" => some alphabetic
  | "lower" | "lowercase" => some lowercase
  | "upper" | "uppercase" => some uppercase
  | "space" | "wspace" | "whitespace" => some blank
  | name => (ofCategoryName? name).or (ofScriptName? name)

/-- No character is a surrogate. -/
def isSurrogateName (name : String) : Bool := name = "cs" || name = "surrogate"

def find (name : String) (value : Option String) : Except Flaw Property :=
  let name := plainName name
  match value.map plainName with
  | none =>
    match ofPlainName? name with
    | some p => .ok p
    | none => .error (if isSurrogateName name then .unknownValue else .unknownProperty)
  | some value =>
    let found :=
      if name = "gc" || name = "generalcategory" then some (ofCategoryName? value)
      else if name = "sc" || name = "script" || name = "scx" || name = "scriptextensions" then
        some (ofScriptName? value)
      else none
    match found with
    | none => .error .unknownProperty
    | some none => .error .unknownValue
    | some (some p) => .ok p

end Property

end LayoutSheet.Pattern
