import LayoutSheet.Json.Fault
import LayoutSheet.Json.Number
import LayoutSheet.Text.Quotation

namespace LayoutSheet.Json

inductive Kind where
  | null
  | boolean (b : Bool)
  | number (n : Number)
  | string (s : String)
  | list
  | object

def Kind.message : Kind → String
  | null => "null"
  | boolean b => "boolean `" ++ (if b then "true" else "false") ++ "`"
  | number (.whole n) => "integer `" ++ toString n ++ "`"
  | number (.real x) => "floating point `" ++ (Number.real x).text ++ "`"
  | string s => "string " ++ Text.quote s
  | list => "sequence"
  | object => "map"

inductive Problem where
  | fault (f : Fault)
  | wrongKind (found : Kind) (expected : String)
  | wrongValue (found : Kind) (expected : String)
  | wrongLength (found : Nat) (expected : String)
  | missingField (name : String)
  | duplicateField (name : String)
  | unknownChoice (found : String) (first second : String)
  | noForm (name : String)

def Problem.message : Problem → String
  | fault f => f.message
  | wrongKind found expected => "invalid type: " ++ found.message ++ ", expected " ++ expected
  | wrongValue found expected => "invalid value: " ++ found.message ++ ", expected " ++ expected
  | wrongLength found expected =>
    "invalid length " ++ toString found ++ ", expected " ++ expected
  | missingField name => "missing field `" ++ name ++ "`"
  | duplicateField name => "duplicate field `" ++ name ++ "`"
  | unknownChoice found first second =>
    "unknown variant `" ++ found ++ "`, expected `" ++ first ++ "` or `" ++ second ++ "`"
  | noForm name => "data did not match any variant of untagged enum " ++ name

end LayoutSheet.Json
