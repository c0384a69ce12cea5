namespace LayoutSheet

inductive ModuleList where
  | core
  | common
  deriving DecidableEq, Repr

def ModuleList.name : ModuleList → String
  | core => "core"
  | common => "common"

inductive Warning where
  | missingType (breakpoint type : String)
  | missingVariant (breakpoint type id : String)
  | brokenLayout (type reason : String)
  | repeatedVariant (type id : String)
  | missingModule (list : ModuleList) (module : String)
  | brokenModule (list : ModuleList) (module reason : String)
  deriving DecidableEq, Repr

def Warning.message : Warning → String
  | missingType breakpoint type =>
    "layout '" ++ type ++ "' not found (breakpoint '" ++ breakpoint ++ "')"
  | missingVariant breakpoint type id =>
    "layout variant '" ++ id ++ "' not found in " ++ type ++ " (breakpoint '" ++ breakpoint ++ "')"
  | brokenLayout type reason => "failed to load layout file '" ++ type ++ "': " ++ reason
  | repeatedVariant type id =>
    "duplicate variant '" ++ id ++ "' in " ++ type ++ ", later definition wins"
  | missingModule list module => list.name ++ " CSS module '" ++ module ++ "' not found"
  | brokenModule list module reason =>
    "failed to load " ++ list.name ++ " CSS module '" ++ module ++ "': " ++ reason

end LayoutSheet
