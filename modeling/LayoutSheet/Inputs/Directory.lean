import LayoutSheet.Inputs
import LayoutSheet.Files

namespace LayoutSheet

structure Directory where
  config : String
  layouts : String
  styles : String
  deriving DecidableEq, Repr

namespace Directory

/-- The directories beside a configuration file, unless others are given. -/
def ofConfig (config : String) (layouts styles : Option String) : Directory :=
  let home := (Path.parent? config).getD ""
  { config
    layouts := layouts.getD (Path.join home "layouts")
    styles := styles.getD (Path.join home "core") }

variable (d : Directory) (f : Files)

def layoutPath (type : String) : String := Path.join d.layouts (type ++ ".json")

def stylePath (name : String) : String := Path.join d.styles (name ++ ".css")

def readAt (path : String) : Except LoadError String :=
  (f.read path).mapError (.unreadable path)

def loadConfig : Except LoadError Config := do
  let text ← readAt f d.config
  (Config.load text).mapError (.located d.config)

def types : Except LoadError (List String) :=
  match f.withExtension d.layouts "json" with
  | .error e => .error (.unreadable d.layouts e)
  | .ok paths => .ok (paths.filterMap Path.stem?)

def loadLayout (type : String) : Except LoadError LayoutFile := do
  let path := d.layoutPath type
  let text ← readAt f path
  (LayoutFile.load text).mapError (.located path)

def loadStyle (name : String) : Except LoadError (Option String) :=
  match f.read (d.stylePath name) with
  | .ok text => .ok (some text)
  | .error .notFound => .ok none
  | .error e => .error (.unreadable (d.stylePath name) e)

def inputs : Inputs where
  config := d.loadConfig f
  types := d.types f
  layout := d.loadLayout f
  style := d.loadStyle f

def readPaths : List String :=
  d.config :: ((d.types f).toOption.getD []).map d.layoutPath
    ++ match d.loadConfig f with
      | .ok c => (c.core ++ c.common).map d.stylePath
      | .error _ => []

/-- The files whose change is looked for. A directory that cannot be listed adds none. -/
def watched : List String :=
  d.config :: (f.withExtension d.layouts "json").toOption.getD []
    ++ (f.withExtension d.styles "css").toOption.getD []

end Directory

end LayoutSheet
