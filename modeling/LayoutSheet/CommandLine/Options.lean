import LayoutSheet.Sheet.Rendering
import LayoutSheet.Text.Terminal

namespace LayoutSheet.CommandLine

inductive Setting where
  | config
  | output
  | layouts
  | modules
  deriving DecidableEq, Repr

inductive Flag where
  | watch
  | minify
  | flat
  | noGroup
  deriving DecidableEq, Repr

inductive Switch where
  | setting (s : Setting)
  | flag (f : Flag)
  | verbose
  | help
  | version
  deriving DecidableEq, Repr

def Setting.title : Setting → String
  | config => "--config <CONFIG>"
  | output => "--output <OUTPUT>"
  | layouts => "--layouts <LAYOUTS>"
  | modules => "--modules <MODULES>"

def Flag.title : Flag → String
  | watch => "--watch"
  | minify => "--minify"
  | flat => "--flat"
  | noGroup => "--no-group"

namespace Switch

/-- The dots say that an option may come again. -/
def title : Switch → String
  | setting s => s.title
  | flag f => f.title
  | verbose => "--verbose..."
  | help => "--help"
  | version => "--version"

def ofLong? : String → Option Switch
  | "config" => some (setting .config)
  | "output" => some (setting .output)
  | "layouts" => some (setting .layouts)
  | "modules" => some (setting .modules)
  | "watch" => some (flag .watch)
  | "minify" => some (flag .minify)
  | "flat" => some (flag .flat)
  | "no-group" => some (flag .noGroup)
  | "verbose" => some verbose
  | "help" => some help
  | "version" => some version
  | _ => none

def ofShort? : Char → Option Switch
  | 'c' => some (setting .config)
  | 'o' => some (setting .output)
  | 'w' => some (flag .watch)
  | 'm' => some (flag .minify)
  | 'v' => some verbose
  | 'h' => some help
  | 'V' => some version
  | _ => none

end Switch

inductive Stop where
  | help
  | version
  | unexpected (argument : String)
  | needsValue (s : Setting)
  | repeated (s : Switch)
  | extraValue (value : String) (s : Switch)
  deriving DecidableEq, Repr

def usage : List String := [
  "Compile layout definitions into cascade-layered CSS",
  "",
  "Usage: layout-css [OPTIONS]",
  "",
  "Options:",
  "  -c, --config <CONFIG>    Build configuration file [default: layout.config.json]",
  "  -o, --output <OUTPUT>    Stylesheet to write [default: dist/layout.css]",
  "      --layouts <LAYOUTS>  Directory of layout variant files [default: <config dir>/layouts]",
  "      --modules <MODULES>  Directory of core/common CSS modules [default: <config dir>/core]",
  "  -w, --watch              Rebuild whenever an input file changes",
  "  -m, --minify             Also write a minified copy next to the output (<name>.min.css)",
  "      --flat               Do not wrap query blocks in per-breakpoint cascade layers",
  "      --no-group           Do not merge selectors with identical declarations",
  "  -v, --verbose...         Increase log verbosity (-v debug, -vv trace)",
  "  -h, --help               Print help",
  "  -V, --version            Print version"]

def Stop.message : Stop → String
  | help => String.intercalate "\n" usage
  | version => "layout-css 0.3.0"
  | unexpected argument =>
    "error: unexpected argument '" ++ Text.Terminal.colored argument ++ "' found"
  | needsValue s => "error: a value is required for '" ++ s.title ++ "' but none was supplied"
  | repeated s => "error: the argument '" ++ s.title ++ "' cannot be used multiple times"
  | extraValue value s =>
    "error: unexpected value '" ++ Text.Terminal.colored value ++ "' for '" ++ s.title
      ++ "' found; no more were expected"

/-- The exit code; what was asked for is no failure. -/
def Stop.code : Stop → Nat
  | help => 0
  | version => 0
  | _ => 2

structure Draft where
  values : List (Setting × String) := []
  flags : List Flag := []
  verbosity : Nat := 0
  /-- The last setting whose value stands, or has to stand, in an argument of its own. -/
  pending : Option (Setting × Option String) := none
  /-- No argument is an option any more. -/
  closed : Bool := false
  deriving DecidableEq, Repr

namespace Draft

def assign (d : Draft) (s : Setting) (value : String) : Except Stop Draft :=
  if d.values.any fun v ↦ v.1 = s then .error (.repeated (.setting s))
  else if value.isEmpty then .error (.needsValue s)
  else .ok { d with values := d.values ++ [(s, value)] }

def settle (d : Draft) : Except Stop Draft :=
  match d.pending with
  | none => .ok d
  | some (s, none) => .error (.needsValue s)
  | some (s, some value) => assign { d with pending := none } s value

def turn (d : Draft) (s : Switch) : Except Stop Draft := do
  let d ← d.settle
  match s with
  | .setting s => return { d with pending := some (s, none) }
  | .flag f =>
    if f ∈ d.flags then throw (.repeated (.flag f)) else return { d with flags := d.flags ++ [f] }
  | .verbose => return { d with verbosity := d.verbosity + 1 }
  | .help => throw .help
  | .version => throw .version

def turnWith (d : Draft) (s : Switch) (value : String) : Except Stop Draft :=
  match s with
  | .setting s => do (← d.settle).assign s value
  | s => .error (.extraValue value s)

def long (d : Draft) (body : List Char) : Except Stop Draft :=
  let name := String.ofList (body.takeWhile (· ≠ '='))
  match Switch.ofLong? name with
  | none => .error (.unexpected ("--" ++ name))
  | some s =>
    match body.dropWhile (· ≠ '=') with
    | [] => d.turn s
    | _ :: value => d.turnWith s (String.ofList value)

/-- Options of one letter, of which the last may be a setting with its value. -/
def letters (d : Draft) : List Char → Except Stop Draft
  | [] => .ok d
  | c :: r =>
    match Switch.ofShort? c with
    | none => .error (.unexpected (String.ofList ['-', c]))
    | some (.setting s) =>
      match r with
      | [] => d.turn (.setting s)
      | '=' :: value => d.turnWith (.setting s) (String.ofList value)
      | value => d.turnWith (.setting s) (String.ofList value)
    | some s => do (← d.turn s).letters r

/-- A setting takes its value from the same argument or from the next; all but the verbosity may be
given once. -/
def take (d : Draft) (argument : String) : Except Stop Draft :=
  if d.closed then .error (.unexpected argument)
  else match argument.toList with
    | ['-', '-'] => .ok { d with closed := true }
    | '-' :: '-' :: body => d.long body
    | '-' :: c :: r => d.letters (c :: r)
    | _ =>
      match d.pending with
      | some (s, none) => .ok { d with pending := some (s, some argument) }
      | _ => .error (.unexpected argument)

def value? (d : Draft) (s : Setting) : Option String :=
  (d.values.find? fun v ↦ v.1 = s).map Prod.snd

end Draft

structure Options where
  config : String
  output : String
  layouts : Option String
  modules : Option String
  watch : Bool
  minify : Bool
  format : Format
  verbosity : Nat
  deriving DecidableEq, Repr

def Options.ofDraft (d : Draft) : Options where
  config := (d.value? .config).getD "layout.config.json"
  output := (d.value? .output).getD "dist/layout.css"
  layouts := d.value? .layouts
  modules := d.value? .modules
  watch := d.flags.contains .watch
  minify := d.flags.contains .minify
  format := { layered := !d.flags.contains .flat, merged := !d.flags.contains .noGroup }
  verbosity := d.verbosity

def Options.read (arguments : List String) : Except Stop Options := do
  let d ← arguments.foldlM Draft.take {}
  return .ofDraft (← d.settle)

end LayoutSheet.CommandLine
