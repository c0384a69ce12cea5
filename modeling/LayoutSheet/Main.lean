import LayoutSheet.CommandLine.Run

namespace LayoutSheet.CommandLine

/-- The number of a failure; the system may give it with either sign. -/
def errorNumber (code : UInt32) : Nat :=
  if code.toNat < UInt32.size / 2 then code.toNat else UInt32.size - code.toNat

def numberedFault (code : UInt32) (details : String) : FileFault :=
  match errorNumber code with
  | 2 => .notFound
  | 16 => .busy
  | 17 => .occupied
  | 20 => .notDirectory
  | 21 => .isDirectory
  | 22 => .invalidArgument
  | 36 => .nameTooLong
  | n => .other (details ++ " (os error " ++ toString n ++ ")")

def faultOf : IO.Error → FileFault
  | .alreadyExists _ code details | .otherError code details | .resourceBusy code details
  | .resourceVanished code details | .unsupportedOperation code details
  | .hardwareFault code details | .unsatisfiedConstraints code details
  | .illegalOperation code details | .protocolError code details | .timeExpired code details
  | .interrupted _ code details | .noFileOrDirectory _ code details
  | .invalidArgument _ code details | .permissionDenied _ code details
  | .resourceExhausted _ code details | .inappropriateType _ code details
  | .noSuchThing _ code details => numberedFault code details
  | .unexpectedEof => .other "unexpected end of file"
  | .userError text => .other text

def onPath {α : Type} (path : String) (act : IO α) : IO (Except FileFault α) := do
  if path.toList.contains '\x00' then return .error .nulInName
  if path.isEmpty then return .error .notFound
  try return .ok (← act)
  catch e => return .error (faultOf e)

def readText (path : String) : IO (Except FileFault String) := do
  match ← onPath path (IO.FS.readBinFile path) with
  | .error e => return .error e
  | .ok bytes =>
    match String.fromUTF8? bytes with
    | some text => return .ok text
    | none => return .error .notText

def listNames (path : String) : IO (Except FileFault (List String)) :=
  onPath path do
    let here ← IO.currentDir
    let entries ← (here / path).readDir
    let files ← entries.toList.filterM fun e ↦ do
      try return (← e.path.metadata).type == .file
      catch _ => return false
    return files.map (·.fileName)

def writingTime (path : String) : IO (Option Nat) := do
  let time ← onPath path do
    let here ← IO.currentDir
    let m ← (here / path).metadata
    return m.modified.sec.toNat * 1000000000 + m.modified.nsec.toNat
  return time.toOption

structure Capture where
  texts : List (String × Except FileFault String) := []
  names : List (String × Except FileFault (List String)) := []
  times : List (String × Option Nat) := []

def Capture.files (c : Capture) : Files where
  read path := (c.texts.lookup path).getD (.error .notFound)
  list path := (c.names.lookup path).getD (.error .notFound)
  time? path := (c.times.lookup path).join

def captureNames (d : Directory) : IO Capture := do
  return { names := [(d.layouts, ← listNames d.layouts), (d.styles, ← listNames d.styles)] }

def captureInputs (d : Directory) : IO Capture := do
  let c ← captureNames d
  let c := { c with texts := [(d.config, ← readText d.config)] }
  let texts ← (d.readPaths c.files).mapM fun path ↦ return (path, ← readText path)
  return { c with texts := c.texts ++ texts }

def captureTimes (d : Directory) : IO Times.Key := do
  let c ← captureNames d
  let times ← (d.watched c.files).mapM fun path ↦ return (path, ← writingTime path)
  return (d.times { c with times }.files).key

def makeDirectories (path : String) : IO (Except FileFault Unit) :=
  onPath path (IO.FS.createDirAll path)

/-- Puts a text at a path by way of a file beside it. -/
def replaceFile (directory path text : String) : IO (Except FileFault Unit) := do
  let draft := Path.join directory (".draft" ++ toString (← IO.rand 0 999999999))
  match ← onPath draft (IO.FS.writeFile draft text) with
  | .error e => return .error e
  | .ok () =>
    let result ← onPath path (IO.FS.rename draft path)
    if result.toOption.isNone then discard (onPath draft (IO.FS.removeFile draft))
    return result

def writeFile (path text : String) : IO (Except WriteFault Unit) := do
  let directory := Path.outputDirectory path
  match ← makeDirectories directory with
  | .error e => return .error (.cannotCreate directory e)
  | .ok () => return (← replaceFile directory path text).mapError (.cannotReplace path)

/-- The time between two looks, in milliseconds. -/
def pollInterval : UInt32 := 300

def surroundings (d : Directory) (f : Filter) : Surroundings IO where
  files := return (← captureInputs d).files
  look := captureTimes d
  write := writeFile
  log ns := IO.eprint (f.log ns)
  report chain := IO.eprint (reportText chain)

partial def watch (s : Surroundings IO) (o : Options) (session : Session Times.Key) : IO Unit := do
  IO.sleep pollInterval
  watch s o (← s.poll o session)

def runOptions (o : Options) (spec : Option String) : IO Nat := do
  let (filter, faults) := filterOf o spec
  IO.eprint faults
  let s := surroundings o.directory filter
  match ← s.launch o with
  | .error code => return code
  | .ok session =>
    watch s o session
    return 0

end LayoutSheet.CommandLine

open LayoutSheet.CommandLine in
def main (arguments : List String) : IO UInt32 := do
  match Options.read arguments with
  | .error s =>
    if s.code = 0 then IO.print s.text else IO.eprint s.text
    return .ofNat s.code
  | .ok o => return .ofNat (← runOptions o (← IO.getEnv "RUST_LOG"))
