namespace LayoutSheet

inductive FileFault where
  | notFound
  | occupied
  | busy
  | notDirectory
  | isDirectory
  | nameTooLong
  | notText
  | nulInName
  | invalidArgument
  | other (text : String)
  deriving DecidableEq, Repr

def FileFault.message : FileFault → String
  | notFound => "No such file or directory (os error 2)"
  | busy => "Device or resource busy (os error 16)"
  | occupied => "File exists (os error 17)"
  | notDirectory => "Not a directory (os error 20)"
  | isDirectory => "Is a directory (os error 21)"
  | nameTooLong => "File name too long (os error 36)"
  | notText => "stream did not contain valid UTF-8"
  | nulInName => "file name contained an unexpected NUL byte"
  | invalidArgument => "Invalid argument (os error 22)"
  | other text => text

inductive LoadError where
  | unreadable (path : String) (fault : FileFault)
  | malformed (path : Option String) (reason : String)
  | unknown (name : String)
  deriving DecidableEq, Repr

namespace LoadError

def message : LoadError → String
  | unreadable path fault => "failed to read " ++ path ++ ": " ++ fault.message
  | malformed path reason => "failed to parse " ++ path.getD "<inline>" ++ ": " ++ reason
  | unknown name => "no source named '" ++ name ++ "'"

def cause? : LoadError → Option String
  | unreadable _ fault => some fault.message
  | _ => none

/-- Names the file of a malformed text that names none yet. -/
def located (path : String) : LoadError → LoadError
  | malformed none reason => malformed (some path) reason
  | e => e

end LoadError

inductive BuildError where
  | config (e : LoadError)
  | types (e : LoadError)
  deriving DecidableEq, Repr

namespace BuildError

def cause : BuildError → LoadError
  | config e => e
  | types e => e

def message : BuildError → String
  | config e => "failed to load config: " ++ e.message
  | types e => "failed to list layout sources: " ++ e.message

end BuildError

end LayoutSheet
