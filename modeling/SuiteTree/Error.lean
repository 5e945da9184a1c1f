/-!
# Errors of a run and exit codes

Each constructor of `Error` is a cause. The wording and the exit code of every cause are given once,
by `message` and `exitCode`.
-/

namespace SuiteTree

/-- Why the operating system refused a file operation. -/
inductive OsError
  | notFound
  | alreadyExists
  | notADirectory
  | isADirectory
  | nameTooLong
  | nulInPath
  /-- A failure that carries its own text. -/
  | other (text : String)
  deriving Repr, DecidableEq

namespace OsError

/-- The system's text for the failure, with its error number where it has one. -/
def message : OsError → String
  | notFound => "No such file or directory (os error 2)"
  | alreadyExists => "File exists (os error 17)"
  | notADirectory => "Not a directory (os error 20)"
  | isADirectory => "Is a directory (os error 21)"
  | nameTooLong => "File name too long (os error 36)"
  | nulInPath => "file name contained an unexpected NUL byte"
  | other text => text

end OsError

/-- Why settings could not be loaded. -/
inductive SettingsError
  /-- No settings file was found, or it is of no known format. -/
  | unusableFile (text : String)
  /-- The settings file breaks the rules of its format. -/
  | malformed (text : String)
  /-- A value is of the wrong type for its key. -/
  | wrongType (found expected : String) (key : Option String) (origin : Option String)
  /-- A failure that carries its own text. -/
  | other (text : String)
  deriving Repr, DecidableEq

namespace SettingsError

def message : SettingsError → String
  | unusableFile text => text
  | malformed text => text
  | wrongType found expected key origin =>
    "invalid type: " ++ found ++ ", expected " ++ expected
      ++ (match key with
        | some key => " for key `" ++ key ++ "`"
        | none => "")
      ++ (match origin with
        | some origin => " in " ++ origin
        | none => "")
  | other text => text

end SettingsError

/-- Why a run could not be carried out. -/
inductive Error
  /-- The selection holds no suite. -/
  | noMatch
  /-- The selection holds several suites. -/
  | ambiguous (count : Nat)
  | unknownCategory (text : String)
  | unknownFullness (text : String)
  /-- A data file was asked for where no node on the way to the root has a data directory. -/
  | noDataDir (node : String)
  /-- No source tree holds the program. -/
  | sourceDirNotFound (start : String)
  | settings (cause : SettingsError)
  | io (path : String) (cause : OsError)
  /-- The report could not be written to the console. -/
  | report (cause : OsError)
  deriving Repr, DecidableEq

/-- Exit statuses of the runner. -/
inductive ExitCode
  | success
  | failure
  | invalidFullness
  deriving Repr, DecidableEq

/-- The status as the operating system sees it. -/
def ExitCode.code : ExitCode → Nat
  | success => 0
  | failure => 1
  | invalidFullness => 3

namespace Error

def message : Error → String
  | noMatch => "no tests match the requested string"
  | ambiguous count =>
    "tests should be launched separately (one at a time), " ++ toString count ++ " suites matched"
  | unknownCategory text => "Invalid test type specified: " ++ text
  | unknownFullness text =>
    "invalid fullness '" ++ text ++ "', expected QUICK, EXTENSIVE or TAKES_FOREVER"
  | noDataDir node => "no one called set_data_dir on '" ++ node ++ "' or any of its ancestors"
  | sourceDirNotFound start => "could not find source directory from " ++ start
  | settings cause => "failed to load settings: " ++ cause.message
  | io path cause => "io error: " ++ path ++ ": " ++ cause.message
  | report cause => "failed to write report: " ++ cause.message

/-- An unknown fullness has an exit code of its own. -/
def exitCode : Error → ExitCode
  | unknownFullness _ => .invalidFullness
  | _ => .failure

end Error

end SuiteTree
