import TypedDocs.Event
import TypedDocs.Text.Blank

/-!
# Log settings

A level and an absolute directory.  Two directories are the same when they have the same parts
between their slashes, empty ones and single dots left out.
-/

namespace TypedDocs

/-- The name of a level. -/
def LogLevel.label : LogLevel → String
  | .trace => "trace"
  | .debug => "debug"
  | .info => "info"
  | .warn => "warn"
  | .error => "error"

/-- The level with a name; a warning has two. -/
def LogLevel.ofName? : String → Option LogLevel
  | "trace" => some .trace
  | "debug" => some .debug
  | "info" => some .info
  | "warn" => some .warn
  | "warning" => some .warn
  | "error" => some .error
  | _ => none

/-- The rank of a level, the gravest first. -/
def LogLevel.rank : LogLevel → Nat
  | .error => 0
  | .warn => 1
  | .info => 2
  | .debug => 3
  | .trace => 4

/-- The level of a log and the directory of its files. -/
structure LogSettings where
  level : LogLevel
  directory : String
deriving DecidableEq, Repr

/-- Why logging does not start. -/
inductive LogFault where
  | unknownLevel (name : String)
  | emptyDirectory
  | relativeDirectory (directory : String)
  | directoryNotCreated (directory : String) (reason : String)
  | alreadyStarted (active asked : LogSettings)
deriving DecidableEq, Repr

/-- The fault in words. -/
def LogFault.message : LogFault → String
  | .unknownLevel name =>
    "unsupported log level `" ++ name ++ "`; expected trace|debug|info|warn|error"
  | .emptyDirectory => "log_dir cannot be empty"
  | .relativeDirectory directory => "log_dir must be an absolute path, got `" ++ directory ++ "`"
  | .directoryNotCreated directory reason =>
    "failed to create log directory `" ++ directory ++ "`: " ++ reason
  | .alreadyStarted active asked =>
    "logging already initialized with level `" ++ active.level.label ++ "` at `"
      ++ active.directory ++ "`; refusing to switch to level `" ++ asked.level.label ++ "` at `"
      ++ asked.directory ++ "`"

namespace LogSettings

/-- The settings of a level's name and a directory's name, with blanks around them. -/
def parse (level directory : String) : Except LogFault LogSettings :=
  let name := Text.asciiLower (Text.trim level)
  match LogLevel.ofName? name with
  | none => .error (.unknownLevel name)
  | some level =>
    let path := Text.trim directory
    if path.isEmpty then .error .emptyDirectory
    else if path.toList.head? ≠ some '/' then .error (.relativeDirectory path)
    else .ok ⟨level, path⟩

/-- The parts of a list of characters between slashes. -/
def splitSlashes : List Char → List (List Char)
  | [] => [[]]
  | c :: cs =>
    if c = '/' then [] :: splitSlashes cs
    else match splitSlashes cs with
      | [] => [[c]]
      | part :: parts => (c :: part) :: parts

/-- The parts of an absolute path. -/
def components (path : String) : List (List Char) :=
  (splitSlashes path.toList).filter fun part => part ≠ [] && part ≠ ['.']

/-- Whether two settings have the same level and the same directory. -/
def agree (a b : LogSettings) : Bool :=
  a.level == b.level && components a.directory == components b.directory

theorem agree_eq_true_iff {a b : LogSettings} : a.agree b = true ↔
    a.level = b.level ∧ components a.directory = components b.directory := by
  simp [agree]

/-- Whether lines of a level are logged. -/
def admits (s : LogSettings) (level : LogLevel) : Bool := level.rank ≤ s.level.rank

end LogSettings

end TypedDocs
