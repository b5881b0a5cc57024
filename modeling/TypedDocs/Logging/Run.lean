import TypedDocs.Logging.Start

/-!
# Calls that start the log

A process may ask for logging many times.  What making a directory comes to can change between two
calls, so each call brings its own answer; the directories that a call tries to make are noted.
-/

namespace TypedDocs.Logging

/-- A call to start logging: the names of a level and of a directory, and what making a directory
comes to at the time. -/
structure Call where
  level : String
  directory : String
  made : String → Except String Unit

/-- What a call gives, the logging after it, and the directories that it has tried to make. -/
structure Outcome where
  result : Except LogFault Unit
  logging : Logging
  attempts : List String

/-- Tries to make a directory, and notes it. -/
def Call.createDirectory (c : Call) (directory : String) :
    StateM (List String) (Except String Unit) := do
  modify (· ++ [directory])
  return c.made directory

theorem Call.run_createDirectory (c : Call) (directory : String) (attempts : List String) :
    (c.createDirectory directory).run attempts = (c.made directory, attempts ++ [directory]) := rfl

/-- Performs a call. -/
def call (l : Logging) (c : Call) : Outcome :=
  let ((result, logging), attempts) := (init c.createDirectory l c.level c.directory).run []
  ⟨result, logging, attempts⟩

/-- The logging after a call. -/
def step (l : Logging) (c : Call) : Logging := (l.call c).logging

/-- The logging after several calls. -/
def run (l : Logging) (calls : List Call) : Logging := calls.foldl step l

@[simp] theorem run_nil (l : Logging) : l.run [] = l := rfl

@[simp] theorem run_cons (l : Logging) (c : Call) (calls : List Call) :
    l.run (c :: calls) = (l.step c).run calls := by
  unfold run
  rw [List.foldl_cons]

end TypedDocs.Logging
