import TypedDocs.Logging.Settings

/-!
# Starting the log

Logging starts once: with the first settings that are well formed and whose directory can be
made.  After that it can only be asked for again with the same settings, and nothing is made.
How a directory is made is a parameter, in any monad:

    init createDirectory l level directory = pure (…, l)     once `l` is active    (init_of_active)
-/

namespace TypedDocs

/-- The settings that logging was started with, if it was. -/
structure Logging where
  active : Option LogSettings
deriving DecidableEq, Repr

namespace Logging

/-- Logging that was not started. -/
def idle : Logging := ⟨none⟩

/-- The name of the level and the directory that logging was started with, if it was. -/
def status (l : Logging) : Option (String × String) :=
  l.active.map fun s => (s.level.label, s.directory)

section Start

variable {m : Type → Type} [Monad m] {l : Logging} {active asked : LogSettings}
  {level directory : String}

/-- Starts logging, or checks that it was started with the same settings.  Making the directory
may fail, with a reason. -/
def init (createDirectory : String → m (Except String Unit)) (l : Logging)
    (level directory : String) : m (Except LogFault Unit × Logging) :=
  match LogSettings.parse level directory with
  | .error fault => return (.error fault, l)
  | .ok asked =>
    match l.active with
    | some active =>
      if active.agree asked then return (.ok (), l)
      else return (.error (.alreadyStarted active asked), l)
    | none => do
      match ← createDirectory asked.directory with
      | .error reason => return (.error (.directoryNotCreated asked.directory reason), l)
      | .ok () => return (.ok (), ⟨some asked⟩)

theorem init_of_parse_error {fault : LogFault}
    (hp : LogSettings.parse level directory = .error fault)
    (createDirectory : String → m (Except String Unit)) (l : Logging) :
    init createDirectory l level directory = pure (.error fault, l) := by
  unfold init
  rw [hp]

theorem init_of_active (hl : l.active = some active)
    (hp : LogSettings.parse level directory = .ok asked)
    (createDirectory : String → m (Except String Unit)) :
    init createDirectory l level directory =
      pure (if active.agree asked then .ok () else .error (.alreadyStarted active asked), l) := by
  unfold init
  rw [hp, hl]
  dsimp only
  split <;> rfl

theorem init_of_idle (hl : l.active = none) (hp : LogSettings.parse level directory = .ok asked)
    (createDirectory : String → m (Except String Unit)) :
    init createDirectory l level directory = do
      match ← createDirectory asked.directory with
      | .error reason => return (.error (.directoryNotCreated asked.directory reason), l)
      | .ok () => return (.ok (), ⟨some asked⟩) := by
  unfold init
  rw [hp, hl]

end Start

/-! ## Failures of the program -/

/-- How many characters of a message are logged. -/
def maxMessageLength : Nat := 200

/-- A message on one line, cut off when it is too long. -/
def singleLine (limit : Nat) (message : String) : String :=
  let flat := message.toList.map fun c => if c = '\n' || c = '\r' then ' ' else c
  if flat.length ≤ limit then String.ofList flat
  else String.ofList (flat.take limit ++ ['.', '.', '.'])

/-- What is logged of a failure of the program, up to the place. -/
def failureHead : String := "event=panic module=core status=error"

/-- The line of a failure of the program at a place of it. -/
def failureLine (location message : String) : String :=
  failureHead ++ " location=" ++ location ++ " message=" ++ singleLine maxMessageLength message

end Logging

end TypedDocs
