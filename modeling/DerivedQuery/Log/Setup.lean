import DerivedQuery.Log

/-!
# Setting up logging

The root of all loggers is configured once. Configuring attaches a handler and sets the level,
unless a handler is attached already. A logger that is made before that configures the root with the
level of the settings.
-/

set_option autoImplicit false

namespace DerivedQuery

/-- The state of the root of all loggers. -/
structure RootLogging where
  configured : Bool := false
  level : LogLevel := .warning
  handlers : Nat := 0
  deriving DecidableEq, Repr

namespace RootLogging

/-- Configures the root with a level given by name; an unknown name means `info`. Only the first
time needs a name. -/
def configure (root : RootLogging) (levelName : Option String) : Except Failure RootLogging :=
  if root.configured then .ok root
  else
    match levelName with
    | none => .error (.noAttribute (.object "NoneType") "upper")
    | some name =>
        .ok (if root.handlers ≠ 0 then { root with configured := true }
          else ⟨true, (LogLevel.ofName? name).getD .info, 1⟩)

/-- What making a logger does to the root. -/
def makeLogger (root : RootLogging) (settings : Settings) : Except Failure RootLogging :=
  root.configure settings.logLevel

/-- Forgets the configuration and detaches all handlers; the level stays. -/
def reset (root : RootLogging) : RootLogging :=
  { root with configured := false, handlers := 0 }

end RootLogging

end DerivedQuery
