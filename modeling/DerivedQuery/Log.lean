import DerivedQuery.Model
import DerivedQuery.StructuredQuery

/-!
# Logging

Operations that log are described by `Logged`: the entries they write and the queries they send to a
backend, both in order, and their result. What was written and sent before a failure stays so.
-/

set_option autoImplicit false

namespace DerivedQuery

/-- The levels of log entries. -/
inductive LogLevel where
  | debug
  | info
  | warning
  | error
  | critical
  deriving DecidableEq, Repr

namespace LogLevel

/-- The name of a level in capitals. -/
def name : LogLevel → String
  | .debug => "DEBUG"
  | .info => "INFO"
  | .warning => "WARNING"
  | .error => "ERROR"
  | .critical => "CRITICAL"

/-- The level with this name, in any case of letters. -/
def ofName? (name : String) : Option LogLevel :=
  [LogLevel.critical, .error, .warning, .info, .debug].find? fun level =>
    level.name == Text.asciiCapitals name

end LogLevel

/-- Who writes a log entry. -/
inductive LogSource where
  | queryMethod
  | store
  | repositories
  | named (name : String)
  deriving DecidableEq, Repr

/-- One written entry. -/
structure LogEntry where
  source : LogSource
  level : LogLevel
  message : String
  deriving DecidableEq, Repr

/-- The settings of the library. -/
structure Settings where
  /-- The level that was asked for, by name. -/
  logLevel : Option String := some "INFO"
  /-- Are compiled queries logged? -/
  logQueries : Bool := false
  deriving DecidableEq, Repr

namespace Settings

/-- The level of messages about what is bound and created: the level that was asked for, or `info`
when that is absent or unknown. -/
def messageLevel (settings : Settings) : LogLevel :=
  (LogLevel.ofName? (settings.logLevel.getD "")).getD .info

end Settings

/-- A query that is sent to a backend, with the model of the entities it asks for. -/
structure SentQuery where
  query : StructuredQuery
  model : Model
  deriving Repr

/-- Written entries, sent queries and a result. -/
structure Logged (α : Type) where
  entries : List LogEntry
  sent : List SentQuery
  result : Except Failure α

namespace Logged

variable {α β : Type}

/-- A result of which nothing is logged. -/
def ofExcept (result : Except Failure α) : Logged α := ⟨[], [], result⟩

/-- Writes one entry. -/
def write (source : LogSource) (level : LogLevel) (message : String) : Logged Unit :=
  ⟨[⟨source, level, message⟩], [], .ok ()⟩

/-- Sends one query. -/
def send (query : StructuredQuery) (model : Model) : Logged Unit :=
  ⟨[], [⟨query, model⟩], .ok ()⟩

/-- The second part is reached only when the first one succeeds. -/
def andThen (first : Logged α) (second : α → Logged β) : Logged β :=
  match first.result with
  | .error failure => ⟨first.entries, first.sent, .error failure⟩
  | .ok value =>
      ⟨first.entries ++ (second value).entries, first.sent ++ (second value).sent,
        (second value).result⟩

instance : Monad Logged where
  pure value := ⟨[], [], .ok value⟩
  bind := andThen

instance : MonadLift (Except Failure) Logged where
  monadLift := ofExcept

end Logged

end DerivedQuery
