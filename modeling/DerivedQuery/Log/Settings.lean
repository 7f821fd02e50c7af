import DerivedQuery.Log

/-!
# Settings from the environment

Settings are read from environment variables, whose names count in any case of letters; of several
spellings the last one is taken.
-/

set_option autoImplicit false

namespace DerivedQuery

namespace Settings

/-- The value of a variable. -/
def valueIn? (environment : List (String × String)) (name : String) : Option String :=
  (environment.reverse.find? fun entry => Text.lower entry.1 == Text.lower name).map Prod.snd

/-- A truth value spelled in one of six ways, in any case of ASCII letters. -/
def truth? (text : String) : Option Bool :=
  let small := String.ofList (text.toList.map Char.toLower)
  if ["1", "true", "t", "yes", "y", "on"].contains small then some true
  else if ["0", "false", "f", "no", "n", "off"].contains small then some false
  else none

/-- The settings that an environment states. -/
def ofEnvironment (environment : List (String × String)) : Except Failure Settings :=
  let logLevel := (valueIn? environment "LOG_LEVEL").getD "INFO"
  match valueIn? environment "QUERY_LOG_COMPILED" with
  | none => .ok { logLevel := some logLevel }
  | some text =>
      match truth? text with
      | some logQueries => .ok { logLevel := some logLevel, logQueries }
      | none => .error (.invalidSetting "QUERY_LOG_COMPILED" "bool_parsing")

end Settings

end DerivedQuery
