import DerivedQuery.Log
import DerivedQuery.StructuredQuery

/-!
# Logging compiled queries

Where the settings ask for it, every query that is built for a call is logged as a document.
-/

set_option autoImplicit false

namespace DerivedQuery

/-- The entry for a query that was built for a method, where queries are logged. -/
def logQuery (settings : Settings) (source : LogSource) (method : String)
    (query : StructuredQuery) : Logged Unit :=
  if settings.logQueries then
    Logged.write source .debug ("Compiled " ++ method ++ " -> " ++ query.rest.written)
  else pure ()

end DerivedQuery
