/-!
# Dictionaries in insertion order

A dictionary is a list of entries. Putting a value under a key that is already there replaces the
value and keeps the place and the key of the old entry; a new key goes to the end.
-/

set_option autoImplicit false

namespace DerivedQuery.Dictionary

variable {κ α : Type}

/-- Puts a value under a key, where `same` says which keys are one and the same. -/
def putBy (same : κ → κ → Bool) (key : κ) (value : α) : List (κ × α) → List (κ × α)
  | [] => [(key, value)]
  | entry :: rest =>
      if same entry.1 key then (entry.1, value) :: rest else entry :: putBy same key value rest

/-- The dictionary made by putting entries one after the other into an empty one. -/
def ofEntriesBy (same : κ → κ → Bool) (entries : List (κ × α)) : List (κ × α) :=
  entries.foldl (fun built entry => putBy same entry.1 entry.2 built) []

variable [DecidableEq κ]

/-- Puts a value under a key. -/
def put (key : κ) (value : α) (entries : List (κ × α)) : List (κ × α) :=
  putBy (fun a b => a == b) key value entries

/-- The dictionary made by putting entries one after the other into an empty one. -/
def ofEntries (entries : List (κ × α)) : List (κ × α) :=
  ofEntriesBy (fun a b => a == b) entries

/-- The value under a key. -/
def get? (entries : List (κ × α)) (key : κ) : Option α :=
  (entries.find? fun entry => entry.1 == key).map Prod.snd

/-- Is there a value under the key? -/
def has (entries : List (κ × α)) (key : κ) : Bool :=
  entries.any fun entry => entry.1 == key

end DerivedQuery.Dictionary
