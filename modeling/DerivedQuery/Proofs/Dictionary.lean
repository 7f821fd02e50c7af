import DerivedQuery.Dictionary
import Mathlib.Data.List.Nodup
import Mathlib.Data.List.Perm.Subperm

/-!
# Laws of dictionaries

Putting a value under a key changes what is found under this key and nothing else, and the keys of a
dictionary that is made entry by entry are distinct. Entries with distinct keys are a dictionary
already.
-/

set_option autoImplicit false

namespace DerivedQuery.Dictionary

variable {κ α : Type} [DecidableEq κ]

theorem get?_cons (entry : κ × α) (entries : List (κ × α)) (key : κ) :
    get? (entry :: entries) key = if entry.1 = key then some entry.2 else get? entries key := by
  by_cases same : entry.1 = key <;> simp [get?, same]

theorem put_cons (key : κ) (value : α) (entry : κ × α) (entries : List (κ × α)) :
    put key value (entry :: entries) =
      if entry.1 = key then (entry.1, value) :: entries else entry :: put key value entries := by
  simp [put, putBy]

/-- Putting changes what is found under one key only. -/
theorem get?_put (key other : κ) (value : α) (entries : List (κ × α)) :
    get? (put key value entries) other =
      if key = other then some value else get? entries other := by
  induction entries with
  | nil => exact get?_cons (key, value) [] other
  | cons entry entries ih =>
      rw [put_cons]
      by_cases here : entry.1 = key
      · by_cases same : key = other <;> simp [get?_cons, here, same]
      · rw [if_neg here, get?_cons, ih, get?_cons]
        by_cases there : entry.1 = other
        · have differs : key ≠ other := fun same => here (there.trans same.symm)
          simp [there, differs]
        · simp [there]

theorem keys_put (key : κ) (value : α) (entries : List (κ × α)) :
    (put key value entries).map Prod.fst =
      if key ∈ entries.map Prod.fst then entries.map Prod.fst
      else entries.map Prod.fst ++ [key] := by
  induction entries with
  | nil => rfl
  | cons entry entries ih =>
      rw [put_cons]
      by_cases here : entry.1 = key
      · simp [here]
      · rw [if_neg here, List.map_cons, ih]
        by_cases member : key ∈ entries.map Prod.fst
        · simp only [member, List.map_cons, List.mem_cons, or_true, if_true]
        · simp only [member, List.map_cons, List.mem_cons, or_false, if_false, Ne.symm here,
            List.cons_append]

theorem nodup_put {key : κ} {value : α} {entries : List (κ × α)}
    (nodup : (entries.map Prod.fst).Nodup) : ((put key value entries).map Prod.fst).Nodup := by
  rw [keys_put]
  by_cases member : key ∈ entries.map Prod.fst
  · simpa only [member, if_true] using nodup
  · rw [if_neg member]
    exact nodup.append (List.nodup_singleton key) (by simpa using member)

theorem put_of_not_mem {key : κ} {value : α} {entries : List (κ × α)}
    (absent : key ∉ entries.map Prod.fst) : put key value entries = entries ++ [(key, value)] := by
  induction entries with
  | nil => rfl
  | cons entry entries ih =>
      simp only [List.map_cons, List.mem_cons, not_or] at absent
      rw [put_cons, if_neg (Ne.symm absent.1), ih absent.2, List.cons_append]

theorem mem_put {key : κ} {value : α} {entries : List (κ × α)} {entry : κ × α}
    (member : entry ∈ put key value entries) : entry = (key, value) ∨ entry ∈ entries := by
  induction entries with
  | nil => simpa [put, putBy] using member
  | cons head entries ih =>
      rw [put_cons] at member
      by_cases here : head.1 = key
      · rw [if_pos here, List.mem_cons] at member
        rcases member with rfl | inside
        · exact .inl (by rw [here])
        · exact .inr (by simp [inside])
      · rw [if_neg here, List.mem_cons] at member
        rcases member with rfl | inside
        · exact .inr (by simp)
        · exact (ih inside).imp_right fun inside => by simp [inside]

private theorem nodup_putAll {entries built : List (κ × α)}
    (nodup : (built.map Prod.fst).Nodup) :
    ((entries.foldl (fun built entry => put entry.1 entry.2 built) built).map Prod.fst).Nodup := by
  induction entries generalizing built with
  | nil => exact nodup
  | cons entry entries ih => exact ih (nodup_put nodup)

/-- Entries that are put one after the other have distinct keys. -/
theorem nodup_ofEntries (entries : List (κ × α)) : ((ofEntries entries).map Prod.fst).Nodup :=
  nodup_putAll List.nodup_nil

private theorem putAll_of_nodup {entries built : List (κ × α)}
    (nodup : ((built ++ entries).map Prod.fst).Nodup) :
    entries.foldl (fun built entry => put entry.1 entry.2 built) built = built ++ entries := by
  induction entries generalizing built with
  | nil => simp
  | cons entry entries ih =>
      have absent : entry.1 ∉ built.map Prod.fst := by
        rw [List.map_append, List.map_cons, List.nodup_append] at nodup
        exact fun member => nodup.2.2 entry.1 member entry.1 (by simp) rfl
      have assoc : built ++ entry :: entries = (built ++ [(entry.1, entry.2)]) ++ entries := by simp
      rw [List.foldl_cons, put_of_not_mem absent, assoc]
      exact ih (assoc ▸ nodup)

theorem ofEntries_of_nodup {entries : List (κ × α)} (nodup : (entries.map Prod.fst).Nodup) :
    ofEntries entries = entries :=
  putAll_of_nodup nodup

private theorem mem_putAll {entries built : List (κ × α)} {entry : κ × α}
    (member : entry ∈ entries.foldl (fun built entry => put entry.1 entry.2 built) built) :
    entry ∈ built ∨ entry ∈ entries := by
  induction entries generalizing built with
  | nil => exact .inl member
  | cons head entries ih =>
      rcases ih member with inside | inside
      · rcases mem_put inside with rfl | inside
        · exact .inr (by simp)
        · exact .inl inside
      · exact .inr (by simp [inside])

theorem mem_ofEntries {entries : List (κ × α)} {entry : κ × α}
    (member : entry ∈ ofEntries entries) : entry ∈ entries :=
  (mem_putAll member).resolve_left (by simp)

private theorem get?_putAll_of_not_mem {entries built : List (κ × α)} {key : κ}
    (absent : key ∉ entries.map Prod.fst) :
    get? (entries.foldl (fun built entry => put entry.1 entry.2 built) built) key =
      get? built key := by
  induction entries generalizing built with
  | nil => rfl
  | cons entry entries ih =>
      rw [List.map_cons, List.mem_cons, not_or] at absent
      rw [List.foldl_cons, ih absent.2, get?_put, if_neg (Ne.symm absent.1)]

/-- What was put last under a key is found under it. -/
theorem get?_ofEntries_last {front back : List (κ × α)} {key : κ} {value : α}
    (last : key ∉ back.map Prod.fst) :
    get? (ofEntries (front ++ (key, value) :: back)) key = some value := by
  change get? ((front ++ (key, value) :: back).foldl _ []) key = _
  rw [List.foldl_append, List.foldl_cons]
  exact (get?_putAll_of_not_mem last).trans ((get?_put _ _ _ _).trans (if_pos rfl))

private theorem exists_last {entries : List (κ × α)} {key : κ}
    (member : key ∈ entries.map Prod.fst) :
    ∃ front value back, entries = front ++ (key, value) :: back ∧ key ∉ back.map Prod.fst := by
  induction entries with
  | nil => exact absurd member (by simp)
  | cons entry entries ih =>
      by_cases later : key ∈ entries.map Prod.fst
      · obtain ⟨front, value, back, rfl, last⟩ := ih later
        exact ⟨entry :: front, value, back, rfl, last⟩
      · obtain rfl : key = entry.1 := (List.mem_cons.mp member).resolve_right later
        exact ⟨[], entry.2, entries, rfl, later⟩

theorem get?_of_mem {entries : List (κ × α)} {key : κ} {value : α}
    (nodup : (entries.map Prod.fst).Nodup) (member : (key, value) ∈ entries) :
    get? entries key = some value := by
  induction entries with
  | nil => exact absurd member (by simp)
  | cons entry entries ih =>
      obtain ⟨absent, rest⟩ := List.nodup_cons.mp nodup
      rw [get?_cons]
      rcases List.mem_cons.mp member with rfl | member
      · simp
      · have differs : entry.1 ≠ key := fun same =>
          absent (List.mem_map.mpr ⟨(key, value), member, same.symm⟩)
        rw [if_neg differs]
        exact ih rest member

theorem mem_of_get? {entries : List (κ × α)} {key : κ} {value : α}
    (found : get? entries key = some value) : (key, value) ∈ entries := by
  obtain ⟨entry, isFound, rfl⟩ := Option.map_eq_some_iff.mp found
  have same : entry.1 = key := by simpa using List.find?_some isFound
  exact same ▸ List.mem_of_find?_eq_some isFound

/-- The entries of a dictionary are those that were put last under their keys. -/
theorem mem_ofEntries_iff {entries : List (κ × α)} {key : κ} {value : α} :
    (key, value) ∈ ofEntries entries ↔
      ∃ front back, entries = front ++ (key, value) :: back ∧ key ∉ back.map Prod.fst := by
  constructor
  · intro member
    obtain ⟨front, other, back, split, last⟩ :=
      exists_last (List.mem_map_of_mem (mem_ofEntries member))
    have found := get?_of_mem (nodup_ofEntries entries) member
    rw [split, get?_ofEntries_last last, Option.some.injEq] at found
    exact ⟨front, back, found ▸ split, last⟩
  · rintro ⟨front, back, rfl, last⟩
    exact mem_of_get? (get?_ofEntries_last last)

theorem isSome_get? {entries : List (κ × α)} {key : κ} :
    (get? entries key).isSome = true ↔ key ∈ entries.map Prod.fst := by
  simp [get?]

theorem get?_eq_none_iff {entries : List (κ × α)} {key : κ} :
    get? entries key = none ↔ key ∉ entries.map Prod.fst := by
  rw [← isSome_get?, Bool.not_eq_true, Option.isSome_eq_false_iff, Option.isNone_iff_eq_none]

/-- Taking one key out does not touch the others. -/
theorem get?_filter_ne {key other : κ} (apart : other ≠ key) (entries : List (κ × α)) :
    get? (entries.filter fun entry => entry.1 != key) other = get? entries other := by
  induction entries with
  | nil => rfl
  | cons entry entries ih =>
      rw [List.filter_cons, get?_cons]
      by_cases here : entry.1 = key
      · have differs : entry.1 ≠ other := fun same => apart (same.symm.trans here)
        rw [if_neg (by simp [here]), if_neg differs, ih]
      · rw [if_pos (by simpa using here), get?_cons, ih]

theorem has_iff {entries : List (κ × α)} {key : κ} :
    has entries key = true ↔ key ∈ entries.map Prod.fst := by
  simp [has]

/-- The order of entries does not count. -/
theorem get?_perm {entries others : List (κ × α)} (nodup : (entries.map Prod.fst).Nodup)
    (perm : entries.Perm others) (key : κ) : get? others key = get? entries key := by
  cases found : get? entries key with
  | none =>
      rw [get?_eq_none_iff] at found ⊢
      exact fun member => found ((perm.map Prod.fst).mem_iff.mpr member)
  | some value =>
      have nodupOthers : (others.map Prod.fst).Nodup := (perm.map Prod.fst).nodup_iff.mp nodup
      exact get?_of_mem nodupOthers (perm.mem_iff.mp (mem_of_get? found))

/-- Dictionaries have alike values under the same keys when they have equally many entries and each
entry of the one has a counterpart in the other. -/
theorem map_get?_eq_iff {β : Type} {entries others : List (κ × α)}
    (nodup : (entries.map Prod.fst).Nodup) (nodupOthers : (others.map Prod.fst).Nodup)
    (f : α → β) :
    (∀ key, (get? entries key).map f = (get? others key).map f) ↔
      entries.length = others.length ∧ ∀ entry ∈ entries, ∃ other,
        get? others entry.1 = some other ∧ f entry.2 = f other := by
  constructor
  · intro same
    have keys_iff (key : κ) : key ∈ entries.map Prod.fst ↔ key ∈ others.map Prod.fst := by
      have isSome := congrArg Option.isSome (same key)
      simp only [Option.isSome_map] at isSome
      rw [← isSome_get?, ← isSome_get?, isSome]
    have perm := (List.perm_ext_iff_of_nodup nodup nodupOthers).mpr keys_iff
    refine ⟨by simpa using perm.length_eq, fun entry member => ?_⟩
    have found := same entry.1
    rw [get?_of_mem nodup member, Option.map_some] at found
    obtain ⟨other, isOther, alike⟩ := Option.map_eq_some_iff.mp found.symm
    exact ⟨other, isOther, alike.symm⟩
  · intro ⟨lengths, counterparts⟩ key
    cases found : get? entries key with
    | some value =>
        obtain ⟨other, isOther, alike⟩ := counterparts (key, value) (mem_of_get? found)
        rw [isOther, Option.map_some, Option.map_some, alike]
    | none =>
        -- The keys of the others are those of the entries, as there are no more of them.
        have subset : entries.map Prod.fst ⊆ others.map Prod.fst := by
          intro key member
          obtain ⟨entry, inside, rfl⟩ := List.mem_map.mp member
          obtain ⟨other, isOther, -⟩ := counterparts entry inside
          exact isSome_get?.mp (by rw [isOther]; rfl)
        have perm := (List.subperm_of_subset nodup subset).perm_of_length_le (by simp [lengths])
        have absent : get? others key = none := by
          rw [get?_eq_none_iff] at found ⊢
          exact fun member => found (perm.mem_iff.mpr member)
        rw [absent]

end DerivedQuery.Dictionary
