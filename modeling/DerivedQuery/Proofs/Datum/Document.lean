import DerivedQuery.Datum
import Mathlib.Data.List.Perm.Basic

/-!
# Documents

Documents are nested lists and objects. They are the same when their objects have the same members
in any order and their lists the same items in the same order; numbers are the same only if they are
identical.
-/

set_option autoImplicit false

namespace DerivedQuery

mutual

/-- The documents are the same, apart from the order of entries. -/
def Datum.SameDocument : Datum → Datum → Prop
  | .dict entries, document => ∃ others, document = .dict others ∧ SameEntries entries others
  | .list items, document => ∃ others, document = .list others ∧ SameItems items others
  | leaf, document => document = leaf

/-- The documents are the same one by one. -/
def SameItems : List Datum → List Datum → Prop
  | [], others => others = []
  | item :: items, others =>
      ∃ other rest, others = other :: rest ∧ item.SameDocument other ∧ SameItems items rest

/-- In some order, the entries have the same keys and the same documents under them. -/
def SameEntries : List (Datum × Datum) → List (Datum × Datum) → Prop
  | [], others => others = []
  | (key, document) :: entries, others =>
      ∃ other rest, others.Perm ((key, other) :: rest) ∧ document.SameDocument other ∧
        SameEntries entries rest

end

mutual

theorem Datum.sameDocument_refl : (document : Datum) → document.SameDocument document
  | .dict entries => ⟨entries, rfl, sameEntries_refl entries⟩
  | .list items => ⟨items, rfl, sameItems_refl items⟩
  | .null | .boolean _ | .integer _ | .double _ | .text _ | .bytes _ | .buffer _ | .moment _
  | .tuple _ | .wrapped _ | .record _ _ | .foreign _ => rfl

theorem sameItems_refl : (items : List Datum) → SameItems items items
  | [] => rfl
  | item :: items => ⟨item, items, rfl, item.sameDocument_refl, sameItems_refl items⟩

theorem sameEntries_refl : (entries : List (Datum × Datum)) → SameEntries entries entries
  | [] => rfl
  | (_, document) :: entries =>
      ⟨document, entries, .refl _, document.sameDocument_refl, sameEntries_refl entries⟩

end

theorem SameEntries.perm {entries others again : List (Datum × Datum)}
    (same : SameEntries entries others) (perm : others.Perm again) : SameEntries entries again := by
  cases entries with
  | nil =>
      obtain rfl : others = [] := same
      exact perm.nil_eq.symm
  | cons entry entries =>
      obtain ⟨other, rest, found, here, later⟩ := same
      exact ⟨other, rest, perm.symm.trans found, here, later⟩

/-- The order of entries does not count on the other side either. -/
theorem SameEntries.perm_left {entries again others : List (Datum × Datum)}
    (perm : entries.Perm again) (same : SameEntries entries others) : SameEntries again others := by
  induction perm generalizing others with
  | nil => exact same
  | cons entry _ ih =>
      obtain ⟨other, rest, found, here, later⟩ := same
      exact ⟨other, rest, found, here, ih later⟩
  | swap entry next entries =>
      obtain ⟨other, rest, found, here, otherNext, restNext, foundNext, there, later⟩ := same
      refine ⟨otherNext, (next.1, other) :: restNext, ?_, there, other, restNext, .refl _, here,
        later⟩
      exact found.trans ((foundNext.cons _).trans (.swap _ _ _))
  | trans _ _ first second => exact second (first same)

mutual

theorem Datum.sameDocument_symm : (document other : Datum) → document.SameDocument other →
    other.SameDocument document
  | .dict entries, _, ⟨others, rfl, same⟩ => ⟨entries, rfl, sameEntries_symm entries others same⟩
  | .list items, _, ⟨others, rfl, same⟩ => ⟨items, rfl, sameItems_symm items others same⟩
  | .null, _, same | .boolean _, _, same | .integer _, _, same | .double _, _, same
  | .text _, _, same | .bytes _, _, same | .buffer _, _, same | .moment _, _, same
  | .tuple _, _, same | .wrapped _, _, same | .record _ _, _, same | .foreign _, _, same => by
      obtain rfl := same
      exact Datum.sameDocument_refl _

theorem sameItems_symm : (items others : List Datum) → SameItems items others →
    SameItems others items
  | [], _, same => by
      obtain rfl := same
      rfl
  | item :: items, _, ⟨other, rest, isOthers, here, later⟩ => by
      obtain rfl := isOthers
      exact ⟨item, items, rfl, item.sameDocument_symm other here, sameItems_symm items rest later⟩

theorem sameEntries_symm : (entries others : List (Datum × Datum)) → SameEntries entries others →
    SameEntries others entries
  | [], _, same => by
      obtain rfl := same
      rfl
  | (_, document) :: entries, _, ⟨other, rest, found, here, later⟩ => by
      -- The entry that was found among the others is the first one now.
      apply SameEntries.perm_left found.symm
      exact ⟨document, entries, .refl _, document.sameDocument_symm other here,
        sameEntries_symm entries rest later⟩

end

mutual

theorem Datum.sameDocument_trans : (document other further : Datum) →
    document.SameDocument other → other.SameDocument further → document.SameDocument further
  | .dict entries, _, _, ⟨others, rfl, same⟩, ⟨furthers, rfl, again⟩ =>
      ⟨furthers, rfl, sameEntries_trans entries others furthers same again⟩
  | .list items, _, _, ⟨others, rfl, same⟩, ⟨furthers, rfl, again⟩ =>
      ⟨furthers, rfl, sameItems_trans items others furthers same again⟩
  | .null, _, _, same, again | .boolean _, _, _, same, again | .integer _, _, _, same, again
  | .double _, _, _, same, again | .text _, _, _, same, again | .bytes _, _, _, same, again
  | .buffer _, _, _, same, again | .moment _, _, _, same, again | .tuple _, _, _, same, again
  | .wrapped _, _, _, same, again | .record _ _, _, _, same, again
  | .foreign _, _, _, same, again => by
      obtain rfl := same
      exact again

theorem sameItems_trans : (items others furthers : List Datum) → SameItems items others →
    SameItems others furthers → SameItems items furthers
  | [], _, _, same, again => by
      obtain rfl := same
      exact again
  | item :: items, _, _, ⟨other, rest, isOthers, here, later⟩, again => by
      obtain rfl := isOthers
      obtain ⟨further, restFurther, rfl, hereAgain, laterAgain⟩ := again
      exact ⟨further, restFurther, rfl, item.sameDocument_trans other further here hereAgain,
        sameItems_trans items rest restFurther later laterAgain⟩

theorem sameEntries_trans : (entries others furthers : List (Datum × Datum)) →
    SameEntries entries others → SameEntries others furthers → SameEntries entries furthers
  | [], _, _, same, again => by
      obtain rfl := same
      exact again
  | (_, document) :: entries, _, _, ⟨other, rest, found, here, later⟩, again => by
      obtain ⟨further, restFurther, foundFurther, hereAgain, laterAgain⟩ :=
        SameEntries.perm_left found again
      exact ⟨further, restFurther, foundFurther,
        document.sameDocument_trans other further here hereAgain,
        sameEntries_trans entries rest restFurther later laterAgain⟩

end

theorem SameEntries.keys {entries others : List (Datum × Datum)} (same : SameEntries entries others) :
    (others.map Prod.fst).Perm (entries.map Prod.fst) := by
  induction entries generalizing others with
  | nil =>
      obtain rfl : others = [] := same
      exact .refl []
  | cons entry entries ih =>
      obtain ⟨other, rest, found, -, later⟩ := same
      exact (found.map Prod.fst).trans ((ih later).cons entry.1)

/-- Where a key occurs once, the documents under it are compared. -/
theorem sameEntries_cons {key document other : Datum} {entries others : List (Datum × Datum)}
    (absent : key ∉ others.map Prod.fst) :
    SameEntries ((key, document) :: entries) ((key, other) :: others) ↔
      document.SameDocument other ∧ SameEntries entries others := by
  constructor
  · rintro ⟨found, rest, perm, here, later⟩
    have member : (key, found) ∈ (key, other) :: others := perm.mem_iff.mpr List.mem_cons_self
    rcases List.mem_cons.mp member with same | inOthers
    · obtain rfl := (Prod.mk.inj same).2
      exact ⟨here, later.perm perm.cons_inv.symm⟩
    · exact absurd (List.mem_map_of_mem inOthers) absent
  · rintro ⟨here, later⟩
    exact ⟨other, others, .refl _, here, later⟩

/-- What is an image in some order with one element in front is so before the mapping. -/
theorem exists_of_map_perm_cons {α β : Type} {f : α → β} {xs : List α} {y : β} {ys : List β}
    (perm : (xs.map f).Perm (y :: ys)) :
    ∃ x rest, xs.Perm (x :: rest) ∧ f x = y ∧ (rest.map f).Perm ys := by
  obtain ⟨x, inside, rfl⟩ := List.mem_map.mp (perm.mem_iff.mpr List.mem_cons_self)
  obtain ⟨front, back, rfl⟩ := List.append_of_mem inside
  refine ⟨x, front ++ back, List.perm_middle, rfl, ?_⟩
  have moved : ((front ++ x :: back).map f).Perm (f x :: (front ++ back).map f) :=
    List.perm_middle.map f
  exact (moved.symm.trans perm).cons_inv

/-! ## Objects -/

/-- Objects with these members are the same. -/
def SameMembers (members others : List (String × Datum)) : Prop :=
  (Datum.object members).SameDocument (.object others)

section

variable {key otherKey : String} {document other : Datum} {members others : List (String × Datum)}

theorem sameMembers_iff : SameMembers members others ↔
    SameEntries (members.map fun entry => (.text entry.1, entry.2))
      (others.map fun entry => (.text entry.1, entry.2)) := by
  constructor
  · rintro ⟨entries, same, alike⟩
    rwa [Datum.dict.inj same]
  · exact fun alike => ⟨_, rfl, alike⟩

theorem sameMembers_nil : SameMembers [] [] := Datum.sameDocument_refl _

theorem SameMembers.mem_keys (same : SameMembers members others) :
    key ∈ others.map Prod.fst ↔ key ∈ members.map Prod.fst := by
  have keys := (sameMembers_iff.mp same).keys.mem_iff (a := .text key)
  simpa using keys

theorem sameMembers_cons (absent : key ∉ others.map Prod.fst) :
    SameMembers ((key, document) :: members) ((key, other) :: others) ↔
      document.SameDocument other ∧ SameMembers members others := by
  rw [sameMembers_iff, sameMembers_iff]
  exact sameEntries_cons (by simpa using absent)

/-- Objects with one member each. -/
theorem sameDocument_tagged :
    (Datum.object [(key, document)]).SameDocument (.object [(otherKey, other)]) ↔
      otherKey = key ∧ document.SameDocument other := by
  change SameMembers [(key, document)] [(otherKey, other)] ↔ _
  by_cases sameKey : otherKey = key
  · rw [sameKey, sameMembers_cons (by simp)]
    simp [sameMembers_nil]
  · refine ⟨fun same => absurd ?_ sameKey, fun both => absurd both.1 sameKey⟩
    have keys := @SameMembers.mem_keys otherKey _ _ same
    simpa using keys

/-- A member that may be left out is there on both sides or on none. -/
theorem sameMembers_option {document other : Option Datum} (absent : key ∉ members.map Prod.fst)
    (absentOther : key ∉ others.map Prod.fst) :
    SameMembers ((document.map fun d => (key, d)).toList ++ members)
        ((other.map fun d => (key, d)).toList ++ others) ↔
      Option.Rel Datum.SameDocument document other ∧ SameMembers members others := by
  cases document with
  | none =>
      cases other with
      | none => simp
      | some other =>
          refine ⟨fun same => ?_, fun ⟨related, _⟩ => nomatch related⟩
          have keys := @SameMembers.mem_keys key _ _ same
          simp [absent] at keys
  | some document =>
      cases other with
      | none =>
          refine ⟨fun same => ?_, fun ⟨related, _⟩ => nomatch related⟩
          have keys := @SameMembers.mem_keys key _ _ same
          simp [absentOther] at keys
      | some other =>
          simp only [Option.map_some, Option.toList_some, List.singleton_append]
          rw [sameMembers_cons absentOther, Option.rel_some_some]

end

end DerivedQuery
