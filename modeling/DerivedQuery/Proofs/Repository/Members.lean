import DerivedQuery.Proofs.Dictionary
import DerivedQuery.Proofs.Sorting.StableSort
import DerivedQuery.Repository
import Mathlib.Data.String.Basic

/-!
# Members of a repository class

Of the stubs with one name the last one of the nearest declaration belongs to the class. The members
are listed in the order of their names, each name once, so that they depend on which stubs belong to
the class and not on the order in which these were declared.
-/

set_option autoImplicit false

namespace DerivedQuery

/-- The order of texts is the one of their characters. -/
theorem compareTexts_eq_lt_iff {a b : String} : compareTexts a b = .lt ↔ a < b := by
  rw [compareTexts, String.lt_iff_toList_lt]
  generalize a.toList = a
  generalize b.toList = b
  induction a generalizing b with
  | nil => cases b <;> simp [compareLists]
  | cons x restA ih =>
      cases b with
      | nil => simp [compareLists]
      | cons y restB =>
          simp only [List.map_cons, compareLists, List.cons_lt_cons_iff, ← ih]
          have ordered : x < y ↔ x.toNat < y.toNat := Iff.rfl
          rcases Nat.lt_trichotomy x.toNat y.toNat with less | same | greater
          · simp [ordered, less]
          · obtain rfl := Char.toNat_inj.mp same
            simp
          · have different : x ≠ y := fun same => by simp [same] at greater
            simp [ordered, Nat.lt_asymm greater, greater, different]

/-- The stub is the last one of its name. -/
def Stub.IsLast (stubs : List Stub) (stub : Stub) : Prop :=
  ∃ earlier later, stubs = earlier ++ stub :: later ∧ ∀ other ∈ later, other.name ≠ stub.name

/-- The stub that declarations, nearest first, have under its name: the last one of the nearest
declaration with that name. -/
inductive Declares : List ClassDeclaration → Stub → Prop
  | own {declaration : ClassDeclaration} {further : List ClassDeclaration} {stub : Stub}
      (last : stub.IsLast declaration.stubs) : Declares (declaration :: further) stub
  | inherited {declaration : ClassDeclaration} {further : List ClassDeclaration} {stub : Stub}
      (absent : ∀ other ∈ declaration.stubs, other.name ≠ stub.name)
      (declares : Declares further stub) : Declares (declaration :: further) stub

namespace Stub

variable {stub : Stub}

theorem IsLast.mem {stubs : List Stub} (last : stub.IsLast stubs) : stub ∈ stubs := by
  obtain ⟨earlier, later, rfl, -⟩ := last
  simp

theorem isLast_append {stubs more : List Stub} :
    stub.IsLast (stubs ++ more) ↔
      stub.IsLast more ∨ (∀ other ∈ more, other.name ≠ stub.name) ∧ stub.IsLast stubs := by
  constructor
  · rintro ⟨earlier, later, split, last⟩
    rcases List.append_eq_append_iff.mp split with ⟨front, rfl, rfl⟩ | ⟨back, rfl, same⟩
    · exact .inl ⟨front, later, rfl, last⟩
    · rcases back with _ | ⟨first, back⟩
      · exact .inl ⟨[], later, same.symm, last⟩
      · obtain ⟨rfl, rfl⟩ := List.cons.inj same
        refine .inr ⟨fun other member => last other (by simp [member]), earlier, back, rfl, ?_⟩
        exact fun other member => last other (by simp [member])
  · rintro (⟨earlier, later, rfl, last⟩ | ⟨absent, earlier, later, rfl, last⟩)
    · exact ⟨stubs ++ earlier, later, by simp, last⟩
    · refine ⟨earlier, later ++ more, by simp, fun other member => ?_⟩
      exact (List.mem_append.mp member).elim (last other) (absent other)

/-- What is put under a name last is the last stub of that name. -/
theorem isLast_iff_mem_ofEntries {stubs : List Stub} :
    stub.IsLast stubs ↔
      (stub.name, stub) ∈ Dictionary.ofEntries (stubs.map fun stub => (stub.name, stub)) := by
  rw [Dictionary.mem_ofEntries_iff]
  constructor
  · rintro ⟨earlier, later, rfl, last⟩
    refine ⟨earlier.map fun stub => (stub.name, stub), later.map fun stub => (stub.name, stub),
      by simp, ?_⟩
    simpa using last
  · rintro ⟨front, back, split, last⟩
    obtain ⟨earlier, rest, rfl, rfl, tail⟩ := List.map_eq_append_iff.mp split
    obtain ⟨first, later, rfl, same, rfl⟩ := List.map_eq_cons_iff.mp tail
    obtain rfl := (Prod.mk.inj same).2
    exact ⟨earlier, later, rfl, by simpa using last⟩

end Stub

theorem declares_iff_isLast {declarations : List ClassDeclaration} {stub : Stub} :
    Declares declarations stub ↔
      stub.IsLast (declarations.reverse.flatMap ClassDeclaration.stubs) := by
  -- The nearest declaration is laid out last, where its stubs win over those it inherits.
  induction declarations with
  | nil =>
      refine iff_of_false nofun ?_
      rintro ⟨earlier, later, split, -⟩
      simp at split
  | cons declaration further ih =>
      rw [List.reverse_cons, List.flatMap_append, List.flatMap_singleton, Stub.isLast_append, ← ih]
      constructor
      · intro declares
        cases declares with
        | own last => exact .inl last
        | inherited absent declares => exact .inr ⟨absent, declares⟩
      · rintro (last | ⟨absent, declares⟩)
        · exact .own last
        · exact .inherited absent declares

namespace RepositoryClass

variable {declared other : RepositoryClass}

private theorem names_latest (stubs : List Stub) :
    ((Dictionary.ofEntries (stubs.map fun stub => (stub.name, stub))).map Prod.snd).map Stub.name =
      (Dictionary.ofEntries (stubs.map fun stub => (stub.name, stub))).map Prod.fst := by
  rw [List.map_map]
  refine List.map_congr_left fun entry member => ?_
  obtain ⟨stub, -, rfl⟩ := List.mem_map.mp (Dictionary.mem_ofEntries member)
  rfl

private theorem members_stablySorted (declared : RepositoryClass) :
    StablySorted Stub.name
      ((Dictionary.ofEntries ((declared.declarations.reverse.flatMap ClassDeclaration.stubs).map
        fun stub => (stub.name, stub))).map Prod.snd) declared.members := by
  have order : OrdersByKey (fun a b : Stub => compareTexts a.name b.name == .lt)
      (fun _ => True) Stub.name :=
    ⟨fun _ _ => by rw [beq_iff_eq, compareTexts_eq_lt_iff]⟩
  exact stableSort_stablySorted order fun _ _ => trivial

theorem mem_members_iff {stub : Stub} :
    stub ∈ declared.members ↔ Declares declared.declarations stub := by
  rw [(members_stablySorted declared).ties.mem_iff, declares_iff_isLast,
    Stub.isLast_iff_mem_ofEntries, List.mem_map]
  constructor
  · rintro ⟨entry, member, rfl⟩
    obtain ⟨stub, -, rfl⟩ := List.mem_map.mp (Dictionary.mem_ofEntries member)
    exact member
  · intro member
    exact ⟨_, member, rfl⟩

/-- The members are listed in the order of their names. -/
theorem members_pairwise (declared : RepositoryClass) :
    declared.members.Pairwise fun a b => a.name < b.name := by
  have sorted := members_stablySorted declared
  have nodup : (declared.members.map Stub.name).Nodup := by
    refine ((sorted.ties.perm.map Stub.name).nodup_iff).mpr ?_
    rw [names_latest]
    exact Dictionary.nodup_ofEntries _
  exact (sorted.rising.and (List.pairwise_map.mp nodup)).imp fun apart =>
    lt_of_le_of_ne apart.1 apart.2

end RepositoryClass

end DerivedQuery
