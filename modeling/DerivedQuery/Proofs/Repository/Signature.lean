import DerivedQuery.Proofs.Dictionary
import DerivedQuery.Proofs.Passes
import DerivedQuery.Repository.Signature

/-!
# Binding the arguments of a call

Parameters that may be given by position or by name receive what stands in their place, or else what
bears their name. A call binds the values up to the first parameter that receives none. It is
refused when a parameter is given twice, when there are more values than parameters, or when a name
is none of a parameter; the first of these faults is reported.
-/

set_option autoImplicit false

namespace DerivedQuery

/-- The values before the first place without one: each stands in its place, and the next place has
none. -/
structure Leading {α : Type} (options : List (Option α)) (values : List α) : Prop where
  found : ∀ (i : Nat) (value : α), values[i]? = some value → options[i]? = some (some value)
  ends : ∀ value : α, options[values.length]? ≠ some (some value)

namespace Leading

variable {α : Type} {options : List (Option α)} {values others : List α}

theorem nil (none : ∀ value : α, options[0]? ≠ some (some value)) : Leading options [] :=
  ⟨fun i value found => by simp at found, none⟩

theorem cons (value : α) (leading : Leading options values) :
    Leading (some value :: options) (value :: values) := by
  refine ⟨fun i other found => ?_, leading.ends⟩
  cases i with
  | zero => simpa using found
  | succ i => exact leading.found i other found

theorem tail {value : α} (leading : Leading (some value :: options) values) :
    Leading options (values.drop 1) := by
  cases values with
  | nil => exact absurd rfl (leading.ends value)
  | cons first values => exact ⟨fun i => leading.found (i + 1), leading.ends⟩

private theorem length_le (leading : Leading options values) (again : Leading options others) :
    others.length ≤ values.length := by
  refine Nat.le_of_not_lt fun longer => ?_
  exact leading.ends _ (again.found _ _ (List.getElem?_eq_getElem longer))

theorem unique (leading : Leading options values) (again : Leading options others) :
    values = others := by
  refine List.ext_getElem (Nat.le_antisymm (again.length_le leading) (leading.length_le again)) ?_
  intro i inside insideOthers
  have found := leading.found i _ (List.getElem?_eq_getElem inside)
  rw [again.found i _ (List.getElem?_eq_getElem insideOthers)] at found
  exact (Option.some.inj (Option.some.inj found)).symm

end Leading

namespace Signature

/-- What each parameter receives: the value in its place, or else the one that bears its name. -/
def received (names : List String) (arguments : List Datum) (keywords : Keywords) :
    List (Option Datum) :=
  names.mapIdx fun i name => arguments[i]?.or (Dictionary.get? keywords name)

theorem received_cons (name : String) (names : List String) (value : Datum)
    (arguments : List Datum) (keywords : Keywords) :
    received (name :: names) (value :: arguments) keywords =
      some value :: received names arguments keywords := by
  simp [received]

/-- The values fit the parameters: there are not too many, and each name is that of one of the
parameters to which no value goes by position. -/
structure Accepts (names : List String) (positions : Nat) (keywords : List String) : Prop where
  room : positions ≤ names.length
  once : ∀ name ∈ names.take positions, name ∉ keywords
  known : ∀ keyword ∈ keywords, keyword ∈ names

/-- The first fault of values that do not fit the parameters. -/
inductive Rejects (names : List String) (positions : Nat) (keywords : List String) :
    CallFault → Prop
  | twice {front back : List String} {name : String} (listed : names = front ++ name :: back)
      (filled : front.length < positions) (before : ∀ other ∈ front, other ∉ keywords)
      (given : name ∈ keywords) : Rejects names positions keywords (.multipleValues name)
  | many (once : ∀ name ∈ names, name ∉ keywords) (full : names.length < positions) :
      Rejects names positions keywords .tooManyPositional
  | unknown {front back : List String} {keyword : String}
      (once : ∀ name ∈ names.take positions, name ∉ keywords) (room : positions ≤ names.length)
      (listed : keywords = front ++ keyword :: back) (before : ∀ other ∈ front, other ∈ names)
      (absent : keyword ∉ names) : Rejects names positions keywords (.unexpectedKeyword keyword)

section Fitting

variable {names keywords : List String} {positions : Nat}

/-- Values that do not fit have a first fault. -/
theorem exists_rejects (misfit : ¬ Accepts names positions keywords) :
    ∃ fault, Rejects names positions keywords fault := by
  cases given : (names.take positions).find? fun name => decide (name ∈ keywords) with
  | some name =>
      obtain ⟨named, front, back, listed, before⟩ := List.find?_eq_some_iff_append.mp given
      have filled : front.length < positions := by
        have bound := congrArg List.length listed
        rw [List.length_take, List.length_append, List.length_cons] at bound
        omega
      have whole : names = front ++ name :: (back ++ names.drop positions) := by
        conv_lhs => rw [← List.take_append_drop positions names, listed]
        simp
      exact ⟨_, .twice whole filled (by simpa using before) (by simpa using named)⟩
  | none =>
      have once : ∀ name ∈ names.take positions, name ∉ keywords := by
        simpa using List.find?_eq_none.mp given
      rcases Nat.lt_or_ge names.length positions with full | room
      · rw [List.take_of_length_le (Nat.le_of_lt full)] at once
        exact ⟨_, .many once full⟩
      · cases strange : keywords.find? fun keyword => decide (keyword ∉ names) with
        | some keyword =>
            obtain ⟨absent, front, back, listed, before⟩ :=
              List.find?_eq_some_iff_append.mp strange
            exact ⟨_, .unknown once room listed (by simpa using before) (by simpa using absent)⟩
        | none => exact absurd ⟨room, once, by simpa using List.find?_eq_none.mp strange⟩ misfit

end Fitting

/-- What parameters take from their places. -/
private def taken (parameters : List Parameter) (values : List Datum) : Bound :=
  (parameters.zip values).map fun entry => (entry.1.name, [entry.2])

/-- What parameters take by their names. -/
private def named (keywords : Keywords) (parameters : List Parameter) : Bound :=
  parameters.filterMap fun p => (Dictionary.get? keywords p.name).map fun value => (p.name, [value])

section Binding

variable {parameters front rest : List Parameter} {values first : List Datum} {keywords : Keywords}

private theorem bindPositional_nil (positional : ∀ p ∈ parameters, p.kind = .positional) :
    bindPositional keywords parameters [] = .ok ([], parameters) := by
  cases parameters with
  | nil => rfl
  | cons p parameters => simp [bindPositional, positional p (by simp)]

private theorem bindPositional_cons {p : Parameter} (isPositional : p.kind = .positional)
    (value : Datum) :
    bindPositional keywords (p :: rest) (value :: values) =
      if p.name ∈ keywords.map Prod.fst then .error (.multipleValues p.name)
      else (bindPositional keywords rest values).map fun bound =>
        ((p.name, [value]) :: bound.1, bound.2) := by
  simp only [bindPositional, isPositional]
  by_cases given : p.name ∈ keywords.map Prod.fst
  · rw [if_pos given, if_pos ⟨nofun, Dictionary.has_iff.mpr given⟩]
  · rw [if_neg given, if_neg fun has => given (Dictionary.has_iff.mp has.2)]
    cases bindPositional keywords rest values <;> rfl

/-- Parameters that are not given by name take the values in their places. -/
private theorem bindPositional_append (positional : ∀ p ∈ front, p.kind = .positional)
    (once : ∀ p ∈ front, p.name ∉ keywords.map Prod.fst) (lengths : front.length = first.length) :
    bindPositional keywords (front ++ rest) (first ++ values) =
      (bindPositional keywords rest values).map fun bound =>
        (taken front first ++ bound.1, bound.2) := by
  induction front generalizing first with
  | nil =>
      obtain rfl := List.length_eq_zero_iff.mp lengths.symm
      rw [List.nil_append, List.nil_append]
      cases bindPositional keywords rest values <;> rfl
  | cons p front ih =>
      obtain ⟨value, first, rfl⟩ := List.exists_cons_of_length_eq_add_one lengths.symm
      obtain ⟨isPositional, positional⟩ := List.forall_mem_cons.mp positional
      obtain ⟨fresh, once⟩ := List.forall_mem_cons.mp once
      rw [List.cons_append, List.cons_append, bindPositional_cons isPositional, if_neg fresh,
        ih positional once (Nat.succ.inj lengths)]
      cases bindPositional keywords rest values <;> rfl

private theorem exists_append_of_le {α : Type} {items : List α} {n : Nat} (le : n ≤ items.length) :
    ∃ front back, items = front ++ back ∧ front.length = n :=
  ⟨_, _, (List.take_append_drop n items).symm, List.length_take_of_le le⟩

/-- Values that are left after the first parameters go to the others. -/
private theorem bindPositional_past (rest : List Parameter)
    (positional : ∀ p ∈ front, p.kind = .positional)
    (once : ∀ p ∈ front, p.name ∉ keywords.map Prod.fst) (filled : front.length < values.length) :
    ∃ value others f, bindPositional keywords (front ++ rest) values =
      (bindPositional keywords rest (value :: others)).map f := by
  obtain ⟨first, left, rfl, lengths⟩ := exists_append_of_le (Nat.le_of_lt filled)
  cases left with
  | nil => simp [lengths] at filled
  | cons value others =>
      exact ⟨value, others, _, bindPositional_append positional once lengths.symm⟩

/-- A name that was taken out is not that of another parameter. -/
private theorem named_filter_ne {name : String} (absent : name ∉ parameters.map Parameter.name) :
    named (keywords.filter fun entry => entry.1 != name) parameters = named keywords parameters := by
  refine List.filterMap_congr fun p member => ?_
  have differs : p.name ≠ name := fun same => absent (same ▸ List.mem_map_of_mem member)
  rw [Dictionary.get?_filter_ne differs]

/-- Each parameter takes the value that bears its name, and the other names are left over. -/
private theorem bindKeywords_eq_ok (keywords : Keywords)
    (positional : ∀ p ∈ parameters, p.kind = .positional)
    (apart : (parameters.map Parameter.name).Nodup) :
    bindKeywords keywords parameters = .ok (named keywords parameters,
      keywords.filter fun entry => entry.1 ∉ parameters.map Parameter.name) := by
  -- A parameter takes its name out, so the keywords change with the parameters.
  induction parameters generalizing keywords with
  | nil => simp [bindKeywords, named]
  | cons p parameters ih =>
      obtain ⟨isPositional, positional⟩ := List.forall_mem_cons.mp positional
      obtain ⟨absent, apart⟩ := List.nodup_cons.mp apart
      rw [named, List.filterMap_cons]
      simp only [bindKeywords, isPositional]
      cases given : Dictionary.get? keywords p.name with
      | none =>
          have left : (keywords.filter fun entry => entry.1 ∉ parameters.map Parameter.name) =
              keywords.filter fun entry => entry.1 ∉ (p :: parameters).map Parameter.name := by
            refine List.filter_congr fun entry member => ?_
            have differs : entry.1 ≠ p.name := fun same =>
              Dictionary.get?_eq_none_iff.mp given (same ▸ List.mem_map_of_mem member)
            simp [differs]
          simp only [ih keywords positional apart, left]
          rfl
      | some value =>
          have left : ((keywords.filter fun entry => entry.1 != p.name).filter fun entry =>
                entry.1 ∉ parameters.map Parameter.name) =
              keywords.filter fun entry => entry.1 ∉ (p :: parameters).map Parameter.name := by
            rw [List.filter_filter]
            refine List.filter_congr fun entry _ => ?_
            by_cases same : entry.1 = p.name <;> simp [same]
          simp only [ih _ positional apart, named_filter_ne absent, left]
          rfl

private theorem leading_positionalValues {bound : Bound} {options : List (Option Datum)}
    (positional : ∀ p ∈ parameters, p.kind = .positional)
    (found : List.Forall₂ (fun p option =>
      Dictionary.get? bound p.name = option.map fun value => [value]) parameters options) :
    Leading options (positionalValues bound parameters) := by
  induction found with
  | nil => exact .nil nofun
  | @cons p option parameters options here later ih =>
      obtain ⟨isPositional, positional⟩ := List.forall_mem_cons.mp positional
      cases option with
      | none =>
          simp only [positionalValues, isPositional, here]
          exact .nil nofun
      | some value =>
          simp only [positionalValues, isPositional, here]
          exact (ih positional).cons value

private theorem received_append {front : List String} (lengths : front.length = first.length)
    (rest : List String) :
    received (front ++ rest) first keywords =
      first.map some ++ rest.map (Dictionary.get? keywords) := by
  induction front generalizing first with
  | nil =>
      obtain rfl := List.length_eq_zero_iff.mp lengths.symm
      exact List.ext_getElem? fun i => by simp [received]
  | cons name front ih =>
      obtain ⟨value, first, rfl⟩ := List.exists_cons_of_length_eq_add_one lengths.symm
      rw [List.cons_append, received_cons, ih (Nat.succ.inj lengths)]
      rfl

private theorem keys_taken (lengths : front.length = first.length) :
    (taken front first).map Prod.fst = front.map Parameter.name := by
  rw [taken, List.map_map, ← List.map_fst_zip (Nat.le_of_eq lengths), List.map_map,
    List.map_fst_zip (Nat.le_of_eq lengths)]
  rfl

private theorem keys_named (keywords : Keywords) (rest : List Parameter) :
    ((named keywords rest).map Prod.fst).Sublist (rest.map Parameter.name) := by
  induction rest with
  | nil => exact .slnil
  | cons p rest ih =>
      rw [named, List.filterMap_cons]
      cases Dictionary.get? keywords p.name with
      | none => exact ih.cons _
      | some value => exact ih.cons_cons _

private theorem mem_named_iff {p : Parameter} {values : List Datum} (member : p ∈ rest) :
    (p.name, values) ∈ named keywords rest ↔
      ∃ value, Dictionary.get? keywords p.name = some value ∧ values = [value] := by
  rw [named, List.mem_filterMap]
  constructor
  · rintro ⟨q, -, gives⟩
    obtain ⟨value, found, same⟩ := Option.map_eq_some_iff.mp gives
    obtain ⟨name, rfl⟩ := Prod.mk.inj same
    exact ⟨value, name ▸ found, rfl⟩
  · rintro ⟨value, found, rfl⟩
    exact ⟨p, member, by rw [found]; rfl⟩

/-- What parameters took from their places or by their names is found under their names. -/
private theorem found_of_bound (lengths : front.length = first.length)
    (apart : ((front ++ rest).map Parameter.name).Nodup) :
    List.Forall₂ (fun p option => Dictionary.get? (taken front first ++ named keywords rest) p.name =
        option.map fun value => [value])
      (front ++ rest) (first.map some ++ rest.map fun p => Dictionary.get? keywords p.name) := by
  rw [List.map_append] at apart
  -- No name is bound twice, so what is bound under a name is what is found there.
  have nodup : ((taken front first ++ named keywords rest).map Prod.fst).Nodup := by
    rw [List.map_append, keys_taken lengths]
    exact apart.sublist ((keys_named keywords rest).append_left _)
  refine List.rel_append (List.forall₂_iff_zip.mpr ⟨by simpa using lengths, ?_⟩) ?_
  · intro p option member
    rw [List.zip_map_right, List.mem_map] at member
    obtain ⟨entry, inside, same⟩ := member
    obtain ⟨rfl, rfl⟩ := Prod.mk.inj same
    exact Dictionary.get?_of_mem nodup (List.mem_append_left _ (List.mem_map_of_mem inside))
  · rw [List.forall₂_map_right_iff, List.forall₂_same]
    intro p member
    cases given : Dictionary.get? keywords p.name with
    | some value =>
        have byName := (mem_named_iff member).mpr ⟨value, given, rfl⟩
        exact Dictionary.get?_of_mem nodup (List.mem_append_right _ byName)
    | none =>
        rw [Option.map_none, Option.eq_none_iff_forall_ne_some]
        intro values found
        rcases List.mem_append.mp (Dictionary.mem_of_get? found) with inFront | inRest
        · have place := List.mem_map_of_mem (f := Prod.fst) inFront
          rw [keys_taken lengths] at place
          exact (List.nodup_append.mp apart).2.2 _ place _ (List.mem_map_of_mem member) rfl
        · obtain ⟨value, again, -⟩ := (mem_named_iff member).mp inRest
          exact nomatch given.symm.trans again

variable {arguments : List Datum} {fault : CallFault}

/-- Where nothing is given twice, what counts is whether a name is left over. -/
private theorem bind_append (positional : ∀ p ∈ front ++ rest, p.kind = .positional)
    (apart : ((front ++ rest).map Parameter.name).Nodup)
    (once : ∀ p ∈ front, p.name ∉ keywords.map Prod.fst)
    (lengths : front.length = arguments.length + 1) :
    bind (front ++ rest) arguments keywords =
      match keywords.filter fun entry => entry.1 ∉ rest.map Parameter.name with
      | [] => .ok ((positionalValues (taken front (.null :: arguments) ++ named keywords rest)
          (front ++ rest)).drop 1)
      | entry :: _ => .error (.unexpectedKeyword entry.1) := by
  obtain ⟨positionalFront, positionalRest⟩ := List.forall_mem_append.mp positional
  rw [List.map_append] at apart
  have byPlace := @bindPositional_append front rest [] (.null :: arguments) keywords
    positionalFront once lengths
  rw [List.append_nil, bindPositional_nil positionalRest] at byPlace
  have byName := bindKeywords_eq_ok keywords positionalRest apart.of_append_right
  have noneLeft : (rest.any fun parameter => parameter.kind = .keywordVariadic) = false := by
    simpa using fun p member => by simp [positionalRest p member]
  simp only [bind, byPlace, Except.map, byName, Bind.bind, Except.bind, noneLeft, List.append_nil]
  cases keywords.filter fun entry => entry.1 ∉ rest.map Parameter.name <;> rfl

/-- No name is left over that is one of those of the parameters without a value. -/
private theorem filter_eq_nil
    (known : ∀ entry ∈ keywords, entry.1 ∈ (front ++ rest).map Parameter.name)
    (once : ∀ entry ∈ keywords, entry.1 ∉ front.map Parameter.name) :
    (keywords.filter fun entry => entry.1 ∉ rest.map Parameter.name) = [] := by
  rw [List.filter_eq_nil_iff]
  intro entry member
  have listed := known entry member
  rw [List.map_append, List.mem_append] at listed
  simpa using listed.resolve_left (once entry member)

/-- Values that fit are bound up to the first parameter that receives none. -/
theorem bind_of_accepts (positional : ∀ p ∈ parameters, p.kind = .positional)
    (apart : (parameters.map Parameter.name).Nodup)
    (accepts : Accepts (parameters.map Parameter.name) (arguments.length + 1)
      (keywords.map Prod.fst)) :
    ∃ values, Leading (received (parameters.map Parameter.name) (.null :: arguments) keywords)
      values ∧ bind parameters arguments keywords = .ok (values.drop 1) := by
  obtain ⟨room, once, known⟩ := accepts
  rw [List.length_map] at room
  obtain ⟨front, rest, rfl, lengths⟩ := exists_append_of_le room
  rw [List.map_append, List.take_left' (by simpa using lengths)] at once
  have bound := bind_append positional apart (fun p member => once _ (List.mem_map_of_mem member))
    lengths
  rw [filter_eq_nil (fun entry member => known _ (List.mem_map_of_mem member))
    fun entry member inside => once _ inside (List.mem_map_of_mem member)] at bound
  refine ⟨_, ?_, bound⟩
  rw [List.map_append, received_append (by simpa using lengths), List.map_map]
  exact leading_positionalValues positional (found_of_bound lengths apart)

/-- Values that do not fit are refused for their first fault. -/
theorem bind_of_rejects (positional : ∀ p ∈ parameters, p.kind = .positional)
    (apart : (parameters.map Parameter.name).Nodup)
    (rejects : Rejects (parameters.map Parameter.name) (arguments.length + 1)
      (keywords.map Prod.fst) fault) :
    bind parameters arguments keywords = .error fault := by
  cases rejects with
  | twice listed filled before given =>
      obtain ⟨front, more, rfl, rfl, tail⟩ := List.map_eq_append_iff.mp listed
      obtain ⟨p, back, rfl, rfl, rfl⟩ := List.map_eq_cons_iff.mp tail
      obtain ⟨positionalFront, positionalBack⟩ := List.forall_mem_append.mp positional
      have past : front.length < (Datum.null :: arguments).length := by simpa using filled
      obtain ⟨value, others, f, passed⟩ := bindPositional_past (p :: back) positionalFront
        (fun q member => before _ (List.mem_map_of_mem member)) past
      rw [bindPositional_cons (positionalBack p (by simp)), if_pos given] at passed
      rw [bind, passed]
      rfl
  | many once full =>
      have past : parameters.length < (Datum.null :: arguments).length := by simpa using full
      obtain ⟨value, others, f, passed⟩ := bindPositional_past [] positional
        (fun p member => once _ (List.mem_map_of_mem member)) past
      rw [List.append_nil] at passed
      rw [bind, passed]
      rfl
  | unknown once room listed before absent =>
      rw [List.length_map] at room
      obtain ⟨front, rest, rfl, lengths⟩ := exists_append_of_le room
      rw [List.map_append, List.take_left' (by simpa using lengths)] at once
      obtain ⟨early, more, rfl, rfl, tail⟩ := List.map_eq_append_iff.mp listed
      obtain ⟨entry, late, rfl, rfl, -⟩ := List.map_eq_cons_iff.mp tail
      rw [List.map_append, List.mem_append, not_or] at absent
      have known := filter_eq_nil (fun other member => before _ (List.mem_map_of_mem member))
        fun other member inside =>
          once _ inside (List.mem_map_of_mem (List.mem_append_left _ member))
      rw [bind_append positional apart (fun p member => once _ (List.mem_map_of_mem member))
        lengths, List.filter_append, known, List.nil_append, List.filter_cons,
        if_pos (decide_eq_true absent.2)]

end Binding

end Signature

end DerivedQuery
