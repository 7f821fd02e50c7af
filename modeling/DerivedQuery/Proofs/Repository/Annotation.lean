import DerivedQuery.Proofs.Meaning.Depth
import DerivedQuery.Repository

/-!
# Lists of models as annotations

The result of a stub names a model where it is said to be a list of the model, be it directly or by
a text. In every module that defines the name of the model and leaves the name of lists alone, the
annotation means this list, and resolving it changes nothing.
-/

set_option autoImplicit false

namespace DerivedQuery

namespace Annotation

variable {scope : Scope} {names : ModuleNames} {described : Model}
  {name text : String}

/-- The list of a model. -/
def listOf (described : Model) : Meaning := .applied false "list" [.model described]

/-- The expression of the list of what a name means. -/
def listExpression (name : String) : Expression := .part (.identifier "list") (.identifier name)

example : Expression.ofText? "list[Book]" = some (listExpression "Book") := by
  have tokens : Token.ofText? "list[Book]" =
      some [.name "list", .symbol "[", .name "Book", .symbol "]"] := by decide +kernel
  rw [Expression.ofText?, tokens]
  rfl

theorem lookUp_of_get? {meaning : Meaning} (known : scope.get? name = some meaning) :
    Evaluation.lookUp name scope = .ok (meaning, scope) := by
  simp only [Evaluation.lookUp, bind, StateT.bind, get, getThe, MonadStateOf.get, StateT.get, pure,
    Except.pure, Except.bind, known]
  rfl

theorem lookUp_of_unknown (unknown : scope.get? name = none) :
    Evaluation.lookUp name scope = (Meaning.ofName name).map fun meaning => (meaning, scope) := by
  simp only [Evaluation.lookUp, bind, StateT.bind, get, getThe, MonadStateOf.get, StateT.get, pure,
    Except.pure, Except.bind, unknown]
  cases Meaning.ofName name <;> rfl

theorem value_listExpression (plain : scope.get? "list" = none)
    (known : scope.get? name = some (.model described)) :
    (Evaluation.ofDepth 2).value (listExpression name) scope = .ok (listOf described, scope) := by
  have list : Evaluation.lookUp "list" scope = .ok (.builtinClass "list", scope) :=
    lookUp_of_unknown plain
  have element := lookUp_of_get? known
  change (Evaluation.lookUp "list" scope >>= fun found => _) = _
  rw [list]
  change (Evaluation.lookUp name scope >>= fun found => _) = _
  rw [element]
  rfl

/-- However deep the parts of an expression may lie, those of a list lie less deep. -/
theorem ofExpression_listExpression (size : Nat) (plain : scope.get? "list" = none)
    (known : scope.get? name = some (.model described)) :
    Meaning.ofExpression size (listExpression name) scope = .ok (listOf described, scope) := by
  have writes : (listExpression name).WritesType 2 := .part (.identifier "list") (.identifier name)
  have deep : 2 ≤ size + Meaning.deepest := Nat.le_add_left_of_le (by decide)
  rw [Meaning.ofExpression, Evaluation.value_eq_of_writesType writes deep]
  exact value_listExpression plain known

/-- A text that is an annotation means what its expression means, with the texts in it resolved. -/
theorem resolve_text {expression : Expression} (scope : Scope)
    (reads : Expression.ofReference text = .ok expression) :
    resolve (.datum (.text text)) scope =
      Meaning.ofExpression (Expression.depthBound text) expression scope >>= fun found =>
        Meaning.check "Forward references must evaluate to types." found.1 >>= fun checked =>
          checked.resolveWith (Meaning.ofText (longestChain - 1) [text]) found.2 := by
  change (((Expression.ofReference text).mapError Failure.expression >>= fun expression =>
    .ok (expression, scope)) >>= fun found => _) = _
  rw [reads]
  change (Meaning.ofExpression _ expression scope >>= fun found => _) = _
  cases Meaning.ofExpression (Expression.depthBound text) expression scope with
  | error failure => rfl
  | ok found =>
      change ((Meaning.check _ found.1 >>= fun checked => .ok (checked, found.2)) >>=
        fun found => _) = (Meaning.check _ found.1 >>= _)
      cases Meaning.check "Forward references must evaluate to types." found.1 <;> rfl

/-- A text that spells the list of a model is resolved to this list. -/
theorem resolve_listText (reads : Expression.ofReference text = .ok (listExpression name))
    (plain : scope.get? "list" = none) (known : scope.get? name = some (.model described)) :
    resolve (.datum (.text text)) scope = .ok (listOf described, scope) := by
  rw [resolve_text scope reads, ofExpression_listExpression _ plain known]
  rfl

/-- An expression that spells the list of a model says this list. -/
theorem ofText_listOf (reads : Expression.ofText? text = some (listExpression name))
    (plain : Dictionary.get? names "list" = none)
    (known : Dictionary.get? names name = some (.model described)) :
    ofText names text = .ok (listOf described) := by
  have means := @ofExpression_listExpression { globals := names } described name
    (Expression.depthBound text) plain known
  rw [ofText, reads]
  change Prod.fst <$> Meaning.ofExpression _ _ _ = _
  rw [means]
  rfl

/-- The annotation is the list of a model, or a text that spells it among the names of a module. -/
inductive SpellsListOf (names : ModuleNames) (described : Model) : Meaning → Prop where
  | list : SpellsListOf names described (listOf described)
  | text {text name : String} (reads : Expression.ofReference text = .ok (listExpression name))
      (plain : Dictionary.get? names "list" = none)
      (known : Dictionary.get? names name = some (.model described)) :
      SpellsListOf names described (.datum (.text text))

theorem SpellsListOf.resolve_eq {meaning : Meaning} (spells : SpellsListOf names described meaning) :
    resolve meaning { globals := names } = .ok (listOf described, { globals := names }) := by
  cases spells with
  | list => rfl
  | text reads plain known => exact resolve_listText reads plain known

end Annotation

namespace Stub

variable {modules : Modules} {stub : Stub} {described : Model} {meaning : Meaning}

/-- Where only the result is annotated the annotation is all that is resolved. -/
theorem resolve_of_annotated (annotated : stub.annotations = [("return", meaning)]) :
    stub.resolve modules =
      Annotation.resolve meaning { globals := modules stub.home } >>= fun found =>
        .ok ([("return", found.1)], fun home =>
          if home = stub.home then found.2.globals else modules home) := by
  rw [resolve, annotated]
  change (( Annotation.resolve meaning _ >>= fun found => _) >>= fun found => _) = _
  cases Annotation.resolve meaning { globals := modules stub.home } with
  | error failure => rfl
  | ok found => rfl

/-- A stub whose result is said to be a list of a model has this list as its only annotation, and
the names of the modules stay. -/
theorem resolve_of_spellsListOf (annotated : stub.annotations = [("return", meaning)])
    (spells : Annotation.SpellsListOf (modules stub.home) described meaning) :
    stub.resolve modules = .ok ([("return", Annotation.listOf described)], modules) := by
  rw [resolve_of_annotated annotated, spells.resolve_eq]
  refine congrArg (fun after : Modules => Except.ok (_, after)) (funext fun home => ?_)
  exact ite_eq_right_iff.mpr fun same => by rw [same]

/-- Its query method makes entities of this model. -/
theorem queryMethod_listOf (entity : TypeReference) :
    stub.queryMethod entity [("return", Annotation.listOf described)] =
      .declare stub.name entity (some (.model described)) := rfl

end Stub

end DerivedQuery
