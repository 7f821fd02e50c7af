import DerivedQuery.Log

/-!
# Results of operations that log

The result of a sequence of steps does not depend on what the steps log, and a sequence of steps that
send no query sends none.
-/

set_option autoImplicit false

namespace DerivedQuery.Logged

variable {α β : Type}

@[simp] theorem result_bind (first : Logged α) (second : α → Logged β) :
    (first >>= second).result = first.result.bind fun value => (second value).result := by
  change (andThen first second).result = _
  unfold andThen
  cases first.result <;> rfl

@[simp] theorem result_pure (value : α) : (pure value : Logged α).result = .ok value := rfl

@[simp] theorem result_liftM (result : Except Failure α) :
    (liftM result : Logged α).result = result := rfl

@[simp] theorem result_write (source : LogSource) (level : LogLevel) (message : String) :
    (write source level message).result = .ok () := rfl

@[simp] theorem result_map (f : α → β) (action : Logged α) :
    (f <$> action).result = action.result.map f := by
  change (andThen action _).result = _
  unfold andThen
  cases action.result <;> rfl

@[simp] theorem result_send (query : StructuredQuery) (model : Model) :
    (send query model).result = .ok () := rfl

end DerivedQuery.Logged
