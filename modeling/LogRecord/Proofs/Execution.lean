/-! Runs of computations that can fail and keep their state when they do. -/

set_option autoImplicit false
namespace LogRecord

variable {E F S A B : Type}

-- Runs as plain pairs, so that no proof has to unfold the monad.
theorem run_bind (first : ExceptT E (StateM S) A) (next : A → ExceptT E (StateM S) B)
    (state : S) :
    (first >>= next).run.run state =
      match first.run.run state with
      | (.ok found, after) => (next found).run.run after
      | (.error error, after) => (.error error, after) := by
  change (ExceptT.bindCont next (first.run.run state).1).run (first.run.run state).2 = _
  obtain ⟨_ | _, after⟩ := first.run.run state <;> rfl

theorem run_map (change : A → B) (first : ExceptT E (StateM S) A) (state : S) :
    (change <$> first).run.run state =
      ((first.run.run state).1.map change, (first.run.run state).2) := by
  rw [map_eq_pure_bind, run_bind]
  obtain ⟨_ | _, after⟩ := first.run.run state <;> rfl

theorem run_adapt (change : E → F) (first : ExceptT E (StateM S) A) (state : S) :
    (first.adapt change).run.run state =
      ((first.run.run state).1.mapError change, (first.run.run state).2) := rfl

theorem run_pure (value : A) (state : S) :
    (pure value : ExceptT E (StateM S) A).run.run state = (.ok value, state) := rfl

theorem run_throw (error : E) (state : S) :
    (throw error : ExceptT E (StateM S) A).run.run state = (.error error, state) := rfl

theorem run_get (state : S) :
    (get : ExceptT E (StateM S) S).run.run state = (.ok state, state) := rfl

theorem run_modify (change : S → S) (state : S) :
    (modify change : ExceptT E (StateM S) Unit).run.run state = (.ok (), change state) := rfl

theorem run_ofExcept (result : Except E A) (state : S) :
    (MonadExcept.ofExcept result : ExceptT E (StateM S) A).run.run state = (result, state) := by
  cases result <;> rfl

end LogRecord
