/-!
# Attempts

An attempt is a computation on a state that may fail. A failure keeps the state
as it was left: bytes that were taken stay taken, and text that was printed stays
printed.

`Attempt.after` is the outcome of an attempt together with the state in the end.
A lemma for each operation says what it does to both (`after_pure`, `after_bind`
and so on). Attempts that are made for the elements of a list end at the first element
that is not good, and there is one unless all of them are (`exists_first_not`).
-/

namespace ExternalSort

/-- A computation on a state `σ` that may fail with an error `ε`. -/
abbrev Attempt (σ ε : Type) := ExceptT ε (StateM σ)

namespace Attempt

variable {σ ε ε' α β : Type}

/-- The outcome of an attempt that starts in a state, and the state in the end. -/
def after (attempt : Attempt σ ε α) (state : σ) : Except ε α × σ := attempt.run.run state

@[simp] theorem after_pure (a : α) (state : σ) :
    after (pure a : Attempt σ ε α) state = (.ok a, state) := rfl

@[simp] theorem after_throw (error : ε) (state : σ) :
    after (throw error : Attempt σ ε α) state = (.error error, state) := rfl

@[simp] theorem after_get (state : σ) :
    after (get : Attempt σ ε σ) state = (.ok state, state) := rfl

@[simp] theorem after_set (state state' : σ) :
    after (set state' : Attempt σ ε PUnit) state = (.ok ⟨⟩, state') := rfl

@[simp] theorem after_modify (f : σ → σ) (state : σ) :
    after (modify f : Attempt σ ε PUnit) state = (.ok ⟨⟩, f state) := rfl

/-- A success goes on, a failure does not. Either way the state is kept. -/
theorem after_bind (attempt : Attempt σ ε α) (next : α → Attempt σ ε β) (state : σ) :
    after (attempt >>= next) state
      = match after attempt state with
        | (.ok a, state) => after (next a) state
        | (.error error, state) => (.error error, state) := by
  have hbind : after (attempt >>= next) state
      = ExceptT.bindCont next (after attempt state).1 (after attempt state).2 := rfl
  rw [hbind]
  rcases after attempt state with ⟨_ | _, state'⟩ <;> rfl

theorem after_bind_eq_ok_iff {attempt : Attempt σ ε α} {next : α → Attempt σ ε β} {state : σ}
    {b : β} : (after (attempt >>= next) state).1 = .ok b ↔
      ∃ a, (after attempt state).1 = .ok a ∧
        (after (next a) (after attempt state).2).1 = .ok b := by
  rw [after_bind]
  rcases after attempt state with ⟨error | a, state'⟩
  · refine iff_of_false ?_ ?_
    · intro h
      cases h
    · rintro ⟨a, ha, -⟩
      cases ha
  · constructor
    · intro h
      exact ⟨a, rfl, h⟩
    · rintro ⟨a', ha, h⟩
      cases ha
      exact h

theorem after_bind_eq_error_iff {attempt : Attempt σ ε α} {next : α → Attempt σ ε β} {state : σ}
    {error : ε} : (after (attempt >>= next) state).1 = .error error ↔
      (after attempt state).1 = .error error ∨
        ∃ a, (after attempt state).1 = .ok a ∧
          (after (next a) (after attempt state).2).1 = .error error := by
  rw [after_bind]
  rcases after attempt state with ⟨error' | a, state'⟩
  · constructor
    · intro h
      cases h
      exact .inl rfl
    · rintro (h | ⟨a, ha, -⟩)
      · cases h
        rfl
      · cases ha
  · constructor
    · intro h
      exact .inr ⟨a, rfl, h⟩
    · rintro (h | ⟨a', ha, h⟩)
      · cases h
      · cases ha
        exact h

@[simp] theorem after_liftExcept (outcome : Except ε α) (state : σ) :
    after (liftM outcome : Attempt σ ε α) state = (outcome, state) := by
  cases outcome <;> rfl

@[simp] theorem after_liftState (computation : StateM σ α) (state : σ) :
    after (liftM computation : Attempt σ ε α) state
      = (.ok (computation.run state).1, (computation.run state).2) := rfl

@[simp] theorem after_adapt (f : ε → ε') (attempt : Attempt σ ε α) (state : σ) :
    after (ExceptT.adapt f attempt : Attempt σ ε' α) state
      = ((after attempt state).1.mapError f, (after attempt state).2) := rfl

theorem mapError_eq_ok_iff {f : ε → ε'} {outcome : Except ε α} {a : α} :
    outcome.mapError f = .ok a ↔ outcome = .ok a := by
  cases outcome with
  | error error => exact iff_of_false nofun nofun
  | ok a' =>
    constructor <;>
    · intro h
      cases h
      rfl

theorem mapError_eq_error_iff {f : ε → ε'} {outcome : Except ε α} {error' : ε'} :
    outcome.mapError f = .error error' ↔ ∃ error, outcome = .error error ∧ f error = error' := by
  cases outcome with
  | error error =>
    constructor
    · intro h
      cases h
      exact ⟨error, rfl, rfl⟩
    · rintro ⟨error, h, rfl⟩
      cases h
      rfl
  | ok a =>
    refine iff_of_false nofun ?_
    rintro ⟨error, h, -⟩
    cases h

end Attempt

/-- Where not all elements of a list are good, one of them is the first that is not. -/
theorem exists_first_not {α : Type} {Good : α → Prop} {xs : List α} (h : ¬∀ x ∈ xs, Good x) :
    ∃ earlier x later, xs = earlier ++ x :: later ∧ (∀ y ∈ earlier, Good y) ∧ ¬Good x := by
  classical
  cases hfound : xs.find? fun x => ¬Good x with
  | none =>
    refine absurd ?_ h
    intro x hx
    simpa using List.find?_eq_none.1 hfound x hx
  | some x =>
    obtain ⟨hbad, earlier, later, hxs, hearlier⟩ := List.find?_eq_some_iff_append.1 hfound
    exact ⟨earlier, x, later, hxs, by simpa using hearlier, by simpa using hbad⟩

end ExternalSort
