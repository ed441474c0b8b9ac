/-
**Outcomes.**

Reading can fail, and its outcome is then an error.  These are the facts about outcomes that the
proofs about readers share.

Main results:

* `Outcome.exists_of_map_eq_ok` — a mapped outcome is a value only if the outcome is one.
-/

set_option autoImplicit false

namespace Pushdown

namespace Outcome

variable {ε α β : Type}

instance decidableEq [DecidableEq ε] [DecidableEq α] : DecidableEq (Except ε α)
  | .error a, .error b => decidable_of_iff (a = b) ⟨congrArg _, Except.error.inj⟩
  | .ok a, .ok b => decidable_of_iff (a = b) ⟨congrArg _, Except.ok.inj⟩
  | .error _, .ok _ => isFalse (by simp)
  | .ok _, .error _ => isFalse (by simp)

/-- A mapped outcome is a value only if the outcome is one. -/
theorem exists_of_map_eq_ok {x : Except ε α} {f : α → β} {b : β} (h : x.map f = .ok b) :
    ∃ a, x = .ok a ∧ f a = b := by
  cases x with
  | error e => exact absurd h (by simp [Except.map])
  | ok a => exact ⟨a, rfl, Except.ok.inj h⟩

end Outcome

end Pushdown
