import Mathlib.Logic.Basic

/-!
# What a piece of the runtime comes to

Every function of `rsCpuScript.cpp` the development models returns an `Exec`: a value,
a stop at a failed `rsAssert`, or undefined behaviour. Undefined behaviour is a value of
the model, not an absence of one, so that "this write stays in bounds" and "this array is
released once" become statements that an outcome is not a `fault`.

`rsAssert` is a macro of the code base whose definition is not in this file. Whether a
failed assertion stops the process is therefore a parameter, `aborts`, and the results of
later modules are stated for both readings unless they say otherwise.
-/

namespace RsCpuScript

/-- The kinds of undefined behaviour the model detects. -/
inductive Fault where
  /-- A read or a write outside the object it addresses. -/
  | outOfBounds
  /-- A read through a cursor that has passed the NUL ending the C string it walks, and so
  has left the string's object. -/
  | pastEnd
  /-- A read or a write through a NULL pointer. -/
  | nullDeref
  /-- A call through a NULL function pointer. -/
  | nullCall
  /-- `delete[]` of an array already released, or `dlclose` of a closed handle. -/
  | doubleRelease
  /-- A read of an array already released. -/
  | useAfterFree
  deriving DecidableEq, Repr

/-- **The outcome of running a piece of the runtime.** -/
inductive Exec (α : Type) where
  | ok (a : α)
  /-- A failed `rsAssert`, in a build where that stops the process. -/
  | abort
  | fault (f : Fault)
  deriving DecidableEq, Repr

namespace Exec

variable {α β : Type}

/-- Sequencing: an abort or a fault ends the run. -/
def bind : Exec α → (α → Exec β) → Exec β
  | ok a, f => f a
  | abort, _ => abort
  | fault e, _ => fault e

instance : Monad Exec where
  pure := ok
  bind := bind

@[simp] theorem pure_eq (a : α) : (pure a : Exec α) = ok a := rfl

@[simp] theorem ok_bind (a : α) (f : α → Exec β) : (ok a >>= f) = f a := rfl

@[simp] theorem abort_bind (f : α → Exec β) : (abort >>= f) = abort := rfl

@[simp] theorem fault_bind (e : Fault) (f : α → Exec β) : (fault e >>= f) = fault e := rfl

@[simp] theorem map_ok (f : α → β) (a : α) : (f <$> ok a) = ok (f a) := rfl

@[simp] theorem map_abort (f : α → β) : (f <$> (abort : Exec α)) = abort := rfl

@[simp] theorem map_fault (f : α → β) (e : Fault) : (f <$> (fault e : Exec α)) = fault e := rfl

@[simp] theorem map_eq_abort (f : α → β) (x : Exec α) : (f <$> x) = abort ↔ x = abort := by
  cases x <;> simp

/-- **A run that ends in a value went through a value at every bind.** -/
theorem bind_eq_ok {x : Exec α} {f : α → Exec β} {b : β} :
    (x >>= f) = ok b ↔ ∃ a, x = ok a ∧ f a = ok b := by
  cases x <;> simp

/-- A bind faults only where its first part faults or its second part does. -/
theorem bind_eq_fault {x : Exec α} {f : α → Exec β} {e : Fault} :
    (x >>= f) = fault e ↔ x = fault e ∨ ∃ a, x = ok a ∧ f a = fault e := by
  cases x <;> simp

/-- A bind aborts only where its first part aborts or its second part does. -/
theorem bind_eq_abort {x : Exec α} {f : α → Exec β} :
    (x >>= f) = abort ↔ x = abort ∨ ∃ a, x = ok a ∧ f a = abort := by
  cases x <;> simp

/-- An outcome that is neither a value nor an abort is undefined behaviour. -/
theorem eq_fault_of {x : Exec α} (hok : ∀ a, x ≠ ok a) (hab : x ≠ abort) : ∃ e, x = fault e := by
  cases x with
  | ok a => exact absurd rfl (hok a)
  | abort => exact absurd rfl hab
  | fault e => exact ⟨e, rfl⟩

end Exec

/-- `rsAssert(cond)`, with `aborts` saying whether a failed assertion stops. -/
def rsAssert (aborts : Bool) (cond : Bool) : Exec Unit :=
  if cond || !aborts then pure () else .abort

@[simp] theorem rsAssert_true (aborts : Bool) : rsAssert aborts true = .ok () := rfl

/-- An assertion stops only in a build where a failed assertion aborts. -/
theorem rsAssert_cases (aborts cond : Bool) :
    (aborts = true ∧ rsAssert aborts cond = .abort) ∨ rsAssert aborts cond = .ok () := by
  unfold rsAssert
  split
  · exact .inr rfl
  · exact .inl ⟨by simp_all, rfl⟩

/-- An assertion before `f` either stops or lets `f` run. -/
theorem rsAssert_bind_or {α : Type} (aborts cond : Bool) {f : Unit → Exec α} {x : Exec α}
    (h : (aborts = true ∧ f () = .abort) ∨ f () = x) :
    (aborts = true ∧ (rsAssert aborts cond >>= f) = .abort) ∨ (rsAssert aborts cond >>= f) = x := by
  rcases rsAssert_cases aborts cond with ⟨ha, e⟩ | e <;> rw [e]
  · exact .inl ⟨ha, rfl⟩
  · exact h

@[simp] theorem rsAssert_of_logs (cond : Bool) : rsAssert false cond = .ok () := by
  simp [rsAssert]

end RsCpuScript
