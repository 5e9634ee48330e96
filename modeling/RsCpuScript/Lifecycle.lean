import RsCpuScript.Bounds

/-!
# Construction, `init` and destruction

In the compatibility build a script object is constructed, initialised with `init`, and
destroyed. When `init` fails, its `error:` label unlocks the context, releases the six
arrays and closes the library, but it leaves every pointer as it was. The destructor
then finds the same pointers and releases them again. This module states when the
destructor meets a released array or a closed handle: after every failed `init` that had
loaded the library, and only then.

It also states how `init` uses the context mutex: every return of the compatibility
`init` locks it once and unlocks it once.
-/

namespace RsCpuScript

namespace Compat

variable {α : Type}

theorem delete_ne_abort (a : Option (HeapArray α)) : HeapArray.delete a ≠ .abort := by
  cases a with
  | none => simp
  | some a => simp only [HeapArray.delete]; split <;> simp

theorem read_ne_abort (a : Option (HeapArray α)) (i : Nat) : HeapArray.read a i ≠ .abort := by
  cases a with
  | none => simp [HeapArray.read]
  | some a =>
    simp only [HeapArray.read]
    split_ifs
    · simp
    · split <;> simp

theorem dlclose_ne_abort (h : SoHandle) : dlclose h ≠ .abort := by
  unfold dlclose; split <;> simp

namespace RsdCpuScriptImpl

theorem clearObjects_ne_abort (s : RsdCpuScriptImpl) :
    ∀ (k i : Nat) (ctx : Ctx), s.clearObjects k i ctx ≠ .abort
  | 0, _, _ => by simp [clearObjects]
  | k + 1, i, ctx => by
    simp only [clearObjects, ne_eq, Exec.bind_eq_abort, read_ne_abort, false_or, not_exists,
      not_and]
    intro b _
    split
    · simp only [Exec.bind_eq_abort, read_ne_abort, false_or, not_exists, not_and]
      intro a _
      split <;> exact clearObjects_ne_abort s k _ _
    · exact clearObjects_ne_abort s k _ _

/-- **The destructor never stops**: it returns or has undefined behaviour. -/
theorem destroy_ne_abort (s : RsdCpuScriptImpl) (ctx : Ctx) : s.destroy ctx ≠ .abort := by
  unfold destroy
  split <;> split <;>
    simp [Exec.bind_eq_abort, delete_ne_abort, clearObjects_ne_abort, dlclose_ne_abort]

/-- **A closed library is closed again**: the destructor of an object whose handle is
already closed has undefined behaviour. -/
theorem destroy_faults_of_closed (s : RsdCpuScriptImpl) (ctx : Ctx) {i : Nat}
    (hso : s.mScriptSO = some ⟨i, false⟩) : ∃ e, s.destroy ctx = .fault e := by
  refine Exec.eq_fault_of (fun r hr => ?_) (destroy_ne_abort s ctx)
  simp only [destroy, hso, dlclose, Bool.false_eq_true, if_false, Exec.map_fault,
    Exec.fault_bind] at hr
  split_ifs at hr <;> simp [Exec.bind_eq_ok] at hr

end RsdCpuScriptImpl

/-- **What the `error:` label leaves**: `false`, the mutex unlocked once, and the library
handle closed but still in `mScriptSO`. -/
theorem initError_result {ctx ctx' : Ctx} {s s' : RsdCpuScriptImpl} {b : Bool}
    (h : initError ctx s = .ok (b, ctx', s')) :
    b = false ∧ ctx' = ctx.unlockMutex ∧ s'.mScriptSO = s.mScriptSO.map (⟨·.id, false⟩) := by
  cases hso : s.mScriptSO with
  | none =>
    simp [initError, hso, Exec.bind_eq_ok] at h
    obtain ⟨_, -, _, -, _, -, _, -, _, -, _, -, rfl, rfl, rfl⟩ := h
    simp
  | some so =>
    cases ho : so.isOpen <;> simp [initError, hso, dlclose, ho, Exec.bind_eq_ok] at h
    obtain ⟨_, -, _, -, _, -, _, -, _, -, _, -, rfl, rfl, rfl⟩ := h
    simp

/-! ## A failed `init`, then the destructor -/

/-- **After a failed `init`, the destructor has undefined behaviour exactly when `init` had
loaded the library.** The `error:` label closed the library and released the arrays
without clearing a pointer, so the destructor closes the library again; without a
library it has nothing to release twice. -/
theorem destroy_after_failed_init (aborts : Bool) (env : LoadEnv) (ctx ctx' : Ctx)
    (varCount funcCount : Nat) (s' : RsdCpuScriptImpl)
    (h : init aborts env ctx (RsdCpuScriptImpl.construct varCount funcCount) = .ok (false, ctx', s')) :
    (∃ e, s'.destroy ctx' = .fault e) ↔ env.so.isSome = true := by
  cases hso : env.so with
  | none =>
    simp [init, hso, initError, RsdCpuScriptImpl.construct, Exec.bind_eq_ok] at h
    obtain ⟨-, rfl⟩ := h
    simp [RsdCpuScriptImpl.destroy]
  | some so =>
    simp only [Option.isSome_some, iff_true]
    rw [init_of_so aborts env hso] at h
    rcases parseInfo_cases aborts _
      (initParse_inv env (RsdCpuScriptImpl.owns_construct varCount funcCount) so)
      with e1 | ⟨e1, -⟩ | ⟨e1, -⟩ | ⟨⟨b, st⟩, e1, d1⟩
    · simp [e1] at h
    · simp [e1] at h
    · simp [e1] at h
    · cases b
      · simp only [e1, Exec.ok_bind, Bool.false_eq_true, if_false] at h
        obtain ⟨so', hso'⟩ : ∃ so', st.self.mScriptSO = some so' := Option.isSome_iff_exists.mp d1.2
        exact @RsdCpuScriptImpl.destroy_faults_of_closed s' ctx' so'.id
          (by rw [(initError_result h).2.2, hso']; rfl)
      · simp [e1] at h

/-- A library without `.rs.info`: `init` fails, and the destructor has undefined
behaviour. -/
theorem destroy_after_failed_init_without_rs_info :
    let env : LoadEnv := ⟨some 1, fun _ => none, none, fun _ => true, fun _ => 'x'⟩
    ∃ ctx' s', init false env ⟨[], [], [], none⟩ (RsdCpuScriptImpl.construct 0 0) =
        .ok (false, ctx', s') ∧ ((∃ e, s'.destroy ctx' = .fault e) ↔ env.so.isSome = true) :=
  have h : init false ⟨some 1, fun _ => none, none, fun _ => true, fun _ => 'x'⟩ ⟨[], [], [], none⟩
      (RsdCpuScriptImpl.construct 0 0) = .ok (false, _, _) := rfl
  ⟨_, _, h, destroy_after_failed_init false _ _ _ 0 0 _ h⟩

/-- A library that loads but has no `.rs.info`: `init` returns false, and the destructor
closes the library its `error:` label already closed. -/
theorem init_error_then_destroy_closes_twice :
    let env : LoadEnv := ⟨some 1, fun _ => none, none, fun _ => true, fun _ => 'x'⟩
    (Prod.fst <$> init false env ⟨[], [], [], none⟩ (RsdCpuScriptImpl.construct 0 0)) = .ok false ∧
    (do let (_, ctx, s) ← init false env ⟨[], [], [], none⟩ (RsdCpuScriptImpl.construct 0 0)
        s.destroy ctx) = .fault .doubleRelease := by
  decide

/-! ## The context mutex -/

/-- **The compatibility `init` unlocks the mutex once on every return**, after locking it
once. -/
theorem init_unlocks_once (aborts : Bool) (env : LoadEnv) (ctx : Ctx) (self : RsdCpuScriptImpl)
    (r : Bool × Ctx × RsdCpuScriptImpl) (h : init aborts env ctx self = .ok r) :
    r.2.1.mutexLog = ctx.mutexLog ++ [.lock, .unlock] := by
  obtain ⟨b, ctx', s'⟩ := r
  have hlog : ctx.lockMutex.unlockMutex.mutexLog = ctx.mutexLog ++ [.lock, .unlock] := by
    simp [Ctx.lockMutex, Ctx.unlockMutex]
  cases hso : env.so with
  | none =>
    simp only [init, hso] at h
    rw [(initError_result h).2.1, hlog]
  | some so =>
    rw [init_of_so aborts env hso, Exec.bind_eq_ok] at h
    obtain ⟨⟨go, st⟩, -, h⟩ := h
    cases go
    · simp only [Bool.false_eq_true, if_false] at h
      rw [(initError_result h).2.1, hlog]
    · simp only [if_true, Exec.pure_eq, Exec.ok.injEq, Prod.mk.injEq] at h
      rw [← h.2.1, hlog]

/-- A library without `.rs.info`: `init` fails, and unlocks the mutex it locked. -/
theorem init_unlocks_once_without_rs_info :
    ∃ r, init false ⟨some 1, fun _ => none, none, fun _ => true, fun _ => 'x'⟩ ⟨[], [], [], none⟩
        (RsdCpuScriptImpl.construct 0 0) = .ok r ∧ r.2.1.mutexLog = [.lock, .unlock] :=
  have h : init false ⟨some 1, fun _ => none, none, fun _ => true, fun _ => 'x'⟩ ⟨[], [], [], none⟩
      (RsdCpuScriptImpl.construct 0 0) = .ok _ := rfl
  ⟨_, h, init_unlocks_once false _ _ _ _ h⟩

end Compat

end RsCpuScript
