import RsCpuScript.Exec

/-!
# The script object and its context

`RsdCpuScriptImpl` holds, in the compatibility build, a `dlopen` handle and six arrays
`init` allocates with `new[]` and the destructor releases with `delete[]`. The model gives
every array its own `HeapArray`, which records whether it is still allocated: a pointer
field that still names a released array is a dangling pointer, and a second `delete[]` of
it, or a read through it, is undefined behaviour of the model. No two fields ever share an
array, so this per-field record is the whole heap the object owns.

The context `RsdCpuReferenceImpl` is a collaborator. Of it the model keeps what this file
uses: its mutex, the objects `rsrClearObject` releases, the errors `setError` reports and
the thread-local current script.
-/

namespace RsCpuScript

/-- An operation on the context's mutex. -/
inductive MutexOp where
  | lock
  | unlock
  deriving DecidableEq, Repr

/-- An error `setError` reports. -/
inductive RsError where
  /-- `RS_ERROR_BAD_SCRIPT` -/
  | badScript
  deriving DecidableEq, Repr

/-- **The context** a script runs in, as far as this file uses it. -/
structure Ctx where
  /-- The `lockMutex` and `unlockMutex` calls made on it, in order. -/
  mutexLog : List MutexOp
  /-- The addresses `rsrClearObject` was called on, in order. -/
  cleared : List Nat
  /-- The errors `setError` reported, in order. -/
  errors : List (RsError × String)
  /-- The thread-local current script, `setTLS`. -/
  tls : Option Nat
  deriving DecidableEq, Repr

namespace Ctx

/-- `mCtx->lockMutex()` -/
def lockMutex (c : Ctx) : Ctx := { c with mutexLog := c.mutexLog ++ [.lock] }

/-- `mCtx->unlockMutex()` -/
def unlockMutex (c : Ctx) : Ctx := { c with mutexLog := c.mutexLog ++ [.unlock] }

/-- `rsrClearObject(ctx, addr)` -/
def clearObject (c : Ctx) (a : Nat) : Ctx := { c with cleared := c.cleared ++ [a] }

/-- `mCtx->getContext()->setError(e, msg)` -/
def setError (c : Ctx) (e : RsError) (msg : String) : Ctx :=
  { c with errors := c.errors ++ [(e, msg)] }

/-- `mCtx->setTLS(s)`: install `s` and return the script it replaces. -/
def setTLS (c : Ctx) (s : Option Nat) : Option Nat × Ctx := (c.tls, { c with tls := s })

end Ctx

/-- **An array from `new T[n]`**, and whether it is still allocated. -/
structure HeapArray (α : Type) where
  cells : List α
  live : Bool
  deriving DecidableEq, Repr

namespace HeapArray

variable {α : Type}

/-- `new T[n]` whose cells hold `x`, or NULL when the allocation fails. -/
def new (ok : Bool) (n : Nat) (x : α) : Option (HeapArray α) :=
  if ok then some ⟨List.replicate n x, true⟩ else none

/-- `p[i]` -/
def read : Option (HeapArray α) → Nat → Exec α
  | none, _ => .fault .nullDeref
  | some a, i =>
    if !a.live then .fault .useAfterFree
    else match a.cells.get? i with
      | some x => .ok x
      | none => .fault .outOfBounds

/-- `p[i] = x` -/
def write : Option (HeapArray α) → Nat → α → Exec (Option (HeapArray α))
  | none, _, _ => .fault .nullDeref
  | some a, i, x =>
    if !a.live then .fault .useAfterFree
    else if i < a.cells.length then .ok (some { a with cells := a.cells.set i x })
    else .fault .outOfBounds

/-- `delete[] p`: nothing for NULL, a release once, undefined behaviour twice. -/
def delete : Option (HeapArray α) → Exec (Option (HeapArray α))
  | none => .ok none
  | some a => if a.live then .ok (some { a with live := false }) else .fault .doubleRelease

theorem read_live {cells : List α} {i : Nat} (h : i < cells.length) :
    read (some ⟨cells, true⟩) i = .ok cells[i] := by
  simp [read, List.get?_eq_getElem?, h]

/-- A write that succeeds was to a live array, below its length. -/
theorem write_eq_ok {a a' : Option (HeapArray α)} {i : Nat} {x : α} (h : write a i x = .ok a') :
    ∃ cells, a = some ⟨cells, true⟩ ∧ i < cells.length ∧ a' = some ⟨cells.set i x, true⟩ := by
  match a, h with
  | some ⟨cells, live⟩, h =>
    cases live <;> simp only [write, Bool.not_false, Bool.not_true, if_true, if_false,
      Bool.false_eq_true] at h
    · cases h
    · by_cases hi : i < cells.length
      · simp only [hi, if_true, Exec.ok.injEq] at h
        exact ⟨cells, rfl, hi, h.symm⟩
      · simp [hi] at h

@[simp] theorem write_live {cells : List α} {i : Nat} (x : α) (h : i < cells.length) :
    write (some ⟨cells, true⟩) i x = .ok (some ⟨cells.set i x, true⟩) := by
  simp [write, h]

@[simp] theorem delete_live {a : HeapArray α} (hl : a.live = true) :
    delete (some a) = .ok (some { a with live := false }) := by
  simp [delete, hl]

@[simp] theorem delete_none : delete (none : Option (HeapArray α)) = .ok none := rfl

end HeapArray

/-- A handle `dlopen` returned, and whether it is still open. -/
structure SoHandle where
  id : Nat
  isOpen : Bool
  deriving DecidableEq, Repr

/-- `dlclose(h)`: a second close of one handle is undefined behaviour. -/
def dlclose (h : SoHandle) : Exec SoHandle :=
  if h.isOpen then .ok { h with isOpen := false } else .fault .doubleRelease

namespace Compat

/-- **`RsdCpuScriptImpl` in the compatibility build** (`RS_COMPATIBILITY_LIB`).
Function pointers and variable addresses are `Option Nat`, `none` for NULL. -/
structure RsdCpuScriptImpl where
  mScriptSO : Option SoHandle
  mRoot : Option Nat
  mRootExpand : Option Nat
  mInit : Option Nat
  mFreeChildren : Option Nat
  mExportedVariableCount : Nat
  mExportedFunctionCount : Nat
  mInvokeFunctions : Option (HeapArray (Option Nat))
  mForEachFunctions : Option (HeapArray (Option Nat))
  mFieldAddress : Option (HeapArray (Option Nat))
  mFieldIsObject : Option (HeapArray Bool)
  mForEachSignatures : Option (HeapArray Nat)
  mBoundAllocs : Option (HeapArray (Option Nat))
  mIsThreadable : Bool
  deriving DecidableEq, Repr

namespace RsdCpuScriptImpl

/-- `RsdCpuScriptImpl::RsdCpuScriptImpl(ctx, s)`. The constructor leaves the two export
counts uninitialised: their values are arguments. -/
def construct (varCount funcCount : Nat) : RsdCpuScriptImpl where
  mScriptSO := none
  mRoot := none
  mRootExpand := none
  mInit := none
  mFreeChildren := none
  mExportedVariableCount := varCount
  mExportedFunctionCount := funcCount
  mInvokeFunctions := none
  mForEachFunctions := none
  mFieldAddress := none
  mFieldIsObject := none
  mForEachSignatures := none
  mBoundAllocs := none
  mIsThreadable := true

/-- The object loop of the destructor, `for (size_t i = 0; i < mExportedVariableCount;
++i)`, from `i` with `k` iterations left. -/
def clearObjects (self : RsdCpuScriptImpl) : Nat → Nat → Ctx → Exec Ctx
  | 0, _, ctx => .ok ctx
  | k + 1, i, ctx => do
    if ← HeapArray.read self.mFieldIsObject i then
      match ← HeapArray.read self.mFieldAddress i with
      | some a => clearObjects self k (i + 1) (ctx.clearObject a)
      | none => clearObjects self k (i + 1) ctx
    else clearObjects self k (i + 1) ctx

/-- **`RsdCpuScriptImpl::~RsdCpuScriptImpl()`** in the compatibility build: the context
after it, and the object's fields as it leaves them. -/
def destroy (self : RsdCpuScriptImpl) (ctx : Ctx) : Exec (Ctx × RsdCpuScriptImpl) := do
  let ctx ← if self.mFieldIsObject.isSome
    then clearObjects self self.mExportedVariableCount 0 ctx else pure ctx
  let mInvokeFunctions ← HeapArray.delete self.mInvokeFunctions
  let mForEachFunctions ← HeapArray.delete self.mForEachFunctions
  let mFieldAddress ← HeapArray.delete self.mFieldAddress
  let mFieldIsObject ← HeapArray.delete self.mFieldIsObject
  let mForEachSignatures ← HeapArray.delete self.mForEachSignatures
  let mBoundAllocs ← HeapArray.delete self.mBoundAllocs
  let mScriptSO ← match self.mScriptSO with
    | some h => some <$> dlclose h
    | none => pure none
  return (ctx, { self with
    mInvokeFunctions := mInvokeFunctions, mForEachFunctions := mForEachFunctions,
    mFieldAddress := mFieldAddress, mFieldIsObject := mFieldIsObject,
    mForEachSignatures := mForEachSignatures, mBoundAllocs := mBoundAllocs,
    mScriptSO := mScriptSO })

end RsdCpuScriptImpl

end Compat

end RsCpuScript
