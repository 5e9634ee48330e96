import RsCpuScript.Bind

/-!
# Plain globals as a store

`setGlobalVar` copies the caller's bytes over a variable, and `getGlobalVar` copies a
variable's bytes out to the caller. Both do nothing for a variable whose address did not
resolve. Neither checks the length it is given against the variable's size, so a longer
copy runs over whatever follows the variable.

When every write has the variable's own size and no two variables overlap (`Separate`),
the globals behave as a store: a read returns the bytes of the last write to that variable,
or what it held before the first one (`StoreAfter`, `Compat.getGlobalVar_after_writes`,
`Bcc.getGlobalVar_after_writes`).
-/

namespace RsCpuScript

/-! ## The two copies -/

/-- `setGlobalVar` once the slot's address `destPtr` is read, the same in both builds:
`memcpy(destPtr, data, dataLength)` from the caller's buffer `data`, and nothing for a NULL
address. Reading past the end of `data` is out of bounds. -/
def setVarAt (destPtr : Option Nat) (data : List UInt8) (dataLength : Nat) (m : Memory) :
    Exec Memory :=
  match destPtr with
  | none => .ok m
  | some a => if dataLength ≤ data.length then .ok (m.copyIn a (data.take dataLength))
    else .fault .outOfBounds

/-- `getGlobalVar` once the slot's address `srcPtr` is read: `memcpy(data, srcPtr,
dataLength)` into the caller's buffer `data`, left as it is for a NULL address. Writing
past the end of `data` is out of bounds. -/
def getVarAt (srcPtr : Option Nat) (data : List UInt8) (dataLength : Nat) (m : Memory) :
    Exec (List UInt8) :=
  match srcPtr with
  | none => .ok data
  | some a => if dataLength ≤ data.length then .ok (m.bytes a dataLength ++ data.drop dataLength)
    else .fault .outOfBounds

namespace Compat

/-- **`RsdCpuScriptImpl::setGlobalVar`** in the compatibility build, with the slot's
address read from `mFieldAddress[slot]`. -/
def setGlobalVar (self : RsdCpuScriptImpl) (slot : Nat) (data : List UInt8) (dataLength : Nat)
    (m : Memory) : Exec Memory := do
  let destPtr ← HeapArray.read self.mFieldAddress slot
  setVarAt destPtr data dataLength m

/-- **`RsdCpuScriptImpl::getGlobalVar`** in the compatibility build: the caller's buffer
after the call. -/
def getGlobalVar (self : RsdCpuScriptImpl) (slot : Nat) (data : List UInt8) (dataLength : Nat)
    (m : Memory) : Exec (List UInt8) := do
  let srcPtr ← HeapArray.read self.mFieldAddress slot
  getVarAt srcPtr data dataLength m

end Compat

namespace Bcc

/-- **`RsdCpuScriptImpl::setGlobalVar`** in the full build, with the slot's address read
from `mExecutable->getExportVarAddrs()[slot]`. -/
def setGlobalVar (exec : ExecutableInfo) (slot : Nat) (data : List UInt8) (dataLength : Nat)
    (m : Memory) : Exec Memory := do
  let destPtr ← vectorAt exec.exportVarAddrs slot
  setVarAt destPtr data dataLength m

/-- **`RsdCpuScriptImpl::getGlobalVar`** in the full build: the caller's buffer after the
call. -/
def getGlobalVar (exec : ExecutableInfo) (slot : Nat) (data : List UInt8) (dataLength : Nat)
    (m : Memory) : Exec (List UInt8) := do
  let srcPtr ← vectorAt exec.exportVarAddrs slot
  getVarAt srcPtr data dataLength m

end Bcc

/-! ## What the variables should hold -/

/-- The bytes of the last of `calls` to `slot`, `none` if there was none. -/
def lastWrite (calls : List (Nat × List UInt8)) (slot : Nat) : Option (List UInt8) :=
  calls.foldl (fun w c => if c.1 = slot then some c.2 else w) none

/-- **What the variables hold after `calls`**, starting from the memory `m₀`: each variable
whose address resolved holds the bytes of the last write to it, or what it held in `m₀`
if there was none. -/
def StoreAfter (m₀ : Memory) (addrs : List (Option Nat)) (size : Nat → Nat)
    (calls : List (Nat × List UInt8)) (m : Memory) : Prop :=
  ∀ (slot a : Nat), addrs[slot]? = some (some a) →
    m.bytes a (size slot) = (lastWrite calls slot).getD (m₀.bytes a (size slot))

/-- **What a read of `size slot` bytes should return** into the caller's buffer `buf`:
the bytes the variable holds in front of the rest of the buffer, or the buffer as it is
when the slot's address did not resolve. -/
def readAfter (m₀ : Memory) (addrs : List (Option Nat)) (size : Nat → Nat)
    (calls : List (Nat × List UInt8)) (slot : Nat) (buf : List UInt8) : List UInt8 :=
  match addrs[slot]? with
  | some (some a) => (lastWrite calls slot).getD (m₀.bytes a (size slot)) ++ buf.drop (size slot)
  | _ => buf

/-! ## The store along a run of writes -/

theorem lastWrite_append (calls : List (Nat × List UInt8)) (c : Nat × List UInt8) (slot : Nat) :
    lastWrite (calls ++ [c]) slot = if c.1 = slot then some c.2 else lastWrite calls slot := by
  simp [lastWrite, List.foldl_append]

section Store

variable {m₀ : Memory} {addrs : List (Option Nat)} {size : Nat → Nat}

theorem StoreAfter.nil : StoreAfter m₀ addrs size [] m₀ := fun _ _ _ => rfl

/-- **One write keeps the store.** With variables apart, a write of the variable's own
size to `slot`, whose address is `destPtr`, succeeds and leaves what `StoreAfter` says. -/
theorem StoreAfter.write {pre : List (Nat × List UInt8)} {m : Memory} (hsep : Separate addrs size)
    (h : StoreAfter m₀ addrs size pre m) {slot : Nat} {destPtr : Option Nat}
    (hd : addrs[slot]? = some destPtr) {data : List UInt8} (hl : data.length = size slot) :
    ∃ m', setVarAt destPtr data (size slot) m = .ok m' ∧
      StoreAfter m₀ addrs size (pre ++ [(slot, data)]) m' := by
  cases destPtr with
  | none =>
    refine ⟨m, rfl, fun slot' a ha => ?_⟩
    have hne : slot ≠ slot' := by
      rintro rfl
      simp [hd] at ha
    rw [lastWrite_append, if_neg hne]
    exact h slot' a ha
  | some d =>
    refine ⟨m.copyIn d data, by simp [setVarAt, ← hl], fun slot' a ha => ?_⟩
    rw [lastWrite_append]
    by_cases hs : slot = slot'
    · subst hs
      obtain rfl : d = a := by simpa [hd] using ha
      rw [if_pos rfl, Option.getD_some, ← hl, Memory.bytes_copyIn_self]
    · have := hsep slot slot' d a hs hd ha
      rw [if_neg hs, Memory.bytes_copyIn_of_apart m data (by omega)]
      exact h slot' a ha

/-- **A read returns what the store holds**: reading `size slot` bytes of a variable whose
address is `srcPtr` into a buffer that can take them. -/
theorem StoreAfter.read {calls : List (Nat × List UInt8)} {m : Memory}
    (h : StoreAfter m₀ addrs size calls m) {slot : Nat} {srcPtr : Option Nat}
    (hd : addrs[slot]? = some srcPtr) (buf : List UInt8) (hb : size slot ≤ buf.length) :
    getVarAt srcPtr buf (size slot) m = .ok (readAfter m₀ addrs size calls slot buf) := by
  cases srcPtr with
  | none => simp [getVarAt, readAfter, hd]
  | some a => simp [getVarAt, readAfter, hd, hb, h slot a hd]

end Store

/-! ## Both builds -/

namespace Compat

/-- **The plain globals as a store, in the compatibility build.** After a successful
`init` of a new object, with variables that do not overlap, every sequence of
`setGlobalVar(slot, data, size slot)` with slots below the variable count and data of the
variable's size succeeds. Then `getGlobalVar(slot, buf, size slot)` into a buffer that can
take the bytes returns the bytes of the last write to the slot, or what the variable held
before the first one, and leaves the buffer as it is when the slot's address is NULL. -/
theorem getGlobalVar_after_writes {aborts : Bool} {env : LoadEnv} {ctx ctx' : Ctx} {v f : Nat}
    {s : RsdCpuScriptImpl} (h : init aborts env ctx (RsdCpuScriptImpl.construct v f) = .ok (true, ctx', s))
    (size : Nat → Nat) (hsep : Separate ((s.mFieldAddress.map HeapArray.cells).getD []) size)
    (calls : List (Nat × List UInt8))
    (hc : ∀ c ∈ calls, c.1 < s.mExportedVariableCount ∧ c.2.length = size c.1) (m₀ : Memory) :
    ∃ m, calls.foldlM (fun m c => setGlobalVar s c.1 c.2 (size c.1) m) m₀ = .ok m ∧
      ∀ slot < s.mExportedVariableCount, ∀ buf : List UInt8, size slot ≤ buf.length →
        getGlobalVar s slot buf (size slot) m =
          .ok (readAfter m₀ ((s.mFieldAddress.map HeapArray.cells).getD []) size calls slot buf) := by
  rcases Nat.eq_zero_or_pos s.mExportedVariableCount with h0 | hn
  · cases calls with
    | nil => exact ⟨m₀, rfl, fun slot hs => absurd hs (by omega)⟩
    | cons c _ => exact absurd (hc c (List.mem_cons_self _ _)).1 (by omega)
  obtain ⟨cells, hcl, hl⟩ := (init_vars h).2 hn
  rw [hcl] at hsep ⊢
  have hstep : ∀ (pre : List (Nat × List UInt8)) (m : Memory) (c : Nat × List UInt8),
      StoreAfter m₀ cells size pre m → c.1 < s.mExportedVariableCount ∧ c.2.length = size c.1 →
      ∃ m', setGlobalVar s c.1 c.2 (size c.1) m = .ok m' ∧ StoreAfter m₀ cells size (pre ++ [c]) m' := by
    rintro pre m ⟨slot, data⟩ hm ⟨hs, hd⟩
    have hsl : slot < cells.length := by omega
    obtain ⟨m', e, hm'⟩ := hm.write hsep (List.getElem?_eq_getElem hsl) hd
    exact ⟨m', by rw [setGlobalVar, hcl, HeapArray.read_live hsl, Exec.ok_bind, e], hm'⟩
  obtain ⟨m, e, hm⟩ := foldlM_ok_of_step _ _ _ hstep calls [] m₀ StoreAfter.nil hc
  refine ⟨m, e, fun slot hs buf hb => ?_⟩
  have hsl : slot < cells.length := by omega
  rw [getGlobalVar, hcl, HeapArray.read_live hsl, Exec.ok_bind]
  exact hm.read (List.getElem?_eq_getElem hsl) buf hb

end Compat

namespace Bcc

/-- **The plain globals as a store, in the full build.** For an executable whose variables
do not overlap, every sequence of `setGlobalVar(slot, data, size slot)` with slots among
its variable addresses and data of the variable's size succeeds. Then
`getGlobalVar(slot, buf, size slot)` into a buffer that can take the bytes returns the
bytes of the last write to the slot, or what the variable held before the first one, and
leaves the buffer as it is when the slot's address is NULL. -/
theorem getGlobalVar_after_writes (exec : ExecutableInfo) (size : Nat → Nat)
    (hsep : Separate exec.exportVarAddrs size) (calls : List (Nat × List UInt8))
    (hc : ∀ c ∈ calls, c.1 < exec.exportVarAddrs.length ∧ c.2.length = size c.1) (m₀ : Memory) :
    ∃ m, calls.foldlM (fun m c => setGlobalVar exec c.1 c.2 (size c.1) m) m₀ = .ok m ∧
      ∀ slot < exec.exportVarAddrs.length, ∀ buf : List UInt8, size slot ≤ buf.length →
        getGlobalVar exec slot buf (size slot) m =
          .ok (readAfter m₀ exec.exportVarAddrs size calls slot buf) := by
  have hstep : ∀ (pre : List (Nat × List UInt8)) (m : Memory) (c : Nat × List UInt8),
      StoreAfter m₀ exec.exportVarAddrs size pre m →
      c.1 < exec.exportVarAddrs.length ∧ c.2.length = size c.1 →
      ∃ m', setGlobalVar exec c.1 c.2 (size c.1) m = .ok m' ∧
        StoreAfter m₀ exec.exportVarAddrs size (pre ++ [c]) m' := by
    rintro pre m ⟨slot, data⟩ hm ⟨hs, hd⟩
    obtain ⟨m', e, hm'⟩ := hm.write hsep (List.getElem?_eq_getElem hs) hd
    exact ⟨m', by rw [setGlobalVar, vectorAt, List.getElem?_eq_getElem hs, Exec.ok_bind, e], hm'⟩
  obtain ⟨m, e, hm⟩ := foldlM_ok_of_step _ _ _ hstep calls [] m₀ StoreAfter.nil hc
  refine ⟨m, e, fun slot hs buf hb => ?_⟩
  rw [getGlobalVar, vectorAt, List.getElem?_eq_getElem hs, Exec.ok_bind]
  exact hm.read (List.getElem?_eq_getElem hs) buf hb

end Bcc

/-- **The plain globals as a store, in both builds.** Take variables that do not overlap:
in the compatibility build those of a new object after a successful `init`, in the full
build those of any executable. Every sequence of `setGlobalVar(slot, data, size slot)` to
slots of the variables, with data of the variable's size, succeeds. Then
`getGlobalVar(slot, buf, size slot)` into a buffer that can take the bytes returns the
bytes of the last write to the slot, or what the variable held before the first one, and
leaves the buffer as it is when the slot's address is NULL. -/
theorem getGlobalVar_reads_last_write :
    (∀ (aborts : Bool) (env : Compat.LoadEnv) (ctx ctx' : Ctx) (v f : Nat)
      (s : Compat.RsdCpuScriptImpl) (size : Nat → Nat) (calls : List (Nat × List UInt8))
      (m₀ : Memory),
      Compat.init aborts env ctx (Compat.RsdCpuScriptImpl.construct v f) = .ok (true, ctx', s) →
      Separate ((s.mFieldAddress.map HeapArray.cells).getD []) size →
      (∀ c ∈ calls, c.1 < s.mExportedVariableCount ∧ c.2.length = size c.1) →
      ∃ m, calls.foldlM (fun m c => Compat.setGlobalVar s c.1 c.2 (size c.1) m) m₀ = .ok m ∧
        ∀ slot < s.mExportedVariableCount, ∀ buf : List UInt8, size slot ≤ buf.length →
          Compat.getGlobalVar s slot buf (size slot) m =
            .ok (readAfter m₀ ((s.mFieldAddress.map HeapArray.cells).getD []) size calls slot buf)) ∧
    (∀ (exec : Bcc.ExecutableInfo) (size : Nat → Nat) (calls : List (Nat × List UInt8))
      (m₀ : Memory),
      Separate exec.exportVarAddrs size →
      (∀ c ∈ calls, c.1 < exec.exportVarAddrs.length ∧ c.2.length = size c.1) →
      ∃ m, calls.foldlM (fun m c => Bcc.setGlobalVar exec c.1 c.2 (size c.1) m) m₀ = .ok m ∧
        ∀ slot < exec.exportVarAddrs.length, ∀ buf : List UInt8, size slot ≤ buf.length →
          Bcc.getGlobalVar exec slot buf (size slot) m =
            .ok (readAfter m₀ exec.exportVarAddrs size calls slot buf)) :=
  ⟨fun _ _ _ _ _ _ _ size calls m₀ h hsep hc =>
      Compat.getGlobalVar_after_writes h size hsep calls hc m₀,
    fun exec size calls m₀ hsep hc => Bcc.getGlobalVar_after_writes exec size hsep calls hc m₀⟩

/-- Four-byte variables over zeroed memory. In the compatibility build, one variable at
address 5 written twice reads the second write. In the full build, variables at 0 and 4
and a NULL third one: each reads its last write, and a read of the NULL one leaves the
buffer. -/
theorem getGlobalVar_reads_last_write_two_writes :
    let sC : Compat.RsdCpuScriptImpl := { Compat.RsdCpuScriptImpl.construct 1 0 with
      mScriptSO := some ⟨1, true⟩, mRoot := some 5, mRootExpand := some 5, mInit := some 5,
      mFreeChildren := some 5, mFieldAddress := some ⟨[some 5], true⟩,
      mFieldIsObject := some ⟨[false], true⟩, mBoundAllocs := some ⟨[none], true⟩ }
    let exec : Bcc.ExecutableInfo := ⟨⟨[], []⟩, 0, 0, [], [], [some 0, some 4, none]⟩
    (∃ m, [(0, [1, 2, 3, 4]), (0, [5, 6, 7, 8])].foldlM
        (fun m c => Compat.setGlobalVar sC c.1 c.2 4 m) (fun _ => 0) = .ok m ∧
      Compat.getGlobalVar sC 0 [0, 0, 0, 0, 9] 4 m = .ok [5, 6, 7, 8, 9]) ∧
    (∃ m, [(0, [1, 2, 3, 4]), (1, [9, 9, 9, 9]), (0, [5, 6, 7, 8]), (2, [7, 7, 7, 7])].foldlM
        (fun m c => Bcc.setGlobalVar exec c.1 c.2 4 m) (fun _ => 0) = .ok m ∧
      Bcc.getGlobalVar exec 0 [0, 0, 0, 0] 4 m = .ok [5, 6, 7, 8] ∧
      Bcc.getGlobalVar exec 1 [0, 0, 0, 0] 4 m = .ok [9, 9, 9, 9] ∧
      Bcc.getGlobalVar exec 2 [3, 3, 3, 3] 4 m = .ok [3, 3, 3, 3]) := by
  have hsepC : Separate [some 5] fun _ => 4 := by
    intro i j a b hij hi hj
    rcases i with _ | i <;> rcases j with _ | j <;> simp_all
  have hsepB : Separate [some 0, some 4, none] fun _ => 4 := by
    intro i j a b hij hi hj
    dsimp only
    rcases i with _ | _ | _ | i <;> rcases j with _ | _ | _ | j <;> simp at hi hj hij <;> omega
  intro sC exec
  obtain ⟨m, e, hr⟩ := getGlobalVar_reads_last_write.1 false _ _ _ 0 0 sC (fun _ => 4)
    [(0, [1, 2, 3, 4]), (0, [5, 6, 7, 8])] (fun _ => 0) Compat.init_one_var hsepC (by decide)
  obtain ⟨mB, eB, hrB⟩ := getGlobalVar_reads_last_write.2 exec (fun _ => 4)
    [(0, [1, 2, 3, 4]), (1, [9, 9, 9, 9]), (0, [5, 6, 7, 8]), (2, [7, 7, 7, 7])] (fun _ => 0) hsepB
    (by decide)
  exact ⟨⟨m, e, (hr 0 (by decide) _ (by decide)).trans (by decide)⟩,
    ⟨mB, eB, (hrB 0 (by decide) _ (by decide)).trans (by decide),
      (hrB 1 (by decide) _ (by decide)).trans (by decide),
      (hrB 2 (by decide) _ (by decide)).trans (by decide)⟩⟩

end RsCpuScript
