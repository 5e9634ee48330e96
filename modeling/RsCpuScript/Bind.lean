import RsCpuScript.Launch
import RsCpuScript.Lifecycle
import RsCpuScript.Bcc
import RsCpuScript.Memory

/-!
# Binding allocations to globals, and finding them by pointer

`setGlobalBind(slot, data)` binds an allocation to a global of pointer type. It records
the allocation in `mBoundAllocs[slot]` and copies the allocation's storage pointer into
the global. `getAllocationForPointer(ptr)` goes back from a storage pointer to an
allocation: it walks the first `exportedVariableCount` cells of `mBoundAllocs`, the count
`populateScript` copies into the script, and returns the first allocation whose storage
pointer is `ptr` at the time of the call.

That walk is in bounds only if the count and the array agree. Both builds allocate
`mBoundAllocs` in `init` with one cell per exported variable, and leave it NULL when there
are none; `populateScript` copies the same number. In the full build both are the size of
the executable's variable names. In the compatibility build they are the count the
descriptor's first section gives, and a frame argument over the parse (`Parse.Vars`)
shows that the later sections leave it, and the table of addresses it sized, alone.

What the lookup finds is stated against `boundAllocationFor`, the binds replayed slot by
slot (`boundAfter`). A slot holds what its last bind bound, and a slot whose address did
not resolve holds nothing, since `setGlobalBind` returns before it writes there. The code
of both builds differs only in where it reads a slot's address, so one function, `bindAt`,
does the rest, and one run lemma, `foldlM_ok_of_step`, carries the store through any
sequence of binds.
-/

namespace RsCpuScript

/-- `script->mHal.info`, the fields `populateScript` writes. -/
structure ScriptInfo where
  exportedFunctionCount : Nat
  exportedVariableCount : Nat
  /-- The kernels' names and signatures, `none` for a NULL list. -/
  exportedForeachFuncList : Option (List (String × Nat))
  exportedPragmaCount : Nat
  exportedPragmaKeyList : Option (List String)
  exportedPragmaValueList : Option (List String)
  root : Option Nat
  deriving DecidableEq, Repr

/-- The root both builds' `populateScript` hand on: `mRootExpand` if it is set, else
`mRoot`. -/
def rootEntry (rootExpand root : Option Nat) : Option Nat :=
  match rootExpand with
  | some r => some r
  | none => root

/-- An `Allocation *` as `setGlobalBind` reads it: the allocation, and its storage pointer
`mHal.drvState.lod[0].mallocPtr` at the time of the call. -/
structure AllocRef where
  id : Nat
  mallocPtr : Option Nat
  deriving DecidableEq, Repr

/-- The pointer `setGlobalBind` copies into the global: `void *ptr = NULL;` and, if
`data` is not NULL, `ptr = data->mHal.drvState.lod[0].mallocPtr`. -/
def storagePtr (data : Option AllocRef) : Nat := (data.bind AllocRef.mallocPtr).getD 0

/-- The part of `setGlobalBind` after the slot's address `destPtr` is read, the same in
both builds: nothing for a NULL address, else `mBoundAllocs[slot] = data`, and
`memcpy(destPtr, &ptr, sizeof(void *))` for pointers of `ptrSize` bytes. -/
def bindAt (ptrSize : Nat) (destPtr : Option Nat) (slot : Nat) (data : Option AllocRef)
    (bound : Option (HeapArray (Option Nat))) (m : Memory) :
    Exec (Option (HeapArray (Option Nat)) × Memory) :=
  match destPtr with
  | none => pure (bound, m)
  | some d => do
    let bound ← HeapArray.write bound slot (data.map AllocRef.id)
    pure (bound, m.storePtr ptrSize d (storagePtr data))

/-- The loop of `getAllocationForPointer` from slot `ct`, with `k` slots left: the first
allocation bound there whose storage pointer is now `p`. -/
def findBound (mallocPtr : Nat → Option Nat) (bound : Option (HeapArray (Option Nat)))
    (p : Nat) : Nat → Nat → Exec (Option Nat)
  | 0, _ => pure none
  | k + 1, ct => do
    match ← HeapArray.read bound ct with
    | some a => if mallocPtr a = some p then pure (some a) else findBound mallocPtr bound p k (ct + 1)
    | none => findBound mallocPtr bound p k (ct + 1)

/-- **`RsdCpuScriptImpl::getAllocationForPointer`**, the same in both builds. It reads
`mBoundAllocs` and the script's `exportedVariableCount`; `mallocPtr` gives each
allocation's storage pointer at the time of the call. -/
def getAllocationForPointer (info : ScriptInfo) (bound : Option (HeapArray (Option Nat)))
    (mallocPtr : Nat → Option Nat) (ptr : Option Nat) : Exec (Option Nat) :=
  match ptr with
  | none => pure none
  | some p => findBound mallocPtr bound p info.exportedVariableCount 0

namespace Compat

/-- **`RsdCpuScriptImpl::populateScript`** in the compatibility build. The kernel list is
left as it was. -/
def populateScript (self : RsdCpuScriptImpl) (info : ScriptInfo) : ScriptInfo :=
  { info with
    exportedFunctionCount := self.mExportedFunctionCount
    exportedVariableCount := self.mExportedVariableCount
    exportedPragmaCount := 0
    exportedPragmaKeyList := none
    exportedPragmaValueList := none
    root := rootEntry self.mRootExpand self.mRoot }

/-- **`RsdCpuScriptImpl::setGlobalBind`** in the compatibility build, for pointers of
`ptrSize` bytes, with the slot's address read from `mFieldAddress[slot]`. -/
def setGlobalBind (ptrSize slot : Nat) (data : Option AllocRef) (st : RsdCpuScriptImpl × Memory) :
    Exec (RsdCpuScriptImpl × Memory) := do
  let destPtr ← HeapArray.read st.1.mFieldAddress slot
  let (bound, g) ← bindAt ptrSize destPtr slot data st.1.mBoundAllocs st.2
  pure ({ st.1 with mBoundAllocs := bound }, g)

end Compat

namespace Bcc

/-- What the full build's `populateScript` and `setGlobalBind` read of the executable
besides `BccEnv`: its kernels as `forEachKernelSetup` reads them, its counts of functions
and pragmas, its pragmas, and the addresses of its variables. -/
structure ExecutableInfo extends Executable where
  /-- `info->getExportFuncNames().size()` -/
  exportFuncCount : Nat
  /-- `info->getPragmas().size()` -/
  pragmaCount : Nat
  /-- `mExecutable->getPragmaKeys()` -/
  pragmaKeys : List String
  /-- `mExecutable->getPragmaValues()` -/
  pragmaValues : List String
  /-- `mExecutable->getExportVarAddrs()` -/
  exportVarAddrs : List (Option Nat)

/-- **`RsdCpuScriptImpl::populateScript`** in the full build. The variable count is
`info->getExportVarNames().size()`, the `exportVarCount` of the `BccEnv`. -/
def populateScript (env : BccEnv) (exec : ExecutableInfo) (self : RsdCpuScriptImpl) :
    ScriptInfo where
  exportedFunctionCount := exec.exportFuncCount
  exportedVariableCount := env.exportVarCount
  exportedForeachFuncList := some exec.exportForeachFuncs
  exportedPragmaCount := exec.pragmaCount
  exportedPragmaKeyList := some exec.pragmaKeys
  exportedPragmaValueList := some exec.pragmaValues
  root := rootEntry self.mRootExpand self.mRoot

/-- **`RsdCpuScriptImpl::setGlobalBind`** in the full build, for pointers of `ptrSize`
bytes, with the slot's address read from `mExecutable->getExportVarAddrs()[slot]`. -/
def setGlobalBind (ptrSize : Nat) (exec : ExecutableInfo) (slot : Nat) (data : Option AllocRef)
    (st : RsdCpuScriptImpl × Memory) : Exec (RsdCpuScriptImpl × Memory) := do
  let destPtr ← vectorAt exec.exportVarAddrs slot
  let (bound, g) ← bindAt ptrSize destPtr slot data st.1.mBoundAllocs st.2
  pure ({ st.1 with mBoundAllocs := bound }, g)

end Bcc

/-! ## What a lookup should find -/

/-- The allocation the last of `binds` to `slot` bound: NULL if that bind unbound the
slot, or if there was none. -/
def lastBound (binds : List (Nat × Option AllocRef)) (slot : Nat) : Option Nat :=
  binds.foldl (fun a b => if b.1 = slot then b.2.map AllocRef.id else a) none

/-- Whether the address of `slot` in the table `addrs` resolved: the slot is in the table
and its address is not NULL. -/
def resolved (addrs : List (Option Nat)) (slot : Nat) : Bool :=
  match addrs[slot]? with
  | some (some _) => true
  | _ => false

/-- **The bound allocations after `binds`**, over the first `n` slots: each slot holds
what its last bind bound, and a slot whose address in `addrs` did not resolve holds
nothing. -/
def boundAfter (n : Nat) (addrs : List (Option Nat)) (binds : List (Nat × Option AllocRef)) :
    List (Option Nat) :=
  (List.range n).map fun slot => if resolved addrs slot then lastBound binds slot else none

/-- **What `getAllocationForPointer(p)` is for**: the allocation bound, after `binds`, to
the lowest slot whose allocation has the storage pointer `p` now. -/
def boundAllocationFor (n : Nat) (addrs : List (Option Nat))
    (binds : List (Nat × Option AllocRef)) (mallocPtr : Nat → Option Nat) (p : Nat) :
    Option Nat :=
  (boundAfter n addrs binds).findSome? fun a => a.filter fun a => mallocPtr a = some p

/-- `mBoundAllocs` as `init` leaves it and the binds keep it: `n` live cells holding
`cells`, or NULL when there are no variables. -/
def boundTable (n : Nat) (cells : List (Option Nat)) : Option (HeapArray (Option Nat)) :=
  if 0 < n then some ⟨cells, true⟩ else none

/-! ## What the globals should hold -/

/-- The data of the last of `binds` to `slot`: `none` if there was none, `some none` if
it unbound the slot. -/
def lastBind (binds : List (Nat × Option AllocRef)) (slot : Nat) : Option (Option AllocRef) :=
  binds.foldl (fun a b => if b.1 = slot then some b.2 else a) none

/-- **What the globals should hold after `binds`**, starting from the memory `m`, for
pointers of `ptrSize` bytes: the global of a slot whose address resolved holds the bytes
the last bind to it wrote, the storage pointer its allocation had at that bind or NULL, and
every byte outside the globals keeps its value. -/
structure GlobalsAfter (ptrSize : Nat) (addrs : List (Option Nat))
    (binds : List (Nat × Option AllocRef)) (m m' : Memory) : Prop where
  bound : ∀ slot d : Nat, addrs[slot]? = some (some d) →
    m'.bytes d ptrSize =
      ((lastBind binds slot).map fun data => toLE ptrSize (storagePtr data)).getD (m.bytes d ptrSize)
  other : ∀ a : Nat, (∀ slot d : Nat, addrs[slot]? = some (some d) → a < d ∨ d + ptrSize ≤ a) →
    m' a = m a

theorem lastBound_append (binds : List (Nat × Option AllocRef)) (b : Nat × Option AllocRef)
    (slot : Nat) :
    lastBound (binds ++ [b]) slot = if b.1 = slot then b.2.map AllocRef.id else lastBound binds slot := by
  simp [lastBound, List.foldl_append]

@[simp] theorem length_boundAfter (n : Nat) (addrs : List (Option Nat))
    (binds : List (Nat × Option AllocRef)) : (boundAfter n addrs binds).length = n := by
  simp [boundAfter]

theorem boundAfter_nil (n : Nat) (addrs : List (Option Nat)) :
    boundAfter n addrs [] = List.replicate n none := by
  simp [boundAfter, lastBound, List.map_const']

theorem getElem_boundAfter {n i : Nat} (addrs : List (Option Nat))
    (binds : List (Nat × Option AllocRef)) (h : i < (boundAfter n addrs binds).length) :
    (boundAfter n addrs binds)[i] = if resolved addrs i then lastBound binds i else none := by
  simp [boundAfter]

/-- **One bind, on the store.** A bind to a slot whose address resolved sets that slot;
one to a slot whose address is NULL changes nothing. -/
theorem boundAfter_append {n slot : Nat} {addrs : List (Option Nat)}
    (binds : List (Nat × Option AllocRef)) (data : Option AllocRef) :
    boundAfter n addrs (binds ++ [(slot, data)]) =
      if resolved addrs slot then (boundAfter n addrs binds).set slot (data.map AllocRef.id)
      else boundAfter n addrs binds := by
  apply List.ext_getElem (by split <;> simp)
  intro i _ _
  rw [getElem_boundAfter, lastBound_append]
  by_cases hi : slot = i
  · subst hi
    by_cases hc : resolved addrs slot <;> simp [hc, getElem_boundAfter]
  · by_cases hc : resolved addrs slot <;> simp [hc, hi, List.getElem_set, getElem_boundAfter]

/-- **The store after one more bind**, in either build, once the slot's address
`destPtr` is read: the slot set as `boundAfter` says, and the storage pointer or NULL
stored at the address. -/
theorem bindAt_boundAfter (ptrSize : Nat) {n slot : Nat} {addrs : List (Option Nat)}
    {destPtr : Option Nat} (hs : slot < n) (hd : addrs[slot]? = some destPtr)
    (binds : List (Nat × Option AllocRef)) (data : Option AllocRef) (m : Memory) :
    ∃ m', bindAt ptrSize destPtr slot data (boundTable n (boundAfter n addrs binds)) m =
      .ok (boundTable n (boundAfter n addrs (binds ++ [(slot, data)])), m') ∧
      (∀ d, destPtr = some d → m' = m.storePtr ptrSize d (storagePtr data)) ∧
      (destPtr = none → m' = m) := by
  have hn : 0 < n := by omega
  rw [boundAfter_append]
  cases destPtr with
  | none => exact ⟨m, by simp [bindAt, resolved, hd], nofun, fun _ => rfl⟩
  | some d =>
    refine ⟨m.storePtr ptrSize d (storagePtr data), ?_, fun d' e => by cases e; rfl, nofun⟩
    simp only [bindAt, boundTable, hn, if_true, resolved, hd,
      HeapArray.write_live _ (by simpa using hs : slot < (boundAfter n addrs binds).length),
      Exec.ok_bind, Exec.pure_eq]

theorem lastBind_append (binds : List (Nat × Option AllocRef)) (b : Nat × Option AllocRef)
    (slot : Nat) :
    lastBind (binds ++ [b]) slot = if b.1 = slot then some b.2 else lastBind binds slot := by
  simp [lastBind, List.foldl_append]

theorem GlobalsAfter.nil (ptrSize : Nat) (addrs : List (Option Nat)) (m : Memory) :
    GlobalsAfter ptrSize addrs [] m m :=
  ⟨fun _ _ _ => rfl, fun _ _ => rfl⟩

/-- **One bind, on the globals.** With variables of a pointer's size that lie apart, a
bind whose write is that of `bindAt_boundAfter` keeps the globals as `GlobalsAfter`
says. -/
theorem GlobalsAfter.bind {ptrSize : Nat} {addrs : List (Option Nat)}
    {binds : List (Nat × Option AllocRef)} {m m1 m' : Memory} {slot : Nat} {data : Option AllocRef}
    {destPtr : Option Nat} (hsep : Separate addrs fun _ => ptrSize)
    (h : GlobalsAfter ptrSize addrs binds m m1) (hd : addrs[slot]? = some destPtr)
    (hw : ∀ d, destPtr = some d → m' = m1.storePtr ptrSize d (storagePtr data))
    (hk : destPtr = none → m' = m1) : GlobalsAfter ptrSize addrs (binds ++ [(slot, data)]) m m' := by
  cases destPtr with
  | none =>
    rw [hk rfl]
    refine ⟨fun slot' d hd' => ?_, h.other⟩
    have hs : slot ≠ slot' := by
      rintro rfl
      simp [hd] at hd'
    rw [lastBind_append, if_neg hs]
    exact h.bound slot' d hd'
  | some d0 =>
    rw [hw d0 rfl]
    refine ⟨fun slot' d hd' => ?_, fun a ha => ?_⟩
    · rw [lastBind_append]
      by_cases hs : slot = slot'
      · subst hs
        obtain rfl : d0 = d := by simpa [hd] using hd'
        simp [Memory.bytes_storePtr_self]
      · have : d0 + ptrSize ≤ d ∨ d + ptrSize ≤ d0 := hsep slot slot' d0 d hs hd hd'
        rw [if_neg hs, Memory.storePtr, Memory.bytes_copyIn_of_apart _ _ (by simp; omega),
          h.bound slot' d hd']
    · have := ha slot d0 hd
      rw [Memory.storePtr, Memory.copyIn_of_not_mem _ _ (by simpa using this), h.other a ha]

/-- **A run of steps that each keep an invariant keeps it**: if every step allowed by `P`
succeeds and takes `I pre` to `I (pre ++ [b])`, a run of allowed steps succeeds and ends
in `I` of everything done. -/
theorem foldlM_ok_of_step {σ β : Type} (step : σ → β → Exec σ) (P : β → Prop)
    (I : List β → σ → Prop)
    (hstep : ∀ pre st b, I pre st → P b → ∃ st', step st b = .ok st' ∧ I (pre ++ [b]) st') :
    ∀ (bs pre : List β) (st : σ), I pre st → (∀ b ∈ bs, P b) →
      ∃ st', bs.foldlM step st = .ok st' ∧ I (pre ++ bs) st'
  | [], pre, st, h, _ => ⟨st, rfl, by simpa using h⟩
  | b :: bs, pre, st, h, hP => by
    obtain ⟨st1, e1, h1⟩ := hstep pre st b h (hP b (List.mem_cons_self b bs))
    obtain ⟨st2, e2, h2⟩ :=
      foldlM_ok_of_step step P I hstep bs (pre ++ [b]) st1 h1
        (fun b' hb => hP b' (List.mem_cons_of_mem b hb))
    refine ⟨st2, ?_, by simpa using h2⟩
    rw [List.foldlM_cons, e1, Exec.ok_bind, e2]

theorem findBound_eq (mallocPtr : Nat → Option Nat) (cells : List (Option Nat)) (p : Nat) :
    ∀ k ct, ct + k = cells.length → findBound mallocPtr (some ⟨cells, true⟩) p k ct =
      .ok ((cells.drop ct).findSome? fun a => a.filter fun a => mallocPtr a = some p)
  | 0, ct, h => by simp [findBound, List.drop_of_length_le (by omega : cells.length ≤ ct)]
  | k + 1, ct, h => by
    have hct : ct < cells.length := by omega
    rw [findBound, HeapArray.read_live hct, Exec.ok_bind, List.drop_eq_getElem_cons hct,
      List.findSome?_cons]
    cases cells[ct] with
    | none => exact findBound_eq mallocPtr cells p k (ct + 1) (by omega)
    | some a =>
      by_cases ha : mallocPtr a = some p
      · simp [Option.filter_some, ha]
      · simp only [ha, if_false, Option.filter_some, decide_False]
        exact findBound_eq mallocPtr cells p k (ct + 1) (by omega)

/-- **The lookup on a store the binds left**: with the script's count equal to the
number of cells, `getAllocationForPointer` reads only cells below it and finds what
`boundAllocationFor` says. -/
theorem getAllocationForPointer_boundAfter {info : ScriptInfo} {n : Nat}
    (hn : info.exportedVariableCount = n) (addrs : List (Option Nat))
    (binds : List (Nat × Option AllocRef)) (mallocPtr : Nat → Option Nat) (p : Nat) :
    getAllocationForPointer info (boundTable n (boundAfter n addrs binds)) mallocPtr (some p) =
      .ok (boundAllocationFor n addrs binds mallocPtr p) := by
  unfold getAllocationForPointer boundTable boundAllocationFor
  rw [hn]
  by_cases h0 : 0 < n
  · rw [if_pos h0]
    exact findBound_eq mallocPtr _ p n 0 (by simp)
  · obtain rfl : n = 0 := by omega
    rfl

namespace Compat

variable {env : LoadEnv}

/-! ## What `init` leaves for the variables -/

/-- **The variable fields of the parse**: `mExportedVariableCount` is `varCount`,
`mFieldAddress` has a live cell per variable, and nothing is bound yet. -/
structure Parse.Vars (st : Parse) : Prop where
  count : st.self.mExportedVariableCount = st.varCount
  fieldAddress : 0 < st.varCount →
    ∃ cells, st.self.mFieldAddress = some ⟨cells, true⟩ ∧ cells.length = st.varCount
  boundAllocs : st.self.mBoundAllocs = none

/-- A step that keeps the object and `varCount` keeps the variable fields. -/
theorem Parse.Vars.frame {st st' : Parse} (h : st.Vars) (hs : st'.self = st.self)
    (hv : st'.varCount = st.varCount) : st'.Vars :=
  ⟨by rw [hs, hv]; exact h.count, by rw [hs, hv]; exact h.fieldAddress,
    by rw [hs]; exact h.boundAllocs⟩

/-- A write into a field other than the three keeps the variable fields. -/
theorem Parse.Vars.update {st : Parse} (h : st.Vars) {f : RsdCpuScriptImpl → RsdCpuScriptImpl}
    (hc : (f st.self).mExportedVariableCount = st.self.mExportedVariableCount)
    (ha : (f st.self).mFieldAddress = st.self.mFieldAddress)
    (hb : (f st.self).mBoundAllocs = st.self.mBoundAllocs) : (st.update f).Vars :=
  ⟨hc.trans h.count, fun hv => ha ▸ h.fieldAddress hv, hb.trans h.boundAllocs⟩

/-- A write into `mFieldAddress` that succeeds keeps its length. -/
theorem Parse.Vars.setFieldAddress {st : Parse} (h : st.Vars) {i : Nat} {x : Option Nat}
    {fa : Option (HeapArray (Option Nat))} (hw : HeapArray.write st.self.mFieldAddress i x = .ok fa) :
    (st.update ({ · with mFieldAddress := fa })).Vars := by
  obtain ⟨cells, hc, -, rfl⟩ := HeapArray.write_eq_ok hw
  refine ⟨h.count, fun hv => ?_, h.boundAllocs⟩
  obtain ⟨cells', hc', hl⟩ := h.fieldAddress hv
  rw [hc, Option.some.injEq, HeapArray.mk.injEq] at hc'
  exact ⟨_, rfl, by simpa [hc'.1] using hl⟩

theorem Parse.nextLine_frame {st st' : Parse} (h : st.nextLine env = .ok (some st')) :
    st'.self = st.self ∧ st'.varCount = st.varCount := by
  simp only [Parse.nextLine, Exec.bind_eq_ok] at h
  obtain ⟨-, -, r, -, h⟩ := h
  rcases r with _ | ⟨line, pos⟩ <;> simp at h
  subst h
  exact ⟨rfl, rfl⟩

theorem Parse.count_frame {st st' : Parse} {key : String} {n : Nat}
    (h : st.count env key = .ok (some (st', n))) :
    st'.self = st.self ∧ st'.varCount = st.varCount := by
  simp only [Parse.count, Exec.bind_eq_ok] at h
  obtain ⟨o, ho, h⟩ := h
  rcases o with _ | st1
  · simp at h
  simp only [Exec.bind_eq_ok] at h
  obtain ⟨w, -, h⟩ := h
  split at h <;> simp at h
  exact h.1 ▸ Parse.nextLine_frame ho

theorem Parse.name_frame {st st' : Parse} {nm : List Char}
    (h : st.name env = .ok (some (st', nm))) :
    st'.self = st.self ∧ st'.varCount = st.varCount := by
  simp only [Parse.name, Exec.bind_eq_ok] at h
  obtain ⟨o, ho, h⟩ := h
  rcases o with _ | st1
  · simp at h
  simp only [Exec.bind_eq_ok] at h
  obtain ⟨w, -, h⟩ := h
  have hs : st'.self = st1.self ∧ st'.varCount = st1.varCount := by
    split at h <;> simp only [Exec.bind_eq_ok, Exec.pure_eq, Exec.ok_bind, Exec.ok.injEq,
      Option.some.injEq, Prod.mk.injEq] at h
    · obtain ⟨_, -, _, -, rfl, -⟩ := h
      exact ⟨rfl, rfl⟩
    · obtain ⟨_, -, rfl, -⟩ := h
      exact ⟨rfl, rfl⟩
  obtain ⟨s1, v1⟩ := Parse.nextLine_frame ho
  exact ⟨hs.1.trans s1, hs.2.trans v1⟩

/-- The variable loop writes addresses into the table without changing its length. -/
theorem varLoop_vars : ∀ (k i : Nat) (st st' : Parse), st.Vars →
    varLoop env k i st = .ok (true, st') → st'.Vars
  | 0, _, st, st', h, e => by
    simp only [varLoop, Exec.pure_eq, Exec.ok.injEq, Prod.mk.injEq, true_and] at e
    exact e ▸ h
  | k + 1, i, st, st', h, e => by
    simp only [varLoop, Exec.bind_eq_ok] at e
    obtain ⟨o, ho, e⟩ := e
    rcases o with _ | ⟨st1, nm⟩
    · simp at e
    simp only [Exec.bind_eq_ok] at e
    obtain ⟨fa, hfa, e⟩ := e
    obtain ⟨s1, v1⟩ := Parse.name_frame ho
    exact varLoop_vars k (i + 1) _ st' ((h.frame s1 v1).setFieldAddress hfa) e

/-- The function loop writes only `mInvokeFunctions`. -/
theorem funcLoop_vars : ∀ (k i : Nat) (st st' : Parse), st.Vars →
    funcLoop env k i st = .ok (true, st') → st'.Vars
  | 0, _, st, st', h, e => by
    simp only [funcLoop, Exec.pure_eq, Exec.ok.injEq, Prod.mk.injEq, true_and] at e
    exact e ▸ h
  | k + 1, i, st, st', h, e => by
    simp only [funcLoop, Exec.bind_eq_ok] at e
    obtain ⟨o, ho, e⟩ := e
    rcases o with _ | ⟨st1, nm⟩
    · simp at e
    simp only [Exec.bind_eq_ok] at e
    obtain ⟨fs, -, e⟩ := e
    obtain ⟨s1, v1⟩ := Parse.name_frame ho
    split at e
    · simp at e
    · exact funcLoop_vars k (i + 1) _ st' ((h.frame s1 v1).update rfl rfl rfl) e

/-- The kernel loop writes only the kernel tables. -/
theorem forEachLoop_vars : ∀ (k i : Nat) (st st' : Parse), st.Vars →
    forEachLoop env k i st = .ok (true, st') → st'.Vars
  | 0, _, st, st', h, e => by
    simp only [forEachLoop, Exec.pure_eq, Exec.ok.injEq, Prod.mk.injEq, true_and] at e
    exact e ▸ h
  | k + 1, i, st, st', h, e => by
    simp only [forEachLoop, Exec.bind_eq_ok] at e
    obtain ⟨o, ho, e⟩ := e
    rcases o with _ | st1
    · simp at e
    simp only [Exec.bind_eq_ok] at e
    obtain ⟨w, -, e⟩ := e
    obtain ⟨s1, v1⟩ := Parse.nextLine_frame ho
    split at e
    · simp only [Exec.bind_eq_ok] at e
      obtain ⟨_, -, _, -, _, -, _, -, e⟩ := e
      split at e
      · simp at e
      · exact forEachLoop_vars k (i + 1) _ st' ((h.frame s1 v1).update rfl rfl rfl) e
    · simp at e

/-- The object-slot loop writes only `mFieldIsObject`. -/
theorem slotLoop_vars : ∀ (k : Nat) (st st' : Parse), st.Vars →
    slotLoop env k st = .ok (true, st') → st'.Vars
  | 0, st, st', h, e => by
    simp only [slotLoop, Exec.pure_eq, Exec.ok.injEq, Prod.mk.injEq, true_and] at e
    exact e ▸ h
  | k + 1, st, st', h, e => by
    simp only [slotLoop, Exec.bind_eq_ok] at e
    obtain ⟨o, ho, e⟩ := e
    rcases o with _ | st1
    · simp at e
    simp only [Exec.bind_eq_ok] at e
    obtain ⟨w, -, e⟩ := e
    have h1 := h.frame (Parse.nextLine_frame ho).1 (Parse.nextLine_frame ho).2
    split at e
    · split at e
      · simp only [Exec.bind_eq_ok] at e
        obtain ⟨_, -, e⟩ := e
        exact slotLoop_vars k _ st' (h1.update rfl rfl rfl) e
      · exact slotLoop_vars k _ st' h1 e
    · simp at e

/-- **The variable section sets up the variable fields**: the count, and a table of one
address per variable. -/
theorem varSection_vars {st st' : Parse} (hb : st.self.mBoundAllocs = none)
    (e : varSection env st = .ok (true, st')) : st'.Vars := by
  simp only [varSection, Exec.bind_eq_ok] at e
  obtain ⟨o, ho, e⟩ := e
  rcases o with _ | ⟨st1, n⟩
  · simp at e
  obtain ⟨s1, -⟩ := Parse.count_frame ho
  dsimp only at e
  split_ifs at e with hn h1 h2
  · simp at e
  · simp at e
  · refine varLoop_vars n 0 _ st' ⟨rfl, fun _ => ?_, by simpa [Parse.update, s1] using hb⟩ e
    cases ha : env.newOk .fieldAddress
    · simp [Parse.update, HeapArray.new, ha] at h2
    · exact ⟨List.replicate n none, by simp [Parse.update, HeapArray.new, ha],
        List.length_replicate n none⟩
  · simp only [Exec.pure_eq, Exec.ok.injEq, Prod.mk.injEq, true_and] at e
    subst e
    exact ⟨rfl, fun h => absurd h hn, by simpa [Parse.update, s1] using hb⟩

/-- The function section writes only the function fields. -/
theorem funcSection_vars {st st' : Parse} (h : st.Vars) (e : funcSection env st = .ok (true, st')) :
    st'.Vars := by
  simp only [funcSection, Exec.bind_eq_ok] at e
  obtain ⟨o, ho, e⟩ := e
  rcases o with _ | ⟨st1, n⟩
  · simp at e
  obtain ⟨s1, v1⟩ := Parse.count_frame ho
  have h1 := (h.frame s1 v1).update (f := ({ · with mExportedFunctionCount := n })) rfl rfl rfl
  dsimp only at e
  split_ifs at e with hn h2
  · simp at e
  · exact funcLoop_vars n 0 _ st' (h1.update rfl rfl rfl) e
  · simp only [Exec.pure_eq, Exec.ok.injEq, Prod.mk.injEq, true_and] at e
    exact e ▸ h1

/-- The kernel section writes only the kernel tables. -/
theorem forEachSection_vars {st st' : Parse} (h : st.Vars)
    (e : forEachSection env st = .ok (true, st')) : st'.Vars := by
  simp only [forEachSection, Exec.bind_eq_ok] at e
  obtain ⟨o, ho, e⟩ := e
  rcases o with _ | ⟨st1, n⟩
  · simp at e
  obtain ⟨s1, v1⟩ := Parse.count_frame ho
  have h1 := h.frame s1 v1
  dsimp only at e
  split_ifs at e with hn h2 h3
  · simp at e
  · simp at e
  · exact forEachLoop_vars n 0 _ st' ((h1.update rfl rfl rfl).update rfl rfl rfl) e
  · simp only [Exec.pure_eq, Exec.ok.injEq, Prod.mk.injEq, true_and] at e
    exact e ▸ h1

/-- The object-slot section writes only `mFieldIsObject`. -/
theorem slotSection_vars (aborts : Bool) {st st' : Parse} (h : st.Vars)
    (e : slotSection aborts env st = .ok (true, st')) : st'.Vars := by
  simp only [slotSection, Exec.bind_eq_ok] at e
  obtain ⟨o, ho, e⟩ := e
  rcases o with _ | ⟨st1, n⟩
  · simp at e
  obtain ⟨s1, v1⟩ := Parse.count_frame ho
  have h1 := h.frame s1 v1
  dsimp only at e
  split_ifs at e with hn
  · simp only [Exec.bind_eq_ok] at e
    obtain ⟨_, -, e⟩ := e
    exact slotLoop_vars n _ st' h1 e
  · simp only [Exec.pure_eq, Exec.ok.injEq, Prod.mk.injEq, true_and] at e
    exact e ▸ h1

/-- **What the parse leaves for the variables**: `mBoundAllocs` with a NULL cell per
variable, or NULL when there are none, and `mFieldAddress` with an address per variable. -/
theorem parseInfo_vars (aborts : Bool) {st st' : Parse} (hb : st.self.mBoundAllocs = none)
    (e : parseInfo aborts env st = .ok (true, st')) :
    st'.self.mBoundAllocs =
        boundTable st'.self.mExportedVariableCount (List.replicate st'.self.mExportedVariableCount none) ∧
      (0 < st'.self.mExportedVariableCount → ∃ cells, st'.self.mFieldAddress = some ⟨cells, true⟩ ∧
        cells.length = st'.self.mExportedVariableCount) := by
  simp only [parseInfo, Exec.bind_eq_ok] at e
  obtain ⟨⟨b1, s1⟩, e1, e⟩ := e
  cases b1 <;> simp only [Bool.not_false, Bool.not_true, if_true, Exec.pure_eq, Exec.ok.injEq,
    Prod.mk.injEq, Bool.false_eq_true, false_and, if_false, Exec.bind_eq_ok] at e
  obtain ⟨_, -, ⟨b2, s2⟩, e2, e⟩ := e
  cases b2 <;> simp only [Bool.not_false, Bool.not_true, if_true, Exec.pure_eq, Exec.ok.injEq,
    Prod.mk.injEq, Bool.false_eq_true, false_and, if_false, Exec.bind_eq_ok] at e
  obtain ⟨_, -, ⟨b3, s3⟩, e3, e⟩ := e
  cases b3 <;> simp only [Bool.not_false, Bool.not_true, if_true, Exec.pure_eq, Exec.ok.injEq,
    Prod.mk.injEq, Bool.false_eq_true, false_and, if_false, Exec.bind_eq_ok] at e
  obtain ⟨_, -, ⟨b4, s4⟩, e4, e⟩ := e
  cases b4 <;> simp only [Bool.not_false, Bool.not_true, if_true, Exec.pure_eq, Exec.ok.injEq,
    Prod.mk.injEq, Bool.false_eq_true, false_and, if_false] at e
  have h4 := slotSection_vars aborts
    (forEachSection_vars (funcSection_vars (varSection_vars hb e1) e2) e3) e4
  split_ifs at e with hv
  · cases ha : env.newOk .boundAllocs <;> simp only [HeapArray.new, ha, if_true, Bool.false_eq_true,
      if_false, Exec.ok_bind] at e
    · cases e
    · simp only [Exec.pure_eq, Exec.ok.injEq, Prod.mk.injEq, true_and] at e
      subst e
      refine ⟨by simp [Parse.update, boundTable, h4.count, hv], fun h => ?_⟩
      simp only [Parse.update, h4.count] at h ⊢
      exact h4.fieldAddress h
  · simp only [Exec.ok_bind, Exec.pure_eq, Exec.ok.injEq, Prod.mk.injEq, true_and] at e
    subst e
    exact ⟨by simp [boundTable, h4.count, hv, h4.boundAllocs], fun h => absurd (h4.count ▸ h) hv⟩

/-- **What a successful `init` leaves for the variables**, on a new object: `mBoundAllocs`
holds a NULL cell per exported variable, or is NULL when there are none, and
`mFieldAddress` holds an address per variable. -/
theorem init_vars {aborts : Bool} {env : LoadEnv} {ctx ctx' : Ctx} {v f : Nat}
    {s : RsdCpuScriptImpl} (h : init aborts env ctx (RsdCpuScriptImpl.construct v f) = .ok (true, ctx', s)) :
    s.mBoundAllocs = boundTable s.mExportedVariableCount (List.replicate s.mExportedVariableCount none) ∧
      (0 < s.mExportedVariableCount →
        ∃ cells, s.mFieldAddress = some ⟨cells, true⟩ ∧ cells.length = s.mExportedVariableCount) := by
  cases hso : env.so with
  | none =>
    simp only [init, hso] at h
    exact absurd (initError_result h).1 (by decide)
  | some so =>
    rw [init_of_so aborts env hso] at h
    obtain ⟨⟨go, st⟩, e, h⟩ := Exec.bind_eq_ok.mp h
    cases go
    · exact absurd (initError_result h).1 (by decide)
    · simp only [if_true, Exec.pure_eq, Exec.ok.injEq, Prod.mk.injEq, true_and] at h
      exact h.2 ▸ parseInfo_vars aborts rfl e

/-- `init` of a new object on a library whose descriptor exports one variable `v`,
which `dlsym` finds at address 5. -/
theorem init_one_var :
    init false ⟨some 1, fun _ => some 5, some (memOf
      "exportVarCount: 1\nv\nexportFuncCount: 0\nexportForEachCount: 0\nobjectSlotCount: 0\n".toList),
      fun _ => true, fun _ => 'x'⟩ ⟨[], [], [], none⟩ (RsdCpuScriptImpl.construct 0 0) =
      .ok (true, ⟨[.lock, .unlock], [], [], none⟩, { RsdCpuScriptImpl.construct 1 0 with
        mScriptSO := some ⟨1, true⟩, mRoot := some 5, mRootExpand := some 5, mInit := some 5,
        mFreeChildren := some 5, mFieldAddress := some ⟨[some 5], true⟩,
        mFieldIsObject := some ⟨[false], true⟩, mBoundAllocs := some ⟨[none], true⟩ }) := by
  decide

/-! ## Binds and lookups after `init` -/

/-- **A run of binds, in the compatibility build.** After a successful `init` of a new
object, every sequence of binds to slots below the variable count succeeds.
`mBoundAllocs` then holds what `boundAfter` says, and, when the variables of a pointer's
size lie apart, the globals hold what `GlobalsAfter` says. -/
theorem setGlobalBind_run {aborts : Bool} {env : LoadEnv} {ctx ctx' : Ctx} {v f : Nat}
    {s : RsdCpuScriptImpl} (ptrSize : Nat)
    (h : init aborts env ctx (RsdCpuScriptImpl.construct v f) = .ok (true, ctx', s))
    (binds : List (Nat × Option AllocRef)) (hb : ∀ b ∈ binds, b.1 < s.mExportedVariableCount)
    (g : Memory) :
    let n := s.mExportedVariableCount
    let addrs := (s.mFieldAddress.map HeapArray.cells).getD []
    ∃ st, binds.foldlM (fun st b => setGlobalBind ptrSize b.1 b.2 st) (s, g) = .ok st ∧
      st.1.mBoundAllocs = boundTable n (boundAfter n addrs binds) ∧
      (Separate addrs (fun _ => ptrSize) → GlobalsAfter ptrSize addrs binds g st.2) := by
  intro n addrs
  obtain ⟨hba, hfa⟩ := init_vars h
  let I : List (Nat × Option AllocRef) → RsdCpuScriptImpl × Memory → Prop := fun pre st =>
    st.1.mFieldAddress = s.mFieldAddress ∧ st.1.mBoundAllocs = boundTable n (boundAfter n addrs pre) ∧
      (Separate addrs (fun _ => ptrSize) → GlobalsAfter ptrSize addrs pre g st.2)
  have hstep : ∀ pre st b, I pre st → b.1 < n →
      ∃ st', setGlobalBind ptrSize b.1 b.2 st = .ok st' ∧ I (pre ++ [b]) st' := by
    rintro pre ⟨self, g1⟩ ⟨slot, data⟩ ⟨hf, hbd, hg⟩ (hs : slot < n)
    dsimp only at hf hbd hg
    obtain ⟨cells, hc, hl⟩ := hfa (by omega)
    have hsl : slot < cells.length := by omega
    have hd : addrs[slot]? = some cells[slot] := by simp [addrs, hc, hsl]
    obtain ⟨g', e, hw, hk⟩ := bindAt_boundAfter ptrSize hs hd pre data g1
    refine ⟨({ self with mBoundAllocs := boundTable n (boundAfter n addrs (pre ++ [(slot, data)])) },
      g'), ?_, hf, rfl, fun hsep => (hg hsep).bind hsep hd hw hk⟩
    simp only [setGlobalBind, hf, hc, HeapArray.read_live hsl, Exec.ok_bind, hbd, e, Exec.pure_eq]
  obtain ⟨st, e, -, hI⟩ := foldlM_ok_of_step _ (fun b => b.1 < n) I hstep binds [] (s, g)
    ⟨rfl, by rw [boundAfter_nil]; exact hba, fun _ => GlobalsAfter.nil ptrSize addrs g⟩ hb
  exact ⟨st, e, hI⟩

/-- **The lookup after any binds, in the compatibility build.** After a successful `init`
of a new object and `populateScript`, `mBoundAllocs` has as many cells as the script's
variable count, or is NULL with a count of 0. Every sequence of binds to slots below the
count then succeeds, and a lookup by a non-NULL pointer reads only those cells and finds
the allocation last bound to the lowest slot with that storage pointer. -/
theorem getAllocationForPointer_after_binds {aborts : Bool} {env : LoadEnv} {ctx ctx' : Ctx}
    {v f : Nat} {s : RsdCpuScriptImpl} (ptrSize : Nat)
    (h : init aborts env ctx (RsdCpuScriptImpl.construct v f) = .ok (true, ctx', s))
    (info : ScriptInfo) (binds : List (Nat × Option AllocRef))
    (hb : ∀ b ∈ binds, b.1 < (populateScript s info).exportedVariableCount) (g : Memory)
    (mallocPtr : Nat → Option Nat) (p : Nat) :
    let n := (populateScript s info).exportedVariableCount
    s.mBoundAllocs = boundTable n (List.replicate n none) ∧
      ∃ st, binds.foldlM (fun st b => setGlobalBind ptrSize b.1 b.2 st) (s, g) = .ok st ∧
        getAllocationForPointer (populateScript s info) st.1.mBoundAllocs mallocPtr (some p) =
          .ok (boundAllocationFor n ((s.mFieldAddress.map HeapArray.cells).getD []) binds mallocPtr p) := by
  obtain ⟨st, e, hI, -⟩ := setGlobalBind_run ptrSize h binds hb g
  exact ⟨(init_vars h).1, st, e, by rw [hI]; exact getAllocationForPointer_boundAfter rfl _ binds mallocPtr p⟩

end Compat

namespace Bcc

/-- **What a successful `init` leaves in `mBoundAllocs`** in the full build, on a new
object: a NULL cell per exported variable, or NULL when there are none. -/
theorem init_boundAllocs {cfg : BuildConfig} {env : BccEnv} {ctx ctx' : Ctx} {s : RsdCpuScriptImpl}
    (h : init cfg env ctx RsdCpuScriptImpl.construct = .ok (true, ctx', s)) :
    s.mBoundAllocs = boundTable env.exportVarCount (List.replicate env.exportVarCount none) := by
  unfold init at h
  repeat (split at h; · cases h)
  split at h
  · split at h
    · rename_i hn _ b hb
      simp only [HeapArray.new, Option.ite_none_right_eq_some, Option.some.injEq] at hb
      cases h
      simp [boundTable, hn, ← hb.2]
    · cases h
  · cases h
    simp [boundTable, *, RsdCpuScriptImpl.construct]

/-- `init` of a new object in the full build, on a bitcode that bcc compiles to an
executable exporting one variable. -/
theorem init_one_var :
    init ⟨false, false, false⟩ ⟨true, true, true, .full, none, false, fun _ => none, some 7,
      fun _ => false, none, fun _ => none, 1, true⟩ ⟨[], [], [], none⟩ RsdCpuScriptImpl.construct =
      .ok (true, ⟨[.lock, .unlock], [], [], none⟩, { RsdCpuScriptImpl.construct with
        mCompilerContext := true, mCompilerDriver := true, mExecutable := some 7,
        mBoundAllocs := some ⟨[none], true⟩ }) := by
  decide

/-- **A run of binds, in the full build.** The executable holds an address per exported
variable name, as bcc builds it. After a successful `init` of a new object, every
sequence of binds to slots below the variable count succeeds. `mBoundAllocs` then holds
what `boundAfter` says, and, when the variables of a pointer's size lie apart, the
globals hold what `GlobalsAfter` says. -/
theorem setGlobalBind_run {cfg : BuildConfig} {env : BccEnv} {ctx ctx' : Ctx}
    {s : RsdCpuScriptImpl} (ptrSize : Nat) (exec : ExecutableInfo)
    (hexec : exec.exportVarAddrs.length = env.exportVarCount)
    (h : init cfg env ctx RsdCpuScriptImpl.construct = .ok (true, ctx', s))
    (binds : List (Nat × Option AllocRef)) (hb : ∀ b ∈ binds, b.1 < env.exportVarCount) (g : Memory) :
    let n := env.exportVarCount
    ∃ st, binds.foldlM (fun st b => setGlobalBind ptrSize exec b.1 b.2 st) (s, g) = .ok st ∧
      st.1.mBoundAllocs = boundTable n (boundAfter n exec.exportVarAddrs binds) ∧
      (Separate exec.exportVarAddrs (fun _ => ptrSize) →
        GlobalsAfter ptrSize exec.exportVarAddrs binds g st.2) := by
  intro n
  let I : List (Nat × Option AllocRef) → RsdCpuScriptImpl × Memory → Prop := fun pre st =>
    st.1.mBoundAllocs = boundTable n (boundAfter n exec.exportVarAddrs pre) ∧
      (Separate exec.exportVarAddrs (fun _ => ptrSize) →
        GlobalsAfter ptrSize exec.exportVarAddrs pre g st.2)
  have hstep : ∀ pre st b, I pre st → b.1 < n →
      ∃ st', setGlobalBind ptrSize exec b.1 b.2 st = .ok st' ∧ I (pre ++ [b]) st' := by
    rintro pre ⟨self, g1⟩ ⟨slot, data⟩ ⟨hbd, hg⟩ (hs : slot < n)
    dsimp only at hbd hg
    have hd := List.getElem?_eq_getElem (by rw [hexec]; exact hs : slot < exec.exportVarAddrs.length)
    obtain ⟨g', e, hw, hk⟩ := bindAt_boundAfter ptrSize hs hd pre data g1
    refine ⟨({ self with
      mBoundAllocs := boundTable n (boundAfter n exec.exportVarAddrs (pre ++ [(slot, data)])) }, g'),
      ?_, rfl, fun hsep => (hg hsep).bind hsep hd hw hk⟩
    simp only [setGlobalBind, vectorAt, hd, Exec.ok_bind, hbd, e, Exec.pure_eq]
  obtain ⟨st, e, hI⟩ := foldlM_ok_of_step _ (fun b => b.1 < n) I hstep binds [] (s, g)
    ⟨by rw [boundAfter_nil]; exact init_boundAllocs h, fun _ => GlobalsAfter.nil ptrSize _ g⟩ hb
  exact ⟨st, e, hI⟩

/-- **The lookup after any binds, in the full build.** The executable holds an address per
exported variable name, as bcc builds it. After a successful `init` of a new object and
`populateScript`, `mBoundAllocs` has as many cells as the script's variable count, or is
NULL with a count of 0. Every sequence of binds to slots below the count then succeeds,
and a lookup by a non-NULL pointer reads only those cells and finds the allocation last
bound to the lowest slot with that storage pointer. -/
theorem getAllocationForPointer_after_binds {cfg : BuildConfig} {env : BccEnv} {ctx ctx' : Ctx}
    {s : RsdCpuScriptImpl} (ptrSize : Nat) (exec : ExecutableInfo)
    (hexec : exec.exportVarAddrs.length = env.exportVarCount)
    (h : init cfg env ctx RsdCpuScriptImpl.construct = .ok (true, ctx', s))
    (binds : List (Nat × Option AllocRef))
    (hb : ∀ b ∈ binds, b.1 < (populateScript env exec s).exportedVariableCount) (g : Memory)
    (mallocPtr : Nat → Option Nat) (p : Nat) :
    let n := (populateScript env exec s).exportedVariableCount
    s.mBoundAllocs = boundTable n (List.replicate n none) ∧
      ∃ st, binds.foldlM (fun st b => setGlobalBind ptrSize exec b.1 b.2 st) (s, g) = .ok st ∧
        getAllocationForPointer (populateScript env exec s) st.1.mBoundAllocs mallocPtr (some p) =
          .ok (boundAllocationFor n exec.exportVarAddrs binds mallocPtr p) := by
  obtain ⟨st, e, hI, -⟩ := setGlobalBind_run ptrSize exec hexec h binds hb g
  exact ⟨init_boundAllocs h, st, e, by rw [hI]; exact getAllocationForPointer_boundAfter rfl _ binds mallocPtr p⟩

end Bcc

/-- **`getAllocationForPointer` finds the last bound allocation, in both builds.** Take a
successful `init` of a new object, then `populateScript`: in the full build, with an
executable that has an address per exported variable. Then `mBoundAllocs` has as many
cells as the script's variable count, or is NULL with a count of 0. Any sequence of
`setGlobalBind(slot, a)` with `slot` below the count succeeds, and for every non-NULL
pointer `getAllocationForPointer` reads only those cells and returns the allocation last
bound to the lowest slot whose address resolved and whose allocation's storage pointer is
now the pointer, or NULL if there is none. -/
theorem getAllocationForPointer_finds_last_bind :
    (∀ (aborts : Bool) (env : Compat.LoadEnv) (ctx ctx' : Ctx) (v f : Nat)
      (s : Compat.RsdCpuScriptImpl) (info : ScriptInfo) (ptrSize : Nat)
      (binds : List (Nat × Option AllocRef)) (g : Memory) (mallocPtr : Nat → Option Nat) (p : Nat),
      Compat.init aborts env ctx (Compat.RsdCpuScriptImpl.construct v f) = .ok (true, ctx', s) →
      (∀ b ∈ binds, b.1 < (Compat.populateScript s info).exportedVariableCount) →
      let n := (Compat.populateScript s info).exportedVariableCount
      s.mBoundAllocs = boundTable n (List.replicate n none) ∧
        ∃ st, binds.foldlM (fun st b => Compat.setGlobalBind ptrSize b.1 b.2 st) (s, g) = .ok st ∧
          getAllocationForPointer (Compat.populateScript s info) st.1.mBoundAllocs mallocPtr (some p) =
            .ok (boundAllocationFor n ((s.mFieldAddress.map HeapArray.cells).getD []) binds mallocPtr p)) ∧
    (∀ (cfg : Bcc.BuildConfig) (env : Bcc.BccEnv) (exec : Bcc.ExecutableInfo) (ctx ctx' : Ctx)
      (s : Bcc.RsdCpuScriptImpl) (ptrSize : Nat) (binds : List (Nat × Option AllocRef)) (g : Memory)
      (mallocPtr : Nat → Option Nat) (p : Nat),
      exec.exportVarAddrs.length = env.exportVarCount →
      Bcc.init cfg env ctx Bcc.RsdCpuScriptImpl.construct = .ok (true, ctx', s) →
      (∀ b ∈ binds, b.1 < (Bcc.populateScript env exec s).exportedVariableCount) →
      let n := (Bcc.populateScript env exec s).exportedVariableCount
      s.mBoundAllocs = boundTable n (List.replicate n none) ∧
        ∃ st, binds.foldlM (fun st b => Bcc.setGlobalBind ptrSize exec b.1 b.2 st) (s, g) = .ok st ∧
          getAllocationForPointer (Bcc.populateScript env exec s) st.1.mBoundAllocs mallocPtr (some p) =
            .ok (boundAllocationFor n exec.exportVarAddrs binds mallocPtr p)) :=
  ⟨fun _ _ _ _ _ _ _ info ptrSize binds g mallocPtr p h hb =>
      Compat.getAllocationForPointer_after_binds ptrSize h info binds hb g mallocPtr p,
    fun _ _ exec _ _ _ ptrSize binds g mallocPtr p hexec h hb =>
      Bcc.getAllocationForPointer_after_binds ptrSize exec hexec h binds hb g mallocPtr p⟩

/-- One variable in each build, bound to allocation 7 whose storage is at 70: a lookup of
70 finds allocation 7. -/
theorem getAllocationForPointer_finds_last_bind_one_var :
    let envC : Compat.LoadEnv := ⟨some 1, fun _ => some 5, some (memOf
      "exportVarCount: 1\nv\nexportFuncCount: 0\nexportForEachCount: 0\nobjectSlotCount: 0\n".toList),
      fun _ => true, fun _ => 'x'⟩
    let sC : Compat.RsdCpuScriptImpl := { Compat.RsdCpuScriptImpl.construct 1 0 with
      mScriptSO := some ⟨1, true⟩, mRoot := some 5, mRootExpand := some 5, mInit := some 5,
      mFreeChildren := some 5, mFieldAddress := some ⟨[some 5], true⟩,
      mFieldIsObject := some ⟨[false], true⟩, mBoundAllocs := some ⟨[none], true⟩ }
    let envB : Bcc.BccEnv := ⟨true, true, true, .full, none, false, fun _ => none, some 7,
      fun _ => false, none, fun _ => none, 1, true⟩
    let sB : Bcc.RsdCpuScriptImpl := { Bcc.RsdCpuScriptImpl.construct with
      mCompilerContext := true, mCompilerDriver := true, mExecutable := some 7,
      mBoundAllocs := some ⟨[none], true⟩ }
    let ctx' : Ctx := ⟨[.lock, .unlock], [], [], none⟩
    let info : ScriptInfo := ⟨0, 0, none, 0, none, none, none⟩
    let exec : Bcc.ExecutableInfo := ⟨⟨[], []⟩, 0, 0, [], [], [some 9]⟩
    let binds : List (Nat × Option AllocRef) := [(0, some ⟨7, some 70⟩)]
    let mallocPtr : Nat → Option Nat := fun a => if a = 7 then some 70 else none
    (Compat.init false envC ⟨[], [], [], none⟩ (Compat.RsdCpuScriptImpl.construct 0 0) =
        .ok (true, ctx', sC) ∧
      sC.mBoundAllocs = boundTable 1 (List.replicate 1 none) ∧
      ∃ st, binds.foldlM (fun st b => Compat.setGlobalBind 4 b.1 b.2 st) (sC, fun _ => 0) = .ok st ∧
        getAllocationForPointer (Compat.populateScript sC info) st.1.mBoundAllocs mallocPtr (some 70) =
          .ok (boundAllocationFor 1 [some 5] binds mallocPtr 70)) ∧
    (Bcc.init ⟨false, false, false⟩ envB ⟨[], [], [], none⟩ Bcc.RsdCpuScriptImpl.construct =
        .ok (true, ctx', sB) ∧
      sB.mBoundAllocs = boundTable 1 (List.replicate 1 none) ∧
      ∃ st, binds.foldlM (fun st b => Bcc.setGlobalBind 4 exec b.1 b.2 st) (sB, fun _ => 0) = .ok st ∧
        getAllocationForPointer (Bcc.populateScript envB exec sB) st.1.mBoundAllocs mallocPtr (some 70) =
          .ok (boundAllocationFor 1 [some 9] binds mallocPtr 70)) ∧
    boundAllocationFor 1 [some 5] binds mallocPtr 70 = some 7 :=
  have hC := Compat.init_one_var
  have hB := Bcc.init_one_var
  ⟨⟨hC, getAllocationForPointer_finds_last_bind.1 false _ _ _ 0 0 _ _ 4 _ (fun _ => 0) _ 70 hC
      (by decide)⟩,
    ⟨hB, getAllocationForPointer_finds_last_bind.2 _ _ _ _ _ _ 4 _ (fun _ => 0) _ 70 rfl hB
      (by decide)⟩, rfl⟩

/-- **`setGlobalBind` writes the storage pointer of the last bound allocation, in both
builds.** Take a successful `init` of a new object: in the full build, with an executable
that has an address per exported variable. Any sequence of `setGlobalBind(slot, a)` with
`slot` below the variable count succeeds. When the variables, each of a pointer's
`ptrSize` bytes, lie apart, each variable whose address resolved then holds the bytes of
the storage pointer that the allocation last bound to it had at that bind, of NULL if that
bind unbound it, or its old bytes if it was never bound, and every byte outside the
variables keeps its value. -/
theorem setGlobalBind_writes_storage_pointer :
    (∀ (aborts : Bool) (env : Compat.LoadEnv) (ctx ctx' : Ctx) (v f : Nat)
      (s : Compat.RsdCpuScriptImpl) (ptrSize : Nat) (binds : List (Nat × Option AllocRef))
      (g : Memory),
      Compat.init aborts env ctx (Compat.RsdCpuScriptImpl.construct v f) = .ok (true, ctx', s) →
      (∀ b ∈ binds, b.1 < s.mExportedVariableCount) →
      Separate ((s.mFieldAddress.map HeapArray.cells).getD []) (fun _ => ptrSize) →
      ∃ st, binds.foldlM (fun st b => Compat.setGlobalBind ptrSize b.1 b.2 st) (s, g) = .ok st ∧
        GlobalsAfter ptrSize ((s.mFieldAddress.map HeapArray.cells).getD []) binds g st.2) ∧
    (∀ (cfg : Bcc.BuildConfig) (env : Bcc.BccEnv) (exec : Bcc.ExecutableInfo) (ctx ctx' : Ctx)
      (s : Bcc.RsdCpuScriptImpl) (ptrSize : Nat) (binds : List (Nat × Option AllocRef)) (g : Memory),
      exec.exportVarAddrs.length = env.exportVarCount →
      Bcc.init cfg env ctx Bcc.RsdCpuScriptImpl.construct = .ok (true, ctx', s) →
      (∀ b ∈ binds, b.1 < env.exportVarCount) →
      Separate exec.exportVarAddrs (fun _ => ptrSize) →
      ∃ st, binds.foldlM (fun st b => Bcc.setGlobalBind ptrSize exec b.1 b.2 st) (s, g) = .ok st ∧
        GlobalsAfter ptrSize exec.exportVarAddrs binds g st.2) :=
  ⟨fun _ _ _ _ _ _ _ ptrSize binds g h hb hsep =>
      let ⟨st, e, _, hg⟩ := Compat.setGlobalBind_run ptrSize h binds hb g
      ⟨st, e, hg hsep⟩,
    fun _ _ exec _ _ _ ptrSize binds g hexec h hb hsep =>
      let ⟨st, e, _, hg⟩ := Bcc.setGlobalBind_run ptrSize exec hexec h binds hb g
      ⟨st, e, hg hsep⟩⟩

/-- The one variable of each build, with pointers of four bytes, bound to allocation 7
whose storage is at 70: the variable's global then holds 70, and reads back as 70. -/
theorem setGlobalBind_writes_storage_pointer_one_var :
    let binds : List (Nat × Option AllocRef) := [(0, some ⟨7, some 70⟩)]
    let exec : Bcc.ExecutableInfo := ⟨⟨[], []⟩, 0, 0, [], [], [some 9]⟩
    (∃ st, binds.foldlM (fun st b => Compat.setGlobalBind 4 b.1 b.2 st)
        ({ Compat.RsdCpuScriptImpl.construct 1 0 with
          mScriptSO := some ⟨1, true⟩, mRoot := some 5, mRootExpand := some 5, mInit := some 5,
          mFreeChildren := some 5, mFieldAddress := some ⟨[some 5], true⟩,
          mFieldIsObject := some ⟨[false], true⟩, mBoundAllocs := some ⟨[none], true⟩ },
          fun _ => 0) = .ok st ∧
      GlobalsAfter 4 [some 5] binds (fun _ => 0) st.2 ∧ st.2.loadPtr 4 5 = 70) ∧
    (∃ st, binds.foldlM (fun st b => Bcc.setGlobalBind 4 exec b.1 b.2 st)
        ({ Bcc.RsdCpuScriptImpl.construct with
          mCompilerContext := true, mCompilerDriver := true, mExecutable := some 7,
          mBoundAllocs := some ⟨[none], true⟩ }, fun _ => 0) = .ok st ∧
      GlobalsAfter 4 [some 9] binds (fun _ => 0) st.2 ∧ st.2.loadPtr 4 9 = 70) := by
  intro binds exec
  have hsep : ∀ d, Separate [some d] fun _ => 4 := fun d i j a b hij hi hj => by
    cases i <;> cases j <;> simp_all
  obtain ⟨st, e, hg⟩ := setGlobalBind_writes_storage_pointer.1 false _ _ _ 0 0 _ 4 binds (fun _ => 0)
    Compat.init_one_var (by decide) (hsep 5)
  obtain ⟨st', e', hg'⟩ := setGlobalBind_writes_storage_pointer.2 _ _ exec _ _ _ 4 binds (fun _ => 0)
    (by rfl) Bcc.init_one_var (by decide) (hsep 9)
  exact ⟨⟨st, e, hg, by rw [Memory.loadPtr, hg.bound 0 5 rfl]; rfl⟩,
    st', e', hg', by rw [Memory.loadPtr, hg'.bound 0 9 rfl]; rfl⟩

end RsCpuScript
