import RsCpuScript.Bind
import RsCpuScript.Invoke

/-!
# The entry-point tables `init` leaves

`invokeFunction(slot)` calls `mInvokeFunctions[slot]` without checking `slot` and
without checking the pointer. What keeps it safe is the function section of `init`:
`mInvokeFunctions` gets a cell per exported function, and a NULL from `dlsym` for any
of their names makes `init` fail. So after a successful `init` every cell below
`mExportedFunctionCount` holds an address `dlsym` returned (`FuncTable`), and
`invokeFunction` calls native code exactly for those slots
(`invokeFunction_after_init`). Past the count the read is out of bounds, or through
NULL when the script exports no function.

The kernel tables are filled the same way, except that a NULL kernel is accepted at
slot 0 and the kernel count is not kept. Only the descriptor knows the count, so the
tables are tied to its lines: `advance` follows the cursor of `strgets` along the
parse, and `lineAt mem j` is the `j`-th line it reads. After the count lines and names of
the variables and the functions comes the kernel section's count line, which gives the
length of both tables, and each slot holds the signature and the `dlsym` of the token
with `.expand` of the line that follows it by the slot's number (`KernelTables`). So
`forEachKernelSetup` hands on the kernel of the slot's line below the count, and reads
out of bounds at or past it (`forEachKernelSetup_after_init`). Together with what
`forEachMtlsSetup` does with the buffers, `invokeForEach` on a slot past 0 hands
`launchThreads` that kernel and, for a domain that is not empty, the buffers' storage
(`invokeForEach_after_init`).

Each table is set up by one section and left alone by the others. Each loop and section
of `init` has a footprint lemma naming the fields it may change, and `parseInfo_eq_true`
splits a successful parse into its sections, so a table is carried from the section
that fills it to the end of the parse.
-/

namespace RsCpuScript

namespace Compat

variable {env : LoadEnv}

/-! ## What each section may change -/

/-- A successful `init` is a successful parse of `.rs.info`, once the library is loaded. -/
theorem init_eq_true {aborts : Bool} {ctx ctx' : Ctx} {self s : RsdCpuScriptImpl}
    (h : init aborts env ctx self = .ok (true, ctx', s)) :
    ∃ so st, env.so = some so ∧ parseInfo aborts env (initParse env self so) = .ok (true, st) ∧
      s = st.self := by
  cases hso : env.so with
  | none =>
    simp only [init, hso] at h
    exact absurd (initError_result h).1 (by decide)
  | some so =>
    rw [init_of_so aborts env hso] at h
    obtain ⟨⟨go, st⟩, e, h⟩ := Exec.bind_eq_ok.mp h
    cases go
    · exact absurd (initError_result h).1 (by decide)
    · simp only [if_true, Exec.pure_eq, Exec.ok.injEq, Prod.mk.injEq, true_and] at h
      exact ⟨so, st, rfl, e, h.2.symm⟩

/-- **A successful parse is four successful sections**, then the `new[]` of
`mBoundAllocs`, which succeeded. -/
theorem parseInfo_eq_true {aborts : Bool} {st st' : Parse}
    (e : parseInfo aborts env st = .ok (true, st')) :
    ∃ s1 s2 s3 s4, varSection env st = .ok (true, s1) ∧ funcSection env s1 = .ok (true, s2) ∧
      forEachSection env s2 = .ok (true, s3) ∧ slotSection aborts env s3 = .ok (true, s4) ∧
      st' = if 0 < s4.varCount then
        s4.update ({ · with mBoundAllocs := HeapArray.new true s4.varCount none }) else s4 := by
  simp only [parseInfo, Exec.bind_eq_ok] at e
  obtain ⟨⟨b1, s1⟩, e1, e⟩ := e
  cases b1 <;> simp only [Bool.not_false, Bool.not_true, if_true, Exec.pure_eq, Exec.ok.injEq,
    Prod.mk.injEq, Bool.false_eq_true, false_and, if_false, Exec.bind_eq_ok] at e
  obtain ⟨_, -, ⟨b2, s2⟩, e2, e⟩ := e
  cases b2 <;> simp only [Bool.not_false, Bool.not_true, if_true, Exec.pure_eq, Exec.ok.injEq,
    Prod.mk.injEq, Bool.false_eq_true, false_and, if_false, Exec.bind_eq_ok] at e
  obtain ⟨_, -, ⟨b3, s3⟩, e3, e⟩ := e
  cases b3 <;> simp only [Bool.not_false, Bool.not_true, if_true, Exec.pure_eq, Exec.ok.injEq,
    Prod.mk.injEq, Bool.false_eq_true, false_and, if_false, Exec.bind_eq_ok] at e
  obtain ⟨_, -, ⟨b4, s4⟩, e4, e⟩ := e
  cases b4 <;> simp only [Bool.not_false, Bool.not_true, if_true, Exec.pure_eq, Exec.ok.injEq,
    Prod.mk.injEq, Bool.false_eq_true, false_and, if_false] at e
  refine ⟨s1, s2, s3, s4, e1, e2, e3, e4, ?_⟩
  split_ifs at e with hv
  · cases ha : env.newOk .boundAllocs <;> simp only [HeapArray.new, ha, if_true,
      Bool.false_eq_true, if_false, Exec.ok_bind, Exec.pure_eq, Exec.ok.injEq, Prod.mk.injEq,
      true_and] at e
    · cases e
    · rw [if_pos hv, ← e]; rfl
  · simp only [Exec.ok_bind, Exec.pure_eq, Exec.ok.injEq, Prod.mk.injEq, true_and] at e
    rw [if_neg hv, e]

/-- The variable loop writes only `mFieldAddress`. -/
theorem varLoop_footprint : ∀ (k i : Nat) (st st' : Parse), varLoop env k i st = .ok (true, st') →
    ∃ fa, st'.self = { st.self with mFieldAddress := fa }
  | 0, _, st, st', e => by
    simp only [varLoop, Exec.pure_eq, Exec.ok.injEq, Prod.mk.injEq, true_and] at e
    exact ⟨st.self.mFieldAddress, by rw [← e]⟩
  | k + 1, i, st, st', e => by
    simp only [varLoop, Exec.bind_eq_ok] at e
    obtain ⟨o, ho, e⟩ := e
    rcases o with _ | ⟨st1, nm⟩
    · simp at e
    simp only [Exec.bind_eq_ok] at e
    obtain ⟨fa, -, e⟩ := e
    obtain ⟨fa', h⟩ := varLoop_footprint k (i + 1) _ st' e
    exact ⟨fa', by rw [h, ← (Parse.name_frame ho).1]; rfl⟩

/-- The variable section writes only the count, `mFieldIsObject` and `mFieldAddress`. -/
theorem varSection_footprint {st st' : Parse} (e : varSection env st = .ok (true, st')) :
    ∃ c io fa, st'.self =
      { st.self with mExportedVariableCount := c, mFieldIsObject := io, mFieldAddress := fa } := by
  simp only [varSection, Exec.bind_eq_ok] at e
  obtain ⟨o, ho, e⟩ := e
  rcases o with _ | ⟨st1, n⟩
  · simp at e
  have s1 := (Parse.count_frame ho).1
  dsimp only at e
  split_ifs at e
  · simp at e
  · simp at e
  · obtain ⟨fa, h⟩ := varLoop_footprint n 0 _ st' e
    exact ⟨n, _, fa, by rw [h, ← s1]; rfl⟩
  · simp only [Exec.pure_eq, Exec.ok.injEq, Prod.mk.injEq, true_and] at e
    exact ⟨n, st.self.mFieldIsObject, st.self.mFieldAddress, by rw [← e, ← s1]; rfl⟩

/-- The function loop writes only `mInvokeFunctions`. -/
theorem funcLoop_footprint : ∀ (k i : Nat) (st st' : Parse), funcLoop env k i st = .ok (true, st') →
    ∃ fs, st'.self = { st.self with mInvokeFunctions := fs }
  | 0, _, st, st', e => by
    simp only [funcLoop, Exec.pure_eq, Exec.ok.injEq, Prod.mk.injEq, true_and] at e
    exact ⟨_, by rw [← e]⟩
  | k + 1, i, st, st', e => by
    simp only [funcLoop, Exec.bind_eq_ok] at e
    obtain ⟨o, ho, e⟩ := e
    rcases o with _ | ⟨st1, nm⟩
    · simp at e
    simp only [Exec.bind_eq_ok] at e
    obtain ⟨fs, -, e⟩ := e
    split at e
    · simp at e
    · obtain ⟨fs', h⟩ := funcLoop_footprint k (i + 1) _ st' e
      exact ⟨fs', by rw [h, ← (Parse.name_frame ho).1]; rfl⟩

/-- The function section writes only the function count and `mInvokeFunctions`. -/
theorem funcSection_footprint {st st' : Parse} (e : funcSection env st = .ok (true, st')) :
    ∃ c fs, st'.self = { st.self with mExportedFunctionCount := c, mInvokeFunctions := fs } := by
  simp only [funcSection, Exec.bind_eq_ok] at e
  obtain ⟨o, ho, e⟩ := e
  rcases o with _ | ⟨st1, n⟩
  · simp at e
  have s1 := (Parse.count_frame ho).1
  dsimp only at e
  split_ifs at e
  · simp at e
  · obtain ⟨fs, h⟩ := funcLoop_footprint n 0 _ st' e
    exact ⟨n, fs, by rw [h, ← s1]; rfl⟩
  · simp only [Exec.pure_eq, Exec.ok.injEq, Prod.mk.injEq, true_and] at e
    exact ⟨n, _, by rw [← e, ← s1]; rfl⟩

/-- The kernel loop writes only the two kernel tables. -/
theorem forEachLoop_footprint : ∀ (k i : Nat) (st st' : Parse),
    forEachLoop env k i st = .ok (true, st') →
    ∃ sigs fns, st'.self = { st.self with mForEachSignatures := sigs, mForEachFunctions := fns }
  | 0, _, st, st', e => by
    simp only [forEachLoop, Exec.pure_eq, Exec.ok.injEq, Prod.mk.injEq, true_and] at e
    exact ⟨_, _, by rw [← e]⟩
  | k + 1, i, st, st', e => by
    simp only [forEachLoop, Exec.bind_eq_ok] at e
    obtain ⟨o, ho, e⟩ := e
    rcases o with _ | st1
    · simp at e
    simp only [Exec.bind_eq_ok] at e
    obtain ⟨w, -, e⟩ := e
    split at e
    · simp only [Exec.bind_eq_ok] at e
      obtain ⟨_, -, _, -, _, -, _, -, e⟩ := e
      split at e
      · simp at e
      · obtain ⟨sigs, fns, h⟩ := forEachLoop_footprint k (i + 1) _ st' e
        exact ⟨sigs, fns, by rw [h, ← (Parse.nextLine_frame ho).1]; rfl⟩
    · simp at e

/-- The kernel section writes only the two kernel tables. -/
theorem forEachSection_footprint {st st' : Parse} (e : forEachSection env st = .ok (true, st')) :
    ∃ sigs fns, st'.self = { st.self with mForEachSignatures := sigs, mForEachFunctions := fns } := by
  simp only [forEachSection, Exec.bind_eq_ok] at e
  obtain ⟨o, ho, e⟩ := e
  rcases o with _ | ⟨st1, n⟩
  · simp at e
  have s1 := (Parse.count_frame ho).1
  dsimp only at e
  split_ifs at e
  · simp at e
  · simp at e
  · obtain ⟨sigs, fns, h⟩ := forEachLoop_footprint n 0 _ st' e
    exact ⟨sigs, fns, by rw [h, ← s1]; rfl⟩
  · simp only [Exec.pure_eq, Exec.ok.injEq, Prod.mk.injEq, true_and] at e
    exact ⟨_, _, by rw [← e, ← s1]⟩

/-- The object-slot loop writes only `mFieldIsObject`. -/
theorem slotLoop_footprint : ∀ (k : Nat) (st st' : Parse), slotLoop env k st = .ok (true, st') →
    ∃ io, st'.self = { st.self with mFieldIsObject := io }
  | 0, st, st', e => by
    simp only [slotLoop, Exec.pure_eq, Exec.ok.injEq, Prod.mk.injEq, true_and] at e
    exact ⟨_, by rw [← e]⟩
  | k + 1, st, st', e => by
    simp only [slotLoop, Exec.bind_eq_ok] at e
    obtain ⟨o, ho, e⟩ := e
    rcases o with _ | st1
    · simp at e
    simp only [Exec.bind_eq_ok] at e
    obtain ⟨w, -, e⟩ := e
    have s1 := (Parse.nextLine_frame ho).1
    split at e
    · split at e
      · simp only [Exec.bind_eq_ok] at e
        obtain ⟨_, -, e⟩ := e
        obtain ⟨io, h⟩ := slotLoop_footprint k _ st' e
        exact ⟨io, by rw [h, ← s1]; rfl⟩
      · obtain ⟨io, h⟩ := slotLoop_footprint k _ st' e
        exact ⟨io, by rw [h, ← s1]⟩
    · simp at e

/-- The object-slot section writes only `mFieldIsObject`. -/
theorem slotSection_footprint {aborts : Bool} {st st' : Parse}
    (e : slotSection aborts env st = .ok (true, st')) :
    ∃ io, st'.self = { st.self with mFieldIsObject := io } := by
  simp only [slotSection, Exec.bind_eq_ok] at e
  obtain ⟨o, ho, e⟩ := e
  rcases o with _ | ⟨st1, n⟩
  · simp at e
  have s1 := (Parse.count_frame ho).1
  dsimp only at e
  split_ifs at e
  · simp only [Exec.bind_eq_ok] at e
    obtain ⟨_, -, e⟩ := e
    obtain ⟨io, h⟩ := slotLoop_footprint n _ st' e
    exact ⟨io, by rw [h, ← s1]⟩
  · simp only [Exec.pure_eq, Exec.ok.injEq, Prod.mk.injEq, true_and] at e
    exact ⟨_, by rw [← e, ← s1]⟩

/-! ## The function table -/

/-- **The function table of a loaded script**, as `invokeFunction` reads it: each slot
below `mExportedFunctionCount` holds a non-NULL address that `dlsym` returned for some
name, and a read at or past the count is undefined behaviour. -/
def FuncTable (env : LoadEnv) (s : RsdCpuScriptImpl) : Prop :=
  ∀ slot, (slot < s.mExportedFunctionCount → ∃ name fn, env.dlsym name = some fn ∧
      HeapArray.read s.mInvokeFunctions slot = .ok (some fn)) ∧
    (s.mExportedFunctionCount ≤ slot → ∃ e, HeapArray.read s.mInvokeFunctions slot = .fault e)

/-- The function table while the function loop fills it: live with a cell per exported
function, the first `i` of them addresses that `dlsym` returned. -/
def FuncsUpTo (env : LoadEnv) (i : Nat) (s : RsdCpuScriptImpl) : Prop :=
  ∃ cells, s.mInvokeFunctions = some ⟨cells, true⟩ ∧ cells.length = s.mExportedFunctionCount ∧
    ∀ j < i, ∃ name fn, env.dlsym name = some fn ∧ cells[j]? = some (some fn)

/-- A script that exports no function and has no table reads every slot through NULL. -/
theorem FuncTable.of_none {s : RsdCpuScriptImpl} (hc : s.mExportedFunctionCount = 0)
    (hf : s.mInvokeFunctions = none) : FuncTable env s := fun slot =>
  ⟨fun hs => absurd hs (by omega), fun _ => ⟨_, by rw [hf]; rfl⟩⟩

/-- A table filled to the count is the function table. -/
theorem FuncsUpTo.table {s : RsdCpuScriptImpl} (h : FuncsUpTo env s.mExportedFunctionCount s) :
    FuncTable env s := by
  obtain ⟨cells, hc, hl, hr⟩ := h
  refine fun slot => ⟨fun hs => ?_, fun hs => ⟨.outOfBounds, ?_⟩⟩
  · obtain ⟨nm, fn, h1, h2⟩ := hr slot hs
    exact ⟨nm, fn, h1, by simp [hc, HeapArray.read, List.get?_eq_getElem?, h2]⟩
  · simp [hc, HeapArray.read, List.get?_eq_getElem?, List.getElem?_eq_none (hl ▸ hs)]

/-- One turn of the function loop: a non-NULL address written at `i`. -/
theorem FuncsUpTo.write {i : Nat} {s : RsdCpuScriptImpl} (h : FuncsUpTo env i s) {nm : List Char}
    {fn : Nat} (hfn : env.dlsym nm = some fn) {fs : Option (HeapArray (Option Nat))}
    (hw : HeapArray.write s.mInvokeFunctions i (some fn) = .ok fs) :
    FuncsUpTo env (i + 1) { s with mInvokeFunctions := fs } := by
  obtain ⟨cells, hc, hi, rfl⟩ := HeapArray.write_eq_ok hw
  obtain ⟨cells', hc', hl, hr⟩ := h
  rw [hc, Option.some.injEq, HeapArray.mk.injEq] at hc'
  obtain ⟨rfl, -⟩ := hc'
  refine ⟨_, rfl, by simpa using hl, fun j hj => ?_⟩
  rcases Nat.lt_succ_iff_lt_or_eq.mp hj with hj | rfl
  · obtain ⟨nm', fn', h1, h2⟩ := hr j hj
    exact ⟨nm', fn', h1, by rw [List.getElem?_set, if_neg (by omega), h2]⟩
  · exact ⟨nm, fn, hfn, by simp [List.getElem?_set, hi]⟩

/-- **The function loop resolves every function**: from `i` with `k` names left, when
they reach the count, a successful loop leaves the table filled. -/
theorem funcLoop_resolves : ∀ (k i : Nat) (st st' : Parse), FuncsUpTo env i st.self →
    i + k = st.self.mExportedFunctionCount → funcLoop env k i st = .ok (true, st') →
    FuncsUpTo env st'.self.mExportedFunctionCount st'.self
  | 0, i, st, st', h, hk, e => by
    simp only [funcLoop, Exec.pure_eq, Exec.ok.injEq, Prod.mk.injEq, true_and] at e
    exact e ▸ hk ▸ h
  | k + 1, i, st, st', h, hk, e => by
    simp only [funcLoop, Exec.bind_eq_ok] at e
    obtain ⟨o, ho, e⟩ := e
    rcases o with _ | ⟨st1, nm⟩
    · simp at e
    simp only [Exec.bind_eq_ok] at e
    obtain ⟨fs, hfs, e⟩ := e
    have s1 := (Parse.name_frame ho).1
    split at e
    · simp at e
    · obtain ⟨fn, hfn⟩ := Option.ne_none_iff_exists'.mp ‹_›
      rw [hfn] at hfs
      rw [← s1] at h hk
      have h' := h.write hfn hfs
      exact funcLoop_resolves k (i + 1) _ st' h'
        (by show i + 1 + k = st1.self.mExportedFunctionCount; omega) e

/-- **The function section leaves the function table**, on an object that has none. -/
theorem funcSection_table {st st' : Parse} (h0 : st.self.mInvokeFunctions = none)
    (e : funcSection env st = .ok (true, st')) : FuncTable env st'.self := by
  simp only [funcSection, Exec.bind_eq_ok] at e
  obtain ⟨o, ho, e⟩ := e
  rcases o with _ | ⟨st1, n⟩
  · simp at e
  have s1 := (Parse.count_frame ho).1
  dsimp only at e
  split_ifs at e with hn h2
  · simp at e
  · refine (funcLoop_resolves n 0 _ st' ⟨List.replicate n none, ?_, by simp [Parse.update],
      fun j hj => absurd hj (Nat.not_lt_zero j)⟩ (by simp [Parse.update]) e).table
    cases ha : env.newOk .invokeFunctions
    · simp [Parse.update, HeapArray.new, ha] at h2
    · simp [Parse.update, HeapArray.new, ha]
  · simp only [Exec.pure_eq, Exec.ok.injEq, Prod.mk.injEq, true_and] at e
    subst e
    exact FuncTable.of_none (by simp [Parse.update]; omega) (by simpa [Parse.update, s1] using h0)

/-- **A successful parse leaves the function table**, on an object that has none. -/
theorem parseInfo_table {aborts : Bool} {st st' : Parse} (h0 : st.self.mInvokeFunctions = none)
    (e : parseInfo aborts env st = .ok (true, st')) : FuncTable env st'.self := by
  obtain ⟨s1, s2, s3, s4, e1, e2, e3, e4, rfl⟩ := parseInfo_eq_true e
  obtain ⟨c, io, fa, h1⟩ := varSection_footprint e1
  obtain ⟨sigs, fns, h3⟩ := forEachSection_footprint e3
  obtain ⟨io', h4⟩ := slotSection_footprint e4
  have ht : FuncTable env s4.self := by
    rw [h4, h3]
    exact funcSection_table (by rw [h1]; exact h0) e2
  split_ifs
  exacts [ht, ht]

/-- **A successful `init` of a new object leaves the function table.** -/
theorem init_table {aborts : Bool} {ctx ctx' : Ctx} {v f : Nat} {s : RsdCpuScriptImpl}
    (h : init aborts env ctx (RsdCpuScriptImpl.construct v f) = .ok (true, ctx', s)) :
    FuncTable env s := by
  obtain ⟨so, st, -, e, rfl⟩ := init_eq_true h
  exact parseInfo_table rfl e

/-! ## `invokeFunction` after `init` -/

/-- **After `init`, `invokeFunction` calls native code exactly for the exported slots.**
On a new object, for every descriptor and every outcome of the external calls, a
successful `init` leaves for each slot below `mExportedFunctionCount` a non-NULL address
that `dlsym` returned, and `invokeFunction` calls it with the thread-local set. At or
past the count, a slot `invokeFunction` does not check, the call is undefined
behaviour. -/
theorem invokeFunction_after_init {aborts : Bool} {ctx ctx' : Ctx} {v f : Nat}
    {s : RsdCpuScriptImpl}
    (h : init aborts env ctx (RsdCpuScriptImpl.construct v f) = .ok (true, ctx', s)) (slot : Nat) :
    (slot < s.mExportedFunctionCount → ∃ name fn, env.dlsym name = some fn ∧
      ∀ this native c, s.invokeFunction this slot native c = withTLS this (native fn) c) ∧
    (s.mExportedFunctionCount ≤ slot →
      ∃ e, ∀ this native c, s.invokeFunction this slot native c = .fault e) := by
  obtain ⟨hlt, hge⟩ := init_table h slot
  refine ⟨fun hs => ?_, fun hs => ?_⟩
  · obtain ⟨nm, fn, hfn, hr⟩ := hlt hs
    exact ⟨nm, fn, hfn, fun this native c => by
      simp only [RsdCpuScriptImpl.invokeFunction, hr, Exec.ok_bind, callPtr]⟩
  · obtain ⟨e, hr⟩ := hge hs
    exact ⟨e, fun this native c => by
      simp only [RsdCpuScriptImpl.invokeFunction, withTLS, hr, Exec.fault_bind]⟩

/-- A descriptor that exports one function `f`, which `dlsym` finds at address 7: slot 0
calls it, slot 1 is past the table. -/
theorem invokeFunction_after_init_one_func :
    let envF : LoadEnv := ⟨some 1, fun n => if n = ['f'] then some 7 else none,
      some (memOf ("exportVarCount: 0\nexportFuncCount: 1\nf\nexportForEachCount: 0\n" ++
        "objectSlotCount: 0\n").toList), fun _ => true, fun _ => 'x'⟩
    let s : RsdCpuScriptImpl := { RsdCpuScriptImpl.construct 0 1 with
      mScriptSO := some ⟨1, true⟩, mInvokeFunctions := some ⟨[some 7], true⟩ }
    init false envF ⟨[], [], [], none⟩ (RsdCpuScriptImpl.construct 0 0) =
        .ok (true, ⟨[.lock, .unlock], [], [], none⟩, s) ∧
      (∃ name fn, envF.dlsym name = some fn ∧
        ∀ this native c, s.invokeFunction this 0 native c = withTLS this (native fn) c) ∧
      ∃ e, ∀ this native c, s.invokeFunction this 1 native c = .fault e := by
  intro envF s
  have h : init false envF ⟨[], [], [], none⟩ (RsdCpuScriptImpl.construct 0 0) =
      .ok (true, ⟨[.lock, .unlock], [], [], none⟩, s) := by decide
  exact ⟨h, (invokeFunction_after_init h 0).1 (by decide),
    (invokeFunction_after_init h 1).2 (by decide)⟩

/-! ## The lines the parse reads -/

/-- The cursor after `k` calls of `strgets(line, MAXLINE, &rsInfo)` from the cursor `p`. -/
def advance (mem : Mem) : Nat → Nat → Nat
  | 0, p => p
  | k + 1, p => advance mem k (gets mem (maxLine - 1) p).2

/-- **The `j`-th line of the descriptor**, counting from 0: what the call of
`strgets(line, MAXLINE, &rsInfo)` that follows `j` others from its start copies. -/
def lineAt (mem : Mem) (j : Nat) : List Char := (gets mem (maxLine - 1) (advance mem j 0)).1

theorem advance_add (mem : Mem) : ∀ (a b p : Nat), advance mem (a + b) p = advance mem b (advance mem a p)
  | 0, b, p => by rw [Nat.zero_add]; rfl
  | a + 1, b, p => by rw [Nat.add_right_comm, advance, advance, advance_add mem a b]

theorem str_gets {b : CharBuf} (hcap : b.cap = maxLine) (mem : Mem) (p : Nat) :
    (b.fill 0 ((gets mem (maxLine - 1) p).1 ++ ['\x00'])).str = .ok (gets mem (maxLine - 1) p).1 :=
  str_line_of_le hcap (nul_not_mem_gets mem _ p) (gets_length_le mem _ p)

section Lines

variable {mem : Mem}

/-- **`strgets` on the descriptor**: a line read from the cursor is what `gets` copies,
and the cursor moves where `gets` leaves it. -/
theorem Parse.nextLine_gets (hinfo : env.rsInfo = some mem) {st st' : Parse}
    (hcap : st.line.cap = maxLine) (h : st.nextLine env = .ok (some st')) :
    st' = { st with
      line := st.line.fill 0 ((gets mem (maxLine - 1) st.pos).1 ++ ['\x00'])
      pos := (gets mem (maxLine - 1) st.pos).2 } := by
  unfold Parse.nextLine at h
  rw [hinfo] at h
  by_cases hf : NulFree mem st.pos
  · rw [checkCursor_some hf, Exec.ok_bind] at h
    by_cases hp : mem st.pos = '\x00'
    · simp [strgets, hp] at h
    · simp only [strgets_eq st.line maxLine mem st.pos (by decide) hcap.ge hp, Exec.ok_bind,
        Exec.pure_eq, Exec.ok.injEq, Option.some.injEq] at h
      exact h.symm
  · rw [checkCursor_some_of_not hf] at h
    cases h

/-- A count line read moves the cursor past one line, whose count it is. -/
theorem Parse.count_gets (hinfo : env.rsInfo = some mem) {st st' : Parse} {key : String} {n : Nat}
    (hcap : st.line.cap = maxLine) (h : st.count env key = .ok (some (st', n))) :
    st'.line.cap = maxLine ∧ st'.pos = (gets mem (maxLine - 1) st.pos).2 ∧
      sscanf (countFmt key) (gets mem (maxLine - 1) st.pos).1 = [.num n] := by
  simp only [Parse.count, Exec.bind_eq_ok] at h
  obtain ⟨o, ho, h⟩ := h
  rcases o with _ | st1
  · simp at h
  obtain rfl := Parse.nextLine_gets hinfo hcap ho
  simp only [str_gets hcap, Exec.ok_bind] at h
  split at h
  · next n' hn =>
    simp only [Exec.pure_eq, Exec.ok.injEq, Option.some.injEq, Prod.mk.injEq] at h
    obtain ⟨rfl, rfl⟩ := h
    exact ⟨by simp [hcap], rfl, hn⟩
  · simp at h

/-- A name read moves the cursor past one line. -/
theorem Parse.name_gets (hinfo : env.rsInfo = some mem) {st st' : Parse} {nm : List Char}
    (hcap : st.line.cap = maxLine) (h : st.name env = .ok (some (st', nm))) :
    st'.line.cap = maxLine ∧ st'.pos = (gets mem (maxLine - 1) st.pos).2 := by
  simp only [Parse.name, Exec.bind_eq_ok] at h
  obtain ⟨o, ho, h⟩ := h
  rcases o with _ | st1
  · simp at h
  obtain rfl := Parse.nextLine_gets hinfo hcap ho
  simp only [str_gets hcap, Exec.ok_bind] at h
  split at h
  · simp only [Exec.bind_eq_ok] at h
    obtain ⟨line, hl, _, -, h⟩ := h
    simp only [Exec.pure_eq, Exec.ok.injEq, Option.some.injEq, Prod.mk.injEq] at h
    obtain ⟨rfl, -⟩ := h
    unfold CharBuf.set at hl
    split_ifs at hl
    cases hl
    exact ⟨by simp [hcap], rfl⟩
  · simp only [Exec.pure_eq, Exec.ok_bind, Exec.bind_eq_ok] at h
    obtain ⟨_, -, h⟩ := h
    simp only [Exec.pure_eq, Exec.ok.injEq, Option.some.injEq, Prod.mk.injEq] at h
    obtain ⟨rfl, -⟩ := h
    exact ⟨by simp [hcap], rfl⟩

/-- The variable loop reads one line per variable. -/
theorem varLoop_advance (hinfo : env.rsInfo = some mem) : ∀ (k i : Nat) (st st' : Parse),
    st.line.cap = maxLine → varLoop env k i st = .ok (true, st') →
    st'.line.cap = maxLine ∧ st'.pos = advance mem k st.pos
  | 0, _, st, st', hc, e => by
    simp only [varLoop, Exec.pure_eq, Exec.ok.injEq, Prod.mk.injEq, true_and] at e
    exact e ▸ ⟨hc, rfl⟩
  | k + 1, i, st, st', hc, e => by
    simp only [varLoop, Exec.bind_eq_ok] at e
    obtain ⟨o, ho, e⟩ := e
    rcases o with _ | ⟨st1, nm⟩
    · simp at e
    simp only [Exec.bind_eq_ok] at e
    obtain ⟨fa, -, e⟩ := e
    obtain ⟨c1, p1⟩ := Parse.name_gets hinfo hc ho
    obtain ⟨c', p'⟩ := varLoop_advance hinfo k (i + 1) _ st' (by exact c1) e
    exact ⟨c', by rw [p', advance, ← p1]; rfl⟩

/-- The function loop reads one line per function. -/
theorem funcLoop_advance (hinfo : env.rsInfo = some mem) : ∀ (k i : Nat) (st st' : Parse),
    st.line.cap = maxLine → funcLoop env k i st = .ok (true, st') →
    st'.line.cap = maxLine ∧ st'.pos = advance mem k st.pos
  | 0, _, st, st', hc, e => by
    simp only [funcLoop, Exec.pure_eq, Exec.ok.injEq, Prod.mk.injEq, true_and] at e
    exact e ▸ ⟨hc, rfl⟩
  | k + 1, i, st, st', hc, e => by
    simp only [funcLoop, Exec.bind_eq_ok] at e
    obtain ⟨o, ho, e⟩ := e
    rcases o with _ | ⟨st1, nm⟩
    · simp at e
    simp only [Exec.bind_eq_ok] at e
    obtain ⟨fs, -, e⟩ := e
    split at e
    · simp at e
    obtain ⟨c1, p1⟩ := Parse.name_gets hinfo hc ho
    obtain ⟨c', p'⟩ := funcLoop_advance hinfo k (i + 1) _ st' (by exact c1) e
    exact ⟨c', by rw [p', advance, ← p1]; rfl⟩

/-- **The variable section reads its count line and a line per variable**, and leaves
the count in `mExportedVariableCount`. -/
theorem varSection_advance (hinfo : env.rsInfo = some mem) {st st' : Parse}
    (hc : st.line.cap = maxLine) (e : varSection env st = .ok (true, st')) :
    st'.line.cap = maxLine ∧
      st'.pos = advance mem (1 + st'.self.mExportedVariableCount) st.pos := by
  simp only [varSection, Exec.bind_eq_ok] at e
  obtain ⟨o, ho, e⟩ := e
  rcases o with _ | ⟨st1, n⟩
  · simp at e
  obtain ⟨c1, p1, -⟩ := Parse.count_gets hinfo hc ho
  dsimp only at e
  split_ifs at e
  · simp at e
  · simp at e
  · obtain ⟨fa, hs⟩ := varLoop_footprint n 0 _ st' e
    obtain ⟨c', p'⟩ := varLoop_advance hinfo n 0 _ st' (by exact c1) e
    have hn : st'.self.mExportedVariableCount = n := by rw [hs]; rfl
    refine ⟨c', ?_⟩
    rw [p', hn, advance_add]
    show advance mem n st1.pos = _
    rw [p1]
    rfl
  · simp only [Exec.pure_eq, Exec.ok.injEq, Prod.mk.injEq, true_and] at e
    subst e
    obtain rfl : n = 0 := by omega
    exact ⟨c1, p1⟩

/-- **The function section reads its count line and a line per function**, and leaves
the count in `mExportedFunctionCount`. -/
theorem funcSection_advance (hinfo : env.rsInfo = some mem) {st st' : Parse}
    (hc : st.line.cap = maxLine) (e : funcSection env st = .ok (true, st')) :
    st'.line.cap = maxLine ∧
      st'.pos = advance mem (1 + st'.self.mExportedFunctionCount) st.pos := by
  simp only [funcSection, Exec.bind_eq_ok] at e
  obtain ⟨o, ho, e⟩ := e
  rcases o with _ | ⟨st1, n⟩
  · simp at e
  obtain ⟨c1, p1, -⟩ := Parse.count_gets hinfo hc ho
  dsimp only at e
  split_ifs at e
  · simp at e
  · obtain ⟨fs, hs⟩ := funcLoop_footprint n 0 _ st' e
    obtain ⟨c', p'⟩ := funcLoop_advance hinfo n 0 _ st' (by exact c1) e
    have hn : st'.self.mExportedFunctionCount = n := by rw [hs]; rfl
    refine ⟨c', ?_⟩
    rw [p', hn, advance_add]
    show advance mem n st1.pos = _
    rw [p1]
    rfl
  · simp only [Exec.pure_eq, Exec.ok.injEq, Prod.mk.injEq, true_and] at e
    subst e
    obtain rfl : n = 0 := by omega
    exact ⟨c1, p1⟩

end Lines

/-! ## The kernel tables -/

/-- The name `forEachLoop` looks up for a kernel's token: the token, then as much of
`".expand"` as `MAXLINE - 1` characters leave room for (`expandName_eq`). -/
def expandedName (tok : List Char) : List Char :=
  tok ++ ".expand".toList.take (maxLine - 1 - tok.length)

/-- The number of kernels `init` allocated the kernel tables for, 0 when it allocated
none. -/
def RsdCpuScriptImpl.kernelCount (s : RsdCpuScriptImpl) : Nat :=
  (s.mForEachFunctions.map fun a => a.cells.length).getD 0

/-- **The kernel tables of a loaded script**, as `forEachKernelSetup` reads them, for a
kernel section whose count line is line `j` of the descriptor. That line gives the kernel
count, which `init` does not keep but allocated the tables for. Each slot below it holds
the signature the slot's line `j + 1 + slot` gives, and the address `dlsym` returned for
that line's token and `.expand`, non-NULL past slot 0; a read at or past the count is
undefined behaviour. -/
def KernelTables (env : LoadEnv) (mem : Mem) (j : Nat) (s : RsdCpuScriptImpl) : Prop :=
  sscanf (countFmt exportForEachStr) (lineAt mem j) = [.num s.kernelCount] ∧
  ∀ slot, (slot < s.kernelCount → ∃ sig tok,
      sscanf forEachFmt (lineAt mem (j + 1 + slot)) = [.num sig, .str tok] ∧
      HeapArray.read s.mForEachFunctions slot = .ok (env.dlsym (expandedName tok)) ∧
      (0 < slot → env.dlsym (expandedName tok) ≠ none) ∧
      HeapArray.read s.mForEachSignatures slot = .ok sig) ∧
    (s.kernelCount ≤ slot → ∃ e, HeapArray.read s.mForEachFunctions slot = .fault e)

/-- The kernel tables while the kernel loop fills them from the cursor `p`: both live with
`n` cells, the first `i` holding what the lines from `p` give. -/
def KernelsUpTo (env : LoadEnv) (mem : Mem) (p n i : Nat) (s : RsdCpuScriptImpl) : Prop :=
  ∃ fcells scells, s.mForEachFunctions = some ⟨fcells, true⟩ ∧
    s.mForEachSignatures = some ⟨scells, true⟩ ∧ fcells.length = n ∧ scells.length = n ∧
    ∀ k < i, ∃ sig tok,
      sscanf forEachFmt (gets mem (maxLine - 1) (advance mem k p)).1 = [.num sig, .str tok] ∧
      fcells[k]? = some (env.dlsym (expandedName tok)) ∧
      (0 < k → env.dlsym (expandedName tok) ≠ none) ∧ scells[k]? = some sig

section Kernels

variable {mem : Mem}

/-- A script with no kernel table, after a count line of 0, reads every kernel through
NULL. -/
theorem KernelTables.of_none {j : Nat} {s : RsdCpuScriptImpl} (hf : s.mForEachFunctions = none)
    (hn : sscanf (countFmt exportForEachStr) (lineAt mem j) = [.num 0]) : KernelTables env mem j s := by
  have h0 : s.kernelCount = 0 := by simp [RsdCpuScriptImpl.kernelCount, hf]
  refine ⟨h0 ▸ hn, fun slot => ⟨fun hs => absurd hs (by omega), fun _ => ⟨_, by rw [hf]; rfl⟩⟩⟩

/-- Tables filled to their length, from the line after the count line, are the kernel
tables. -/
theorem KernelsUpTo.tables {j n : Nat} {s : RsdCpuScriptImpl}
    (h : KernelsUpTo env mem (advance mem (j + 1) 0) n n s)
    (hn : sscanf (countFmt exportForEachStr) (lineAt mem j) = [.num n]) : KernelTables env mem j s := by
  obtain ⟨fc, sc, hf, hs, hfl, hsl, hr⟩ := h
  have hk : s.kernelCount = n := by simp [RsdCpuScriptImpl.kernelCount, hf, hfl]
  refine ⟨hk ▸ hn, fun slot => ⟨fun hlt => ?_, fun hge => ⟨.outOfBounds, ?_⟩⟩⟩
  · obtain ⟨sig, tok, hl, h1, h2, h3⟩ := hr slot (hk ▸ hlt)
    refine ⟨sig, tok, by rwa [lineAt, advance_add], ?_, h2, ?_⟩
    · simp [hf, HeapArray.read, List.get?_eq_getElem?, h1]
    · simp [hs, HeapArray.read, List.get?_eq_getElem?, h3]
  · simp [hf, HeapArray.read, List.get?_eq_getElem?, List.getElem?_eq_none (by omega : fc.length ≤ slot)]

/-- One turn of the kernel loop: the signature and the address a line gives written at
`i`, the address not NULL past slot 0. -/
theorem KernelsUpTo.write {p n i : Nat} {s : RsdCpuScriptImpl} (h : KernelsUpTo env mem p n i s)
    {sig : Nat} {tok : List Char}
    (hl : sscanf forEachFmt (gets mem (maxLine - 1) (advance mem i p)).1 = [.num sig, .str tok])
    (hnm : 0 < i → env.dlsym (expandedName tok) ≠ none)
    {sigs : Option (HeapArray Nat)} {fns : Option (HeapArray (Option Nat))}
    (hs : HeapArray.write s.mForEachSignatures i sig = .ok sigs)
    (hf : HeapArray.write s.mForEachFunctions i (env.dlsym (expandedName tok)) = .ok fns) :
    KernelsUpTo env mem p n (i + 1) { s with mForEachSignatures := sigs, mForEachFunctions := fns } := by
  obtain ⟨fc, hfc, hi, rfl⟩ := HeapArray.write_eq_ok hf
  obtain ⟨sc, hsc, hsi, rfl⟩ := HeapArray.write_eq_ok hs
  obtain ⟨fc', sc', hf', hs', hfl, hsl, hr⟩ := h
  rw [hfc, Option.some.injEq, HeapArray.mk.injEq] at hf'
  rw [hsc, Option.some.injEq, HeapArray.mk.injEq] at hs'
  obtain ⟨rfl, -⟩ := hf'
  obtain ⟨rfl, -⟩ := hs'
  refine ⟨_, _, rfl, rfl, by simpa using hfl, by simpa using hsl, fun k hk => ?_⟩
  rcases Nat.lt_succ_iff_lt_or_eq.mp hk with hk | rfl
  · obtain ⟨sig', tok', h1, h2, h3, h4⟩ := hr k hk
    exact ⟨sig', tok', h1, by rw [List.getElem?_set, if_neg (by omega), h2], h3,
      by rw [List.getElem?_set, if_neg (by omega), h4]⟩
  · exact ⟨sig, tok, hl, by simp [List.getElem?_set, hi], hnm, by simp [List.getElem?_set, hsi]⟩

/-- **The kernel loop fills the tables from the lines it reads**: from `i` with `k` lines
left, when they reach the length `n`, a successful loop leaves the tables filled, slot
`i` from the line `i` past the cursor `p`. -/
theorem forEachLoop_resolves (hinfo : env.rsInfo = some mem) {p n : Nat} : ∀ (k i : Nat) (st st' : Parse),
    KernelsUpTo env mem p n i st.self → st.line.cap = maxLine → st.pos = advance mem i p →
    i + k = n → forEachLoop env k i st = .ok (true, st') → KernelsUpTo env mem p n n st'.self
  | 0, i, st, st', h, _, _, hk, e => by
    simp only [forEachLoop, Exec.pure_eq, Exec.ok.injEq, Prod.mk.injEq, true_and] at e
    exact e ▸ hk ▸ h
  | k + 1, i, st, st', h, hc, hp, hk, e => by
    simp only [forEachLoop, Exec.bind_eq_ok] at e
    obtain ⟨o, ho, e⟩ := e
    rcases o with _ | st1
    · simp at e
    obtain rfl := Parse.nextLine_gets hinfo hc ho
    simp only [str_gets hc, Exec.ok_bind] at e
    split at e
    · next sig tok hsc =>
      obtain ⟨htl, hsub⟩ := sscanf_forEachFmt_token hsc
      have hlen := gets_length_le mem (maxLine - 1) st.pos
      obtain ⟨b, hb, hbstr⟩ := @expandName_eq env tok
        (fun hn => nul_not_mem_gets mem _ st.pos (hsub hn)) (by unfold maxLine at *; omega)
      simp only [hb, hbstr, Exec.ok_bind, Exec.bind_eq_ok] at e
      obtain ⟨sigs, hs, fns, hf, e⟩ := e
      split at e
      · simp at e
      · rename_i hnm
        rw [hp] at hsc
        have h' := h.write hsc (fun hi hn => hnm ⟨by omega, hn⟩) hs hf
        refine forEachLoop_resolves hinfo k (i + 1) _ st' h' ?_ ?_ (by omega) e
        · simp [Parse.update, hc]
        · rw [hp, advance_add]
          rfl
    · simp at e

/-- **The kernel section leaves the kernel tables**, on an object that has none, for a
section whose count line is line `j`. -/
theorem forEachSection_tables (hinfo : env.rsInfo = some mem) {j : Nat} {st st' : Parse}
    (h0 : st.self.mForEachFunctions = none) (hc : st.line.cap = maxLine)
    (hp : st.pos = advance mem j 0) (e : forEachSection env st = .ok (true, st')) :
    KernelTables env mem j st'.self := by
  simp only [forEachSection, Exec.bind_eq_ok] at e
  obtain ⟨o, ho, e⟩ := e
  rcases o with _ | ⟨st1, n⟩
  · simp at e
  have s1 := (Parse.count_frame ho).1
  obtain ⟨c1, p1, hn⟩ := Parse.count_gets hinfo hc ho
  rw [hp] at hn p1
  dsimp only at e
  split_ifs at e with hn0 h2 h3
  · simp at e
  · simp at e
  · refine (forEachLoop_resolves hinfo n 0 _ st' ⟨List.replicate n none, List.replicate n 0, ?_, ?_,
      by simp, by simp, fun j hj => absurd hj (Nat.not_lt_zero j)⟩ (by exact c1)
      (by rw [advance_add]; exact p1) (Nat.zero_add n) e).tables hn
    · cases ha : env.newOk .forEachFunctions
      · simp [Parse.update, HeapArray.new, ha] at h3
      · simp [Parse.update, HeapArray.new, ha]
    · cases ha : env.newOk .forEachSignatures
      · simp [Parse.update, HeapArray.new, ha] at h2
      · simp [Parse.update, HeapArray.new, ha]
  · simp only [Exec.pure_eq, Exec.ok.injEq, Prod.mk.injEq, true_and] at e
    subst e
    obtain rfl : n = 0 := by omega
    exact KernelTables.of_none (by rw [s1]; exact h0) hn

/-- **A successful parse leaves the kernel tables**, on an object that has none, with the
kernel section's count line after the count lines and names of the variables and the
functions. -/
theorem parseInfo_kernels (hinfo : env.rsInfo = some mem) {aborts : Bool} {st st' : Parse}
    (h0 : st.self.mForEachFunctions = none) (hc : st.line.cap = maxLine) (hp : st.pos = 0)
    (e : parseInfo aborts env st = .ok (true, st')) :
    KernelTables env mem (st'.self.mExportedVariableCount + st'.self.mExportedFunctionCount + 2)
      st'.self := by
  obtain ⟨s1, s2, s3, s4, e1, e2, e3, e4, rfl⟩ := parseInfo_eq_true e
  obtain ⟨c, io, fa, h1⟩ := varSection_footprint e1
  obtain ⟨c', fs, h2⟩ := funcSection_footprint e2
  obtain ⟨sigs, fns, h3⟩ := forEachSection_footprint e3
  obtain ⟨io', h4⟩ := slotSection_footprint e4
  obtain ⟨c1, p1⟩ := varSection_advance hinfo hc e1
  obtain ⟨c2, p2⟩ := funcSection_advance hinfo c1 e2
  have hv : s2.self.mExportedVariableCount = s1.self.mExportedVariableCount := by rw [h2]
  have ht : KernelTables env mem (s1.self.mExportedVariableCount + s2.self.mExportedFunctionCount + 2)
      s4.self := by
    rw [h4]
    refine forEachSection_tables hinfo (by rw [h2, h1]; exact h0) c2 ?_ e3
    rw [p2, p1, hp, ← advance_add]
    congr 1
    omega
  have hv4 : s4.self.mExportedVariableCount = s1.self.mExportedVariableCount := by rw [h4, h3, hv]
  have hf4 : s4.self.mExportedFunctionCount = s2.self.mExportedFunctionCount := by rw [h4, h3]
  split_ifs
  · exact hv4 ▸ hf4 ▸ ht
  · exact hv4 ▸ hf4 ▸ ht

/-- **A successful `init` of a new object leaves the kernel tables.** -/
theorem init_kernels (hinfo : env.rsInfo = some mem) {aborts : Bool} {ctx ctx' : Ctx} {v f : Nat}
    {s : RsdCpuScriptImpl}
    (h : init aborts env ctx (RsdCpuScriptImpl.construct v f) = .ok (true, ctx', s)) :
    KernelTables env mem (s.mExportedVariableCount + s.mExportedFunctionCount + 2) s := by
  obtain ⟨so, st, -, e, rfl⟩ := init_eq_true h
  exact parseInfo_kernels hinfo rfl rfl rfl e

end Kernels

/-! ## `forEachKernelSetup` after `init` -/

/-- **After `init`, `forEachKernelSetup` hands on the kernel of the slot's line.** On a
new object, for every descriptor and every outcome of the external calls, let `j` be the
line of the descriptor after the count lines and names of the variables and functions a
successful `init` read: the kernel section's count line, which gives the kernel count.
Below the count, `forEachKernelSetup` sets the signature the slot's line `j + 1 + slot`
gives, and the address `dlsym` returned for that line's token and `.expand`, which is not
NULL past slot 0; a NULL kernel at slot 0 stops the launch only where `rsAssert` aborts.
At or past the count, a slot nothing checks, the setup is undefined behaviour. -/
theorem forEachKernelSetup_after_init {aborts : Bool} {ctx ctx' : Ctx} {v f : Nat}
    {s : RsdCpuScriptImpl} {mem : Mem}
    (h : init aborts env ctx (RsdCpuScriptImpl.construct v f) = .ok (true, ctx', s))
    (hinfo : env.rsInfo = some mem) :
    let j := s.mExportedVariableCount + s.mExportedFunctionCount + 2
    sscanf (countFmt exportForEachStr) (lineAt mem j) = [.num s.kernelCount] ∧
    ∀ slot, (slot < s.kernelCount → ∃ sig tok,
        sscanf forEachFmt (lineAt mem (j + 1 + slot)) = [.num sig, .str tok] ∧
        (0 < slot → env.dlsym (expandedName tok) ≠ none) ∧
        ∀ this mtls, forEachKernelSetup aborts s this slot mtls =
          if (env.dlsym (expandedName tok)).isSome || !aborts then
            .ok { mtls with
                  script := some this
                  slot := slot
                  kernel := env.dlsym (expandedName tok)
                  sig := sig }
          else .abort) ∧
      (s.kernelCount ≤ slot → ∃ e, ∀ this mtls, forEachKernelSetup aborts s this slot mtls = .fault e) := by
  obtain ⟨hn, ht⟩ := init_kernels hinfo h
  refine ⟨hn, fun slot => ⟨fun hs => ?_, fun hs => ?_⟩⟩
  · obtain ⟨sig, tok, hl, hf, hnm, hsg⟩ := (ht slot).1 hs
    refine ⟨sig, tok, hl, hnm, fun this mtls => ?_⟩
    simp only [forEachKernelSetup, hf, hsg, Exec.ok_bind, rsAssert]
    split_ifs <;> rfl
  · obtain ⟨e, hf⟩ := (ht slot).2 hs
    exact ⟨e, fun this mtls => by simp only [forEachKernelSetup, hf, Exec.fault_bind]⟩

/-- `init` of a new object on a library whose descriptor has two kernels, `root` and
`k`, where only `k.expand` resolves, at address 9: it accepts the NULL kernel at slot 0
and keeps no kernel count. -/
theorem init_two_kernels :
    init true ⟨some 1, fun n => if n = "k.expand".toList then some 9 else none,
      some (memOf ("exportVarCount: 0\nexportFuncCount: 0\nexportForEachCount: 2\n" ++
        "0 - root\n1 - k\nobjectSlotCount: 0\n").toList), fun _ => true, fun _ => 'x'⟩
      ⟨[], [], [], none⟩ (RsdCpuScriptImpl.construct 0 0) =
      .ok (true, ⟨[.lock, .unlock], [], [], none⟩, { RsdCpuScriptImpl.construct 0 0 with
        mScriptSO := some ⟨1, true⟩, mForEachFunctions := some ⟨[none, some 9], true⟩,
        mForEachSignatures := some ⟨[0, 1], true⟩ }) := by
  decide

/-- The two-kernel descriptor of `init_two_kernels`: the kernel section's count line is
line 2, and slot 1's line is line 4, `1 - k`. -/
theorem forEachKernelSetup_after_init_two_kernels :
    let mem := memOf ("exportVarCount: 0\nexportFuncCount: 0\nexportForEachCount: 2\n" ++
        "0 - root\n1 - k\nobjectSlotCount: 0\n").toList
    let envK : LoadEnv := ⟨some 1, fun n => if n = "k.expand".toList then some 9 else none,
      some mem, fun _ => true, fun _ => 'x'⟩
    let s : RsdCpuScriptImpl := { RsdCpuScriptImpl.construct 0 0 with
      mScriptSO := some ⟨1, true⟩, mForEachFunctions := some ⟨[none, some 9], true⟩,
      mForEachSignatures := some ⟨[0, 1], true⟩ }
    init true envK ⟨[], [], [], none⟩ (RsdCpuScriptImpl.construct 0 0) =
        .ok (true, ⟨[.lock, .unlock], [], [], none⟩, s) ∧ envK.rsInfo = some mem ∧
      let j := s.mExportedVariableCount + s.mExportedFunctionCount + 2
      sscanf (countFmt exportForEachStr) (lineAt mem j) = [.num s.kernelCount] ∧
      ∀ slot, (slot < s.kernelCount → ∃ sig tok,
          sscanf forEachFmt (lineAt mem (j + 1 + slot)) = [.num sig, .str tok] ∧
          (0 < slot → envK.dlsym (expandedName tok) ≠ none) ∧
          ∀ this mtls, forEachKernelSetup true s this slot mtls =
            if (envK.dlsym (expandedName tok)).isSome || !true then
              .ok { mtls with
                    script := some this
                    slot := slot
                    kernel := envK.dlsym (expandedName tok)
                    sig := sig }
            else .abort) ∧
        (s.kernelCount ≤ slot → ∃ e, ∀ this mtls, forEachKernelSetup true s this slot mtls = .fault e) :=
  ⟨init_two_kernels, rfl, forEachKernelSetup_after_init init_two_kernels rfl⟩

/-! ## `invokeForEach` after `init` -/

/-- **After `init`, `invokeForEach` launches the kernel of the slot's line over the
buffers' storage.** On a new object, for every descriptor and every outcome of the
external calls, let `j` be the kernel section's count line, as in
`forEachKernelSetup_after_init`, which gives the kernel count. For every slot past 0
below it, the slot's line gives a signature and a token whose name with `.expand` `dlsym`
resolved to a non-NULL address, and every `invokeForEach` on the slot, unless an
`rsAssert` stops it, calls `launchThreads` once, with the thread-local set, on a
descriptor that carries that kernel and signature, the script and the slot; when its
domain is not empty, its input and output pointers are the storage of the buffers
passed, none of them NULL. At or past the count, unless an `rsAssert` stops it first,
`invokeForEach` is undefined behaviour. -/
theorem invokeForEach_after_init {aborts : Bool} {ctx ctx' : Ctx} {v f : Nat}
    {s : RsdCpuScriptImpl} {mem : Mem}
    (h : init aborts env ctx (RsdCpuScriptImpl.construct v f) = .ok (true, ctx', s))
    (hinfo : env.rsInfo = some mem) :
    let j := s.mExportedVariableCount + s.mExportedFunctionCount + 2
    sscanf (countFmt exportForEachStr) (lineAt mem j) = [.num s.kernelCount] ∧
    ∀ slot, (0 < slot → slot < s.kernelCount → ∃ sig tok fn,
        sscanf forEachFmt (lineAt mem (j + 1 + slot)) = [.num sig, .str tok] ∧
        env.dlsym (expandedName tok) = some fn ∧
        ∀ this ain aout usr usrLen sc launch c,
          (aborts = true ∧ s.invokeForEach aborts this slot ain aout usr usrLen sc launch c = .abort) ∨
          ∃ m c', s.invokeForEach aborts this slot ain aout usr usrLen sc launch c =
              withTLS this (launch m) c' ∧
            m.kernel = some fn ∧ m.sig = sig ∧ m.script = some this ∧ m.slot = slot ∧
            (¬ m.Empty → m.ptrIn = ain.bind (·.mallocPtr) ∧ m.ptrOut = aout.bind (·.mallocPtr) ∧
              (∀ a ∈ ain, a.mallocPtr.isSome) ∧ ∀ a ∈ aout, a.mallocPtr.isSome)) ∧
      (s.kernelCount ≤ slot → ∀ this ain aout usr usrLen sc launch c,
        (aborts = true ∧ s.invokeForEach aborts this slot ain aout usr usrLen sc launch c = .abort) ∨
        ∃ e, s.invokeForEach aborts this slot ain aout usr usrLen sc launch c = .fault e) := by
  obtain ⟨hn, ht⟩ := init_kernels hinfo h
  refine ⟨hn, fun slot => ⟨fun h0 hs => ?_, fun hs this ain aout usr usrLen sc launch c => ?_⟩⟩
  · obtain ⟨sig, tok, hl, hf, hnm, hsg⟩ := (ht slot).1 hs
    obtain ⟨fn, hfn⟩ := Option.ne_none_iff_exists'.mp (hnm h0)
    refine ⟨sig, tok, fn, hl, hfn, fun this ain aout usr usrLen sc launch c => ?_⟩
    have hk : ∀ m, forEachKernelSetup aborts s this slot m =
        .ok { m with script := some this, slot := slot, kernel := some fn, sig := sig } := fun m => by
      simp only [forEachKernelSetup, hf, hfn, hsg, Exec.ok_bind, Option.isSome_some, rsAssert_true]
      rfl
    rcases forEachMtlsSetup_buffers aborts c ain aout usr usrLen sc s.mIsThreadable with
      ⟨hab, e⟩ | ⟨⟨c', m⟩, e, hm⟩
    · exact .inl ⟨hab, by simp only [RsdCpuScriptImpl.invokeForEach, e, Exec.abort_bind]⟩
    · exact .inr ⟨{ m with script := some this, slot := slot, kernel := some fn, sig := sig }, c',
        by simp only [RsdCpuScriptImpl.invokeForEach, e, Exec.ok_bind, hk], rfl, rfl, rfl, rfl, hm⟩
  · obtain ⟨e, hf⟩ := (ht slot).2 hs
    rcases forEachMtlsSetup_buffers aborts c ain aout usr usrLen sc s.mIsThreadable with
      ⟨hab, e'⟩ | ⟨⟨c', m⟩, e', -⟩
    · exact .inl ⟨hab, by simp only [RsdCpuScriptImpl.invokeForEach, e', Exec.abort_bind]⟩
    · exact .inr ⟨e, by simp only [RsdCpuScriptImpl.invokeForEach, e', Exec.ok_bind,
        forEachKernelSetup, hf, Exec.fault_bind]⟩

/-- The two-kernel descriptor of `init_two_kernels`, where `invokeForEach` on slot 1
launches the kernel at address 9, and the count is 2. -/
theorem invokeForEach_after_init_two_kernels :
    let mem := memOf ("exportVarCount: 0\nexportFuncCount: 0\nexportForEachCount: 2\n" ++
        "0 - root\n1 - k\nobjectSlotCount: 0\n").toList
    let envK : LoadEnv := ⟨some 1, fun n => if n = "k.expand".toList then some 9 else none,
      some mem, fun _ => true, fun _ => 'x'⟩
    let s : RsdCpuScriptImpl := { RsdCpuScriptImpl.construct 0 0 with
      mScriptSO := some ⟨1, true⟩, mForEachFunctions := some ⟨[none, some 9], true⟩,
      mForEachSignatures := some ⟨[0, 1], true⟩ }
    init true envK ⟨[], [], [], none⟩ (RsdCpuScriptImpl.construct 0 0) =
        .ok (true, ⟨[.lock, .unlock], [], [], none⟩, s) ∧ envK.rsInfo = some mem ∧
      let j := s.mExportedVariableCount + s.mExportedFunctionCount + 2
      sscanf (countFmt exportForEachStr) (lineAt mem j) = [.num s.kernelCount] ∧
      ∀ slot, (0 < slot → slot < s.kernelCount → ∃ sig tok fn,
          sscanf forEachFmt (lineAt mem (j + 1 + slot)) = [.num sig, .str tok] ∧
          envK.dlsym (expandedName tok) = some fn ∧
          ∀ this ain aout usr usrLen sc launch c,
            (true = true ∧ s.invokeForEach true this slot ain aout usr usrLen sc launch c = .abort) ∨
            ∃ m c', s.invokeForEach true this slot ain aout usr usrLen sc launch c =
                withTLS this (launch m) c' ∧
              m.kernel = some fn ∧ m.sig = sig ∧ m.script = some this ∧ m.slot = slot ∧
              (¬ m.Empty → m.ptrIn = ain.bind (·.mallocPtr) ∧ m.ptrOut = aout.bind (·.mallocPtr) ∧
                (∀ a ∈ ain, a.mallocPtr.isSome) ∧ ∀ a ∈ aout, a.mallocPtr.isSome)) ∧
        (s.kernelCount ≤ slot → ∀ this ain aout usr usrLen sc launch c,
          (true = true ∧ s.invokeForEach true this slot ain aout usr usrLen sc launch c = .abort) ∨
          ∃ e, s.invokeForEach true this slot ain aout usr usrLen sc launch c = .fault e) :=
  ⟨init_two_kernels, rfl, invokeForEach_after_init init_two_kernels rfl⟩

end Compat

end RsCpuScript
