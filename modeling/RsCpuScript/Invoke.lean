import RsCpuScript.Launch

/-!
# Entry points and the thread-local script

A script's native code runs when the runtime calls one of five entry points of its
`RsdCpuScriptImpl`. That native code may call back into the runtime, and through it into
entry points of the same script or of other scripts, to any depth. The runtime finds the
script a callback belongs to through a thread-local that `setTLS` sets. `invokeRoot`,
`invokeFunction` and `invokeForEach` install their script there for the native call and
put the old value back. `invokeInit` and `invokeFreeChildren` call the native code as
they find the thread-local.

A run of native code is a `Native` tree: the callbacks it makes, each with the run of
native code that the entry point it calls makes. The tree stands for one finished run, so
that nesting of any depth is covered by induction on the tree. No fuel is needed, and no
particular native code is assumed. `runNative` runs a tree through the
entry points of the source. At every point where native code runs, it logs which script
that code belongs to and what the thread-local holds then.

* Every entry point, at any depth, returns with the thread-local it found
  (`runNative_tls`).
* Native code reached only through the three entry points that set the thread-local
  always finds its own script there (`runNative_sees_own_script`).
* The native code of `init` and of `.rs.dtor` finds its caller's script there.
-/

namespace RsCpuScript

namespace Compat

/-- **What native code observes while it runs**: its script, and the thread-local then. -/
abbrev TlsLog := List (Nat × Option Nat)

/-- **The bracket of `invokeRoot`, `invokeFunction` and `invokeForEach`**:
`oldTLS = mCtx->setTLS(this)`, the native call, `mCtx->setTLS(oldTLS)`. -/
def withTLS {α : Type} (this : Nat) (call : Ctx → Exec (α × Ctx)) (ctx : Ctx) : Exec (α × Ctx) := do
  let (oldTLS, ctx) := ctx.setTLS (some this)
  let (r, ctx) ← call ctx
  let (_, ctx) := ctx.setTLS oldTLS
  return (r, ctx)

/-- The call `invokeInit` and `invokeFreeChildren` make: the function pointer `fn` when it
is not NULL, with no `setTLS`. -/
def callIfSet (fn : Option Nat) (native : Nat → Ctx → Exec (TlsLog × Ctx)) (ctx : Ctx) :
    Exec (TlsLog × Ctx) :=
  match fn with
  | some f => native f ctx
  | none => pure ([], ctx)

/-- A call through a function pointer, undefined behaviour when it is NULL. -/
def callPtr (fn : Option Nat) (native : Nat → Ctx → Exec (TlsLog × Ctx)) (ctx : Ctx) :
    Exec (TlsLog × Ctx) :=
  match fn with
  | some f => native f ctx
  | none => .fault .nullCall

namespace RsdCpuScriptImpl

/-- **`invokeRoot()`**: `mRoot()` with the thread-local set. `native f` is what the
native code at `f` does. -/
def invokeRoot (self : RsdCpuScriptImpl) (this : Nat) (native : Nat → Ctx → Exec (TlsLog × Ctx)) :
    Ctx → Exec (TlsLog × Ctx) :=
  withTLS this (callPtr self.mRoot native)

/-- **`invokeInit()`**: `if (mInit) mInit();` -/
def invokeInit (self : RsdCpuScriptImpl) (native : Nat → Ctx → Exec (TlsLog × Ctx)) :
    Ctx → Exec (TlsLog × Ctx) :=
  callIfSet self.mInit native

/-- **`invokeFreeChildren()`**: `if (mFreeChildren) mFreeChildren();` -/
def invokeFreeChildren (self : RsdCpuScriptImpl) (native : Nat → Ctx → Exec (TlsLog × Ctx)) :
    Ctx → Exec (TlsLog × Ctx) :=
  callIfSet self.mFreeChildren native

/-- **`invokeFunction(slot, params, paramLength)`**:
`mInvokeFunctions[slot](params, paramLength)` with the thread-local set. -/
def invokeFunction (self : RsdCpuScriptImpl) (this slot : Nat)
    (native : Nat → Ctx → Exec (TlsLog × Ctx)) : Ctx → Exec (TlsLog × Ctx) :=
  withTLS this fun ctx => do callPtr (← HeapArray.read self.mInvokeFunctions slot) native ctx

/-- **`invokeForEach(slot, ain, aout, usr, usrLen, sc)`**: the two setups, then
`launchThreads` with the thread-local set. `launch m` is what `launchThreads` does with
the descriptor `m`. -/
def invokeForEach (aborts : Bool) (self : RsdCpuScriptImpl) (this slot : Nat)
    (ain aout : Option Allocation) (usr usrLen : Nat) (sc : Option RsScriptCall)
    (launch : MTLaunchStruct → Ctx → Exec (TlsLog × Ctx)) (ctx : Ctx) : Exec (TlsLog × Ctx) := do
  let (ctx, mtls) ← forEachMtlsSetup aborts ctx ain aout usr usrLen sc self.mIsThreadable
  let mtls ← forEachKernelSetup aborts self this slot mtls
  withTLS this (launch mtls) ctx

end RsdCpuScriptImpl

/-! ## Nested runs of native code -/

/-- The entry points native code can reach through the runtime, with their arguments. -/
inductive Entry where
  | root
  | init
  | freeChildren
  | function (slot : Nat)
  | forEach (slot : Nat) (ain aout : Option Allocation) (usr usrLen : Nat) (sc : Option RsScriptCall)
  deriving DecidableEq, Repr

/-- The entry points that set the thread-local. -/
def Entry.setsTLS : Entry → Bool
  | .root | .function _ | .forEach .. => true
  | .init | .freeChildren => false

/-- **A finite run of native code**: it returns, or it calls entry `e` of script `t`,
whose native code runs as `inner`, and then goes on as `rest`. -/
inductive Native where
  | ret
  | call (t : Nat) (e : Entry) (inner rest : Native)
  deriving DecidableEq, Repr

/-- A run that reaches native code only through entry points that set the thread-local. -/
def Native.SetsTLS : Native → Prop
  | .ret => True
  | .call _ e inner rest => e.setsTLS = true ∧ inner.SetsTLS ∧ rest.SetsTLS

/-- Entry `e` of the script `self`, at `this`, whose native code runs as `body`. -/
def Entry.invoke (aborts : Bool) (self : RsdCpuScriptImpl) (this : Nat)
    (body : Ctx → Exec (TlsLog × Ctx)) : Entry → Ctx → Exec (TlsLog × Ctx)
  | .root => self.invokeRoot this fun _ => body
  | .init => self.invokeInit fun _ => body
  | .freeChildren => self.invokeFreeChildren fun _ => body
  | .function slot => self.invokeFunction this slot fun _ => body
  | .forEach slot ain aout usr usrLen sc =>
    self.invokeForEach aborts this slot ain aout usr usrLen sc fun _ => body

/-- **A run of native code of the script `s`**, through the entry points it calls, where
`scripts t` is the object of the script `t`. The log holds, at each point where native
code runs, its script and the thread-local. -/
def runNative (aborts : Bool) (scripts : Nat → RsdCpuScriptImpl) (s : Nat) :
    Native → Ctx → Exec (TlsLog × Ctx)
  | .ret, ctx => pure ([(s, ctx.tls)], ctx)
  | .call t e inner rest, ctx => do
    let (log1, ctx1) ← e.invoke aborts (scripts t) t (runNative aborts scripts t inner) ctx
    let (log2, ctx2) ← runNative aborts scripts s rest ctx1
    pure ((s, ctx.tls) :: log1 ++ log2, ctx2)

/-! ## The thread-local over a run -/

/-- A function of the context that keeps the thread-local. -/
def KeepsTLS {α : Type} (f : Ctx → Exec (α × Ctx)) : Prop :=
  ∀ ctx r, f ctx = .ok r → r.2.tls = ctx.tls

@[simp] theorem setTLS_tls (c : Ctx) (s : Option Nat) : (c.setTLS s).2.tls = s := rfl

@[simp] theorem setTLS_fst (c : Ctx) (s : Option Nat) : (c.setTLS s).1 = c.tls := rfl

@[simp] theorem setError_tls (c : Ctx) (e : RsError) (msg : String) :
    (c.setError e msg).tls = c.tls := rfl

/-- What the bracket runs: the call, from the context with the thread-local set. -/
theorem withTLS_ok {α : Type} {this : Nat} {call : Ctx → Exec (α × Ctx)} {ctx : Ctx}
    {r : α × Ctx} (h : withTLS this call ctx = .ok r) :
    ∃ c, call (ctx.setTLS (some this)).2 = .ok (r.1, c) ∧ r.2 = (c.setTLS ctx.tls).2 := by
  simp only [withTLS, Exec.bind_eq_ok] at h
  obtain ⟨⟨a, c⟩, hc, h⟩ := h
  simp only [Exec.pure_eq, Exec.ok.injEq] at h
  subst h
  exact ⟨c, hc, rfl⟩

/-- **The bracket restores the thread-local**, whatever the call does to it. -/
theorem withTLS_keeps {α : Type} (this : Nat) (call : Ctx → Exec (α × Ctx)) :
    KeepsTLS (withTLS this call) := fun _ _ h => by
  obtain ⟨c, -, e⟩ := withTLS_ok h
  rw [e, setTLS_tls]

theorem callIfSet_keeps {fn : Option Nat} {native : Nat → Ctx → Exec (TlsLog × Ctx)}
    (h : ∀ f, KeepsTLS (native f)) : KeepsTLS (callIfSet fn native) := by
  intro ctx r hr
  cases fn with
  | none => simp only [callIfSet, Exec.pure_eq, Exec.ok.injEq] at hr; rw [← hr]
  | some f => exact h f ctx r hr

/-- `forEachMtlsSetup` reports errors and leaves the thread-local alone. -/
theorem forEachMtlsSetup_tls {aborts : Bool} {ctx : Ctx} {ain aout : Option Allocation}
    {usr usrLen : Nat} {sc : Option RsScriptCall} {t : Bool} {r : Ctx × MTLaunchStruct}
    (h : forEachMtlsSetup aborts ctx ain aout usr usrLen sc t = .ok r) : r.1.tls = ctx.tls := by
  unfold forEachMtlsSetup at h
  split at h
  · simp only [Exec.pure_eq, Exec.ok.injEq] at h
    rw [← h, setError_tls]
  · simp only [Exec.bind_eq_ok] at h
    obtain ⟨⟨m, go⟩, -, h⟩ := h
    cases go
    · simp only [Bool.not_false, if_true, Exec.pure_eq, Exec.ok.injEq] at h
      rw [← h]
    · simp only [Bool.not_true, Bool.false_eq_true, if_false, Exec.bind_eq_ok, Exec.pure_eq,
        Exec.ok.injEq] at h
      obtain ⟨_, -, _, -, h⟩ := h
      rw [← h]

/-- **Every entry point returns with the thread-local it found**, given a native body
that does. -/
theorem Entry.invoke_keeps (aborts : Bool) (self : RsdCpuScriptImpl) (this : Nat)
    {body : Ctx → Exec (TlsLog × Ctx)} (hb : KeepsTLS body) (e : Entry) :
    KeepsTLS (e.invoke aborts self this body) := by
  cases e with
  | root => exact withTLS_keeps _ _
  | init => exact callIfSet_keeps fun _ => hb
  | freeChildren => exact callIfSet_keeps fun _ => hb
  | function slot =>
    unfold Entry.invoke RsdCpuScriptImpl.invokeFunction
    exact withTLS_keeps _ _
  | forEach slot ain aout usr usrLen sc =>
    intro ctx r h
    simp only [Entry.invoke, RsdCpuScriptImpl.invokeForEach, Exec.bind_eq_ok] at h
    obtain ⟨⟨ctx1, m⟩, h1, m', -, h⟩ := h
    exact (withTLS_keeps this _ ctx1 r h).trans (forEachMtlsSetup_tls h1)

/-- **A run of native code, nested to any depth, returns with the thread-local it
found**: each entry point it calls puts back the value it found, or never changes it. -/
theorem runNative_tls (aborts : Bool) (scripts : Nat → RsdCpuScriptImpl) (n : Native) :
    ∀ s, KeepsTLS (runNative aborts scripts s n) := by
  induction n with
  | ret => intro s ctx r h; simp only [runNative, Exec.pure_eq, Exec.ok.injEq] at h; rw [← h]
  | call t e inner rest ihi ihr =>
    intro s ctx r h
    simp only [runNative, Exec.bind_eq_ok] at h
    obtain ⟨⟨log1, ctx1⟩, h1, ⟨log2, ctx2⟩, h2, h⟩ := h
    simp only [Exec.pure_eq, Exec.ok.injEq] at h
    rw [← h]
    exact (ihr s ctx1 _ h2).trans (Entry.invoke_keeps aborts _ t (ihi t) e ctx _ h1)

/-- A script whose `root` calls back the `root` of another: the run returns with the
thread-local it started from. -/
theorem runNative_tls_root_callback :
    ∃ r, runNative false (fun _ => { RsdCpuScriptImpl.construct 0 0 with mRoot := some 5 }) 0
        (.call 1 .root .ret .ret) ⟨[], [], [], some 0⟩ = .ok r ∧
      r.2.tls = (⟨[], [], [], some 0⟩ : Ctx).tls :=
  have h : runNative false (fun _ => { RsdCpuScriptImpl.construct 0 0 with mRoot := some 5 }) 0
      (.call 1 .root .ret .ret) ⟨[], [], [], some 0⟩ = .ok _ := rfl
  ⟨_, h, runNative_tls false _ _ 0 _ _ h⟩

/-- An entry point that sets the thread-local runs its body from a context where the
thread-local is its script. -/
theorem Entry.invoke_sets {aborts : Bool} {self : RsdCpuScriptImpl} {this : Nat}
    {body : Ctx → Exec (TlsLog × Ctx)} {e : Entry} (he : e.setsTLS = true) {ctx : Ctx}
    {r : TlsLog × Ctx} (h : e.invoke aborts self this body ctx = .ok r) :
    ∃ c c', c.tls = some this ∧ body c = .ok (r.1, c') := by
  cases e with
  | init | freeChildren => simp [Entry.setsTLS] at he
  | root =>
    obtain ⟨c', hc, -⟩ := withTLS_ok h
    cases hr : self.mRoot <;> simp only [callPtr, hr] at hc
    · cases hc
    · exact ⟨_, c', rfl, hc⟩
  | function slot =>
    unfold Entry.invoke RsdCpuScriptImpl.invokeFunction at h
    obtain ⟨c', hc, -⟩ := withTLS_ok h
    simp only [Exec.bind_eq_ok] at hc
    obtain ⟨fn, -, hc⟩ := hc
    cases fn <;> simp only [callPtr] at hc
    · cases hc
    · exact ⟨_, c', rfl, hc⟩
  | forEach slot ain aout usr usrLen sc =>
    simp only [Entry.invoke, RsdCpuScriptImpl.invokeForEach, Exec.bind_eq_ok] at h
    obtain ⟨_, -, _, -, h⟩ := h
    obtain ⟨c', hc, -⟩ := withTLS_ok h
    exact ⟨_, c', rfl, hc⟩

/-- **Native code reached through `invokeRoot`, `invokeFunction` and `invokeForEach` finds
its own script in the thread-local**, at every point where it runs and at any depth of
nesting, when the run starts with the thread-local set to the script it belongs to. -/
theorem runNative_sees_own_script (aborts : Bool) (scripts : Nat → RsdCpuScriptImpl)
    (n : Native) (hn : n.SetsTLS) (s : Nat) (ctx : Ctx) (hs : ctx.tls = some s)
    (r : TlsLog × Ctx) (h : runNative aborts scripts s n ctx = .ok r) :
    ∀ o ∈ r.1, o.2 = some o.1 := by
  induction n generalizing s ctx r with
  | ret =>
    simp only [runNative, Exec.pure_eq, Exec.ok.injEq] at h
    subst h
    simpa using hs
  | call t e inner rest ihi ihr =>
    obtain ⟨he, hi, hr⟩ := hn
    simp only [runNative, Exec.bind_eq_ok] at h
    obtain ⟨⟨log1, ctx1⟩, h1, ⟨log2, ctx2⟩, h2, h⟩ := h
    simp only [Exec.pure_eq, Exec.ok.injEq] at h
    subst h
    obtain ⟨c, c', hc, hb⟩ := Entry.invoke_sets he h1
    have h1' : ctx1.tls = some s :=
      (Entry.invoke_keeps aborts _ t (runNative_tls aborts scripts inner t) e ctx _ h1).trans hs
    intro o ho
    simp only [List.cons_append, List.mem_cons, List.mem_append] at ho
    rcases ho with rfl | ho | ho
    · exact hs
    · exact ihi hi t c hc _ hb o ho
    · exact ihr hr s ctx1 h1' _ h2 o ho

/-- A script whose `root` calls back the `root` of another: the callee's native code finds
the callee in the thread-local, and the caller finds itself again after the callback. -/
theorem runNative_sees_own_script_root_callback :
    ∃ r, runNative false (fun _ => { RsdCpuScriptImpl.construct 0 0 with mRoot := some 5 }) 0
        (.call 1 .root .ret .ret) ⟨[], [], [], some 0⟩ = .ok r ∧ ∀ o ∈ r.1, o.2 = some o.1 :=
  have h : runNative false (fun _ => { RsdCpuScriptImpl.construct 0 0 with mRoot := some 5 }) 0
      (.call 1 .root .ret .ret) ⟨[], [], [], some 0⟩ = .ok _ := rfl
  ⟨_, h, runNative_sees_own_script false _ (.call 1 .root .ret .ret) ⟨rfl, trivial, trivial⟩ 0 _
    rfl _ h⟩

example :
    runNative false (fun _ => { RsdCpuScriptImpl.construct 0 0 with mRoot := some 5 }) 0
      (.call 1 .root .ret .ret) ⟨[], [], [], some 0⟩ =
      .ok ([(0, some 0), (1, some 1), (0, some 0)], ⟨[], [], [], some 0⟩) := by
  decide

/-- A script whose native code calls back `invokeInit` and `invokeFreeChildren` of
another script: that script's `init` and `.rs.dtor` code runs with the caller's script in
the thread-local. -/
theorem invokeInit_keeps_callers_script :
    let s : RsdCpuScriptImpl :=
      { RsdCpuScriptImpl.construct 0 0 with mInit := some 5, mFreeChildren := some 6 }
    runNative false (fun _ => s) 0 (.call 1 .init .ret .ret) ⟨[], [], [], some 0⟩ =
      .ok ([(0, some 0), (1, some 0), (0, some 0)], ⟨[], [], [], some 0⟩) ∧
    runNative false (fun _ => s) 0 (.call 1 .freeChildren .ret .ret) ⟨[], [], [], some 0⟩ =
      .ok ([(0, some 0), (1, some 0), (0, some 0)], ⟨[], [], [], some 0⟩) := by
  decide

end Compat

end RsCpuScript
