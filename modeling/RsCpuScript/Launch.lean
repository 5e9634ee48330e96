import RsCpuScript.RoundTrip

/-!
# Setting up a kernel launch

`invokeForEach` fills an `MTLaunchStruct` in two steps before it hands it to
`launchThreads`.

* `forEachMtlsSetup` takes the extents from the input buffer, or else from the output
  buffer, and clamps each axis to the caller's sub-region. It reports an error, and leaves
  the descriptor zeroed, when no buffer has storage.
* `forEachKernelSetup` looks the kernel up by slot.

`forEachMtlsSetup` treats its three axes with three copies of one block, which stop the
setup at the first empty sub-region. The model gives the block once (`axisSetup`) and runs
it over the axes in the code's order (`domainSetup`). `forEachMtlsSetup_domain` says what
the launch domain is, for every pair of buffers and every sub-region.

The compatibility build's `forEachKernelSetup` reads the kernel tables at the slot it is
given. Those tables are `forEachCount` long, but `init` does not keep that count, and the
function does not check the slot against it. `forEachKernelSetup_loaded` states what it
returns for every slot of every record `init` reads: the kernel and the signature `init`
resolved below the count, and an out-of-bounds read from the count on. The full build
asserts the slot first, which stops the launch only where assertions abort; where they
only log, it reads past the end of the address vector as well
(`Bcc.forEachKernelSetup_logs`).
-/

namespace RsCpuScript

/-- The three axes of a launch. -/
inductive Axis where
  | x
  | y
  | z
  deriving DecidableEq, Repr

/-- The axes in the order `forEachMtlsSetup` takes them. -/
def Axis.all : List Axis := [.x, .y, .z]

/-- **An `Allocation`**, as far as `forEachMtlsSetup` reads it. -/
structure Allocation where
  /-- `mHal.drvState.lod[0].mallocPtr`, `none` for NULL. -/
  mallocPtr : Option Nat
  /-- `getType()->getDimX()` -/
  dimX : Nat
  /-- `getType()->getDimY()` -/
  dimY : Nat
  /-- `getType()->getDimZ()` -/
  dimZ : Nat
  /-- `getType()->getElementSizeBytes()` -/
  elementSizeBytes : Nat
  /-- `mHal.drvState.lod[0].stride` -/
  stride : Nat
  deriving DecidableEq, Repr

/-- The extent of a buffer on an axis. -/
def Allocation.dim (a : Allocation) : Axis → Nat
  | .x => a.dimX
  | .y => a.dimY
  | .z => a.dimZ

/-- **An `RsScriptCall`**: the sub-region the caller asks for. -/
structure RsScriptCall where
  xStart : Nat
  xEnd : Nat
  yStart : Nat
  yEnd : Nat
  zStart : Nat
  zEnd : Nat
  deriving DecidableEq, Repr

/-- The sub-region's `(start, end)` on an axis. -/
def RsScriptCall.bounds (c : RsScriptCall) : Axis → Nat × Nat
  | .x => (c.xStart, c.xEnd)
  | .y => (c.yStart, c.yEnd)
  | .z => (c.zStart, c.zEnd)

/-- **The `MTLaunchStruct`** `invokeForEach` fills in, with the fields of its `fep`.
Pointers are `Option Nat`, `none` for NULL, except `usr`, which is passed through. -/
structure MTLaunchStruct where
  dimX : Nat
  dimY : Nat
  dimZ : Nat
  usr : Nat
  usrLen : Nat
  ptrIn : Option Nat
  eStrideIn : Nat
  yStrideIn : Nat
  ptrOut : Option Nat
  eStrideOut : Nat
  yStrideOut : Nat
  slot : Nat
  xStart : Nat
  xEnd : Nat
  yStart : Nat
  yEnd : Nat
  zStart : Nat
  zEnd : Nat
  arrayStart : Nat
  arrayEnd : Nat
  ain : Option Allocation
  aout : Option Allocation
  mSliceSize : Nat
  mSliceNum : Nat
  isThreadable : Bool
  script : Option Nat
  kernel : Option Nat
  sig : Nat
  deriving DecidableEq, Repr

namespace MTLaunchStruct

/-- `memset(mtls, 0, sizeof(MTLaunchStruct))` -/
def zero : MTLaunchStruct :=
  ⟨0, 0, 0, 0, 0, none, 0, 0, none, 0, 0, 0, 0, 0, 0, 0, 0, 0, 0, 0, none, none, 0, 0, false,
    none, none, 0⟩

/-- The extent `fep.dimX`, `fep.dimY` or `fep.dimZ`. -/
def dim (m : MTLaunchStruct) : Axis → Nat
  | .x => m.dimX
  | .y => m.dimY
  | .z => m.dimZ

/-- The range `[start, end)` of an axis. -/
def range (m : MTLaunchStruct) : Axis → Nat × Nat
  | .x => (m.xStart, m.xEnd)
  | .y => (m.yStart, m.yEnd)
  | .z => (m.zStart, m.zEnd)

/-- The range of an axis set to `r`. -/
def setRange (m : MTLaunchStruct) : Axis → Nat × Nat → MTLaunchStruct
  | .x, r => { m with xStart := r.1, xEnd := r.2 }
  | .y, r => { m with yStart := r.1, yEnd := r.2 }
  | .z, r => { m with zStart := r.1, zEnd := r.2 }

/-- The iteration domain has no point: some axis has an empty range. -/
def Empty (m : MTLaunchStruct) : Prop := ∃ ax ∈ Axis.all, (m.range ax).2 ≤ (m.range ax).1

@[simp] theorem dim_setRange (m : MTLaunchStruct) (ax ax' : Axis) (r : Nat × Nat) :
    (m.setRange ax r).dim ax' = m.dim ax' := by
  cases ax <;> cases ax' <;> rfl

@[simp] theorem range_setRange (m : MTLaunchStruct) (ax ax' : Axis) (r : Nat × Nat) :
    (m.setRange ax r).range ax' = if ax' = ax then r else m.range ax' := by
  cases ax <;> cases ax' <;> rfl

@[simp] theorem arrayStart_setRange (m : MTLaunchStruct) (ax : Axis) (r : Nat × Nat) :
    (m.setRange ax r).arrayStart = m.arrayStart := by
  cases ax <;> rfl

@[simp] theorem arrayEnd_setRange (m : MTLaunchStruct) (ax : Axis) (r : Nat × Nat) :
    (m.setRange ax r).arrayEnd = m.arrayEnd := by
  cases ax <;> rfl

theorem zero_empty : zero.Empty := ⟨.x, by decide, le_refl 0⟩

/-- The fields `forEachMtlsSetup` sets once the domain is known: the buffers, their
pointers and strides, the user data and the slicing. -/
def withBuffers (m : MTLaunchStruct) (ain aout : Option Allocation) (usr usrLen : Nat)
    (isThreadable : Bool) : MTLaunchStruct :=
  let m := { m with
    ain := ain
    aout := aout
    usr := usr
    usrLen := usrLen
    mSliceSize := 1
    mSliceNum := 0
    ptrIn := none
    eStrideIn := 0
    isThreadable := isThreadable }
  let m := match ain with
    | some a => { m with ptrIn := a.mallocPtr, eStrideIn := a.elementSizeBytes, yStrideIn := a.stride }
    | none => m
  let m := { m with ptrOut := none, eStrideOut := 0 }
  match aout with
  | some a => { m with ptrOut := a.mallocPtr, eStrideOut := a.elementSizeBytes, yStrideOut := a.stride }
  | none => m

@[simp] theorem range_withBuffers (m : MTLaunchStruct) (ain aout : Option Allocation)
    (usr usrLen : Nat) (t : Bool) (ax : Axis) :
    (m.withBuffers ain aout usr usrLen t).range ax = m.range ax := by
  cases ax <;> cases ain <;> cases aout <;> rfl

@[simp] theorem arrayStart_withBuffers (m : MTLaunchStruct) (ain aout : Option Allocation)
    (usr usrLen : Nat) (t : Bool) : (m.withBuffers ain aout usr usrLen t).arrayStart = m.arrayStart := by
  cases ain <;> cases aout <;> rfl

@[simp] theorem arrayEnd_withBuffers (m : MTLaunchStruct) (ain aout : Option Allocation)
    (usr usrLen : Nat) (t : Bool) : (m.withBuffers ain aout usr usrLen t).arrayEnd = m.arrayEnd := by
  cases ain <;> cases aout <;> rfl

/-- `rsMax(1, ·)` applied to the ends of the three axes and of the array range. -/
def floorEnds (m : MTLaunchStruct) : MTLaunchStruct :=
  { m with
    xEnd := max 1 m.xEnd
    yEnd := max 1 m.yEnd
    zEnd := max 1 m.zEnd
    arrayEnd := max 1 m.arrayEnd }

/-- The descriptor after the `memset`, with the extents of the buffer `a`. -/
def ofDims (a : Allocation) : MTLaunchStruct :=
  { zero with dimX := a.dimX, dimY := a.dimY, dimZ := a.dimZ }

@[simp] theorem dim_ofDims (a : Allocation) (ax : Axis) : (ofDims a).dim ax = a.dim ax := by
  cases ax <;> rfl

@[simp] theorem arrayStart_ofDims (a : Allocation) : (ofDims a).arrayStart = 0 := rfl

@[simp] theorem arrayEnd_ofDims (a : Allocation) : (ofDims a).arrayEnd = 0 := rfl

@[simp] theorem range_floorEnds (m : MTLaunchStruct) (ax : Axis) :
    m.floorEnds.range ax = ((m.range ax).1, max 1 (m.range ax).2) := by
  cases ax <;> rfl

@[simp] theorem arrayStart_floorEnds (m : MTLaunchStruct) :
    m.floorEnds.arrayStart = m.arrayStart := rfl

@[simp] theorem arrayEnd_floorEnds (m : MTLaunchStruct) :
    m.floorEnds.arrayEnd = max 1 m.arrayEnd := rfl

end MTLaunchStruct

/-! ## `forEachMtlsSetup` -/

/-- A sub-region's `(start, end)` on an axis restricts the axis when its end is not 0. -/
def restrict : Option (Nat × Nat) → Option (Nat × Nat)
  | some (s, e) => if e = 0 then none else some (s, e)
  | none => none

/-- The bounds the sub-region `sc` sets on an axis, when it restricts it. -/
def restriction (sc : Option RsScriptCall) (ax : Axis) : Option (Nat × Nat) :=
  restrict (sc.map (·.bounds ax))

/-- The range one axis gets: `[0, dim)` unrestricted, the clamped sub-region
`[min(dim, start), min(dim, end))` restricted. -/
def axisRange (dim : Nat) : Option (Nat × Nat) → Nat × Nat
  | some (s, e) => (min dim s, min dim e)
  | none => (0, dim)

/-- Whether the setup goes on after an axis: always when it is unrestricted, and when the
clamped sub-region is not empty otherwise. -/
def axisGo (dim : Nat) : Option (Nat × Nat) → Bool
  | some (s, e) => decide (min dim s < min dim e)
  | none => true

/-- **One axis of `forEachMtlsSetup`**, from the extent `dim` and the sub-region's
`(start, end)` on it if there is a sub-region: the axis's range, and whether the setup goes
on. -/
def axisSetup (aborts : Bool) (dim : Nat) : Option (Nat × Nat) → Exec (Nat × Nat × Bool)
  | some (s, e) =>
    if e = 0 then pure (0, dim, true)
    else do
      rsAssert aborts (decide (s < dim))
      rsAssert aborts (decide (e ≤ dim))
      rsAssert aborts (decide (s < e))
      pure (min dim s, min dim e, decide (min dim s < min dim e))
  | none => pure (0, dim, true)

/-- An axis is set up as `axisRange` and `axisGo` say, unless an `rsAssert` stops. -/
theorem axisSetup_cases (aborts : Bool) (dim : Nat) (p : Option (Nat × Nat)) :
    (aborts = true ∧ axisSetup aborts dim p = .abort) ∨
    axisSetup aborts dim p = .ok ((axisRange dim (restrict p)).1, (axisRange dim (restrict p)).2,
      axisGo dim (restrict p)) := by
  rcases p with _ | ⟨s, e⟩
  · simp [axisSetup, restrict, axisRange, axisGo]
  · by_cases he : e = 0
    · simp [axisSetup, restrict, axisRange, axisGo, he]
    · simp only [axisSetup, restrict, he, if_false, axisRange, axisGo]
      exact rsAssert_bind_or _ _ (rsAssert_bind_or _ _ (rsAssert_bind_or _ _ (.inr rfl)))

/-- The axes of `forEachMtlsSetup`, in the code's order: each axis's range is set, and the
setup returns at the first empty sub-region. The flag says whether it went through. -/
def domainSetup (aborts : Bool) (sc : Option RsScriptCall) :
    List Axis → MTLaunchStruct → Exec (MTLaunchStruct × Bool)
  | [], m => pure (m, true)
  | ax :: axs, m => do
    let (s, e, go) ← axisSetup aborts (m.dim ax) (sc.map (·.bounds ax))
    let m := m.setRange ax (s, e)
    if go then domainSetup aborts sc axs m else pure (m, false)

/-- The first checks of `forEachMtlsSetup`: the message it reports, or the buffer the
extents come from. -/
def launchSource (ain aout : Option Allocation) : Except String Allocation :=
  if ain.any (·.mallocPtr.isNone) then .error "rsForEach called with null in allocations"
  else if aout.any (·.mallocPtr.isNone) then .error "rsForEach called with null out allocations"
  else match ain, aout with
    | some a, _ => .ok a
    | none, some a => .ok a
    | none, none => .error "rsForEach called with null allocations"

/-- **`RsdCpuScriptImpl::forEachMtlsSetup`**: the context, which may have an error
reported, and the launch descriptor. -/
def forEachMtlsSetup (aborts : Bool) (ctx : Ctx) (ain aout : Option Allocation) (usr usrLen : Nat)
    (sc : Option RsScriptCall) (isThreadable : Bool) : Exec (Ctx × MTLaunchStruct) :=
  match launchSource ain aout with
  | .error msg => pure (ctx.setError .badScript msg, MTLaunchStruct.zero)
  | .ok a => do
    let (m, go) ← domainSetup aborts sc Axis.all (MTLaunchStruct.ofDims a)
    if !go then return (ctx, m)
    let m := m.floorEnds
    rsAssert aborts (ain.all (·.dimZ == 0))
    return (ctx, m.withBuffers ain aout usr usrLen isThreadable)

/-! ## What the setup computes -/

/-- **What `domainSetup` over the axes `axs` leaves**, from `m`: the extents, the array
range and the other axes as they were; an empty domain when it stops, at an axis that stops
it; every axis of `axs` at its range when it goes through. -/
structure DomainOut (sc : Option RsScriptCall) (axs : List Axis) (m : MTLaunchStruct)
    (r : MTLaunchStruct × Bool) : Prop where
  dim : ∀ ax, r.1.dim ax = m.dim ax
  arrayStart : r.1.arrayStart = m.arrayStart
  arrayEnd : r.1.arrayEnd = m.arrayEnd
  frame : ∀ ax, ax ∉ axs → r.1.range ax = m.range ax
  stop : r.2 = false → r.1.Empty ∧ ∃ ax ∈ axs, axisGo (m.dim ax) (restriction sc ax) = false
  go : r.2 = true → ∀ ax ∈ axs, axisGo (m.dim ax) (restriction sc ax) = true ∧
    r.1.range ax = axisRange (m.dim ax) (restriction sc ax)

/-- An axis stops the setup exactly when the sub-region restricts it to nothing. -/
theorem axisGo_eq_false {dim : Nat} {q : Option (Nat × Nat)} :
    axisGo dim q = false ↔ ∃ s e, q = some (s, e) ∧ min dim e ≤ min dim s := by
  rcases q with _ | ⟨s, e⟩
  · simp [axisGo]
  · simp only [axisGo, decide_eq_false_iff_not, Nat.not_lt, Option.some.injEq, Prod.mk.injEq]
    exact ⟨fun h => ⟨s, e, ⟨rfl, rfl⟩, h⟩, fun ⟨_, _, ⟨hs, he⟩, h⟩ => hs ▸ he ▸ h⟩

/-- An axis that stops the setup has an empty range. -/
theorem axisRange_empty {dim : Nat} {q : Option (Nat × Nat)} (h : axisGo dim q = false) :
    (axisRange dim q).2 ≤ (axisRange dim q).1 := by
  obtain ⟨s, e, rfl, hle⟩ := axisGo_eq_false.mp h
  exact hle

theorem mem_axis_all (ax : Axis) : ax ∈ Axis.all := by
  cases ax <;> decide

theorem domainSetup_cases (aborts : Bool) (sc : Option RsScriptCall) :
    ∀ (axs : List Axis) (m : MTLaunchStruct), (aborts = true ∧ domainSetup aborts sc axs m = .abort) ∨
      ∃ r, domainSetup aborts sc axs m = .ok r ∧ DomainOut sc axs m r
  | [], m => .inr ⟨_, rfl, fun _ => rfl, rfl, rfl, fun _ _ => rfl, by simp, by simp⟩
  | ax :: axs, m => by
    let q := axisRange (m.dim ax) (restriction sc ax)
    have hc : (aborts = true ∧ axisSetup aborts (m.dim ax) (sc.map (·.bounds ax)) = .abort) ∨
        axisSetup aborts (m.dim ax) (sc.map (·.bounds ax)) =
          .ok (q.1, q.2, axisGo (m.dim ax) (restriction sc ax)) :=
      axisSetup_cases _ _ _
    rcases hc with ⟨ha, h⟩ | h
    · exact .inl ⟨ha, by simp [domainSetup, h]⟩
    let m1 := m.setRange ax q
    have hd : ∀ ax', m1.dim ax' = m.dim ax' := by simp [m1]
    cases hg : axisGo (m.dim ax) (restriction sc ax)
    · refine .inr ⟨(m1, false), by simp [domainSetup, h, hg, m1], ?_⟩
      exact ⟨hd, by simp [m1], by simp [m1], fun ax' hax' => by simp_all [m1],
        fun _ => ⟨⟨ax, mem_axis_all ax, by simpa [m1] using axisRange_empty hg⟩, ax, by simp, hg⟩,
        by simp⟩
    have e1 : domainSetup aborts sc (ax :: axs) m = domainSetup aborts sc axs m1 := by
      simp [domainSetup, h, hg, m1]
    rw [e1]
    rcases domainSetup_cases aborts sc axs m1 with h' | ⟨r, h', o⟩
    · exact .inl h'
    refine .inr ⟨r, h', fun ax' => (o.dim ax').trans (hd ax'), o.arrayStart.trans (by simp [m1]),
      o.arrayEnd.trans (by simp [m1]), fun ax' hax' => ?_, fun hs => ?_, fun hs ax' hax' => ?_⟩
    · simp only [List.mem_cons, not_or] at hax'
      rw [o.frame ax' hax'.2]
      simp [m1, hax'.1]
    · obtain ⟨he, ax', hax', hg'⟩ := o.stop hs
      exact ⟨he, ax', List.mem_cons_of_mem _ hax', by rwa [← hd]⟩
    · by_cases hin : ax' ∈ axs
      · simpa [hd] using o.go hs ax' hin
      · have hax : ax' = ax := by simpa [hin] using hax'
        subst hax
        exact ⟨hg, by rw [o.frame ax' hin]; simp [m1]⟩

/-- Whether `forEachMtlsSetup` reports an error for these buffers: both absent, or one
present without storage. -/
def badBuffers (ain aout : Option Allocation) : Bool :=
  (ain.isNone && aout.isNone) || ain.any (·.mallocPtr.isNone) || aout.any (·.mallocPtr.isNone)

theorem launchSource_error {ain aout : Option Allocation} {msg : String}
    (h : launchSource ain aout = .error msg) : badBuffers ain aout = true := by
  unfold launchSource at h
  split_ifs at h with h1 h2
  · simp [badBuffers, h1]
  · simp [badBuffers, h2]
  · cases ain <;> cases aout <;> simp_all [badBuffers]

theorem launchSource_ok {ain aout : Option Allocation} {a : Allocation}
    (h : launchSource ain aout = .ok a) :
    badBuffers ain aout = false ∧ ain.orElse (fun _ => aout) = some a := by
  unfold launchSource at h
  split_ifs at h with h1 h2
  cases ain <;> cases aout <;> simp_all [badBuffers, Option.isSome_iff_ne_none]

/-- The range the specification gives an axis: `[0, max(dim, 1))` unrestricted, the clamped
sub-region `[min(dim, start), min(dim, end))` restricted. -/
def specRange (dim : Nat) : Option (Nat × Nat) → Nat × Nat
  | some (s, e) => (min dim s, min dim e)
  | none => (0, max dim 1)

/-- **The launch domain the specification describes**, for the context `ctx` before the
setup and its result `r`: (a) an error exactly for bad buffers, and then an empty domain;
(b) an empty domain when a restricting sub-region clamps to nothing on some axis; (c)
otherwise each axis at `[0, max(dim, 1))` when unrestricted and at the clamped sub-region
when restricted, and the array range `[0, 1)`. The extents `dim` are the input buffer's,
or else the output buffer's. -/
structure DomainSpec (ctx : Ctx) (ain aout : Option Allocation) (sc : Option RsScriptCall)
    (r : Ctx × MTLaunchStruct) : Prop where
  reports : r.1.errors ≠ ctx.errors ↔ badBuffers ain aout = true
  errorEmpty : badBuffers ain aout = true → r.2.Empty
  regionEmpty : ∀ a, ain.orElse (fun _ => aout) = some a → badBuffers ain aout = false →
    (∃ ax s e, restriction sc ax = some (s, e) ∧ min (a.dim ax) e ≤ min (a.dim ax) s) → r.2.Empty
  ranges : ∀ a, ain.orElse (fun _ => aout) = some a → badBuffers ain aout = false →
    (∀ ax s e, restriction sc ax = some (s, e) → min (a.dim ax) s < min (a.dim ax) e) →
    (∀ ax, r.2.range ax = specRange (a.dim ax) (restriction sc ax)) ∧ r.2.arrayStart = 0 ∧
      r.2.arrayEnd = 1

/-- A restricted axis that goes through keeps its clamped end under `rsMax(1, ·)`. -/
theorem floor_axisRange {dim : Nat} {q : Option (Nat × Nat)} (hg : axisGo dim q = true) :
    ((axisRange dim q).1, max 1 (axisRange dim q).2) = specRange dim q := by
  rcases q with _ | ⟨s, e⟩
  · simp [axisRange, specRange, max_comm]
  · simp only [axisGo, decide_eq_true_eq] at hg
    simp only [axisRange, specRange, Prod.mk.injEq, true_and]
    omega

/-- **The launch domain of `forEachMtlsSetup`**, for every pair of buffers, all extents
and every sub-region: unless an `rsAssert` stops, which only a build whose assertions
abort does, the setup returns the domain the specification describes. -/
theorem forEachMtlsSetup_domain (aborts : Bool) (ctx : Ctx) (ain aout : Option Allocation)
    (usr usrLen : Nat) (sc : Option RsScriptCall) (isThreadable : Bool) :
    (aborts = true ∧ forEachMtlsSetup aborts ctx ain aout usr usrLen sc isThreadable = .abort) ∨
    ∃ r, forEachMtlsSetup aborts ctx ain aout usr usrLen sc isThreadable = .ok r ∧
      DomainSpec ctx ain aout sc r := by
  unfold forEachMtlsSetup
  cases hs : launchSource ain aout with
  | error msg =>
    have hb := launchSource_error hs
    refine .inr ⟨_, rfl, by simp [Ctx.setError, hb], fun _ => MTLaunchStruct.zero_empty,
      fun _ _ h => by simp [hb] at h, fun _ _ h => by simp [hb] at h⟩
  | ok a =>
    obtain ⟨hb, ha⟩ := launchSource_ok hs
    have hsrc : ∀ a', ain.orElse (fun _ => aout) = some a' → a' = a :=
      fun _ h' => Option.some.inj (h'.symm.trans ha)
    simp only
    rcases domainSetup_cases aborts sc Axis.all (MTLaunchStruct.ofDims a) with ⟨hab, h⟩ | ⟨⟨m, go⟩, h, o⟩
    · exact .inl ⟨hab, by simp [h]⟩
    rw [h, Exec.ok_bind]
    cases go
    · obtain ⟨he, ax, -, hg⟩ := o.stop rfl
      obtain ⟨s, e, hq, hle⟩ := axisGo_eq_false.mp hg
      refine .inr ⟨_, rfl, by simp [hb], fun h => by simp [hb] at h, fun _ _ _ _ => he,
        fun a' h' _ hr => ?_⟩
      obtain rfl := hsrc a' h'
      rw [MTLaunchStruct.dim_ofDims] at hle
      exact absurd (hr ax s e hq) (Nat.not_lt.mpr hle)
    simp only [Bool.not_true, Bool.false_eq_true, if_false]
    rcases rsAssert_cases aborts (ain.all (·.dimZ == 0)) with ⟨hab, e⟩ | e <;> rw [e]
    · exact .inl ⟨hab, rfl⟩
    refine .inr ⟨_, rfl, by simp [hb], fun h => by simp [hb] at h, fun a' h' _ hr => ?_,
      fun a' h' _ _ => ?_⟩
    · obtain rfl := hsrc a' h'
      obtain ⟨ax, s, e, hq, hle⟩ := hr
      have hg := (o.go rfl ax (mem_axis_all ax)).1
      rw [MTLaunchStruct.dim_ofDims, ← Bool.not_eq_false, axisGo_eq_false] at hg
      exact absurd ⟨s, e, hq, hle⟩ hg
    · obtain rfl := hsrc a' h'
      refine ⟨fun ax => ?_, by simp [show m.arrayStart = 0 from o.arrayStart],
        by simp [show m.arrayEnd = 0 from o.arrayEnd]⟩
      obtain ⟨hg, hr⟩ := o.go rfl ax (mem_axis_all ax)
      rw [MTLaunchStruct.dim_ofDims] at hg hr
      simp only [MTLaunchStruct.range_withBuffers, MTLaunchStruct.range_floorEnds, hr]
      exact floor_axisRange hg

/-- **A launch the setup lets through carries the buffers' storage.** Unless an `rsAssert`
stops it, `forEachMtlsSetup` returns a descriptor whose domain is empty or whose input
and output pointers are the storage of the buffers it was given, none of them NULL, and
NULL for a buffer it was not given. -/
theorem forEachMtlsSetup_buffers (aborts : Bool) (ctx : Ctx) (ain aout : Option Allocation)
    (usr usrLen : Nat) (sc : Option RsScriptCall) (t : Bool) :
    (aborts = true ∧ forEachMtlsSetup aborts ctx ain aout usr usrLen sc t = .abort) ∨
    ∃ r, forEachMtlsSetup aborts ctx ain aout usr usrLen sc t = .ok r ∧
      (¬ r.2.Empty → r.2.ptrIn = ain.bind (·.mallocPtr) ∧ r.2.ptrOut = aout.bind (·.mallocPtr) ∧
        (∀ a ∈ ain, a.mallocPtr.isSome) ∧ ∀ a ∈ aout, a.mallocPtr.isSome) := by
  unfold forEachMtlsSetup
  cases hs : launchSource ain aout with
  | error msg => exact .inr ⟨_, rfl, fun he => absurd MTLaunchStruct.zero_empty he⟩
  | ok a =>
    have hb := (launchSource_ok hs).1
    simp only
    rcases domainSetup_cases aborts sc Axis.all (MTLaunchStruct.ofDims a) with ⟨hab, h⟩ | ⟨⟨m, go⟩, h, o⟩
    · exact .inl ⟨hab, by simp [h]⟩
    rw [h, Exec.ok_bind]
    cases go
    · exact .inr ⟨_, rfl, fun he => absurd (o.stop rfl).1 he⟩
    simp only [Bool.not_true, Bool.false_eq_true, if_false]
    rcases rsAssert_cases aborts (ain.all (·.dimZ == 0)) with ⟨hab, e⟩ | e <;> rw [e]
    · exact .inl ⟨hab, rfl⟩
    simp only [badBuffers, Bool.or_eq_false_iff] at hb
    refine .inr ⟨_, rfl, fun _ => ⟨by cases ain <;> cases aout <;> rfl,
      by cases ain <;> cases aout <;> rfl, fun a ha => ?_, fun a ha => ?_⟩⟩
    · obtain rfl := Option.mem_def.mp ha
      simpa using hb.1.2
    · obtain rfl := Option.mem_def.mp ha
      simpa using hb.2

/-! ## `forEachKernelSetup` -/

namespace Compat

/-- **`RsdCpuScriptImpl::forEachKernelSetup`** in the compatibility build, for the object
`self` that `this` points at. -/
def forEachKernelSetup (aborts : Bool) (self : RsdCpuScriptImpl) (this slot : Nat)
    (mtls : MTLaunchStruct) : Exec MTLaunchStruct := do
  let mtls := { mtls with script := some this, slot := slot }
  let kernel ← HeapArray.read self.mForEachFunctions slot
  rsAssert aborts kernel.isSome
  let sig ← HeapArray.read self.mForEachSignatures slot
  return { mtls with kernel := kernel, sig := sig }

/-- What `forEachKernelSetup` finds for a slot of a loaded record: below the kernel count
the kernel resolved for the slot and the slot's signature, from the count on a read past
the end of `mForEachFunctions`. -/
theorem forEachKernelSetup_of_loaded (aborts : Bool) (r : RsInfo) (env : LoadEnv) (h : Nat)
    (self : RsdCpuScriptImpl) (this slot : Nat) (mtls : MTLaunchStruct) (hk : r.kernels ≠ []) :
    forEachKernelSetup aborts (r.loaded env h self) this slot mtls =
      match r.kernels[slot]? with
      | some k =>
        if (env.dlsym (k.2 ++ ".expand".toList)).isSome || !aborts then
          .ok { mtls with
            script := some this
            slot := slot
            kernel := env.dlsym (k.2 ++ ".expand".toList)
            sig := k.1.toNat }
        else .abort
      | none => .fault .outOfBounds := by
  cases hs : r.kernels[slot]? with
  | none => simp [forEachKernelSetup, RsInfo.loaded, hk, HeapArray.read, hs]
  | some k =>
    simp only [forEachKernelSetup, RsInfo.loaded, hk, if_false, HeapArray.read, rsAssert,
      List.get?_eq_getElem?, List.getElem?_map, hs, Option.map_some', Bool.not_true, Bool.false_eq_true, Exec.ok_bind]
    split_ifs <;> rfl

/-- **What `forEachKernelSetup` finds after `init` reads a record.** Take a record with at
least one kernel, read by `init` from a descriptor that holds its chunked text, with the
library loaded, every array allocated and every function and every kernel past the first
resolving. Either the build's `rsAssert` aborts on a record with object slots and no
variables, or `init` succeeds, and then for every slot `forEachKernelSetup` sets, below
the kernel count, the kernel `dlsym` resolved for the slot's name and `.expand`, and the
slot's signature; a NULL kernel stops it only where `rsAssert` aborts. At or past the
count it reads past the end of `mForEachFunctions`. -/
theorem forEachKernelSetup_loaded (aborts : Bool) (env : LoadEnv) (ctx : Ctx)
    (self : RsdCpuScriptImpl) (r : RsInfo) (h : Nat) (mem : Mem) (hso : env.so = some h)
    (hinfo : env.rsInfo = some mem) (hr : Reads mem 0 r.chunked) (hrd : r.Readable)
    (hnew : ∀ t, env.newOk t = true) (hfuncs : ∀ f ∈ r.funcs, (env.dlsym f).isSome)
    (hkernels : ∀ k ∈ r.kernels.tail, (env.dlsym (k.2 ++ ".expand".toList)).isSome)
    (hk : r.kernels ≠ []) :
    (aborts = true ∧ r.vars = [] ∧ r.slots ≠ [] ∧ init aborts env ctx self = .abort) ∨
    ∃ s, init aborts env ctx self = .ok (true, ctx.lockMutex.unlockMutex, s) ∧
      ∀ this slot mtls, forEachKernelSetup aborts s this slot mtls =
        match r.kernels[slot]? with
        | some k =>
          if (env.dlsym (k.2 ++ ".expand".toList)).isSome || !aborts then
            .ok { mtls with
              script := some this
              slot := slot
              kernel := env.dlsym (k.2 ++ ".expand".toList)
              sig := k.1.toNat }
          else .abort
        | none => .fault .outOfBounds := by
  have hi := init_chunks aborts env ctx self r h mem hso hinfo hr hrd hnew hfuncs hkernels
  split_ifs at hi with hab
  · exact .inl ⟨hab.1, hab.2.1, hab.2.2, hi⟩
  · exact .inr ⟨_, hi, fun this slot mtls => forEachKernelSetup_of_loaded aborts r env h self this slot mtls hk⟩

/-- A record with one kernel, `3 - k`, read by `init` where `k.expand` resolves to 7:
`forEachKernelSetup` sets that kernel at slot 0 and reads past the table at slot 1. -/
theorem forEachKernelSetup_loaded_one_kernel :
    let r : RsInfo := ⟨[], [], [(3, "k".toList)], []⟩
    let env : LoadEnv := ⟨some 1, fun _ => some 7, some (memOf r.chunked), fun _ => true, fun _ => 'x'⟩
    (false = true ∧ r.vars = [] ∧ r.slots ≠ [] ∧
        init false env ⟨[], [], [], none⟩ (RsdCpuScriptImpl.construct 0 0) = .abort) ∨
    ∃ s, init false env ⟨[], [], [], none⟩ (RsdCpuScriptImpl.construct 0 0) =
        .ok (true, (Ctx.mk [] [] [] none).lockMutex.unlockMutex, s) ∧
      ∀ this slot mtls, forEachKernelSetup false s this slot mtls =
        match r.kernels[slot]? with
        | some k =>
          if (env.dlsym (k.2 ++ ".expand".toList)).isSome || !false then
            .ok { mtls with
              script := some this
              slot := slot
              kernel := env.dlsym (k.2 ++ ".expand".toList)
              sig := k.1.toNat }
          else .abort
        | none => .fault .outOfBounds :=
  forEachKernelSetup_loaded false _ _ _ _ 1 _ rfl rfl (reads_memOf _)
    ⟨by decide, by decide, by decide, by decide, by decide⟩ (fun _ => rfl) (by decide) (by decide)
    (by decide)

/-- A record with one kernel, loaded by `init`: `forEachKernelSetup` reads past the end of
`mForEachFunctions` at slot 1, which nothing checks, in either build of `rsAssert`. -/
theorem forEachKernelSetup_reads_past_kernels :
    let env : LoadEnv := ⟨some 1, fun _ => some 7, some (memOf
      "exportVarCount: 0\nexportFuncCount: 0\nexportForEachCount: 1\n0 - root\nobjectSlotCount: 0\n".toList),
      fun _ => true, fun _ => 'x'⟩
    ∀ aborts : Bool,
      (Prod.fst <$> init aborts env ⟨[], [], [], none⟩ (RsdCpuScriptImpl.construct 0 0)) = .ok true ∧
      (do let (_, _, s) ← init aborts env ⟨[], [], [], none⟩ (RsdCpuScriptImpl.construct 0 0)
          forEachKernelSetup aborts s 0 1 MTLaunchStruct.zero) = .fault .outOfBounds := by
  decide

end Compat

namespace Bcc

/-- What the full build's `forEachKernelSetup` reads of the executable: the kernel
addresses, `getExportForeachFuncAddrs()`, and the kernels of its metadata,
`getInfo().getExportForeachFuncs()`, as name and signature. -/
structure Executable where
  exportForeachFuncAddrs : List (Option Nat)
  exportForeachFuncs : List (String × Nat)

/-- `v[i]` on a `std::vector`, which does not check `i`. -/
def vectorAt {α : Type} (v : List α) (i : Nat) : Exec α :=
  match v[i]? with
  | some x => .ok x
  | none => .fault .outOfBounds

/-- **`RsdCpuScriptImpl::forEachKernelSetup`** in the full build. -/
def forEachKernelSetup (aborts : Bool) (exec : Executable) (this slot : Nat)
    (mtls : MTLaunchStruct) : Exec MTLaunchStruct := do
  let mtls := { mtls with script := some this, slot := slot }
  rsAssert aborts (decide (slot < exec.exportForeachFuncAddrs.length))
  let kernel ← vectorAt exec.exportForeachFuncAddrs slot
  rsAssert aborts kernel.isSome
  let sig := (← vectorAt exec.exportForeachFuncs slot).2
  return { mtls with kernel := kernel, sig := sig }

end Bcc

end RsCpuScript
