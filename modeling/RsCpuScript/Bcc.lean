import RsCpuScript.Script

/-!
# `init` in the full build

Without `RS_COMPATIBILITY_LIB`, `init` obtains a compiled executable for the script. It
either loads one bcc left in the cache, or has bcc build the bitcode against a core
library and then loads the result. The entry points come from the executable. The
collaborators are the bcc compiler driver, the bitcode metadata extractor and the
property store. Their answers are the `BccEnv`, and the preprocessor macros the code
tests are the `BuildConfig`.

`init` locks the context mutex on entry. Three of its returns unlock it, but two do not:
the one after a failed metadata extraction and the one after an unknown float precision.
`init_ctx` says which returns leave the mutex held. Together with
`Compat.init_unlocks_once` it settles how the two builds use the lock.
-/

namespace RsCpuScript

namespace Bcc

/-- The float precision `MetadataExtractor::getRSFloatPrecision` reports. -/
inductive RSFloatPrecision where
  | imprecise
  | relaxed
  | full
  /-- Any other value, the `default:` of the switch. -/
  | other
  deriving DecidableEq, Repr

/-- The core library bcc links the script against. -/
inductive CoreLib where
  /-- `bcc::RSInfo::LibCLCorePath` -/
  | core
  /-- `bcc::RSInfo::LibCLCoreNEONPath` -/
  | neon
  /-- `bcc::RSInfo::LibCLCoreX86Path` -/
  | x86
  /-- `bcc::RSInfo::LibCLCoreDebugPath` -/
  | debug
  /-- The path a `selectRTCallback` returns. -/
  | selected (path : String)
  deriving DecidableEq, Repr

/-- The macros of the build that `init` tests. -/
structure BuildConfig where
  /-- `ARCH_ARM_HAVE_NEON` -/
  armHaveNeon : Bool
  /-- `__i386__` -/
  i386 : Bool
  /-- `RS_SERVER` -/
  rsServer : Bool

/-- **What the full build's collaborators return.** -/
structure BccEnv where
  /-- Whether `new bcc::BCCContext()` returns storage. -/
  contextOk : Bool
  /-- Whether `new bcc::RSCompilerDriver()` returns storage. -/
  driverOk : Bool
  /-- `ME.extract()` -/
  extractOk : Bool
  /-- `ME.getRSFloatPrecision()` -/
  precision : RSFloatPrecision
  /-- What `mCtx->getSelectRTCallback()` would return for the bitcode, `none` for no
  callback. -/
  selectRT : Option String
  /-- `mCtx->getContext()->getContextType() == RS_CONTEXT_TYPE_DEBUG` -/
  debugContext : Bool
  /-- `property_get(key, …)`: the value of a set property. -/
  property : String → Option String
  /-- The executable `loadScript` finds in the cache, `none` for NULL. -/
  loadCached : Option Nat
  /-- Whether the build (`mCompilerDriver->build` or `compileBitcode`) succeeds against a
  core library. -/
  build : CoreLib → Bool
  /-- The executable `loadScript` returns after a successful build. -/
  loadBuilt : Option Nat
  /-- `exec->getSymbolAddress(name)` -/
  symbol : String → Option Nat
  /-- `info->getExportVarNames().size()` -/
  exportVarCount : Nat
  /-- Whether `new Allocation *[…]` returns storage. -/
  boundAllocsOk : Bool

/-- `property_get(key, buf, default)`: the property's value, or `default` when it is not
set. -/
def propertyGet (env : BccEnv) (key default : String) : String := (env.property key).getD default

/-- `is_force_recompile()`: a precision override, or `debug.rs.forcerecompile` set to `1`
or `true`, forces a recompile. -/
def isForceRecompile (cfg : BuildConfig) (env : BccEnv) : Bool :=
  if cfg.rsServer then false
  else if propertyGet env "debug.rs.precision" "" ≠ "" then true
  else
    let v := propertyGet env "debug.rs.forcerecompile" "0"
    v == "1" || v == "true"

/-- **`RsdCpuScriptImpl` in the full build**, the fields `init` sets. -/
structure RsdCpuScriptImpl where
  mCompilerContext : Bool
  mCompilerDriver : Bool
  /-- `mCompilerDriver->setDebugContext(true)` was called. -/
  debugContextSet : Bool
  mExecutable : Option Nat
  mRoot : Option Nat
  mRootExpand : Option Nat
  mInit : Option Nat
  mFreeChildren : Option Nat
  mBoundAllocs : Option (HeapArray (Option Nat))
  mIsThreadable : Bool
  deriving DecidableEq, Repr

/-- `RsdCpuScriptImpl::RsdCpuScriptImpl(ctx, s)` in the full build: every pointer NULL and
the script threadable. -/
def RsdCpuScriptImpl.construct : RsdCpuScriptImpl where
  mCompilerContext := false
  mCompilerDriver := false
  debugContextSet := false
  mExecutable := none
  mRoot := none
  mRootExpand := none
  mInit := none
  mFreeChildren := none
  mBoundAllocs := none
  mIsThreadable := true

/-- The core library after the precision and the architecture are taken into account,
and before the callback and the debug context are. -/
def precisionCoreLib (cfg : BuildConfig) : RSFloatPrecision → Option CoreLib
  | .imprecise | .relaxed => some (if cfg.armHaveNeon then .neon else .core)
  | .full => some .core
  | .other => none

/-- The core library `init` passes to the build. -/
def coreLib (cfg : BuildConfig) (env : BccEnv) (lib : CoreLib) : CoreLib :=
  if env.debugContext then .debug
  else match env.selectRT with
    | some path => .selected path
    | none => if cfg.i386 then .x86 else lib

/-- The executable `init` obtains: from the cache unless the context is a debug one or a
recompile is forced, else from a successful build. -/
def prepareExecutable (cfg : BuildConfig) (env : BccEnv) (lib : CoreLib) : Option Nat :=
  let cached := if env.debugContext || isForceRecompile cfg env then none else env.loadCached
  match cached with
  | some exec => some exec
  | none => if env.build (coreLib cfg env lib) then env.loadBuilt else none

/-- **`RsdCpuScriptImpl::init`** in the full build: what it returns, the context and the
object after it. -/
def init (cfg : BuildConfig) (env : BccEnv) (ctx : Ctx) (self : RsdCpuScriptImpl) :
    Exec (Bool × Ctx × RsdCpuScriptImpl) :=
  let ctx := ctx.lockMutex
  let self := { self with
    mCompilerContext := env.contextOk
    mCompilerDriver := false
    mExecutable := none }
  if !env.contextOk then .ok (false, ctx.unlockMutex, self)
  else
    let self := { self with mCompilerDriver := env.driverOk }
    if !env.driverOk then .ok (false, ctx.unlockMutex, self)
    else if !env.extractOk then .ok (false, ctx, self)
    else match precisionCoreLib cfg env.precision with
      | none => .ok (false, ctx, self)
      | some lib =>
        let self := { self with debugContextSet := env.debugContext }
        match prepareExecutable cfg env lib with
        | none => .ok (false, ctx.unlockMutex, self)
        | some exec =>
          let self := { self with
            mExecutable := some exec
            mRoot := env.symbol "root"
            mRootExpand := env.symbol "root.expand"
            mInit := env.symbol "init"
            mFreeChildren := env.symbol ".rs.dtor" }
          if 0 < env.exportVarCount then
            match HeapArray.new env.boundAllocsOk env.exportVarCount none with
            | some b => .ok (true, ctx.unlockMutex, { self with mBoundAllocs := some b })
            | none => .fault .nullDeref
          else .ok (true, ctx.unlockMutex, self)

/-- **Which returns of the full build's `init` leave the mutex held**: every return locks
it once, and unlocks it unless the metadata extraction failed or the precision is
unknown. -/
theorem init_ctx (cfg : BuildConfig) (env : BccEnv) (ctx : Ctx) (self : RsdCpuScriptImpl)
    (r : Bool × Ctx × RsdCpuScriptImpl) (h : init cfg env ctx self = .ok r) :
    r.2.1 = if env.contextOk ∧ env.driverOk ∧
        (env.extractOk = false ∨ precisionCoreLib cfg env.precision = none)
      then ctx.lockMutex else ctx.lockMutex.unlockMutex := by
  unfold init at h
  split at h
  · cases h; simp_all
  split at h
  · cases h; simp_all
  split at h
  · cases h; simp_all
  split at h
  · cases h; simp_all
  split at h
  · cases h; simp_all
  split at h
  · split at h
    · cases h; simp_all
    · cases h
  · cases h; simp_all

/-- A run of `init` to its end, in a build without NEON or x86 code: the executable
is loaded from the cache and the mutex is unlocked. -/
theorem init_ctx_cached :
    let env : BccEnv := ⟨true, true, true, .full, none, false, fun _ => none, some 7,
      fun _ => false, none, fun _ => none, 0, true⟩
    ∃ r, init ⟨false, false, false⟩ env ⟨[], [], [], none⟩
        ⟨false, false, false, none, none, none, none, none, none, true⟩ = .ok r ∧
      r.2.1 = (if env.contextOk ∧ env.driverOk ∧
          (env.extractOk = false ∨ precisionCoreLib ⟨false, false, false⟩ env.precision = none)
        then Ctx.lockMutex ⟨[], [], [], none⟩ else (Ctx.lockMutex ⟨[], [], [], none⟩).unlockMutex) :=
  have h : init ⟨false, false, false⟩ ⟨true, true, true, .full, none, false, fun _ => none, some 7,
      fun _ => false, none, fun _ => none, 0, true⟩ ⟨[], [], [], none⟩
      ⟨false, false, false, none, none, none, none, none, none, true⟩ = .ok _ := rfl
  ⟨_, h, init_ctx _ _ _ _ _ h⟩

/-- Bitcode whose metadata cannot be extracted: `init` returns false with the mutex still
locked. -/
theorem init_keeps_lock_on_bad_metadata :
    let env : BccEnv := ⟨true, true, false, .full, none, false, fun _ => none, none,
      fun _ => true, none, fun _ => none, 0, true⟩
    (fun r => (r.1, r.2.1.mutexLog)) <$> init ⟨false, false, false⟩ env ⟨[], [], [], none⟩
        ⟨false, false, false, none, none, none, none, none, none, true⟩ = .ok (false, [.lock]) :=
  rfl

end Bcc

end RsCpuScript
