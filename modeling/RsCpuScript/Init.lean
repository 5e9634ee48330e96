import RsCpuScript.Scanf
import RsCpuScript.Script

/-!
# `init` in the compatibility build

In the compatibility build `init` loads the script's shared library and reads its
`.rs.info` descriptor: a count line `exportVarCount: n` and `n` variable names, then the
functions, the kernels (`signature - name` lines) and the object slots, each section's
count saying how many lines it takes. Each exported symbol is resolved with `dlsym`. Any
failure jumps to the `error:` label, which unlocks the mutex, releases the arrays and
closes the library.

The external calls are the `LoadEnv`: what `loadSharedLibrary` and every `dlsym` return,
the descriptor's bytes, and whether each `new[]` succeeds. `init` is split as the source
is, one function per section and one per loop; each returns `false` with the object as
it stands where the source jumps to `error:`.
-/

namespace RsCpuScript

namespace Compat

/-- The arrays `init` allocates, to say which `new[]` succeeds. -/
inductive Table where
  | fieldIsObject
  | fieldAddress
  | invokeFunctions
  | forEachSignatures
  | forEachFunctions
  | boundAllocs
  deriving DecidableEq, Repr

/-- **What `init`'s external calls return.** -/
structure LoadEnv where
  /-- The handle `loadSharedLibrary(cacheDir, resName)` returns, `none` for NULL. -/
  so : Option Nat
  /-- `dlsym(mScriptSO, name)`, `none` for NULL. -/
  dlsym : List Char → Option Nat
  /-- The bytes `dlsym(mScriptSO, ".rs.info")` points at, `none` for NULL: a C string, whose
  object ends at its NUL. -/
  rsInfo : Option Mem
  /-- Whether the `new[]` of each array returns storage. -/
  newOk : Table → Bool
  /-- What an uninitialised `char` array on the stack holds. -/
  stack : Nat → Char

/-- The state of the parse: the object, `line`, the cursor into `rsInfo`, and
`varCount`. -/
structure Parse where
  self : RsdCpuScriptImpl
  line : CharBuf
  pos : Nat
  varCount : Nat

variable (aborts : Bool) (env : LoadEnv)

/-- A read from the cursor `p` into the string at `str`. `.rs.info` is a C string, so once
the cursor has passed its NUL the read is past the end of the object. -/
def checkCursor : Option Mem → Nat → Exec Unit
  | some mem, p => if NulFree mem p then pure () else .fault .pastEnd
  | none, _ => pure ()

theorem checkCursor_some {mem : Mem} {p : Nat} (h : NulFree mem p) :
    checkCursor (some mem) p = .ok () := if_pos h

theorem checkCursor_some_of_not {mem : Mem} {p : Nat} (h : ¬ NulFree mem p) :
    checkCursor (some mem) p = .fault .pastEnd := if_neg h

namespace Parse

/-- The object's fields replaced by `f`. -/
def update (st : Parse) (f : RsdCpuScriptImpl → RsdCpuScriptImpl) : Parse :=
  { st with self := f st.self }

/-- `strgets(line, MAXLINE, &rsInfo)`, `none` for its NULL. -/
def nextLine (st : Parse) : Exec (Option Parse) := do
  checkCursor env.rsInfo st.pos
  match ← strgets st.line maxLine env.rsInfo st.pos with
  | some (line, pos) => return some { st with line := line, pos := pos }
  | none => return none

/-- A count line: `strgets`, then `sscanf(line, key "%zu", &count) == 1`. -/
def count (st : Parse) (key : String) : Exec (Option (Parse × Nat)) := do
  let some st ← st.nextLine env | return none
  match sscanf (countFmt key) (← st.line.str) with
  | [.num n] => return some (st, n)
  | _ => return none

/-- A symbol-name line: `strgets`, then the last newline cut with `strrchr`; the name is
the string `line` then holds. -/
def name (st : Parse) : Exec (Option (Parse × List Char)) := do
  let some st ← st.nextLine env | return none
  let line ← match strrchr (← st.line.str) '\n' with
    | some i => st.line.set i '\x00'
    | none => pure st.line
  return some ({ st with line := line }, ← line.str)

end Parse

/-- The loop of the variable section, from slot `i` with `k` slots left:
`mFieldAddress[i] = dlsym(mScriptSO, line)`, a NULL address being no error. -/
def varLoop : Nat → Nat → Parse → Exec (Bool × Parse)
  | 0, _, st => return (true, st)
  | k + 1, i, st => do
    let some (st, name) ← st.name env | return (false, st)
    let fa ← HeapArray.write st.self.mFieldAddress i (env.dlsym name)
    varLoop k (i + 1) (st.update ({ · with mFieldAddress := fa }))

/-- The variable section: `exportVarCount`, `mFieldIsObject` and `mFieldAddress`. -/
def varSection (st : Parse) : Exec (Bool × Parse) := do
  let some (st, varCount) ← st.count env exportVarStr | return (false, st)
  let st := { st.update ({ · with mExportedVariableCount := varCount }) with varCount := varCount }
  if 0 < varCount then
    let st := st.update ({ · with
      mFieldIsObject := HeapArray.new (env.newOk .fieldIsObject) varCount false })
    if st.self.mFieldIsObject.isNone then return (false, st)
    let st := st.update ({ · with
      mFieldAddress := HeapArray.new (env.newOk .fieldAddress) varCount none })
    if st.self.mFieldAddress.isNone then return (false, st)
    varLoop env varCount 0 st
  else return (true, st)

/-- The loop of the function section: `mInvokeFunctions[i] = dlsym(mScriptSO, line)`, a
NULL address being an error. -/
def funcLoop : Nat → Nat → Parse → Exec (Bool × Parse)
  | 0, _, st => return (true, st)
  | k + 1, i, st => do
    let some (st, name) ← st.name env | return (false, st)
    let fs ← HeapArray.write st.self.mInvokeFunctions i (env.dlsym name)
    let st := st.update ({ · with mInvokeFunctions := fs })
    if env.dlsym name = none then return (false, st)
    funcLoop k (i + 1) st

/-- The function section: `exportFuncCount` and `mInvokeFunctions`. -/
def funcSection (st : Parse) : Exec (Bool × Parse) := do
  let some (st, funcCount) ← st.count env exportFuncStr | return (false, st)
  let st := st.update ({ · with mExportedFunctionCount := funcCount })
  if 0 < funcCount then
    let st := st.update ({ · with
      mInvokeFunctions := HeapArray.new (env.newOk .invokeFunctions) funcCount none })
    if st.self.mInvokeFunctions.isNone then return (false, st)
    funcLoop env funcCount 0 st
  else return (true, st)

/-- The `tmpName` of a kernel line: `%500s` writes the token into an uninitialised
`char tmpName[MAXLINE]`, then `strncat(tmpName, ".expand", MAXLINE-1-strlen(tmpName))`. -/
def expandName (tok : List Char) : Exec CharBuf := do
  let tmpName ← (CharBuf.mk maxLine env.stack).setList 0 (tok ++ ['\x00'])
  let len := (← tmpName.str).length
  strncat tmpName ".expand".toList (sizeT ((maxLine : Int) - 1 - len))

/-- The loop of the kernel section. A line `sig - name` is read with `"%u - %500s"` into
`tmpSig` and `tmpName`, `".expand"` is appended, and the expanded entry point is looked
up; only kernel 0 may lack one. -/
def forEachLoop : Nat → Nat → Parse → Exec (Bool × Parse)
  | 0, _, st => return (true, st)
  | k + 1, i, st => do
    let some st ← st.nextLine env | return (false, st)
    match sscanf forEachFmt (← st.line.str) with
    | [.num tmpSig, .str tok] =>
      let tmpName ← expandName env tok
      let sigs ← HeapArray.write st.self.mForEachSignatures i tmpSig
      let fn := env.dlsym (← tmpName.str)
      let fns ← HeapArray.write st.self.mForEachFunctions i fn
      let st := st.update ({ · with mForEachSignatures := sigs, mForEachFunctions := fns })
      if i ≠ 0 ∧ fn = none then return (false, st)
      forEachLoop k (i + 1) st
    | _ => return (false, st)

/-- The kernel section: `exportForEachCount`, `mForEachSignatures` and
`mForEachFunctions`. The count is not kept. -/
def forEachSection (st : Parse) : Exec (Bool × Parse) := do
  let some (st, forEachCount) ← st.count env exportForEachStr | return (false, st)
  if 0 < forEachCount then
    let st := st.update ({ · with
      mForEachSignatures := HeapArray.new (env.newOk .forEachSignatures) forEachCount 0 })
    if st.self.mForEachSignatures.isNone then return (false, st)
    let st := st.update ({ · with
      mForEachFunctions := HeapArray.new (env.newOk .forEachFunctions) forEachCount none })
    if st.self.mForEachFunctions.isNone then return (false, st)
    forEachLoop env forEachCount 0 st
  else return (true, st)

/-- The loop of the object-slot section: `mFieldIsObject[varNum] = true` for a slot
below `varCount`, any other slot ignored. -/
def slotLoop : Nat → Parse → Exec (Bool × Parse)
  | 0, st => return (true, st)
  | k + 1, st => do
    let some st ← st.nextLine env | return (false, st)
    match sscanf slotFmt (← st.line.str) with
    | [.num varNum] =>
      if varNum < st.varCount then
        let isObj ← HeapArray.write st.self.mFieldIsObject varNum true
        slotLoop k (st.update ({ · with mFieldIsObject := isObj }))
      else slotLoop k st
    | _ => return (false, st)

/-- The object-slot section, `objectSlotCount`, guarded by `rsAssert(varCount > 0)`. -/
def slotSection (st : Parse) : Exec (Bool × Parse) := do
  let some (st, objectSlotCount) ← st.count env objectSlotStr | return (false, st)
  if 0 < objectSlotCount then
    rsAssert aborts (decide (0 < st.varCount))
    slotLoop env objectSlotCount st
  else return (true, st)

/-- **The parse of `.rs.info`**, from the first `strgets` to `mBoundAllocs`, whose
`new[]` is used unchecked by `memset`. -/
def parseInfo (st : Parse) : Exec (Bool × Parse) := do
  let (go, st) ← varSection env st
  if !go then return (false, st)
  let (go, st) ← funcSection env st
  if !go then return (false, st)
  let (go, st) ← forEachSection env st
  if !go then return (false, st)
  let (go, st) ← slotSection aborts env st
  if !go then return (false, st)
  if 0 < st.varCount then
    match HeapArray.new (env.newOk .boundAllocs) st.varCount none with
    | some b => return (true, st.update ({ · with mBoundAllocs := some b }))
    | none => .fault .nullDeref
  else return (true, st)

/-- The `error:` label: unlock, release every array, close the library, return false.
The fields are not reset, so they keep naming what was released. -/
def initError (ctx : Ctx) (self : RsdCpuScriptImpl) : Exec (Bool × Ctx × RsdCpuScriptImpl) := do
  let ctx := ctx.unlockMutex
  let mInvokeFunctions ← HeapArray.delete self.mInvokeFunctions
  let mForEachFunctions ← HeapArray.delete self.mForEachFunctions
  let mFieldAddress ← HeapArray.delete self.mFieldAddress
  let mFieldIsObject ← HeapArray.delete self.mFieldIsObject
  let mForEachSignatures ← HeapArray.delete self.mForEachSignatures
  let mBoundAllocs ← HeapArray.delete self.mBoundAllocs
  let mScriptSO ← match self.mScriptSO with
    | some h => some <$> dlclose h
    | none => pure none
  return (false, ctx, { self with
    mInvokeFunctions := mInvokeFunctions, mForEachFunctions := mForEachFunctions,
    mFieldAddress := mFieldAddress, mFieldIsObject := mFieldIsObject,
    mForEachSignatures := mForEachSignatures, mBoundAllocs := mBoundAllocs,
    mScriptSO := mScriptSO })

/-- The parse state once the library `h` is loaded: the entry points looked up with
`dlsym`, an uninitialised `line` and the cursor at the start of `.rs.info`. -/
def initParse (self : RsdCpuScriptImpl) (h : Nat) : Parse where
  self := { self with
    mScriptSO := some ⟨h, true⟩
    mRoot := env.dlsym "root".toList
    mRootExpand := env.dlsym "root.expand".toList
    mInit := env.dlsym "init".toList
    mFreeChildren := env.dlsym ".rs.dtor".toList }
  line := ⟨maxLine, env.stack⟩
  pos := 0
  varCount := 0

/-- **`RsdCpuScriptImpl::init`** in the compatibility build: what it returns, the
context and the object after it. -/
def init (ctx : Ctx) (self : RsdCpuScriptImpl) : Exec (Bool × Ctx × RsdCpuScriptImpl) := do
  let ctx := ctx.lockMutex
  match env.so with
  | none => initError ctx { self with mScriptSO := none }
  | some h =>
    let (go, st) ← parseInfo aborts env (initParse env self h)
    if go then return (true, ctx.unlockMutex, st.self) else initError ctx st.self

theorem init_of_so {ctx : Ctx} {self : RsdCpuScriptImpl} {h : Nat} (hso : env.so = some h) :
    init aborts env ctx self = parseInfo aborts env (initParse env self h) >>= fun r =>
      if r.1 then pure (true, ctx.lockMutex.unlockMutex, r.2.self)
      else initError ctx.lockMutex r.2.self := by
  simp only [init, hso]

end Compat

end RsCpuScript
