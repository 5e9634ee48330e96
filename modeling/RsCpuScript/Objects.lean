import RsCpuScript.GlobalVar
import RsCpuScript.Tables

/-!
# Object globals over a script's lifetime

A global that holds an object keeps a system reference to it. `setGlobalObj` stores an
object into a variable through the runtime's `rsrSetObject`, which takes a reference to
the new object and gives back the one to the old. The destructor gives back what the
variables the script marks as objects still hold, through `rsrClearObject`: from
`mFieldIsObject` in the compatibility build, from the executable's object slots in the
full build.

Both destructors release the same thing, the address of each object variable whose
address is not NULL, in slot order (`objectAddrs`): `Compat.destroy_clears` and
`Bcc.destroy_clears`. A handle is a pointer of `ptrSize` bytes in the script's memory,
NULL when it is 0. When the variables lie apart (`Separate`), a store into one leaves what
the others hold, and along any run of `setGlobalObj` a count minus the references the
variables hold stays as it was (`Balanced`). The destructor then subtracts what the
object variables hold. So over a whole lifetime every reference is given back except those
stored in variables that are not marked as objects: `setGlobalObj` does not check the
mark, whose `rsAssert` is commented out.
-/

namespace RsCpuScript

open Compat (Counts RefCall)

/-! ## The runtime's object calls -/

/-- `p->incSysRef()` (`d = 1`) or `p->decSysRef()` (`d = -1`) unless the pointer `p` is
NULL: the count of the object at `p` moved by `d`. -/
def moveRef (d : Int) (c : Counts) (p : Nat) : Counts :=
  if p = 0 then c else RefCall.apply c ⟨p, d⟩

/-- **What the object calls act on**: the system reference count of every object, by
address, and the memory the handles live in. -/
structure ObjGlobals where
  counts : Counts
  mem : Memory

/-- `rsrSetObject(rsc, dst, src)` of the runtime, for pointers of `ptrSize` bytes:
`src->incSysRef()` unless `src` is NULL, then `(*dst)->decSysRef()` unless `*dst` is NULL,
then `*dst = src`. -/
def rsrSetObject (ptrSize : Nat) (st : ObjGlobals) (dst src : Nat) : ObjGlobals :=
  ⟨moveRef (-1) (moveRef 1 st.counts src) (st.mem.loadPtr ptrSize dst), st.mem.storePtr ptrSize dst src⟩

/-- `rsrClearObject(rsc, dst)` of the runtime: `(*dst)->decSysRef()` unless `*dst` is
NULL, then `*dst = NULL`. -/
def rsrClearObject (ptrSize : Nat) (st : ObjGlobals) (dst : Nat) : ObjGlobals :=
  ⟨moveRef (-1) st.counts (st.mem.loadPtr ptrSize dst), st.mem.storePtr ptrSize dst 0⟩

/-- `setGlobalObj` once the slot's address `destPtr` is read, the same in both builds:
nothing for a NULL address. -/
def setObjAt (ptrSize : Nat) (destPtr : Option Nat) (data : Nat) (st : ObjGlobals) : ObjGlobals :=
  match destPtr with
  | none => st
  | some a => rsrSetObject ptrSize st a data

namespace Compat

/-- **`RsdCpuScriptImpl::setGlobalObj`** in the compatibility build, with the slot's
address read from `mFieldAddress[slot]`. -/
def setGlobalObj (ptrSize : Nat) (self : RsdCpuScriptImpl) (slot data : Nat) (st : ObjGlobals) :
    Exec ObjGlobals := do
  let destPtr ← HeapArray.read self.mFieldAddress slot
  pure (setObjAt ptrSize destPtr data st)

end Compat

namespace Bcc

/-- **`RsdCpuScriptImpl::setGlobalObj`** in the full build, with the slot's address read
from `mExecutable->getExportVarAddrs()[slot]`. -/
def setGlobalObj (ptrSize : Nat) (exec : ExecutableInfo) (slot data : Nat) (st : ObjGlobals) :
    Exec ObjGlobals := do
  let destPtr ← vectorAt exec.exportVarAddrs slot
  pure (setObjAt ptrSize destPtr data st)

/-- The object loop of the full build's destructor: `getExportVarAddrs()` and
`getInfo().getObjectSlots()` walked side by side while neither iterator is at its end, and
`rsrClearObject` on the address of a non-zero object slot unless the address is NULL. -/
def clearObjectSlots : List (Option Nat) → List Nat → Ctx → Ctx
  | addr :: addrs, isObject :: isObjects, ctx =>
    clearObjectSlots addrs isObjects <|
      if isObject ≠ 0 then
        match addr with
        | some a => ctx.clearObject a
        | none => ctx
      else ctx
  | _, _, ctx => ctx

/-- **`RsdCpuScriptImpl::~RsdCpuScriptImpl()`** in the full build, for the executable's
variable addresses and object slots: the object loop when there is an executable, then the
deletes. The compiler context, the driver and the executable are released by a plain
`if (p) delete p` and can not fail; `mBoundAllocs` is a `new[]` array. -/
def destroy (exec : ExecutableInfo) (objectSlots : List Nat) (self : RsdCpuScriptImpl) (ctx : Ctx) :
    Exec (Ctx × RsdCpuScriptImpl) := do
  let ctx := if self.mExecutable.isSome then clearObjectSlots exec.exportVarAddrs objectSlots ctx
    else ctx
  let mBoundAllocs ← HeapArray.delete self.mBoundAllocs
  return (ctx, { self with
    mCompilerContext := false, mCompilerDriver := false, mExecutable := none,
    mBoundAllocs := mBoundAllocs })

end Bcc

/-! ## What a destructor should release -/

/-- **The objects a destructor should release**: the address of every variable marked as
an object, unless the address is NULL, in slot order, over the variables both tables
cover. -/
def objectAddrs : List (Option Nat) → List Bool → List Nat
  | addr :: addrs, isObject :: isObjects =>
    (if isObject then addr.toList else []) ++ objectAddrs addrs isObjects
  | _, _ => []

/-- The references to the object at `o` that the handles of `ptrSize` bytes at the
addresses `as` hold; a NULL handle refers to no object. -/
def heldRefs (ptrSize : Nat) (m : Memory) (as : List Nat) (o : Nat) : Nat :=
  as.countP fun a => o ≠ 0 ∧ m.loadPtr ptrSize a = o

/-- Handles of `ptrSize` bytes at two different addresses of `as` do not overlap. -/
def Apart (ptrSize : Nat) (as : List Nat) : Prop :=
  ∀ a ∈ as, ∀ b ∈ as, a ≠ b → a + ptrSize ≤ b ∨ b + ptrSize ≤ a

/-- **The run invariant**: measured over the addresses `V`, every count minus the
references the handles there hold is what it was in `st₀`. -/
def Balanced (ptrSize : Nat) (V : List Nat) (st₀ st : ObjGlobals) : Prop :=
  ∀ o, st.counts o - heldRefs ptrSize st.mem V o = st₀.counts o - heldRefs ptrSize st₀.mem V o

/-! ## Counting references -/

section Counting

variable {ptrSize : Nat}

theorem moveRef_apply (d : Int) (c : Counts) (p o : Nat) :
    moveRef d c p o = c o + if o ≠ 0 ∧ p = o then d else 0 := by
  unfold moveRef RefCall.apply
  by_cases hp : p = 0
  · subst hp; simp; omega
  · by_cases ho : o = p
    · subst ho; simp [hp]
    · simp [hp, ho, Ne.symm ho]

theorem heldRefs_cons (m : Memory) (a : Nat) (as : List Nat) (o : Nat) :
    heldRefs ptrSize m (a :: as) o =
      heldRefs ptrSize m as o + if o ≠ 0 ∧ m.loadPtr ptrSize a = o then 1 else 0 := by
  simp [heldRefs, List.countP_cons]

theorem Apart.of_cons {a : Nat} {as : List Nat} (h : Apart ptrSize (a :: as)) : Apart ptrSize as :=
  fun x hx y hy => h x (List.mem_cons_of_mem a hx) y (List.mem_cons_of_mem a hy)

theorem Apart.sub {as bs : List Nat} (h : Apart ptrSize as) (hs : ∀ b ∈ bs, b ∈ as) :
    Apart ptrSize bs :=
  fun x hx y hy => h x (hs x hx) y (hs y hy)

/-- A store apart from the addresses leaves what they hold. -/
theorem heldRefs_store_of_apart {m : Memory} {as : List Nat} {dst : Nat} (x o : Nat)
    (h : ∀ a ∈ as, a + ptrSize ≤ dst ∨ dst + ptrSize ≤ a) :
    heldRefs ptrSize (m.storePtr ptrSize dst x) as o = heldRefs ptrSize m as o :=
  List.countP_congr fun a ha => by rw [m.loadPtr_storePtr_of_apart (h a ha)]

/-- A store of a pointer at one of the addresses, each listed once and lying apart, trades
what it held for what it stores. -/
theorem heldRefs_store_of_mem (m : Memory) {as : List Nat} {dst x : Nat} (o : Nat)
    (hn : as.Nodup) (hap : Apart ptrSize as) (h : dst ∈ as) (hx : x < 256 ^ ptrSize) :
    heldRefs ptrSize (m.storePtr ptrSize dst x) as o +
        (if o ≠ 0 ∧ m.loadPtr ptrSize dst = o then 1 else 0) =
      heldRefs ptrSize m as o + if o ≠ 0 ∧ x = o then 1 else 0 := by
  induction as with
  | nil => cases h
  | cons a as ih =>
    rw [List.nodup_cons] at hn
    rw [heldRefs_cons, heldRefs_cons]
    by_cases ha : dst = a
    · subst ha
      rw [heldRefs_store_of_apart x o fun b hb =>
        hap b (List.mem_cons_of_mem _ hb) dst (List.mem_cons_self _ _) fun e => hn.1 (e ▸ hb)]
      simp only [m.loadPtr_storePtr_self hx]
      omega
    · have hs : (m.storePtr ptrSize dst x).loadPtr ptrSize a = m.loadPtr ptrSize a :=
        m.loadPtr_storePtr_of_apart (hap a (List.mem_cons_self _ _) dst h (Ne.symm ha))
      have := ih hn.2 hap.of_cons (List.mem_of_ne_of_mem ha h)
      rw [hs]
      omega

/-- Over addresses each listed once, the references to `o` are those at the addresses in
`B` and those at the others. -/
theorem heldRefs_split (m : Memory) {V B : List Nat} (hV : V.Nodup) (hB : ∀ b ∈ B, b ∈ V)
    (o : Nat) :
    heldRefs ptrSize m V o = heldRefs ptrSize m B.dedup o + heldRefs ptrSize m (V.filter (· ∉ B)) o := by
  have hperm : (V.filter (· ∈ B)).Perm B.dedup :=
    (List.perm_ext_iff_of_nodup (hV.filter _) (List.nodup_dedup B)).mpr fun a => by
      simp only [List.mem_filter, List.mem_dedup, decide_eq_true_eq]
      exact ⟨And.right, fun h => ⟨hB a h, h⟩⟩
  rw [heldRefs, List.countP_eq_countP_filter_add _ _ (· ∈ B), hperm.countP_eq]
  simp only [heldRefs, decide_not]

end Counting

/-! ## The run invariant -/

section Run

variable {ptrSize : Nat} {V : List Nat} {st₀ : ObjGlobals}

theorem Balanced.refl (ptrSize : Nat) (V : List Nat) (st : ObjGlobals) :
    Balanced ptrSize V st st := fun _ => rfl

/-- **One `rsrSetObject` at one of the addresses keeps the balance**: the count moves by
exactly what the handles gain and lose. -/
theorem Balanced.set (hV : V.Nodup) (hap : Apart ptrSize V) {st : ObjGlobals}
    (hb : Balanced ptrSize V st₀ st) {a : Nat} (ha : a ∈ V) {x : Nat} (hx : x < 256 ^ ptrSize) :
    Balanced ptrSize V st₀ (rsrSetObject ptrSize st a x) := fun o => by
  have := heldRefs_store_of_mem st.mem o hV hap ha hx
  have := hb o
  simp only [rsrSetObject, moveRef_apply]
  split_ifs at * <;> omega

theorem Balanced.setObjAt (hV : V.Nodup) (hap : Apart ptrSize V) {st : ObjGlobals}
    (hb : Balanced ptrSize V st₀ st) {destPtr : Option Nat} (hd : ∀ a, destPtr = some a → a ∈ V)
    {x : Nat} (hx : x < 256 ^ ptrSize) : Balanced ptrSize V st₀ (setObjAt ptrSize destPtr x st) := by
  cases destPtr with
  | none => exact hb
  | some a => exact hb.set hV hap (hd a rfl) hx

end Run

/-! ## The releases -/

section Releases

variable {ptrSize : Nat}

/-- Releases apart from an address leave its handle. -/
theorem clearAll_loadPtr_of_apart (A : List Nat) (st : ObjGlobals) {b : Nat}
    (h : ∀ a ∈ A, b + ptrSize ≤ a ∨ a + ptrSize ≤ b) :
    (A.foldl (rsrClearObject ptrSize) st).mem.loadPtr ptrSize b = st.mem.loadPtr ptrSize b := by
  induction A generalizing st with
  | nil => rfl
  | cons a A ih =>
    rw [List.foldl_cons, ih _ fun a' ha' => h a' (List.mem_cons_of_mem _ ha')]
    exact st.mem.loadPtr_storePtr_of_apart (h a (List.mem_cons_self _ _))

/-- **`rsrClearObject` over a list of addresses** gives back one reference per address
holding an object, however often the address is listed, and leaves them all NULL. -/
theorem clearAll_eq (A : List Nat) (hap : Apart ptrSize A) (st : ObjGlobals) :
    (∀ o, (A.foldl (rsrClearObject ptrSize) st).counts o =
      st.counts o - heldRefs ptrSize st.mem A.dedup o) ∧
      ∀ a ∈ A, (A.foldl (rsrClearObject ptrSize) st).mem.loadPtr ptrSize a = 0 := by
  induction A generalizing st with
  | nil => exact ⟨fun _ => by simp [heldRefs], nofun⟩
  | cons a A ih =>
    obtain ⟨hc, hm⟩ := ih hap.of_cons (rsrClearObject ptrSize st a)
    have h0 : 0 < 256 ^ ptrSize := Nat.pos_pow_of_pos _ (by norm_num)
    refine ⟨fun o => ?_, fun b hb => ?_⟩
    · rw [List.foldl_cons, hc]
      simp only [rsrClearObject, moveRef_apply]
      by_cases ha : a ∈ A
      · have := heldRefs_store_of_mem st.mem o (List.nodup_dedup A)
          (hap.sub fun x hx => List.mem_cons_of_mem a (List.mem_dedup.mp hx))
          (List.mem_dedup.mpr ha) h0
        rw [List.dedup_cons_of_mem ha]
        split_ifs at * <;> omega
      · rw [List.dedup_cons_of_not_mem ha, heldRefs_cons,
          heldRefs_store_of_apart 0 o fun x hx => hap x (List.mem_cons_of_mem a (List.mem_dedup.mp hx))
            a (List.mem_cons_self _ _) fun e => ha (e ▸ List.mem_dedup.mp hx)]
        split_ifs <;> omega
    · rw [List.foldl_cons]
      by_cases hbA : b ∈ A
      · exact hm b hbA
      · obtain rfl : b = a := (List.mem_cons.mp hb).resolve_right hbA
        rw [clearAll_loadPtr_of_apart A _ fun x hx =>
          hap b (List.mem_cons_self _ _) x (List.mem_cons_of_mem _ hx) fun e => hbA (e ▸ hx)]
        exact st.mem.loadPtr_storePtr_self h0

/-- **A lifetime, abstractly**: writes that keep the balance over the addresses `V`, then
releases at addresses `A` among them. Every count ends where it started, less what `V`
held at the start, plus what the addresses of `V` outside `A` hold at the end. -/
theorem lifetime_counts {V A : List Nat} (hV : V.Nodup) (hap : Apart ptrSize V)
    (hA : ∀ a ∈ A, a ∈ V) {st₀ st : ObjGlobals} (hb : Balanced ptrSize V st₀ st) (o : Nat) :
    (A.foldl (rsrClearObject ptrSize) st).counts o =
      st₀.counts o - heldRefs ptrSize st₀.mem V o + heldRefs ptrSize st.mem (V.filter (· ∉ A)) o := by
  have hsplit : heldRefs ptrSize st.mem V o = _ := heldRefs_split st.mem hV hA o
  have := hb o
  rw [(clearAll_eq A (hap.sub hA) st).1 o]
  omega

end Releases

theorem mem_objectAddrs {a : Nat} :
    ∀ {as : List (Option Nat)} {fs : List Bool}, a ∈ objectAddrs as fs → some a ∈ as
  | [], _, h => by simp [objectAddrs] at h
  | _ :: _, [], h => by simp [objectAddrs] at h
  | addr :: as, isObject :: fs, h => by
    simp only [objectAddrs, List.mem_append] at h
    rcases h with h | h
    · split at h
      · simp only [Option.mem_toList, Option.mem_def] at h
        exact h ▸ List.mem_cons_self _ _
      · cases h
    · exact List.mem_cons_of_mem _ (mem_objectAddrs h)

/-- Every address a destructor should release is a variable address. -/
theorem objectAddrs_sub {as : List (Option Nat)} {fs : List Bool} :
    ∀ a ∈ objectAddrs as fs, a ∈ (as.filterMap id).dedup := fun _ h => by
  simpa using mem_objectAddrs h

/-- The addresses of variables of `ptrSize` bytes that lie apart hold handles that lie
apart. -/
theorem Separate.apart_addrs {addrs : List (Option Nat)} {ptrSize : Nat}
    (h : Separate addrs fun _ => ptrSize) : Apart ptrSize (addrs.filterMap id).dedup :=
  fun a ha b hb hab => h.apart (by simpa using ha) (by simpa using hb) hab

/-! ## The compatibility build -/

namespace Compat

variable {env : LoadEnv}

/-- **The object loop of the compatibility destructor**, over tables that hold its
iterations: it releases the addresses `objectAddrs` names for those slots. -/
theorem clearObjects_eq (self : RsdCpuScriptImpl) {fs : List Bool} {as : List (Option Nat)}
    (hf : self.mFieldIsObject = some ⟨fs, true⟩) (ha : self.mFieldAddress = some ⟨as, true⟩) :
    ∀ (k i : Nat) (ctx : Ctx), i + k ≤ fs.length → i + k ≤ as.length →
      self.clearObjects k i ctx =
        .ok { ctx with cleared := ctx.cleared ++ objectAddrs ((as.drop i).take k) ((fs.drop i).take k) }
  | 0, _, ctx, _, _ => by simp [RsdCpuScriptImpl.clearObjects, objectAddrs]
  | k + 1, i, ctx, h1, h2 => by
    have hi1 : i < fs.length := by omega
    have hi2 : i < as.length := by omega
    rw [RsdCpuScriptImpl.clearObjects, hf, ha, HeapArray.read_live hi1, Exec.ok_bind,
      List.drop_eq_getElem_cons hi1, List.drop_eq_getElem_cons hi2, List.take_succ_cons,
      List.take_succ_cons, objectAddrs]
    have ih := clearObjects_eq self hf ha k (i + 1)
    cases fs[i] with
    | false => simp [ih _ (by omega) (by omega)]
    | true =>
      simp only [if_true, HeapArray.read_live hi2, Exec.ok_bind]
      cases as[i] with
      | none => simp [ih _ (by omega) (by omega)]
      | some a => simp [ih _ (by omega) (by omega), Ctx.clearObject]

/-- The addresses of the object's `mExportedVariableCount` variables, `[]` when
`mFieldAddress` is NULL. -/
def RsdCpuScriptImpl.varAddrs (s : RsdCpuScriptImpl) : List (Option Nat) :=
  ((s.mFieldAddress.map HeapArray.cells).getD []).take s.mExportedVariableCount

/-- The object marks of the object's variables, `[]` when `mFieldIsObject` is NULL. -/
def RsdCpuScriptImpl.varIsObject (s : RsdCpuScriptImpl) : List Bool :=
  ((s.mFieldIsObject.map HeapArray.cells).getD []).take s.mExportedVariableCount

/-- The destructor of an object that owns its arrays ends as its object loop does. -/
theorem destroy_of_clear {s : RsdCpuScriptImpl} {ctx ctx' : Ctx} (hs : s.Owns)
    (hc : (if s.mFieldIsObject.isSome then s.clearObjects s.mExportedVariableCount 0 ctx
      else pure ctx) = .ok ctx') :
    ∃ s', s.destroy ctx = .ok (ctx', s') := by
  obtain ⟨_, h1⟩ := delete_ok_of_live hs.invokeFunctions
  obtain ⟨_, h2⟩ := delete_ok_of_live hs.forEachFunctions
  obtain ⟨_, h3⟩ := delete_ok_of_live hs.fieldAddress
  obtain ⟨_, h4⟩ := delete_ok_of_live hs.fieldIsObject
  obtain ⟨_, h5⟩ := delete_ok_of_live hs.forEachSignatures
  obtain ⟨_, h6⟩ := delete_ok_of_live hs.boundAllocs
  unfold RsdCpuScriptImpl.destroy
  by_cases hi : s.mFieldIsObject.isSome = true <;>
    simp only [hi, if_true, if_false, Bool.false_eq_true, Exec.pure_eq] at hc ⊢ <;>
    simp only [hc, h1, h2, h3, h4, h5, h6, Exec.ok_bind]
  all_goals
    cases hso : s.mScriptSO with
    | none => exact ⟨_, rfl⟩
    | some so =>
      exact ⟨_, by simp only [dlclose, hs.scriptSO so hso, if_true, Exec.map_ok, Exec.ok_bind]; rfl⟩

/-- **The compatibility destructor releases the object variables.** On an object that owns
its arrays, with `mFieldIsObject` and `mFieldAddress` holding a cell per variable, it
succeeds and calls `rsrClearObject` on exactly the addresses `objectAddrs` names. -/
theorem destroy_clears (s : RsdCpuScriptImpl) (ctx : Ctx) (hs : s.Owns)
    (hf : 0 < s.mExportedVariableCount →
      ∃ cells, s.mFieldIsObject = some ⟨cells, true⟩ ∧ cells.length = s.mExportedVariableCount)
    (ha : 0 < s.mExportedVariableCount →
      ∃ cells, s.mFieldAddress = some ⟨cells, true⟩ ∧ cells.length = s.mExportedVariableCount) :
    ∃ s', s.destroy ctx =
      .ok ({ ctx with cleared := ctx.cleared ++ objectAddrs s.varAddrs s.varIsObject }, s') := by
  refine destroy_of_clear hs ?_
  by_cases hn : 0 < s.mExportedVariableCount
  · obtain ⟨fs, hfs, hlf⟩ := hf hn
    obtain ⟨as, has, hla⟩ := ha hn
    rw [hfs, clearObjects_eq s hfs has _ 0 ctx (by omega) (by omega)]
    simp [RsdCpuScriptImpl.varAddrs, RsdCpuScriptImpl.varIsObject, hfs, has]
  · have h0 : s.mExportedVariableCount = 0 := by omega
    simp only [RsdCpuScriptImpl.varAddrs, RsdCpuScriptImpl.varIsObject, h0, List.take_zero,
      objectAddrs, List.append_nil]
    split <;> rfl

theorem Parse.Ends.inv {x : Exec (Bool × Parse)} {st : Parse} (h : Parse.Ends env (Parse.Done env) x)
    (e : x = .ok (true, st)) : st.Inv env := by
  rcases h with ⟨rfl, -⟩ | ⟨r, rfl, dr⟩
  · cases e
  · cases e
    exact dr

/-- **A successful parse ends in the invariant**, with the variable count it read. -/
theorem parseInfo_inv (aborts : Bool) {st st' : Parse} (hb : st.self.mBoundAllocs = none)
    (h : st.Inv env) (e : parseInfo aborts env st = .ok (true, st')) :
    st'.Inv env ∧ st'.self.mExportedVariableCount = st'.varCount := by
  obtain ⟨s1, s2, s3, s4, e1, e2, e3, e4, rfl⟩ := parseInfo_eq_true e
  have h1 := (varSection_done st h).inv e1
  have h2 := (funcSection_done s1 h1).inv e2
  have h3 := (forEachSection_done s2 h2).inv e3
  have h4 : s4.Inv env := by
    rcases slotSection_done aborts s3 h3 with e4' | hr
    · rw [e4] at e4'; cases e4'
    · exact hr.inv e4
  have hc := (slotSection_vars aborts
    (forEachSection_vars (funcSection_vars (varSection_vars hb e1) e2) e3) e4).count
  split_ifs
  · exact ⟨h4.update { h4.owns with boundAllocs := rfl } rfl rfl, hc⟩
  · exact ⟨h4, hc⟩

/-- **What a successful `init` leaves for the destructor**, on a new object: it owns its
arrays, and `mFieldIsObject` holds a flag per variable. -/
theorem init_objects {aborts : Bool} {ctx ctx' : Ctx} {v f : Nat} {s : RsdCpuScriptImpl}
    (h : init aborts env ctx (RsdCpuScriptImpl.construct v f) = .ok (true, ctx', s)) :
    s.Owns ∧ (0 < s.mExportedVariableCount →
      ∃ cells, s.mFieldIsObject = some ⟨cells, true⟩ ∧ cells.length = s.mExportedVariableCount) := by
  obtain ⟨so, st, -, e, rfl⟩ := init_eq_true h
  obtain ⟨hi, hc⟩ := parseInfo_inv aborts rfl (initParse_inv env (RsdCpuScriptImpl.owns_construct v f) so) e
  refine ⟨hi.owns, fun hn => ?_⟩
  rcases hi.isObject with h0 | hobj
  · omega
  · exact hc ▸ hobj

/-- **A run of `setGlobalObj`, in the compatibility build.** After a successful `init` of a
new object whose variables, each of a pointer's `ptrSize` bytes, lie apart, every sequence
of calls to slots below the variable count with handles that fit in a pointer succeeds and
keeps the balance over the variables' addresses. -/
theorem setGlobalObj_run {aborts : Bool} {ctx ctx' : Ctx} {v f : Nat} {s : RsdCpuScriptImpl}
    (ptrSize : Nat) (h : init aborts env ctx (RsdCpuScriptImpl.construct v f) = .ok (true, ctx', s))
    (hsep : Separate s.varAddrs fun _ => ptrSize) (calls : List (Nat × Nat))
    (hc : ∀ c ∈ calls, c.1 < s.mExportedVariableCount ∧ c.2 < 256 ^ ptrSize) (st₀ : ObjGlobals) :
    ∃ st, calls.foldlM (fun st c => setGlobalObj ptrSize s c.1 c.2 st) st₀ = .ok st ∧
      Balanced ptrSize (s.varAddrs.filterMap id).dedup st₀ st := by
  obtain ⟨-, hfa⟩ := init_vars h
  have hstep : ∀ (pre : List (Nat × Nat)) (st : ObjGlobals) (c : Nat × Nat),
      Balanced ptrSize (s.varAddrs.filterMap id).dedup st₀ st →
      c.1 < s.mExportedVariableCount ∧ c.2 < 256 ^ ptrSize → ∃ st', setGlobalObj ptrSize s c.1 c.2 st = .ok st' ∧
        Balanced ptrSize (s.varAddrs.filterMap id).dedup st₀ st' := by
    rintro - st ⟨slot, data⟩ hb ⟨hs, hx⟩
    obtain ⟨cells, hcl, hl⟩ := hfa (by omega)
    have hsl : slot < cells.length := by omega
    refine ⟨setObjAt ptrSize cells[slot] data st,
      by simp only [setGlobalObj, hcl, HeapArray.read_live hsl, Exec.ok_bind, Exec.pure_eq],
      hb.setObjAt (List.nodup_dedup _) hsep.apart_addrs (fun a ha => ?_) hx⟩
    have hmem : cells[slot] ∈ s.varAddrs := by simp [RsdCpuScriptImpl.varAddrs, hcl, ← hl]
    simpa [← ha] using hmem
  obtain ⟨st, e, hb⟩ := foldlM_ok_of_step _ _
    (fun _ st => Balanced ptrSize (s.varAddrs.filterMap id).dedup st₀ st) hstep calls [] st₀
    (Balanced.refl _ _ _) hc
  exact ⟨st, e, hb⟩

/-- **Object references over a lifetime, in the compatibility build.** Take a successful
`init` of a new object whose variables, each of a pointer's size, lie apart, any sequence
of `setGlobalObj(slot, obj)` with slots below the variable count and handles that fit in
a pointer, and then the destructor. Every call succeeds, and the destructor succeeds and
releases each object variable's address `A`. Then every count ends where it started,
less the references the variables held at the start, plus the references that variables
not marked as objects hold at the end; the object variables end NULL. -/
theorem setGlobalObj_lifetime {aborts : Bool} {ctx ctx' : Ctx} {v f : Nat} {s : RsdCpuScriptImpl}
    (ptrSize : Nat) (h : init aborts env ctx (RsdCpuScriptImpl.construct v f) = .ok (true, ctx', s))
    (hsep : Separate s.varAddrs fun _ => ptrSize) (calls : List (Nat × Nat))
    (hc : ∀ c ∈ calls, c.1 < s.mExportedVariableCount ∧ c.2 < 256 ^ ptrSize)
    (st₀ : ObjGlobals) (ctx₁ : Ctx) :
    let A := objectAddrs s.varAddrs s.varIsObject
    let V := (s.varAddrs.filterMap id).dedup
    ∃ st s', calls.foldlM (fun st c => setGlobalObj ptrSize s c.1 c.2 st) st₀ = .ok st ∧
      s.destroy ctx₁ = .ok ({ ctx₁ with cleared := ctx₁.cleared ++ A }, s') ∧
      (∀ o, (A.foldl (rsrClearObject ptrSize) st).counts o =
        st₀.counts o - heldRefs ptrSize st₀.mem V o + heldRefs ptrSize st.mem (V.filter (· ∉ A)) o) ∧
      ∀ a ∈ A, (A.foldl (rsrClearObject ptrSize) st).mem.loadPtr ptrSize a = 0 := by
  intro A V
  obtain ⟨st, e, hb⟩ := setGlobalObj_run ptrSize h hsep calls hc st₀
  obtain ⟨hs, hf⟩ := init_objects h
  obtain ⟨s', hd⟩ := destroy_clears s ctx₁ hs hf (init_vars h).2
  have hap : Apart ptrSize V := hsep.apart_addrs
  exact ⟨st, s', e, hd, lifetime_counts (List.nodup_dedup _) hap objectAddrs_sub hb,
    (clearAll_eq A (hap.sub objectAddrs_sub) st).2⟩

end Compat

/-! ## The full build -/

namespace Bcc

theorem clearObjectSlots_eq : ∀ (as : List (Option Nat)) (fs : List Nat) (ctx : Ctx),
    clearObjectSlots as fs ctx =
      { ctx with cleared := ctx.cleared ++ objectAddrs as (fs.map fun o => decide (o ≠ 0)) }
  | [], _, ctx => by simp [clearObjectSlots, objectAddrs]
  | _ :: _, [], ctx => by simp [clearObjectSlots, objectAddrs]
  | addr :: as, isObject :: fs, ctx => by
    simp only [clearObjectSlots]
    rw [clearObjectSlots_eq as fs, List.map_cons, objectAddrs]
    by_cases h : isObject = 0 <;> cases addr <;> simp [h, Ctx.clearObject]

/-- **The full build's destructor releases the object variables.** With an executable and
a live or NULL `mBoundAllocs`, it succeeds and calls `rsrClearObject` on exactly the
addresses `objectAddrs` names for the executable's variable addresses and object slots. -/
theorem destroy_clears (exec : ExecutableInfo) (objectSlots : List Nat) (s : RsdCpuScriptImpl)
    (ctx : Ctx) (hx : s.mExecutable.isSome) (hb : Compat.LiveOpt s.mBoundAllocs) :
    let A := objectAddrs exec.exportVarAddrs (objectSlots.map fun o => decide (o ≠ 0))
    ∃ s', destroy exec objectSlots s ctx = .ok ({ ctx with cleared := ctx.cleared ++ A }, s') := by
  obtain ⟨_, hdel⟩ := Compat.delete_ok_of_live hb
  simp only [destroy, hx, if_true, clearObjectSlots_eq, hdel, Exec.ok_bind]
  exact ⟨_, rfl⟩

/-- A successful `init` leaves an executable. -/
theorem init_executable {cfg : BuildConfig} {env : BccEnv} {ctx ctx' : Ctx} {self s : RsdCpuScriptImpl}
    (h : init cfg env ctx self = .ok (true, ctx', s)) : s.mExecutable.isSome := by
  unfold init at h
  repeat (split at h; · cases h)
  split at h
  · split at h
    · cases h; rfl
    · cases h
  · cases h; rfl

/-- **A run of `setGlobalObj`, in the full build.** With an executable that has an
address per exported variable, and variables of a pointer's size that lie apart, after a
successful `init` every sequence of calls to slots below the variable count with handles
that fit in a pointer succeeds and keeps the balance over the variables' addresses. -/
theorem setGlobalObj_run (ptrSize : Nat) (exec : ExecutableInfo) {env : BccEnv}
    (hexec : exec.exportVarAddrs.length = env.exportVarCount)
    (hsep : Separate exec.exportVarAddrs fun _ => ptrSize) (calls : List (Nat × Nat))
    (hc : ∀ c ∈ calls, c.1 < env.exportVarCount ∧ c.2 < 256 ^ ptrSize) (st₀ : ObjGlobals) :
    ∃ st, calls.foldlM (fun st c => setGlobalObj ptrSize exec c.1 c.2 st) st₀ = .ok st ∧
      Balanced ptrSize (exec.exportVarAddrs.filterMap id).dedup st₀ st := by
  have hstep : ∀ (pre : List (Nat × Nat)) (st : ObjGlobals) (c : Nat × Nat),
      Balanced ptrSize (exec.exportVarAddrs.filterMap id).dedup st₀ st →
      c.1 < env.exportVarCount ∧ c.2 < 256 ^ ptrSize →
      ∃ st', setGlobalObj ptrSize exec c.1 c.2 st = .ok st' ∧
        Balanced ptrSize (exec.exportVarAddrs.filterMap id).dedup st₀ st' := by
    rintro - st ⟨slot, data⟩ hb ⟨hs, hx⟩
    have hsl : slot < exec.exportVarAddrs.length := by omega
    refine ⟨setObjAt ptrSize exec.exportVarAddrs[slot] data st, by simp only [setGlobalObj, vectorAt,
      List.getElem?_eq_getElem hsl, Exec.ok_bind, Exec.pure_eq],
      hb.setObjAt (List.nodup_dedup _) hsep.apart_addrs (fun a ha => by simp [← ha]) hx⟩
  obtain ⟨st, e, hb⟩ := foldlM_ok_of_step _ _
    (fun _ st => Balanced ptrSize (exec.exportVarAddrs.filterMap id).dedup st₀ st) hstep calls [] st₀
    (Balanced.refl _ _ _) hc
  exact ⟨st, e, hb⟩

/-- **Object references over a lifetime, in the full build.** The executable has an
address per exported variable, and its variables, each of a pointer's size, lie apart.
Take a successful `init` of a new object, any sequence of `setGlobalObj(slot, obj)` with
slots below the variable count and handles that fit in a pointer, and then the
destructor. Every call succeeds, and the destructor succeeds and releases each object
variable's address `A`, by the executable's object slots. Then every count ends where it
started, less the references the variables held at the start, plus the references that
variables not marked as objects hold at the end; the object variables end NULL. -/
theorem setGlobalObj_lifetime {cfg : BuildConfig} {env : BccEnv} {ctx ctx' : Ctx}
    {s : RsdCpuScriptImpl} (ptrSize : Nat) (exec : ExecutableInfo) (objectSlots : List Nat)
    (hexec : exec.exportVarAddrs.length = env.exportVarCount)
    (hsep : Separate exec.exportVarAddrs fun _ => ptrSize)
    (h : init cfg env ctx RsdCpuScriptImpl.construct = .ok (true, ctx', s))
    (calls : List (Nat × Nat)) (hc : ∀ c ∈ calls, c.1 < env.exportVarCount ∧ c.2 < 256 ^ ptrSize)
    (st₀ : ObjGlobals) (ctx₁ : Ctx) :
    let A := objectAddrs exec.exportVarAddrs (objectSlots.map fun o => decide (o ≠ 0))
    let V := (exec.exportVarAddrs.filterMap id).dedup
    ∃ st s', calls.foldlM (fun st c => setGlobalObj ptrSize exec c.1 c.2 st) st₀ = .ok st ∧
      destroy exec objectSlots s ctx₁ = .ok ({ ctx₁ with cleared := ctx₁.cleared ++ A }, s') ∧
      (∀ o, (A.foldl (rsrClearObject ptrSize) st).counts o =
        st₀.counts o - heldRefs ptrSize st₀.mem V o + heldRefs ptrSize st.mem (V.filter (· ∉ A)) o) ∧
      ∀ a ∈ A, (A.foldl (rsrClearObject ptrSize) st).mem.loadPtr ptrSize a = 0 := by
  intro A V
  obtain ⟨st, e, hb⟩ := setGlobalObj_run ptrSize exec hexec hsep calls hc st₀
  have hlive : Compat.LiveOpt s.mBoundAllocs := by
    rw [init_boundAllocs h, boundTable]
    split <;> trivial
  obtain ⟨s', hd⟩ := destroy_clears exec objectSlots s ctx₁ (init_executable h) hlive
  have hap : Apart ptrSize V := hsep.apart_addrs
  exact ⟨st, s', e, hd, lifetime_counts (List.nodup_dedup _) hap objectAddrs_sub hb,
    (clearAll_eq A (hap.sub objectAddrs_sub) st).2⟩

end Bcc

/-- **Object references over a lifetime, in both builds.** Take a successful `init` of a
new object (in the full build, with an executable that has an address per exported
variable) whose variables, each of a pointer's `ptrSize` bytes, lie apart, any sequence
of `setGlobalObj(slot, obj)` with slots below the variable count and handles that fit in a
pointer, and then the destructor. Every call succeeds, and the destructor succeeds and
calls `rsrClearObject` on exactly the addresses of the variables marked as objects, each
non-NULL one once, in slot order. Every reference count then ends where it started, less
the references the variables held at the start, plus the references that variables not
marked as objects hold at the end, which nothing gives back; the object variables end
NULL. -/
theorem setGlobalObj_references_balance :
    (∀ (aborts : Bool) (env : Compat.LoadEnv) (ctx ctx' : Ctx) (v f : Nat)
      (s : Compat.RsdCpuScriptImpl) (ptrSize : Nat) (calls : List (Nat × Nat)) (st₀ : ObjGlobals)
      (ctx₁ : Ctx),
      Compat.init aborts env ctx (Compat.RsdCpuScriptImpl.construct v f) = .ok (true, ctx', s) →
      Separate s.varAddrs (fun _ => ptrSize) →
      (∀ c ∈ calls, c.1 < s.mExportedVariableCount ∧ c.2 < 256 ^ ptrSize) →
      let A := objectAddrs s.varAddrs s.varIsObject
      let V := (s.varAddrs.filterMap id).dedup
      ∃ st s', calls.foldlM (fun st c => Compat.setGlobalObj ptrSize s c.1 c.2 st) st₀ = .ok st ∧
        s.destroy ctx₁ = .ok ({ ctx₁ with cleared := ctx₁.cleared ++ A }, s') ∧
        (∀ o, (A.foldl (rsrClearObject ptrSize) st).counts o =
          st₀.counts o - heldRefs ptrSize st₀.mem V o + heldRefs ptrSize st.mem (V.filter (· ∉ A)) o) ∧
        ∀ a ∈ A, (A.foldl (rsrClearObject ptrSize) st).mem.loadPtr ptrSize a = 0) ∧
    (∀ (cfg : Bcc.BuildConfig) (env : Bcc.BccEnv) (exec : Bcc.ExecutableInfo)
      (objectSlots : List Nat) (ctx ctx' : Ctx) (s : Bcc.RsdCpuScriptImpl) (ptrSize : Nat)
      (calls : List (Nat × Nat)) (st₀ : ObjGlobals) (ctx₁ : Ctx),
      exec.exportVarAddrs.length = env.exportVarCount →
      Separate exec.exportVarAddrs (fun _ => ptrSize) →
      Bcc.init cfg env ctx Bcc.RsdCpuScriptImpl.construct = .ok (true, ctx', s) →
      (∀ c ∈ calls, c.1 < env.exportVarCount ∧ c.2 < 256 ^ ptrSize) →
      let A := objectAddrs exec.exportVarAddrs (objectSlots.map fun o => decide (o ≠ 0))
      let V := (exec.exportVarAddrs.filterMap id).dedup
      ∃ st s', calls.foldlM (fun st c => Bcc.setGlobalObj ptrSize exec c.1 c.2 st) st₀ = .ok st ∧
        Bcc.destroy exec objectSlots s ctx₁ = .ok ({ ctx₁ with cleared := ctx₁.cleared ++ A }, s') ∧
        (∀ o, (A.foldl (rsrClearObject ptrSize) st).counts o =
          st₀.counts o - heldRefs ptrSize st₀.mem V o + heldRefs ptrSize st.mem (V.filter (· ∉ A)) o) ∧
        ∀ a ∈ A, (A.foldl (rsrClearObject ptrSize) st).mem.loadPtr ptrSize a = 0) :=
  ⟨fun _ _ _ _ _ _ _ ptrSize calls st₀ ctx₁ h hsep hc =>
      Compat.setGlobalObj_lifetime ptrSize h hsep calls hc st₀ ctx₁,
    fun _ _ exec objectSlots _ _ _ ptrSize calls st₀ ctx₁ hexec hsep h hc =>
      Bcc.setGlobalObj_lifetime ptrSize exec objectSlots hexec hsep h calls hc st₀ ctx₁⟩

/-- Two variables of four-byte pointers in each build, at 8 and 16, the first an object
and the second plain, every count at 1: the object at 100 is stored into the first and
the one at 200 into the second. The destructor releases the first only, so object 100
ends at 1 and object 200 keeps a reference: it ends at 2. -/
theorem setGlobalObj_references_balance_leak :
    let envC : Compat.LoadEnv := ⟨some 1,
      fun n => if n = ['o'] then some 8 else if n = ['x'] then some 16 else none,
      some (memOf ("exportVarCount: 2\no\nx\nexportFuncCount: 0\nexportForEachCount: 0\n" ++
        "objectSlotCount: 1\n0\n").toList), fun _ => true, fun _ => 'x'⟩
    let sC : Compat.RsdCpuScriptImpl := { Compat.RsdCpuScriptImpl.construct 2 0 with
      mScriptSO := some ⟨1, true⟩, mFieldAddress := some ⟨[some 8, some 16], true⟩,
      mFieldIsObject := some ⟨[true, false], true⟩, mBoundAllocs := some ⟨[none, none], true⟩ }
    let envB : Bcc.BccEnv := ⟨true, true, true, .full, none, false, fun _ => none, some 7,
      fun _ => false, none, fun _ => none, 2, true⟩
    let sB : Bcc.RsdCpuScriptImpl := { Bcc.RsdCpuScriptImpl.construct with
      mCompilerContext := true, mCompilerDriver := true, mExecutable := some 7,
      mBoundAllocs := some ⟨[none, none], true⟩ }
    let exec : Bcc.ExecutableInfo := ⟨⟨[], []⟩, 0, 0, [], [], [some 8, some 16]⟩
    let ctx' : Ctx := ⟨[.lock, .unlock], [], [], none⟩
    let calls : List (Nat × Nat) := [(0, 100), (1, 200)]
    let st₀ : ObjGlobals := ⟨fun _ => 1, fun _ => 0⟩
    (Compat.init false envC ⟨[], [], [], none⟩ (Compat.RsdCpuScriptImpl.construct 0 0) =
        .ok (true, ctx', sC) ∧
      ∃ st s', calls.foldlM (fun st c => Compat.setGlobalObj 4 sC c.1 c.2 st) st₀ = .ok st ∧
        sC.destroy ⟨[], [], [], none⟩ = .ok (⟨[], [8], [], none⟩, s') ∧
        ([8].foldl (rsrClearObject 4) st).counts 100 = 1 ∧
        ([8].foldl (rsrClearObject 4) st).counts 200 = 2) ∧
    (Bcc.init ⟨false, false, false⟩ envB ⟨[], [], [], none⟩ Bcc.RsdCpuScriptImpl.construct =
        .ok (true, ctx', sB) ∧
      ∃ st s', calls.foldlM (fun st c => Bcc.setGlobalObj 4 exec c.1 c.2 st) st₀ = .ok st ∧
        Bcc.destroy exec [1, 0] sB ⟨[], [], [], none⟩ = .ok (⟨[], [8], [], none⟩, s') ∧
        ([8].foldl (rsrClearObject 4) st).counts 100 = 1 ∧
        ([8].foldl (rsrClearObject 4) st).counts 200 = 2) := by
  intro envC sC envB sB exec ctx' calls st₀
  have hC : Compat.init false envC ⟨[], [], [], none⟩ (Compat.RsdCpuScriptImpl.construct 0 0) =
      .ok (true, ctx', sC) := by decide
  have hB : Bcc.init ⟨false, false, false⟩ envB ⟨[], [], [], none⟩ Bcc.RsdCpuScriptImpl.construct =
      .ok (true, ctx', sB) := by decide
  have hsep : Separate [some 8, some 16] fun _ => 4 := by
    intro i j a b hij hi hj
    dsimp only
    rcases i with _ | _ | i <;> rcases j with _ | _ | j <;> simp at hi hj hij <;> omega
  obtain ⟨st, s', e, hd, hc, -⟩ := setGlobalObj_references_balance.1 false envC _ _ 0 0 sC 4 calls st₀
    ⟨[], [], [], none⟩ hC hsep (by decide)
  obtain ⟨stB, sB', eB, hdB, hcB, -⟩ := setGlobalObj_references_balance.2 _ envB exec [1, 0] _ _ sB 4
    calls st₀ ⟨[], [], [], none⟩ rfl hsep hB (by decide)
  have hst : st = setObjAt 4 (some 16) 200 (setObjAt 4 (some 8) 100 st₀) := Exec.ok.inj (e.symm.trans rfl)
  have hstB : stB = setObjAt 4 (some 16) 200 (setObjAt 4 (some 8) 100 st₀) :=
    Exec.ok.inj (eB.symm.trans rfl)
  subst hst hstB
  exact ⟨⟨hC, _, s', e, hd, (hc 100).trans (by decide), (hc 200).trans (by decide)⟩,
    ⟨hB, _, sB', eB, hdB, (hcB 100).trans (by decide), (hcB 200).trans (by decide)⟩⟩

end RsCpuScript
