import RsCpuScript.Script
import RsCpuScript.Memory
import Mathlib.Tactic.Ring

/-!
# Setting a global that holds object handles

`setGlobalVarWithElemDims` overwrites a global of `dims[0]` elements of
`elem->getSizeBytes()` bytes each, elements that may hold object handles. The handles are
reference-counted: first `incRefs` runs on every incoming element, then `decRefs` on every
outgoing element, and only then does `memcpy` copy `dataLength` bytes of data over the
slot.

An element holds its handles at fixed offsets (`Element.refOffsets`), each a pointer of
`ptrSize` bytes. `incRefs` and `decRefs` visit them in order and move the count of the
object a non-NULL handle points at by one. The model logs every such move (`RefCall`), so
the order in which the code makes them is part of what a call returns.

The incoming data is either a buffer disjoint from the slot or the slot's own storage
(`VarData`). Those are the two layouts in which the loops read well-defined elements: with
a partial overlap, `memcpy` would copy between overlapping regions, and the elements the
decrement loop reads would not be the slot's old contents.

A call makes exactly the increments of the incoming objects `N`, then the decrements of
the outgoing ones `O` (`setGlobalVarWithElemDims_counts`). Along that log, while the
increments run, a count lies between where it started and its start plus the object's
handles in `N`; while the decrements run, between that and where it ends. Because the
increments come first, an object that is overwritten by itself goes up by one and comes
back down: the count does not stay between its values before and after.
-/

namespace RsCpuScript

namespace Compat

/-- The reference counts of the objects, by address. -/
abbrev Counts := Nat → Int

/-- One call of `incSysRef` (`delta = 1`) or `decSysRef` (`delta = -1`) on the object at
`obj`. -/
structure RefCall where
  obj : Nat
  delta : Int
  deriving DecidableEq, Repr

/-- The counts after one call. -/
def RefCall.apply (c : Counts) (r : RefCall) : Counts :=
  fun o => if o = r.obj then c o + r.delta else c o

/-- The counts after the calls `cs`, in order. -/
def applyCalls (c : Counts) (cs : List RefCall) : Counts := cs.foldl RefCall.apply c

/-- **What `setGlobalVarWithElemDims` acts on**: the reference counts, the calls made on
them so far, and the bytes of the slot's storage. -/
structure ObjState where
  counts : Counts
  refCalls : List RefCall
  storage : List UInt8

/-- `ob->incSysRef()` (`d = 1`) or `ob->decSysRef()` (`d = -1`) for the handle `h`,
skipped when `h` is NULL. -/
def sysRef (d : Int) (st : ObjState) (h : Nat) : ObjState :=
  if h = 0 then st
  else { st with counts := RefCall.apply st.counts ⟨h, d⟩, refCalls := st.refCalls ++ [⟨h, d⟩] }

/-- An `Element` as `setGlobalVarWithElemDims` uses it: its size `getSizeBytes()`, and the
offsets of the object handles an element holds, in the order `incRefs` and `decRefs`
visit them. -/
structure Element where
  sizeBytes : Nat
  refOffsets : List Nat
  deriving DecidableEq, Repr

/-- The pointer of `ptrSize` bytes at offset `p` of `bs`, least significant byte first. -/
def ptrAt (ptrSize : Nat) (bs : List UInt8) (p : Nat) : Nat := ofLE ((bs.drop p).take ptrSize)

/-- A read of the pointer at offset `p` of `bs`; reading past `bs` is out of bounds. -/
def readPtr (ptrSize : Nat) (bs : List UInt8) (p : Nat) : Exec Nat :=
  if p + ptrSize ≤ bs.length then .ok (ptrAt ptrSize bs p) else .fault .outOfBounds

/-- `elem->incRefs(p)` (`d = 1`) or `elem->decRefs(p)` (`d = -1`) on the element at
offset `p` of `bs`: each of its handles in turn. -/
def Element.refs (elem : Element) (ptrSize : Nat) (d : Int) (bs : List UInt8) (p : Nat)
    (st : ObjState) : Exec ObjState :=
  elem.refOffsets.foldlM (fun st off => sysRef d st <$> readPtr ptrSize bs (p + off)) st

/-- The loops of `setGlobalVarWithElemDims`, `for (size_t i = 0; i < dims[0]; i++)
{ elem->incRefs(p); p += stride; }` and its `decRefs` twin, over the bytes `bs`, from
offset `p` with `k` iterations left. -/
def refLoop (elem : Element) (ptrSize : Nat) (d : Int) (bs : List UInt8) :
    Nat → Nat → ObjState → Exec ObjState
  | 0, _, st => .ok st
  | k + 1, p, st => do
    let st ← elem.refs ptrSize d bs p st
    refLoop elem ptrSize d bs k (p + elem.sizeBytes) st

/-- The incoming `data`: the slot's own storage, or a buffer disjoint from it. -/
inductive VarData where
  | slotStorage
  | buffer (bytes : List UInt8)

/-- The bytes the incoming data holds. -/
def VarData.bytes (st : ObjState) : VarData → List UInt8
  | .slotStorage => st.storage
  | .buffer bs => bs

/-- `memcpy(destPtr, data, dataLength)` over the slot's bytes `dst` from `src`; past the
end of either is out of bounds. A copy of the storage onto itself leaves it as it is. -/
def memcpy (dst src : List UInt8) (n : Nat) : Exec (List UInt8) :=
  if n ≤ dst.length ∧ n ≤ src.length then .ok (src.take n ++ dst.drop n) else .fault .outOfBounds

/-- **`RsdCpuScriptImpl::setGlobalVarWithElemDims`** in the compatibility build, for
pointers of `ptrSize` bytes, `dims[0] = dims0` and `dimLength` bytes of dimensions. Both
loops and the copy work on the slot's storage as it was when the call began, which the
loops do not write. -/
def setGlobalVarWithElemDims (aborts : Bool) (ptrSize : Nat) (self : RsdCpuScriptImpl)
    (slot : Nat) (data : VarData) (dataLength : Nat) (elem : Element) (dims0 dimLength : Nat)
    (st : ObjState) : Exec ObjState := do
  match ← HeapArray.read self.mFieldAddress slot with
  | none => pure st
  | some _ =>
    let dimLength := dimLength / 4
    rsAssert aborts (decide (dimLength = 1))
    let st' ← if dimLength = 1 then do
        let st1 ← refLoop elem ptrSize 1 (data.bytes st) dims0 0 st
        refLoop elem ptrSize (-1) st.storage dims0 0 st1
      else pure st
    let storage ← memcpy st.storage (data.bytes st) dataLength
    pure { st' with storage := storage }

/-! ## The handles the loops visit -/

/-- Every handle of an element lies inside it. -/
def Element.Fits (elem : Element) (ptrSize : Nat) : Prop :=
  ∀ off ∈ elem.refOffsets, off + ptrSize ≤ elem.sizeBytes

instance (elem : Element) (ptrSize : Nat) : Decidable (elem.Fits ptrSize) :=
  inferInstanceAs (Decidable (∀ off ∈ elem.refOffsets, off + ptrSize ≤ elem.sizeBytes))

/-- The handles of the `k` elements from offset `p` of `bs`, in the order the loops visit
them. -/
def Element.handles (elem : Element) (ptrSize : Nat) (bs : List UInt8) : Nat → Nat → List Nat
  | 0, _ => []
  | k + 1, p => elem.refOffsets.map (fun off => ptrAt ptrSize bs (p + off)) ++
    elem.handles ptrSize bs k (p + elem.sizeBytes)

/-- **The objects the first `k` elements of `bs` reference**, with multiplicity, in the
order the loops visit them: their non-NULL handles. -/
def Element.objects (elem : Element) (ptrSize : Nat) (bs : List UInt8) (k : Nat) : List Nat :=
  (elem.handles ptrSize bs k 0).filter (· ≠ 0)

/-- The calls that move each object of `os` by `d`, in order. -/
def refCallsOf (d : Int) (os : List Nat) : List RefCall := os.map (RefCall.mk · d)

theorem foldl_sysRef (d : Int) : ∀ (hs : List Nat) (st : ObjState),
    hs.foldl (sysRef d) st = { st with
      counts := applyCalls st.counts (refCallsOf d (hs.filter (· ≠ 0)))
      refCalls := st.refCalls ++ refCallsOf d (hs.filter (· ≠ 0)) }
  | [], _ => by simp [refCallsOf, applyCalls]
  | h :: hs, st => by
    rw [List.foldl_cons, foldl_sysRef d hs]
    by_cases h0 : h = 0
    · simp [sysRef, h0]
    · simp [sysRef, h0, refCallsOf, applyCalls]

theorem foldlM_sysRef (ptrSize : Nat) (d : Int) (bs : List UInt8) (p : Nat) :
    ∀ (offs : List Nat), (∀ off ∈ offs, p + off + ptrSize ≤ bs.length) → ∀ st : ObjState,
      offs.foldlM (fun st off => sysRef d st <$> readPtr ptrSize bs (p + off)) st =
        .ok ((offs.map fun off => ptrAt ptrSize bs (p + off)).foldl (sysRef d) st)
  | [], _, _ => rfl
  | off :: offs, h, st => by
    have hr : readPtr ptrSize bs (p + off) = .ok (ptrAt ptrSize bs (p + off)) :=
      if_pos (h off (List.mem_cons_self _ _))
    rw [List.foldlM_cons, hr, Exec.map_ok, Exec.ok_bind,
      foldlM_sysRef ptrSize d bs p offs (fun o ho => h o (List.mem_cons_of_mem _ ho))]
    rfl

/-- **A loop over elements inside the bytes** makes the calls of their handles, in
order. -/
theorem refLoop_eq (elem : Element) (ptrSize : Nat) (d : Int) (bs : List UInt8)
    (hfit : elem.Fits ptrSize) : ∀ (k p : Nat) (st : ObjState),
      p + k * elem.sizeBytes ≤ bs.length →
      refLoop elem ptrSize d bs k p st = .ok ((elem.handles ptrSize bs k p).foldl (sysRef d) st)
  | 0, _, _, _ => rfl
  | k + 1, p, st, hb => by
    rw [Nat.succ_mul] at hb
    rw [refLoop, Element.refs,
      foldlM_sysRef ptrSize d bs p _ (fun off ho => by have := hfit off ho; omega),
      Exec.ok_bind, refLoop_eq elem ptrSize d bs hfit k _ _ (by omega), Element.handles,
      List.foldl_append]

/-- A loop over `k` elements inside the bytes makes one call per object they reference. -/
theorem refLoop_objects (elem : Element) (ptrSize : Nat) (d : Int) (bs : List UInt8)
    (hfit : elem.Fits ptrSize) {k : Nat} (hb : k * elem.sizeBytes ≤ bs.length) (st : ObjState) :
    refLoop elem ptrSize d bs k 0 st = .ok { st with
      counts := applyCalls st.counts (refCallsOf d (elem.objects ptrSize bs k))
      refCalls := st.refCalls ++ refCallsOf d (elem.objects ptrSize bs k) } := by
  rw [refLoop_eq elem ptrSize d bs hfit k 0 st (by omega), foldl_sysRef]
  rfl

/-! ## The counts along the calls -/

theorem applyCalls_append (c : Counts) (xs ys : List RefCall) :
    applyCalls c (xs ++ ys) = applyCalls (applyCalls c xs) ys :=
  List.foldl_append _ _ _ _

theorem applyCalls_refCallsOf (d : Int) : ∀ (os : List Nat) (c : Counts) (o : Nat),
    applyCalls c (refCallsOf d os) o = c o + d * os.count o
  | [], _, _ => by simp [refCallsOf, applyCalls]
  | x :: os, c, o => by
    have ih := applyCalls_refCallsOf d os (RefCall.apply c ⟨x, d⟩) o
    simp only [refCallsOf, applyCalls, List.map_cons, List.foldl_cons] at ih ⊢
    rw [ih, List.count_cons]
    by_cases hx : o = x
    · subst hx; simp [RefCall.apply]; ring
    · simp [RefCall.apply, hx, Ne.symm hx]

/-- **A count after a prefix of the log** of increments of `N` followed by decrements of
`O`: the increments of the first `j` calls, less the decrements among them. -/
theorem applyCalls_take (N O : List Nat) (c : Counts) (j o : Nat) :
    applyCalls c ((refCallsOf 1 N ++ refCallsOf (-1) O).take j) o =
      c o + (N.take j).count o - (O.take (j - N.length)).count o := by
  rw [List.take_append_eq_append_take, applyCalls_append, refCallsOf, refCallsOf,
    ← List.map_take, ← List.map_take, List.length_map, ← refCallsOf, ← refCallsOf,
    applyCalls_refCallsOf, applyCalls_refCallsOf]
  ring

theorem count_take_le (l : List Nat) (j o : Nat) : ((l.take j).count o : Int) ≤ l.count o :=
  Int.ofNat_le.mpr ((List.take_sublist j l).count_le _)

/-- **`setGlobalVarWithElemDims` with one dimension is the increment run, the decrement
run, then the copy.** -/
theorem setGlobalVarWithElemDims_eq_runs {aborts : Bool} {ptrSize : Nat}
    {self : RsdCpuScriptImpl} {slot addr : Nat} (data : VarData) (dataLength : Nat)
    (elem : Element) (dims0 : Nat) {dimLength : Nat} (st : ObjState)
    (hslot : HeapArray.read self.mFieldAddress slot = .ok (some addr)) (hdim : dimLength / 4 = 1) :
    setGlobalVarWithElemDims aborts ptrSize self slot data dataLength elem dims0 dimLength st =
      (do
        let st1 ← refLoop elem ptrSize 1 (data.bytes st) dims0 0 st
        let st2 ← refLoop elem ptrSize (-1) st.storage dims0 0 st1
        let storage ← memcpy st.storage (data.bytes st) dataLength
        pure { st2 with storage := storage }) := by
  simp only [setGlobalVarWithElemDims, hslot, Exec.ok_bind, hdim, decide_True, rsAssert_true,
    if_true]

/-- **The calls and counts along `setGlobalVarWithElemDims`.** On a slot with a resolved
address, with one dimension, elements whose handles lie inside them, and `dims[0]`
elements of data and of storage, a copy of `dims[0] * elemSize` bytes leaves the slot
holding the incoming elements. The call makes the increments of the objects `N` the
incoming elements reference, in order, then the decrements of the objects `O` the
outgoing ones reference, and leaves every count at `before + #N - #O`. After every prefix
of those calls that stops within the increments, every count lies between `before` and
`before + #N`; after every prefix that reaches the decrements, between `before + #N - #O`
and `before + #N`. -/
theorem setGlobalVarWithElemDims_counts (aborts : Bool) (ptrSize : Nat) (self : RsdCpuScriptImpl)
    (slot addr : Nat) (data : VarData) (elem : Element) (dims0 dimLength : Nat) (st : ObjState)
    (hslot : HeapArray.read self.mFieldAddress slot = .ok (some addr)) (hdim : dimLength / 4 = 1)
    (hfit : elem.Fits ptrSize) (hn : dims0 * elem.sizeBytes ≤ (data.bytes st).length)
    (ho : dims0 * elem.sizeBytes ≤ st.storage.length) :
    let L := dims0 * elem.sizeBytes
    let N := elem.objects ptrSize (data.bytes st) dims0
    let O := elem.objects ptrSize st.storage dims0
    let calls := refCallsOf 1 N ++ refCallsOf (-1) O
    let after : Counts := fun o => st.counts o + N.count o - O.count o
    setGlobalVarWithElemDims aborts ptrSize self slot data L elem dims0 dimLength st =
        .ok ⟨after, st.refCalls ++ calls, (data.bytes st).take L ++ st.storage.drop L⟩ ∧
      ∀ j ≤ calls.length, ∀ o,
        (j ≤ N.length → st.counts o ≤ applyCalls st.counts (calls.take j) o ∧
          applyCalls st.counts (calls.take j) o ≤ st.counts o + N.count o) ∧
        (N.length ≤ j → after o ≤ applyCalls st.counts (calls.take j) o ∧
          applyCalls st.counts (calls.take j) o ≤ st.counts o + N.count o) := by
  intro L N O calls after
  refine ⟨?_, fun j _ o => ?_⟩
  · have hafter : applyCalls (applyCalls st.counts (refCallsOf 1 N)) (refCallsOf (-1) O) = after := by
      funext o
      rw [applyCalls_refCallsOf, applyCalls_refCallsOf]
      ring
    have hcopy : memcpy st.storage (data.bytes st) L = .ok ((data.bytes st).take L ++ st.storage.drop L) :=
      if_pos ⟨ho, hn⟩
    rw [setGlobalVarWithElemDims_eq_runs data L elem dims0 st hslot hdim,
      refLoop_objects elem ptrSize 1 _ hfit hn, Exec.ok_bind, refLoop_objects elem ptrSize (-1) _ hfit ho,
      Exec.ok_bind, hcopy, Exec.ok_bind]
    simp only [hafter, List.append_assoc]
    rfl
  · have hN := count_take_le N j o
    have hO := count_take_le O (j - N.length) o
    rw [applyCalls_take]
    refine ⟨fun hj => ?_, fun hj => ?_⟩
    · rw [Nat.sub_eq_zero_of_le hj, List.take_zero, List.count_nil]
      omega
    · rw [List.take_of_length_le hj]
      simp only [after]
      omega

/-- One element of four bytes holding object 16 replaced by one holding object 32: object
32 gains a reference, then object 16 loses one, and the slot holds the new bytes. -/
theorem setGlobalVarWithElemDims_replaces_one :
    let self : RsdCpuScriptImpl :=
      { RsdCpuScriptImpl.construct 1 0 with mFieldAddress := some ⟨[some 9], true⟩ }
    let st : ObjState := ⟨fun _ => 1, [], toLE 4 16⟩
    let calls := refCallsOf 1 [32] ++ refCallsOf (-1) [16]
    setGlobalVarWithElemDims false 4 self 0 (.buffer (toLE 4 32)) (1 * 4) ⟨4, [0]⟩ 1 4 st =
        .ok ⟨fun o => 1 + ([32].count o : Int) - ([16].count o : Int), [] ++ calls,
          (toLE 4 32).take (1 * 4) ++ (toLE 4 16).drop (1 * 4)⟩ ∧
      ∀ j ≤ calls.length, ∀ o,
        (j ≤ [32].length → st.counts o ≤ applyCalls st.counts (calls.take j) o ∧
          applyCalls st.counts (calls.take j) o ≤ st.counts o + [32].count o) ∧
        ([32].length ≤ j → 1 + ([32].count o : Int) - ([16].count o : Int) ≤
            applyCalls st.counts (calls.take j) o ∧
          applyCalls st.counts (calls.take j) o ≤ st.counts o + [32].count o) :=
  setGlobalVarWithElemDims_counts false 4
    { RsdCpuScriptImpl.construct 1 0 with mFieldAddress := some ⟨[some 9], true⟩ } 0 9
    (.buffer (toLE 4 32)) ⟨4, [0]⟩ 1 4 ⟨fun _ => 1, [], toLE 4 16⟩ rfl rfl (by decide)
    (by decide) (by decide)

/-- An object overwritten by itself, with a count of 1: the call makes an increment and
then a decrement of it, so after the first call its count is 2, and the call ends with it
at 1 again. -/
theorem setGlobalVarWithElemDims_overshoots :
    let self : RsdCpuScriptImpl :=
      { RsdCpuScriptImpl.construct 1 0 with mFieldAddress := some ⟨[some 9], true⟩ }
    let st : ObjState := ⟨fun _ => 1, [], toLE 4 16⟩
    (fun s => (s.counts 16, s.refCalls)) <$>
        setGlobalVarWithElemDims false 4 self 0 .slotStorage 4 ⟨4, [0]⟩ 1 4 st =
      .ok (1, [⟨16, 1⟩, ⟨16, -1⟩]) ∧
    applyCalls st.counts [⟨16, 1⟩] 16 = 2 := by
  decide

/-! ## Another number of dimensions -/

/-- **Another number of dimensions skips the reference counts, not the copy.** On a slot
with a resolved address, with `dimLength / sizeof(int) ≠ 1`, the call stops at
`rsAssert` in a build where that aborts. Where it only logs, both loops are skipped:
`memcpy` still copies the data over the slot, no count moves and no call is made. -/
theorem setGlobalVarWithElemDims_skips_refcounts (ptrSize : Nat) (self : RsdCpuScriptImpl)
    (slot addr : Nat) (data : VarData) (dataLength : Nat) (elem : Element) (dims0 dimLength : Nat)
    (st : ObjState) (hslot : HeapArray.read self.mFieldAddress slot = .ok (some addr))
    (hdim : dimLength / 4 ≠ 1) :
    setGlobalVarWithElemDims true ptrSize self slot data dataLength elem dims0 dimLength st = .abort ∧
      setGlobalVarWithElemDims false ptrSize self slot data dataLength elem dims0 dimLength st =
        (fun storage => { st with storage := storage }) <$> memcpy st.storage (data.bytes st) dataLength := by
  simp only [setGlobalVarWithElemDims, hslot, Exec.ok_bind, hdim, decide_False, rsAssert,
    Bool.false_or, Bool.not_true, Bool.not_false, if_false, if_true, Bool.false_eq_true, Exec.abort_bind,
    Exec.pure_eq]
  refine ⟨trivial, ?_⟩
  cases memcpy st.storage (data.bytes st) dataLength <;> rfl

/-- One element of four bytes holding object 16 overwritten with one holding object 32,
with `dimLength = 8` and every count at 1. Where `rsAssert` only logs, the slot ends up
holding object 32, no call is made and both counts stay at 1: object 32 gains a handle
without a reference, and object 16 loses one without giving it up. -/
theorem setGlobalVarWithElemDims_overwrites_handles :
    let self : RsdCpuScriptImpl :=
      { RsdCpuScriptImpl.construct 1 0 with mFieldAddress := some ⟨[some 9], true⟩ }
    let st : ObjState := ⟨fun _ => 1, [], toLE 4 16⟩
    setGlobalVarWithElemDims true 4 self 0 (.buffer (toLE 4 32)) 4 ⟨4, [0]⟩ 1 8 st = .abort ∧
      setGlobalVarWithElemDims false 4 self 0 (.buffer (toLE 4 32)) 4 ⟨4, [0]⟩ 1 8 st =
        .ok { st with storage := toLE 4 32 } :=
  have h := setGlobalVarWithElemDims_skips_refcounts 4
    { RsdCpuScriptImpl.construct 1 0 with mFieldAddress := some ⟨[some 9], true⟩ } 0 9
    (.buffer (toLE 4 32)) 4 ⟨4, [0]⟩ 1 8 ⟨fun _ => 1, [], toLE 4 16⟩ rfl (by decide)
  ⟨h.1, h.2.trans rfl⟩

end Compat

end RsCpuScript
