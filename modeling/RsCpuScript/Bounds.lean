import RsCpuScript.Lines

/-!
# The parser stays in bounds

`init` reads a descriptor that comes out of a shared library, so nothing bounds what it
holds. This module shows that for every descriptor, and whatever the external calls
return, the parse does two kinds of undefined behaviour at most. Every write into `line`,
into `tmpName` and into the five arrays is in bounds. Every string the parser reads ends
within its buffer. The `error:` label releases only live arrays. The exceptions are
`memset` on the result of `new Allocation *[varCount]`, which the code does not check, and
a read past the end of `.rs.info`: when the descriptor's text does not end with a newline,
`strgets` takes its last line together with the NUL, and the next read starts past it.

The proof carries an invariant of the parse state, `Parse.Inv`, through every read, loop
and section: the line buffer has `MAXLINE` bytes, every array the object points to is
allocated, `mFieldIsObject` has `varCount` cells whenever there are variables, and the
cursor is inside the descriptor unless its text ends without a newline. `Parse.Done` is
what a loop or a section leaves behind: the invariant when it goes on, and an object the
`error:` label can release when it jumps there. `Parse.Ends` adds the one way a read can
fail.
-/

namespace RsCpuScript

namespace Compat

/-! ## What the object owns -/

/-- An array pointer that is NULL or names an allocated array. -/
def LiveOpt {α : Type} : Option (HeapArray α) → Prop
  | none => True
  | some a => a.live = true

theorem liveOpt_new {α : Type} (ok : Bool) (n : Nat) (x : α) : LiveOpt (HeapArray.new ok n x) := by
  cases ok <;> simp [HeapArray.new, LiveOpt]

theorem delete_ok_of_live {α : Type} {a : Option (HeapArray α)} (h : LiveOpt a) :
    ∃ a', HeapArray.delete a = .ok a' := by
  cases a with
  | none => exact ⟨none, rfl⟩
  | some a => exact ⟨_, HeapArray.delete_live h⟩

/-- **The object owns what it points to**: every array is allocated, and the library
handle is open. -/
structure RsdCpuScriptImpl.Owns (s : RsdCpuScriptImpl) : Prop where
  invokeFunctions : LiveOpt s.mInvokeFunctions
  forEachFunctions : LiveOpt s.mForEachFunctions
  fieldAddress : LiveOpt s.mFieldAddress
  fieldIsObject : LiveOpt s.mFieldIsObject
  forEachSignatures : LiveOpt s.mForEachSignatures
  boundAllocs : LiveOpt s.mBoundAllocs
  scriptSO : ∀ h ∈ s.mScriptSO, h.isOpen = true

theorem RsdCpuScriptImpl.owns_construct (v f : Nat) : (RsdCpuScriptImpl.construct v f).Owns :=
  ⟨trivial, trivial, trivial, trivial, trivial, trivial, by simp [RsdCpuScriptImpl.construct]⟩

/-- **The `error:` label releases an object that owns what it points to**, with no
fault. -/
theorem initError_ok (ctx : Ctx) {s : RsdCpuScriptImpl} (h : s.Owns) :
    ∃ r, initError ctx s = .ok r := by
  obtain ⟨_, h1⟩ := delete_ok_of_live h.invokeFunctions
  obtain ⟨_, h2⟩ := delete_ok_of_live h.forEachFunctions
  obtain ⟨_, h3⟩ := delete_ok_of_live h.fieldAddress
  obtain ⟨_, h4⟩ := delete_ok_of_live h.fieldIsObject
  obtain ⟨_, h5⟩ := delete_ok_of_live h.forEachSignatures
  obtain ⟨_, h6⟩ := delete_ok_of_live h.boundAllocs
  simp only [initError, h1, h2, h3, h4, h5, h6, Exec.ok_bind]
  cases hso : s.mScriptSO with
  | none => exact ⟨_, rfl⟩
  | some so =>
    exact ⟨_, by simp only [dlclose, h.scriptSO so hso, if_true, Exec.map_ok, Exec.ok_bind]; rfl⟩

/-! ## The invariant of the parse -/

variable {env : LoadEnv}

/-- **The descriptor's text ends without a newline**: its first NUL, at `q > 0`, comes right
after a character that is not a newline. -/
def LoadEnv.InfoEndsOpen (env : LoadEnv) : Prop :=
  ∃ mem q, env.rsInfo = some mem ∧ 0 < q ∧ mem q = '\x00' ∧ NulFree mem q ∧ mem (q - 1) ≠ '\n'

/-- **Where the parse's cursor can be**: inside the descriptor, or past its NUL only when its
text ends without a newline. -/
def CursorOk (env : LoadEnv) (p : Nat) : Prop :=
  ∀ mem, env.rsInfo = some mem → NulFree mem p ∨ env.InfoEndsOpen

/-- **The invariant of the parse.** -/
structure Parse.Inv (env : LoadEnv) (st : Parse) : Prop where
  cap : st.line.cap = maxLine
  owns : st.self.Owns
  isObject : st.varCount = 0 ∨
    ∃ cells, st.self.mFieldIsObject = some ⟨cells, true⟩ ∧ cells.length = st.varCount
  loaded : st.self.mScriptSO.isSome = true
  cursor : CursorOk env st.pos

/-- What a loop or a section leaves: the invariant when the parse goes on, and when it
stops, an object the `error:` label can release, its library still loaded. -/
def Parse.Done (env : LoadEnv) : Bool × Parse → Prop
  | (true, st) => st.Inv env
  | (false, st) => st.self.Owns ∧ st.self.mScriptSO.isSome = true

theorem Parse.Inv.stop {st : Parse} (h : st.Inv env) : Parse.Done env (false, st) :=
  ⟨h.owns, h.loaded⟩

/-- A read changes the line and the cursor only. -/
theorem Parse.Inv.frame {st st' : Parse} (h : st.Inv env) (hcap : st'.line.cap = maxLine)
    (hs : st'.self = st.self) (hv : st'.varCount = st.varCount) (hc : CursorOk env st'.pos) :
    st'.Inv env :=
  ⟨hcap, hs ▸ h.owns, hs ▸ hv ▸ h.isObject, hs ▸ h.loaded, hc⟩

/-- A write into an array other than `mFieldIsObject` keeps the invariant. -/
theorem Parse.Inv.update {st : Parse} (h : st.Inv env) {f : RsdCpuScriptImpl → RsdCpuScriptImpl}
    (hf : (f st.self).Owns) (hobj : (f st.self).mFieldIsObject = st.self.mFieldIsObject)
    (hso : (f st.self).mScriptSO = st.self.mScriptSO) : (st.update f).Inv env :=
  ⟨h.cap, hf, hobj ▸ h.isObject, hso ▸ h.loaded, h.cursor⟩

/-- **What a step of the parse ends in**: a result that meets `P`, or a read past the end of
a descriptor whose text ends without a newline. -/
def Parse.Ends (env : LoadEnv) {α : Type} (P : α → Prop) (x : Exec α) : Prop :=
  (x = .fault .pastEnd ∧ env.InfoEndsOpen) ∨ ∃ a, x = .ok a ∧ P a

theorem Parse.Ends.ok {α : Type} {P : α → Prop} {a : α} (h : P a) : Parse.Ends env P (.ok a) :=
  .inr ⟨a, rfl, h⟩

theorem Parse.Ends.bind {α β : Type} {P : α → Prop} {Q : β → Prop} {x : Exec α}
    {f : α → Exec β} (h : Parse.Ends env P x) (hf : ∀ a, P a → Parse.Ends env Q (f a)) :
    Parse.Ends env Q (x >>= f) := by
  rcases h with ⟨rfl, he⟩ | ⟨a, rfl, ha⟩
  · exact .inl ⟨rfl, he⟩
  · exact hf a ha

/-! ## Reading a line -/

/-- **`strgets` on the descriptor** finds no line, reads past the end of a descriptor whose
text ends without a newline, or leaves in `line` a string of at most `MAXLINE - 1`
characters, with the cursor where it can be. -/
theorem Parse.nextLine_cases (st : Parse) (hcap : st.line.cap = maxLine) (hc : CursorOk env st.pos) :
    Parse.Ends env (fun o => o = none ∨ ∃ w p, '\x00' ∉ w ∧ w.length ≤ maxLine - 1 ∧
      CursorOk env p ∧ o = some { st with line := st.line.fill 0 (w ++ ['\x00']), pos := p })
      (st.nextLine env) := by
  unfold nextLine
  cases hinfo : env.rsInfo with
  | none => exact .ok (.inl rfl)
  | some mem =>
    by_cases hf : NulFree mem st.pos
    · rw [checkCursor_some hf, Exec.ok_bind]
      by_cases hp : mem st.pos = '\x00'
      · simp only [strgets, hp, true_or, if_true, Exec.pure_eq, Exec.ok_bind]
        exact .ok (.inl rfl)
      · simp only [strgets_eq st.line maxLine mem st.pos (by decide) hcap.ge hp, Exec.ok_bind]
        refine .ok (.inr ⟨_, _, nul_not_mem_gets mem _ st.pos, gets_length_le mem _ st.pos,
          fun m e => ?_, rfl⟩)
        obtain rfl : mem = m := Option.some.inj (hinfo.symm.trans e)
        rcases gets_nulFree mem (maxLine - 1) st.pos hf with h1 | ⟨q, hq, hz, hfq, hl⟩
        · exact .inl h1
        · have hlt : st.pos < q := lt_of_le_of_ne hq fun e => hp (e ▸ hz)
          exact .inr ⟨mem, q, hinfo, by omega, hz, hfq, hl hlt⟩
    · rw [checkCursor_some_of_not hf, Exec.fault_bind]
      exact .inl ⟨rfl, (hc mem hinfo).resolve_left hf⟩

theorem str_line_of_le {b : CharBuf} {w : List Char} (hcap : b.cap = maxLine) (hw : '\x00' ∉ w)
    (hlen : w.length ≤ maxLine - 1) : (b.fill 0 (w ++ ['\x00'])).str = .ok w :=
  CharBuf.str_fill hw (by rw [hcap]; unfold maxLine at *; omega)

/-- What a count line or a name leaves: the line buffer, the object and the count as they
were, and the cursor where it can be. -/
def Parse.ReadOk (env : LoadEnv) (st : Parse) {α : Type} (o : Option (Parse × α)) : Prop :=
  ∀ p ∈ o, p.1.line.cap = maxLine ∧ p.1.self = st.self ∧ p.1.varCount = st.varCount ∧
    CursorOk env p.1.pos

/-- A count line read or not found, with no fault but a read past the descriptor. -/
theorem Parse.count_cases (st : Parse) (key : String) (hcap : st.line.cap = maxLine)
    (hc : CursorOk env st.pos) : Parse.Ends env (Parse.ReadOk env st) (st.count env key) := by
  unfold count
  refine (Parse.nextLine_cases st hcap hc).bind ?_
  rintro o (rfl | ⟨w, p, hw, hlen, hcp, rfl⟩)
  · exact .ok (by simp [Parse.ReadOk])
  · simp only [str_line_of_le hcap hw hlen, Exec.ok_bind]
    split
    · exact .ok (by simp [Parse.ReadOk, hcap, hcp])
    · exact .ok (by simp [Parse.ReadOk])

/-- A name read or not found, with no fault but a read past the descriptor: the newline
`strrchr` finds is inside the string, and cutting the string there leaves it terminated. -/
theorem Parse.name_cases (st : Parse) (hcap : st.line.cap = maxLine) (hc : CursorOk env st.pos) :
    Parse.Ends env (Parse.ReadOk env st) (st.name env) := by
  unfold name
  refine (Parse.nextLine_cases st hcap hc).bind ?_
  rintro o (rfl | ⟨w, p, hw, hlen, hcp, rfl⟩)
  · exact .ok (by simp [Parse.ReadOk])
  · have hlt : w.length < maxLine := by unfold maxLine at *; omega
    simp only [str_line_of_le hcap hw hlen, Exec.ok_bind]
    cases hr : strrchr w '\n' with
    | none =>
      simp only [Exec.pure_eq, Exec.ok_bind, str_line_of_le hcap hw hlen]
      exact .ok (by simp [Parse.ReadOk, hcap, hcp])
    | some i =>
      have hi := strrchr_lt hr
      simp only [CharBuf.set_of_lt _ (by simp [hcap]; omega : i < (st.line.fill 0 (w ++ ['\x00'])).cap),
        @CharBuf.str_put_nul st.line w i hw hi (by rw [hcap]; exact hlt), Exec.ok_bind]
      exact .ok (by simp [Parse.ReadOk, hcap, hcp])

/-! ## The loops -/

/-- The variable loop writes `mFieldAddress` below its length. -/
theorem varLoop_done : ∀ (k i : Nat) (st : Parse) (cells : List (Option Nat)), st.Inv env →
    st.self.mFieldAddress = some ⟨cells, true⟩ → i + k ≤ cells.length →
    Parse.Ends env (Parse.Done env) (varLoop env k i st)
  | 0, _, st, _, h, _, _ => .ok h
  | k + 1, i, st, cells, h, hfa, hk => by
    unfold varLoop
    refine (Parse.name_cases st h.cap h.cursor).bind ?_
    rintro (_ | p) hpost
    · exact .ok h.stop
    · obtain ⟨c1, s1, v1, cur1⟩ := hpost p rfl
      have h1 := h.frame c1 s1 v1 cur1
      let cells' := cells.set i (env.dlsym p.2)
      simp only [s1, hfa, HeapArray.write_live _ (by omega : i < cells.length), Exec.ok_bind]
      exact varLoop_done k (i + 1) _ cells' (h1.update { h1.owns with fieldAddress := rfl } rfl rfl)
        rfl (by simp [cells']; omega)

/-- The function loop writes `mInvokeFunctions` below its length. -/
theorem funcLoop_done : ∀ (k i : Nat) (st : Parse) (cells : List (Option Nat)), st.Inv env →
    st.self.mInvokeFunctions = some ⟨cells, true⟩ → i + k ≤ cells.length →
    Parse.Ends env (Parse.Done env) (funcLoop env k i st)
  | 0, _, st, _, h, _, _ => .ok h
  | k + 1, i, st, cells, h, hfs, hk => by
    unfold funcLoop
    refine (Parse.name_cases st h.cap h.cursor).bind ?_
    rintro (_ | p) hpost
    · exact .ok h.stop
    · obtain ⟨c1, s1, v1, cur1⟩ := hpost p rfl
      have h1 := h.frame c1 s1 v1 cur1
      let cells' := cells.set i (env.dlsym p.2)
      have h2 : (p.1.update ({ · with mInvokeFunctions := some ⟨cells', true⟩ })).Inv env :=
        h1.update { h1.owns with invokeFunctions := rfl } rfl rfl
      simp only [s1, hfs, HeapArray.write_live _ (by omega : i < cells.length), Exec.ok_bind]
      split_ifs
      · exact .ok h2.stop
      · exact funcLoop_done k (i + 1) _ cells' h2 rfl (by simp [cells']; omega)

/-- **The kernel loop stays in bounds.** The token `%500s` reads is at most the line less
two characters, so the token, `".expand"` and their NUL fit in `tmpName`; the tables are
written below their lengths. -/
theorem forEachLoop_done : ∀ (k i : Nat) (st : Parse) (cs : List Nat) (cf : List (Option Nat)),
    st.Inv env → st.self.mForEachSignatures = some ⟨cs, true⟩ →
    st.self.mForEachFunctions = some ⟨cf, true⟩ → i + k ≤ cs.length → i + k ≤ cf.length →
    Parse.Ends env (Parse.Done env) (forEachLoop env k i st)
  | 0, _, st, _, _, h, _, _, _, _ => .ok h
  | k + 1, i, st, cs, cf, h, hs, hf, hks, hkf => by
    unfold forEachLoop
    refine (Parse.nextLine_cases st h.cap h.cursor).bind ?_
    rintro o (rfl | ⟨w, p, hw, hlen, hcp, rfl⟩)
    · exact .ok h.stop
    · let st1 : Parse := { st with line := st.line.fill 0 (w ++ ['\x00']), pos := p }
      have h1 : st1.Inv env := h.frame (by simp [st1, h.cap]) rfl rfl hcp
      simp only [str_line_of_le h.cap hw hlen, Exec.ok_bind]
      split
      · rename_i tmpSig tok hsc
        obtain ⟨htl, hsub⟩ := sscanf_forEachFmt_token hsc
        obtain ⟨b, hb, hbstr⟩ := @expandName_eq env tok (fun hn => hw (hsub hn))
          (by unfold maxLine at *; omega)
        let cs' := cs.set i tmpSig
        let cf' := cf.set i (env.dlsym (tok ++ ".expand".toList.take (maxLine - 1 - tok.length)))
        have h2 : (st1.update ({ · with
            mForEachSignatures := some ⟨cs', true⟩, mForEachFunctions := some ⟨cf', true⟩ })).Inv env :=
          h1.update { h1.owns with forEachSignatures := rfl, forEachFunctions := rfl } rfl rfl
        simp only [hb, Exec.ok_bind, hs, hf, hbstr, HeapArray.write_live _ (by omega : i < cs.length),
          HeapArray.write_live _ (by omega : i < cf.length)]
        split_ifs
        · exact .ok h2.stop
        · exact forEachLoop_done k (i + 1) _ cs' cf' h2 rfl rfl (by simp [cs']; omega)
            (by simp [cf']; omega)
      · exact .ok h1.stop

/-- **The object-slot loop stays in bounds**: it writes `mFieldIsObject` only at a slot
below `varCount`, the length it was allocated with, and not at all when there are no
variables. -/
theorem slotLoop_done : ∀ (k : Nat) (st : Parse), st.Inv env →
    Parse.Ends env (Parse.Done env) (slotLoop env k st)
  | 0, st, h => .ok h
  | k + 1, st, h => by
    unfold slotLoop
    refine (Parse.nextLine_cases st h.cap h.cursor).bind ?_
    rintro o (rfl | ⟨w, p, hw, hlen, hcp, rfl⟩)
    · exact .ok h.stop
    · let st1 : Parse := { st with line := st.line.fill 0 (w ++ ['\x00']), pos := p }
      have h1 : st1.Inv env := h.frame (by simp [st1, h.cap]) rfl rfl hcp
      simp only [str_line_of_le h.cap hw hlen, Exec.ok_bind]
      split
      · rename_i varNum _
        split_ifs with hv
        · obtain ⟨cells, ho, hcl⟩ := h.isObject.resolve_left (by omega)
          have h2 : (st1.update ({ · with mFieldIsObject := some ⟨cells.set varNum true, true⟩ })).Inv env :=
            ⟨h1.cap, { h1.owns with fieldIsObject := rfl }, .inr ⟨_, rfl, by simpa using hcl⟩, h1.loaded,
              h1.cursor⟩
          simp only [ho, HeapArray.write_live _ (by omega : varNum < cells.length), Exec.ok_bind]
          exact slotLoop_done k _ h2
        · exact slotLoop_done k st1 h1
      · exact .ok h1.stop

/-! ## The sections -/

/-- The variable section allocates `varCount` cells for both its arrays before it writes
them. -/
theorem varSection_done (st : Parse) (h : st.Inv env) :
    Parse.Ends env (Parse.Done env) (varSection env st) := by
  unfold varSection
  refine (Parse.count_cases st exportVarStr h.cap h.cursor).bind ?_
  rintro (_ | ⟨⟨self1, line1, pos1, vc1⟩, n⟩) hpost
  · exact .ok h.stop
  · obtain ⟨c1, s1, -, cur1⟩ := hpost _ rfl
    simp only at c1 s1 cur1
    subst s1
    by_cases hn : 0 < n
    · simp only [hn, if_true, Parse.update, HeapArray.new]
      cases ha : env.newOk .fieldIsObject
      · exact .ok ⟨{ h.owns with fieldIsObject := trivial }, h.loaded⟩
      cases hb : env.newOk .fieldAddress
      · exact .ok ⟨{ h.owns with fieldIsObject := rfl, fieldAddress := trivial }, h.loaded⟩
      exact varLoop_done n 0 _ _ ⟨c1, { h.owns with fieldIsObject := rfl, fieldAddress := rfl },
        .inr ⟨_, rfl, by simp⟩, h.loaded, cur1⟩ rfl (by simp)
    · simp only [hn, if_false]
      exact .ok ⟨c1, { h.owns with }, .inl (Nat.eq_zero_of_not_pos hn), h.loaded, cur1⟩

/-- The function section allocates `funcCount` cells before it writes them. -/
theorem funcSection_done (st : Parse) (h : st.Inv env) :
    Parse.Ends env (Parse.Done env) (funcSection env st) := by
  unfold funcSection
  refine (Parse.count_cases st exportFuncStr h.cap h.cursor).bind ?_
  rintro (_ | ⟨⟨self1, line1, pos1, vc1⟩, n⟩) hpost
  · exact .ok h.stop
  · obtain ⟨c1, s1, v1, cur1⟩ := hpost _ rfl
    simp only at c1 s1 v1 cur1
    subst s1 v1
    by_cases hn : 0 < n
    · simp only [hn, if_true, Parse.update, HeapArray.new]
      cases ha : env.newOk .invokeFunctions
      · exact .ok ⟨{ h.owns with invokeFunctions := trivial }, h.loaded⟩
      exact funcLoop_done n 0 _ _ ⟨c1, { h.owns with invokeFunctions := rfl }, h.isObject, h.loaded,
        cur1⟩ rfl (by simp)
    · simp only [hn, if_false]
      exact .ok ⟨c1, { h.owns with }, h.isObject, h.loaded, cur1⟩

/-- The kernel section allocates `forEachCount` cells for both its tables before it writes
them. -/
theorem forEachSection_done (st : Parse) (h : st.Inv env) :
    Parse.Ends env (Parse.Done env) (forEachSection env st) := by
  unfold forEachSection
  refine (Parse.count_cases st exportForEachStr h.cap h.cursor).bind ?_
  rintro (_ | ⟨⟨self1, line1, pos1, vc1⟩, n⟩) hpost
  · exact .ok h.stop
  · obtain ⟨c1, s1, v1, cur1⟩ := hpost _ rfl
    simp only at c1 s1 v1 cur1
    subst s1 v1
    by_cases hn : 0 < n
    · simp only [hn, if_true, Parse.update, HeapArray.new]
      cases ha : env.newOk .forEachSignatures
      · exact .ok ⟨{ h.owns with forEachSignatures := trivial }, h.loaded⟩
      cases hb : env.newOk .forEachFunctions
      · exact .ok ⟨{ h.owns with forEachSignatures := rfl, forEachFunctions := trivial }, h.loaded⟩
      exact forEachLoop_done n 0 _ _ _
        ⟨c1, { h.owns with forEachSignatures := rfl, forEachFunctions := rfl }, h.isObject, h.loaded,
          cur1⟩ rfl rfl (by simp) (by simp)
    · simp only [hn, if_false]
      exact .ok ⟨c1, h.owns, h.isObject, h.loaded, cur1⟩

/-- The object-slot section stops at `rsAssert(varCount > 0)` or stays in bounds. -/
theorem slotSection_done (aborts : Bool) (st : Parse) (h : st.Inv env) :
    slotSection aborts env st = .abort ∨ Parse.Ends env (Parse.Done env) (slotSection aborts env st) := by
  unfold slotSection
  rcases Parse.count_cases st objectSlotStr h.cap h.cursor with ⟨e, he⟩ | ⟨o, e, hpost⟩
  · exact .inr (.inl ⟨by rw [e]; rfl, he⟩)
  rw [e, Exec.ok_bind]
  cases o with
  | none => exact .inr (.ok h.stop)
  | some p =>
    obtain ⟨st1, n⟩ := p
    obtain ⟨c1, s1, v1, cur1⟩ := hpost _ rfl
    have h1 := h.frame c1 s1 v1 cur1
    simp only
    split_ifs with hn
    · rcases rsAssert_cases aborts (decide (0 < st1.varCount)) with ⟨-, e⟩ | e <;> rw [e]
      · exact .inl rfl
      · exact .inr (slotLoop_done n st1 h1)
    · exact .inr (.ok h1)

/-! ## `init` -/

/-- **What the parse ends in**: a stop at an assertion, the `memset` of a NULL
`mBoundAllocs`, a read past the end of a descriptor whose text ends without a newline, or a
result the `error:` label can release. -/
def ParseOutcome (env : LoadEnv) (x : Exec (Bool × Parse)) : Prop :=
  x = .abort ∨ (x = .fault .nullDeref ∧ env.newOk .boundAllocs = false) ∨
    (x = .fault .pastEnd ∧ env.InfoEndsOpen) ∨ ∃ r, x = .ok r ∧ Parse.Done env (false, r.2)

theorem Parse.Ends.outcome {α : Type} {P : α → Prop} {x : Exec α} {f : α → Exec (Bool × Parse)}
    (h : Parse.Ends env P x) (hf : ∀ a, P a → ParseOutcome env (f a)) :
    ParseOutcome env (x >>= f) := by
  rcases h with ⟨rfl, he⟩ | ⟨a, rfl, ha⟩
  · exact .inr (.inr (.inl ⟨rfl, he⟩))
  · exact hf a ha

/-- **The parse faults only at the unchecked `new Allocation *[varCount]`**, or by reading
past a descriptor that ends without a newline. -/
theorem parseInfo_cases (aborts : Bool) (st : Parse) (h : st.Inv env) :
    ParseOutcome env (parseInfo aborts env st) := by
  have stop : ∀ s, Parse.Done env (false, s) → ParseOutcome env (pure (false, s)) :=
    fun s d => .inr (.inr (.inr ⟨_, rfl, d⟩))
  unfold parseInfo
  refine (varSection_done st h).outcome fun ⟨b1, s1⟩ d1 => ?_
  cases b1
  · exact stop s1 d1
  refine (funcSection_done s1 d1).outcome fun ⟨b2, s2⟩ d2 => ?_
  cases b2
  · exact stop s2 d2
  refine (forEachSection_done s2 d2).outcome fun ⟨b3, s3⟩ d3 => ?_
  cases b3
  · exact stop s3 d3
  rcases slotSection_done aborts s3 d3 with e4 | h4
  · exact .inl (by simp only [Bool.not_true, Bool.false_eq_true, if_false, e4, Exec.abort_bind,
      Exec.pure_eq, Exec.ok_bind])
  refine h4.outcome fun ⟨b4, s4⟩ d4 => ?_
  cases b4
  · exact stop s4 d4
  by_cases hv : 0 < s4.varCount
  · simp only [Bool.not_true, Bool.false_eq_true, if_false, hv, if_true, HeapArray.new]
    cases hb : env.newOk .boundAllocs
    · exact .inr (.inl ⟨rfl, hb⟩)
    · exact .inr (.inr (.inr ⟨_, rfl, { d4.owns with boundAllocs := rfl }, d4.loaded⟩))
  · simp only [Bool.not_true, Bool.false_eq_true, if_false, hv]
    exact .inr (.inr (.inr ⟨_, rfl, d4.stop⟩))

/-- The parse starts from the invariant. -/
theorem initParse_inv (env : LoadEnv) {self : RsdCpuScriptImpl} (hself : self.Owns) (h : Nat) :
    (initParse env self h).Inv env :=
  ⟨rfl, { hself with scriptSO := by simp [initParse] }, .inl rfl, rfl,
    fun mem _ => .inl (NulFree.zero mem)⟩

/-- **The undefined behaviour of `init`** on an object that owns what it points to: the
`memset` of a NULL `mBoundAllocs`, or a read past the end of a descriptor whose text ends
without a newline. -/
theorem init_fault_of_owns (aborts : Bool) (env : LoadEnv) (ctx : Ctx) {self : RsdCpuScriptImpl}
    (hself : self.Owns) {e : Fault} (h : init aborts env ctx self = .fault e) :
    (e = .nullDeref ∧ env.newOk .boundAllocs = false) ∨ (e = .pastEnd ∧ env.InfoEndsOpen) := by
  cases hso : env.so with
  | none =>
    have howns : ({ self with mScriptSO := none } : RsdCpuScriptImpl).Owns :=
      { hself with scriptSO := by simp }
    obtain ⟨r, hr⟩ := initError_ok ctx.lockMutex howns
    simp [init, hso, hr] at h
  | some so =>
    rw [init_of_so aborts env hso] at h
    rcases parseInfo_cases aborts _ (initParse_inv env hself so) with
      e1 | ⟨e1, hb⟩ | ⟨e1, he⟩ | ⟨⟨b, st⟩, e1, d1⟩
    · simp [e1] at h
    · simp only [e1, Exec.fault_bind, Exec.fault.injEq] at h
      exact .inl ⟨h.symm, hb⟩
    · simp only [e1, Exec.fault_bind, Exec.fault.injEq] at h
      exact .inr ⟨h.symm, he⟩
    · obtain ⟨r, hr⟩ := initError_ok ctx.lockMutex d1.1
      cases b <;> simp [e1, hr] at h

/-- **Every access of the parser is in bounds.** For every descriptor and every outcome of
`loadSharedLibrary`, `dlsym` and `new[]`, `init` on a new object writes `line`, `tmpName`
and the five tables only below their lengths, reads `line` and `tmpName` only as strings
that end within them, and so never goes out of bounds. -/
theorem init_in_bounds (aborts : Bool) (env : LoadEnv) (ctx : Ctx) (varCount funcCount : Nat) :
    init aborts env ctx (RsdCpuScriptImpl.construct varCount funcCount) ≠ .fault .outOfBounds :=
  fun h => by
    rcases init_fault_of_owns aborts env ctx (RsdCpuScriptImpl.owns_construct _ _) h with
      ⟨he, -⟩ | ⟨he, -⟩ <;> cases he

end Compat

end RsCpuScript
