import RsCpuScript.Lines

/-!
# Reading a descriptor back

The compiler writes `.rs.info` for the parser to read. This module states what a
descriptor is, serialises a record of exports into one, and proves that `init` reads the
record back: the counts, the addresses `dlsym` gives each name, the kernels' signatures
and expanded entry points, and which variables hold objects.

The proof follows the parser. One lemma per kind of line (`Parse.nextLine_line`,
`Parse.count_line`, `Parse.name_line`) says what reading it does to the parse state; one
lemma per loop, by induction over the names it reads; one per section; then `parseInfo`
and `init`.
-/

namespace RsCpuScript

namespace Compat

/-! ## Records and their descriptors -/

/-- **A record of exports**, as `.rs.info` describes them. -/
structure RsInfo where
  /-- The exported variables' names. -/
  vars : List (List Char)
  /-- The exported invocable functions' names. -/
  funcs : List (List Char)
  /-- The kernels: signature and name. -/
  kernels : List (UInt32 × List Char)
  /-- The variables that hold object handles. -/
  slots : List UInt32

/-- A kernel line, `sig - name`. -/
def kernelLine (k : UInt32 × List Char) : List Char := decimal k.1.toNat ++ " - ".toList ++ k.2

/-- An object-slot line. -/
def slotLine (v : UInt32) : List Char := decimal v.toNat

/-- The lines of the descriptor of `r`, section after section. -/
def RsInfo.lines (r : RsInfo) : List (List Char) :=
  (countLine exportVarStr r.vars.length :: r.vars) ++
  (countLine exportFuncStr r.funcs.length :: r.funcs) ++
  (countLine exportForEachStr r.kernels.length :: r.kernels.map kernelLine) ++
  (countLine objectSlotStr r.slots.length :: r.slots.map slotLine)

/-- **The descriptor of `r`**, every line ended by a newline. -/
def RsInfo.serialize (r : RsInfo) : List Char := text r.lines

/-- A kernel the parser reads back whole: a non-empty name without white space, that
leaves room for `".expand"` in `MAXLINE` bytes. -/
def KernelOk (k : UInt32 × List Char) : Prop :=
  LineOk (kernelLine k) ∧ k.2 ≠ [] ∧ (∀ c ∈ k.2, isSpace c = false) ∧
    k.2.length + ".expand".length < maxLine

instance (k : UInt32 × List Char) : Decidable (KernelOk k) :=
  inferInstanceAs (Decidable (_ ∧ _ ∧ _ ∧ _))

/-- Which of the first `n` variables are among `done`. -/
def marks (n : Nat) (done : List Nat) : List Bool := (List.range n).map (fun j => decide (j ∈ done))

variable {env : LoadEnv} {mem : Mem}

/-- **The variable loop over names** stores `dlsym` of each name in turn. A name is a
chunk `strgets` reads in one call: a whole line, or a full buffer of a longer one. -/
theorem varLoop_chunks (hinfo : env.rsInfo = some mem) :
    ∀ (ns : List (List Char)) (st : Parse) (pre : List (Option Nat)),
    st.line.cap = maxLine → NulFree mem st.pos → (∀ n ∈ ns, ChunkOk n) →
    Reads mem st.pos (ns.flatMap chunkText) →
    st.self.mFieldAddress = some ⟨pre ++ List.replicate ns.length none, true⟩ →
    ∃ st', varLoop env ns.length pre.length st = .ok (true, st') ∧ st'.line.cap = maxLine ∧
      st'.pos = st.pos + (ns.flatMap chunkText).length ∧ st'.varCount = st.varCount ∧
      st'.self = { st.self with mFieldAddress := some ⟨pre ++ ns.map env.dlsym, true⟩ }
  | [], st, pre, hcap, _, _, _, hfa => ⟨st, rfl, hcap, rfl, rfl, by
      simp only [List.length_nil, List.replicate_zero, List.append_nil] at hfa
      simp only [List.map_nil, List.append_nil, ← hfa]⟩
  | n :: ns, st, pre, hcap, hpre, hn, hr, hfa => by
    rw [List.flatMap_cons, reads_append] at hr
    obtain ⟨line, hlcap, hname⟩ := Parse.name_chunk hinfo hpre hcap (hn n (by simp)) hr.1
    let fa : HeapArray (Option Nat) := ⟨(pre ++ [env.dlsym n]) ++ List.replicate ns.length none, true⟩
    obtain ⟨st', hloop, h1, h2, h3, h4⟩ := varLoop_chunks hinfo ns
      { st with line := line, pos := st.pos + (chunkText n).length, self := { st.self with mFieldAddress := some fa } }
      (pre ++ [env.dlsym n]) hlcap (hpre.chunk (hn n (by simp)) hr.1) (fun n' h' => hn n' (by simp [h']))
      hr.2 rfl
    refine ⟨st', ?_, h1, ?_, h3, ?_⟩
    · simp only [List.length_cons, varLoop, hname, Exec.ok_bind, hfa, List.replicate_succ,
        HeapArray.write_live _ (by simp : pre.length < (pre ++ none :: _).length), set_middle]
      simpa [Parse.update, fa] using hloop
    · simp [h2, List.flatMap_cons]; omega
    · simp [h4]

/-- The invoke-function loop over name lines stores `dlsym` of each name in turn, every
one of them resolving. -/
theorem funcLoop_lines (hinfo : env.rsInfo = some mem) :
    ∀ (ns : List (List Char)) (st : Parse) (pre : List (Option Nat)),
    st.line.cap = maxLine → NulFree mem st.pos → (∀ l ∈ ns, LineOk l ∧ (env.dlsym l).isSome) →
    Reads mem st.pos (text ns) →
    st.self.mInvokeFunctions = some ⟨pre ++ List.replicate ns.length none, true⟩ →
    ∃ st', funcLoop env ns.length pre.length st = .ok (true, st') ∧ st'.line.cap = maxLine ∧
      st'.pos = st.pos + (text ns).length ∧ st'.varCount = st.varCount ∧
      st'.self = { st.self with mInvokeFunctions := some ⟨pre ++ ns.map env.dlsym, true⟩ }
  | [], st, pre, hcap, _, _, _, hfs => ⟨st, rfl, hcap, rfl, rfl, by
      simp only [List.length_nil, List.replicate_zero, List.append_nil] at hfs
      simp only [List.map_nil, List.append_nil, ← hfs]⟩
  | l :: ns, st, pre, hcap, hpre, hl, hr, hfs => by
    rw [reads_text_cons] at hr
    obtain ⟨hlok, hsome⟩ := hl l (by simp)
    obtain ⟨line, hlcap, hname⟩ := Parse.name_line hinfo hpre hcap hlok hr.1
    let fs : HeapArray (Option Nat) := ⟨(pre ++ [env.dlsym l]) ++ List.replicate ns.length none, true⟩
    obtain ⟨st', hloop, h1, h2, h3, h4⟩ := funcLoop_lines hinfo ns
      { st with line := line, pos := st.pos + l.length + 1, self := { st.self with mInvokeFunctions := some fs } }
      (pre ++ [env.dlsym l]) hlcap (hpre.line hlok.1 hr.1) (fun l' h' => hl l' (by simp [h'])) hr.2 rfl
    refine ⟨st', ?_, h1, ?_, h3, ?_⟩
    · simp only [List.length_cons, funcLoop, hname, Exec.ok_bind, hfs, List.replicate_succ,
        HeapArray.write_live _ (by simp : pre.length < (pre ++ none :: _).length), set_middle,
        Option.isSome_iff_ne_none.mp hsome, if_false]
      simpa [Parse.update, fs] using hloop
    · simp [h2, text_cons]; omega
    · simp [h4]

/-- The kernel loop over kernel lines stores each signature and each expanded entry
point; every kernel but the first resolves. -/
theorem forEachLoop_lines (hinfo : env.rsInfo = some mem) :
    ∀ (ks : List (UInt32 × List Char)) (st : Parse) (preS : List Nat) (preF : List (Option Nat)),
    preF.length = preS.length → st.line.cap = maxLine → NulFree mem st.pos → (∀ k ∈ ks, KernelOk k) →
    (∀ j (h : j < ks.length), preS.length + j ≠ 0 →
      (env.dlsym (ks[j].2 ++ ".expand".toList)).isSome) →
    Reads mem st.pos (text (ks.map kernelLine)) →
    st.self.mForEachSignatures = some ⟨preS ++ List.replicate ks.length 0, true⟩ →
    st.self.mForEachFunctions = some ⟨preF ++ List.replicate ks.length none, true⟩ →
    ∃ st', forEachLoop env ks.length preS.length st = .ok (true, st') ∧ st'.line.cap = maxLine ∧
      st'.pos = st.pos + (text (ks.map kernelLine)).length ∧ st'.varCount = st.varCount ∧
      st'.self = { st.self with
        mForEachSignatures := some ⟨preS ++ ks.map (·.1.toNat), true⟩
        mForEachFunctions := some ⟨preF ++ ks.map (fun k => env.dlsym (k.2 ++ ".expand".toList)), true⟩ }
  | [], st, preS, preF, _, hcap, _, _, _, _, hs, hf => ⟨st, rfl, hcap, rfl, rfl, by
      simp only [List.length_nil, List.replicate_zero, List.append_nil] at hs hf
      simp only [List.map_nil, List.append_nil, ← hs, ← hf]⟩
  | k :: ks, st, preS, preF, hlen, hcap, hpre, hk, hres, hr, hs, hf => by
    rw [List.map_cons, reads_text_cons] at hr
    obtain ⟨hlok, hne, hsp, hroom⟩ := hk k (by simp)
    have hnl := Parse.nextLine_line hinfo hpre hcap hlok hr.1
    have hsc : sscanf forEachFmt (kernelLine k ++ ['\n']) = [.num k.1.toNat, .str k.2] := by
      have hsig : k.1.toNat % 2 ^ 32 = k.1.toNat := Nat.mod_eq_of_lt (UInt32.toNat_lt_size k.1)
      rw [kernelLine, sscanf_forEachFmt _ _ hne hsp (by omega), hsig]
    have h7 : ".expand".length = 7 := rfl
    have h7' : ".expand".toList.length = 7 := rfl
    obtain ⟨b, hb, hbstr⟩ := @expandName_eq env k.2 (fun h => hlok.1 (by simp [kernelLine, h])) (by omega)
    rw [List.take_of_length_le (by unfold maxLine at *; omega)] at hbstr
    let fn := env.dlsym (k.2 ++ ".expand".toList)
    let sigs : HeapArray Nat := ⟨(preS ++ [k.1.toNat]) ++ List.replicate ks.length 0, true⟩
    let fns : HeapArray (Option Nat) := ⟨(preF ++ [fn]) ++ List.replicate ks.length none, true⟩
    let st1 : Parse :=
      { st with
        line := st.line.fill 0 (kernelLine k ++ ['\n'] ++ ['\x00'])
        pos := st.pos + (kernelLine k).length + 1
        self := { st.self with mForEachSignatures := some sigs, mForEachFunctions := some fns } }
    obtain ⟨st', hloop, h1, h2, h3, h4⟩ := forEachLoop_lines hinfo ks st1 (preS ++ [k.1.toNat]) (preF ++ [fn]) (by simp [hlen]) (by simp [hcap])
      (hpre.line hlok.1 hr.1) (fun k' h' => hk k' (by simp [h'])) (fun j h _ => by
        simpa [Nat.add_assoc, Nat.add_comm 1] using hres (j + 1) (by simpa using h) (by omega))
      hr.2 rfl rfl
    have hfn : ¬ (preS.length ≠ 0 ∧ env.dlsym (k.2 ++ ".expand".toList) = none) := by
      rintro ⟨h0, hnone⟩
      have := hres 0 (by simp) (by simpa using h0)
      simp only [List.getElem_cons_zero, hnone, Option.isSome_none] at this
      exact Bool.false_ne_true this
    refine ⟨st', ?_, h1, ?_, h3, ?_⟩
    · simp only [List.length_cons, forEachLoop, hnl, Exec.ok_bind, Parse.str_line hcap hlok, hsc,
        hb, hs, hf, List.replicate_succ, hbstr,
        HeapArray.write_live _ (by simp : preS.length < (preS ++ 0 :: _).length),
        HeapArray.write_live _ (by simp [hlen] : preS.length < (preF ++ none :: _).length),
        set_middle, set_middle_of_eq _ _ hlen, hfn, if_false]
      simpa [Parse.update, st1, sigs, fns] using hloop
    · simp [h2, text_cons]; omega
    · simp [h4, fn]

theorem marks_set (n v : Nat) (done : List Nat) :
    (marks n done).set v true = marks n (done ++ [v]) := by
  apply List.ext_getElem (by simp [marks])
  intro j h1 h2
  simp only [marks, List.getElem_set, List.getElem_map, List.getElem_range, List.mem_append,
    List.mem_singleton]
  by_cases hj : v = j <;> simp [hj, eq_comm]

theorem marks_of_le {n v : Nat} (done : List Nat) (h : n ≤ v) :
    marks n (done ++ [v]) = marks n done := by
  apply List.ext_getElem (by simp [marks])
  intro j h1 h2
  simp only [marks, List.length_map, List.length_range] at h1
  simp [marks, show j ≠ v by omega]

theorem slotLine_ok (v : UInt32) : sscanf slotFmt (slotLine v ++ ['\n']) = [.num v.toNat] := by
  have hv : v.toNat % 2 ^ 32 = v.toNat := Nat.mod_eq_of_lt (UInt32.toNat_lt_size v)
  rw [slotLine, sscanf_slotFmt, hv]

/-- The object-slot loop over slot lines marks each slot below `varCount`. -/
theorem slotLoop_lines (hinfo : env.rsInfo = some mem) :
    ∀ (vs : List UInt32) (st : Parse) (done : List Nat),
    st.line.cap = maxLine → NulFree mem st.pos → (∀ v ∈ vs, LineOk (slotLine v)) →
    Reads mem st.pos (text (vs.map slotLine)) →
    st.self.mFieldIsObject = some ⟨marks st.varCount done, true⟩ →
    ∃ st', slotLoop env vs.length st = .ok (true, st') ∧ st'.line.cap = maxLine ∧
      st'.pos = st.pos + (text (vs.map slotLine)).length ∧ st'.varCount = st.varCount ∧
      st'.self = { st.self with
        mFieldIsObject := some ⟨marks st.varCount (done ++ vs.map UInt32.toNat), true⟩ }
  | [], st, done, hcap, _, _, _, ho => ⟨st, rfl, hcap, rfl, rfl, by simp [← ho]⟩
  | v :: vs, st, done, hcap, hpre, hl, hr, ho => by
    rw [List.map_cons, reads_text_cons] at hr
    have hlok := hl v (by simp)
    have hnl := Parse.nextLine_line hinfo hpre hcap hlok hr.1
    let st1 : Parse := { st with
      line := st.line.fill 0 (slotLine v ++ ['\n'] ++ ['\x00'])
      pos := st.pos + (slotLine v).length + 1
      self := { st.self with mFieldIsObject := some ⟨marks st.varCount (done ++ [v.toNat]), true⟩ } }
    obtain ⟨st', hloop, h1, h2, h3, h4⟩ := slotLoop_lines hinfo vs st1 (done ++ [v.toNat])
      (by simp [st1, hcap]) (hpre.line hlok.1 hr.1) (fun v' h' => hl v' (by simp [h'])) hr.2 rfl
    refine ⟨st', ?_, h1, ?_, h3, ?_⟩
    · simp only [List.length_cons, slotLoop, hnl, Exec.ok_bind, Parse.str_line hcap hlok,
        slotLine_ok v]
      split_ifs with hv
      · simp only [ho, HeapArray.write_live _
          (by simpa [marks] using hv : v.toNat < (marks st.varCount done).length),
          marks_set _ _ _, Exec.ok_bind]
        simpa [Parse.update, st1] using hloop
      · have hst : st1 = { st with
            line := st.line.fill 0 (slotLine v ++ ['\n'] ++ ['\x00'])
            pos := st.pos + (slotLine v).length + 1 } := by
          simp only [st1, marks_of_le _ (Nat.le_of_not_lt hv), ← ho]
        rw [← hst]
        exact hloop
    · simp [h2, st1, text_cons]; omega
    · simp [h4, st1]

/-- With no variables the object-slot loop reads its lines and changes nothing. -/
theorem slotLoop_lines_of_zero (hinfo : env.rsInfo = some mem) :
    ∀ (vs : List UInt32) (st : Parse),
    st.varCount = 0 → st.line.cap = maxLine → NulFree mem st.pos → (∀ v ∈ vs, LineOk (slotLine v)) →
    Reads mem st.pos (text (vs.map slotLine)) →
    ∃ st', slotLoop env vs.length st = .ok (true, st') ∧ st'.line.cap = maxLine ∧
      st'.pos = st.pos + (text (vs.map slotLine)).length ∧ st'.varCount = st.varCount ∧
      st'.self = st.self
  | [], st, _, hcap, _, _, _ => ⟨st, rfl, hcap, rfl, rfl, rfl⟩
  | v :: vs, st, h0, hcap, hpre, hl, hr => by
    rw [List.map_cons, reads_text_cons] at hr
    have hlok := hl v (by simp)
    obtain ⟨st', hloop, h1, h2, h3, h4⟩ := slotLoop_lines_of_zero hinfo vs
      { st with
        line := st.line.fill 0 (slotLine v ++ ['\n'] ++ ['\x00'])
        pos := st.pos + (slotLine v).length + 1 }
      h0 (by simp [hcap]) (hpre.line hlok.1 hr.1) (fun v' h' => hl v' (by simp [h'])) hr.2
    refine ⟨st', ?_, h1, ?_, h3, h4⟩
    · have hv : ¬ v.toNat < st.varCount := by omega
      simp only [List.length_cons, slotLoop, Parse.nextLine_line hinfo hpre hcap hlok hr.1, Exec.ok_bind,
        Parse.str_line hcap hlok, slotLine_ok v, hv, if_false]
      exact hloop
    · simp [h2, text_cons]; omega

/-! ## The sections -/

theorem marks_nil (n : Nat) : marks n [] = List.replicate n false := by
  simp [marks, List.map_const']

/-- **The variable section** reads its count and names. -/
theorem varSection_chunks (hinfo : env.rsInfo = some mem) (hnew : ∀ t, env.newOk t = true)
    (st : Parse) (vs : List (List Char)) (hcap : st.line.cap = maxLine) (hpre : NulFree mem st.pos)
    (hc : LineOk (countLine exportVarStr vs.length)) (hl : ∀ v ∈ vs, ChunkOk v)
    (hr : Reads mem st.pos (countLine exportVarStr vs.length ++ ['\n'] ++ vs.flatMap chunkText)) :
    ∃ st', varSection env st = .ok (true, st') ∧ st'.line.cap = maxLine ∧
      st'.pos = st.pos + (countLine exportVarStr vs.length ++ ['\n'] ++ vs.flatMap chunkText).length ∧
      st'.varCount = vs.length ∧
      st'.self = { st.self with
        mExportedVariableCount := vs.length
        mFieldIsObject := if vs = [] then st.self.mFieldIsObject else some ⟨marks vs.length [], true⟩
        mFieldAddress := if vs = [] then st.self.mFieldAddress else some ⟨vs.map env.dlsym, true⟩ } := by
  obtain ⟨w, hk, hf⟩ : ∃ w, exportVarStr.toList = w ++ [' '] ∧
    fmtText exportVarStr = w.map .lit ++ [.space] := ⟨"exportVarCount:".toList, by decide, rfl⟩
  rw [reads_append] at hr
  have hpre1 := hpre.line hc.1 hr.1
  obtain ⟨line, hlcap, hc⟩ := Parse.count_line hinfo hpre hcap hk hf hc hr.1
  cases vs with
  | nil =>
    refine ⟨{ st with
      line := line
      pos := st.pos + (countLine exportVarStr 0).length + 1
      varCount := 0
      self := { st.self with mExportedVariableCount := 0 } }, ?_, hlcap, by simp; omega, rfl, by simp⟩
    simp only [varSection, hc, Exec.ok_bind, List.length_nil, Nat.lt_irrefl, if_false]
    rfl
  | cons v vs =>
    obtain ⟨st', hloop, h1, h2, h3, h4⟩ := varLoop_chunks hinfo (v :: vs)
      { st with
        line := line
        pos := st.pos + (countLine exportVarStr (v :: vs).length).length + 1
        varCount := (v :: vs).length
        self := { st.self with
          mExportedVariableCount := (v :: vs).length
          mFieldIsObject := some ⟨List.replicate (v :: vs).length false, true⟩
          mFieldAddress := some ⟨List.replicate (v :: vs).length none, true⟩ } }
      [] hlcap hpre1 hl (by simpa [Nat.add_assoc] using hr.2) (by simp)
    refine ⟨st', ?_, h1, ?_, h3, ?_⟩
    · simp only [varSection, hc, Exec.ok_bind, HeapArray.new, hnew, if_true, Parse.update, List.length_cons,
        Nat.zero_lt_succ, Option.isNone_some, Bool.false_eq_true, if_false]
      exact hloop
    · rw [h2]; simp; omega
    · simp [h4, marks_nil]

/-- **The function section** reads its count and names, each of them resolving. -/
theorem funcSection_lines (hinfo : env.rsInfo = some mem) (hnew : ∀ t, env.newOk t = true)
    (st : Parse) (fs : List (List Char)) (hcap : st.line.cap = maxLine) (hpre : NulFree mem st.pos)
    (hl : ∀ l ∈ countLine exportFuncStr fs.length :: fs, LineOk l)
    (hres : ∀ f ∈ fs, (env.dlsym f).isSome)
    (hr : Reads mem st.pos (text (countLine exportFuncStr fs.length :: fs))) :
    ∃ st', funcSection env st = .ok (true, st') ∧ st'.line.cap = maxLine ∧
      st'.pos = st.pos + (text (countLine exportFuncStr fs.length :: fs)).length ∧
      st'.varCount = st.varCount ∧
      st'.self = { st.self with
        mExportedFunctionCount := fs.length
        mInvokeFunctions := if fs = [] then st.self.mInvokeFunctions else some ⟨fs.map env.dlsym, true⟩ } := by
  obtain ⟨w, hk, hf⟩ : ∃ w, exportFuncStr.toList = w ++ [' '] ∧
    fmtText exportFuncStr = w.map .lit ++ [.space] := ⟨"exportFuncCount:".toList, by decide, rfl⟩
  rw [reads_text_cons] at hr
  have hpre1 := hpre.line (hl _ (by simp)).1 hr.1
  obtain ⟨line, hlcap, hc⟩ := Parse.count_line hinfo hpre hcap hk hf (hl _ (by simp)) hr.1
  cases fs with
  | nil =>
    refine ⟨{ st with
      line := line
      pos := st.pos + (countLine exportFuncStr 0).length + 1
      self := { st.self with mExportedFunctionCount := 0 } }, ?_, hlcap, by simp; omega, rfl, by simp⟩
    simp only [funcSection, hc, Exec.ok_bind, List.length_nil, Nat.lt_irrefl, if_false]
    rfl
  | cons f fs =>
    obtain ⟨st', hloop, h1, h2, h3, h4⟩ := funcLoop_lines hinfo (f :: fs)
      { st with
        line := line
        pos := st.pos + (countLine exportFuncStr (f :: fs).length).length + 1
        self := { st.self with
          mExportedFunctionCount := (f :: fs).length
          mInvokeFunctions := some ⟨List.replicate (f :: fs).length none, true⟩ } }
      [] hlcap hpre1 (fun l h => ⟨hl l (by simp [h]), hres l h⟩) hr.2 (by simp)
    refine ⟨st', ?_, h1, ?_, h3, ?_⟩
    · simp only [funcSection, hc, Exec.ok_bind, HeapArray.new, hnew, if_true, Parse.update, List.length_cons,
        Nat.zero_lt_succ, Option.isNone_some, Bool.false_eq_true, if_false]
      exact hloop
    · rw [h2, text_cons]; simp; omega
    · simp [h4]

/-- **The kernel section** reads its count and kernel lines; every kernel but the first
resolves its expanded entry point. -/
theorem forEachSection_lines (hinfo : env.rsInfo = some mem) (hnew : ∀ t, env.newOk t = true)
    (st : Parse) (ks : List (UInt32 × List Char)) (hcap : st.line.cap = maxLine)
    (hpre : NulFree mem st.pos) (hl : LineOk (countLine exportForEachStr ks.length))
    (hk : ∀ k ∈ ks, KernelOk k)
    (hres : ∀ k ∈ ks.tail, (env.dlsym (k.2 ++ ".expand".toList)).isSome)
    (hr : Reads mem st.pos (text (countLine exportForEachStr ks.length :: ks.map kernelLine))) :
    ∃ st', forEachSection env st = .ok (true, st') ∧ st'.line.cap = maxLine ∧
      st'.pos = st.pos + (text (countLine exportForEachStr ks.length :: ks.map kernelLine)).length ∧
      st'.varCount = st.varCount ∧
      st'.self = { st.self with
        mForEachSignatures := if ks = [] then st.self.mForEachSignatures
          else some ⟨ks.map (·.1.toNat), true⟩
        mForEachFunctions := if ks = [] then st.self.mForEachFunctions
          else some ⟨ks.map (fun k => env.dlsym (k.2 ++ ".expand".toList)), true⟩ } := by
  obtain ⟨w, hkey, hf⟩ : ∃ w, exportForEachStr.toList = w ++ [' '] ∧
    fmtText exportForEachStr = w.map .lit ++ [.space] := ⟨"exportForEachCount:".toList, by decide, rfl⟩
  rw [reads_text_cons] at hr
  have hpre1 := hpre.line hl.1 hr.1
  obtain ⟨line, hlcap, hc⟩ := Parse.count_line hinfo hpre hcap hkey hf hl hr.1
  cases ks with
  | nil =>
    refine ⟨{ st with
      line := line
      pos := st.pos + (countLine exportForEachStr 0).length + 1 }, ?_, hlcap, by simp; omega, rfl,
      by simp⟩
    simp only [forEachSection, hc, Exec.ok_bind, List.length_nil, Nat.lt_irrefl, if_false]
    rfl
  | cons k ks =>
    obtain ⟨st', hloop, h1, h2, h3, h4⟩ := forEachLoop_lines hinfo (k :: ks)
      { st with
        line := line
        pos := st.pos + (countLine exportForEachStr (k :: ks).length).length + 1
        self := { st.self with
          mForEachSignatures := some ⟨List.replicate (k :: ks).length 0, true⟩
          mForEachFunctions := some ⟨List.replicate (k :: ks).length none, true⟩ } }
      [] [] rfl hlcap hpre1 hk (fun j hj h0 => by
        obtain ⟨j, rfl⟩ : ∃ j', j = j' + 1 := ⟨j - 1, by simp at h0; omega⟩
        exact hres _ (List.getElem_mem _))
      hr.2 (by simp) (by simp)
    refine ⟨st', ?_, h1, ?_, h3, ?_⟩
    · simp only [forEachSection, hc, Exec.ok_bind, HeapArray.new, hnew, if_true, Parse.update, List.length_cons,
        Nat.zero_lt_succ, Option.isNone_some, Bool.false_eq_true, if_false]
      exact hloop
    · rw [h2, text_cons]; simp; omega
    · simp [h4]

/-- **The object-slot section** reads its count and slot lines; with no variables its
`rsAssert(varCount > 0)` fails. -/
theorem slotSection_lines (aborts : Bool) (hinfo : env.rsInfo = some mem) (st : Parse)
    (vs : List UInt32) (hcap : st.line.cap = maxLine) (hpre : NulFree mem st.pos)
    (hl : LineOk (countLine objectSlotStr vs.length))
    (hls : ∀ v ∈ vs, LineOk (slotLine v))
    (ho : st.varCount = 0 ∨ st.self.mFieldIsObject = some ⟨marks st.varCount [], true⟩)
    (hr : Reads mem st.pos (text (countLine objectSlotStr vs.length :: vs.map slotLine))) :
    ∃ st', (slotSection aborts env st =
        if aborts = true ∧ st.varCount = 0 ∧ vs ≠ [] then .abort else .ok (true, st')) ∧
      st'.line.cap = maxLine ∧
      st'.pos = st.pos + (text (countLine objectSlotStr vs.length :: vs.map slotLine)).length ∧
      st'.varCount = st.varCount ∧
      st'.self = if st.varCount = 0 then st.self
        else { st.self with mFieldIsObject := some ⟨marks st.varCount (vs.map UInt32.toNat), true⟩ } := by
  obtain ⟨w, hkey, hf⟩ : ∃ w, objectSlotStr.toList = w ++ [' '] ∧
    fmtText objectSlotStr = w.map .lit ++ [.space] := ⟨"objectSlotCount:".toList, by decide, rfl⟩
  rw [reads_text_cons] at hr
  have hpre1 := hpre.line hl.1 hr.1
  obtain ⟨line, hlcap, hc⟩ := Parse.count_line hinfo hpre hcap hkey hf hl hr.1
  let st1 : Parse := { st with
    line := line
    pos := st.pos + (countLine objectSlotStr vs.length).length + 1 }
  have hpos : st1.pos + (text (vs.map slotLine)).length =
      st.pos + (text (countLine objectSlotStr vs.length :: vs.map slotLine)).length := by
    simp [st1]; omega
  cases vs with
  | nil =>
    refine ⟨st1, ?_, hlcap, by simpa using hpos.symm, rfl, ?_⟩
    · simp only [slotSection, hc, Exec.ok_bind, List.length_nil, Nat.lt_irrefl, if_false, ne_eq,
        not_true_eq_false, and_false]
      rfl
    · split_ifs with h
      · rfl
      · simp only [List.map_nil, ← ho.resolve_left h]
  | cons v vs =>
    have hn : 0 < (v :: vs).length := Nat.succ_pos _
    by_cases hv : st.varCount = 0
    · obtain ⟨st', hloop, h1, h2, h3, h4⟩ :=
        slotLoop_lines_of_zero hinfo (v :: vs) st1 hv hlcap hpre1 hls hr.2
      refine ⟨st', ?_, h1, by rw [h2, hpos], h3, by simp [hv, h4, st1]⟩
      cases aborts
      · simp only [slotSection, hc, Exec.ok_bind, hn, if_true, rsAssert_of_logs, Bool.false_eq_true,
          false_and, if_false]
        exact hloop
      · simp only [slotSection, hc, Exec.ok_bind, hn, if_true, hv, Nat.lt_irrefl, decide_False,
          rsAssert, Bool.not_true, Bool.or_self, Bool.false_eq_true, if_false, Exec.abort_bind, ne_eq,
          reduceCtorEq, not_false_eq_true, and_self]
    · have ho' := ho.resolve_left hv
      obtain ⟨st', hloop, h1, h2, h3, h4⟩ :=
        slotLoop_lines hinfo (v :: vs) st1 [] hlcap hpre1 hls hr.2 ho'
      refine ⟨st', ?_, h1, by rw [h2, hpos], h3, by simp [hv, h4, st1]⟩
      simp only [slotSection, hc, Exec.ok_bind, hn, if_true, Nat.pos_of_ne_zero hv, decide_True,
        rsAssert_true, hv, false_and, and_false, if_false]
      exact hloop

/-! ## Reading a record back -/

/-- The lines after the variable names: the function, kernel and object-slot sections. -/
def RsInfo.restLines (r : RsInfo) : List (List Char) :=
  (countLine exportFuncStr r.funcs.length :: r.funcs) ++
  (countLine exportForEachStr r.kernels.length :: r.kernels.map kernelLine) ++
  (countLine objectSlotStr r.slots.length :: r.slots.map slotLine)

/-- **A descriptor as `strgets` takes it apart**: the variable names are the chunks the
parser reads them as, and the sections after them are lines. -/
def RsInfo.chunked (r : RsInfo) : List Char :=
  countLine exportVarStr r.vars.length ++ ['\n'] ++ r.vars.flatMap chunkText ++ text r.restLines

/-- **The conditions under which `init` reads a chunked descriptor**: count lines,
function names and object slots that are lines, variable names that are chunks, kernels
the parser reads back whole. -/
structure RsInfo.Readable (r : RsInfo) : Prop where
  counts : ∀ l ∈ [countLine exportVarStr r.vars.length, countLine exportFuncStr r.funcs.length,
    countLine exportForEachStr r.kernels.length, countLine objectSlotStr r.slots.length], LineOk l
  vars : ∀ v ∈ r.vars, ChunkOk v
  funcs : ∀ l ∈ r.funcs, LineOk l
  kernels : ∀ k ∈ r.kernels, KernelOk k
  slots : ∀ v ∈ r.slots, LineOk (slotLine v)

theorem RsInfo.Readable.restLines_ok {r : RsInfo} (hrd : r.Readable) :
    ∀ l ∈ r.restLines, LineOk l := by
  simp only [RsInfo.restLines, List.mem_append, List.mem_cons, List.mem_map]
  rintro l (((rfl | hl) | (rfl | ⟨k, hk, rfl⟩)) | (rfl | ⟨v, hv, rfl⟩))
  · exact hrd.counts _ (by simp)
  · exact hrd.funcs l hl
  · exact hrd.counts _ (by simp)
  · exact (hrd.kernels k hk).1
  · exact hrd.counts _ (by simp)
  · exact hrd.slots v hv

/-- A readable descriptor holds no NUL, so the parse never leaves it. -/
theorem RsInfo.Readable.nul_not_mem_chunked {r : RsInfo} (hrd : r.Readable) :
    '\x00' ∉ r.chunked := by
  have hv : '\x00' ∉ r.vars.flatMap chunkText := by
    simp only [List.mem_flatMap, not_exists, not_and]
    intro v hv
    unfold chunkText
    split_ifs <;> simp [(hrd.vars v hv).1]
  simp only [RsInfo.chunked, List.mem_append, List.mem_singleton, not_or]
  exact ⟨⟨⟨(hrd.counts _ (List.mem_cons_self _ _)).1, by decide⟩, hv⟩,
    nul_not_mem_text fun l hl => (hrd.restLines_ok l hl).1⟩

/-- **The conditions under which a record reads back**: names without NUL or newline,
lines shorter than `MAXLINE - 1`, kernel names non-empty words with room for
`".expand"`. -/
structure RsInfo.WellFormed (r : RsInfo) : Prop where
  names : ∀ w ∈ r.vars ++ r.funcs ++ r.kernels.map Prod.snd, '\x00' ∉ w ∧ '\n' ∉ w
  short : ∀ l ∈ r.lines, l.length < maxLine - 1
  words : ∀ k ∈ r.kernels, k.2 ≠ [] ∧ ∀ c ∈ k.2, isSpace c = false
  room : ∀ k ∈ r.kernels, k.2.length + ".expand".length < maxLine

/-- **What `init` builds from the descriptor of `r`**, loaded through the handle `h`. -/
def RsInfo.loaded (r : RsInfo) (env : LoadEnv) (h : Nat) (self : RsdCpuScriptImpl) :
    RsdCpuScriptImpl :=
  { self with
    mScriptSO := some ⟨h, true⟩
    mRoot := env.dlsym "root".toList
    mRootExpand := env.dlsym "root.expand".toList
    mInit := env.dlsym "init".toList
    mFreeChildren := env.dlsym ".rs.dtor".toList
    mExportedVariableCount := r.vars.length
    mExportedFunctionCount := r.funcs.length
    mFieldIsObject := if r.vars = [] then self.mFieldIsObject
      else some ⟨marks r.vars.length (r.slots.map UInt32.toNat), true⟩
    mFieldAddress := if r.vars = [] then self.mFieldAddress else some ⟨r.vars.map env.dlsym, true⟩
    mInvokeFunctions := if r.funcs = [] then self.mInvokeFunctions
      else some ⟨r.funcs.map env.dlsym, true⟩
    mForEachSignatures := if r.kernels = [] then self.mForEachSignatures
      else some ⟨r.kernels.map (·.1.toNat), true⟩
    mForEachFunctions := if r.kernels = [] then self.mForEachFunctions
      else some ⟨r.kernels.map (fun k => env.dlsym (k.2 ++ ".expand".toList)), true⟩
    mBoundAllocs := if r.vars = [] then self.mBoundAllocs
      else some ⟨List.replicate r.vars.length none, true⟩ }

theorem countLine_ok {key : String} {n : Nat} (hkey : '\x00' ∉ key.toList ∧ '\n' ∉ key.toList)
    (hs : (countLine key n).length < maxLine - 1) : LineOk (countLine key n) := by
  have := decimal_ctrl_free n
  simp only [LineOk, countLine, List.mem_append, not_or] at hs ⊢
  exact ⟨⟨hkey.1, this.1⟩, ⟨hkey.2, this.2⟩, hs⟩

/-- A well-formed record's variable names are lines, and its descriptor is readable. -/
theorem RsInfo.WellFormed.readable {r : RsInfo} (hwf : r.WellFormed) :
    (∀ l ∈ r.vars, LineOk l) ∧ r.Readable := by
  have hname : ∀ w ∈ r.vars ++ r.funcs, '\x00' ∉ w ∧ '\n' ∉ w :=
    fun w h => hwf.names w (List.mem_append_left _ h)
  have hline : ∀ l ∈ r.vars ++ r.funcs, LineOk l := fun l h =>
    ⟨(hname l h).1, (hname l h).2, hwf.short l (by
      simp only [List.mem_append] at h; rcases h with h | h <;> simp [RsInfo.lines, h])⟩
  refine ⟨fun l h => hline l (by simp [h]), ⟨fun l hl => ?_, fun l h => (hline l (by simp [h])).chunkOk,
    fun l h => hline l (by simp [h]), fun k h => ?_, fun v h => ?_⟩⟩
  · simp only [List.mem_cons, List.mem_singleton, List.not_mem_nil, or_false] at hl
    rcases hl with rfl | rfl | rfl | rfl <;>
      exact countLine_ok (by decide) (hwf.short _ (by simp [RsInfo.lines]))
  · obtain ⟨hne, hsp⟩ := hwf.words k h
    have hd := decimal_ctrl_free k.1.toNat
    have hn := hwf.names k.2 (List.mem_append_right _ (List.mem_map_of_mem Prod.snd h))
    have hlen := hwf.short (kernelLine k) (by
      simp only [RsInfo.lines, List.mem_append, List.mem_cons]
      exact .inl (.inr (.inr (List.mem_map_of_mem kernelLine h))))
    refine ⟨⟨?_, ?_, hlen⟩, hne, hsp, hwf.room k h⟩
    · simp only [kernelLine, List.mem_append, not_or]
      exact ⟨⟨hd.1, by decide⟩, hn.1⟩
    · simp only [kernelLine, List.mem_append, not_or]
      exact ⟨⟨hd.2, by decide⟩, hn.2⟩
  · have hd := decimal_ctrl_free v.toNat
    refine ⟨hd.1, hd.2, hwf.short _ ?_⟩
    simp only [RsInfo.lines, List.mem_append, List.mem_cons]
    exact .inr (.inr (List.mem_map_of_mem slotLine h))

theorem flatMap_chunkText {vs : List (List Char)} (h : ∀ v ∈ vs, LineOk v) :
    vs.flatMap chunkText = text vs := by
  induction vs with
  | nil => rfl
  | cons v vs ih =>
    rw [List.flatMap_cons, chunkText_of_lineOk (h v (by simp)), ih (fun w hw => h w (by simp [hw]))]
    rfl

/-- With names that are lines, the chunks are the lines. -/
theorem RsInfo.serialize_eq_chunked {r : RsInfo} (h : ∀ v ∈ r.vars, LineOk v) :
    r.serialize = r.chunked := by
  simp only [RsInfo.serialize, RsInfo.chunked, RsInfo.lines, RsInfo.restLines, text_append,
    text_cons, flatMap_chunkText h, List.append_assoc]

/-- **`init` reads a chunked descriptor.** With the library loaded, every array
allocated, every function and every kernel after the first resolving, `init` returns true
with the record's counts, addresses, signatures and object slots, each variable name
being what one `strgets` call reads; only a build whose `rsAssert` aborts stops, on a
record with object slots and no variables. -/
theorem init_chunks (aborts : Bool) (env : LoadEnv) (ctx : Ctx) (self : RsdCpuScriptImpl)
    (r : RsInfo) (h : Nat) (mem : Mem) (hso : env.so = some h) (hinfo : env.rsInfo = some mem)
    (hr : Reads mem 0 r.chunked) (hrd : r.Readable) (hnew : ∀ t, env.newOk t = true)
    (hfuncs : ∀ f ∈ r.funcs, (env.dlsym f).isSome)
    (hkernels : ∀ k ∈ r.kernels.tail, (env.dlsym (k.2 ++ ".expand".toList)).isSome) :
    init aborts env ctx self = if aborts = true ∧ r.vars = [] ∧ r.slots ≠ [] then .abort
      else .ok (true, ctx.lockMutex.unlockMutex, r.loaded env h self) := by
  have hpre : ∀ p ≤ r.chunked.length, NulFree mem p := fun p hp =>
    NulFree.of_reads hr hrd.nul_not_mem_chunked hp
  rw [RsInfo.chunked, reads_append] at hr
  obtain ⟨hr1, hr⟩ := hr
  rw [RsInfo.restLines, text_append, text_append, reads_append, reads_append] at hr
  rw [RsInfo.chunked, RsInfo.restLines, text_append, text_append] at hpre
  simp only [List.length_append] at hpre
  obtain ⟨⟨hr2, hr3⟩, hr4⟩ := hr
  obtain ⟨s1, e1, c1, p1, v1, o1⟩ := varSection_chunks hinfo hnew (initParse env self h) r.vars rfl
    (NulFree.zero mem) (hrd.counts _ (by simp)) hrd.vars hr1
  obtain ⟨s2, e2, c2, p2, v2, o2⟩ := funcSection_lines hinfo hnew s1 r.funcs c1
    (by rw [p1]; exact hpre _ (by simp only [List.length_append, initParse]; omega))
    (fun l hl => by
      rcases List.mem_cons.mp hl with rfl | hl
      · exact hrd.counts _ (by simp)
      · exact hrd.funcs l hl) hfuncs (by rw [p1]; exact hr2)
  obtain ⟨s3, e3, c3, p3, v3, o3⟩ := forEachSection_lines hinfo hnew s2 r.kernels c2
    (by rw [p2, p1]; exact hpre _ (by simp only [List.length_append, initParse]; omega))
    (hrd.counts _ (by simp)) hrd.kernels hkernels (by rw [p2, p1]; exact hr3)
  have ho : s3.varCount = 0 ∨ s3.self.mFieldIsObject = some ⟨marks s3.varCount [], true⟩ := by
    rw [v3, v2, v1, o3, o2, o1]
    by_cases hv : r.vars = [] <;> simp [hv]
  obtain ⟨s4, e4, -, -, v4, o4⟩ := slotSection_lines aborts hinfo s3 r.slots c3
    (by rw [p3, p2, p1]; exact hpre _ (by simp only [List.length_append, initParse]; omega))
    (hrd.counts _ (by simp)) hrd.slots ho
    (by rw [p3, p2, p1]; exact hr4.of_eq (by simp only [List.length_append, initParse]; omega))
  have hvc : s3.varCount = r.vars.length := by rw [v3, v2, v1]
  simp only [init, hso, parseInfo, e1, e2, e3, Exec.ok_bind, Bool.not_true, if_false]
  by_cases hab : aborts = true ∧ r.vars = [] ∧ r.slots ≠ []
  · rw [if_pos (by rw [hvc, List.length_eq_zero]; exact hab)] at e4
    rw [e4, if_pos hab]
    rfl
  · rw [if_neg (by rw [hvc, List.length_eq_zero]; exact hab)] at e4
    rw [e4, if_neg hab]
    simp only [Exec.ok_bind, Bool.not_true, Bool.false_eq_true, if_false, if_true, v4, hvc,
      HeapArray.new, hnew, Exec.pure_eq]
    by_cases hv : r.vars = []
    · simp [hv, o4, o3, o2, o1, hvc, RsInfo.loaded, initParse]
    · have hpos : 0 < r.vars.length := List.length_pos.mpr hv
      simp [hv, hpos, o4, o3, o2, o1, hvc, RsInfo.loaded, initParse, Parse.update]

/-! ## Long name lines -/

/-- How the variable loop's `strgets` calls take a name line `l` apart, with `fuel` bounding
the pieces: `MAXLINE - 1` characters, one full buffer after the other, then the rest,
shorter, read with the newline. -/
def piecesAux : Nat → List Char → List (List Char)
  | 0, l => [l]
  | fuel + 1, l =>
    if l.length < maxLine - 1 then [l] else l.take (maxLine - 1) :: piecesAux fuel (l.drop (maxLine - 1))

/-- **The names `init` reads from one variable line** `l`: a line shorter than
`MAXLINE - 1` is one name, a longer one is cut into pieces, each taken as a variable. -/
def pieces (l : List Char) : List (List Char) := piecesAux l.length l

/-- **The record `init` builds** from the descriptor of `r` when `strgets` cuts its variable
lines into pieces. -/
def RsInfo.split (r : RsInfo) : RsInfo := { r with vars := r.vars.flatMap pieces }

theorem piecesAux_chunks : ∀ (fuel : Nat) (l : List Char), l.length ≤ fuel →
    (piecesAux fuel l).flatMap chunkText = l ++ ['\n']
  | 0, l, h => by
    obtain rfl : l = [] := List.eq_nil_of_length_eq_zero (by omega)
    rfl
  | fuel + 1, l, h => by
    unfold piecesAux
    split_ifs with hl
    · simp [chunkText, hl]
    · have hfull : ¬ (l.take (maxLine - 1)).length < maxLine - 1 := by simp [maxLine] at hl ⊢; omega
      rw [List.flatMap_cons, piecesAux_chunks fuel _ (by simp [maxLine] at hl ⊢; omega), chunkText,
        if_neg hfull,
        ← List.append_assoc, List.take_append_drop]

theorem piecesAux_chunkOk : ∀ (fuel : Nat) (l : List Char), l.length ≤ fuel →
    '\x00' ∉ l ∧ '\n' ∉ l → ∀ n ∈ piecesAux fuel l, ChunkOk n
  | 0, l, h, _, n, hn => by
    obtain rfl : l = [] := List.eq_nil_of_length_eq_zero (by omega)
    obtain rfl : n = [] := List.mem_singleton.mp hn
    decide
  | fuel + 1, l, h, hl, n, hn => by
    unfold piecesAux at hn
    split_ifs at hn with hs
    · obtain rfl := List.mem_singleton.mp hn
      exact ⟨hl.1, hl.2, hs.le⟩
    · rcases List.mem_cons.mp hn with rfl | hn
      · exact ⟨fun e => hl.1 (List.mem_of_mem_take e), fun e => hl.2 (List.mem_of_mem_take e),
          List.length_take_le _ _⟩
      · exact piecesAux_chunkOk fuel _ (by simp [maxLine] at hs ⊢; omega)
          ⟨fun e => hl.1 (List.mem_of_mem_drop e), fun e => hl.2 (List.mem_of_mem_drop e)⟩ n hn

/-- **`strgets` reads a long line as its pieces**: joined with the chunks the loop reads them
as, the pieces of a line are the line and its newline. -/
theorem pieces_chunks (l : List Char) : (pieces l).flatMap chunkText = l ++ ['\n'] :=
  piecesAux_chunks l.length l (Nat.le_refl _)

theorem pieces_ne_nil (l : List Char) : pieces l ≠ [] := by
  unfold pieces
  cases l.length with
  | zero => simp [piecesAux]
  | succ n => unfold piecesAux; split_ifs <;> simp

/-- A line of at least `MAXLINE - 1` and fewer than twice as many characters is read as two
names. -/
theorem pieces_of_lt_two {l : List Char} (h1 : maxLine - 1 ≤ l.length)
    (h2 : l.length < 2 * (maxLine - 1)) : pieces l = [l.take (maxLine - 1), l.drop (maxLine - 1)] := by
  obtain ⟨n, hn⟩ : ∃ n, l.length = n + 1 := ⟨l.length - 1, by simp [maxLine] at h1; omega⟩
  have hd : (l.drop (maxLine - 1)).length < maxLine - 1 := by simp; omega
  rw [pieces, hn, piecesAux, if_neg (by omega)]
  cases n <;> simp only [piecesAux, hd, if_true]

/-- The pieces of the name lines, read as chunks, are the name lines. -/
theorem RsInfo.split_chunks (vs : List (List Char)) : (vs.flatMap pieces).flatMap chunkText = text vs := by
  rw [List.flatMap_assoc, text]
  exact congrArg vs.flatMap (funext pieces_chunks)

/-- **`init` reads every variable line as its pieces.** The parser checks no line length:
`strgets` stops after `MAXLINE - 1` characters and the next call goes on inside the same
line. Take a record whose variable names have no NUL and no newline, of any length, and
whose other lines are readable, and its descriptor with the count of the pieces. With the
library loaded, every array allocated, every function and every kernel after the first
resolving, `init` returns true with one variable per piece, at the address `dlsym` gives
the piece; only a build whose `rsAssert` aborts stops, on a record with object slots and
no variables. -/
theorem init_reads_name_pieces (aborts : Bool) (env : LoadEnv) (ctx : Ctx)
    (self : RsdCpuScriptImpl) (r : RsInfo) (h : Nat) (mem : Mem) (hso : env.so = some h)
    (hinfo : env.rsInfo = some mem)
    (hr : Reads mem 0
      (countLine exportVarStr r.split.vars.length ++ ['\n'] ++ text r.vars ++ text r.restLines))
    (hnames : ∀ v ∈ r.vars, '\x00' ∉ v ∧ '\n' ∉ v)
    (hcounts : ∀ l ∈ [countLine exportVarStr r.split.vars.length, countLine exportFuncStr r.funcs.length,
      countLine exportForEachStr r.kernels.length, countLine objectSlotStr r.slots.length], LineOk l)
    (hfl : ∀ l ∈ r.funcs, LineOk l) (hks : ∀ k ∈ r.kernels, KernelOk k)
    (hsl : ∀ v ∈ r.slots, LineOk (slotLine v)) (hnew : ∀ t, env.newOk t = true)
    (hfuncs : ∀ f ∈ r.funcs, (env.dlsym f).isSome)
    (hkernels : ∀ k ∈ r.kernels.tail, (env.dlsym (k.2 ++ ".expand".toList)).isSome) :
    init aborts env ctx self = if aborts = true ∧ r.vars = [] ∧ r.slots ≠ [] then .abort
      else .ok (true, ctx.lockMutex.unlockMutex, r.split.loaded env h self) := by
  have hrd : r.split.Readable := ⟨hcounts, fun n hn => by
    obtain ⟨v, hv, hn⟩ := List.mem_flatMap.mp hn
    exact piecesAux_chunkOk _ v (Nat.le_refl _) (hnames v hv) n hn, hfl, hks, hsl⟩
  have hsplit : r.split.vars = [] ↔ r.vars = [] := by
    simp only [RsInfo.split, List.flatMap_eq_nil_iff]
    exact ⟨fun h => List.eq_nil_iff_forall_not_mem.mpr fun v hv => pieces_ne_nil v (h v hv),
      fun h => by simp [h]⟩
  have hc : r.split.chunked =
      countLine exportVarStr r.split.vars.length ++ ['\n'] ++ text r.vars ++ text r.restLines := by
    show _ ++ _ ++ (r.vars.flatMap pieces).flatMap chunkText ++ _ = _
    rw [RsInfo.split_chunks]
    rfl
  rw [init_chunks aborts env ctx self r.split h mem hso hinfo (by rw [hc]; exact hr) hrd hnew
    hfuncs hkernels]
  simp only [hsplit]
  rfl

/-- A variable line of 600 characters, counted as the two variables it is read as: `init`
takes its first 499 characters as one name and the other 101 as a second. -/
theorem init_reads_name_pieces_long_line :
    let r : RsInfo := ⟨[List.replicate 600 'a'], [], [], []⟩
    let env : LoadEnv := ⟨some 1, fun n => some n.length, some (memOf
      (countLine exportVarStr r.split.vars.length ++ ['\n'] ++ text r.vars ++ text r.restLines)),
      fun _ => true, fun _ => 'x'⟩
    r.split.vars = [List.replicate 499 'a', List.replicate 101 'a'] ∧
      init false env ⟨[], [], [], none⟩ (RsdCpuScriptImpl.construct 0 0) =
        if false = true ∧ r.vars = [] ∧ r.slots ≠ [] then .abort
        else .ok (true, (Ctx.mk [] [] [] none).lockMutex.unlockMutex,
          r.split.loaded env 1 (RsdCpuScriptImpl.construct 0 0)) :=
  have hs : (⟨[List.replicate 600 'a'], [], [], []⟩ : RsInfo).split.vars =
      [List.replicate 499 'a', List.replicate 101 'a'] := by
    simp only [RsInfo.split, List.flatMap_cons, List.flatMap_nil, List.append_nil]
    rw [pieces_of_lt_two (by rw [List.length_replicate]; decide) (by rw [List.length_replicate]; decide)]
    simp [List.take_replicate, List.drop_replicate, maxLine, -List.reduceReplicate]
  ⟨hs, init_reads_name_pieces false _ _ _ _ 1 _ rfl rfl (reads_memOf _)
    (by simp [List.mem_replicate, -List.reduceReplicate]) (by rw [hs]; decide) (by simp) (by simp)
    (by simp) (fun _ => rfl) (by simp) (by simp)⟩

/-- A variable line of `MAXLINE - 1` characters is not rejected: `strgets` cuts it at the
buffer's end, and `init` returns true with two variables, the cut line and the empty name
of its newline. -/
theorem init_splits_long_name :
    let env : LoadEnv := ⟨some 1, fun n => some n.length,
      some (memOf ("exportVarCount: 2\n".toList ++ List.replicate 499 'a' ++ ['\n'] ++
        "exportFuncCount: 0\nexportForEachCount: 0\nobjectSlotCount: 0\n".toList)),
      fun _ => true, fun _ => 'x'⟩
    (fun r => (r.1, r.2.2.mExportedVariableCount, r.2.2.mFieldAddress)) <$>
        init false env ⟨[], [], [], none⟩ (RsdCpuScriptImpl.construct 0 0) =
      .ok (true, 2, some ⟨[some 499, some 0], true⟩) := by
  intro env
  let d := "exportVarCount: 2\n".toList ++ List.replicate 499 'a' ++ ['\n'] ++
    "exportFuncCount: 0\nexportForEachCount: 0\nobjectSlotCount: 0\n".toList
  let r : RsInfo := ⟨[List.replicate 499 'a', []], [], [], []⟩
  have hd : d = r.chunked := by
    have hv : r.vars.flatMap chunkText = List.replicate 499 'a' ++ ['\n'] := by
      simp [r, chunkText, maxLine, -List.reduceReplicate]
    rw [RsInfo.chunked, hv]
    simp only [d, List.append_assoc]
    rfl
  have hrd : r.Readable := ⟨by decide, fun v hv => by
      simp only [r, List.mem_cons, List.mem_singleton, List.not_mem_nil, or_false] at hv
      rcases hv with rfl | rfl <;> simp [ChunkOk, maxLine, List.mem_replicate, -List.reduceReplicate],
    by simp [r], by simp [r], by simp [r]⟩
  rw [init_chunks false env _ _ r 1 (memOf d) rfl rfl (hd ▸ reads_memOf d) hrd (fun _ => rfl)
    (by simp [r]) (by simp [r])]
  simp [r, env, RsInfo.loaded, -List.reduceReplicate]

/-- **`init` reads a record back from its descriptor.** With the library loaded, every
array allocated, every function and every kernel after the first resolving, `init` on
the descriptor of a well-formed record returns true with the record's counts, addresses,
signatures and object slots; only a build whose `rsAssert` aborts stops, on a record
with object slots and no variables. -/
theorem init_serialize (aborts : Bool) (env : LoadEnv) (ctx : Ctx) (self : RsdCpuScriptImpl)
    (r : RsInfo) (h : Nat) (mem : Mem) (hso : env.so = some h) (hinfo : env.rsInfo = some mem)
    (hr : Reads mem 0 r.serialize) (hwf : r.WellFormed) (hnew : ∀ t, env.newOk t = true)
    (hfuncs : ∀ f ∈ r.funcs, (env.dlsym f).isSome)
    (hkernels : ∀ k ∈ r.kernels.tail, (env.dlsym (k.2 ++ ".expand".toList)).isSome) :
    init aborts env ctx self = if aborts = true ∧ r.vars = [] ∧ r.slots ≠ [] then .abort
      else .ok (true, ctx.lockMutex.unlockMutex, r.loaded env h self) :=
  have hrd := hwf.readable
  init_chunks aborts env ctx self r h mem hso hinfo (RsInfo.serialize_eq_chunked hrd.1 ▸ hr) hrd.2
    hnew hfuncs hkernels

/-- A record with one export of each kind reads back. -/
theorem init_serialize_one_of_each :
    let r : RsInfo := ⟨["v".toList], ["f".toList], [(3, "k".toList)], [0]⟩
    let env : LoadEnv := ⟨some 1, fun _ => some 1, some (memOf r.serialize), fun _ => true, fun _ => 'x'⟩
    init false env ⟨[], [], [], none⟩ (RsdCpuScriptImpl.construct 0 0) =
      if false = true ∧ r.vars = [] ∧ r.slots ≠ [] then .abort
      else .ok (true, (Ctx.mk [] [] [] none).lockMutex.unlockMutex,
        r.loaded env 1 (RsdCpuScriptImpl.construct 0 0)) :=
  init_serialize false _ _ _ _ 1 _ rfl rfl (reads_memOf _)
    ⟨by decide, by decide, by decide, by decide⟩ (fun _ => rfl) (by decide) (by decide)

/-- A kernel with an empty name meets every other condition of the round trip, and `init`
fails on its descriptor: `"%500s"` finds no character to read. -/
theorem init_rejects_empty_kernel_name :
    let r : RsInfo := ⟨[], [], [(0, [])], []⟩
    let env : LoadEnv := ⟨some 1, fun _ => some 1, some (memOf r.serialize), fun _ => true, fun _ => 'x'⟩
    ((∀ w ∈ r.vars ++ r.funcs ++ r.kernels.map Prod.snd, '\x00' ∉ w ∧ '\n' ∉ w) ∧
      (∀ l ∈ r.lines, l.length < maxLine - 1) ∧ (∀ k ∈ r.kernels, ∀ c ∈ k.2, isSpace c = false) ∧
      (∀ k ∈ r.kernels, k.2.length + ".expand".length < maxLine)) ∧
    (do let (b, _, _) ← init false env ⟨[], [], [], none⟩ (RsdCpuScriptImpl.construct 0 0); pure b)
      = Exec.ok false := by
  decide

end Compat

end RsCpuScript
