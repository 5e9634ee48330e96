import RsCpuScript.Init

/-!
# Reading one line of a descriptor

The parser reads `.rs.info` one `strgets` chunk at a time. This module says what the
parse state becomes when the chunk at the cursor is a line that fits the buffer: a count
line (`Parse.count_line`), a symbol name (`Parse.name_line`), or any line
(`Parse.nextLine_line`), and what `expandName` makes of a kernel's token. The loops and
sections of later modules are built from these steps.
-/

namespace RsCpuScript

namespace Compat

/-- **A line `strgets` reads whole**: no NUL, no newline, and shorter than `MAXLINE - 1`
characters, so that its newline fits in the buffer. -/
def LineOk (l : List Char) : Prop := '\x00' ∉ l ∧ '\n' ∉ l ∧ l.length < maxLine - 1

instance (l : List Char) : Decidable (LineOk l) := inferInstanceAs (Decidable (_ ∧ _ ∧ _))

/-- **A name `strgets` reads in one call**: no NUL, no newline, at most `MAXLINE - 1`
characters. One shorter than that is a whole line; one of exactly `MAXLINE - 1`
characters fills the buffer, and the next call goes on inside the same line. -/
def ChunkOk (n : List Char) : Prop := '\x00' ∉ n ∧ '\n' ∉ n ∧ n.length ≤ maxLine - 1

instance (n : List Char) : Decidable (ChunkOk n) := inferInstanceAs (Decidable (_ ∧ _ ∧ _))

/-- The bytes of the descriptor one call of `strgets` consumes to read the name `n`: a
whole line with its newline, or a full buffer. -/
def chunkText (n : List Char) : List Char := if n.length < maxLine - 1 then n ++ ['\n'] else n

theorem LineOk.chunkOk {l : List Char} (h : LineOk l) : ChunkOk l := ⟨h.1, h.2.1, h.2.2.le⟩

theorem chunkText_of_lineOk {l : List Char} (h : LineOk l) : chunkText l = l ++ ['\n'] :=
  if_pos h.2.2

/-- Lines, each ended by a newline, one after the other. -/
def text (ls : List (List Char)) : List Char := ls.flatMap (· ++ ['\n'])

@[simp] theorem text_nil : text [] = [] := rfl

@[simp] theorem text_cons (l : List Char) (ls : List (List Char)) :
    text (l :: ls) = l ++ ['\n'] ++ text ls := rfl

theorem text_append (a b : List (List Char)) : text (a ++ b) = text a ++ text b := by
  simp [text, List.flatMap_append]

theorem nul_not_mem_text {ls : List (List Char)} (h : ∀ l ∈ ls, '\x00' ∉ l) : '\x00' ∉ text ls := by
  simpa [text] using fun l hl => h l hl

/-- A count line, `key` then the count. -/
def countLine (key : String) (n : Nat) : List Char := key.toList ++ decimal n

variable {env : LoadEnv} {mem : Mem}

namespace Parse

theorem mem_ne_nul {l : List Char} {p : Nat} (hl : '\x00' ∉ l)
    (hr : Reads mem p (l ++ ['\n'])) : mem p ≠ '\x00' := by
  cases l with
  | nil => simp only [List.nil_append, reads_cons] at hr; rw [hr.1]; decide
  | cons c l =>
    simp only [List.cons_append, reads_cons] at hr
    rw [hr.1]; exact fun e => hl (e ▸ List.mem_cons_self c l)

/-- **Reading a line that fits.** `strgets` leaves the line and its newline in `line`,
and moves the cursor past them. -/
theorem nextLine_line {st : Parse} {l : List Char} (hinfo : env.rsInfo = some mem)
    (hpre : NulFree mem st.pos) (hcap : st.line.cap = maxLine) (hl : LineOk l)
    (hr : Reads mem st.pos (l ++ ['\n'])) :
    st.nextLine env = .ok (some { st with
      line := st.line.fill 0 (l ++ ['\n'] ++ ['\x00']), pos := st.pos + l.length + 1 }) := by
  have hget := gets_line mem (maxLine - 1) st.pos l ⟨hl.1, hl.2.1⟩ hl.2.2 hr
  simp only [nextLine, hinfo, checkCursor_some hpre, Exec.ok_bind, Exec.pure_eq,
    strgets_eq st.line maxLine mem st.pos (by decide) hcap.ge (mem_ne_nul hl.1 hr), hget]

theorem str_line {b : CharBuf} {l : List Char} (hcap : b.cap = maxLine) (hl : LineOk l) :
    (b.fill 0 (l ++ ['\n'] ++ ['\x00'])).str = .ok (l ++ ['\n']) :=
  CharBuf.str_fill (by simp [hl.1]) (by simp [hcap]; have := hl.2.2; unfold maxLine at *; omega)

/-- **Reading a count line** `key n`. -/
theorem count_line {st : Parse} {key : String} {w : List Char} {n : Nat}
    (hinfo : env.rsInfo = some mem) (hpre : NulFree mem st.pos) (hcap : st.line.cap = maxLine)
    (hk : key.toList = w ++ [' ']) (hf : fmtText key = w.map .lit ++ [.space])
    (hl : LineOk (countLine key n)) (hr : Reads mem st.pos (countLine key n ++ ['\n'])) :
    ∃ line, line.cap = maxLine ∧ st.count env key = .ok (some ({ st with
      line := line, pos := st.pos + (countLine key n).length + 1 }, n)) := by
  refine ⟨st.line.fill 0 (countLine key n ++ ['\n'] ++ ['\x00']), by simp [hcap], ?_⟩
  simp only [count, nextLine_line hinfo hpre hcap hl hr, Exec.ok_bind, str_line hcap hl]
  simp only [countLine, sscanf_countFmt hk hf]
  rfl

/-- **Reading a name line** `l`: the name is the line without its newline. -/
theorem name_line {st : Parse} {l : List Char} (hinfo : env.rsInfo = some mem)
    (hpre : NulFree mem st.pos) (hcap : st.line.cap = maxLine) (hl : LineOk l)
    (hr : Reads mem st.pos (l ++ ['\n'])) :
    ∃ line, line.cap = maxLine ∧ st.name env = .ok (some ({ st with
      line := line, pos := st.pos + l.length + 1 }, l)) := by
  have hlt : l.length < maxLine := by have := hl.2.2; unfold maxLine at *; omega
  let b := st.line.fill 0 (l ++ ['\n'] ++ ['\x00'])
  have hbcap : b.cap = maxLine := by simp [b, hcap]
  have hb : (b.put l.length '\x00').str = .ok l := by
    refine CharBuf.str_eq_of hl.1 (by simpa [b, hcap] using hlt) (fun j hj => ?_) (by simp [CharBuf.put])
    simp only [CharBuf.put, Nat.ne_of_lt hj, if_false, b, CharBuf.fill_get, Nat.zero_le, true_and,
      Nat.sub_zero, List.length_append, List.length_singleton]
    rw [dif_pos (by omega), List.getElem_append_left (by simp; omega),
      List.getElem_append_left hj]
  refine ⟨b.put l.length '\x00', by simp [hbcap], ?_⟩
  simp only [name, nextLine_line hinfo hpre hcap hl hr, Exec.ok_bind, str_line hcap hl,
    strrchr_append_self hl.2.1]
  rw [CharBuf.set_of_lt _ (hbcap ▸ hlt : l.length < b.cap)]
  simp only [hb, Exec.ok_bind]
  rfl

/-- **Reading a full buffer.** When the `MAXLINE - 1` characters at the cursor hold no
NUL and no newline, `strgets` copies them and leaves the cursor inside the line. -/
theorem nextLine_long {st : Parse} {l : List Char} (hinfo : env.rsInfo = some mem)
    (hpre : NulFree mem st.pos) (hcap : st.line.cap = maxLine) (hl : '\x00' ∉ l ∧ '\n' ∉ l) (hlen : l.length = maxLine - 1)
    (hr : Reads mem st.pos l) :
    st.nextLine env = .ok (some { st with
      line := st.line.fill 0 (l ++ ['\x00']), pos := st.pos + l.length }) := by
  have hp : mem st.pos ≠ '\x00' := by
    obtain ⟨c, l', rfl⟩ := List.exists_cons_of_ne_nil
      (List.ne_nil_of_length_pos (by rw [hlen]; decide))
    rw [hr.1]
    exact fun e => hl.1 (e ▸ List.mem_cons_self c l')
  simp only [nextLine, hinfo, checkCursor_some hpre, Exec.ok_bind, Exec.pure_eq,
    strgets_eq st.line maxLine mem st.pos (by decide) hcap.ge hp, ← hlen, gets_long mem st.pos l hl hr]

/-- **Reading a name that fills the buffer**: there is no newline to cut, and the name
is the whole chunk. -/
theorem name_long {st : Parse} {l : List Char} (hinfo : env.rsInfo = some mem)
    (hpre : NulFree mem st.pos) (hcap : st.line.cap = maxLine) (hl : '\x00' ∉ l ∧ '\n' ∉ l) (hlen : l.length = maxLine - 1)
    (hr : Reads mem st.pos l) :
    ∃ line, line.cap = maxLine ∧ st.name env = .ok (some ({ st with
      line := line, pos := st.pos + l.length }, l)) := by
  have hstr : (st.line.fill 0 (l ++ ['\x00'])).str = .ok l :=
    CharBuf.str_fill hl.1 (by rw [hlen, hcap]; decide)
  refine ⟨st.line.fill 0 (l ++ ['\x00']), by simp [hcap], ?_⟩
  simp only [name, nextLine_long hinfo hpre hcap hl hlen hr, Exec.ok_bind, hstr,
    strrchr_of_not_mem hl.2, Exec.pure_eq]

/-- **Reading a name**, whole line or full buffer: the cursor moves past its chunk. -/
theorem name_chunk {st : Parse} {n : List Char} (hinfo : env.rsInfo = some mem)
    (hpre : NulFree mem st.pos) (hcap : st.line.cap = maxLine) (hn : ChunkOk n) (hr : Reads mem st.pos (chunkText n)) :
    ∃ line, line.cap = maxLine ∧ st.name env = .ok (some ({ st with
      line := line, pos := st.pos + (chunkText n).length }, n)) := by
  unfold chunkText at hr ⊢
  split_ifs at hr ⊢ with hlt
  · simpa [Nat.add_assoc] using name_line hinfo hpre hcap ⟨hn.1, hn.2.1, hlt⟩ hr
  · exact name_long hinfo hpre hcap ⟨hn.1, hn.2.1⟩ (by have := hn.2.2; omega) hr

end Parse

/-- **The expanded name of a kernel**: the token, then as much of `".expand"` as
`MAXLINE - 1` characters leave room for. -/
theorem expandName_eq (tok : List Char) (hnul : '\x00' ∉ tok) (hlen : tok.length < maxLine) :
    ∃ b, expandName env tok = .ok b ∧
      b.str = .ok (tok ++ ".expand".toList.take (maxLine - 1 - tok.length)) := by
  have hset := @CharBuf.setList_of_le ⟨maxLine, env.stack⟩ 0 (tok ++ ['\x00'])
    (by simp only [List.length_append, List.length_singleton]; omega)
  have hstr : ((CharBuf.mk maxLine env.stack).fill 0 (tok ++ ['\x00'])).str = .ok tok :=
    CharBuf.str_fill hnul hlen
  have hsize : sizeT ((maxLine : Int) - 1 - tok.length) = maxLine - 1 - tok.length := by
    rw [sizeT_of_nonneg (by unfold maxLine at *; omega) (by unfold maxLine at *; omega)]
    unfold maxLine at *; omega
  obtain ⟨b, hb, -, hbstr⟩ := @strncat_fill ⟨maxLine, env.stack⟩ tok ".expand".toList
    (maxLine - 1 - tok.length) hnul (by decide)
    (by have := List.length_take_le (maxLine - 1 - tok.length) ".expand".toList; simp only at *; omega)
  exact ⟨b, by simp only [expandName, hset, Exec.ok_bind, hstr, hsize, hb], hbstr⟩

theorem reads_text_cons {p : Nat} {l : List Char} {ls : List (List Char)} :
    Reads mem p (text (l :: ls)) ↔ Reads mem p (l ++ ['\n']) ∧ Reads mem (p + l.length + 1) (text ls) := by
  simp [text_cons, reads_append, Nat.add_assoc, and_assoc]

theorem set_middle {α : Type} (pre rest : List α) (x y : α) :
    (pre ++ x :: rest).set pre.length y = pre ++ y :: rest := by
  simp [List.set_append_right]

theorem set_middle_of_eq {α : Type} {pre rest : List α} {i : Nat} (x y : α) (h : pre.length = i) :
    (pre ++ x :: rest).set i y = pre ++ y :: rest := h ▸ set_middle pre rest x y

end Compat

/-- A cursor moved past a line without NUL stays in the string. -/
theorem NulFree.line {mem : Mem} {p : Nat} {l : List Char} (h : NulFree mem p) (hl : '\x00' ∉ l)
    (hr : Reads mem p (l ++ ['\n'])) : NulFree mem (p + l.length + 1) := by
  simpa [Nat.add_assoc] using h.reads hr (by simp [hl])

/-- A cursor moved past a chunk stays in the string. -/
theorem NulFree.chunk {mem : Mem} {p : Nat} {n : List Char} (h : NulFree mem p)
    (hn : Compat.ChunkOk n) (hr : Reads mem p (Compat.chunkText n)) :
    NulFree mem (p + (Compat.chunkText n).length) :=
  h.reads hr (by unfold Compat.chunkText; split_ifs <;> simp [hn.1])

end RsCpuScript
