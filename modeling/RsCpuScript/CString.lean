import RsCpuScript.Exec
import Mathlib.Data.List.Basic

/-!
# C strings, `strgets` and `sscanf`

The metadata parser of the compatibility build reads the `.rs.info` descriptor with
`strgets` into a `char line[maxLine]` and takes each line apart with `sscanf`,
`strrchr` and `strncat`. This module models those pieces over explicit memory: a
descriptor is the bytes from the `.rs.info` pointer on, a stack array is a `CharBuf`
whose every write is checked against its bound, and a C string is what is read from
an array up to its first NUL.

`strgets` is specified once, by `gets`: the characters it copies and where it leaves
the cursor. Everything later modules say about the parser's lines comes from
`strgets_eq`.
-/

namespace RsCpuScript

/-- `maxLine`, the size of the parser's line buffers. -/
def maxLine : Nat := 500

/-- The bytes of memory from a pointer on: `m n` is the byte `n` past it. -/
abbrev Mem := Nat → Char

/-- The memory holding the C string `w`: its characters, then NULs. -/
def memOf (w : List Char) : Mem := fun n => w.getD n '\x00'

/-- **The memory from `p` on begins with `w`.** -/
def Reads (m : Mem) : Nat → List Char → Prop
  | _, [] => True
  | p, c :: w => m p = c ∧ Reads m (p + 1) w

@[simp] theorem reads_nil (m : Mem) (p : Nat) : Reads m p [] := trivial

@[simp] theorem reads_cons (m : Mem) (p : Nat) (c : Char) (w : List Char) :
    Reads m p (c :: w) ↔ m p = c ∧ Reads m (p + 1) w := Iff.rfl

theorem reads_append (m : Mem) (p : Nat) (a b : List Char) :
    Reads m p (a ++ b) ↔ Reads m p a ∧ Reads m (p + a.length) b := by
  induction a generalizing p with
  | nil => simp
  | cons c a ih => simp [ih, Nat.add_right_comm, Nat.add_assoc, and_assoc]

theorem reads_memOf_append (pre w : List Char) : Reads (memOf (pre ++ w)) pre.length w := by
  induction w generalizing pre with
  | nil => trivial
  | cons c w ih =>
    refine ⟨by simp [memOf, List.getElem_append_right], ?_⟩
    simpa using ih (pre ++ [c])

theorem reads_memOf (w : List Char) : Reads (memOf w) 0 w := reads_memOf_append [] w

theorem Reads.of_eq {m : Mem} {p q : Nat} {w : List Char} (h : Reads m p w) (e : p = q) :
    Reads m q w := e ▸ h

/-- **No NUL lies before `p`**: a cursor at `p` that walked a C string from its start has
not passed the NUL that ends it, and so is still inside the string's object. -/
def NulFree (m : Mem) (p : Nat) : Prop := ∀ i < p, m i ≠ '\x00'

instance (m : Mem) (p : Nat) : Decidable (NulFree m p) :=
  inferInstanceAs (Decidable (∀ i, i < p → m i ≠ '\x00'))

theorem NulFree.zero (m : Mem) : NulFree m 0 := fun _ h => absurd h (Nat.not_lt_zero _)

/-- **A cursor moved over characters that are not NUL stays in the string.** -/
theorem NulFree.reads {m : Mem} {p : Nat} {w : List Char} (h : NulFree m p) (hr : Reads m p w)
    (hw : '\x00' ∉ w) : NulFree m (p + w.length) := by
  induction w generalizing p with
  | nil => simpa using h
  | cons c w ih =>
    have hc : m p ≠ '\x00' := hr.1 ▸ fun e => hw (e ▸ List.mem_cons_self c w)
    have h1 : NulFree m (p + 1) := fun i hi => if e : i = p then e ▸ hc else h i (by omega)
    simpa [Nat.add_assoc, Nat.add_comm 1] using
      ih h1 hr.2 (fun e => hw (List.mem_cons_of_mem c e))

/-- **A cursor inside a text without NUL is inside the string** that text begins. -/
theorem NulFree.of_reads {m : Mem} {w : List Char} (hr : Reads m 0 w) (hw : '\x00' ∉ w) {p : Nat}
    (hp : p ≤ w.length) : NulFree m p := fun i hi =>
  (NulFree.zero m).reads hr hw i (by omega)

/-- A `char` array of `cap` bytes on the stack. -/
structure CharBuf where
  cap : Nat
  get : Nat → Char

namespace CharBuf

/-- `b[i] = c`, with no bound check. -/
def put (b : CharBuf) (i : Nat) (c : Char) : CharBuf :=
  ⟨b.cap, fun j => if j = i then c else b.get j⟩

/-- `b[i] = c`, checked against the array's bound. -/
def set (b : CharBuf) (i : Nat) (c : Char) : Exec CharBuf :=
  if i < b.cap then .ok (b.put i c) else .fault .outOfBounds

/-- `w` written from index `i` on, one character after the other, each write checked. -/
def setList (b : CharBuf) (i : Nat) : List Char → Exec CharBuf
  | [] => .ok b
  | c :: w => do (← b.set i c).setList (i + 1) w

/-- `w` written from index `i` on, with no bound check. -/
def fill (b : CharBuf) (i : Nat) : List Char → CharBuf
  | [] => b
  | c :: w => (b.put i c).fill (i + 1) w

/-- The characters from index `i` up to the first NUL, with `k` bytes of the array
left: running off its end is out of bounds. -/
def strFrom (b : CharBuf) : Nat → Nat → Exec (List Char)
  | 0, _ => .fault .outOfBounds
  | k + 1, i => if b.get i = '\x00' then .ok [] else (b.get i :: ·) <$> b.strFrom k (i + 1)

/-- The C string the array holds, as `sscanf`, `strrchr`, `strlen` and `dlsym` read it. -/
def str (b : CharBuf) : Exec (List Char) := b.strFrom b.cap 0

@[simp] theorem put_cap (b : CharBuf) (i : Nat) (c : Char) : (b.put i c).cap = b.cap := rfl

@[simp] theorem fill_cap (b : CharBuf) (i : Nat) (w : List Char) : (b.fill i w).cap = b.cap := by
  induction w generalizing b i <;> simp_all [fill]

theorem set_of_lt {b : CharBuf} {i : Nat} (c : Char) (h : i < b.cap) :
    b.set i c = .ok (b.put i c) := if_pos h

/-- **Checked writes that stay in the array are the plain ones.** -/
theorem setList_of_le {b : CharBuf} {i : Nat} {w : List Char} (h : i + w.length ≤ b.cap) :
    b.setList i w = .ok (b.fill i w) := by
  induction w generalizing b i with
  | nil => rfl
  | cons c w ih =>
    simp only [List.length_cons] at h
    simp only [setList, fill, set_of_lt c (by omega : i < b.cap), Exec.ok_bind]
    exact ih (by simp only [put_cap]; omega)

theorem fill_get (b : CharBuf) (i : Nat) (w : List Char) (j : Nat) :
    (b.fill i w).get j = if h : i ≤ j ∧ j - i < w.length then w[j - i] else b.get j := by
  induction w generalizing b i with
  | nil => simp [fill]
  | cons c w ih =>
    rw [fill, ih]
    by_cases hj : j = i
    · subst hj; simp [put]
    · by_cases hlt : i + 1 ≤ j ∧ j - (i + 1) < w.length
      · have e : j - i = (j - (i + 1)) + 1 := by omega
        simp only [hlt, and_self, dite_true, List.length_cons, e, List.getElem_cons_succ]
        rw [dif_pos ⟨by omega, by omega⟩]
      · rw [dif_neg hlt, dif_neg (by simp only [List.length_cons]; omega)]
        simp [put, hj]

theorem strFrom_eq {b : CharBuf} {w : List Char} (hw : '\x00' ∉ w) :
    ∀ {k i : Nat}, w.length < k → (∀ j (h : j < w.length), b.get (i + j) = w[j]) →
      b.get (i + w.length) = '\x00' → b.strFrom k i = .ok w := by
  induction w with
  | nil =>
    intro k i hk _ hz
    obtain ⟨k, rfl⟩ : ∃ k', k = k' + 1 := ⟨k - 1, by simp at hk; omega⟩
    simp_all [strFrom]
  | cons c w ih =>
    intro k i hk hget hz
    obtain ⟨k, rfl⟩ : ∃ k', k = k' + 1 := ⟨k - 1, by simp at hk; omega⟩
    have h0 : b.get i = c := by simpa using hget 0 (by simp)
    have hc : c ≠ '\x00' := fun e => hw (e ▸ List.mem_cons_self c w)
    simp only [strFrom, h0, hc, if_false]
    rw [ih (fun e => hw (List.mem_cons_of_mem c e)) (by simp at hk; omega)
      (fun j h => by simpa [Nat.add_assoc, Nat.add_comm 1] using hget (j + 1) (by simpa using h))
      (by simpa [Nat.add_assoc, Nat.add_comm 1] using hz)]
    rfl

/-- **An array holds the C string `w`** when it holds `w` and then a NUL, and `w` has no
NUL of its own: the rest of the array is never read. -/
theorem str_eq_of {b : CharBuf} {w : List Char} (hw : '\x00' ∉ w) (hcap : w.length < b.cap)
    (hget : ∀ j (h : j < w.length), b.get j = w[j]) (hz : b.get w.length = '\x00') :
    b.str = .ok w :=
  strFrom_eq hw hcap (by simpa using hget) (by simpa using hz)

theorem str_fill {b : CharBuf} {w : List Char} (hw : '\x00' ∉ w) (hcap : w.length < b.cap) :
    (b.fill 0 (w ++ ['\x00'])).str = .ok w := by
  refine str_eq_of hw (by simpa using hcap) (fun j h => ?_) ?_
  · simp only [fill_get, List.length_append, List.length_singleton, Nat.zero_le, true_and,
      Nat.sub_zero, Nat.lt_succ_of_lt h, dite_true]
    exact List.getElem_append_left h
  · simp [fill_get]

/-- A NUL written into a string cuts it there. -/
theorem str_put_nul {b : CharBuf} {w : List Char} {i : Nat} (hw : '\x00' ∉ w)
    (hi : i < w.length) (hcap : w.length < b.cap) :
    ((b.fill 0 (w ++ ['\x00'])).put i '\x00').str = .ok (w.take i) := by
  have hlen : (w.take i).length = i := by simp; omega
  refine str_eq_of (fun h => hw (List.mem_of_mem_take h)) (by simp; omega) (fun j hj => ?_)
    (by simp [put, hlen])
  rw [hlen] at hj
  simp only [put, Nat.ne_of_lt hj, if_false, fill_get, Nat.zero_le, true_and, Nat.sub_zero,
    List.length_append, List.length_singleton]
  rw [dif_pos (by omega), List.getElem_append_left (by omega), List.getElem_take]

end CharBuf

/-! ## `strgets` -/

/-- **What `strgets` copies**: the characters from the cursor `p` up to and with the
first `'\n'`, up to but without the first NUL, or the first `k` of them, whichever
comes first; and where the cursor is left. -/
def gets (str : Mem) : Nat → Nat → List Char × Nat
  | 0, p => ([], p)
  | k + 1, p =>
    if str p = '\x00' then ([], p + 1)
    else if str p = '\n' then (['\n'], p + 1)
    else ((str p :: (gets str k (p + 1)).1), (gets str k (p + 1)).2)

/-- The loop of `strgets`, `for (i = 0; i < (size - 1); i++)`, with `k` iterations left,
`i` the index written next and `p` the cursor. -/
def strgetsLoop (str : Mem) : Nat → Nat → Nat → CharBuf → Exec (CharBuf × Nat)
  | 0, i, p, s => (·, p) <$> s.set i '\x00'
  | k + 1, i, p, s => do
    let s ← s.set i (str p)
    if str p = '\x00' then pure (s, p + 1)
    else if str p = '\n' then (·, p + 1) <$> s.set (i + 1) '\x00'
    else strgetsLoop str k (i + 1) (p + 1) s

/-- `strgets(s, size, &str)`: copy a line of the string at `str`, from the cursor `p`, into
`s`; `none` is its NULL, for a NULL string or a cursor at a NUL. -/
def strgets (s : CharBuf) (size : Nat) (str : Option Mem) (p : Nat) :
    Exec (Option (CharBuf × Nat)) :=
  match str with
  | none => pure none
  | some str =>
    if str p = '\x00' ∨ size < 1 then pure none else some <$> strgetsLoop str (size - 1) 0 p s

theorem strgetsLoop_eq (str : Mem) (k i p : Nat) (s : CharBuf) (h : i + k < s.cap) :
    strgetsLoop str k i p s = .ok (s.fill i ((gets str k p).1 ++ ['\x00']), (gets str k p).2) := by
  induction k generalizing i p s with
  | zero => simp [strgetsLoop, gets, CharBuf.set_of_lt _ (by omega : i < s.cap), CharBuf.fill]
  | succ k ih =>
    simp only [strgetsLoop, gets, CharBuf.set_of_lt _ (by omega : i < s.cap), Exec.ok_bind]
    by_cases h0 : str p = '\x00'
    · simp [h0, CharBuf.fill]
    · by_cases hn : str p = '\n'
      · simp [hn, CharBuf.set_of_lt _ (by simp; omega : i + 1 < (s.put i '\n').cap),
          CharBuf.fill]
      · simp only [h0, hn, if_false]
        rw [ih (i + 1) (p + 1) _ (by simp; omega)]
        rfl

/-- **The spec of `strgets`.** With a buffer of at least `size` bytes and a cursor not at
a NUL, `strgets` copies `gets str (size - 1) p` and a NUL into the buffer. -/
theorem strgets_eq (s : CharBuf) (size : Nat) (str : Mem) (p : Nat) (hsize : 1 ≤ size)
    (hcap : size ≤ s.cap) (hp : str p ≠ '\x00') :
    strgets s size (some str) p =
      .ok (some (s.fill 0 ((gets str (size - 1) p).1 ++ ['\x00']), (gets str (size - 1) p).2)) := by
  simp only [strgets, hp, false_or, show ¬ size < 1 by omega, if_false]
  rw [strgetsLoop_eq str _ 0 p s (by omega)]
  rfl

theorem gets_length_le (str : Mem) (k p : Nat) : (gets str k p).1.length ≤ k := by
  induction k generalizing p with
  | zero => simp [gets]
  | succ k ih =>
    simp only [gets]
    split_ifs <;> simp [ih]

theorem nul_not_mem_gets (str : Mem) (k p : Nat) : '\x00' ∉ (gets str k p).1 := by
  induction k generalizing p with
  | zero => simp [gets]
  | succ k ih =>
    simp only [gets]
    split_ifs with h0
    · simp
    · simp
    · simp [ih, Ne.symm h0]

/-- **A line that fits is copied whole.** A line `l` of fewer than `k` characters, with
no NUL or newline in it, is copied with its newline, and the cursor moves past it. -/
theorem gets_line (str : Mem) (k p : Nat) (l : List Char) (hl : '\x00' ∉ l ∧ '\n' ∉ l)
    (hk : l.length < k) (hr : Reads str p (l ++ ['\n'])) :
    gets str k p = (l ++ ['\n'], p + l.length + 1) := by
  induction l generalizing k p with
  | nil =>
    obtain ⟨k, rfl⟩ : ∃ k', k = k' + 1 := ⟨k - 1, by simp at hk; omega⟩
    simp_all [gets]
  | cons c l ih =>
    obtain ⟨k, rfl⟩ : ∃ k', k = k' + 1 := ⟨k - 1, by simp at hk; omega⟩
    simp only [List.cons_append, reads_cons] at hr
    simp only [List.mem_cons, not_or] at hl
    simp only [gets, hr.1, Ne.symm hl.1.1, Ne.symm hl.2.1, if_false]
    rw [ih k (p + 1) ⟨hl.1.2, hl.2.2⟩ (by simp at hk; omega) hr.2]
    simp [Nat.add_right_comm, Nat.add_assoc]

/-- **A line that does not fit fills the buffer.** When the `k` characters at the cursor
hold no NUL and no newline, `strgets` copies exactly them, and the cursor stops inside
the line. -/
theorem gets_long (str : Mem) (p : Nat) (l : List Char) (hl : '\x00' ∉ l ∧ '\n' ∉ l)
    (hr : Reads str p l) : gets str l.length p = (l, p + l.length) := by
  induction l generalizing p with
  | nil => simp [gets]
  | cons c l ih =>
    simp only [List.mem_cons, not_or] at hl
    simp only [List.length_cons, gets, hr.1, Ne.symm hl.1.1, Ne.symm hl.2.1, if_false]
    rw [ih (p + 1) ⟨hl.1.2, hl.2.2⟩ hr.2]
    simp [Nat.add_right_comm, Nat.add_assoc]

/-- **Where `strgets` leaves a cursor that starts inside the string**: still inside it, or
right past a NUL at `q`, when the characters it copied before `q` are not newlines. -/
theorem gets_nulFree (str : Mem) (k : Nat) : ∀ p, NulFree str p →
    NulFree str (gets str k p).2 ∨
      ∃ q, p ≤ q ∧ str q = '\x00' ∧ NulFree str q ∧ (p < q → str (q - 1) ≠ '\n') := by
  induction k with
  | zero => exact fun p h => .inl h
  | succ k ih =>
    intro p h
    have hnext : str p ≠ '\x00' → NulFree str (p + 1) := fun hp i hi =>
      if e : i = p then e ▸ hp else h i (by omega)
    simp only [gets]
    split_ifs with h0 hn
    · exact .inr ⟨p, Nat.le_refl p, h0, h, fun hlt => absurd hlt (Nat.lt_irrefl p)⟩
    · exact .inl (hnext h0)
    · rcases ih (p + 1) (hnext h0) with h1 | ⟨q, hq, hz, hf, hl⟩
      · exact .inl h1
      · refine .inr ⟨q, by omega, hz, hf, fun _ => ?_⟩
        by_cases e : q = p + 1
        · subst e; exact hn
        · exact hl (by omega)

end RsCpuScript
