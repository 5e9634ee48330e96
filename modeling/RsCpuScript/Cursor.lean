import RsCpuScript.CString

/-!
# `strgets` called over a whole text

The parser reads its descriptor one line at a time, each call of `strgets` leaving the
cursor where the next begins. This module follows a run of such calls over a whole
NUL-terminated text and compares it with what a run should return: the text cut after
every newline and after the `size - 1`-th character of a line (`cut`).

The run returns exactly the pieces `cut` gives while it is inside the text
(`getsRun_text`). How it ends depends on where the text ends. A text that ends at a cut,
after a newline or with a piece that fills the buffer, leaves the cursor on its NUL, and
the next call returns NULL. A text that ends inside a piece, a last line without a
newline and shorter than the buffer, is different: the call that copies that piece copies
the NUL as well and moves the cursor past it, so the next call reads the byte after the
text and goes on from there.
-/

namespace RsCpuScript

/-! ## The pieces of a text -/

/-- **How a text should come back from `strgets`** with room for `k` characters: cut
after each newline and wherever a piece reaches `k` characters. `cur` is the part of the
current piece already read. The first component is the pieces so cut, the second the
characters after the last cut, the open piece, empty when the text ends at a cut. -/
def cut (k : Nat) (cur : List Char) : List Char → List (List Char) × List Char
  | [] => ([], cur)
  | c :: w =>
    if c = '\n' ∨ cur.length + 1 = k then
      ((cur ++ [c]) :: (cut k [] w).1, (cut k [] w).2)
    else cut k (cur ++ [c]) w

/-- The pieces and the open piece put back together are the text. -/
theorem cut_join (k : Nat) : ∀ (cur w : List Char),
    (cut k cur w).1.flatten ++ (cut k cur w).2 = cur ++ w
  | cur, [] => by simp [cut]
  | cur, c :: w => by
    unfold cut
    split
    · simp [cut_join k [] w]
    · simp [cut_join k (cur ++ [c]) w]

/-- **What a piece is**: at most `k` characters, a newline only as the last one, and
ending at a newline or at the `k`-th character; the open piece has fewer than `k`
characters and no newline. -/
theorem cut_pieces {k : Nat} : ∀ (cur w : List Char), cur.length < k → '\n' ∉ cur →
    (∀ l ∈ (cut k cur w).1, l ≠ [] ∧ l.length ≤ k ∧ '\n' ∉ l.dropLast ∧
      (l.getLast? = some '\n' ∨ l.length = k)) ∧
    (cut k cur w).2.length < k ∧ '\n' ∉ (cut k cur w).2
  | cur, [], hk, hn => by simpa [cut] using ⟨hk, hn⟩
  | cur, c :: w, hk, hn => by
    unfold cut
    split
    · rename_i hc
      obtain ⟨ih1, ih2⟩ := @cut_pieces k [] w (by simp; omega) (List.not_mem_nil _)
      refine ⟨fun l hl => ?_, ih2⟩
      rcases List.mem_cons.mp hl with rfl | hl
      · refine ⟨by simp, by simp; omega, by simpa using hn, ?_⟩
        rcases hc with rfl | hc
        · simp
        · simp [hc]
      · exact ih1 l hl
    · rename_i hc
      push_neg at hc
      exact @cut_pieces k (cur ++ [c]) w (by simp; omega) (by simp [hn, Ne.symm hc.1])

/-! ## One call against the pieces -/

/-- **One call of `strgets` over a text, against the pieces.** Reading `w` and its NUL
from `p` with room for `j` more characters of the current piece `cur`, `gets` either
reaches the NUL, copies the rest of the text and moves the cursor past the NUL, the open
piece being `cur ++ w`, or stops at a cut: it copies a non-empty `l`, leaves the cursor
on the rest of the text, and `cur ++ l` is the next piece. -/
theorem gets_cut (str : Mem) {k : Nat} : ∀ (w cur : List Char) (j p : Nat),
    '\x00' ∉ w → Reads str p (w ++ ['\x00']) → 1 ≤ j → cur.length + j = k →
    (gets str j p = (w, p + w.length + 1) ∧ cut k cur w = ([], cur ++ w)) ∨
    ∃ l rest, l ≠ [] ∧ w = l ++ rest ∧ gets str j p = (l, p + l.length) ∧
      cut k cur w = ((cur ++ l) :: (cut k [] rest).1, (cut k [] rest).2)
  | [], cur, j + 1, p, _, hr, _, _ => .inl ⟨by simp_all [gets], by simp [cut]⟩
  | c :: w, cur, j + 1, p, hw, hr, _, hj => by
    simp only [List.cons_append, reads_cons] at hr
    simp only [List.mem_cons, not_or] at hw
    by_cases hn : c = '\n'
    · subst hn
      exact .inr ⟨['\n'], w, by simp, rfl, by simp [gets, hr.1], by simp [cut]⟩
    · by_cases hj0 : j = 0
      · subst hj0
        exact .inr ⟨[c], w, by simp, rfl, by simp [gets, hr.1, hn, Ne.symm hw.1],
          by simp [cut, hj]⟩
      have hg : gets str (j + 1) p = (c :: (gets str j (p + 1)).1, (gets str j (p + 1)).2) := by
        simp [gets, hr.1, hn, Ne.symm hw.1]
      have hcut : cut k cur (c :: w) = cut k (cur ++ [c]) w := by
        simp only [cut, hn, false_or]
        rw [if_neg (by omega)]
      rw [hg, hcut]
      rcases @gets_cut str k w (cur ++ [c]) j (p + 1) hw.2 hr.2 (by omega) (by simp; omega) with
        ⟨hg', hc'⟩ | ⟨l, rest, hl, rfl, hg', hc'⟩
      · refine .inl ⟨by simp [hg']; omega, by simp [hc']⟩
      · exact .inr ⟨c :: l, rest, by simp, rfl, by simp [hg']; omega, by simp [hc']⟩

/-! ## The run -/

/-- The results of `strgets` called over and over from the cursor `p`, at most `n` times,
as `gets` gives them: each call's string, and the cursor after the last call. The run
stops at the first NULL, which a cursor on a NUL gets. -/
def getsRun (str : Mem) (k : Nat) : Nat → Nat → List (List Char) × Nat
  | 0, p => ([], p)
  | n + 1, p =>
    if str p = '\x00' then ([], p)
    else ((gets str k p).1 :: (getsRun str k n (gets str k p).2).1,
      (getsRun str k n (gets str k p).2).2)

/-- **`strgets(s, size, &p)` called over and over**, at most `n` times, each call writing
into the buffer the last one left: the C string each call leaves in the buffer, and the
cursor after the last call. The run stops at the first NULL. -/
def strgetsRun (size : Nat) (str : Mem) : Nat → CharBuf → Nat → Exec (List (List Char) × Nat)
  | 0, _, p => pure ([], p)
  | n + 1, s, p => do
    match ← strgets s size (some str) p with
    | none => pure ([], p)
    | some (s, p) =>
      let line ← s.str
      let rest ← strgetsRun size str n s p
      pure (line :: rest.1, rest.2)

/-- **The calls, as `gets` gives them**: with a buffer of at least `size` bytes, the
calls return the strings `gets` copies. -/
theorem strgetsRun_eq {size : Nat} (hsize : 1 ≤ size) (str : Mem) :
    ∀ (n : Nat) (s : CharBuf) (p : Nat), size ≤ s.cap →
      strgetsRun size str n s p = .ok (getsRun str (size - 1) n p)
  | 0, _, _, _ => rfl
  | n + 1, s, p, hcap => by
    by_cases hp : str p = '\x00'
    · simp [strgetsRun, getsRun, strgets, hp]
    · have hlen := gets_length_le str (size - 1) p
      let s' := s.fill 0 ((gets str (size - 1) p).1 ++ ['\x00'])
      simp only [strgetsRun, getsRun, strgets_eq s size str p hsize hcap hp, Exec.ok_bind, hp,
        if_false, @CharBuf.str_fill s _ (nul_not_mem_gets str (size - 1) p) (by omega),
        strgetsRun_eq hsize str n s' _ (by simpa [s'] using hcap), Exec.pure_eq]

/-- **A run over a text.** Reading a text `w` and its NUL from `p`, with room for `k ≥ 1`
characters and more calls than the text has characters, the run returns the pieces
`cut` gives. When the text ends at a cut it stops there, with the cursor on the NUL.
When it ends inside a piece, it returns that open piece too, with the cursor past the
NUL, and goes on with the calls from there. -/
theorem getsRun_text (str : Mem) {k : Nat} (hk : 1 ≤ k) : ∀ (n : Nat) (w : List Char) (p : Nat),
    '\x00' ∉ w → Reads str p (w ++ ['\x00']) → w.length < n →
    getsRun str k n p =
      if (cut k [] w).2 = [] then ((cut k [] w).1, p + w.length)
      else ((cut k [] w).1 ++ (cut k [] w).2 ::
          (getsRun str k (n - (cut k [] w).1.length - 1) (p + w.length + 1)).1,
        (getsRun str k (n - (cut k [] w).1.length - 1) (p + w.length + 1)).2)
  | 0, w, p, _, _, hn => absurd hn (Nat.not_lt_zero _)
  | n + 1, [], p, _, hr, _ => by simp_all [getsRun, cut]
  | n + 1, c :: w, p, hw, hr, hn => by
    have hp : str p ≠ '\x00' := by
      rw [show str p = c from hr.1]
      exact fun h => hw (h ▸ List.mem_cons_self c w)
    rw [getsRun, if_neg hp]
    rcases @gets_cut str k (c :: w) [] k p hw hr hk (by simp) with
      ⟨hg, hc⟩ | ⟨l, rest, hl, hw', hg, hc⟩
    · simp [hg, hc]
    · have hrest : '\x00' ∉ rest := fun h => hw (hw' ▸ List.mem_append_right l h)
      have hrr : Reads str (p + l.length) (rest ++ ['\x00']) :=
        ((reads_append str p l _).mp (by simpa [hw'] using hr)).2
      have hlen : (c :: w).length = l.length + rest.length := by rw [hw', List.length_append]
      have hlpos : 0 < l.length := List.length_pos.mpr hl
      rw [hg, hc, getsRun_text str hk n rest (p + l.length) hrest hrr (by omega)]
      simp only [List.nil_append, List.length_cons, hlen, Nat.add_assoc]
      split
      · rfl
      · simp only [List.cons_append]
        rw [show n + 1 - ((cut k [] rest).1.length + 1) - 1 = n - (cut k [] rest).1.length - 1 by omega]

/-- A text followed by NULs holds the text and its NUL. -/
theorem reads_memOf_nul (w : List Char) : Reads (memOf w) 0 (w ++ ['\x00']) :=
  (reads_append _ _ _ _).mpr ⟨reads_memOf w, by simp [memOf]⟩

/-! ## The calls over a text -/

/-- **`strgets` over a text, as the parser calls it.** Take a text without a NUL of its
own, read with its NUL from the cursor `p`, a `size` of at least 2, a buffer of `size`
bytes, and more calls than the text has characters. The calls return the pieces of the
text cut after each newline and every `size - 1` characters, and when the text ends
inside a piece, that open piece. The pieces and the open piece put back together are the
text; each piece has at most `size - 1` characters, a newline only as its last, and ends
at a newline or at `size - 1` characters; the open piece is shorter and has no newline.
When the text ends at a cut the calls stop with the cursor on the NUL. When it ends inside
a piece, the call that returns the open piece leaves the cursor past the NUL, and the
calls go on from the byte after the text. -/
theorem strgetsRun_text {size : Nat} (hsize : 2 ≤ size) {s : CharBuf} (hcap : size ≤ s.cap)
    {str : Mem} {w : List Char} {p n : Nat} (hw : '\x00' ∉ w) (hr : Reads str p (w ++ ['\x00']))
    (hn : w.length < n) :
    let c := cut (size - 1) [] w
    strgetsRun size str n s p =
        .ok (if c.2 = [] then (c.1, p + w.length)
          else (c.1 ++ c.2 :: (getsRun str (size - 1) (n - c.1.length - 1) (p + w.length + 1)).1,
            (getsRun str (size - 1) (n - c.1.length - 1) (p + w.length + 1)).2)) ∧
      c.1.flatten ++ c.2 = w ∧
      (∀ l ∈ c.1, l ≠ [] ∧ l.length ≤ size - 1 ∧ '\n' ∉ l.dropLast ∧
        (l.getLast? = some '\n' ∨ l.length = size - 1)) ∧
      c.2.length < size - 1 ∧ '\n' ∉ c.2 :=
  ⟨by rw [strgetsRun_eq (by omega) str n s p hcap, getsRun_text str (by omega) n w p hw hr hn],
    cut_join (size - 1) [] w, @cut_pieces (size - 1) [] w (by simp; omega) (List.not_mem_nil _)⟩

/-- Two lines read with `size = 3`, the last without a newline: the pieces `ab`, a newline,
`cd`, and no open piece, since `cd` fills the buffer. -/
theorem strgetsRun_text_two_lines :
    let w := "ab\ncd".toList
    (2 ≤ 3 ∧ 3 ≤ (⟨3, fun _ => 'x'⟩ : CharBuf).cap ∧ '\x00' ∉ w ∧ Reads (memOf w) 0 (w ++ ['\x00']) ∧
      w.length < 6) ∧
    let c := cut (3 - 1) [] w
    strgetsRun 3 (memOf w) 6 ⟨3, fun _ => 'x'⟩ 0 =
        .ok (if c.2 = [] then (c.1, 0 + w.length)
          else (c.1 ++ c.2 :: (getsRun (memOf w) (3 - 1) (6 - c.1.length - 1) (0 + w.length + 1)).1,
            (getsRun (memOf w) (3 - 1) (6 - c.1.length - 1) (0 + w.length + 1)).2)) ∧
      c.1.flatten ++ c.2 = w ∧
      (∀ l ∈ c.1, l ≠ [] ∧ l.length ≤ 3 - 1 ∧ '\n' ∉ l.dropLast ∧
        (l.getLast? = some '\n' ∨ l.length = 3 - 1)) ∧
      c.2.length < 3 - 1 ∧ '\n' ∉ c.2 :=
  ⟨⟨by decide, by decide, by decide, reads_memOf_nul _, by decide⟩,
    strgetsRun_text (by decide) (by decide) (by decide) (reads_memOf_nul _) (by decide)⟩

/-- The text `a`, without a newline and with the byte `b` after its NUL, read with
`size = 3`. The first call returns `a` and leaves the cursor at 2, past the NUL at 1; the
second reads the bytes after the text and returns `b`. -/
theorem strgetsRun_reads_past_nul :
    (Option.map Prod.snd <$> strgets ⟨3, fun _ => 'x'⟩ 3 (some (memOf "a\x00b".toList)) 0) =
        .ok (some 2) ∧
      strgetsRun 3 (memOf "a\x00b".toList) 3 ⟨3, fun _ => 'x'⟩ 0 = .ok (["a".toList, "b".toList], 4) := by
  decide

end RsCpuScript
