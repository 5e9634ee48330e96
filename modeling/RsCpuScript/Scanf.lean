import RsCpuScript.CString
import Mathlib.Tactic.IntervalCases

/-!
# `sscanf`, `strrchr` and `strncat`

The parser reads its counts with `sscanf(line, "exportVarCount: %zu", …)`, a kernel
with `"%u - %500s"` and an object slot with `"%u"`; it drops a line's newline with
`strrchr` and names a kernel's expanded entry point with `strncat`. The C library is not
part of the repository: this module models the parts of it the parser uses, as the C
standard describes them, over the C string a buffer holds.

A format is a list of directives. White space in a format skips any white space of the
input, an ordinary character must match the next input character, `%u` and `%zu` read an
optionally signed decimal numeral as `strtoul` does, and `%Ns` reads at most `N`
characters other than white space. `sscanf` returns the values it assigned; the C call
returns their number, or `EOF` when the input ends before the first conversion, and the
parser only ever compares that with 1 or 2.
-/

namespace RsCpuScript

/-- `isspace` in the C locale. -/
def isSpace (c : Char) : Bool :=
  c == ' ' || c == '\t' || c == '\n' || c == '\x0b' || c == '\x0c' || c == '\r'

/-- The value of a run of decimal digits, read on after `n`. -/
def digitsVal : List Char → Nat → Nat
  | [], n => n
  | c :: w, n => digitsVal w (10 * n + (c.toNat - '0'.toNat))

/-- The optional sign of a numeral: whether it is `-`, and what follows it. -/
def numeralSign : List Char → Bool × List Char
  | c :: t => if c = '-' then (true, t) else if c = '+' then (false, t) else (false, c :: t)
  | [] => (false, [])

/-- The optionally signed decimal numeral `strtoul` reads after white space: its sign,
its digits' value and what follows it, or `none` when no digit comes. -/
def scanNumeral (s : List Char) : Option (Bool × Nat × List Char) :=
  let (neg, t) := numeralSign (s.dropWhile isSpace)
  match t.takeWhile Char.isDigit with
  | [] => none
  | ds => some (neg, digitsVal ds 0, t.dropWhile Char.isDigit)

/-- A `%u` numeral stored into an `unsigned int`: negated and reduced as `strtoul` and
the conversion to 32 bits do. -/
def toUnsigned (neg : Bool) (d : Nat) : Nat :=
  (if neg then 2 ^ 32 - d % 2 ^ 32 else d) % 2 ^ 32

/-- A `%zu` numeral stored into a `size_t`. A numeral past `SIZE_MAX` is undefined
behaviour in C; the model keeps its value. -/
def toSize (neg : Bool) (d : Nat) : Nat :=
  if neg then (2 ^ 64 - d % 2 ^ 64) % 2 ^ 64 else d

/-- A directive of a `scanf` format. -/
inductive ScanDirective where
  /-- A run of white space. -/
  | space
  /-- An ordinary character. -/
  | lit (c : Char)
  /-- `%u` -/
  | u
  /-- `%zu` -/
  | zu
  /-- `%Ns` -/
  | s (width : Nat)

/-- A value `sscanf` assigns. -/
inductive ScanValue where
  | num (n : Nat)
  | str (w : List Char)
  deriving DecidableEq, Repr

/-- **`sscanf(input, fmt, …)`**: the values it assigns, in order. -/
def sscanf : List ScanDirective → List Char → List ScanValue
  | [], _ => []
  | .space :: f, s => sscanf f (s.dropWhile isSpace)
  | .lit c :: f, d :: s => if c = d then sscanf f s else []
  | .lit _ :: _, [] => []
  | .u :: f, s =>
    match scanNumeral s with
    | some (neg, d, t) => .num (toUnsigned neg d) :: sscanf f t
    | none => []
  | .zu :: f, s =>
    match scanNumeral s with
    | some (neg, d, t) => .num (toSize neg d) :: sscanf f t
    | none => []
  | .s w :: f, s =>
    match ((s.dropWhile isSpace).takeWhile (fun c => !isSpace c)).take w with
    | [] => []
    | tok => .str tok :: sscanf f ((s.dropWhile isSpace).drop tok.length)

/-- The directives of the plain text of a format. -/
def fmtText (w : String) : List ScanDirective :=
  w.toList.map fun c => if isSpace c then .space else .lit c

/-- `EXPORT_VAR_STR` -/
def exportVarStr : String := "exportVarCount: "

/-- `EXPORT_FUNC_STR` -/
def exportFuncStr : String := "exportFuncCount: "

/-- `EXPORT_FOREACH_STR` -/
def exportForEachStr : String := "exportForEachCount: "

/-- `OBJECT_SLOT_STR` -/
def objectSlotStr : String := "objectSlotCount: "

/-- The format `KEY "%zu"` of a count line. -/
def countFmt (key : String) : List ScanDirective := fmtText key ++ [.zu]

/-- `"%u - %" MAKE_STR(MAXLINE) "s"`, the format of a kernel line. -/
def forEachFmt : List ScanDirective := [.u] ++ fmtText " - " ++ [.s maxLine]

/-- `"%u"`, the format of an object-slot line. -/
def slotFmt : List ScanDirective := [.u]

/-- `strrchr(s, c)`: the index of the last `c` in the string `s`. -/
def strrchr : List Char → Char → Option Nat
  | [], _ => none
  | d :: w, c =>
    match strrchr w c with
    | some i => some (i + 1)
    | none => if d = c then some 0 else none

/-- `strncat(dest, src, n)`: at most `n` characters of `src` written after the string
`dest` holds, then a NUL, each write checked. -/
def strncat (dest : CharBuf) (src : List Char) (n : Nat) : Exec CharBuf := do
  let d ← dest.str
  dest.setList d.length (src.take n ++ ['\x00'])

theorem strrchr_append_self {l : List Char} {c : Char} (h : c ∉ l) :
    strrchr (l ++ [c]) c = some l.length := by
  induction l with
  | nil => simp [strrchr]
  | cons d l ih => simp [strrchr, ih (fun e => h (List.mem_cons_of_mem d e))]

theorem strrchr_of_not_mem {l : List Char} {c : Char} (h : c ∉ l) : strrchr l c = none := by
  induction l with
  | nil => rfl
  | cons d l ih =>
    simp only [List.mem_cons, not_or] at h
    simp [strrchr, ih h.2, Ne.symm h.1]

theorem strrchr_lt {w : List Char} {c : Char} {i : Nat} (h : strrchr w c = some i) :
    i < w.length := by
  induction w generalizing i with
  | nil => simp [strrchr] at h
  | cons d w ih =>
    simp only [strrchr] at h
    split at h
    · cases h; simpa using ih ‹_›
    · split_ifs at h; cases h; simp

/-- An integer converted to `size_t`. -/
def sizeT (z : Int) : Nat := (z % 2 ^ 64).toNat

theorem sizeT_of_nonneg {z : Int} (h0 : 0 ≤ z) (h : z < 2 ^ 64) : sizeT z = z.toNat := by
  rw [sizeT, Int.emod_eq_of_lt h0 h]

/-- **`strncat` onto a string that leaves room** appends the first `n` characters. -/
theorem strncat_fill {b : CharBuf} {x src : List Char} {n : Nat} (hx : '\x00' ∉ x)
    (hsrc : '\x00' ∉ src) (hcap : x.length + (src.take n).length < b.cap) :
    ∃ b', strncat (b.fill 0 (x ++ ['\x00'])) src n = .ok b' ∧ b'.cap = b.cap ∧
      b'.str = .ok (x ++ src.take n) := by
  have hstr : (b.fill 0 (x ++ ['\x00'])).str = .ok x := CharBuf.str_fill hx (by omega)
  have hset := @CharBuf.setList_of_le (b.fill 0 (x ++ ['\x00'])) x.length (src.take n ++ ['\x00'])
    (by simp only [CharBuf.fill_cap, List.length_append, List.length_singleton]; omega)
  refine ⟨(b.fill 0 (x ++ ['\x00'])).fill x.length (src.take n ++ ['\x00']),
    by simp only [strncat, hstr, Exec.ok_bind, hset], by simp, ?_⟩
  have hnul : '\x00' ∉ x ++ src.take n := by
    simp only [List.mem_append, not_or]; exact ⟨hx, fun h => hsrc (List.mem_of_mem_take h)⟩
  refine CharBuf.str_eq_of hnul (by simp only [CharBuf.fill_cap, List.length_append]; omega)
    (fun j hj => ?_) ?_
  · simp only [CharBuf.fill_get, List.length_append, List.length_singleton, Nat.zero_le,
      true_and, Nat.sub_zero]
    by_cases hjx : j < x.length
    · rw [dif_neg (by omega), dif_pos (by omega), List.getElem_append_left hjx,
        List.getElem_append_left hjx]
    · simp only [List.length_append] at hj
      rw [dif_pos (by omega), List.getElem_append_left (by omega),
        List.getElem_append_right (by omega)]
  · simp [CharBuf.fill_get]

/-! ## Decimal numerals -/

/-- The character of the decimal digit `d`. -/
def digitChar (d : Nat) : Char := Char.ofNat ('0'.toNat + d)

/-- The last `fuel` digits of the decimal numeral of `n`. -/
def decimalAux : Nat → Nat → List Char
  | 0, _ => []
  | fuel + 1, n => (if n < 10 then [] else decimalAux fuel (n / 10)) ++ [digitChar (n % 10)]

/-- **The decimal numeral of `n`**, as `printf("%u")` writes it: `n + 1` digits are more
than it has. -/
def decimal (n : Nat) : List Char := decimalAux (n + 1) n

theorem digitChar_spec {d : Nat} (h : d < 10) :
    (digitChar d).isDigit = true ∧ (digitChar d).toNat - '0'.toNat = d := by
  interval_cases d <;> decide

theorem digitsVal_append (w v : List Char) (n : Nat) :
    digitsVal (w ++ v) n = digitsVal v (digitsVal w n) := by
  induction w generalizing n <;> simp [digitsVal, *]

theorem decimalAux_spec (fuel n : Nat) (h : n < fuel) :
    decimalAux fuel n ≠ [] ∧ (∀ c ∈ decimalAux fuel n, c.isDigit = true) ∧
      digitsVal (decimalAux fuel n) 0 = n := by
  induction fuel generalizing n with
  | zero => omega
  | succ fuel ih =>
    have hd := digitChar_spec (Nat.mod_lt n (by decide : 10 > 0))
    rw [decimalAux]
    split_ifs with h10
    · rw [Nat.mod_eq_of_lt h10] at hd ⊢
      refine ⟨by simp, by simpa using hd.1, ?_⟩
      simp only [List.nil_append, digitsVal, Nat.mul_zero, Nat.zero_add, hd.2]
    · obtain ⟨-, hall, hval⟩ := ih (n / 10) (by omega)
      refine ⟨by simp, fun c hc => ?_, ?_⟩
      · simp only [List.mem_append, List.mem_singleton] at hc
        rcases hc with hc | rfl
        · exact hall c hc
        · exact hd.1
      · rw [digitsVal_append, hval]
        simp only [digitsVal, hd.2]
        omega

theorem decimal_spec (n : Nat) :
    decimal n ≠ [] ∧ (∀ c ∈ decimal n, c.isDigit = true) ∧ digitsVal (decimal n) 0 = n :=
  decimalAux_spec (n + 1) n (Nat.lt_succ_self n)

/-! ## `sscanf` on the lines of a descriptor -/

theorem isSpace_of_isDigit {c : Char} (h : c.isDigit = true) : isSpace c = false := by
  simp only [Char.isDigit, Bool.and_eq_true, decide_eq_true_eq] at h
  simp only [isSpace, Bool.or_eq_false_iff, beq_eq_false_iff_ne, ne_eq]
  refine ⟨⟨⟨⟨⟨?_, ?_⟩, ?_⟩, ?_⟩, ?_⟩, ?_⟩ <;> rintro rfl <;> simp at h

/-- A numeral holds neither a NUL nor a newline. -/
theorem decimal_ctrl_free (n : Nat) : '\x00' ∉ decimal n ∧ '\n' ∉ decimal n := by
  have hall := (decimal_spec n).2.1
  exact ⟨fun h => by simpa [Char.isDigit] using hall _ h, fun h => by simpa [Char.isDigit] using hall _ h⟩

theorem sscanf_lits (w : List Char) (f : List ScanDirective) (s : List Char) :
    sscanf (w.map .lit ++ f) (w ++ s) = sscanf f s := by
  induction w <;> simp [sscanf, *]

theorem dropWhile_isSpace_decimal (n : Nat) (s : List Char) :
    (decimal n ++ s).dropWhile isSpace = decimal n ++ s := by
  obtain ⟨hne, hall, -⟩ := decimal_spec n
  obtain ⟨d, ds, hd⟩ := List.exists_cons_of_ne_nil hne
  rw [hd, List.cons_append,
    List.dropWhile_cons_of_neg (by simp [isSpace_of_isDigit (hall d (by simp [hd]))])]

/-- **A numeral followed by a non-digit is read whole.** -/
theorem scanNumeral_decimal (n : Nat) (rest : List Char)
    (hrest : ∀ c ∈ rest.head?, c.isDigit = false) :
    scanNumeral (decimal n ++ rest) = some (false, n, rest) := by
  obtain ⟨hne, hall, hval⟩ := decimal_spec n
  obtain ⟨d, ds, hd⟩ := List.exists_cons_of_ne_nil hne
  have hdig : d.isDigit = true := hall d (by simp [hd])
  have htake : (decimal n ++ rest).takeWhile Char.isDigit = decimal n := by
    rw [List.takeWhile_append_of_pos hall]
    cases rest with
    | nil => simp
    | cons c rest => simp [List.takeWhile_cons_of_neg, hrest c]
  have hdrop : (decimal n ++ rest).dropWhile Char.isDigit = rest := by
    rw [List.dropWhile_append_of_pos hall]
    cases rest with
    | nil => rfl
    | cons c rest => simp [List.dropWhile_cons_of_neg, hrest c]
  have hsign : numeralSign ((decimal n ++ rest).dropWhile isSpace) = (false, decimal n ++ rest) := by
    have h1 : d ≠ '-' := by rintro rfl; simp [Char.isDigit] at hdig
    have h2 : d ≠ '+' := by rintro rfl; simp [Char.isDigit] at hdig
    rw [dropWhile_isSpace_decimal, hd]
    simp [numeralSign, h1, h2]
  simp only [scanNumeral, hsign, htake, hdrop]
  rw [hd]
  rw [← hd, hval]

/-- A count line, `key` then a numeral, is read by `key "%zu"`. -/
theorem sscanf_countFmt {key : String} {w : List Char} (hk : key.toList = w ++ [' '])
    (hf : fmtText key = w.map .lit ++ [.space]) (n : Nat) :
    sscanf (countFmt key) (key.toList ++ decimal n ++ ['\n']) = [.num n] := by
  rw [countFmt, hf, hk]
  simp only [List.append_assoc, sscanf_lits, List.cons_append, List.nil_append, sscanf,
    List.dropWhile_cons_of_pos (show isSpace ' ' = true from rfl), dropWhile_isSpace_decimal,
    scanNumeral_decimal n ['\n'] (by decide)]
  simp [sscanf, toSize]

/-- A kernel line `sig - name` is read by `"%u - %500s"` when the name is a non-empty
word of at most 500 characters. -/
theorem sscanf_forEachFmt (sig : Nat) (name : List Char) (hne : name ≠ [])
    (hsp : ∀ c ∈ name, isSpace c = false) (hlen : name.length ≤ maxLine) :
    sscanf forEachFmt (decimal sig ++ " - ".toList ++ name ++ ['\n'])
      = [.num (sig % 2 ^ 32), .str name] := by
  obtain ⟨c, cs, rfl⟩ := List.exists_cons_of_ne_nil hne
  have hc : isSpace c = false := hsp c (by simp)
  have htw : (c :: (cs ++ ['\n'])).takeWhile (fun c => !isSpace c) = c :: cs := by
    rw [← List.cons_append, List.takeWhile_append_of_pos (by simpa using hsp)]; simp [isSpace]
  have hnum := scanNumeral_decimal sig (' ' :: '-' :: ' ' :: (c :: cs ++ ['\n']))
    (by simp [Char.isDigit])
  simp only [List.append_assoc, forEachFmt, fmtText, List.singleton_append,
    show " - ".toList = [' ', '-', ' '] from rfl, List.cons_append, List.nil_append,
    List.map, sscanf] at hnum ⊢
  rw [hnum]
  have htake : (c :: cs).take maxLine = c :: cs := List.take_of_length_le hlen
  have hdrop : (c :: (cs ++ ['\n'])).dropWhile isSpace = c :: (cs ++ ['\n']) :=
    List.dropWhile_cons_of_neg (by simp [hc])
  simp only [toUnsigned, ite_false, Bool.false_eq_true, ite_true, sscanf,
    List.dropWhile_cons_of_pos (show isSpace ' ' = true from rfl), hdrop, htw, htake]

/-! ## What `sscanf` can take from a line -/

theorem scanNumeral_suffix {s t : List Char} {neg : Bool} {d : Nat}
    (h : scanNumeral s = some (neg, d, t)) : t <:+ s ∧ t.length < s.length := by
  have hsign : ∀ x, (numeralSign x).2 <:+ x := by
    intro x; rcases x with _ | ⟨c, x⟩ <;> simp only [numeralSign] <;> try split_ifs
    all_goals first | exact List.suffix_refl _ | exact List.suffix_cons _ _
  simp only [scanNumeral] at h
  split at h
  · cases h
  · rename_i hne
    cases h
    set u := (numeralSign (s.dropWhile isSpace)).2
    have hu : u <:+ s := (hsign _).trans (List.dropWhile_suffix _)
    have h1 := congrArg List.length (List.takeWhile_append_dropWhile Char.isDigit u)
    have h2 : 0 < (u.takeWhile Char.isDigit).length := List.length_pos.mpr hne
    rw [List.length_append] at h1
    exact ⟨(List.dropWhile_suffix _).trans hu, by have := hu.length_le; omega⟩

theorem sscanf_s_token {w : Nat} {s tok : List Char} {vs : List ScanValue}
    (h : sscanf [.s w] s = .str tok :: vs) : tok <:+: s := by
  simp only [sscanf] at h
  split at h
  · cases h
  · simp only [List.cons.injEq, ScanValue.str.injEq] at h
    obtain ⟨rfl, -⟩ := h
    exact ((List.take_prefix _ _).trans (List.takeWhile_prefix _)).isInfix.trans
      (List.dropWhile_suffix _).isInfix

/-- **A kernel's token is at most the line less two characters**: `%u` reads a digit and
`" - "` a dash before `%500s` starts. -/
theorem sscanf_forEachFmt_token {s tok : List Char} {a : Nat}
    (h : sscanf forEachFmt s = [.num a, .str tok]) : tok.length + 2 ≤ s.length ∧ tok ⊆ s := by
  rw [show forEachFmt = [.u, .space, .lit '-', .space, .s maxLine] from rfl] at h
  simp only [sscanf] at h
  split at h
  · rename_i t hn
    obtain ⟨hts, htl⟩ := scanNumeral_suffix hn
    simp only [List.cons.injEq, true_and] at h
    obtain ⟨-, h⟩ := h
    cases heq : t.dropWhile isSpace with
    | nil => rw [heq] at h; cases h
    | cons c u =>
      rw [heq] at h
      simp only [sscanf] at h
      split_ifs at h with hc
      subst hc
      have hsuf := List.dropWhile_suffix isSpace (l := t)
      rw [heq] at hsuf
      have hu : u <:+ t := (List.suffix_cons _ _).trans hsuf
      have hul : u.length < t.length := by have := hsuf.length_le; simp at this; omega
      have htok := sscanf_s_token h
      have hinf : tok <:+: s := htok.trans ((List.dropWhile_suffix _).trans (hu.trans hts)).isInfix
      have : tok.length ≤ u.length := htok.length_le.trans (List.dropWhile_suffix _).length_le
      exact ⟨by omega, hinf.subset⟩
  · cases h
/-- An object-slot line is read by `"%u"`. -/
theorem sscanf_slotFmt (v : Nat) :
    sscanf slotFmt (decimal v ++ ['\n']) = [.num (v % 2 ^ 32)] := by
  simp [slotFmt, sscanf, scanNumeral_decimal v ['\n'] (by decide), toUnsigned]

end RsCpuScript
