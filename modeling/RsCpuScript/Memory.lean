import Mathlib.Algebra.Order.Group.Nat
import Mathlib.Data.List.Range

/-!
# The memory the globals live in

The globals a script shares with the runtime are bytes. `setGlobalVar` and
`getGlobalVar` copy them with `memcpy`; `setGlobalBind` copies a pointer into a global
with `memcpy(destPtr, &ptr, sizeof(void *))`; `rsrSetObject` and `rsrClearObject` read and
write an object handle through an `ObjectBase **`. This module models that memory, a
byte per address, the two copies on it, and a pointer as `ptrSize = sizeof(void *)`
bytes, least significant first, as on the little-endian targets the runtime is built for.

A pointer reads back where it was stored (`Memory.loadPtr_storePtr_self`), and a store
leaves every pointer that lies apart from it (`Memory.loadPtr_storePtr_of_apart`). The
variables lie apart when `Separate` holds of their addresses and sizes.
-/

namespace RsCpuScript

/-! ## Bytes -/

/-- **The process memory**, a byte per address. -/
abbrev Memory := Nat → UInt8

/-- `memcpy(dst, src, bytes.length)` into memory, from a source holding `bytes`. -/
def Memory.copyIn (m : Memory) (dst : Nat) (bytes : List UInt8) : Memory :=
  fun a => if dst ≤ a ∧ a < dst + bytes.length then bytes.getD (a - dst) 0 else m a

/-- The `n` bytes of memory from `src`. -/
def Memory.bytes (m : Memory) (src n : Nat) : List UInt8 := (List.range n).map fun i => m (src + i)

@[simp] theorem Memory.length_bytes (m : Memory) (src n : Nat) : (m.bytes src n).length = n := by
  simp [Memory.bytes]

/-- A copy leaves every byte outside the range it writes. -/
theorem Memory.copyIn_of_not_mem (m : Memory) {dst a : Nat} (bs : List UInt8)
    (h : a < dst ∨ dst + bs.length ≤ a) : m.copyIn dst bs a = m a :=
  if_neg (by omega)

/-- **A copy reads back**: after copying `bs` to `a`, the bytes at `a` are `bs`. -/
theorem Memory.bytes_copyIn_self (m : Memory) (a : Nat) (bs : List UInt8) :
    (m.copyIn a bs).bytes a bs.length = bs := by
  apply List.ext_getElem (by simp)
  intro i h _
  simp only [Memory.length_bytes] at h
  simp [Memory.bytes, Memory.copyIn, h]

/-- **A copy elsewhere leaves the bytes**: copying `bs` to `a` leaves the `n` bytes at `b`
when the two lie apart. -/
theorem Memory.bytes_copyIn_of_apart (m : Memory) {a b n : Nat} (bs : List UInt8)
    (h : b + n ≤ a ∨ a + bs.length ≤ b) : (m.copyIn a bs).bytes b n = m.bytes b n := by
  refine List.map_congr_left fun i hi => ?_
  rw [List.mem_range] at hi
  exact m.copyIn_of_not_mem bs (by omega)

/-! ## Pointers -/

/-- The `w` bytes of `n`, least significant first: `n` cut to a `w`-byte word. -/
def toLE : Nat → Nat → List UInt8
  | 0, _ => []
  | w + 1, n => UInt8.ofNat n :: toLE w (n / 256)

/-- The number whose bytes, least significant first, are `bs`. -/
def ofLE : List UInt8 → Nat
  | [] => 0
  | b :: bs => b.toNat + 256 * ofLE bs

@[simp] theorem length_toLE : ∀ w n, (toLE w n).length = w
  | 0, _ => rfl
  | w + 1, n => by simp [toLE, length_toLE w]

theorem ofLE_toLE : ∀ w n, ofLE (toLE w n) = n % 256 ^ w
  | 0, n => by simp [toLE, ofLE, Nat.mod_one]
  | w + 1, n => by
    rw [toLE, ofLE, ofLE_toLE w, pow_succ', Nat.mod_mul]
    rfl

theorem ofLE_lt : ∀ bs : List UInt8, ofLE bs < 256 ^ bs.length
  | [] => by simp [ofLE]
  | b :: bs => by
    have := ofLE_lt bs
    have hb : b.toNat < 256 := b.toNat_lt_size
    rw [ofLE, List.length_cons, pow_succ']
    omega

/-- `*(void **)a = v`, that is `memcpy(a, &v, sizeof(void *))`, for pointers of `ptrSize`
bytes. -/
def Memory.storePtr (m : Memory) (ptrSize a v : Nat) : Memory := m.copyIn a (toLE ptrSize v)

/-- `*(void **)a`, the pointer of `ptrSize` bytes at `a`. -/
def Memory.loadPtr (m : Memory) (ptrSize a : Nat) : Nat := ofLE (m.bytes a ptrSize)

section Pointers

variable (m : Memory) {w a b v : Nat}

theorem Memory.bytes_storePtr_self : (m.storePtr w a v).bytes a w = toLE w v := by
  simpa using m.bytes_copyIn_self a (toLE w v)

/-- **A pointer reads back** where it was stored, when it fits in a pointer. -/
@[simp] theorem Memory.loadPtr_storePtr_self (h : v < 256 ^ w) :
    (m.storePtr w a v).loadPtr w a = v := by
  rw [Memory.loadPtr, Memory.bytes_storePtr_self, ofLE_toLE, Nat.mod_eq_of_lt h]

/-- **A store leaves the pointers apart from it.** -/
theorem Memory.loadPtr_storePtr_of_apart (h : b + w ≤ a ∨ a + w ≤ b) :
    (m.storePtr w a v).loadPtr w b = m.loadPtr w b := by
  rw [Memory.loadPtr, Memory.storePtr, Memory.bytes_copyIn_of_apart m _ (by simpa using h)]
  rfl

theorem Memory.loadPtr_lt : m.loadPtr w a < 256 ^ w := by
  simpa using ofLE_lt (m.bytes a w)

end Pointers

/-! ## Variables that lie apart -/

/-- **The variables do not overlap**: for two different slots whose addresses resolved,
the `size` bytes of each lie apart. -/
def Separate (addrs : List (Option Nat)) (size : Nat → Nat) : Prop :=
  ∀ (i j a b : Nat), i ≠ j → addrs[i]? = some (some a) → addrs[j]? = some (some b) →
    a + size i ≤ b ∨ b + size j ≤ a

/-- Two different addresses of variables of `w` bytes lie apart. -/
theorem Separate.apart {addrs : List (Option Nat)} {w : Nat} (h : Separate addrs fun _ => w)
    {a b : Nat} (ha : some a ∈ addrs) (hb : some b ∈ addrs) (hab : a ≠ b) :
    a + w ≤ b ∨ b + w ≤ a := by
  obtain ⟨i, hi, ea⟩ := List.getElem_of_mem ha
  obtain ⟨j, hj, eb⟩ := List.getElem_of_mem hb
  refine h i j a b (fun e => hab ?_) (by simp [hi, ea]) (by simp [hj, eb])
  subst e
  exact Option.some.inj (ea.symm.trans eb)

end RsCpuScript
