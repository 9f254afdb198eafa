import Mathlib.Data.Nat.Basic
import Mathlib.Algebra.Order.Group.Int
import Mathlib.Tactic.Ring

namespace Ocxxr.ByteMemory

abbrev Memory := Int → BitVec 8

/-- The number in the `n` bytes from `p`, the least significant first. -/
def load (mem : Memory) (p : Int) : Nat → Nat
  | 0 => 0
  | n + 1 => (mem p).toNat + 256 * load mem (p + 1) n

def store (mem : Memory) (p : Int) (n v : Nat) : Memory := fun q =>
  if p ≤ q ∧ q < p + n then BitVec.ofNat 8 (v / 256 ^ (q - p).toNat) else mem q

def SameOutside (mem mem' : Memory) (p : Int) (n : Nat) : Prop :=
  ∀ q, q < p ∨ p + n ≤ q → mem' q = mem q

def Copied (mem : Memory) (a : Int) (mem' : Memory) (b : Int) (n : Nat) : Prop :=
  ∀ k : Nat, k < n → mem' (b + k) = mem (a + k)

variable {mem mem' mem'' : Memory} {a b p : Int} {n : Nat}

theorem load_eq_mod {v : Nat} (h : ∀ k : Nat, k < n → (mem (p + k)).toNat = v / 256 ^ k % 256) :
    load mem p n = v % 256 ^ n := by
  induction n generalizing p v with
  | zero => simp [load, Nat.mod_one]
  | succ n ih =>
      have hbyte : (mem p).toNat = v % 256 := by simpa using h 0 (Nat.succ_pos n)
      have hrest : load mem (p + 1) n = v / 256 % 256 ^ n := by
        apply ih
        intro k hk
        have hk' := h (k + 1) (by omega)
        rwa [Nat.pow_succ', ← Nat.div_div_eq_div_mul, Nat.cast_succ, Int.add_comm (k : Int) 1,
          ← Int.add_assoc] at hk'
      rw [load, hbyte, hrest, Nat.pow_succ', Nat.mod_mul]

theorem load_store (mem : Memory) (p : Int) (n v : Nat) : load (store mem p n v) p n = v % 256 ^ n := by
  apply load_eq_mod
  intro k hk
  have hin : p ≤ p + k ∧ p + k < p + n := by omega
  have hindex : (p + k - p).toNat = k := by omega
  rw [store, if_pos hin, hindex, BitVec.toNat_ofNat]

theorem store_sameOutside (mem : Memory) (p : Int) (n v : Nat) : SameOutside mem (store mem p n v) p n := by
  intro q hq
  rw [store, if_neg (by omega)]

theorem load_congr (h : ∀ k : Nat, k < n → mem' (b + k) = mem (a + k)) : load mem' b n = load mem a n := by
  induction n generalizing a b with
  | zero => rfl
  | succ n ih =>
      have hbyte : mem' b = mem a := by simpa using h 0 (Nat.succ_pos n)
      have hrest : load mem' (b + 1) n = load mem (a + 1) n := by
        apply ih
        intro k hk
        have hk' := h (k + 1) (by omega)
        simpa [Int.add_assoc, Int.add_comm 1] using hk'
      rw [load, load, hbyte, hrest]

theorem load_copied {size : Nat} (h : Copied mem a mem' b size) {o : Int} (h0 : 0 ≤ o) (hn : o + n ≤ size) :
    load mem' (b + o) n = load mem (a + o) n := by
  apply load_congr
  intro k hk
  have hk' := h (o.toNat + k) (by omega)
  have ho : ((o.toNat + k : Nat) : Int) = o + k := by omega
  rwa [ho, ← Int.add_assoc, ← Int.add_assoc] at hk'

theorem load_outside {m : Nat} (h : SameOutside mem mem' a m) (hapart : p + n ≤ a ∨ a + m ≤ p) :
    load mem' p n = load mem p n := by
  apply load_congr
  intro k hk
  exact h _ (by omega)

theorem load_lt (mem : Memory) (p : Int) (n : Nat) : load mem p n < 256 ^ n := by
  induction n generalizing p with
  | zero => simp [load]
  | succ n ih =>
      have hbyte := (mem p).isLt
      have hrest := ih (p + 1)
      rw [load, Nat.pow_succ']
      omega

theorem copied_zero : Copied mem a mem' b 0 := by
  intro k hk
  omega

theorem copied_succ (hbyte : mem' b = mem a) (hrest : Copied mem (a + 1) mem' (b + 1) n) :
    Copied mem a mem' b (n + 1) := by
  intro k hk
  cases k with
  | zero => simpa using hbyte
  | succ k =>
      have hk' := hrest k (by omega)
      simpa [Int.add_assoc, Int.add_comm 1] using hk'

theorem copied_append {m : Nat} (hfront : Copied mem a mem' b n) (hback : Copied mem (a + n) mem' (b + n) m) :
    Copied mem a mem' b (n + m) := by
  intro k hk
  by_cases hn : k < n
  · exact hfront k hn
  · have hk' := hback (k - n) (by omega)
    have hsplit : (n : Int) + (k - n : Nat) = k := by omega
    rwa [Int.add_assoc, Int.add_assoc, hsplit] at hk'

/-- A number determines the bytes that it is read from. -/
theorem copied_of_load (h : load mem' b n = load mem a n) : Copied mem a mem' b n := by
  induction n generalizing a b with
  | zero => exact copied_zero
  | succ n ih =>
      have hlow := (mem' b).isLt
      have hlow' := (mem a).isLt
      simp only [load] at h
      refine copied_succ (BitVec.eq_of_toNat_eq ?_) (ih ?_)
      · omega
      · omega

def span (p : Int) : Nat → List Int
  | 0 => []
  | n + 1 => p :: span (p + 1) n

theorem mem_span {q : Int} : q ∈ span p n ↔ p ≤ q ∧ q < p + n := by
  induction n generalizing p with
  | zero =>
      simp only [span, List.not_mem_nil, false_iff]
      omega
  | succ n ih =>
      rw [span, List.mem_cons, ih]
      omega

theorem span_append (p : Int) (m n : Nat) : span p m ++ span (p + m) n = span p (m + n) := by
  induction m generalizing p with
  | zero => simp [span]
  | succ m ih =>
      have hrest := ih (p + 1)
      rw [Int.add_assoc, Int.add_comm 1] at hrest
      rw [Nat.succ_add, span, span, List.cons_append, Nat.cast_succ, hrest]

def ofBytes : List (BitVec 8) → Nat
  | [] => 0
  | byte :: rest => byte.toNat + 256 * ofBytes rest

theorem ofBytes_span (mem : Memory) (p : Int) (n : Nat) : ofBytes ((span p n).map mem) = load mem p n := by
  induction n generalizing p with
  | zero => rfl
  | succ n ih => rw [span, List.map_cons, ofBytes, ih, load]

theorem map_span_eq_iff : (span b n).map mem' = (span a n).map mem ↔ Copied mem a mem' b n := by
  induction n generalizing a b with
  | zero => exact iff_of_true rfl copied_zero
  | succ n ih =>
      rw [span, span, List.map_cons, List.map_cons, List.cons.injEq, ih]
      constructor
      · rintro ⟨hbyte, hrest⟩
        exact copied_succ hbyte hrest
      · intro h
        refine ⟨by simpa using h 0 (Nat.succ_pos n), ?_⟩
        intro k hk
        have hk' := h (k + 1) (by omega)
        simpa [Int.add_assoc, Int.add_comm 1] using hk'

end Ocxxr.ByteMemory
