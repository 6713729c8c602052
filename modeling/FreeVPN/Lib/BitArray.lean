import Mathlib.Data.Nat.Init

/-!
# Arrays of bits

The bits of a list of bytes: bit `i` is bit `i % 8` of byte `i / 8`, as C programs index a bit field.
`setBit` and `clearBit` change one bit, and `bit_setBit` and `bit_clearBit` say that the others stay.

`bit_push` is about the bits as a ring, which is read from a base on: the base moves back, its bit is set, and
the bits in between are cleared.
-/

namespace FreeVPN.Lib

/-- Bit `i`. -/
def bit (bytes : List (BitVec 8)) (i : ℕ) : Bool := (bytes.getD (i / 8) 0).getLsbD (i % 8)

/-- The bytes with bit `i` set. -/
def setBit (bytes : List (BitVec 8)) (i : ℕ) : List (BitVec 8) := bytes.modify (i / 8) (· ||| 1#8 <<< (i % 8))

/-- The bytes with bit `i` cleared. -/
def clearBit (bytes : List (BitVec 8)) (i : ℕ) : List (BitVec 8) :=
  bytes.modify (i / 8) (· &&& ~~~(1#8 <<< (i % 8)))

@[simp] lemma length_setBit (bytes : List (BitVec 8)) (i : ℕ) : (setBit bytes i).length = bytes.length := by
  simp [setBit]

@[simp] lemma length_clearBit (bytes : List (BitVec 8)) (i : ℕ) : (clearBit bytes i).length = bytes.length := by
  simp [clearBit]

lemma getLsbD_mask : ∀ i j : Fin 8, (1#8 <<< i.val).getLsbD j = decide (i.val = j.val) := by decide

lemma getD_modify (bytes : List (BitVec 8)) (f : BitVec 8 → BitVec 8) {i : ℕ} (hi : i < bytes.length) (j : ℕ) :
    (bytes.modify i f).getD j 0 = if i = j then f (bytes.getD j 0) else bytes.getD j 0 := by
  rw [List.getD_eq_getElem?_getD, List.getD_eq_getElem?_getD, List.getElem?_modify]
  by_cases h : i = j
  · subst h
    simp [List.getElem?_eq_getElem hi]
  · simp [h]

/-- An index is known by the byte and the place in it. -/
lemma eq_iff_div_mod (i j : ℕ) : i = j ↔ i / 8 = j / 8 ∧ i % 8 = j % 8 := by omega

lemma getLsbD_shiftLeft_one (i j : ℕ) : (1#8 <<< (i % 8)).getLsbD (j % 8) = decide (i % 8 = j % 8) := by
  exact getLsbD_mask ⟨i % 8, Nat.mod_lt _ (by decide)⟩ ⟨j % 8, Nat.mod_lt _ (by decide)⟩

lemma bit_setBit {bytes : List (BitVec 8)} {i : ℕ} (hi : i < 8 * bytes.length) (j : ℕ) :
    bit (setBit bytes i) j = (decide (i = j) || bit bytes j) := by
  rw [bit, setBit, getD_modify _ _ (by omega)]
  by_cases hd : i / 8 = j / 8
  · rw [if_pos hd, BitVec.getLsbD_or, getLsbD_shiftLeft_one, Bool.or_comm, bit]
    simp [eq_iff_div_mod i j, hd]
  · rw [if_neg hd, bit]
    simp [eq_iff_div_mod i j, hd]

lemma bit_clearBit {bytes : List (BitVec 8)} {i : ℕ} (hi : i < 8 * bytes.length) (j : ℕ) :
    bit (clearBit bytes i) j = (!decide (i = j) && bit bytes j) := by
  rw [bit, clearBit, getD_modify _ _ (by omega)]
  by_cases hd : i / 8 = j / 8
  · rw [if_pos hd, BitVec.getLsbD_and, BitVec.getLsbD_not, getLsbD_shiftLeft_one, Bool.and_comm, bit]
    simp [eq_iff_div_mod i j, hd, Nat.mod_lt]
  · rw [if_neg hd, bit]
    simp [eq_iff_div_mod i j, hd]

/-- Bytes that are zero have no bit set. -/
@[simp] lemma bit_replicate_zero (n i : ℕ) : bit (List.replicate n 0) i = false := by
  rw [bit, List.getD_eq_getElem?_getD, List.getElem?_replicate]
  split <;> simp

@[simp] lemma length_foldl_clearBit (bytes : List (BitVec 8)) (indices : List ℕ) :
    (indices.foldl clearBit bytes).length = bytes.length := by
  induction indices generalizing bytes with
  | nil => rfl
  | cons i indices ih => rw [List.foldl_cons, ih, length_clearBit]

/-- Clearing a range of bits one after the other. -/
lemma bit_foldl_clearBit {bytes : List (BitVec 8)} (indices : List ℕ) (hi : ∀ i ∈ indices, i < 8 * bytes.length)
    (j : ℕ) : bit (indices.foldl clearBit bytes) j = (!decide (j ∈ indices) && bit bytes j) := by
  induction indices generalizing bytes with
  | nil => simp
  | cons i indices ih =>
    rw [List.foldl_cons, ih (fun k hk => by simpa using hi k (List.mem_cons_of_mem _ hk)),
      bit_clearBit (hi i List.mem_cons_self)]
    by_cases h : j = i <;> simp [h, eq_comm]

/-! ### Rings of bits -/

/-- A place of a ring, without the remainder. -/
lemma ring_index {base j size : ℕ} (hb : base < size) (hj : j < size) :
    (base + j) % size = if base + j < size then base + j else base + j - size := by
  split
  · rename_i h
    exact Nat.mod_eq_of_lt h
  · rename_i h
    rw [Nat.mod_eq_sub_mod (by omega), Nat.mod_eq_of_lt (by omega)]

lemma ring_index_inj {base i j size : ℕ} (hb : base < size) (hi : i < size) (hj : j < size) :
    (base + i) % size = (base + j) % size ↔ i = j := by
  rw [ring_index hb hi, ring_index hb hj]
  constructor
  · intro h
    split at h <;> split at h <;> omega
  · rintro rfl
    rfl

/-- The places between the new base and the old one. -/
lemma mem_ring_between {base d j size : ℕ} (hb : base < size) (hd : d < size) (hj : j < size) :
    (base + j) % size ∈ (List.range' 1 (d - 1)).map (fun i => (base + i) % size) ↔ 0 < j ∧ j < d := by
  simp only [List.mem_map, List.mem_range'_1]
  constructor
  · rintro ⟨i, hi, h⟩
    rw [ring_index_inj hb (by omega) hj] at h
    omega
  · rintro ⟨h₀, h⟩
    exact ⟨j, by omega, rfl⟩

/-- **A ring of bits that is moved.**  The new base is set, the places between it and the old base are clear,
and all else is what it was. -/
lemma bit_push {bytes : List (BitVec 8)} {base base' d : ℕ} (hb : base' < 8 * bytes.length)
    (hd' : d < 8 * bytes.length) (hbase : base = (base' + d) % (8 * bytes.length)) {j : ℕ}
    (hj : j < 8 * bytes.length) :
    bit (((List.range' 1 (d - 1)).map fun i => (base' + i) % (8 * bytes.length)).foldl clearBit
        (setBit bytes base')) ((base' + j) % (8 * bytes.length)) =
      if j = 0 then true else if j < d then false else bit bytes ((base + (j - d)) % (8 * bytes.length)) := by
  have hpos : 0 < 8 * bytes.length := by omega
  rw [bit_foldl_clearBit _ (by
      simp only [List.mem_map, length_setBit]
      rintro _ ⟨i, -, rfl⟩
      exact Nat.mod_lt _ hpos), bit_setBit hb]
  simp only [mem_ring_between hb hd' hj]
  by_cases h₀ : j = 0
  · subst h₀
    simp [Nat.mod_eq_of_lt hb]
  · have hne : base' ≠ (base' + j) % (8 * bytes.length) := by
      intro h
      have := (ring_index_inj hb hpos hj).1 (by rw [Nat.add_zero, Nat.mod_eq_of_lt hb]; exact h)
      omega
    rw [if_neg h₀]
    by_cases hjd : j < d
    · simp [hne, hjd, Nat.pos_of_ne_zero h₀]
    · have hindex : (base + (j - d)) % (8 * bytes.length) = (base' + j) % (8 * bytes.length) := by
        rw [hbase, Nat.mod_add_mod]
        congr 1
        omega
      simp [hne, hjd, hindex]

/-- One bit of a ring is set. -/
lemma bit_setBit_ring {bytes : List (BitVec 8)} {base i j : ℕ} (hb : base < 8 * bytes.length)
    (hi : i < 8 * bytes.length) (hj : j < 8 * bytes.length) :
    bit (setBit bytes ((base + i) % (8 * bytes.length))) ((base + j) % (8 * bytes.length)) =
      (decide (i = j) || bit bytes ((base + j) % (8 * bytes.length))) := by
  rw [bit_setBit (Nat.mod_lt _ (by omega))]
  simp only [ring_index_inj hb hi hj]

/-- A ring whose first bit alone is set. -/
lemma bit_set_zero {n j : ℕ} (hn : 0 < n) (hj : j < 8 * n) :
    bit ((List.replicate n 0).set 0 1) j = decide (j = 0) := by
  have h : (List.replicate n (0 : BitVec 8)).set 0 1 = setBit (List.replicate n 0) 0 := by
    obtain ⟨m, rfl⟩ := Nat.exists_eq_succ_of_ne_zero (Nat.pos_iff_ne_zero.1 hn)
    simp [setBit, List.replicate_succ]
  rw [h, bit_setBit (by simpa using hn), bit_replicate_zero, Bool.or_false]
  simp [eq_comm]

end FreeVPN.Lib
