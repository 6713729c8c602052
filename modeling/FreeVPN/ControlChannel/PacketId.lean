import Mathlib.Data.Nat.Bitwise
import Mathlib.Data.List.Chain
import Mathlib.Order.Monotone.Basic
import FreeVPN.ControlChannel.Buffer
import FreeVPN.Lib.BitArray
import FreeVPN.Lib.ReplayWindow

/-!
# Packet ids

Packets that are authenticated carry an id, so that none is accepted twice: `PacketIDSend` numbers them, and
`PacketIDReceive` keeps a bit for each of the last ids below the highest one that has come.

* `doTestAdd` — the check of an id, on the ring of bits;
* `Represents` — what the bits stand for, and `doTestAdd_step`, which takes one check to one step of
  `ExpiringWindow`;
* `decisions_eq` — the ring decides as the set of the accepted ids would, over any run;
* `no_replay`, `mem_accepted_iff_of_inWindow` — no id is accepted twice, and those that come inside the window are.
-/

namespace FreeVPN.ControlChannel

open FreeVPN.Lib

/-! ### Ids -/

/-- `PacketID` -/
structure PacketID where
  /-- Legal values are 1 through 2^32-1. -/
  id : BitVec 32 := 0
  time : ℕ := 0
  deriving DecidableEq

/-- `SHORT_FORM` has four bytes, `LONG_FORM` eight. -/
inductive Form
  | short
  | long
  deriving DecidableEq

/-- `is_valid` -/
def PacketID.isValid (pid : PacketID) : Bool := pid.id != 0

lemma PacketID.not_isValid_iff (pid : PacketID) : (!pid.isValid) = true ↔ pid.id = 0 := by
  rw [PacketID.isValid, Bool.not_eq_true', bne_eq_false_iff_eq]

/-- The errors of `do_test_add`. -/
inductive PktidError
  | success
  | invalid
  | backtrack
  | expire
  | replay
  | timeBacktrack
  deriving DecidableEq

/-! ### The receiving side -/

section Receive

variable (ORDER EXPIRE : ℕ)

/-- `REPLAY_WINDOW_BYTES` -/
def replayWindowBytes : BitVec 32 := 1#32 <<< ORDER

/-- `REPLAY_WINDOW_SIZE` -/
def replayWindowSize : BitVec 32 := replayWindowBytes ORDER * 8

/-- `PacketIDReceiveType`, after `init`. -/
structure PacketIDReceive where
  /-- Bit position of deque base in `history`. -/
  base : BitVec 32 := 0
  /-- Extent, in bits, of deque in `history`. -/
  extent : BitVec 32 := 0
  expire : ℕ := 0
  idHigh : BitVec 32 := 0
  timeHigh : ℕ := 0
  idFloor : BitVec 32 := 0
  maxBacktrack : BitVec 32 := 0
  history : List (BitVec 8) := List.replicate (replayWindowBytes ORDER).toNat 0

variable {ORDER}

namespace PacketIDReceive

/-- `REPLAY_INDEX` -/
def replayIndex (s : PacketIDReceive ORDER) (i : BitVec 32) : BitVec 32 :=
  (s.base + i) &&& (replayWindowSize ORDER - 1)

/-- Expire backtracks at or below `id_floor`. -/
def expireBacktracks (s : PacketIDReceive ORDER) (now : ℕ) : PacketIDReceive ORDER :=
  { s with idFloor := if s.expire ≤ now then s.idHigh else s.idFloor, expire := now + EXPIRE }

/-- Time moved forward. -/
def startEpoch (s : PacketIDReceive ORDER) (time : ℕ) : PacketIDReceive ORDER :=
  { s with base := 0, extent := 0, idHigh := 0, timeHigh := time, idFloor := 0 }

/-- A well-formed id sequence, incremented by 1. -/
def addNext (s : PacketIDReceive ORDER) (id : BitVec 32) : PacketIDReceive ORDER :=
  let base := s.replayIndex (-1)
  { s with
    base
    history := setBit s.history base.toNat
    extent := if s.extent < replayWindowSize ORDER then s.extent + 1 else s.extent
    idHigh := id }

/-- The id jumped forward by more than one. -/
def addJump (s : PacketIDReceive ORDER) (id : BitVec 32) : PacketIDReceive ORDER :=
  let delta := id - s.idHigh
  if delta < replayWindowSize ORDER then
    let base := s.replayIndex (-delta)
    let extent := s.extent + delta
    let s : PacketIDReceive ORDER := { s with
      base
      history := setBit s.history base.toNat
      extent := if replayWindowSize ORDER < extent then replayWindowSize ORDER else extent }
    { s with
      history := ((List.range' 1 (delta.toNat - 1)).map fun i => (s.replayIndex (BitVec.ofNat 32 i)).toNat).foldl
        clearBit s.history
      idHigh := id }
  else
    { s with
      base := 0
      extent := replayWindowSize ORDER
      history := (List.replicate (replayWindowBytes ORDER).toNat 0).set 0 1
      idHigh := id }

/-- The longest way back so far. -/
def noteBacktrack (s : PacketIDReceive ORDER) (id : BitVec 32) : PacketIDReceive ORDER :=
  let delta := s.idHigh - id
  { s with maxBacktrack := if s.maxBacktrack < delta then delta else s.maxBacktrack }

/-- Id backtrack: the id is not above the highest one. -/
def addBack (s : PacketIDReceive ORDER) (id : BitVec 32) (mod : Bool) : PktidError × PacketIDReceive ORDER :=
  if s.idHigh - id < s.extent then
    if s.idFloor < id then
      if bit s.history (s.replayIndex (s.idHigh - id)).toNat then (.replay, s)
      else if !mod then (.success, s)
      else (.success, { s with history := setBit s.history (s.replayIndex (s.idHigh - id)).toNat })
    else (.expire, s)
  else (.backtrack, s)

/-- `do_test_add` from the place on where the time is that of the window. -/
def addInEpoch (s : PacketIDReceive ORDER) (pin : PacketID) (mod : Bool) : PktidError × PacketIDReceive ORDER :=
  if pin.id = s.idHigh + 1 then
    if !mod then (.success, s) else (.success, s.addNext pin.id)
  else if s.idHigh < pin.id then
    if !mod then (.success, s) else (.success, s.addJump pin.id)
  else (s.noteBacktrack pin.id).addBack pin.id mod

/-- `do_test_add`; the history is not modified unless `mod` is true. -/
def doTestAdd (s : PacketIDReceive ORDER) (pin : PacketID) (now : ℕ) (mod : Bool) :
    PktidError × PacketIDReceive ORDER :=
  let s := s.expireBacktracks EXPIRE now
  if !pin.isValid then (.invalid, s)
  else if pin.time ≠ s.timeHigh then
    if s.timeHigh < pin.time then
      if !mod then (.success, s) else (s.startEpoch pin.time).addInEpoch pin mod
    else (.timeBacktrack, s)
  else s.addInEpoch pin mod

/-! ### What the bits stand for -/

/-- The window in bits stands for the window with the set of the accepted ids. -/
structure Represents (s : PacketIDReceive ORDER) (w : ExpiringWindow) : Prop where
  length : s.history.length = (replayWindowBytes ORDER).toNat
  base : s.base.toNat < (replayWindowSize ORDER).toNat
  extent : s.extent.toNat = min w.high (replayWindowSize ORDER).toNat
  high : s.idHigh.toNat = w.high
  time : s.timeHigh = w.epoch
  floor : s.idFloor.toNat = w.floor
  expire : s.expire = w.expire
  bits : ∀ j < s.extent.toNat,
    (bit s.history ((s.base.toNat + j) % (replayWindowSize ORDER).toNat) = true ↔ w.high - j ∈ w.seen)

section Size

variable (hO : ORDER ≤ 28)
include hO

lemma toNat_replayWindowBytes : (replayWindowBytes ORDER).toNat = 2 ^ ORDER := by
  have h : 2 ^ ORDER < 2 ^ 32 := Nat.pow_lt_pow_right (by decide) (by omega)
  rw [replayWindowBytes, BitVec.toNat_shiftLeft, Nat.shiftLeft_eq]
  simpa using Nat.mod_eq_of_lt h

lemma toNat_replayWindowSize : (replayWindowSize ORDER).toNat = 2 ^ (ORDER + 3) := by
  have h : 2 ^ (ORDER + 3) < 2 ^ 32 := Nat.pow_lt_pow_right (by decide) (by omega)
  rw [replayWindowSize, BitVec.toNat_mul, toNat_replayWindowBytes hO]
  rw [Nat.pow_add] at h ⊢
  exact Nat.mod_eq_of_lt h

lemma replayWindowSize_eq : (replayWindowSize ORDER).toNat = 8 * (replayWindowBytes ORDER).toNat := by
  rw [toNat_replayWindowSize hO, toNat_replayWindowBytes hO, Nat.pow_add, Nat.mul_comm]

lemma replayWindowSize_pos : 0 < (replayWindowSize ORDER).toNat := by
  rw [toNat_replayWindowSize hO]
  exact Nat.two_pow_pos _

lemma replayWindowSize_le : (replayWindowSize ORDER).toNat ≤ 2 ^ 31 := by
  rw [toNat_replayWindowSize hO]
  exact Nat.pow_le_pow_right (by decide) (by omega)

lemma toNat_and_size (base i : BitVec 32) :
    ((base + i) &&& (replayWindowSize ORDER - 1)).toNat =
      (base.toNat + i.toNat) % (replayWindowSize ORDER).toNat := by
  have hsize := toNat_replayWindowSize hO
  have hpos := replayWindowSize_pos hO
  have hone : (replayWindowSize ORDER - 1).toNat = 2 ^ (ORDER + 3) - 1 := by
    rw [← hsize]
    bv_omega
  rw [BitVec.toNat_and, hone, Nat.and_two_pow_sub_one_eq_mod, BitVec.toNat_add, hsize]
  exact Nat.mod_mod_of_dvd _ (Nat.pow_dvd_pow 2 (by omega))

lemma toNat_replayIndex (s : PacketIDReceive ORDER) (i : BitVec 32) :
    (s.replayIndex i).toNat = (s.base.toNat + i.toNat) % (replayWindowSize ORDER).toNat :=
  toNat_and_size hO _ _

end Size

/-! ### One check -/

lemma represents_init (hO : ORDER ≤ 28) : Represents ({} : PacketIDReceive ORDER) {} where
  length := by simp
  base := replayWindowSize_pos hO
  extent := by simp [ReplayWindow.high]
  high := by simp [ReplayWindow.high]
  time := rfl
  floor := rfl
  expire := rfl
  bits := by simp

section Step

variable {s : PacketIDReceive ORDER} {w : ExpiringWindow}

lemma Represents.expireBacktracks (h : Represents s w) (now : ℕ) :
    Represents (s.expireBacktracks EXPIRE now) (w.touch EXPIRE now) where
  length := h.length
  base := h.base
  extent := h.extent
  high := h.high
  time := h.time
  floor := by
    simp only [PacketIDReceive.expireBacktracks, ExpiringWindow.touch, h.expire]
    split
    · exact h.high
    · exact h.floor
  expire := rfl
  bits := h.bits

/-- The bits that are left in the history when an epoch starts are outside the window. -/
lemma Represents.startEpoch (h : Represents s w) (time : ℕ) :
    Represents (s.startEpoch time) { w with epoch := time, seen := ∅, floor := 0 } where
  length := h.length
  base := h.base.trans_le' (Nat.zero_le _)
  extent := by simp [PacketIDReceive.startEpoch, ReplayWindow.high]
  high := by simp [PacketIDReceive.startEpoch, ReplayWindow.high]
  time := rfl
  floor := rfl
  expire := h.expire
  bits := by simp [PacketIDReceive.startEpoch]

lemma Represents.noteBacktrack (h : Represents s w) (id : BitVec 32) : Represents (s.noteBacktrack id) w where
  length := h.length
  base := h.base
  extent := h.extent
  high := h.high
  time := h.time
  floor := h.floor
  expire := h.expire
  bits := h.bits

/-- The highest id moves forward by less than the size of the window. -/
lemma Represents.push (hO : ORDER ≤ 28) (h : Represents s w) {base' extent' id : BitVec 32} {d : ℕ} (hd : 0 < d)
    (hd' : d < (replayWindowSize ORDER).toNat) (hid : id.toNat = s.idHigh.toNat + d)
    (hbase' : base'.toNat < (replayWindowSize ORDER).toNat)
    (hbase : s.base.toNat = (base'.toNat + d) % (replayWindowSize ORDER).toNat)
    (hextent : extent'.toNat = min (s.extent.toNat + d) (replayWindowSize ORDER).toNat) :
    Represents
      ({ s with
        base := base', extent := extent', idHigh := id
        history := ((List.range' 1 (d - 1)).map fun i =>
          (base'.toNat + i) % (replayWindowSize ORDER).toNat).foldl clearBit (setBit s.history base'.toNat) } :
        PacketIDReceive ORDER)
      { w with seen := insert id.toNat w.seen } := by
  have hsize : (replayWindowSize ORDER).toNat = 8 * s.history.length := by
    rw [replayWindowSize_eq hO, h.length]
  have hhigh : ReplayWindow.high { w.toReplayWindow with seen := insert id.toNat w.seen } = id.toNat := by
    rw [ReplayWindow.high_insert, max_eq_left (by rw [← h.high]; omega)]
  refine ⟨?_, hbase', ?_, hhigh.symm, h.time, h.floor, h.expire, ?_⟩
  · rw [length_foldl_clearBit, length_setBit]
    exact h.length
  · rw [hhigh, hextent, h.extent, hid, h.high]
    omega
  · intro j hj
    simp only [hextent, hsize] at hj
    simp only [hsize] at hd' hbase' hbase ⊢
    rw [bit_push hbase' hd' hbase (by omega), hhigh]
    have hid' : id.toNat = w.high + d := by rw [hid, h.high]
    by_cases h₀ : j = 0
    · simp [h₀]
    · have hne : id.toNat - j ≠ id.toNat := by omega
      rw [if_neg h₀, Finset.mem_insert, or_iff_right hne]
      split
      · have : w.high < id.toNat - j := by omega
        simp [ReplayWindow.notMem_of_high_lt this]
      · have hj' : id.toNat - j = w.high - (j - d) := by omega
        rw [hj', ← hsize]
        exact h.bits _ (by omega)

/-- Going back in the ring and forward again. -/
lemma toNat_base_eq (hO : ORDER ≤ 28) (h : Represents s w) (delta : BitVec 32) (hdelta : 0 < delta.toNat) :
    s.base.toNat =
      ((s.replayIndex (-delta)).toNat + delta.toNat) % (replayWindowSize ORDER).toNat := by
  obtain ⟨k, hk⟩ : (replayWindowSize ORDER).toNat ∣ 2 ^ 32 := by
    rw [toNat_replayWindowSize hO]
    exact Nat.pow_dvd_pow 2 (by omega)
  have hneg : s.base.toNat + (-delta).toNat + delta.toNat = s.base.toNat + 2 ^ 32 := by bv_omega
  rw [toNat_replayIndex hO, Nat.mod_add_mod, hneg, hk, Nat.add_mul_mod_self_left, Nat.mod_eq_of_lt h.base]

lemma toNat_replayIndex_lt (hO : ORDER ≤ 28) (i : BitVec 32) :
    (s.replayIndex i).toNat < (replayWindowSize ORDER).toNat := by
  rw [toNat_replayIndex hO]
  exact Nat.mod_lt _ (replayWindowSize_pos hO)

lemma addNext_eq (s : PacketIDReceive ORDER) (id : BitVec 32) : s.addNext id = { s with
    base := s.replayIndex (-1)
    history := setBit s.history (s.replayIndex (-1)).toNat
    extent := if s.extent < replayWindowSize ORDER then s.extent + 1 else s.extent
    idHigh := id } := by
  unfold PacketIDReceive.addNext
  with_reducible rfl

lemma Represents.addNext (hO : ORDER ≤ 28) (h : Represents s w) {id : BitVec 32} (hid : id = s.idHigh + 1)
    (h₀ : id ≠ 0) : Represents (s.addNext id) { w with seen := insert id.toNat w.seen } := by
  have hle := replayWindowSize_le hO
  have hsize : 1 < (replayWindowSize ORDER).toNat := by
    rw [toNat_replayWindowSize hO]
    exact Nat.one_lt_two_pow (by omega)
  have hbase := toNat_base_eq hO h 1 (by decide)
  rw [show BitVec.toNat (1 : BitVec 32) = 1 from rfl] at hbase
  have hextent := h.extent
  have hextent' : (if s.extent < replayWindowSize ORDER then s.extent + 1 else s.extent).toNat =
      min (s.extent.toNat + 1) (replayWindowSize ORDER).toNat := by
    split <;> bv_omega
  have hpush := h.push hO one_pos hsize (show id.toNat = s.idHigh.toNat + 1 by bv_omega)
    (toNat_replayIndex_lt hO (-1)) hbase hextent'
  rw [Nat.sub_self, List.range'_zero, List.map_nil, List.foldl_nil] at hpush
  rw [addNext_eq]
  with_reducible exact hpush

lemma addJump_of_lt {id : BitVec 32} (h : id - s.idHigh < replayWindowSize ORDER) : s.addJump id = { s with
    base := s.replayIndex (-(id - s.idHigh))
    extent := if replayWindowSize ORDER < s.extent + (id - s.idHigh) then replayWindowSize ORDER
      else s.extent + (id - s.idHigh)
    history := ((List.range' 1 ((id - s.idHigh).toNat - 1)).map fun i =>
        ((s.replayIndex (-(id - s.idHigh)) + BitVec.ofNat 32 i) &&& (replayWindowSize ORDER - 1)).toNat).foldl
      clearBit (setBit s.history (s.replayIndex (-(id - s.idHigh))).toNat)
    idHigh := id } := by
  unfold PacketIDReceive.addJump
  rw [if_pos h]
  rfl

lemma addJump_of_not_lt {id : BitVec 32} (h : ¬id - s.idHigh < replayWindowSize ORDER) : s.addJump id = { s with
    base := 0
    extent := replayWindowSize ORDER
    history := (List.replicate (replayWindowBytes ORDER).toNat 0).set 0 1
    idHigh := id } := by
  unfold PacketIDReceive.addJump
  rw [if_neg h]

lemma Represents.addJump (hO : ORDER ≤ 28) (h : Represents s w) {id : BitVec 32} (hid : s.idHigh < id) :
    Represents (s.addJump id) { w with seen := insert id.toNat w.seen } := by
  have hle := replayWindowSize_le hO
  have hdelta : id.toNat = s.idHigh.toNat + (id - s.idHigh).toNat := by bv_omega
  have hextent := h.extent
  by_cases hlt : id - s.idHigh < replayWindowSize ORDER
  · have hindices : (List.range' 1 ((id - s.idHigh).toNat - 1)).map (fun i =>
          ((s.replayIndex (-(id - s.idHigh)) + BitVec.ofNat 32 i) &&& (replayWindowSize ORDER - 1)).toNat) =
        (List.range' 1 ((id - s.idHigh).toNat - 1)).map fun i =>
          ((s.replayIndex (-(id - s.idHigh))).toNat + i) % (replayWindowSize ORDER).toNat := by
      refine List.map_congr_left fun i hi => ?_
      rw [List.mem_range'_1] at hi
      rw [toNat_and_size hO, BitVec.toNat_ofNat, Nat.mod_eq_of_lt (a := i) (b := 2 ^ 32) (by bv_omega)]
    have hextent' : (if replayWindowSize ORDER < s.extent + (id - s.idHigh) then replayWindowSize ORDER
        else s.extent + (id - s.idHigh)).toNat =
          min (s.extent.toNat + (id - s.idHigh).toNat) (replayWindowSize ORDER).toNat := by
      split <;> bv_omega
    have hpush := h.push hO (d := (id - s.idHigh).toNat) (by bv_omega) (by bv_omega) hdelta
      (toNat_replayIndex_lt hO _) (toNat_base_eq hO h _ (by bv_omega)) hextent'
    rw [addJump_of_lt hlt, hindices]
    with_reducible exact hpush
  · have hhigh : ReplayWindow.high { w.toReplayWindow with seen := insert id.toNat w.seen } = id.toNat := by
      rw [ReplayWindow.high_insert, max_eq_left (by rw [← h.high]; omega)]
    rw [addJump_of_not_lt hlt]
    refine ⟨by simp, replayWindowSize_pos hO, ?_, hhigh.symm, h.time, h.floor, h.expire, ?_⟩
    · rw [hhigh]
      bv_omega
    · intro j (hj : j < (replayWindowSize ORDER).toNat)
      have hbytes := replayWindowSize_eq hO
      have hhigh' := h.high
      have hout : ∀ k, w.high < k → k ∉ w.seen := fun k => ReplayWindow.notMem_of_high_lt
      have hplace : ((0 : BitVec 32).toNat + j) % (replayWindowSize ORDER).toNat = j := by
        rw [show (0 : BitVec 32).toNat = 0 from rfl, Nat.zero_add, Nat.mod_eq_of_lt hj]
      change bit ((List.replicate (replayWindowBytes ORDER).toNat 0).set 0 1)
        (((0 : BitVec 32).toNat + j) % (replayWindowSize ORDER).toNat) = true ↔ _ - j ∈ insert id.toNat w.seen
      rw [hplace, bit_set_zero (j := j) (by omega) (by omega), hhigh, decide_eq_true_iff, Finset.mem_insert]
      constructor
      · rintro rfl
        exact Or.inl rfl
      · rintro (heq | hmem)
        · bv_omega
        · by_contra hne
          exact hout _ (by bv_omega) hmem

lemma Represents.addSeen (hO : ORDER ≤ 28) (h : Represents s w) {id : BitVec 32} (hid : id.toNat ≤ w.high)
    (hin : s.idHigh - id < s.extent) :
    Represents ({ s with history := setBit s.history (s.replayIndex (s.idHigh - id)).toNat } : PacketIDReceive ORDER)
      { w with seen := insert id.toNat w.seen } := by
  have hhigh : ReplayWindow.high { w.toReplayWindow with seen := insert id.toNat w.seen } = w.high := by
    rw [ReplayWindow.high_insert, max_eq_right hid]
  have hsize : (replayWindowSize ORDER).toNat = 8 * s.history.length := by
    rw [replayWindowSize_eq hO, h.length]
  have hextent := h.extent
  have hdelta : (s.idHigh - id).toNat = w.high - id.toNat := by
    have := h.high
    bv_omega
  have hbase := h.base
  refine ⟨(length_setBit _ _).trans h.length, h.base, h.extent.trans ?_, h.high.trans hhigh.symm, h.time, h.floor,
    h.expire, ?_⟩
  · rw [hhigh]
  · intro j (hj : j < s.extent.toNat)
    have hbits := h.bits j hj
    change bit (setBit s.history (s.replayIndex (s.idHigh - id)).toNat) _ = true ↔ _ - j ∈ insert id.toNat w.seen
    simp only [hsize] at hbits hbase hextent ⊢
    have hlt : (s.idHigh - id).toNat < s.extent.toNat := hin
    rw [toNat_replayIndex hO, hsize, bit_setBit_ring hbase (by omega) (by omega), hhigh, Bool.or_eq_true, hbits,
      decide_eq_true_iff, Finset.mem_insert, hdelta]
    refine or_congr_left ?_
    omega

/-- What is accepted in the epoch of the window. -/
lemma fresh_iff (h : Represents s w) {pin : PacketID} (hid : pin.id ≠ 0) (htime : pin.time = w.epoch) :
    w.Fresh (replayWindowSize ORDER).toNat (pin.time, pin.id.toNat) ↔
      s.idHigh < pin.id ∨ pin.id.toNat ∉ w.seen ∧ s.idHigh - pin.id < s.extent ∧ s.idFloor < pin.id := by
  have hpos : 0 < pin.id.toNat := by bv_omega
  have hhigh := h.high
  have hextent := h.extent
  have hfloor := h.floor
  have hnew : w.high < pin.id.toNat → pin.id.toNat ∉ w.seen := ReplayWindow.notMem_of_high_lt
  have hlt : s.idHigh < pin.id ↔ w.high < pin.id.toNat := by bv_omega
  simp only [ReplayWindow.Fresh, htime, lt_irrefl, false_or, true_and, hpos, hlt]
  constructor
  · rintro ⟨hseen, hgt | ⟨hin, hgt⟩⟩
    · exact Or.inl hgt
    · by_cases hle : w.high < pin.id.toNat
      · exact Or.inl hle
      · exact Or.inr ⟨hseen, by bv_omega, by bv_omega⟩
  · rintro (hgt | ⟨hseen, hin, hgt⟩)
    · exact ⟨hnew hgt, Or.inl hgt⟩
    · by_cases hle : w.high < pin.id.toNat
      · exact ⟨hseen, Or.inl hle⟩
      · exact ⟨hseen, Or.inr ⟨by bv_omega, by bv_omega⟩⟩

/-- The bit of an id that goes back tells whether it has been accepted. -/
lemma addBack_spec (hO : ORDER ≤ 28) (h : Represents s w) {id : BitVec 32} (hle : ¬s.idHigh < id) (mod : Bool) :
    ((id.toNat ∉ w.seen ∧ s.idHigh - id < s.extent ∧ s.idFloor < id) ∧
      ∃ s', s.addBack id mod = (.success, s') ∧
        Represents s' (if mod then { w with seen := insert id.toNat w.seen } else w)) ∨
    ¬(id.toNat ∉ w.seen ∧ s.idHigh - id < s.extent ∧ s.idFloor < id) ∧
      ∃ e s', s.addBack id mod = (e, s') ∧ e ≠ .success ∧ Represents s' w := by
  have hhigh := h.high
  have hdelta : (s.idHigh - id).toNat = w.high - id.toNat := by bv_omega
  have hle' : id.toNat ≤ w.high := by bv_omega
  unfold PacketIDReceive.addBack
  by_cases hin : s.idHigh - id < s.extent
  · have hbit := h.bits _ (BitVec.lt_def.1 hin)
    rw [hdelta, Nat.sub_sub_self hle', ← hdelta, ← toNat_replayIndex hO] at hbit
    rw [if_pos hin]
    by_cases hfloor : s.idFloor < id
    · rw [if_pos hfloor]
      by_cases hseen : id.toNat ∈ w.seen
      · exact Or.inr ⟨fun hf => hf.1 hseen, .replay, s, if_pos (hbit.2 hseen), by decide, h⟩
      · rw [if_neg fun hb => hseen (hbit.1 hb)]
        refine Or.inl ⟨⟨hseen, hin, hfloor⟩, ?_⟩
        cases mod
        · exact ⟨s, if_pos Bool.not_false, by rwa [if_neg (by decide)]⟩
        · refine ⟨_, if_neg (by decide), ?_⟩
          rw [if_pos rfl]
          exact h.addSeen hO hle' hin
    · rw [if_neg hfloor]
      exact Or.inr ⟨fun hf => hfloor hf.2.2, .expire, s, rfl, by decide, h⟩
  · rw [if_neg hin]
    exact Or.inr ⟨fun hf => hin hf.2.1, .backtrack, s, rfl, by decide, h⟩

/-- The part of a check that looks at the window, for an id that is not zero. -/
lemma addInEpoch_spec (hO : ORDER ≤ 28) (h : Represents s w) {pin : PacketID} (hid : pin.id ≠ 0)
    (htime : pin.time = w.epoch) (mod : Bool) :
    (w.Fresh (replayWindowSize ORDER).toNat (pin.time, pin.id.toNat) ∧
      ∃ s', s.addInEpoch pin mod = (.success, s') ∧
        Represents s' (if mod then { w with seen := insert pin.id.toNat w.seen } else w)) ∨
    ¬w.Fresh (replayWindowSize ORDER).toNat (pin.time, pin.id.toNat) ∧
      ∃ e s', s.addInEpoch pin mod = (e, s') ∧ e ≠ .success ∧ Represents s' w := by
  rw [fresh_iff h hid htime]
  unfold PacketIDReceive.addInEpoch
  by_cases hnext : pin.id = s.idHigh + 1
  · rw [if_pos hnext]
    refine Or.inl ⟨Or.inl (by bv_omega), ?_⟩
    cases mod
    · exact ⟨s, if_pos Bool.not_false, by rwa [if_neg (by decide)]⟩
    · refine ⟨s.addNext pin.id, if_neg (by decide), ?_⟩
      rw [if_pos rfl]
      exact h.addNext hO hnext hid
  rw [if_neg hnext]
  by_cases hlt : s.idHigh < pin.id
  · rw [if_pos hlt]
    refine Or.inl ⟨Or.inl hlt, ?_⟩
    cases mod
    · exact ⟨s, if_pos Bool.not_false, by rwa [if_neg (by decide)]⟩
    · refine ⟨s.addJump pin.id, if_neg (by decide), ?_⟩
      rw [if_pos rfl]
      exact h.addJump hO hlt
  · rw [if_neg hlt, or_iff_right hlt]
    exact addBack_spec hO (h.noteBacktrack pin.id) hlt mod

/-- **One check.**  It takes the window in bits as a step takes the window with the set of ids. -/
lemma doTestAdd_step (hO : ORDER ≤ 28) (h : Represents s w) (pin : PacketID) (now : ℕ) (mod : Bool) :
    ∃ e s', s.doTestAdd EXPIRE pin now mod = (e, s') ∧
      (e = .success ↔
        (w.step (replayWindowSize ORDER).toNat EXPIRE ⟨(pin.time, pin.id.toNat), now, mod⟩).1 = true) ∧
      Represents s' (w.step (replayWindowSize ORDER).toNat EXPIRE ⟨(pin.time, pin.id.toNat), now, mod⟩).2 := by
  have h := h.expireBacktracks EXPIRE now
  unfold PacketIDReceive.doTestAdd
  generalize hw : w.touch EXPIRE now = w' at h
  generalize s.expireBacktracks EXPIRE now = s' at h ⊢
  have hrefused (e : PktidError) (he : e ≠ .success)
      (hf : ¬w'.Fresh (replayWindowSize ORDER).toNat (pin.time, pin.id.toNat)) :
      (e = .success ↔
        (w.step (replayWindowSize ORDER).toNat EXPIRE ⟨(pin.time, pin.id.toNat), now, mod⟩).1 = true) ∧
      ∀ s'' : PacketIDReceive ORDER, Represents s'' w' → Represents s''
        (w.step (replayWindowSize ORDER).toNat EXPIRE ⟨(pin.time, pin.id.toNat), now, mod⟩).2 := by
    rw [ExpiringWindow.step_of_not_fresh (by rwa [hw]), hw]
    exact ⟨iff_of_false he Bool.false_ne_true, fun _ => id⟩
  have haccepted (hf : w'.Fresh (replayWindowSize ORDER).toNat (pin.time, pin.id.toNat)) :
      w.step (replayWindowSize ORDER).toNat EXPIRE ⟨(pin.time, pin.id.toNat), now, mod⟩ =
        (true, if mod then { w' with toReplayWindow := w'.accept (pin.time, pin.id.toNat) } else w') := by
    rw [ExpiringWindow.step_of_fresh (by rwa [hw]), hw]
  by_cases hid : pin.id = 0
  · have hf : ¬w'.Fresh (replayWindowSize ORDER).toNat (pin.time, pin.id.toNat) := fun hf => by
      simp [ReplayWindow.Fresh, hid] at hf
    obtain ⟨hiff, hrep⟩ := hrefused .invalid (by decide) hf
    exact ⟨_, _, if_pos (pin.not_isValid_iff.2 hid), hiff, hrep _ h⟩
  rw [if_neg (mt pin.not_isValid_iff.1 hid)]
  have hpos : 0 < pin.id.toNat := by bv_omega
  have htimeHigh := h.time
  by_cases htime : pin.time = s'.timeHigh
  · rw [if_neg (not_not.2 htime)]
    obtain ⟨hf, s'', hs'', hrep⟩ | ⟨hf, e, s'', hs'', he, hrep⟩ :=
      addInEpoch_spec hO h hid (htime.trans htimeHigh) mod
    · refine ⟨_, _, hs'', ?_⟩
      rw [haccepted hf]
      refine ⟨iff_of_true rfl rfl, ?_⟩
      rwa [htime, htimeHigh, ReplayWindow.accept_same]
    · obtain ⟨hiff, hrep'⟩ := hrefused e he hf
      exact ⟨_, _, hs'', hiff, hrep' _ hrep⟩
  rw [if_pos htime]
  by_cases hlt : s'.timeHigh < pin.time
  · have hf : w'.Fresh (replayWindowSize ORDER).toNat (pin.time, pin.id.toNat) :=
      ⟨hpos, Or.inl (htimeHigh ▸ hlt)⟩
    rw [if_pos hlt, haccepted hf]
    cases mod
    · exact ⟨_, _, if_pos Bool.not_false, iff_of_true rfl rfl, h⟩
    · have hnew := h.startEpoch pin.time
      obtain ⟨-, s'', hs'', hrep⟩ | ⟨hf', -⟩ := addInEpoch_spec hO hnew hid rfl true
      · refine ⟨_, _, (if_neg (by decide)).trans hs'', iff_of_true rfl rfl, ?_⟩
        rw [if_pos rfl] at hrep ⊢
        rwa [ReplayWindow.accept_later (by omega)]
      · refine absurd ((fresh_iff hnew hid rfl).2 (Or.inl ?_)) hf'
        exact BitVec.lt_def.2 hpos
  · have hf : ¬w'.Fresh (replayWindowSize ORDER).toNat (pin.time, pin.id.toNat) := by
      rintro ⟨-, hgt | ⟨heq, -⟩⟩
      · exact hlt (htimeHigh ▸ hgt)
      · exact htime (heq.trans htimeHigh.symm)
    obtain ⟨hiff, hrep⟩ := hrefused .timeBacktrack (by decide) hf
    exact ⟨_, _, if_neg hlt, hiff, hrep _ h⟩

end Step

/-! ### Runs of checks -/

/-- `test_add`: whether the id is accepted, and the error that the statistics are told. -/
def testAdd (s : PacketIDReceive ORDER) (pin : PacketID) (now : ℕ) (mod : Bool) :
    Bool × Option PktidError × PacketIDReceive ORDER :=
  let (err, s) := s.doTestAdd EXPIRE pin now mod
  if err ≠ .success then (false, some err, s) else (true, none, s)

/-- The arguments of a call of `test_add`. -/
structure Check where
  pin : PacketID
  now : ℕ
  mod : Bool := true

/-- A check, as the window with the set of ids sees it. -/
def Check.arrival (c : Check) : Arrival := ⟨(c.pin.time, c.pin.id.toNat), c.now, c.mod⟩

/-- What the checks say, one after the other. -/
def decisions (s : PacketIDReceive ORDER) : List Check → List Bool
  | [] => []
  | c :: cs =>
    let (ok, _, s) := s.testAdd EXPIRE c.pin c.now c.mod
    ok :: s.decisions cs

/-- The ids that are accepted and remembered, in the order in which they come. -/
def accepted (s : PacketIDReceive ORDER) : List Check → List PacketID
  | [] => []
  | c :: cs =>
    let (ok, _, s) := s.testAdd EXPIRE c.pin c.now c.mod
    if ok && c.mod then c.pin :: s.accepted cs else s.accepted cs

section Runs

variable {EXPIRE} {s : PacketIDReceive ORDER} {w : ExpiringWindow}

lemma testAdd_step (hO : ORDER ≤ 28) (h : Represents s w) (c : Check) :
    ∃ e s', s.testAdd EXPIRE c.pin c.now c.mod =
        ((w.step (replayWindowSize ORDER).toNat EXPIRE c.arrival).1, e, s') ∧
      Represents s' (w.step (replayWindowSize ORDER).toNat EXPIRE c.arrival).2 := by
  obtain ⟨e, s', hs', hiff, hrep⟩ := doTestAdd_step EXPIRE hO h c.pin c.now c.mod
  unfold testAdd Check.arrival
  rw [hs']
  by_cases he : e = .success
  · exact ⟨none, s', by simp [he, hiff.1 he], hrep⟩
  · refine ⟨some e, s', ?_, hrep⟩
    have := mt hiff.2 he
    simp only [Bool.not_eq_true] at this
    simp [he, this]

/-- The ids that are accepted, as the window with the set of ids sees them. -/
lemma map_accepted (hO : ORDER ≤ 28) (h : Represents s w) (checks : List Check) :
    (s.accepted EXPIRE checks).map (fun p => (p.time, p.id.toNat)) =
      w.accepted (replayWindowSize ORDER).toNat EXPIRE (checks.map Check.arrival) := by
  induction checks generalizing s w with
  | nil => rfl
  | cons c cs ih =>
    obtain ⟨e, s', hs', hrep⟩ := testAdd_step hO h c
    rw [List.map_cons, ExpiringWindow.accepted_cons, accepted, hs', ← ih hrep]
    exact apply_ite (List.map _) _ _ _

/-- An id is known by its time and its number. -/
lemma stamp_injective : Function.Injective fun p : PacketID => (p.time, p.id.toNat) := by
  intro p q h
  obtain ⟨htime, hid⟩ := Prod.mk.inj h
  cases p
  cases q
  exact PacketID.mk.injEq .. ▸ ⟨BitVec.eq_of_toNat_eq hid, htime⟩

lemma exists_check_of_mem_accepted {checks : List Check} {pin : PacketID} (h : pin ∈ s.accepted EXPIRE checks) :
    ∃ c ∈ checks, c.pin = pin := by
  induction checks generalizing s with
  | nil => exact absurd h List.not_mem_nil
  | cons c cs ih =>
    have hrest : ∀ s' : PacketIDReceive ORDER, pin ∈ s'.accepted EXPIRE cs → ∃ d ∈ c :: cs, d.pin = pin :=
      fun s' h => let ⟨d, hd, hpin⟩ := ih h; ⟨d, List.mem_cons_of_mem _ hd, hpin⟩
    rw [accepted] at h
    dsimp only at h
    split at h
    · rcases List.mem_cons.1 h with rfl | h
      · exact ⟨c, List.mem_cons_self, rfl⟩
      · exact hrest _ h
    · exact hrest _ h

/-- **The ring of bits decides as the set of the accepted ids would.** -/
theorem decisions_eq (hO : ORDER ≤ 28) (checks : List Check) :
    decisions EXPIRE ({} : PacketIDReceive ORDER) checks =
      ExpiringWindow.decisions (replayWindowSize ORDER).toNat EXPIRE {} (checks.map Check.arrival) := by
  suffices h : ∀ (s : PacketIDReceive ORDER) (w : ExpiringWindow), Represents s w →
      s.decisions EXPIRE checks =
        w.decisions (replayWindowSize ORDER).toNat EXPIRE (checks.map Check.arrival) from
    h _ _ (represents_init hO)
  induction checks with
  | nil => exact fun _ _ _ => rfl
  | cons c cs ih =>
    intro s w h
    obtain ⟨e, s', hs', hrep⟩ := testAdd_step hO h c
    rw [List.map_cons, ExpiringWindow.decisions, decisions, hs', ← ih _ _ hrep]

/-- Ids of one time that come out of order, and one of them again. -/
def shuffled : List Check :=
  [{ pin := ⟨3, 5⟩, now := 0 }, { pin := ⟨1, 5⟩, now := 1 }, { pin := ⟨3, 5⟩, now := 2 }]

theorem decisions_eq_shuffled : decisions 30 ({} : PacketIDReceive 8) shuffled =
    ExpiringWindow.decisions (replayWindowSize 8).toNat 30 {} (shuffled.map Check.arrival) :=
  decisions_eq (by decide) shuffled

/-- **No replay.**  No id is accepted twice. -/
theorem no_replay (hO : ORDER ≤ 28) (checks : List Check) :
    (accepted EXPIRE ({} : PacketIDReceive ORDER) checks).Nodup := by
  refine List.Nodup.of_map (fun p => (p.time, p.id.toNat)) ?_
  rw [map_accepted hO (represents_init hO)]
  exact ExpiringWindow.nodup_accepted _ _

theorem no_replay_shuffled : (accepted 30 ({} : PacketIDReceive 8) shuffled).Nodup := no_replay (by decide) shuffled

/-- **Packets out of order.**  Those of one epoch that come inside the window, with no silence in between, are
all accepted, whatever their order and however often they come. -/
theorem mem_accepted_iff_of_inWindow (hO : ORDER ≤ 28) {checks : List Check} {time : ℕ}
    (hall : ∀ c ∈ checks, c.mod = true ∧ c.pin.isValid = true ∧ c.pin.time = time)
    (hnear : checks.Pairwise fun c d => c.pin.id.toNat < d.pin.id.toNat + (replayWindowSize ORDER).toNat)
    (hchain : checks.IsChain fun c d => d.now < c.now + EXPIRE) (pin : PacketID) :
    pin ∈ accepted EXPIRE ({} : PacketIDReceive ORDER) checks ↔ ∃ c ∈ checks, c.pin = pin := by
  refine ⟨exists_check_of_mem_accepted, ?_⟩
  rintro ⟨c, hc, rfl⟩
  have hpos : ∀ d ∈ checks, 0 < d.pin.id.toNat := fun d hd => by
    have hne := mt d.pin.not_isValid_iff.2 (by simp [(hall d hd).2.1])
    bv_omega
  have hmem := @ExpiringWindow.mem_accepted_of_inWindow (replayWindowSize ORDER).toNat EXPIRE {}
    (checks.map Check.arrival) time
    (by
      simp only [List.mem_map]
      rintro _ ⟨d, hd, rfl⟩
      exact ⟨(hall d hd).1, hpos d hd, (hall d hd).2.2⟩)
    (by
      rcases Nat.eq_zero_or_pos time with h | h
      · exact Or.inr h.symm
      · exact Or.inl ⟨h, rfl⟩)
    rfl (Or.inl rfl)
    (by
      simp only [List.mem_map]
      rintro _ ⟨d, hd, rfl⟩
      exact (hpos d hd).trans_le (Nat.le_add_right _ _))
    (List.pairwise_map.2 hnear) ((List.isChain_map _).2 hchain) _ (List.mem_map_of_mem hc)
  rcases hmem with h | h
  · exact absurd h (Finset.notMem_empty _)
  · rw [← map_accepted hO (represents_init hO)] at h
    obtain ⟨p, hp, heq⟩ := List.mem_map.1 h
    rwa [← stamp_injective heq]

theorem mem_accepted_iff_shuffled :
    ⟨1, 5⟩ ∈ accepted 30 ({} : PacketIDReceive 8) shuffled ↔ ∃ c ∈ shuffled, c.pin = ⟨1, 5⟩ :=
  @mem_accepted_iff_of_inWindow 8 30 (by decide) shuffled 5 (by decide) (by decide) (by decide) ⟨1, 5⟩

end Runs

end PacketIDReceive

end Receive

end FreeVPN.ControlChannel
