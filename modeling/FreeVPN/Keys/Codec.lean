import FreeVPN.AmneziaWG.Uapi
import FreeVPN.Foundation.Utf8

/-!
# The codec of keys

`key.c` writes and reads keys in base64 and in hexadecimal without a branch or a table that would depend on the
key: what a character stands for is computed with masks.  An `int` is a `BitVec 32` here, and a `char` is signed.

* `keyFromBase64_eq_some`, `keyFromHex_eq_some` — what is read, and that nothing else is: in base64 a key has one
  text only, in hexadecimal the case of its digits does not matter;
* `initBase64Key_eq` — the decoder is the one with branches that the parser of configurations is modelled with;
* `keyEq_iff` — the comparison.
-/

namespace FreeVPN.Keys

open FreeVPN.Lib FreeVPN.Foundation FreeVPN.WgQuick

/-! ### Characters and numbers -/

/-- A `char` as an `int`. -/
def ofChar (c : UInt8) : BitVec 32 := c.toBitVec.signExtend 32

/-- A `uint8_t` as an `int`. -/
def ofByte (b : UInt8) : BitVec 32 := b.toBitVec.setWidth 32

/-- An `int` as a `uint8_t` or a `char`. -/
def toByte (x : BitVec 32) : UInt8 := .ofBitVec (x.setWidth 8)

/-- `1 & ((ret - 1) >> 8)`: whether a byte is zero. -/
def isZero (ret : UInt8) : Bool := 1#32 &&& (ofByte ret - 1).sshiftRight 8 ≠ 0

/-! ### Base64 -/

/-- A turn of the loop of `encode_base64`. -/
def encodeSextet (input : UInt8) : UInt8 :=
  let input := ofByte input
  toByte (input + 65
    + ((25 - input).sshiftRight 8 &&& 6)
    - ((51 - input).sshiftRight 8 &&& 75)
    - ((61 - input).sshiftRight 8 &&& 15)
    + ((62 - input).sshiftRight 8 &&& 3))

/-- `encode_base64` -/
def encodeBase64 (a b c : UInt8) : Bytes :=
  ([(ofByte a).sshiftRight 2 &&& 63,
    (ofByte a <<< 4 ||| (ofByte b).sshiftRight 4) &&& 63,
    (ofByte b <<< 2 ||| (ofByte c).sshiftRight 6) &&& 63,
    ofByte c &&& 63].map toByte).map encodeSextet

/-- `key_to_base64`: the loop, and the two bytes behind it. -/
def keyToBase64 : Bytes → Bytes
  | a :: b :: c :: key => encodeBase64 a b c ++ keyToBase64 key
  | [a, b] => (encodeBase64 a b 0).take 3 ++ [61]
  | _ => []

/-- A turn of the loop of `decode_base64`, without the shift. -/
def decodeSextet (src : UInt8) : BitVec 32 :=
  let src := ofChar src;
  -1
    + (((65 - 1 - src) &&& (src - (90 + 1))).sshiftRight 8 &&& (src - 64))
    + (((97 - 1 - src) &&& (src - (122 + 1))).sshiftRight 8 &&& (src - 70))
    + (((48 - 1 - src) &&& (src - (57 + 1))).sshiftRight 8 &&& (src + 5))
    + (((43 - 1 - src) &&& (src - (43 + 1))).sshiftRight 8 &&& 63)
    + (((47 - 1 - src) &&& (src - (47 + 1))).sshiftRight 8 &&& 64)

/-- `decode_base64` -/
def decodeBase64 (a b c d : UInt8) : BitVec 32 :=
  0#32 ||| decodeSextet a <<< 18 ||| decodeSextet b <<< 12 ||| decodeSextet c <<< 6 ||| decodeSextet d <<< 0

/-- The loop of `key_from_base64` and what is behind it, with `ret` and what is written to `key`. -/
def decodeGroups : Bytes → UInt8 → UInt8 × Bytes
  | [a, b, c, _], ret =>
    let val := decodeBase64 a b c 65
    (ret ||| toByte (val >>> 31 ||| val &&& 0xff),
      [toByte (val.sshiftRight 16 &&& 0xff), toByte (val.sshiftRight 8 &&& 0xff)])
  | a :: b :: c :: d :: rest, ret =>
    let val := decodeBase64 a b c d
    let (ret, key) := decodeGroups rest (ret ||| toByte (val >>> 31))
    (ret, toByte (val.sshiftRight 16 &&& 0xff) :: toByte (val.sshiftRight 8 &&& 0xff) :: toByte (val &&& 0xff) :: key)
  | _, ret => (ret, [])

/-- `key_from_base64`, for the bytes before the terminating zero. -/
def keyFromBase64 (base64 : Bytes) : Option Bytes :=
  if base64.length ≠ keyLengthBase64 ∨ base64.getLast? ≠ some 61 then none
  else
    let (ret, key) := decodeGroups base64 0
    if isZero ret then some key else none

/-! ### Hexadecimal -/

/-- A digit of `key_to_hex`, of four bits. -/
def hexChar (n : BitVec 32) : UInt8 := toByte (87 + n + ((n - 10) >>> 8 &&& ~~~38))

/-- `key_to_hex` -/
def keyToHex (key : Bytes) : Bytes := key.flatMap fun b => [hexChar (ofByte b >>> 4), hexChar (ofByte b &&& 0xf)]

/-- Half a turn of the loop of `key_from_hex`: what is added to `ret`, and `c_val`. -/
def hexValue (c : UInt8) : UInt8 × UInt8 :=
  let num := c ^^^ 48
  let num0 := toByte ((ofByte num - 10) >>> 8)
  let alpha := toByte ((ofByte c &&& ~~~32) - 55)
  let alpha0 := toByte (((ofByte alpha - 10) ^^^ (ofByte alpha - 16)) >>> 8)
  (toByte ((ofByte (num0 ||| alpha0) - 1).sshiftRight 8), num0 &&& num ||| alpha0 &&& alpha)

/-- The loop of `key_from_hex`. -/
def decodePairs : Bytes → UInt8 → UInt8 × Bytes
  | a :: b :: rest, ret =>
    let (ret, key) := decodePairs rest (ret ||| (hexValue a).1 ||| (hexValue b).1)
    (ret, ((hexValue a).2 * 16 ||| (hexValue b).2) :: key)
  | _, ret => (ret, [])

/-- `key_from_hex`, for the bytes before the terminating zero. -/
def keyFromHex (hex : Bytes) : Option Bytes :=
  if hex.length ≠ 64 then none
  else
    let (ret, key) := decodePairs hex 0
    if isZero ret then some key else none

/-! ### Comparison -/

/-- `key_eq` -/
def keyEq (key1 key2 : Bytes) : Bool := isZero ((key1.zip key2).foldl (fun acc p => acc ||| p.1 ^^^ p.2) 0)

/-! ### What the masks compute -/

lemma forall_byte {P : UInt8 → Prop} (h : ∀ n < 256, P (.ofNat n)) (c : UInt8) : P c := by
  have hc := h c.toNat c.toNat_lt
  rwa [UInt8.ofNat_toNat] at hc

lemma or_eq_zero {a b : UInt8} : a ||| b = 0 ↔ a = 0 ∧ b = 0 := by
  rw [← UInt8.toNat_inj, ← UInt8.toNat_inj, ← UInt8.toNat_inj, UInt8.toNat_or]
  exact Nat.or_eq_zero_iff

lemma toNat_ofByte (b : UInt8) : (ofByte b).toNat = b.toNat := by
  rw [ofByte, BitVec.toNat_setWidth]
  exact Nat.mod_eq_of_lt (b.toNat_lt.trans (by decide))

lemma toByte_eq (x : BitVec 32) : toByte x = .ofNat x.toNat := by
  rw [← UInt8.toNat_inj, toByte, UInt8.toNat_ofBitVec, BitVec.toNat_setWidth]
  rfl

lemma toNat_sshiftRight {x : BitVec 32} (h : x.toNat < 2 ^ 31) (n : ℕ) : (x.sshiftRight n).toNat = x.toNat / 2 ^ n := by
  have hmsb : x.msb = false := by
    rw [BitVec.msb_eq_decide, decide_eq_false_iff_not]
    omega
  rw [BitVec.sshiftRight_eq_of_msb_false hmsb, BitVec.toNat_ushiftRight, Nat.shiftRight_eq_div_pow]

lemma toNat_or {x y : BitVec 32} (i : ℕ) {k : ℕ} (hx : x.toNat = k * 2 ^ i) (hy : y.toNat < 2 ^ i) :
    (x ||| y).toNat = k * 2 ^ i + y.toNat := by
  rw [BitVec.toNat_or, hx, ← Nat.shiftLeft_eq, Nat.shiftLeft_add_eq_or_of_lt hy]

lemma toNat_and (x : BitVec 32) {m : BitVec 32} (i : ℕ) (hm : m.toNat = 2 ^ i - 1) : (x &&& m).toNat = x.toNat % 2 ^ i := by
  rw [BitVec.toNat_and, hm, Nat.and_two_pow_sub_one_eq_mod]

lemma toNat_shiftLeft {x : BitVec 32} {i : ℕ} (h : x.toNat * 2 ^ i < 2 ^ 32) : (x <<< i).toNat = x.toNat * 2 ^ i := by
  rw [BitVec.toNat_shiftLeft, Nat.shiftLeft_eq, Nat.mod_eq_of_lt h]

lemma isZero_iff (ret : UInt8) : isZero ret = true ↔ ret = 0 := by
  rw [isZero, decide_eq_true_iff, ← UInt8.toNat_inj]
  by_cases hret : ret.toNat = 0
  · have hzero : ret = 0 := UInt8.toNat_inj.1 hret
    rw [hzero]
    decide
  · have hlt := ret.toNat_lt
    have hsub : (ofByte ret - 1).toNat = ret.toNat - 1 := by
      rw [BitVec.toNat_sub, toNat_ofByte]
      exact (by omega : (2 ^ 32 - 1 + ret.toNat) % 2 ^ 32 = ret.toNat - 1)
    have hshift : (ofByte ret - 1).sshiftRight 8 = 0#32 := by
      refine BitVec.eq_of_toNat_eq ?_
      rw [toNat_sshiftRight (by omega), hsub]
      exact Nat.div_eq_of_lt (by omega)
    rw [hshift]
    exact iff_of_false (fun h => h rfl) hret

/-! ### Base64, character by character -/

/-- A text of bytes that are characters. -/
def text (bytes : Bytes) : Text := bytes.map Char.ofUInt8

lemma decodeSextet_eq (c : UInt8) : decodeSextet c = ((base64Value (.ofUInt8 c)).map (BitVec.ofNat 32)).getD (-1) := by
  revert c
  exact forall_byte (by decide +kernel)

/-- The table of base64, in both directions. -/
lemma base64Value_table : (∀ n < 64, base64Value (.ofUInt8 (encodeSextet (.ofNat n))) = some n) ∧
    ∀ m < 128, (base64Value (.ofNat m)).all
      (fun n => n < 64 ∧ Char.ofNat m = .ofUInt8 (encodeSextet (.ofNat n))) = true := by
  decide +kernel

/-- A character that stands for something is ASCII. -/
lemma toNat_lt_of_base64Value {c : Char} {n : ℕ} (h : base64Value c = some n) : c.toNat < 128 := by
  unfold base64Value at h
  split at h
  · rename_i hc
    exact (show c.toNat ≤ 90 from hc.2).trans_lt (by decide)
  split at h
  · rename_i hc
    exact (show c.toNat ≤ 122 from hc.2).trans_lt (by decide)
  split at h
  · rename_i hc
    exact (show c.toNat ≤ 57 from hc.2).trans_lt (by decide)
  split at h
  · rename_i hc
    rw [hc]
    decide
  split at h
  · rename_i hc
    rw [hc]
    decide
  · cases h

/-- The characters that stand for something. -/
lemma base64Value_eq_some {c : Char} {n : ℕ} :
    base64Value c = some n ↔ n < 64 ∧ c = .ofUInt8 (encodeSextet (.ofNat n)) := by
  constructor
  · intro h
    have hrow := base64Value_table.2 c.toNat (toNat_lt_of_base64Value h)
    rw [Char.ofNat_toNat, h] at hrow
    exact of_decide_eq_true hrow
  · rintro ⟨hn, rfl⟩
    exact base64Value_table.1 n hn

lemma encodeBase64_eq (a b c : UInt8) :
    encodeBase64 a b c = [a.toNat / 4, a.toNat % 4 * 16 + b.toNat / 16, b.toNat % 16 * 4 + c.toNat / 64,
      c.toNat % 64].map fun n => encodeSextet (.ofNat n) := by
  have ha : (ofByte a).toNat < 256 := toNat_ofByte a ▸ a.toNat_lt
  have hb : (ofByte b).toNat < 256 := toNat_ofByte b ▸ b.toNat_lt
  have hc : (ofByte c).toNat < 256 := toNat_ofByte c ▸ c.toNat_lt
  have ha' := toNat_sshiftRight (x := ofByte a) (by omega) 2
  have hb' := toNat_sshiftRight (x := ofByte b) (by omega) 4
  have hc' := toNat_sshiftRight (x := ofByte c) (by omega) 6
  have hab := toNat_or (x := ofByte a <<< 4) (y := (ofByte b).sshiftRight 4) 4
    (toNat_shiftLeft (by omega)) (by rw [hb']; omega)
  have hbc := toNat_or (x := ofByte b <<< 2) (y := (ofByte c).sshiftRight 6) 2
    (toNat_shiftLeft (by omega)) (by rw [hc']; omega)
  simp only [encodeBase64, List.map_cons, List.map_nil, toByte_eq, toNat_and _ 6 (m := 63) rfl, hab, hbc, ha', hb', hc',
    toNat_ofByte]
  rw [toNat_ofByte] at ha hb hc
  rw [show a.toNat / 2 ^ 2 % 2 ^ 6 = a.toNat / 4 by omega, show c.toNat % 2 ^ 6 = c.toNat % 64 from rfl,
    show (a.toNat * 2 ^ 4 + b.toNat / 2 ^ 4) % 2 ^ 6 = a.toNat % 4 * 16 + b.toNat / 16 by omega,
    show (b.toNat * 2 ^ 2 + c.toNat / 2 ^ 6) % 2 ^ 6 = b.toNat % 16 * 4 + c.toNat / 64 by omega]

/-- Four characters, by their values. -/
lemma decodeBase64_spec (a b c d : UInt8) :
    (∃ val, WgQuick.decodeBase64 (.ofUInt8 a) (.ofUInt8 b) (.ofUInt8 c) (.ofUInt8 d) = some val ∧ val < 2 ^ 24 ∧
      (decodeBase64 a b c d).toNat = val) ∨
    WgQuick.decodeBase64 (.ofUInt8 a) (.ofUInt8 b) (.ofUInt8 c) (.ofUInt8 d) = none ∧
      2 ^ 31 ≤ (decodeBase64 a b c d).toNat := by
  have hmsb : ∀ i < 32, ((-1 : BitVec 32) <<< i).msb = true := by decide
  -- a character that stands for nothing sets the sign
  have hnone : (decodeSextet a = -1 ∨ decodeSextet b = -1 ∨ decodeSextet c = -1 ∨ decodeSextet d = -1) →
      2 ^ 31 ≤ (decodeBase64 a b c d).toNat := by
    intro h
    have hsign : (decodeBase64 a b c d).msb = true := by
      rw [decodeBase64]
      simp only [BitVec.msb_or]
      rcases h with h | h | h | h
      · rw [h, hmsb 18 (by decide)]
        simp only [Bool.or_true, Bool.true_or]
      · rw [h, hmsb 12 (by decide)]
        simp only [Bool.or_true, Bool.true_or]
      · rw [h, hmsb 6 (by decide)]
        simp only [Bool.or_true, Bool.true_or]
      · rw [h, hmsb 0 (by decide)]
        simp only [Bool.or_true]
    rw [BitVec.msb_eq_decide] at hsign
    exact of_decide_eq_true hsign
  have hval : ∀ {x : UInt8} {n : ℕ}, base64Value (.ofUInt8 x) = some n → decodeSextet x = BitVec.ofNat 32 n ∧ n < 64 :=
    fun h => ⟨by rw [decodeSextet_eq, h]; rfl, (base64Value_eq_some.1 h).1⟩
  rw [WgQuick.decodeBase64]
  cases ha : base64Value (.ofUInt8 a) with
  | none => exact Or.inr ⟨rfl, hnone (Or.inl (by rw [decodeSextet_eq, ha]; rfl))⟩
  | some va =>
  cases hb : base64Value (.ofUInt8 b) with
  | none => exact Or.inr ⟨rfl, hnone (Or.inr (Or.inl (by rw [decodeSextet_eq, hb]; rfl)))⟩
  | some vb =>
  cases hc : base64Value (.ofUInt8 c) with
  | none => exact Or.inr ⟨rfl, hnone (Or.inr (Or.inr (Or.inl (by rw [decodeSextet_eq, hc]; rfl))))⟩
  | some vc =>
  cases hd : base64Value (.ofUInt8 d) with
  | none => exact Or.inr ⟨rfl, hnone (Or.inr (Or.inr (Or.inr (by rw [decodeSextet_eq, hd]; rfl))))⟩
  | some vd =>
  obtain ⟨ha, hva⟩ := hval ha
  obtain ⟨hb, hvb⟩ := hval hb
  obtain ⟨hc, hvc⟩ := hval hc
  obtain ⟨hd, hvd⟩ := hval hd
  refine Or.inl ⟨_, rfl, by omega, ?_⟩
  have hofNat : ∀ {n i : ℕ}, n < 64 → i ≤ 18 → ((BitVec.ofNat 32 n) <<< i).toNat = n * 2 ^ i := by
    intro n i hn hi
    have hpow : 2 ^ i ≤ 2 ^ 18 := Nat.pow_le_pow_right (by decide) hi
    have hmul := Nat.mul_le_mul (Nat.le_of_lt_succ hn) hpow
    have htoNat : (BitVec.ofNat 32 n).toNat = n := Nat.mod_eq_of_lt (by omega)
    rw [toNat_shiftLeft (by rw [htoNat]; omega), htoNat]
  have h18 := hofNat hva (i := 18) (by decide)
  have h12 := hofNat hvb (i := 12) (by decide)
  have h6 := hofNat hvc (i := 6) (by decide)
  have h0 := hofNat hvd (i := 0) (by decide)
  have hab := toNat_or 18 h18 (by rw [h12]; omega)
  have habc := toNat_or (k := va * 64 + vb) 12 (by rw [hab, h12]; omega) (by rw [h6]; omega)
  have habcd := toNat_or (k := va * 64 * 64 + vb * 64 + vc) 6 (by rw [habc, h6]; omega) (by rw [h0]; omega)
  rw [decodeBase64, ha, hb, hc, hd, BitVec.zero_or, habcd, h0]
  omega

/-! ### Base64, key by key -/

lemma toByte_or (x y : BitVec 32) : toByte (x ||| y) = toByte x ||| toByte y := by
  rw [toByte, BitVec.setWidth_or]
  rfl

lemma ofNat_mod (n : ℕ) : UInt8.ofNat (n % 2 ^ 8) = .ofNat n := by
  rw [← UInt8.toNat_inj, UInt8.toNat_ofNat', UInt8.toNat_ofNat']
  exact Nat.mod_mod _ _

/-- What is taken from the 24 bits of a group. -/
lemma bytes_of_lt {v : BitVec 32} (h : v.toNat < 2 ^ 24) :
    toByte (v >>> 31) = 0 ∧ toByte (v.sshiftRight 16 &&& 0xff) = .ofNat (v.toNat / 2 ^ 16) ∧
      toByte (v.sshiftRight 8 &&& 0xff) = .ofNat (v.toNat / 2 ^ 8) ∧ toByte (v &&& 0xff) = .ofNat v.toNat := by
  refine ⟨?_, ?_, ?_, ?_⟩
  · rw [toByte_eq, BitVec.toNat_ushiftRight, Nat.shiftRight_eq_div_pow, Nat.div_eq_of_lt (by omega)]
    rfl
  · rw [toByte_eq, toNat_and _ 8 rfl, ofNat_mod, toNat_sshiftRight (by omega)]
  · rw [toByte_eq, toNat_and _ 8 rfl, ofNat_mod, toNat_sshiftRight (by omega)]
  · rw [toByte_eq, toNat_and _ 8 rfl, ofNat_mod]

/-- A group with a character that stands for nothing. -/
lemma sign_of_le {v : BitVec 32} (h : 2 ^ 31 ≤ v.toNat) : toByte (v >>> 31) = 1 := by
  rw [toByte_eq, BitVec.toNat_ushiftRight, Nat.shiftRight_eq_div_pow, show v.toNat / 2 ^ 31 = 1 by omega]
  rfl

/-- The loop computes what the decoder with branches does. -/
lemma decodeGroups_spec (l : Bytes) (ret : UInt8) (hlen : 4 ∣ l.length) (hlast : l.getLast? = some 61) :
    ((decodeGroups l ret).1 = 0 ↔ ret = 0 ∧ (WgQuick.decodeGroups (text l)).isSome = true) ∧
      ∀ key, WgQuick.decodeGroups (text l) = some key → (decodeGroups l ret).2 = key := by
  induction l, ret using decodeGroups.induct with
  | case1 a b c d ret =>
    obtain rfl : d = 61 := by simpa using hlast
    have hspec := decodeBase64_spec a b c 65
    rw [show Char.ofUInt8 65 = 'A' by decide] at hspec
    rw [show text [a, b, c, 61] = [.ofUInt8 a, .ofUInt8 b, .ofUInt8 c, '='] from rfl]
    simp only [decodeGroups, WgQuick.decodeGroups, toByte_or, or_eq_zero]
    rcases hspec with ⟨val, hval, hlt, rfl⟩ | ⟨hval, hge⟩
    · obtain ⟨hsign, h16, h8, h0⟩ := bytes_of_lt hlt
      have hzero : UInt8.ofNat (decodeBase64 a b c 65).toNat = 0 ↔ (decodeBase64 a b c 65).toNat % 2 ^ 8 = 0 := by
        rw [← UInt8.toNat_inj, UInt8.toNat_ofNat']
        rfl
      rw [hval, hsign, h16, h8, h0, hzero]
      simp only [Option.bind_eq_bind, Option.bind_some, true_and]
      split
      · rename_i hmod
        exact ⟨by simpa using fun _ => hmod, fun key hkey => Option.some.inj hkey⟩
      · rename_i hmod
        exact ⟨by simpa using fun _ => hmod, fun key hkey => nomatch hkey⟩
    · rw [hval, sign_of_le hge]
      simp
  | case2 a b c d rest ret hne val ret' key hrun ih =>
    have hlast' : ([a, b, c, d] ++ rest).getLast? = some 61 := hlast
    rw [List.getLast?_append_of_ne_nil _ hne] at hlast'
    obtain ⟨hzero, hkey⟩ := ih (by simpa using hlen) hlast'
    rw [or_eq_zero] at hzero
    have hne' : text rest ≠ [] := fun h => hne (List.map_eq_nil_iff.1 h)
    have hgroup : WgQuick.decodeGroups (text (a :: b :: c :: d :: rest)) =
        (WgQuick.decodeBase64 (.ofUInt8 a) (.ofUInt8 b) (.ofUInt8 c) (.ofUInt8 d)).bind fun val =>
          (WgQuick.decodeGroups (text rest)).map fun bytes =>
            UInt8.ofNat (val / 2 ^ 16) :: UInt8.ofNat (val / 2 ^ 8) :: UInt8.ofNat val :: bytes := by
      simp only [text, List.map_cons]
      rw [WgQuick.decodeGroups]
      · simp only [Option.map_eq_bind]
        rfl
      · exact fun _ h => hne' h
    rw [hgroup, decodeGroups]
    · rcases decodeBase64_spec a b c d with ⟨v, hval, hlt, rfl⟩ | ⟨hval, hge⟩
      · obtain ⟨hsign, h16, h8, h0⟩ := bytes_of_lt hlt
        rw [hval, Option.bind_some, Option.isSome_map]
        refine ⟨hzero.trans (by simp only [val, hsign, and_true]), fun key h => ?_⟩
        obtain ⟨bytes, hbytes, rfl⟩ := Option.map_eq_some_iff.1 h
        rw [← h16, ← h8, ← h0, ← hkey bytes hbytes]
      · rw [hval, Option.bind_none]
        refine ⟨hzero.trans ?_, fun key h => nomatch h⟩
        simp [val, sign_of_le hge]
    · exact hne
  | case3 l ret h₁ h₂ =>
    obtain ⟨n, hn⟩ := hlen
    match l, hlast with
    | [_], _ => simp at hn; omega
    | [_, _], _ => simp at hn; omega
    | [_, _, _], _ => simp at hn; omega
    | a :: b :: c :: d :: rest, _ => exact absurd rfl (h₂ a b c d rest)

lemma text_append (a b : Bytes) : text (a ++ b) = text a ++ text b := List.map_append

/-- Four characters, and the three bytes that they are of. -/
lemma decodeBase64_eq_some {a b c d : Char} {val : ℕ} :
    WgQuick.decodeBase64 a b c d = some val ↔ val < 2 ^ 24 ∧
      [a, b, c, d] = text (encodeBase64 (.ofNat (val / 2 ^ 16)) (.ofNat (val / 2 ^ 8)) (.ofNat val)) := by
  have hsextets : text (encodeBase64 (.ofNat (val / 2 ^ 16)) (.ofNat (val / 2 ^ 8)) (.ofNat val)) =
      [val / 2 ^ 18 % 64, val / 2 ^ 12 % 64, val / 2 ^ 6 % 64, val % 64].map
        fun n => .ofUInt8 (encodeSextet (.ofNat n)) := by
    rw [encodeBase64_eq, text, List.map_map]
    simp only [UInt8.toNat_ofNat', Function.comp_def]
    rw [show val / 2 ^ 16 % 2 ^ 8 / 4 = val / 2 ^ 18 % 64 by omega,
      show val / 2 ^ 16 % 2 ^ 8 % 4 * 16 + val / 2 ^ 8 % 2 ^ 8 / 16 = val / 2 ^ 12 % 64 by omega,
      show val / 2 ^ 8 % 2 ^ 8 % 16 * 4 + val % 2 ^ 8 / 64 = val / 2 ^ 6 % 64 by omega,
      show val % 2 ^ 8 % 64 = val % 64 by omega]
  rw [hsextets]
  constructor
  · intro h
    simp only [WgQuick.decodeBase64, Option.bind_eq_bind, Option.bind_eq_some_iff] at h
    obtain ⟨va, ha, vb, hb, vc, hc, vd, hd, h⟩ := h
    obtain rfl := Option.some.inj h
    obtain ⟨hva, rfl⟩ := base64Value_eq_some.1 ha
    obtain ⟨hvb, rfl⟩ := base64Value_eq_some.1 hb
    obtain ⟨hvc, rfl⟩ := base64Value_eq_some.1 hc
    obtain ⟨hvd, rfl⟩ := base64Value_eq_some.1 hd
    refine ⟨by omega, ?_⟩
    rw [show (va * 2 ^ 18 + vb * 2 ^ 12 + vc * 2 ^ 6 + vd) / 2 ^ 18 % 64 = va by omega,
      show (va * 2 ^ 18 + vb * 2 ^ 12 + vc * 2 ^ 6 + vd) / 2 ^ 12 % 64 = vb by omega,
      show (va * 2 ^ 18 + vb * 2 ^ 12 + vc * 2 ^ 6 + vd) / 2 ^ 6 % 64 = vc by omega,
      show (va * 2 ^ 18 + vb * 2 ^ 12 + vc * 2 ^ 6 + vd) % 64 = vd by omega]
    rfl
  · rintro ⟨hlt, h⟩
    simp only [List.map_cons, List.map_nil, List.cons.injEq] at h
    obtain ⟨rfl, rfl, rfl, rfl, -⟩ := h
    have hvalue := fun n (hn : n < 64) => base64Value_eq_some.2 ⟨hn, rfl⟩
    rw [WgQuick.decodeBase64, hvalue _ (Nat.mod_lt _ (by decide)), hvalue _ (Nat.mod_lt _ (by decide)),
      hvalue _ (Nat.mod_lt _ (by decide)), hvalue _ (Nat.mod_lt _ (by decide))]
    refine congrArg some ?_
    omega

/-- Three bytes are read from the four characters that are written for them. -/
lemma exists_encodeBase64 (a b c : UInt8) : ∃ w x y z, text (encodeBase64 a b c) = [w, x, y, z] ∧
    WgQuick.decodeBase64 w x y z = some (a.toNat * 2 ^ 16 + b.toNat * 2 ^ 8 + c.toNat) := by
  have ha := a.toNat_lt
  have hb := b.toNat_lt
  have hc := c.toNat_lt
  refine ⟨_, _, _, _, rfl, decodeBase64_eq_some.2 ⟨by omega, ?_⟩⟩
  rw [show (a.toNat * 2 ^ 16 + b.toNat * 2 ^ 8 + c.toNat) / 2 ^ 16 = a.toNat by omega, ← ofNat_mod (_ / 2 ^ 8),
    show (a.toNat * 2 ^ 16 + b.toNat * 2 ^ 8 + c.toNat) / 2 ^ 8 % 2 ^ 8 = b.toNat by omega,
    ← ofNat_mod (_ * 2 ^ 16 + _ * 2 ^ 8 + _),
    show (a.toNat * 2 ^ 16 + b.toNat * 2 ^ 8 + c.toNat) % 2 ^ 8 = c.toNat by omega, UInt8.ofNat_toNat,
    UInt8.ofNat_toNat, UInt8.ofNat_toNat]
  rfl

lemma bytes_of_val (a b c : UInt8) :
    UInt8.ofNat ((a.toNat * 2 ^ 16 + b.toNat * 2 ^ 8 + c.toNat) / 2 ^ 16) = a ∧
      UInt8.ofNat ((a.toNat * 2 ^ 16 + b.toNat * 2 ^ 8 + c.toNat) / 2 ^ 8) = b ∧
      UInt8.ofNat (a.toNat * 2 ^ 16 + b.toNat * 2 ^ 8 + c.toNat) = c := by
  have ha := a.toNat_lt
  have hb := b.toNat_lt
  have hc := c.toNat_lt
  refine ⟨?_, ?_, ?_⟩
  · rw [← UInt8.toNat_inj, UInt8.toNat_ofNat']
    omega
  · rw [← UInt8.toNat_inj, UInt8.toNat_ofNat']
    omega
  · rw [← UInt8.toNat_inj, UInt8.toNat_ofNat']
    omega

lemma decodeGroups_keyToBase64 {key : Bytes} (h : key.length % 3 = 2) :
    WgQuick.decodeGroups (text (keyToBase64 key)) = some key := by
  induction key using keyToBase64.induct with
  | case1 a b c key ih =>
    have hlen : key.length % 3 = 2 := by
      rw [List.length_cons, List.length_cons, List.length_cons] at h
      omega
    obtain ⟨w, x, y, z, htext, hval⟩ := exists_encodeBase64 a b c
    obtain ⟨h16, h8, h0⟩ := bytes_of_val a b c
    have hne : text (keyToBase64 key) ≠ [] := by
      intro hnil
      have hsome := ih hlen
      rw [hnil] at hsome
      cases hsome
    rw [keyToBase64, text_append, htext]
    simp only [List.cons_append, List.nil_append]
    rw [WgQuick.decodeGroups, hval, ih hlen]
    · exact congrArg some (by rw [h16, h8, h0])
    · exact fun _ h => hne h
  | case2 a b =>
    obtain ⟨w, x, y, z, htext, hval⟩ := exists_encodeBase64 a b 0
    obtain ⟨h16, h8, -⟩ := bytes_of_val a b 0
    have hz : z = 'A' := by
      have hlast := congrArg List.getLast? htext
      rw [encodeBase64_eq] at hlast
      exact (Option.some.inj hlast).symm
    have htext' : text (keyToBase64 [a, b]) = [w, x, y, '='] := by
      rw [keyToBase64, text_append, text, List.map_take, ← text, htext]
      rfl
    rw [htext', WgQuick.decodeGroups, ← hz, hval]
    simp only [Option.bind_eq_bind, Option.bind_some]
    rw [if_pos (by rw [UInt8.toNat_zero]; omega), h16, h8]
  | case3 t h₁ h₂ =>
    match t with
    | [] => cases h
    | [_] => cases h
    | [a, b] => exact absurd rfl (h₂ a b)
    | a :: b :: c :: key => exact absurd rfl (h₁ a b c key)

/-- **One text for a key.** -/
lemma decodeGroups_eq_some {t : Text} {key : Bytes} :
    WgQuick.decodeGroups t = some key ↔ key.length % 3 = 2 ∧ t = text (keyToBase64 key) := by
  constructor
  · intro h
    induction t using WgQuick.decodeGroups.induct generalizing key with
    | case1 a b c =>
      rw [WgQuick.decodeGroups, Option.bind_eq_bind, Option.bind_eq_some_iff] at h
      obtain ⟨val, hval, h⟩ := h
      split at h
      swap
      · cases h
      rename_i hmod
      obtain rfl := Option.some.inj h
      obtain ⟨-, htext⟩ := decodeBase64_eq_some.1 hval
      have hzero : UInt8.ofNat val = 0 := by
        rw [← ofNat_mod, hmod]
        rfl
      rw [hzero] at htext
      refine ⟨rfl, ?_⟩
      rw [keyToBase64, text_append, text, List.map_take, ← text, ← htext]
      rfl
    | case2 a b c d rest hne ih =>
      rw [WgQuick.decodeGroups] at h
      · simp only [Option.bind_eq_bind, Option.bind_eq_some_iff] at h
        obtain ⟨val, hval, bytes, hbytes, h⟩ := h
        obtain rfl := Option.some.inj h
        obtain ⟨hlen, hrest⟩ := ih hbytes
        obtain ⟨-, htext⟩ := decodeBase64_eq_some.1 hval
        refine ⟨?_, ?_⟩
        · rw [List.length_cons, List.length_cons, List.length_cons]
          omega
        · rw [keyToBase64, text_append, ← htext, ← hrest]
          rfl
      · exact hne
    | case3 t h₁ h₂ =>
      rw [WgQuick.decodeGroups] at h
      · cases h
      · exact h₁
      · exact h₂
  · rintro ⟨hlen, rfl⟩
    exact decodeGroups_keyToBase64 hlen

/-! ### Base64, text by text -/

lemma length_keyToBase64 {key : Bytes} (h : key.length % 3 = 2) :
    3 * (keyToBase64 key).length = 4 * (key.length + 1) := by
  induction key using keyToBase64.induct with
  | case1 a b c key ih =>
    rw [List.length_cons, List.length_cons, List.length_cons] at h ⊢
    rw [keyToBase64, encodeBase64_eq, List.length_append]
    have := ih (by omega)
    simp only [List.length_map, List.length_cons, List.length_nil]
    omega
  | case2 a b =>
    rw [keyToBase64, encodeBase64_eq]
    rfl
  | case3 t h₁ h₂ =>
    match t with
    | [] => cases h
    | [_] => cases h
    | [a, b] => exact absurd rfl (h₂ a b)
    | a :: b :: c :: key => exact absurd rfl (h₁ a b c key)

lemma getLast?_keyToBase64 {key : Bytes} (h : key.length % 3 = 2) : (keyToBase64 key).getLast? = some 61 := by
  induction key using keyToBase64.induct with
  | case1 a b c key ih =>
    rw [List.length_cons, List.length_cons, List.length_cons] at h
    rw [keyToBase64, List.getLast?_append, ih (by omega)]
    rfl
  | case2 a b =>
    rw [keyToBase64, List.getLast?_append]
    rfl
  | case3 t h₁ h₂ =>
    match t with
    | [] => cases h
    | [_] => cases h
    | [a, b] => exact absurd rfl (h₂ a b)
    | a :: b :: c :: key => exact absurd rfl (h₁ a b c key)

lemma text_inj {a b : Bytes} : text a = text b ↔ a = b := by
  refine ⟨fun h => ?_, congrArg text⟩
  have hinj : Function.Injective Char.ofUInt8 := by
    intro x y hxy
    have := congrArg Char.toNat hxy
    exact UInt8.toNat_inj.1 this
  exact List.map_injective_iff.2 hinj h

/-- **What `key_from_base64` accepts.**  A key is read from the text that `key_to_base64` writes for it, and from no
other. -/
theorem keyFromBase64_eq_some {base64 key : Bytes} :
    keyFromBase64 base64 = some key ↔ key.length = keyLength ∧ base64 = keyToBase64 key := by
  have hlast : key.length = 32 → (keyToBase64 key).length = 44 ∧ (keyToBase64 key).getLast? = some 61 := by
    intro hlen
    have hmod : key.length % 3 = 2 := by omega
    have h44 := length_keyToBase64 hmod
    exact ⟨by omega, getLast?_keyToBase64 hmod⟩
  unfold keyFromBase64
  split
  · rename_i hbad
    refine iff_of_false (fun h => nomatch h) ?_
    rintro ⟨hlen, rfl⟩
    exact hbad.elim (fun h => h (hlast hlen).1) fun h => h (hlast hlen).2
  · rename_i hgood
    have h44 : base64.length = 44 := not_not.1 (not_or.1 hgood).1
    obtain ⟨hzero, hkey⟩ := decodeGroups_spec base64 0 (by rw [h44]; decide) (not_not.1 (not_or.1 hgood).2)
    have hread : (decodeGroups base64 0).1 = 0 ∧ (decodeGroups base64 0).2 = key ↔
        WgQuick.decodeGroups (text base64) = some key := by
      constructor
      · rintro ⟨hret, rfl⟩
        obtain ⟨key, hsome⟩ := Option.isSome_iff_exists.1 (hzero.1 hret).2
        rw [hsome, hkey key hsome]
      · intro hsome
        exact ⟨hzero.2 ⟨rfl, by rw [hsome]; rfl⟩, hkey key hsome⟩
    simp only [isZero_iff]
    trans (decodeGroups base64 0).1 = 0 ∧ (decodeGroups base64 0).2 = key
    · split
      · rename_i hret
        rw [Option.some_inj, and_iff_right hret]
      · rename_i hret
        exact iff_of_false (fun h => nomatch h) fun h => hret h.1
    · rw [hread, decodeGroups_eq_some, text_inj]
      refine ⟨fun ⟨hmod, h⟩ => ⟨?_, h⟩, fun ⟨hlen, h⟩ => ⟨by rw [hlen]; rfl, h⟩⟩
      have hlen := length_keyToBase64 hmod
      rw [← h, h44] at hlen
      exact (show key.length = 32 by omega)

/-- A key that has been read is the one that was written. -/
theorem keyFromBase64_keyToBase64 (key : BaseKey) : keyFromBase64 (keyToBase64 key.rawValue) = some key.rawValue :=
  keyFromBase64_eq_some.2 ⟨key.count_eq, rfl⟩

/-- The bytes of a C string. -/
def cString (s : Text) : Bytes := before 0 (utf8 s)

/-- `init?(base64Key:)` -/
def initBase64Key (base64Key : Text) : Option BaseKey :=
  (keyFromBase64 (cString base64Key)).bind fun bytes =>
    if h : bytes.length = keyLength then some ⟨bytes, h⟩ else none

lemma zero_notMem_utf8EncodeChar {c : Char} (h : c ≠ '\x00') : 0 ∉ String.utf8EncodeChar c := by
  have hv : c.val.toNat ≠ 0 := fun hz => h (Char.toNat_inj.1 hz)
  have hbyte : ∀ n : ℕ, (0 : UInt8) = .ofNat n ↔ n % 2 ^ 8 = 0 := by
    intro n
    rw [← UInt8.toNat_inj, UInt8.toNat_ofNat', eq_comm]
    rfl
  unfold String.utf8EncodeChar
  dsimp only
  split
  · simp only [List.mem_singleton, hbyte]
    omega
  split
  · simp only [List.mem_cons, List.not_mem_nil, or_false, hbyte]
    omega
  split
  · simp only [List.mem_cons, List.not_mem_nil, or_false, hbyte]
    omega
  · simp only [List.mem_cons, List.not_mem_nil, or_false, hbyte]
    omega

/-- A C string ends where the text has a zero. -/
lemma cString_eq (s : Text) : cString s = utf8 (before '\x00' s) := by
  induction s with
  | nil => rfl
  | cons c s ih =>
    rw [cString, utf8_cons]
    by_cases hc : c = '\x00'
    · rw [hc]
      rfl
    · rw [before_append_of_notMem (zero_notMem_utf8EncodeChar hc), show before 0 (utf8 s) = cString s from rfl, ih,
        ← utf8_cons]
      exact congrArg utf8 (before_append_of_notMem (u := [c]) (by simpa using Ne.symm hc) s).symm

lemma utf8_text {l : Bytes} (h : ∀ b ∈ l, b < 128) : utf8 (text l) = l := by
  induction l with
  | nil => rfl
  | cons b l ih =>
    have hlt : b.toNat < 128 := UInt8.lt_iff_toNat_lt.1 (h b List.mem_cons_self)
    have hb : String.utf8EncodeChar (.ofUInt8 b) = [b] := by
      unfold String.utf8EncodeChar
      rw [if_pos (show (Char.ofUInt8 b).val.toNat ≤ 127 from Nat.le_of_lt_succ hlt)]
      exact congrArg (fun c : UInt8 => [c]) UInt8.ofNat_toNat
    rw [text, List.map_cons, utf8_cons, hb, ← text, ih fun x hx => h x (List.mem_cons_of_mem _ hx)]
    rfl

/-- The characters of base64 are ASCII. -/
lemma lt_of_mem_keyToBase64 {key : Bytes} {x : UInt8} (hx : x ∈ keyToBase64 key) : x < 128 := by
  have hsextet : ∀ n < 64, encodeSextet (.ofNat n) < 128 := fun n hn =>
    UInt8.lt_iff_toNat_lt.2 (toNat_lt_of_base64Value (base64Value_table.1 n hn))
  have hgroup : ∀ a b c : UInt8, x ∈ encodeBase64 a b c → x < 128 := by
    intro a b c hx
    have ha := a.toNat_lt
    have hb := b.toNat_lt
    have hc := c.toNat_lt
    rw [encodeBase64_eq] at hx
    obtain ⟨n, hn, rfl⟩ := List.mem_map.1 hx
    refine hsextet n ?_
    simp only [List.mem_cons, List.not_mem_nil, or_false] at hn
    omega
  induction key using keyToBase64.induct with
  | case1 a b c key ih =>
    rw [keyToBase64] at hx
    exact (List.mem_append.1 hx).elim (hgroup a b c) ih
  | case2 a b =>
    rw [keyToBase64] at hx
    rcases List.mem_append.1 hx with hx | hx
    · exact hgroup a b 0 (List.mem_of_mem_take hx)
    · rw [List.mem_singleton.1 hx]
      decide
  | case3 t h₁ h₂ =>
    rw [keyToBase64] at hx
    · cases hx
    · exact h₁
    · exact h₂

/-- **The two decoders.**  The masks read what the decoder with branches reads, from any text. -/
theorem initBase64Key_eq (base64Key : Text) : initBase64Key base64Key = BaseKey.ofBase64 base64Key := by
  have hlen : ∀ bytes : Bytes, ∀ key : BaseKey, ((if h : bytes.length = keyLength then some (BaseKey.mk bytes h) else none) =
      some key) ↔ bytes = key.rawValue := by
    intro bytes key
    split
    · rw [Option.some_inj]
      exact ⟨fun h => h ▸ rfl, fun h => by cases key; cases h; rfl⟩
    · rename_i h
      exact iff_of_false (fun h => nomatch h) fun hc => h (hc ▸ key.count_eq)
  refine Option.ext fun key => ?_
  have hmod : key.rawValue.length % 3 = 2 := by
    rw [key.count_eq]
    rfl
  have h44 : (keyToBase64 key.rawValue).length = 44 := by
    have h := length_keyToBase64 hmod
    rw [show key.rawValue.length = 32 from key.count_eq] at h
    omega
  have hmasks : initBase64Key base64Key = some key ↔ before '\x00' base64Key = text (keyToBase64 key.rawValue) := by
    simp only [initBase64Key, Option.bind_eq_some_iff, hlen, keyFromBase64_eq_some]
    rw [cString_eq, ← utf8_inj, utf8_text fun _ => lt_of_mem_keyToBase64]
    constructor
    · rintro ⟨bytes, ⟨-, h⟩, rfl⟩
      exact h
    · exact fun h => ⟨_, ⟨key.count_eq, h⟩, rfl⟩
  have hbranches : BaseKey.ofBase64 base64Key = some key ↔
      before '\x00' base64Key = text (keyToBase64 key.rawValue) := by
    unfold BaseKey.ofBase64
    dsimp only
    split
    · simp only [Option.bind_eq_some_iff, hlen, decodeGroups_eq_some]
      constructor
      · rintro ⟨bytes, ⟨-, h⟩, rfl⟩
        exact h
      · exact fun h => ⟨_, ⟨hmod, h⟩, rfl⟩
    · rename_i hne
      refine iff_of_false (fun h => nomatch h) fun h => hne ?_
      rw [h, text, List.length_map]
      exact h44
  rw [hmasks, hbranches]

/-! ### Hexadecimal, key by key -/

/-- A capital digit as a small one. -/
def lower (c : UInt8) : UInt8 := if 65 ≤ c ∧ c ≤ 70 then c + 32 else c

/-- The halves of a byte. -/
lemma ofByte_halves (b : UInt8) :
    ofByte b >>> 4 = BitVec.ofNat 32 (b.toNat / 16) ∧ ofByte b &&& 0xf = BitVec.ofNat 32 (b.toNat % 16) := by
  have hlt := b.toNat_lt
  constructor
  · refine BitVec.eq_of_toNat_eq ?_
    rw [BitVec.toNat_ushiftRight, toNat_ofByte, Nat.shiftRight_eq_div_pow, BitVec.toNat_ofNat, Nat.mod_eq_of_lt (by omega)]
  · refine BitVec.eq_of_toNat_eq ?_
    rw [toNat_and _ 4 rfl, toNat_ofByte, BitVec.toNat_ofNat]
    exact (Nat.mod_eq_of_lt (by omega)).symm

/-- A byte from its halves. -/
lemma toNat_join {x y : UInt8} (hx : x.toNat < 16) (hy : y.toNat < 16) : (x * 16 ||| y).toNat = x.toNat * 16 + y.toNat := by
  have h16 : (x * 16).toNat = x.toNat <<< 4 := by
    rw [UInt8.toNat_mul, Nat.shiftLeft_eq]
    exact Nat.mod_eq_of_lt (show x.toNat * 16 < 256 by omega)
  rw [UInt8.toNat_or, h16, ← Nat.shiftLeft_add_eq_or_of_lt hy, Nat.shiftLeft_eq]

/-- The text for the device has the digits that `key_to_hex` writes. -/
theorem text_keyToHex (key : BaseKey) : text (keyToHex key.rawValue) = AmneziaWG.hexKey key := by
  have hdigit : ∀ n < 16, Char.ofUInt8 (hexChar (BitVec.ofNat 32 n)) = AmneziaWG.hexDigit n := by decide
  have hbyte : ∀ b : UInt8, text [hexChar (ofByte b >>> 4), hexChar (ofByte b &&& 0xf)] =
      [AmneziaWG.hexDigit (b.toNat / 16), AmneziaWG.hexDigit (b.toNat % 16)] := by
    intro b
    have hlt := b.toNat_lt
    rw [(ofByte_halves b).1, (ofByte_halves b).2, ← hdigit _ (by omega), ← hdigit _ (Nat.mod_lt _ (by decide))]
    rfl
  rw [text, keyToHex, AmneziaWG.hexKey, List.map_flatMap]
  exact congrArg (key.rawValue.flatMap ·) (funext hbyte)

/-- A character is taken if and only if it is a digit, and then its value is that of the digit. -/
lemma hexValue_spec (c : UInt8) : (hexValue c).2 < 16 ∧
    ∀ n < 16, hexValue c = (0, .ofNat n) ↔ lower c = hexChar (BitVec.ofNat 32 n) := by
  revert c
  exact forall_byte (by decide +kernel)

/-- The two digits of a byte. -/
lemma hexValue_pair (a b k : UInt8) :
    (hexValue a).1 = 0 ∧ (hexValue b).1 = 0 ∧ (hexValue a).2 * 16 ||| (hexValue b).2 = k ↔
      lower a = hexChar (ofByte k >>> 4) ∧ lower b = hexChar (ofByte k &&& 0xf) := by
  have hlt := k.toNat_lt
  have ha := UInt8.lt_iff_toNat_lt.1 (hexValue_spec a).1
  have hb := UInt8.lt_iff_toNat_lt.1 (hexValue_spec b).1
  have hvalue : ∀ (c : UInt8) {n : ℕ}, n < 16 → (hexValue c = (0, .ofNat n) ↔ (hexValue c).1 = 0 ∧ (hexValue c).2.toNat = n) :=
    fun c n hn => by
      rw [Prod.ext_iff, ← UInt8.toNat_inj (a := (hexValue c).2), UInt8.toNat_ofNat_of_lt' (hn.trans (by decide))]
  rw [(ofByte_halves k).1, (ofByte_halves k).2, ← (hexValue_spec a).2 _ (by omega),
    ← (hexValue_spec b).2 _ (Nat.mod_lt _ (by decide)), hvalue a (by omega), hvalue b (Nat.mod_lt _ (by decide)),
    ← UInt8.toNat_inj (a := _ ||| _), toNat_join ha hb]
  have ha' : (hexValue a).2.toNat < 16 := ha
  have hb' : (hexValue b).2.toNat < 16 := hb
  constructor
  · rintro ⟨h₁, h₂, h⟩
    exact ⟨⟨h₁, by omega⟩, h₂, by omega⟩
  · rintro ⟨⟨h₁, ha⟩, h₂, hb⟩
    exact ⟨h₁, h₂, by omega⟩

/-- The loop of `key_from_hex`. -/
lemma decodePairs_spec (l : Bytes) (ret : UInt8) (hlen : 2 ∣ l.length) (key : Bytes) :
    (decodePairs l ret).1 = 0 ∧ (decodePairs l ret).2 = key ↔ ret = 0 ∧ l.map lower = keyToHex key := by
  induction l, ret using decodePairs.induct generalizing key with
  | case1 a b rest ret ret' key' hrun ih =>
    rw [decodePairs, List.map_cons, List.map_cons]
    cases key with
    | nil => simp [keyToHex]
    | cons k key =>
      rw [List.cons.injEq, show keyToHex (k :: key) = hexChar (ofByte k >>> 4) :: hexChar (ofByte k &&& 0xf) ::
        keyToHex key from rfl, List.cons.injEq, List.cons.injEq]
      have hpair := hexValue_pair a b k
      have hrest := ih (by simpa using hlen) key
      rw [or_eq_zero, or_eq_zero] at hrest
      tauto
  | case2 l ret h =>
    obtain ⟨n, hn⟩ := hlen
    match l with
    | [] =>
      rw [decodePairs]
      · cases key with
        | nil => simp [keyToHex]
        | cons k key => simp [keyToHex]
      · exact h
    | [_] => simp at hn; omega
    | a :: b :: rest => exact absurd rfl (h a b rest)

lemma length_keyToHex (key : Bytes) : (keyToHex key).length = 2 * key.length := by
  rw [keyToHex, List.length_flatMap]
  simp [Nat.mul_comm]

/-- **What `key_from_hex` accepts.**  A key is read from the digits that `key_to_hex` writes for it, in capitals or
not, and from nothing else. -/
theorem keyFromHex_eq_some {hex key : Bytes} :
    keyFromHex hex = some key ↔ key.length = keyLength ∧ hex.map lower = keyToHex key := by
  unfold keyFromHex
  split
  · rename_i hlen
    refine iff_of_false (fun h => nomatch h) ?_
    rintro ⟨hkey, h⟩
    have hlength := congrArg List.length h
    rw [List.length_map, length_keyToHex, hkey] at hlength
    exact hlen hlength
  · rename_i hlen
    have h64 := not_not.1 hlen
    have hspec := decodePairs_spec hex 0 (by rw [h64]; decide) key
    simp only [isZero_iff]
    trans (decodePairs hex 0).1 = 0 ∧ (decodePairs hex 0).2 = key
    · split
      · rename_i hret
        rw [Option.some_inj, and_iff_right hret]
      · rename_i hret
        exact iff_of_false (fun h => nomatch h) fun h => hret h.1
    · rw [hspec]
      refine ⟨fun ⟨_, h⟩ => ⟨?_, h⟩, fun ⟨_, h⟩ => ⟨rfl, h⟩⟩
      have hlength := congrArg List.length h
      rw [List.length_map, length_keyToHex, h64] at hlength
      exact (show key.length = 32 by omega)

/-! ### Comparison -/

lemma foldl_eq_zero (l : List (UInt8 × UInt8)) (acc : UInt8) :
    l.foldl (fun acc p => acc ||| p.1 ^^^ p.2) acc = 0 ↔ acc = 0 ∧ ∀ p ∈ l, p.1 = p.2 := by
  induction l generalizing acc with
  | nil => simp
  | cons p l ih =>
    rw [List.foldl_cons, ih, or_eq_zero, List.forall_mem_cons, and_assoc, UInt8.xor_eq_zero_iff]

/-- **The comparison** of keys is equality. -/
theorem keyEq_iff (key1 key2 : BaseKey) : keyEq key1.rawValue key2.rawValue = true ↔ key1 = key2 := by
  have hzip : ∀ a b : Bytes, a.length = b.length → ((∀ p ∈ a.zip b, p.1 = p.2) ↔ a = b) := by
    intro a
    induction a with
    | nil =>
      intro b hlen
      rw [List.length_eq_zero_iff.1 hlen.symm]
      simp
    | cons x a ih =>
      intro b hlen
      cases b with
      | nil => cases hlen
      | cons y b =>
        rw [List.zip_cons_cons, List.forall_mem_cons, ih b (Nat.succ_inj.1 hlen), List.cons.injEq]
  rw [keyEq, isZero_iff, foldl_eq_zero, hzip _ _ (key1.count_eq.trans key2.count_eq.symm), and_iff_right rfl]
  cases key1
  cases key2
  simp

end FreeVPN.Keys
