import Mathlib.Algebra.Group.Int.Defs
import Mathlib.Algebra.GroupWithZero.Nat
import Mathlib.Data.Nat.Init
import Mathlib.Tactic.Common

/-!
# Buffers

The bytes of a packet, as the protocol reads them from the front and puts them before what is there.  A read
past the end raises `BufferException`, which is `none` here.
-/

namespace FreeVPN.ControlChannel

abbrev Byte := BitVec 8

/-- `Buffer` -/
abbrev Buffer := List Byte

/-- The bytes of a number in network order, as `htonl` leaves them in memory. -/
def htonl (x : BitVec 32) : Buffer :=
  [x.extractLsb' 24 8, x.extractLsb' 16 8, x.extractLsb' 8 8, x.extractLsb' 0 8]

/-- `read` of four bytes, and `ntohl`. -/
def readNtohl : Buffer → Option (BitVec 32 × Buffer)
  | a :: b :: c :: d :: rest => some (a ++ b ++ c ++ d, rest)
  | _ => none

/-- `pop_front` -/
def popFront : Buffer → Option (Byte × Buffer)
  | [] => none
  | b :: rest => some (b, rest)

@[simp] lemma popFront_cons (b : Byte) (rest : Buffer) : popFront (b :: rest) = some (b, rest) := rfl

@[simp] lemma length_htonl (x : BitVec 32) : (htonl x).length = 4 := rfl

/-- A number is read back as it was written. -/
@[simp] lemma readNtohl_htonl (x : BitVec 32) (rest : Buffer) : readNtohl (htonl x ++ rest) = some (x, rest) := by
  have h : x.extractLsb' 24 8 ++ x.extractLsb' 16 8 ++ x.extractLsb' 8 8 ++ x.extractLsb' 0 8 = x := by
    rw [BitVec.extractLsb'_append_extractLsb'_eq_extractLsb' (by omega),
      BitVec.extractLsb'_append_extractLsb'_eq_extractLsb' (by omega),
      BitVec.extractLsb'_append_extractLsb'_eq_extractLsb' (by omega)]
    exact BitVec.extractLsb'_eq_self
  simp only [htonl, List.cons_append, List.nil_append, readNtohl, h]

end FreeVPN.ControlChannel
