import FreeVPN.Foundation.Text

/-!
# UTF-8

The bytes of a text, and `String(data:encoding: .utf8)`, which gives the text of its bytes back
(`decodeUtf8_eq_some`).  The bytes of a text are those of no other text with something behind it
(`prefix_of_utf8_append`), so that the text of the first bytes is the beginning of the text.
-/

namespace FreeVPN.Foundation

/-- `Data` -/
abbrev Bytes := List UInt8

/-- `Data(s.utf8)` -/
def utf8 (s : Text) : Bytes := s.flatMap String.utf8EncodeChar

/-- `String(data:encoding: .utf8)`: nil unless the bytes are UTF-8. -/
def decodeUtf8 (data : Bytes) : Option Text := (String.fromUTF8? ⟨data.toArray⟩).map String.toList

@[simp] lemma utf8_nil : utf8 [] = [] := rfl

lemma utf8_cons (c : Char) (s : Text) : utf8 (c :: s) = String.utf8EncodeChar c ++ utf8 s := rfl

@[simp] lemma utf8_append (s t : Text) : utf8 (s ++ t) = utf8 s ++ utf8 t := List.flatMap_append

lemma length_le_length_utf8 (s : Text) : s.length ≤ (utf8 s).length := by
  induction s with
  | nil => rfl
  | cons c s ih =>
    have hc := c.utf8Size_pos
    rw [utf8_cons, List.length_append, String.length_utf8EncodeChar, List.length_cons]
    omega

lemma utf8_eq_nil {s : Text} : utf8 s = [] ↔ s = [] := by
  constructor
  · intro h
    have hs := length_le_length_utf8 s
    rw [h] at hs
    exact List.length_eq_zero_iff.1 (Nat.le_zero.1 hs)
  · rintro rfl
    rfl

/-- **Decoding** gives back what the bytes are of. -/
lemma decodeUtf8_eq_some {data : Bytes} {s : Text} : decodeUtf8 data = some s ↔ data = utf8 s := by
  have hdata : (⟨data.toArray⟩ : ByteArray) = data.toByteArray := ByteArray.ext List.data_toByteArray.symm
  rw [decodeUtf8, hdata, Option.map_eq_some_iff]
  unfold String.fromUTF8?
  constructor
  · rintro ⟨str, hstr, rfl⟩
    split at hstr
    · rename_i hvalid
      obtain rfl := Option.some.inj hstr
      have hbytes : (String.fromUTF8 data.toByteArray hvalid).toList.utf8Encode = data.toByteArray :=
        String.utf8Encode_toList
      exact (List.toByteArray_inj.1 hbytes).symm
    · cases hstr
  · rintro rfl
    have hvalid : (utf8 s).toByteArray.IsValidUTF8 := ⟨s, rfl⟩
    rw [dif_pos hvalid]
    refine ⟨_, rfl, ?_⟩
    rw [show String.fromUTF8 (utf8 s).toByteArray hvalid = String.ofList s from
      String.toByteArray_inj.1 String.toByteArray_ofList.symm, String.toList_ofList]

lemma decodeUtf8_utf8 (s : Text) : decodeUtf8 (utf8 s) = some s := decodeUtf8_eq_some.2 rfl

lemma utf8_inj {s t : Text} : utf8 s = utf8 t ↔ s = t := by
  constructor
  · intro h
    have hs := decodeUtf8_utf8 s
    rw [h, decodeUtf8_utf8] at hs
    exact (Option.some.inj hs).symm
  · rintro rfl
    rfl

lemma prefix_of_utf8_append {s t : Text} {data : Bytes} (h : utf8 s ++ data = utf8 t) : s <+: t := by
  apply List.isPrefix_of_utf8Encode_append_eq_utf8Encode data.toByteArray
  rw [List.utf8Encode, List.utf8Encode, ← List.toByteArray_append]
  exact congrArg List.toByteArray h

end FreeVPN.Foundation
