import FreeVPN.Foundation.Utf8
import FreeVPN.Upload.ProfileServer

/-!
# The fields of the form

The page posts `name`, `config`, `username` and `password` as `application/x-www-form-urlencoded`, and
`parseFormParams` takes the body apart.

* `urlencoded`, `formBody` — how a browser writes the fields;
* `percentDecode_urlencoded` — decoding gives the bytes back, one by one;
* `parseFormParams_formBody` — the fields come back as they were, in whatever order they are written.
-/

namespace FreeVPN.Upload

open FreeVPN.Lib FreeVPN.Foundation

/-! ### Encoding -/

/-- ASCII letters and digits. -/
def isAlphanumeric (b : UInt8) : Bool :=
  (0x30 ≤ b && b ≤ 0x39) || (0x41 ≤ b && b ≤ 0x5A) || (0x61 ≤ b && b ≤ 0x7A)

/-- The bytes that are written as they are: all letters and digits, and none that means something, which are
the blank, `%`, `&`, `+` and `=`. -/
structure Unreserved where
  plain : UInt8 → Bool
  of_isAlphanumeric : ∀ b, isAlphanumeric b → plain b
  ascii : ∀ b, plain b → b.toNat < 128
  notMem : ∀ b, plain b → b ∉ [0x20, 0x25, 0x26, 0x2B, 0x3D]

lemma forall_byte {P : UInt8 → Prop} (h : ∀ n < 256, P (UInt8.ofNat n)) (b : UInt8) : P b := by
  have hb := h b.toNat b.toNat_lt
  rwa [UInt8.ofNat_toNat] at hb

/-- What browsers leave as it is: also `*`, `-`, `.` and `_`. -/
def Unreserved.standard : Unreserved where
  plain b := isAlphanumeric b || b ∈ [0x2A, 0x2D, 0x2E, 0x5F]
  of_isAlphanumeric b hb := by simp [hb]
  ascii := forall_byte (by decide +kernel)
  notMem := forall_byte (by decide +kernel)

/-- A hexadecimal digit. -/
def hexDigit (n : ℕ) : Char := Char.ofNat (if n < 10 then 48 + n else 55 + n)

variable (u : Unreserved)

/-- How a byte is written. -/
def urlencodedByte (b : UInt8) : Text :=
  if b = 0x20 then ['+']
  else if u.plain b then [Char.ofNat b.toNat]
  else ['%', hexDigit (b.toNat / 16), hexDigit (b.toNat % 16)]

/-- How a text is written. -/
def urlencoded (s : Text) : Text := (utf8 s).flatMap (urlencodedByte u)

/-- The body of a form with these names and values. -/
def formBody (fields : List (Text × Text)) : Text :=
  joined ['&'] (fields.map fun f => urlencoded u f.1 ++ '=' :: urlencoded u f.2)

/-! ### Decoding -/

section Decoding

/-- `replacingOccurrences(of: "+", with: " ")`, one character. -/
def plusToSpace (c : Char) : Char := if c = '+' then ' ' else c

lemma percentDecode_cons_of_ne {c : Char} (hc : c ≠ '%') (s : Text) :
    percentDecode (c :: s) = (percentDecode s).map fun bytes => String.utf8EncodeChar c ++ bytes := by
  rw [percentDecode]
  · exact fun a b s' h => absurd h hc
  · exact hc

lemma hexDigit_spec : ∀ n < 16, hexValue (hexDigit n) = some n ∧ plusToSpace (hexDigit n) = hexDigit n ∧
    hexDigit n ≠ '&' ∧ hexDigit n ≠ '=' := by
  decide +kernel

lemma utf8EncodeChar_ofNat : ∀ n < 128, String.utf8EncodeChar (Char.ofNat n) = [UInt8.ofNat n] := by
  decide +kernel

/-- A byte that is written as it is is not written as a character that means something. -/
lemma ne_of_plain {b : UInt8} (hb : u.plain b) {c : Char}
    (hc : UInt8.ofNat c.toNat ∈ ([0x20, 0x25, 0x26, 0x2B, 0x3D] : List UInt8)) : Char.ofNat b.toNat ≠ c := by
  rintro rfl
  have hback : UInt8.ofNat (Char.ofNat b.toNat).toNat = b :=
    forall_byte (P := fun b => UInt8.ofNat (Char.ofNat b.toNat).toNat = b) (by decide +kernel) b
  rw [hback] at hc
  exact u.notMem b hb hc

/-- The characters that are written are no separators. -/
lemma mem_urlencodedByte {b : UInt8} {c : Char} (hc : c ∈ urlencodedByte u b) : c ≠ '&' ∧ c ≠ '=' := by
  have hb : b.toNat < 256 := b.toNat_lt
  unfold urlencodedByte at hc
  split_ifs at hc with hblank hplain
  · obtain rfl := List.mem_singleton.1 hc
    decide
  · obtain rfl := List.mem_singleton.1 hc
    exact ⟨ne_of_plain u hplain (by decide), ne_of_plain u hplain (by decide)⟩
  · simp only [List.mem_cons, List.not_mem_nil, or_false] at hc
    rcases hc with rfl | rfl | rfl
    · decide
    · exact (hexDigit_spec _ (by omega)).2.2
    · exact (hexDigit_spec _ (by omega)).2.2

/-- **A byte comes back.** -/
lemma percentDecode_urlencodedByte (b : UInt8) (s : Text) :
    percentDecode ((urlencodedByte u b).map plusToSpace ++ s) = (percentDecode s).map (b :: ·) := by
  have hb : b.toNat < 256 := b.toNat_lt
  unfold urlencodedByte
  split_ifs with hblank hplain
  · subst hblank
    exact percentDecode_cons_of_ne (by decide) s
  · have hplus : plusToSpace (Char.ofNat b.toNat) = Char.ofNat b.toNat := if_neg (ne_of_plain u hplain (by decide))
    rw [List.map_singleton, hplus, List.singleton_append,
      percentDecode_cons_of_ne (ne_of_plain u hplain (by decide)), utf8EncodeChar_ofNat _ (u.ascii b hplain),
      UInt8.ofNat_toNat]
    rfl
  · obtain ⟨hhi, hhi', -⟩ := hexDigit_spec (b.toNat / 16) (by omega)
    obtain ⟨hlo, hlo', -⟩ := hexDigit_spec (b.toNat % 16) (by omega)
    simp only [List.map_cons, List.map_nil, hhi', hlo', List.cons_append, List.nil_append]
    have hbyte : UInt8.ofNat (16 * (b.toNat / 16) + b.toNat % 16) = b := by
      rw [Nat.div_add_mod, UInt8.ofNat_toNat]
    rw [show plusToSpace '%' = '%' from rfl, percentDecode, hhi, hlo]
    cases percentDecode s with
    | none => rfl
    | some bytes => exact congrArg (fun b => some (b :: bytes)) hbyte

lemma percentDecode_urlencoded (s : Text) :
    percentDecode ((urlencoded u s).map plusToSpace) = some (utf8 s) := by
  unfold urlencoded
  induction utf8 s with
  | nil => rfl
  | cons b bytes ih =>
    rw [List.flatMap_cons, List.map_append, percentDecode_urlencodedByte, ih]
    rfl

lemma removingPercentEncoding_urlencoded (s : Text) :
    removingPercentEncoding ((urlencoded u s).map plusToSpace) = some s := by
  rw [removingPercentEncoding, percentDecode_urlencoded, Option.bind_some]
  exact decodeUtf8_utf8 s

end Decoding

/-! ### The fields -/

/-- The fields of the form. -/
inductive Field
  | name
  | config
  | username
  | password
  deriving DecidableEq

/-- The name of a field. -/
def Field.key : Field → Text
  | .name => "name".toList
  | .config => "config".toList
  | .username => "username".toList
  | .password => "password".toList

/-- All fields. -/
def Field.all : List Field := [.name, .config, .username, .password]

/-- The values under the names of the fields, and nothing else. -/
def assigned (value : Field → Text) (k : Text) : Option Text := (Field.all.find? (·.key = k)).map value

section Fields

/-- A name of letters is written as it is. -/
lemma urlencoded_eq_self {s : Text} (hs : ∀ c ∈ s, 0x61 ≤ c.toNat ∧ c.toNat ≤ 0x7A) : urlencoded u s = s := by
  unfold urlencoded utf8
  induction s with
  | nil => rfl
  | cons c s ih =>
    obtain ⟨hc, htail⟩ := List.forall_mem_cons.1 hs
    have hletter : ∀ n < 0x7B, 0x61 ≤ n → isAlphanumeric (UInt8.ofNat n) = true ∧ UInt8.ofNat n ≠ 0x20 ∧
        (UInt8.ofNat n).toNat = n := by decide +kernel
    obtain ⟨halpha, hblank, hnat⟩ := hletter c.toNat (by omega) hc.1
    have hbytes : String.utf8EncodeChar c = [UInt8.ofNat c.toNat] := by
      rw [← utf8EncodeChar_ofNat _ (by omega), Char.ofNat_toNat]
    have hbyte : urlencodedByte u (UInt8.ofNat c.toNat) = [c] := by
      rw [urlencodedByte, if_neg hblank, if_pos (u.of_isAlphanumeric _ halpha), hnat, Char.ofNat_toNat]
    rw [List.flatMap_cons, List.flatMap_append, ih htail, hbytes, List.flatMap_singleton, hbyte]
    rfl

/-- **A pair comes back.** -/
lemma formField_urlencoded (f : Field) (v : Text) :
    formField (urlencoded u f.key ++ '=' :: urlencoded u v) = (f.key, v) := by
  have hletters : (f.key.all fun c => 0x61 ≤ c.toNat && c.toNat ≤ 0x7A) = true := by cases f <;> decide
  have hkey : ∀ c ∈ f.key, 0x61 ≤ c.toNat ∧ c.toNat ≤ 0x7A := by simpa using hletters
  have hcut : cut '=' (f.key ++ '=' :: urlencoded u v) = some (f.key, urlencoded u v) := by
    refine cut_append_cons (fun hmem => ?_) _
    have := hkey _ hmem
    revert this
    decide
  have hdrop : (f.key ++ '=' :: urlencoded u v).dropWhile (· = '=') = f.key ++ '=' :: urlencoded u v := by
    cases f <;> rfl
  have hparts : splitMax '=' 1 (f.key ++ '=' :: urlencoded u v) =
      f.key :: if urlencoded u v = [] then [] else [urlencoded u v] := by
    rw [splitMax, hdrop, hcut]
    rfl
  have hvalue : (f.key :: if urlencoded u v = [] then [] else [urlencoded u v])[1]?.getD [] = urlencoded u v := by
    split_ifs with hnil
    · exact hnil.symm
    · rfl
  unfold formField
  rw [urlencoded_eq_self u hkey, hparts]
  dsimp only
  rw [hvalue]
  have hdecoded : removingPercentEncoding ((urlencoded u v).map fun c => if c = '+' then ' ' else c) = some v :=
    removingPercentEncoding_urlencoded u v
  rw [hdecoded]
  rfl

lemma key_injective : Function.Injective Field.key := by
  intro f g h
  cases f <;> cases g <;> first | rfl | exact absurd h (by decide)

lemma find?_key {l : List Field} {f : Field} (hf : f ∈ l) : l.find? (·.key = f.key) = some f := by
  obtain ⟨g, hg⟩ : ∃ g, l.find? (·.key = f.key) = some g :=
    Option.isSome_iff_exists.1 (List.find?_isSome.2 ⟨f, hf, by simp⟩)
  have hkey : g.key = f.key := by simpa using List.find?_some hg
  rw [hg, key_injective hkey]

/-- What the loop leaves under a name: the value of its field, if it has come upon it. -/
lemma foldl_update (value : Field → Text) (order : List Field) (r : Text → Option Text) (k : Text) :
    order.foldl (fun (result : Text → Option Text) f => Function.update result f.key (some (value f))) r k =
      ((order.find? (·.key = k)).map value).or (r k) := by
  induction order generalizing r with
  | nil => rfl
  | cons f order ih =>
    rw [List.foldl_cons, ih]
    by_cases hk : f.key = k
    · subst hk
      rw [find?_key (List.mem_cons_self ..), Function.update_self]
      by_cases hf : f ∈ order
      · rw [find?_key hf]
        rfl
      · rw [List.find?_eq_none.2 fun g hg => by
          simpa using fun h : g.key = f.key => hf (key_injective h ▸ hg)]
        rfl
    · rw [List.find?_cons_of_neg (by simpa using hk), Function.update_of_ne (Ne.symm hk)]

/-- **The fields come back.** -/
theorem parseFormParams_formBody (value : Field → Text) {order : List Field} (horder : order.Perm Field.all) :
    parseFormParams (formBody u (order.map fun f => (f.key, value f))) = assigned value := by
  have hmem : ∀ f, f ∈ order := fun f => horder.mem_iff.2 (by cases f <;> decide)
  have hplain : ∀ s, ∀ c ∈ urlencoded u s, c ≠ '&' := by
    intro s c hc
    obtain ⟨b, -, hb⟩ := List.mem_flatMap.1 hc
    exact (mem_urlencodedByte u hb).1
  have hsplit : (formBody u (order.map fun f => (f.key, value f))).splitOn '&' =
      order.map fun f => urlencoded u f.key ++ '=' :: urlencoded u (value f) := by
    rw [formBody, List.map_map, List.splitOn_eq_splitOnP]
    refine splitOnP_intercalate (by simp) (fun l hl c hc => ?_) fun hnil => ?_
    · obtain ⟨f, -, rfl⟩ := List.mem_map.1 hl
      have hne : c ≠ '&' := by
        rcases List.mem_append.1 hc with hc | hc
        · exact hplain _ c hc
        · rcases List.mem_cons.1 hc with rfl | hc
          · decide
          · exact hplain _ c hc
      simpa using hne
    · exact absurd (List.map_eq_nil_iff.1 hnil) (List.ne_nil_of_mem (hmem .name))
  funext k
  rw [parseFormParams, hsplit, List.foldl_map]
  simp only [formField_urlencoded]
  rw [foldl_update, Option.or_none, assigned]
  by_cases hk : ∃ f : Field, f.key = k
  · obtain ⟨f, rfl⟩ := hk
    rw [find?_key (hmem f), find?_key (by cases f <;> decide)]
  · push Not at hk
    rw [List.find?_eq_none.2 fun f _ => by simpa using hk f,
      List.find?_eq_none.2 fun f _ => by simpa using hk f]

/-- A form as it is filled in. -/
def filledIn : Field → Text
  | .name => "My VPN".toList
  | .config => "Key = a+b/c=".toList
  | .username => []
  | .password => "ä&=%\n".toList

theorem parseFormParams_formBody_filledIn :
    formBody .standard ([Field.config, .name, .password, .username].map fun f => (f.key, filledIn f)) =
        "config=Key+%3D+a%2Bb%2Fc%3D&name=My+VPN&password=%C3%A4%26%3D%25%0A&username=".toList ∧
      parseFormParams (formBody .standard ([Field.config, .name, .password, .username].map fun f =>
        (f.key, filledIn f))) = assigned filledIn :=
  ⟨by decide +kernel, parseFormParams_formBody .standard filledIn (by decide)⟩

end Fields

end FreeVPN.Upload
