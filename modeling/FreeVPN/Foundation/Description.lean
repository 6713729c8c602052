import FreeVPN.Foundation.Text

/-!
# Strings that are printed in quotes

`"\(value)"` prints the strings of an array and the associated strings of an enumeration with
`debugDescription`: in quotes and escaped.  `debugDescription_inj`: nothing is lost.
-/

namespace FreeVPN.Foundation

/-- `lowNibbleAsHex` -/
def lowNibbleAsHex (v : ℕ) : Char := if v % 16 < 10 then Char.ofNat (v % 16 + 48) else Char.ofNat (v % 16 - 10 + 65)

/-- `Unicode.Scalar.escaped(asASCII: false)` -/
def escaped (c : Char) : Text :=
  if c = '\\' then ['\\', '\\']
  else if c = '\'' then ['\\', '\'']
  else if c = '"' then ['\\', '"']
  else if 32 ≤ c.toNat ∧ c.toNat < 127 then [c]
  else if c = '\x00' then ['\\', '0']
  else if c = '\n' then ['\\', 'n']
  else if c = '\r' then ['\\', 'r']
  else if c = '\t' then ['\\', 't']
  else if c.toNat < 128 then
    ['\\', 'u', '\x7b', lowNibbleAsHex (c.toNat / 16), lowNibbleAsHex c.toNat, '\x7d']
  else [c]

/-- `debugDescription` of a string. -/
def debugDescription (s : Text) : Text := '"' :: s.flatMap escaped ++ ['"']

/-- `"\(strings)"` -/
def arrayDescription (ss : List Text) : Text :=
  '[' :: joined ", ".toList (ss.map debugDescription) ++ [']']

/-! ### Nothing is lost -/

/-- The value of a digit of `lowNibbleAsHex`. -/
def nibble (c : Char) : ℕ := if c.toNat < 65 then c.toNat - 48 else c.toNat - 55

/-- The scalar that an escape sequence stands for. -/
def unescaped : Text → Char
  | 'u' :: _ :: a :: b :: _ => Char.ofNat (16 * nibble a + nibble b)
  | '0' :: _ => '\x00'
  | 'n' :: _ => '\n'
  | 'r' :: _ => '\r'
  | 't' :: _ => '\t'
  | s => s.headD 'u'

/-- The first scalar of an escaped text. -/
def firstScalar (s : Text) : Char := if s.headD 'u' = '\\' then unescaped s.tail else s.headD 'u'

lemma nibble_lowNibbleAsHex (v : ℕ) : nibble (lowNibbleAsHex v) = v % 16 := by
  have hall : ∀ n < 16, nibble (if n < 10 then Char.ofNat (n + 48) else Char.ofNat (n - 10 + 65)) = n := by
    decide
  exact hall (v % 16) (Nat.mod_lt v (by decide))

lemma firstScalar_escaped (c : Char) (s : Text) : firstScalar (escaped c ++ s) = c := by
  unfold escaped
  split_ifs with h₁ h₂ h₃ h₄ h₅ h₆ h₇ h₈ h₉
  · subst c
    rfl
  · subst c
    rfl
  · subst c
    rfl
  · exact if_neg h₁
  · subst c
    rfl
  · subst c
    rfl
  · subst c
    rfl
  · subst c
    rfl
  · change Char.ofNat (16 * nibble (lowNibbleAsHex (c.toNat / 16)) + nibble (lowNibbleAsHex c.toNat)) = c
    rw [nibble_lowNibbleAsHex, nibble_lowNibbleAsHex,
      show 16 * (c.toNat / 16 % 16) + c.toNat % 16 = c.toNat by omega, Char.ofNat_toNat]
  · exact if_neg h₁

lemma escaped_ne_nil (c : Char) : escaped c ≠ [] := by
  unfold escaped
  split_ifs <;> simp

lemma flatMap_escaped_inj {s t : Text} (h : s.flatMap escaped = t.flatMap escaped) : s = t := by
  induction s generalizing t with
  | nil =>
    cases t with
    | nil => rfl
    | cons d t => simp [escaped_ne_nil] at h
  | cons c s ih =>
    cases t with
    | nil => simp [escaped_ne_nil] at h
    | cons d t =>
      rw [List.flatMap_cons, List.flatMap_cons] at h
      have hcd : c = d := by
        rw [← firstScalar_escaped c (s.flatMap escaped), h, firstScalar_escaped]
      rw [hcd] at h ⊢
      rw [ih (List.append_cancel_left h)]

/-- **Nothing is lost in quotes.** -/
theorem debugDescription_inj {s t : Text} : debugDescription s = debugDescription t ↔ s = t := by
  refine ⟨fun h => flatMap_escaped_inj ?_, fun h => h ▸ rfl⟩
  exact List.append_cancel_right (List.cons.inj h).2

end FreeVPN.Foundation
