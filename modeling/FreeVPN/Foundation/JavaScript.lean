import FreeVPN.Lib.Regex
import FreeVPN.Foundation.Text

/-!
# JavaScript strings

What the scripts of the upload page use of them.  A string is the list of its Unicode scalars, as a
Swift string is: what the scripts look for are scalars of one code unit.

* `isLineTerminator`, `isSpace` — where a line ends, and the class `\s`;
* `ignoringCase` — how a regular expression with the flag `i` compares;
* `includes` — `includes(_)`, of scalars; `lowercased` is `toLowerCase()` as well, but for the sigma at the
  end of a word, which no word of ASCII has.
-/

namespace FreeVPN.Foundation.JavaScript

open FreeVPN.Lib

/-- `LineTerminator`: the line feed, the carriage return, U+2028 and U+2029. -/
def isLineTerminator (c : Char) : Bool :=
  c.toNat = 0x0A || c.toNat = 0x0D || c.toNat = 0x2028 || c.toNat = 0x2029

/-- `\s`, which is also what `trim()` takes off: the line terminators, the vertical tabulation and the
form feed, the tabulation and the category Zs, and U+FEFF. -/
def isSpace (c : Char) : Bool :=
  isLineTerminator c || c.toNat = 0x0B || c.toNat = 0x0C || isWhitespace c || c.toNat = 0xFEFF

/-- `includes(_)` -/
def includes (s t : Text) : Bool := decide (t <:+: s)

/-- How an ASCII character of an expression is compared when the flag `i` is set: an ASCII letter is its
other case, and no scalar outside ASCII is taken for it. -/
def ignoringCase (c d : Char) : Bool := c.toLower = d.toLower

lemma isNewline_of_isLineTerminator {c : Char} (h : isLineTerminator c) : isNewline c := by
  simp only [isLineTerminator, isNewline, Bool.or_eq_true, Bool.and_eq_true, decide_eq_true_eq] at h ⊢
  omega

lemma isSpace_of_isWhitespace {c : Char} (h : isWhitespace c) : isSpace c := by
  simp [isSpace, h]

/-- A character before the letters is the lowercase form of no other. -/
lemma toLower_eq {c d : Char} (hd : d.toNat < 65) : c.toLower = d ↔ c = d := by
  constructor
  · intro h
    by_cases hupper : 65 ≤ c.toNat ∧ c.toNat ≤ 90
    · have hnat := toNat_toLower hupper
      rw [h] at hnat
      omega
    · rw [← h, toLower_eq_self (by omega)]
  · rintro rfl
    exact toLower_eq_self (Or.inl hd)

/-- A word that is compared without its case. -/
lemma forall₂_ignoringCase {k v : Text} (hk : k.map Char.toLower = k) :
    List.Forall₂ (fun c d => ignoringCase c d) k v ↔ v.map Char.toLower = k := by
  rw [show (fun c d => ignoringCase c d = true) = fun c d => c.toLower = d.toLower from by
    funext c d
    simp [ignoringCase]]
  rw [← List.forall₂_map_left_iff (R := fun c (d : Char) => c = d.toLower), hk,
    ← List.forall₂_map_right_iff (R := Eq), List.forall₂_eq_eq_eq, eq_comm]

end FreeVPN.Foundation.JavaScript
