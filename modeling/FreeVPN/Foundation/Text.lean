import Mathlib.Algebra.Group.Int.Defs
import Mathlib.Algebra.GroupWithZero.Nat
import FreeVPN.Foundation.CaseRanges
import FreeVPN.Lib.Lists

/-!
# Swift strings

The string functions of the Swift standard library and of Foundation that the program reads
configuration texts with.  A string is the list of its Unicode scalars.  What Swift joins in one `Character` is up to
`Unicode`, of which `hasPrefix` and `contains` make use; `"\r\n"`, one `Character` in Swift, is two newlines
here, which makes no difference where empty pieces are left out.

* `isNewline`, `isWhitespace`, `isWhitespaceOrNewline` — the character sets of Foundation;
* `lowercased`, `components`, `lines`, `split`;
* `Unicode`, `hasPrefix`, `contains`, and `Plain`, the texts in which no scalars of ASCII are joined;
* `parseInteger` and `description` — `Int(_:)`, `UInt16(_:)`, `UInt8(_:)` and their inverse.
-/

namespace FreeVPN.Foundation

open FreeVPN.Lib

/-- A Swift string: its Unicode scalars. -/
abbrev Text := List Char

/-- Membership in a list of strings, decided in one way by all that tests for it. -/
instance (s : Text) (texts : List Text) : Decidable (s ∈ texts) := inferInstanceAs (Decidable (s ∈ texts))

/-- The characters of a text that is written in several strings, from those of each of them. -/
lemma toList_append_ofList {s : String} {t : Text} (hs : s.toList = t) (l : List Char) :
    (s ++ String.ofList l).toList = t ++ l := by
  rw [String.toList_append, String.toList_ofList, hs]

/-! ### Character sets -/

/-- `CharacterSet.newlines`, which are also the scalars with `Character.isNewline`: U+000A to
U+000D, U+0085, U+2028 and U+2029. -/
def isNewline (c : Char) : Bool :=
  (0x0A ≤ c.toNat && c.toNat ≤ 0x0D) || c.toNat = 0x85 || c.toNat = 0x2028 || c.toNat = 0x2029

/-- `CharacterSet.whitespaces`: the general category Zs and the tabulation. -/
def isWhitespace (c : Char) : Bool :=
  c.toNat = 0x09 || c.toNat = 0x20 || c.toNat = 0xA0 || c.toNat = 0x1680 ||
    (0x2000 ≤ c.toNat && c.toNat ≤ 0x200A) || c.toNat = 0x202F || c.toNat = 0x205F ||
    c.toNat = 0x3000

/-- `CharacterSet.whitespacesAndNewlines`. -/
def isWhitespaceOrNewline (c : Char) : Bool := isWhitespace c || isNewline c

/-- A line break is no white space. -/
lemma isWhitespace_of_isNewline {c : Char} (h : isNewline c) : isWhitespace c = false := by
  rw [Bool.eq_false_iff]
  intro hw
  simp only [isNewline, isWhitespace, Bool.or_eq_true, Bool.and_eq_true, decide_eq_true_eq] at h hw
  omega

/-- `trimmingCharacters(in: .whitespaces)` -/
abbrev trimWhitespaces (s : Text) : Text := trim isWhitespace s

/-- `trimmingCharacters(in: .whitespacesAndNewlines)` -/
abbrev trimWhitespacesAndNewlines (s : Text) : Text := trim isWhitespaceOrNewline s

/-- On a text without newlines the two trimmings agree. -/
lemma trimWhitespacesAndNewlines_eq {s : Text} (h : ∀ c ∈ s, isNewline c = false) :
    trimWhitespacesAndNewlines s = trimWhitespaces s :=
  trim_congr fun c hc => by simp [isWhitespaceOrNewline, h c hc]

/-! ### Case, prefixes, parts -/

/-- What is no capital letter of ASCII. -/
lemma toLower_eq_self {c : Char} (h : c.toNat < 65 ∨ 90 < c.toNat) : c.toLower = c := by
  refine dif_neg fun hupper => ?_
  have hle := UInt32.le_iff_toNat_le.1 hupper.1
  have hle' := UInt32.le_iff_toNat_le.1 hupper.2
  change 65 ≤ c.toNat at hle
  change c.toNat ≤ 90 at hle'
  omega

/-- A capital letter of ASCII. -/
lemma toNat_toLower {c : Char} (h : 65 ≤ c.toNat ∧ c.toNat ≤ 90) : c.toLower.toNat = c.toNat + 32 := by
  have hupper : 'A'.val ≤ c.val ∧ c.val ≤ 'Z'.val :=
    ⟨UInt32.le_iff_toNat_le.2 h.1, UInt32.le_iff_toNat_le.2 h.2⟩
  have hlower : c.toLower = ⟨c.val + 32, _⟩ := dif_pos hupper
  rw [hlower]
  change (c.val + 32).toNat = c.val.toNat + 32
  rw [UInt32.toNat_add]
  change 65 ≤ c.val.toNat ∧ c.val.toNat ≤ 90 at h
  change (c.val.toNat + 32) % 2 ^ 32 = _
  omega

/-- A lowercase form in Unicode is a scalar. -/
lemma toNat_lowercaseScalar (c : Char) : (Char.ofNat (lowercaseScalar c.toNat)).toNat = lowercaseScalar c.toNat := by
  have hvalid : (lowercaseScalar c.toNat).isValidChar := by
    rcases lowercaseScalar_spec c.toNat with h | ⟨r, hr, hfirst, hlast, h⟩
    · rw [h]
      exact c.valid
    · have hscalar := (CaseRange.sound r hr).scalar
      unfold Nat.isValidChar
      omega
  rw [Char.ofNat, dif_pos hvalid]
  rfl

/-- The lowercase mapping of a scalar: of ASCII, of U+0130, which becomes two scalars, and of the others. -/
def lowercaseMapping (c : Char) : Text :=
  if c.toNat < 128 then [c.toLower]
  else if c.toNat = 0x130 then ['i', '\u0307']
  else [Char.ofNat (lowercaseScalar c.toNat)]

lemma blankRanges_of_isWhitespaceOrNewline {c : Char} (hc : 128 ≤ c.toNat) (h : isWhitespaceOrNewline c) :
    ∃ b ∈ blankRanges, b.1 ≤ c.toNat ∧ c.toNat ≤ b.2 := by
  simp only [isWhitespaceOrNewline, isWhitespace, isNewline, Bool.or_eq_true, Bool.and_eq_true,
    decide_eq_true_eq] at h
  simp only [blankRanges, List.mem_cons, List.not_mem_nil, or_false, exists_eq_or_imp, exists_eq_left]
  omega

/-- A scalar outside ASCII that has a lowercase form of its own, which is one scalar. -/
structure IsCapital (c d : Char) : Prop where
  notBlank : isWhitespaceOrNewline c = false
  notBlank_lower : isWhitespaceOrNewline d = false
  notDot : d ≠ '\u0307'
  kelvin : c = '\u212A' ∧ d = 'k' ∨ 128 ≤ d.toNat

/-- **What becomes of a scalar.** -/
lemma lowercaseMapping_cases (c : Char) :
    c.toNat < 128 ∧ lowercaseMapping c = [c.toLower] ∨
    c = '\u0130' ∧ lowercaseMapping c = ['i', '\u0307'] ∨
    128 ≤ c.toNat ∧ lowercaseMapping c = [c] ∨
    ∃ d, 128 ≤ c.toNat ∧ lowercaseMapping c = [d] ∧ IsCapital c d := by
  unfold lowercaseMapping
  split_ifs with hascii hdot
  · exact Or.inl ⟨hascii, rfl⟩
  · exact Or.inr (Or.inl ⟨Char.toNat_inj.1 hdot, rfl⟩)
  rw [not_lt] at hascii
  have hnat := toNat_lowercaseScalar c
  rcases lowercaseScalar_spec c.toNat with h | ⟨r, hr, hfirst, hlast, h⟩
  · rw [h, Char.ofNat_toNat]
    exact Or.inr (Or.inr (Or.inl ⟨hascii, rfl⟩))
  obtain ⟨-, hkelvin, -, hcapital, hsmall⟩ := CaseRange.sound r hr
  generalize Char.ofNat (lowercaseScalar c.toNat) = d at hnat ⊢
  have hd : (d.toNat : ℤ) = c.toNat + r.shift := by rw [hnat, h]
  have hblank : ∀ b ∈ blankRanges, ¬(b.1 ≤ d.toNat ∧ d.toNat ≤ b.2) := by
    intro b hb
    have := hsmall b hb
    omega
  refine Or.inr (Or.inr (Or.inr ⟨d, hascii, rfl, ?_, ?_, ?_, ?_⟩))
  · by_contra hspace
    obtain ⟨b, hb, hlo, hhi⟩ := blankRanges_of_isWhitespaceOrNewline hascii (by simpa using hspace)
    have := hcapital b hb
    omega
  · by_contra hspace
    rw [Bool.not_eq_false] at hspace
    rcases hkelvin with ⟨hk₁, hk₂, hk₃⟩ | hge
    · have hkd : d = 'k' := Char.toNat_inj.1 (by change d.toNat = 0x6B; omega)
      rw [hkd] at hspace
      cases hspace
    · obtain ⟨b, hb, hin⟩ := blankRanges_of_isWhitespaceOrNewline (by omega) hspace
      exact hblank b hb hin
  · rintro rfl
    exact hblank (0x307, 0x307) (by simp [blankRanges]) ⟨le_refl 0x307, le_refl 0x307⟩
  · rcases hkelvin with ⟨hk₁, hk₂, hk₃⟩ | hge
    · exact Or.inl ⟨Char.toNat_inj.1 (by change c.toNat = 0x212A; omega),
        Char.toNat_inj.1 (by change d.toNat = 0x6B; omega)⟩
    · exact Or.inr (by omega)

/-- But for U+0130, a scalar becomes one. -/
lemma lowercaseMapping_eq_singleton {c : Char} (hdot : c ≠ '\u0130') : ∃ d, lowercaseMapping c = [d] := by
  rcases lowercaseMapping_cases c with ⟨-, h⟩ | ⟨h, -⟩ | ⟨-, h⟩ | ⟨d, -, h, -⟩
  · exact ⟨_, h⟩
  · exact absurd h hdot
  · exact ⟨_, h⟩
  · exact ⟨d, h⟩

/-- What is in ASCII and no capital letter has no lowercase form of its own. -/
lemma lowercaseMapping_eq_self {c : Char} (hcase : c.toNat < 65 ∨ 90 < c.toNat ∧ c.toNat < 128) :
    lowercaseMapping c = [c] := by
  rw [lowercaseMapping, if_pos (by omega), toLower_eq_self (by omega)]

/-- White space and line breaks have no case. -/
lemma lowercaseMapping_of_isWhitespaceOrNewline {c : Char} (h : isWhitespaceOrNewline c) :
    lowercaseMapping c = [c] := by
  rcases lowercaseMapping_cases c with ⟨hascii, -⟩ | ⟨rfl, -⟩ | ⟨-, hself⟩ | ⟨d, -, -, hd⟩
  · apply lowercaseMapping_eq_self
    simp only [isWhitespaceOrNewline, isWhitespace, isNewline, Bool.or_eq_true, Bool.and_eq_true,
      decide_eq_true_eq] at h
    omega
  · cases h
  · exact hself
  · rw [hd.notBlank] at h
    cases h

/-- White space has no case. -/
lemma lowercaseMapping_of_isWhitespace {c : Char} (h : isWhitespace c) : lowercaseMapping c = [c] :=
  lowercaseMapping_of_isWhitespaceOrNewline (by rw [isWhitespaceOrNewline, h, Bool.true_or])

/-- A line break has no case. -/
lemma lowercaseMapping_of_isNewline {c : Char} (h : isNewline c) : lowercaseMapping c = [c] :=
  lowercaseMapping_of_isWhitespaceOrNewline (by rw [isWhitespaceOrNewline, h, Bool.or_true])

lemma lowercaseMapping_ne_nil (c : Char) : lowercaseMapping c ≠ [] := by
  unfold lowercaseMapping
  split_ifs <;> simp

/-- The scalars of a lowercase form in ASCII: letters that were capital, `i` and `k`, or what was there. -/
lemma toLower_of_mem_lowercaseMapping {c d : Char} (hd : d ∈ lowercaseMapping c) (hascii : d.toNat < 128) :
    c.toLower = d ∨ c = '\u0130' ∨ c = '\u212A' := by
  rcases lowercaseMapping_cases c with ⟨-, h⟩ | ⟨h, -⟩ | ⟨hge, h⟩ | ⟨e, -, h, he⟩
  · exact Or.inl (List.mem_singleton.1 (h ▸ hd)).symm
  · exact Or.inr (Or.inl h)
  · obtain rfl := List.mem_singleton.1 (h ▸ hd)
    omega
  · obtain rfl := List.mem_singleton.1 (h ▸ hd)
    rcases he.kelvin with ⟨hc, -⟩ | hge
    · exact Or.inr (Or.inr hc)
    · omega

/-- A scalar before the letters is in the lowercase form of no other. -/
lemma eq_of_mem_lowercaseMapping_of_lt {c d : Char} (hd : d.toNat < 65) (h : d ∈ lowercaseMapping c) : c = d := by
  rcases toLower_of_mem_lowercaseMapping h (by omega) with hlower | rfl | rfl
  · by_cases hupper : 65 ≤ c.toNat ∧ c.toNat ≤ 90
    · have hnat := toNat_toLower hupper
      rw [hlower] at hnat
      omega
    · rw [← toLower_eq_self (c := c) (by omega), hlower]
  · have hmap : lowercaseMapping '\u0130' = ['i', '\u0307'] := rfl
    rw [hmap] at h
    rcases List.mem_cons.1 h with rfl | h
    · exact absurd hd (by decide)
    · exact absurd (List.mem_singleton.1 h ▸ hd) (by decide)
  · have hmap : lowercaseMapping '\u212A' = ['k'] := by decide +kernel
    rw [hmap] at h
    exact absurd (List.mem_singleton.1 h ▸ hd) (by decide)

/-- A scalar before the letters is the lowercase form of no other. -/
lemma lowercaseMapping_eq_cons {c d : Char} {ds : Text} (hd : d.toNat < 65) (h : lowercaseMapping c = d :: ds) :
    c = d :=
  eq_of_mem_lowercaseMapping_of_lt hd (h ▸ List.mem_cons_self ..)

/-- `lowercased()` -/
def lowercased (s : Text) : Text := s.flatMap lowercaseMapping

@[simp] lemma lowercased_nil : lowercased [] = [] := rfl

lemma lowercased_append (s t : Text) : lowercased (s ++ t) = lowercased s ++ lowercased t :=
  List.flatMap_append

lemma mem_lowercased {c : Char} (hc : lowercaseMapping c = [c]) {s : Text} (h : c ∈ s) :
    c ∈ lowercased s :=
  List.mem_flatMap.2 ⟨c, h, by simp [hc]⟩

lemma lowercased_of_isWhitespace {s : Text} (h : ∀ c ∈ s, isWhitespace c) : lowercased s = s := by
  induction s with
  | nil => rfl
  | cons c s ih =>
    have hs := ih fun x hx => h x (List.mem_cons_of_mem c hx)
    rw [lowercased] at hs ⊢
    rw [List.flatMap_cons, lowercaseMapping_of_isWhitespace (h c (List.mem_cons_self ..)), hs,
      List.singleton_append]

/-- A lowercase text is cut where the text can be cut: behind no U+0130, whose form has two scalars. -/
lemma lowercased_eq_append {s a b : Text} (h : lowercased s = a ++ b) (hb : ∀ d ∈ b.head?, d ≠ '\u0307') :
    ∃ s₁ s₂, s = s₁ ++ s₂ ∧ lowercased s₁ = a ∧ lowercased s₂ = b := by
  induction s generalizing a with
  | nil =>
    obtain ⟨rfl, rfl⟩ := List.append_eq_nil_iff.1 h.symm
    exact ⟨[], [], rfl, rfl, rfl⟩
  | cons c s ih =>
    have hcons : lowercased (c :: s) = lowercaseMapping c ++ lowercased s := rfl
    cases a with
    | nil => exact ⟨[], c :: s, rfl, rfl, h⟩
    | cons x a =>
      rw [hcons] at h
      by_cases hdot : c = '\u0130'
      · have hmap : lowercaseMapping c = ['i', '\u0307'] := by rw [hdot]; rfl
        rw [hmap, List.cons_append, List.singleton_append, List.cons_append, List.cons.injEq] at h
        obtain ⟨rfl, h⟩ := h
        cases a with
        | nil => exact absurd rfl (hb '\u0307' (by rw [← List.nil_append b, ← h]; rfl))
        | cons y a =>
          rw [List.cons_append, List.cons.injEq] at h
          obtain ⟨rfl, h⟩ := h
          obtain ⟨s₁, s₂, rfl, rfl, rfl⟩ := ih h
          exact ⟨c :: s₁, s₂, rfl, by rw [lowercased, List.flatMap_cons, hmap]; rfl, rfl⟩
      · obtain ⟨y, hy⟩ := lowercaseMapping_eq_singleton hdot
        rw [hy, List.singleton_append, List.cons_append, List.cons.injEq] at h
        obtain ⟨rfl, h⟩ := h
        obtain ⟨s₁, s₂, rfl, rfl, rfl⟩ := ih h
        exact ⟨c :: s₁, s₂, rfl, by rw [lowercased, List.flatMap_cons, hy]; rfl, rfl⟩

/-- White space and line breaks are the lowercase forms of themselves only. -/
lemma eq_of_mem_lowercaseMapping {c d : Char} (hd : d ∈ lowercaseMapping c) (h : isWhitespaceOrNewline d) :
    c = d := by
  rcases lowercaseMapping_cases c with ⟨hascii, hmap⟩ | ⟨-, hmap⟩ | ⟨-, hmap⟩ | ⟨e, -, hmap, he⟩
  · obtain rfl := List.mem_singleton.1 (hmap ▸ hd)
    by_cases hupper : 65 ≤ c.toNat ∧ c.toNat ≤ 90
    · -- a letter becomes a letter
      have hnat := toNat_toLower hupper
      simp only [isWhitespaceOrNewline, isWhitespace, isNewline, Bool.or_eq_true, Bool.and_eq_true,
        decide_eq_true_eq] at h
      omega
    · exact (toLower_eq_self (by omega)).symm
  · rw [hmap] at hd
    rcases List.mem_cons.1 hd with rfl | hd
    · cases h
    · exact absurd (List.mem_singleton.1 hd ▸ h) (by decide)
  · exact (List.mem_singleton.1 (hmap ▸ hd)).symm
  · obtain rfl := List.mem_singleton.1 (hmap ▸ hd)
    rw [he.notBlank_lower] at h
    cases h

lemma eq_of_lowercased {s g : Text} (h : lowercased s = g) (hg : ∀ d ∈ g, isWhitespace d) : s = g := by
  have hs : ∀ c ∈ s, isWhitespace c := by
    intro c hc
    obtain ⟨d, ds, hd⟩ := List.exists_cons_of_ne_nil (lowercaseMapping_ne_nil c)
    have hmem : d ∈ lowercaseMapping c := hd ▸ List.mem_cons_self ..
    have hspace := hg d (h ▸ List.mem_flatMap.2 ⟨c, hc, hmem⟩)
    have hc : c = d := eq_of_mem_lowercaseMapping hmem (by rw [isWhitespaceOrNewline, hspace, Bool.true_or])
    exact hc ▸ hspace
  rw [← h, lowercased_of_isWhitespace hs]

lemma lowercased_eq_cons {s b : Text} {d : Char} (hd : d.toNat < 65) (h : lowercased s = d :: b) :
    ∃ s', s = d :: s' ∧ lowercased s' = b := by
  cases s with
  | nil => cases h
  | cons c s =>
    have hcons : lowercased (c :: s) = lowercaseMapping c ++ lowercased s := rfl
    obtain ⟨y, ys, hy⟩ := List.exists_cons_of_ne_nil (lowercaseMapping_ne_nil c)
    rw [hcons, hy, List.cons_append] at h
    obtain ⟨rfl, hb⟩ := List.cons.inj h
    obtain rfl := lowercaseMapping_eq_cons hd hy
    rw [lowercaseMapping_eq_self (Or.inl hd)] at hy
    obtain rfl := (List.cons.inj hy).2
    exact ⟨s, rfl, hb⟩

/-- Where a lowercase text has a word, the text has one that becomes it, if the word ends with a scalar before
the letters. -/
lemma lowercased_eq_append_word {s a b w : Text} {d : Char} (hd : d.toNat < 65)
    (hw : ∀ e ∈ w.head?, e ≠ '\u0307') (h : lowercased s = a ++ (w ++ [d] ++ b)) :
    ∃ p m q, s = p ++ (m ++ q) ∧ lowercased p = a ∧ lowercased m = w ++ [d] ∧ lowercased q = b := by
  have hne : d ≠ '\u0307' := by
    rintro rfl
    exact absurd hd (by decide)
  have hhead : ∀ e ∈ (w ++ [d] ++ b).head?, e ≠ '\u0307' := by
    cases w with
    | nil => simpa using hne
    | cons e w => simpa using hw
  obtain ⟨p, s', rfl, hp, hs'⟩ := lowercased_eq_append h hhead
  rw [List.append_assoc] at hs'
  obtain ⟨m, s'', rfl, hm, hs''⟩ := lowercased_eq_append hs' (by simpa using hne)
  obtain ⟨q, rfl, hq⟩ := lowercased_eq_cons hd hs''
  refine ⟨p, m ++ [d], q, by simp, hp, ?_, hq⟩
  rw [lowercased_append, hm, lowercased, List.flatMap_singleton,
    lowercaseMapping_eq_self (Or.inl hd)]

lemma lowercased_eq_concat {s a : Text} {d : Char} (hd : d.toNat < 65) (h : lowercased s = a ++ [d]) :
    ∃ s', s = s' ++ [d] ∧ lowercased s' = a := by
  have hne : d ≠ '\u0307' := by
    rintro rfl
    exact absurd hd (by decide)
  obtain ⟨s', t, rfl, hs', ht⟩ := lowercased_eq_append h (by simpa using hne)
  obtain ⟨t', rfl, ht'⟩ := lowercased_eq_cons hd ht
  cases t' with
  | nil => exact ⟨s', rfl, hs'⟩
  | cons c t' => exact absurd (List.append_eq_nil_iff.1 ht').1 (lowercaseMapping_ne_nil c)

/-- What begins with white space does so in lower case. -/
lemma head_of_lowercased {s w : Text} {d : Char} (hd : isWhitespaceOrNewline d = false) (h : lowercased s = d :: w) :
    ∃ c s', s = c :: s' ∧ isWhitespaceOrNewline c = false := by
  cases s with
  | nil => cases h
  | cons c s =>
    refine ⟨c, s, rfl, ?_⟩
    by_contra hspace
    rw [Bool.not_eq_false] at hspace
    have hself : lowercaseMapping c = [c] := by
      rcases Bool.or_eq_true_iff.1 hspace with hspace | hspace
      · exact lowercaseMapping_of_isWhitespace hspace
      · exact lowercaseMapping_of_isNewline hspace
    have hcons : lowercased (c :: s) = lowercaseMapping c ++ lowercased s := rfl
    rw [hcons, hself] at h
    obtain rfl := (List.cons.inj h).1
    rw [hd] at hspace
    cases hspace

lemma trimWhitespaces_lowercased (s : Text) : trimWhitespaces (lowercased s) = lowercased (trimWhitespaces s) := by
  refine trim_flatMap (fun c hc d hd => ?_) (fun c hc => ⟨lowercaseMapping_ne_nil c, fun d hd => ?_⟩) s
  · rw [lowercaseMapping_of_isWhitespace hc] at hd
    exact List.mem_singleton.1 hd ▸ hc
  · by_contra hspace
    rw [Bool.not_eq_false] at hspace
    obtain rfl := eq_of_mem_lowercaseMapping hd (by rw [isWhitespaceOrNewline, hspace, Bool.true_or])
    rw [hc] at hspace
    cases hspace

/-! ### Parts

Swift compares the `Character`s of two strings, not their scalars: a scalar of ASCII that is joined to a
neighbour in one `Character`, such as an equals sign with a combining mark behind it, is no occurrence of that
scalar. -/

/-- Which scalars Swift joins to a scalar of ASCII beside them, and which of them it compares as they are.
Both are up to the tables of Unicode. -/
class Unicode where
  /-- A scalar that is joined to the one before it: `Extend`, U+200D and `SpacingMark`. -/
  isExtending : Char → Bool
  /-- A scalar that the one behind it is joined to: `Prepend`. -/
  isPrepending : Char → Bool
  /-- A scalar that only it is, alone or among others of its kind, for the canonical equivalence by which Swift
  compares strings (`NFC_Quick_Check=Yes`). -/
  isNormal : Char → Bool
  ascii : ∀ c, c.toNat < 128 → isExtending c = false ∧ isPrepending c = false ∧ isNormal c = true
  blank : ∀ c, isWhitespaceOrNewline c → isExtending c = false ∧ isPrepending c = false
  lowercase_head : ∀ c, ∀ d ∈ (lowercaseMapping c).head?, isExtending d = isExtending c
  lowercase_last : ∀ c, ∀ d ∈ (lowercaseMapping c).getLast?, isPrepending d = isPrepending c

/-- Every scalar is a `Character` of its own: this is how a text is read where no other `Unicode` is given. -/
instance (priority := low) Unicode.scalars : Unicode where
  isExtending := fun _ => false
  isPrepending := fun _ => false
  isNormal := fun _ => true
  ascii := fun _ _ => ⟨rfl, rfl, rfl⟩
  blank := fun _ _ => ⟨rfl, rfl⟩
  lowercase_head := fun _ _ _ => rfl
  lowercase_last := fun _ _ _ => rfl

section Parts

variable [Unicode]

/-- A scalar of ASCII between two texts is a `Character` of its own. -/
def Alone (u v : Text) : Prop :=
  (∀ d ∈ u.getLast?, Unicode.isPrepending d = false) ∧ ∀ d ∈ v.head?, Unicode.isExtending d = false

/-- A text in which every scalar of ASCII, but for the line breaks, is a `Character` of its own, and of which no
part is the same as another one by canonical equivalence.  On such texts, to find a scalar of ASCII is to find a
`Character`, and to compare scalars is to compare strings. -/
structure Plain (s : Text) : Prop where
  alone : ∀ u c v, s = u ++ c :: v → 0x20 ≤ c.toNat → c.toNat < 128 → Alone u v
  normal : ∀ c ∈ s, Unicode.isNormal c

/-- `hasPrefix(_:)`, for a prefix of ASCII: its last scalar is a `Character` of its own. -/
def hasPrefix (s p : Text) : Bool := p.isPrefixOf s && !(s.drop p.length).head?.any Unicode.isExtending

lemma hasPrefix_iff {s p : Text} : hasPrefix s p = true ↔
    ∃ v, s = p ++ v ∧ ∀ d ∈ v.head?, Unicode.isExtending d = false := by
  rw [hasPrefix, Bool.and_eq_true, List.isPrefixOf_iff_prefix]
  constructor
  · rintro ⟨⟨v, rfl⟩, hv⟩
    refine ⟨v, rfl, fun d hd => ?_⟩
    rw [List.drop_left, Option.mem_def.1 hd] at hv
    simpa using hv
  · rintro ⟨v, rfl, hv⟩
    refine ⟨List.prefix_append p v, ?_⟩
    rw [List.drop_left]
    cases v with
    | nil => rfl
    | cons d v => simpa using hv d rfl

/-- `contains(_:)`, for a part of ASCII, behind a scalar that is joined to the next one or not. -/
def containsBehind (joined : Bool) (s t : Text) : Bool :=
  !joined && hasPrefix s t || match s with
    | [] => false
    | c :: s => containsBehind (Unicode.isPrepending c) s t

/-- `contains(_:)`, for a part of ASCII: the scalars at its ends are `Character`s of their own. -/
def contains (s t : Text) : Bool := containsBehind false s t

lemma containsBehind_iff {joined : Bool} {s t : Text} : containsBehind joined s t = true ↔
    ∃ u v, s = u ++ (t ++ v) ∧ (u = [] → joined = false) ∧
      (∀ d ∈ u.getLast?, Unicode.isPrepending d = false) ∧ ∀ d ∈ v.head?, Unicode.isExtending d = false := by
  induction s generalizing joined with
  | nil =>
    rw [containsBehind, Bool.or_false, Bool.and_eq_true, Bool.not_eq_true', hasPrefix_iff]
    constructor
    · rintro ⟨hj, v, hv, hhead⟩
      exact ⟨[], v, hv, fun _ => hj, by simp, hhead⟩
    · rintro ⟨u, v, huv, hj, -, hhead⟩
      obtain ⟨rfl, htv⟩ := List.append_eq_nil_iff.1 huv.symm
      exact ⟨hj rfl, v, htv.symm, hhead⟩
  | cons c s ih =>
    rw [containsBehind, Bool.or_eq_true, Bool.and_eq_true, Bool.not_eq_true', hasPrefix_iff, ih]
    constructor
    · rintro (⟨hj, v, hv, hhead⟩ | ⟨u, v, rfl, hj, hlast, hhead⟩)
      · exact ⟨[], v, hv, fun _ => hj, by simp, hhead⟩
      · refine ⟨c :: u, v, rfl, by simp, fun d hd => ?_, hhead⟩
        cases u with
        | nil =>
          obtain rfl := Option.some.inj hd
          exact hj rfl
        | cons e u => exact hlast d (by rwa [List.getLast?_cons_cons] at hd)
    · rintro ⟨u, v, huv, hj, hlast, hhead⟩
      cases u with
      | nil => exact Or.inl ⟨hj rfl, v, huv, hhead⟩
      | cons e u =>
        obtain ⟨rfl, rfl⟩ := List.cons.inj huv
        refine Or.inr ⟨u, v, rfl, ?_, fun d hd => ?_, hhead⟩
        · rintro rfl
          exact hlast c rfl
        · cases u with
          | nil => cases hd
          | cons e u => exact hlast d (by rwa [List.getLast?_cons_cons])

lemma contains_iff {s t : Text} : contains s t = true ↔
    ∃ u v, s = u ++ (t ++ v) ∧
      (∀ d ∈ u.getLast?, Unicode.isPrepending d = false) ∧ ∀ d ∈ v.head?, Unicode.isExtending d = false := by
  rw [contains, containsBehind_iff]
  simp

/-- The first scalars of a text and of the lowercase text are joined to what is before them alike. -/
lemma isExtending_head_lowercased {s : Text} :
    (∀ d ∈ (lowercased s).head?, Unicode.isExtending d = false) ↔ ∀ c ∈ s.head?, Unicode.isExtending c = false := by
  cases s with
  | nil => simp
  | cons c s =>
    obtain ⟨d, ds, hd⟩ := List.exists_cons_of_ne_nil (lowercaseMapping_ne_nil c)
    have hsame : Unicode.isExtending d = Unicode.isExtending c :=
      Unicode.lowercase_head c d (by rw [hd]; rfl)
    have hcons : lowercased (c :: s) = d :: (ds ++ lowercased s) := by
      rw [lowercased, List.flatMap_cons, hd]
      rfl
    rw [hcons]
    simp [hsame]

/-- The last scalars of a text and of the lowercase text join what is behind them alike. -/
lemma isPrepending_last_lowercased {s : Text} :
    (∀ d ∈ (lowercased s).getLast?, Unicode.isPrepending d = false) ↔
      ∀ c ∈ s.getLast?, Unicode.isPrepending c = false := by
  cases s using List.reverseRecOn with
  | nil => simp
  | append_singleton s c =>
    obtain ⟨ds, d, hd⟩ := (List.eq_nil_or_concat' (lowercaseMapping c)).resolve_left (lowercaseMapping_ne_nil c)
    have hsame : Unicode.isPrepending d = Unicode.isPrepending c :=
      Unicode.lowercase_last c d (by rw [hd, List.getLast?_concat]; rfl)
    have hconcat : lowercased (s ++ [c]) = lowercased s ++ ds ++ [d] := by
      rw [lowercased_append, show lowercased [c] = lowercaseMapping c from List.flatMap_singleton .., hd,
        List.append_assoc]
    rw [hconcat]
    simp [hsame]

/-- A word that a lowercase text contains, if it ends with a scalar before the letters. -/
lemma contains_lowercased {s w : Text} {d : Char} (hd : d.toNat < 65) (hw : ∀ e ∈ w.head?, e ≠ '\u0307') :
    contains (lowercased s) (w ++ [d]) = true ↔
      ∃ p m q, s = p ++ (m ++ q) ∧ lowercased m = w ++ [d] ∧ Alone p q := by
  rw [contains_iff]
  constructor
  · rintro ⟨a, b, hab, hlast, hhead⟩
    obtain ⟨p, m, q, hs, rfl, hm, rfl⟩ := lowercased_eq_append_word hd hw hab
    exact ⟨p, m, q, hs, hm, isPrepending_last_lowercased.1 hlast, isExtending_head_lowercased.1 hhead⟩
  · rintro ⟨p, m, q, rfl, hm, hlast, hhead⟩
    exact ⟨lowercased p, lowercased q, by rw [lowercased_append, lowercased_append, hm],
      isPrepending_last_lowercased.2 hlast, isExtending_head_lowercased.2 hhead⟩

/-- What a text contains is a part of it. -/
lemma infix_of_contains {s t : Text} (h : contains s t = true) : t <:+: s := by
  obtain ⟨u, v, rfl, -, -⟩ := contains_iff.1 h
  exact ⟨u, v, List.append_assoc u t v⟩

end Parts

/-- Scalar by scalar, every one is a `Character` of its own, and all texts are plain. -/
lemma alone (u v : Text) : Alone u v := ⟨fun _ _ => rfl, fun _ _ => rfl⟩

lemma plain (s : Text) : Plain s := ⟨fun u _ v _ _ _ => alone u v, fun _ _ => rfl⟩

/-- Scalar by scalar, a prefix is a prefix. -/
lemma hasPrefix_eq_true {s p : Text} : hasPrefix s p = true ↔ p <+: s := by
  rw [hasPrefix_iff]
  exact ⟨fun ⟨v, hv, _⟩ => ⟨v, hv.symm⟩, fun ⟨v, hv⟩ => ⟨v, hv.symm, fun _ _ => rfl⟩⟩

lemma hasPrefix_eq (s p : Text) : hasPrefix s p = p.isPrefixOf s := by
  rw [Bool.eq_iff_iff, hasPrefix_eq_true, List.isPrefixOf_iff_prefix]

/-- Scalar by scalar, a part is a part. -/
lemma contains_eq_true {s t : Text} : contains s t = true ↔ t <:+: s := by
  refine ⟨infix_of_contains, ?_⟩
  rintro ⟨u, v, rfl⟩
  exact contains_iff.2 ⟨u, v, List.append_assoc u t v, fun _ _ => rfl, fun _ _ => rfl⟩

/-- How a text begins, as far as it has no letters, does not depend on the case. -/
lemma hasPrefix_lowercased {p : Text} (hp : (p.all fun d => d.toNat < 65) = true) (s : Text) :
    hasPrefix (lowercased s) p = hasPrefix s p := by
  rw [Bool.eq_iff_iff, hasPrefix_eq_true, hasPrefix_eq_true]
  induction p generalizing s with
  | nil => exact iff_of_true List.nil_prefix List.nil_prefix
  | cons d p ih =>
    simp only [List.all_cons, Bool.and_eq_true, decide_eq_true_eq] at hp
    obtain ⟨hd, htail⟩ := hp
    cases s with
    | nil => rfl
    | cons c s =>
      have hcons : lowercased (c :: s) = lowercaseMapping c ++ lowercased s := rfl
      rw [hcons, List.cons_prefix_cons]
      by_cases hcd : d = c
      · subst hcd
        rw [lowercaseMapping_eq_self (Or.inl hd), List.singleton_append, List.cons_prefix_cons, ih htail]
      · obtain ⟨e, es, he⟩ := List.exists_cons_of_ne_nil (lowercaseMapping_ne_nil c)
        have hde : d ≠ e := by
          rintro rfl
          exact hcd (lowercaseMapping_eq_cons hd he).symm
        rw [he, List.cons_append, List.cons_prefix_cons]
        exact iff_of_false (fun h => hde h.1) fun h => hcd h.1

/-- `components(separatedBy: .newlines)` -/
abbrev components (s : Text) : List Text := s.splitOnP isNewline

/-- `split { $0.isNewline }`: the non-empty lines. -/
abbrev lines (s : Text) : List Text := (components s).filter (· ≠ [])

/-- A lowercase text has its lines in lower case. -/
lemma components_lowercased (s : Text) : components (lowercased s) = (components s).map lowercased := by
  refine splitOnP_flatMap (fun c hc => lowercaseMapping_of_isNewline hc) (fun c hc d hd => ?_) s
  by_contra hnew
  obtain rfl := eq_of_mem_lowercaseMapping hd (by simp [isWhitespaceOrNewline, hnew])
  rw [hc] at hnew
  exact hnew rfl

/-- A line break ends a line, and that is all it does. -/
lemma lines_append_newline {c : Char} (hc : isNewline c = true) (u v : Text) :
    lines (u ++ c :: v) = lines u ++ lines v := by
  rw [lines, components, List.splitOnP_append_cons u v hc, List.filter_append]

/-- `split(separator:)`: the non-empty pieces between the separators. -/
abbrev split (separator : Char) (s : Text) : List Text := pieces separator s

/-- `split(separator:maxSplits:)`: empty pieces are skipped and do not count; after the last split
what is left is one piece, separators and all. -/
def splitMax (separator : Char) : ℕ → Text → List Text
  | 0, s => if s = [] then [] else [s]
  | maxSplits + 1, s =>
    match cut separator (s.dropWhile (· = separator)) with
    | some (piece, rest) => piece :: splitMax separator maxSplits rest
    | none => if s.dropWhile (· = separator) = [] then [] else [s.dropWhile (· = separator)]

/-- `joined(separator:)` -/
abbrev joined (separator : Text) (ss : List Text) : Text := separator.intercalate ss

/-- Lowercasing keeps the parts of a text. -/
lemma lowercased_infix {s t : Text} (h : t <:+: s) : lowercased t <:+: lowercased s := by
  obtain ⟨u, v, rfl⟩ := h
  rw [lowercased_append, lowercased_append]
  exact List.infix_append ..

lemma notNewline_of_mem_components {s l : Text} (hl : l ∈ components s) {c : Char} (hc : c ∈ l) :
    isNewline c = false :=
  sep_of_mem_splitOnP hl hc

/-- The lines of white space. -/
lemma isWhitespace_of_mem_components {u line : Text} (hu : ∀ c ∈ u, isWhitespaceOrNewline c)
    (hline : line ∈ components u) : ∀ c ∈ line, isWhitespace c := by
  intro c hc
  have hsep := notNewline_of_mem_components hline hc
  simpa [isWhitespaceOrNewline, hsep] using hu c (mem_of_mem_splitOnP hline hc)

/-- The lines of a text and of the trimmed text are the same up to white space, and blank lines around them. -/
lemma map_trim_components (s : Text) : ∃ us vs, (components s).map trimWhitespaces =
    us ++ ((components (trimWhitespacesAndNewlines s)).map trimWhitespaces ++ vs) ∧ (∀ l ∈ us, l = []) ∧
      ∀ l ∈ vs, l = [] := by
  obtain ⟨u, v, hs, hu, hv⟩ := exists_trim isWhitespaceOrNewline s
  generalize ht : trimWhitespacesAndNewlines s = t
  rw [show trim isWhitespaceOrNewline s = t from ht] at hs
  have hne : ∀ x : Text, components x ≠ [] := fun x => List.splitOnP_ne_nil isNewline x
  have hblank : ∀ x : Text, (∀ c ∈ x, isWhitespaceOrNewline c) → ∀ ls : List Text, (∀ l ∈ ls, l ∈ components x) →
      ∀ l ∈ ls.map trimWhitespaces, l = [] := by
    intro x hx ls hls l hl
    obtain ⟨l, hmem, rfl⟩ := List.mem_map.1 hl
    exact trim_eq_nil.2 (isWhitespace_of_mem_components hx (hls l hmem))
  have hleft : ∀ x : Text, ∃ us, (components (u ++ x)).map trimWhitespaces =
      us ++ (components x).map trimWhitespaces ∧ ∀ l ∈ us, l = [] := by
    intro x
    obtain ⟨us, l, hul⟩ := (List.eq_nil_or_concat' (components u)).resolve_left (hne u)
    obtain ⟨r, rs, hx⟩ := List.exists_cons_of_ne_nil (hne x)
    have hl := isWhitespace_of_mem_components hu (hul ▸ List.mem_append_right us (List.mem_singleton_self l))
    have hsplit : components (u ++ x) = us ++ (l ++ r) :: rs := splitOnP_append hul hx
    refine ⟨us.map trimWhitespaces, ?_, hblank u hu us fun l' hl' => hul ▸ List.mem_append_left _ hl'⟩
    rw [hsplit, hx, List.map_append, List.map_cons, List.map_cons, trimWhitespaces, trim_append_left hl]
  obtain ⟨us, hus, husnil⟩ := hleft (t ++ v)
  obtain ⟨ts, l, htl⟩ := (List.eq_nil_or_concat' (components t)).resolve_left (hne t)
  obtain ⟨r, rs, hvr⟩ := List.exists_cons_of_ne_nil (hne v)
  have hr := isWhitespace_of_mem_components hv (hvr ▸ List.mem_cons_self ..)
  have hsplit : components (t ++ v) = ts ++ (l ++ r) :: rs := splitOnP_append htl hvr
  refine ⟨us, rs.map trimWhitespaces, ?_, husnil, hblank v hv rs fun l' hl' => hvr ▸ List.mem_cons_of_mem _ hl'⟩
  rw [hs, List.append_assoc, hus, hsplit, htl, List.map_append, List.map_append, List.map_cons,
    List.map_singleton, trimWhitespaces, trim_append_right hr, List.append_assoc, List.singleton_append]

/-! ### Integers -/

/-- The value of a non-empty string of ASCII digits. -/
def parseDigits (s : Text) : Option ℕ :=
  if s ≠ [] ∧ s.all Char.isDigit then some (Nat.ofDigitChars 10 s 0) else none

/-- A decimal integer with an optional sign. -/
def parseSigned : Text → Option ℤ
  | '+' :: s => (parseDigits s).map fun n : ℕ => (n : ℤ)
  | '-' :: s => (parseDigits s).map fun n : ℕ => -(n : ℤ)
  | s => (parseDigits s).map fun n : ℕ => (n : ℤ)

/-- `Int(_:)`, `UInt16(_:)` and their like: a decimal integer between two bounds. -/
def parseInteger (lo hi : ℤ) (s : Text) : Option ℤ := (parseSigned s).filter fun n => lo ≤ n ∧ n ≤ hi

/-- `Int(_:)` -/
def parseInt (s : Text) : Option ℤ := parseInteger (-2 ^ 63) (2 ^ 63 - 1) s

/-- `UInt16(_:)` -/
def parseUInt16 (s : Text) : Option UInt16 :=
  (parseInteger 0 (2 ^ 16 - 1) s).map fun n => UInt16.ofNat n.toNat

/-- `UInt8(_:)` -/
def parseUInt8 (s : Text) : Option UInt8 :=
  (parseInteger 0 (2 ^ 8 - 1) s).map fun n => UInt8.ofNat n.toNat

/-- The decimal digits of a number, `"\(n)"`. -/
def digits (n : ℕ) : Text := Nat.toDigits 10 n

/-- `"\(n)"` for an `Int`. -/
def description : ℤ → Text
  | .ofNat n => digits n
  | .negSucc n => '-' :: digits (n + 1)

lemma isDigit_of_mem_digits {n : ℕ} {c : Char} (h : c ∈ digits n) : c.isDigit :=
  Nat.isDigit_of_mem_toDigits (by decide) (by decide) h

lemma toNat_of_isDigit {c : Char} (h : c.isDigit) : 48 ≤ c.toNat ∧ c.toNat ≤ 57 := by
  simp only [Char.isDigit, ge_iff_le, Bool.and_eq_true, decide_eq_true_eq,
    UInt32.le_iff_toNat_le] at h
  exact h

/-- The scalars of a number are no separators of any kind. -/
lemma isWhitespaceOrNewline_of_isDigit {c : Char} (h : c.isDigit) : isWhitespaceOrNewline c = false := by
  have hc := toNat_of_isDigit h
  rw [Bool.eq_false_iff]
  intro hw
  simp only [isWhitespaceOrNewline, isWhitespace, isNewline, Bool.or_eq_true, Bool.and_eq_true,
    decide_eq_true_eq] at hw
  omega

lemma mem_description {n : ℤ} {c : Char} (h : c ∈ description n) : c = '-' ∨ c.isDigit := by
  cases n with
  | ofNat n => exact Or.inr (isDigit_of_mem_digits h)
  | negSucc n =>
    rcases List.mem_cons.1 h with rfl | h
    · exact Or.inl rfl
    · exact Or.inr (isDigit_of_mem_digits h)

/-- A number has no white space. -/
lemma trimWhitespaces_description (n : ℤ) : trimWhitespaces (description n) = description n := by
  apply trim_eq_self
  intro c hc
  rcases mem_description hc with rfl | h
  · decide
  · exact (Bool.or_eq_false_iff.1 (isWhitespaceOrNewline_of_isDigit h)).1

lemma parseDigits_digits (n : ℕ) : parseDigits (digits n) = some n := by
  have h : digits n ≠ [] ∧ (digits n).all Char.isDigit :=
    ⟨Nat.toDigits_ne_nil, List.all_eq_true.2 fun c hc => isDigit_of_mem_digits hc⟩
  rw [parseDigits, if_pos h, digits, Nat.ofDigitChars_ten_toDigits]

lemma digits_inj {m n : ℕ} : digits m = digits n ↔ m = n := by
  refine ⟨fun h => ?_, fun h => h ▸ rfl⟩
  have hread := parseDigits_digits m
  rw [h, parseDigits_digits] at hread
  exact (Option.some.inj hread).symm

/-- **What is printed is read back.** -/
lemma parseSigned_description (n : ℤ) : parseSigned (description n) = some n := by
  cases n with
  | ofNat n =>
    have h : ∀ c ∈ digits n, c ≠ '+' ∧ c ≠ '-' := fun c hc =>
      ⟨fun e => by have := isDigit_of_mem_digits hc; simp [e] at this,
        fun e => by have := isDigit_of_mem_digits hc; simp [e] at this⟩
    rw [show description (.ofNat n) = digits n from rfl]
    unfold parseSigned
    split
    · rename_i s hs
      exact absurd rfl (h '+' (by simp [hs])).1
    · rename_i s hs
      exact absurd rfl (h '-' (by simp [hs])).2
    · simp [parseDigits_digits]
  | negSucc n =>
    rw [show description (.negSucc n) = '-' :: digits (n + 1) from rfl]
    simp only [parseSigned, parseDigits_digits, Option.map_some]
    rfl

lemma parseInteger_eq_some {lo hi n : ℤ} {s : Text} :
    parseInteger lo hi s = some n ↔ parseSigned s = some n ∧ lo ≤ n ∧ n ≤ hi := by
  simp [parseInteger, Option.filter_eq_some_iff]

/-- What `Int` has read is printed and read again. -/
lemma parseInt_description {s : Text} {n : ℤ} (h : parseInt s = some n) :
    parseInt (description n) = some n :=
  parseInteger_eq_some.2 ⟨parseSigned_description n, (parseInteger_eq_some.1 h).2⟩

lemma parseUInt16_eq_some {s : Text} {v : UInt16} :
    parseUInt16 s = some v ↔ parseSigned s = some (v.toNat : ℤ) := by
  have hv := v.toNat_lt
  simp only [parseUInt16, Option.map_eq_some_iff, parseInteger_eq_some]
  constructor
  · rintro ⟨n, ⟨hn, h0, h1⟩, rfl⟩
    rw [hn, UInt16.toNat_ofNat_of_lt' (by rw [UInt16.size]; omega)]
    congr 1
    omega
  · intro h
    exact ⟨v.toNat, ⟨h, by omega, by omega⟩, by simp⟩

/-- What `UInt16` reads, `Int` reads. -/
lemma parseInt_of_parseUInt16 {s : Text} {v : UInt16} (h : parseUInt16 s = some v) :
    parseInt s = some (v.toNat : ℤ) := by
  have hv := v.toNat_lt
  exact parseInteger_eq_some.2 ⟨parseUInt16_eq_some.1 h, by omega, by omega⟩

lemma parseUInt16_description (v : UInt16) : parseUInt16 (description v.toNat) = some v :=
  parseUInt16_eq_some.2 (parseSigned_description _)

lemma parseUInt8_digits (v : UInt8) : parseUInt8 (digits v.toNat) = some v := by
  have hv := v.toNat_lt
  have hsigned : parseSigned (digits v.toNat) = some (v.toNat : ℤ) := parseSigned_description v.toNat
  have hread : parseInteger 0 (2 ^ 8 - 1) (digits v.toNat) = some (v.toNat : ℤ) :=
    parseInteger_eq_some.2 ⟨hsigned, by omega, by omega⟩
  rw [parseUInt8, hread, Option.map_some, Int.toNat_natCast, UInt8.ofNat_toNat]

/-- An integer literal has no other scalars than signs and digits. -/
lemma mem_of_parseSigned {s : Text} {n : ℤ} (h : parseSigned s = some n) {c : Char} (hc : c ∈ s) :
    c = '+' ∨ c = '-' ∨ c.isDigit := by
  have hd : ∀ {t : Text} {m : ℕ}, parseDigits t = some m → ∀ x ∈ t, x.isDigit := by
    intro t m ht x hx
    unfold parseDigits at ht
    split at ht
    · rename_i hall
      exact List.all_eq_true.1 hall.2 x hx
    · cases ht
  unfold parseSigned at h
  split at h
  · rename_i t
    obtain ⟨m, hm, -⟩ := Option.map_eq_some_iff.1 h
    rcases List.mem_cons.1 hc with rfl | hc
    · exact Or.inl rfl
    · exact Or.inr (Or.inr (hd hm c hc))
  · rename_i t
    obtain ⟨m, hm, -⟩ := Option.map_eq_some_iff.1 h
    rcases List.mem_cons.1 hc with rfl | hc
    · exact Or.inr (Or.inl rfl)
    · exact Or.inr (Or.inr (hd hm c hc))
  · obtain ⟨m, hm, -⟩ := Option.map_eq_some_iff.1 h
    exact Or.inr (Or.inr (hd hm c hc))

end FreeVPN.Foundation
