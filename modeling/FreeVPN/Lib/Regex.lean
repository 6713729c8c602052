import Mathlib.Data.List.Forall2
import FreeVPN.Lib.Lists

/-!
# Regular expressions with anchors

Regular expressions as scripts search a text with: classes of characters, repeated classes,
concatenations and alternatives, and the two anchors.  A line ends at the characters of `t`; where the
anchors stand for the ends of the text, `t` has no character.

* `Regex.Matches` — the part of a text that an expression matches, with the character before it and the
  text behind it;
* `Regex.ends`, `Regex.test` — a matcher, and a search through the text;
* `Regex.mem_ends`, `Regex.test_eq_true` — these find what is matched, and all of it.
-/

namespace FreeVPN.Lib

/-- A regular expression. -/
inductive Regex (α : Type*)
  | empty
  | one (p : α → Bool)
  | many (p : α → Bool)
  | lineStart
  | lineEnd
  | seq (r s : Regex α)
  | alt (r s : Regex α)

namespace Regex

variable {α : Type*} (t : α → Bool)

/-! ### What is matched -/

/-- The expression matches `v`, where `b` is the character before it and `w` the text behind it. -/
def Matches : Regex α → Option α → List α → List α → Prop
  | empty, _, v, _ => v = []
  | one p, _, v, _ => ∃ c, v = [c] ∧ p c
  | many p, _, v, _ => ∀ c ∈ v, p c
  | lineStart, b, v, _ => v = [] ∧ ∀ c ∈ b, t c
  | lineEnd, _, v, w => v = [] ∧ ∀ c ∈ w.head?, t c
  | seq r s, b, v, w => ∃ v₁ v₂, v = v₁ ++ v₂ ∧ Matches r b v₁ (v₂ ++ w) ∧ Matches s (v₁.getLast?.or b) v₂ w
  | alt r s, b, v, w => Matches r b v w ∨ Matches s b v w

/-- The beginnings of a list with elements of `p` only, and what they leave. -/
def splits (p : α → Bool) : List α → List (List α × List α)
  | [] => [([], [])]
  | c :: l => ([], c :: l) :: if p c then (splits p l).map fun r => (c :: r.1, r.2) else []

/-- The parts that the expression matches at the beginning of a text, and what they leave. -/
def ends : Regex α → Option α → List α → List (List α × List α)
  | empty, _, l => [([], l)]
  | one _, _, [] => []
  | one p, _, c :: l => if p c then [([c], l)] else []
  | many p, _, l => splits p l
  | lineStart, b, l => if b.all t then [([], l)] else []
  | lineEnd, _, l => if l.head?.all t then [([], l)] else []
  | seq r s, b, l => (ends r b l).flatMap fun x => (ends s (x.1.getLast?.or b) x.2).map fun y => (x.1 ++ y.1, y.2)
  | alt r s, b, l => ends r b l ++ ends s b l

/-- The search, from a character on. -/
def search (r : Regex α) : Option α → List α → Bool
  | b, [] => !(ends t r b []).isEmpty
  | b, c :: l => !(ends t r b (c :: l)).isEmpty || search r (some c) l

/-- `r.test(s)` -/
def test (r : Regex α) (s : List α) : Bool := search t r none s

/-! ### The matcher -/

lemma mem_splits {p : α → Bool} {l v w : List α} :
    (v, w) ∈ splits p l ↔ l = v ++ w ∧ ∀ c ∈ v, p c := by
  induction l generalizing v w with
  | nil => cases v <;> cases w <;> simp [splits]
  | cons c l ih =>
    rw [splits, List.mem_cons]
    cases v with
    | nil =>
      have hnil : ∀ c, ([], w) ∉ (splits p l).map fun r => (c :: r.1, r.2) := by simp
      have heq : (([], w) : List α × List α) = ([], c :: l) ↔ c :: l = [] ++ w := by
        rw [Prod.mk.injEq, List.nil_append, eq_comm (a := w)]
        exact and_iff_right rfl
      split_ifs with hc
      · simp [hnil, heq]
      · simp [heq]
    | cons d v =>
      split_ifs with hc
      · simp only [Prod.mk.injEq, reduceCtorEq, false_and, false_or, List.mem_map, Prod.exists, ih,
          List.cons_append, List.cons.injEq, List.forall_mem_cons]
        constructor
        · rintro ⟨v', w', ⟨rfl, hv⟩, ⟨rfl, rfl⟩, rfl⟩
          exact ⟨⟨rfl, rfl⟩, hc, hv⟩
        · rintro ⟨⟨rfl, rfl⟩, -, hv⟩
          exact ⟨v, w, ⟨rfl, hv⟩, ⟨rfl, rfl⟩, rfl⟩
      · simp only [Prod.mk.injEq, reduceCtorEq, false_and, List.not_mem_nil, or_self, List.cons_append,
          List.cons.injEq, List.forall_mem_cons, false_iff, not_and]
        rintro ⟨rfl, -⟩ hd
        exact absurd hd hc

/-- **The matcher finds what is matched.** -/
theorem mem_ends {r : Regex α} {b : Option α} {l : List α} {x : List α × List α} :
    x ∈ ends t r b l ↔ l = x.1 ++ x.2 ∧ r.Matches t b x.1 x.2 := by
  induction r generalizing b l x with
  | empty =>
    obtain ⟨v, w⟩ := x
    simp only [ends, List.mem_singleton, Prod.mk.injEq, Matches]
    constructor
    · rintro ⟨rfl, rfl⟩
      exact ⟨rfl, rfl⟩
    · rintro ⟨rfl, rfl⟩
      exact ⟨rfl, rfl⟩
  | one p =>
    obtain ⟨v, w⟩ := x
    cases l with
    | nil =>
      simp only [ends, List.not_mem_nil, Matches, false_iff, not_and, not_exists]
      rintro h c rfl
      simp at h
    | cons d l =>
      simp only [Matches]
      constructor
      · intro h
        rw [ends] at h
        split_ifs at h with hd
        · obtain ⟨rfl, rfl⟩ := Prod.mk.inj (List.mem_singleton.1 h)
          exact ⟨rfl, d, rfl, hd⟩
        · cases h
      · rintro ⟨hl, c, rfl, hc⟩
        obtain ⟨rfl, rfl⟩ := List.cons.inj hl
        rw [ends, if_pos hc]
        exact List.mem_singleton_self _
  | many p => exact mem_splits
  | lineStart =>
    obtain ⟨v, w⟩ := x
    have hall : b.all t = true ↔ ∀ c ∈ b, t c := by cases b <;> simp
    by_cases hb : b.all t
    · simp only [ends, hb, if_true, List.mem_singleton, Prod.mk.injEq, Matches]
      constructor
      · rintro ⟨rfl, rfl⟩
        exact ⟨rfl, rfl, hall.1 hb⟩
      · rintro ⟨rfl, rfl, -⟩
        exact ⟨rfl, rfl⟩
    · simp only [ends, hb, Bool.false_eq_true, if_false, List.not_mem_nil, Matches, false_iff, not_and]
      exact fun _ _ h => hb (hall.2 h)
  | lineEnd =>
    obtain ⟨v, w⟩ := x
    have hall : l.head?.all t = true ↔ ∀ c ∈ l.head?, t c := by cases l <;> simp
    by_cases hl : l.head?.all t
    · simp only [ends, hl, if_true, List.mem_singleton, Prod.mk.injEq, Matches]
      constructor
      · rintro ⟨rfl, rfl⟩
        exact ⟨rfl, rfl, hall.1 hl⟩
      · rintro ⟨rfl, rfl, -⟩
        exact ⟨rfl, rfl⟩
    · simp only [ends, hl, Bool.false_eq_true, if_false, List.not_mem_nil, Matches, false_iff, not_and]
      rintro rfl rfl h
      exact hl (hall.2 h)
  | seq r s ihr ihs =>
    obtain ⟨v, w⟩ := x
    simp only [ends, List.mem_flatMap, List.mem_map, ihr, ihs, Matches, Prod.mk.injEq]
    constructor
    · rintro ⟨⟨v₁, l'⟩, ⟨rfl, hr⟩, ⟨v₂, w'⟩, ⟨rfl, hs⟩, rfl, rfl⟩
      exact ⟨(List.append_assoc ..).symm, v₁, v₂, rfl, hr, hs⟩
    · rintro ⟨rfl, v₁, v₂, rfl, hr, hs⟩
      exact ⟨(v₁, v₂ ++ w), ⟨List.append_assoc .., hr⟩, (v₂, w), ⟨rfl, hs⟩, rfl, rfl⟩
  | alt r s ihr ihs =>
    simp only [ends, List.mem_append, ihr, ihs, Matches, and_or_left]

lemma search_eq_true {r : Regex α} {b : Option α} {l : List α} :
    search t r b l = true ↔ ∃ u v w, l = u ++ (v ++ w) ∧ r.Matches t (u.getLast?.or b) v w := by
  have hends : ∀ b l, (!(ends t r b l).isEmpty) = true ↔ ∃ v w, l = v ++ w ∧ r.Matches t b v w := by
    intro b l
    rw [Bool.not_eq_true', List.isEmpty_eq_false_iff_exists_mem]
    simp only [mem_ends, Prod.exists]
  induction l generalizing b with
  | nil =>
    rw [search, hends]
    constructor
    · rintro ⟨v, w, hl, h⟩
      exact ⟨[], v, w, hl, h⟩
    · rintro ⟨u, v, w, hl, h⟩
      obtain ⟨rfl, hvw⟩ := List.append_eq_nil_iff.1 hl.symm
      exact ⟨v, w, hvw.symm, h⟩
  | cons c l ih =>
    rw [search, Bool.or_eq_true, hends]
    refine (or_congr_right ih).trans ?_
    constructor
    · rintro (⟨v, w, hl, h⟩ | ⟨u, v, w, rfl, h⟩)
      · exact ⟨[], v, w, hl, h⟩
      · refine ⟨c :: u, v, w, rfl, ?_⟩
        cases hu : u.getLast? <;> simpa [List.getLast?_cons, hu] using h
    · rintro ⟨u, v, w, hl, h⟩
      cases u with
      | nil => exact Or.inl ⟨v, w, hl, h⟩
      | cons d u =>
        obtain ⟨rfl, rfl⟩ := List.cons.inj hl
        refine Or.inr ⟨u, v, w, rfl, ?_⟩
        cases hu : u.getLast? <;> simpa [List.getLast?_cons, hu] using h

/-- **The search finds a match where there is one.** -/
theorem test_eq_true {r : Regex α} {s : List α} :
    r.test t s = true ↔ ∃ u v w, s = u ++ (v ++ w) ∧ r.Matches t u.getLast? v w := by
  rw [test, search_eq_true]
  simp only [Option.or_none]

/-! ### Words and alternatives -/

variable {t}

/-- The characters of a word one after the other, each as `e` compares it. -/
def word (e : α → α → Bool) : List α → Regex α
  | [] => empty
  | c :: k => seq (one (e c)) (word e k)

lemma matches_word {e : α → α → Bool} {k : List α} {b : Option α} {v w : List α} :
    (word e k).Matches t b v w ↔ List.Forall₂ (fun c d => e c d) k v := by
  induction k generalizing b v with
  | nil => simp [word, Matches]
  | cons c k ih =>
    simp only [word, Matches, ih, List.forall₂_cons_left_iff]
    constructor
    · rintro ⟨v₁, v₂, rfl, ⟨d, rfl, hd⟩, hk⟩
      exact ⟨d, v₂, hd, hk, rfl⟩
    · rintro ⟨d, v₂, hd, hk, rfl⟩
      exact ⟨[d], v₂, rfl, ⟨d, rfl, hd⟩, hk⟩

/-- One of several expressions. -/
def oneOf : List (Regex α) → Regex α
  | [] => one fun _ => false
  | r :: rs => alt r (oneOf rs)

lemma matches_oneOf {rs : List (Regex α)} {b : Option α} {v w : List α} :
    (oneOf rs).Matches t b v w ↔ ∃ r ∈ rs, r.Matches t b v w := by
  induction rs with
  | nil => simp [oneOf, Matches]
  | cons r rs ih => simp [oneOf, Matches, ih]

end Regex

end FreeVPN.Lib
