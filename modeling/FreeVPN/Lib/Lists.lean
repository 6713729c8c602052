import Mathlib.Data.List.DropRight
import Mathlib.Data.List.Infix

/-!
# Cutting, trimming and splitting lists

The list operations that line-oriented text formats are read with, over any alphabet:

* `dropLastIf q l` — `l` without its last element, when that meets `q`;
* `trim p l` — `l` without the elements of `p` at its two ends;
* `before a l` and `cut a l` — the part before the first `a`, and the two parts around it;
* `pieces a l` — the non-empty pieces between the separators `a`.

The lemmas say how the operations commute: cutting a trimmed list, trimming a list cut short,
splitting a concatenation, and splitting what was joined.
-/

namespace FreeVPN.Lib

variable {α : Type*}

/-! ### The last element -/

section Last

/-- `l` without its last element, when that meets `q`. -/
def dropLastIf (q : α → Bool) : List α → List α
  | [] => []
  | [x] => if q x then [] else [x]
  | x :: y :: l => x :: dropLastIf q (y :: l)

lemma dropLastIf_concat (q : α → Bool) (l : List α) (x : α) :
    dropLastIf q (l ++ [x]) = if q x then l else l ++ [x] := by
  induction l with
  | nil => simp [dropLastIf]
  | cons y l ih =>
    cases l with
    | nil => by_cases hx : q x <;> simp [dropLastIf, hx]
    | cons z l =>
      rw [List.cons_append, List.cons_append, dropLastIf, ← List.cons_append, ih]
      split_ifs <;> rfl

/-- At most the last element is missing. -/
lemma dropLastIf_spec (q : α → Bool) (l : List α) :
    dropLastIf q l = l ∨ ∃ x, q x ∧ l = dropLastIf q l ++ [x] := by
  cases l using List.reverseRecOn with
  | nil => exact Or.inl rfl
  | append_singleton l x =>
    rw [dropLastIf_concat]
    by_cases hx : q x
    · exact Or.inr ⟨x, hx, by simp [hx]⟩
    · exact Or.inl (by simp [hx])

lemma forall₂_dropLastIf {β : Type*} {R : α → β → Prop} {q : α → Bool} {r : β → Bool}
    (hqr : ∀ a b, R a b → q a = r b) {as : List α} {bs : List β} (h : List.Forall₂ R as bs) :
    List.Forall₂ R (dropLastIf q as) (dropLastIf r bs) := by
  induction h with
  | nil => exact .nil
  | @cons a b as bs hab h ih =>
    cases h with
    | nil =>
      rw [dropLastIf, dropLastIf, hqr a b hab]
      split_ifs
      · exact .nil
      · exact .cons hab .nil
    | cons h' hs => exact .cons hab ih

end Last

/-! ### Trimming -/

section Trim

variable (p : α → Bool)

/-- `l` without the elements of `p` at its two ends. -/
def trim (l : List α) : List α := (l.dropWhile p).rdropWhile p

variable {p}

lemma rdropWhile_append_of_all {u : List α} (hu : ∀ x ∈ u, p x) (l : List α) :
    (l ++ u).rdropWhile p = l.rdropWhile p := by
  induction u using List.reverseRecOn with
  | nil => simp
  | append_singleton u x ih =>
    rw [← List.append_assoc, List.rdropWhile_concat_pos _ _ _ (hu x (by simp))]
    exact ih fun y hy => hu y (by simp [hy])

lemma rdropWhile_append_cons {a : α} (ha : p a = false) (u v : List α) :
    (u ++ a :: v).rdropWhile p = u ++ a :: v.rdropWhile p := by
  induction v using List.reverseRecOn with
  | nil => simp [List.rdropWhile_concat_neg, ha]
  | append_singleton v x ih =>
    by_cases hx : p x
    · rw [List.rdropWhile_concat_pos _ _ _ hx, ← ih]
      simpa using List.rdropWhile_concat_pos p (u ++ a :: v) x hx
    · rw [List.rdropWhile_concat_neg _ _ _ hx]
      simpa using List.rdropWhile_concat_neg p (u ++ a :: v) x hx

lemma dropWhile_append_of_all {u : List α} (hu : ∀ x ∈ u, p x) (l : List α) :
    (u ++ l).dropWhile p = l.dropWhile p := by
  induction u with
  | nil => rfl
  | cons x u ih => simp [hu x (by simp), ih fun y hy => hu y (by simp [hy])]

lemma dropWhile_append_cons {a : α} (ha : p a = false) (u v : List α) :
    (u ++ a :: v).dropWhile p = u.dropWhile p ++ a :: v := by
  induction u with
  | nil => simp [ha]
  | cons x u ih => by_cases hx : p x <;> simp [hx, ih]

/-- **What trimming takes away**: a run of `p` in front and a run of `p` behind. -/
lemma exists_trim (p : α → Bool) (l : List α) :
    ∃ u v, l = u ++ trim p l ++ v ∧ (∀ x ∈ u, p x) ∧ ∀ x ∈ v, p x := by
  refine ⟨l.takeWhile p, (l.dropWhile p).rtakeWhile p, ?_, fun x hx => List.mem_takeWhile_imp hx,
    fun x hx => ?_⟩
  · rw [List.append_assoc, trim, List.rdropWhile_append_rtakeWhile, List.takeWhile_append_dropWhile]
  · exact List.mem_rtakeWhile_imp hx

lemma trim_append_left {u : List α} (hu : ∀ x ∈ u, p x) (l : List α) : trim p (u ++ l) = trim p l := by
  rw [trim, dropWhile_append_of_all hu, trim]

/-- Trimming behind a replacement that keeps `p`, and also that it does not hold. -/
lemma trim_flatMap {f : α → List α} (hp : ∀ x, p x = true → ∀ y ∈ f x, p y = true)
    (hnot : ∀ x, p x = false → f x ≠ [] ∧ ∀ y ∈ f x, p y = false) (l : List α) :
    trim p (l.flatMap f) = (trim p l).flatMap f := by
  have hdrop : ∀ l : List α, (l.flatMap f).dropWhile p = (l.dropWhile p).flatMap f := by
    intro l
    induction l with
    | nil => rfl
    | cons x l ih =>
      rw [List.flatMap_cons]
      cases hx : p x with
      | true => rw [dropWhile_append_of_all (hp x hx), List.dropWhile_cons_of_pos hx, ih]
      | false =>
        obtain ⟨y, ys, hy⟩ := List.exists_cons_of_ne_nil (hnot x hx).1
        have hfalse : p y = false := (hnot x hx).2 y (hy ▸ List.mem_cons_self ..)
        rw [List.dropWhile_cons_of_neg (by simp [hx]), List.flatMap_cons, hy, List.cons_append,
          List.dropWhile_cons_of_neg (by simp [hfalse])]
  have hrdrop : ∀ l : List α, (l.flatMap f).rdropWhile p = (l.rdropWhile p).flatMap f := by
    intro l
    induction l using List.reverseRecOn with
    | nil => rfl
    | append_singleton l x ih =>
      rw [List.flatMap_append, List.flatMap_singleton]
      cases hx : p x with
      | true => rw [rdropWhile_append_of_all (hp x hx), List.rdropWhile_concat_pos _ _ _ hx, ih]
      | false =>
        obtain ⟨ys, y, hy⟩ := (List.eq_nil_or_concat' (f x)).resolve_left (hnot x hx).1
        have hfalse : p y = false := (hnot x hx).2 y (hy ▸ List.mem_append_right _ (List.mem_singleton_self _))
        rw [List.rdropWhile_concat_neg _ _ _ (by simp [hx]), List.flatMap_append, List.flatMap_singleton, hy,
          ← List.append_assoc, List.rdropWhile_concat_neg _ _ _ (by simp [hfalse])]
  rw [trim, hdrop, hrdrop, trim]

lemma trim_split {a : α} (ha : p a = false) (u v : List α) :
    trim p (u ++ a :: v) = u.dropWhile p ++ a :: v.rdropWhile p := by
  rw [trim, dropWhile_append_cons ha, rdropWhile_append_cons ha]

lemma trim_append_right {v : List α} (hv : ∀ x ∈ v, p x) (l : List α) : trim p (l ++ v) = trim p l := by
  by_cases hl : ∀ x ∈ l, p x
  · rw [trim, dropWhile_append_of_all hl, trim, List.dropWhile_eq_nil_iff.2 hl,
      List.dropWhile_eq_nil_iff.2 hv]
  · push Not at hl
    obtain ⟨a, ha, hpa⟩ := hl
    obtain ⟨s, t, rfl⟩ := List.append_of_mem ha
    rw [List.append_assoc, List.cons_append, trim_split (by simpa using hpa),
      trim_split (by simpa using hpa), rdropWhile_append_of_all hv]

@[simp] lemma trim_nil : trim p ([] : List α) = [] := rfl

lemma trim_eq_nil {l : List α} : trim p l = [] ↔ ∀ x ∈ l, p x := by
  constructor
  · intro h x hx
    obtain ⟨u, v, hl, hu, hv⟩ := exists_trim p l
    rw [h, List.append_nil] at hl
    rw [hl] at hx
    rcases List.mem_append.1 hx with hx | hx
    · exact hu x hx
    · exact hv x hx
  · intro h
    simpa using trim_append_right h []

lemma trim_eq_self {l : List α} (h : ∀ x ∈ l, p x = false) : trim p l = l := by
  have hd : l.dropWhile p = l := by
    cases l with
    | nil => rfl
    | cons x l => exact List.dropWhile_cons_of_neg (by simp [h x (by simp)])
  rw [trim, hd]
  exact List.rdropWhile_eq_self_iff.2 fun hl => by simp [h _ (List.getLast_mem hl)]

lemma infix_of_trim (p : α → Bool) (l : List α) : trim p l <:+: l := by
  obtain ⟨u, v, hl, -, -⟩ := exists_trim p l
  exact ⟨u, v, hl.symm⟩

lemma mem_of_mem_trim {l : List α} {x : α} (hx : x ∈ trim p l) : x ∈ l := (infix_of_trim p l).subset hx

lemma mem_trim_of_not {l : List α} {x : α} (hx : x ∈ l) (hp : p x = false) : x ∈ trim p l := by
  obtain ⟨s, t, rfl⟩ := List.append_of_mem hx
  rw [trim_split hp]
  simp

lemma trim_dropWhile (l : List α) : trim p (l.dropWhile p) = trim p l := by
  conv_rhs => rw [← List.takeWhile_append_dropWhile (p := p) (l := l)]
  rw [trim_append_left fun x hx => List.mem_takeWhile_imp hx]

lemma trim_rdropWhile (l : List α) : trim p (l.rdropWhile p) = trim p l := by
  conv_rhs => rw [← List.rdropWhile_append_rtakeWhile (p := p) (l := l)]
  rw [trim_append_right fun x hx => List.mem_rtakeWhile_imp hx]

@[simp] lemma trim_trim (l : List α) : trim p (trim p l) = trim p l := by
  conv_lhs => rw [show trim p l = (l.dropWhile p).rdropWhile p from rfl]
  rw [trim_rdropWhile, trim_dropWhile]

/-- A trimmed list does not begin with an element of `p`. -/
lemma trim_cons_head {l t : List α} {x : α} (h : trim p l = x :: t) : p x = false := by
  have hd : ∃ t', l.dropWhile p = x :: t' := by
    obtain ⟨s, hs⟩ := List.rdropWhile_prefix p (l.dropWhile p)
    rw [show (l.dropWhile p).rdropWhile p = x :: t from h] at hs
    exact ⟨t ++ s, by simpa using hs.symm⟩
  obtain ⟨t', ht'⟩ := hd
  have := List.head_dropWhile_not p (l := l) (by simp [ht'])
  simpa [ht'] using this

lemma dropWhile_of_trim {l : List α} (h : trim p l = l) : l.dropWhile p = l := by
  cases l with
  | nil => rfl
  | cons x l => exact List.dropWhile_cons_of_neg (by simpa using trim_cons_head h)

lemma getLast_of_trim {l : List α} (h : trim p l = l) : ∀ x ∈ l.getLast?, p x = false := by
  intro x hx
  obtain ⟨hne, rfl⟩ := List.mem_getLast?_eq_getLast hx
  have hself : l.rdropWhile p = l := by
    conv_lhs => rw [← dropWhile_of_trim h]
    exact h
  simpa using List.rdropWhile_eq_self_iff.1 hself hne

/-- Two trimmed lists make a trimmed list, when the second does not begin with an element of `p`. -/
lemma trim_append {a : α} {u v : List α} (hu : trim p u = u) (hv : trim p (a :: v) = a :: v) :
    trim p (u ++ a :: v) = u ++ a :: v := by
  have ha : p a = false := trim_cons_head hv
  have hr : v.rdropWhile p = v := by
    have h := trim_split ha [] v
    rw [List.nil_append, hv] at h
    exact (List.cons.inj h).2.symm
  rw [trim_split ha, dropWhile_of_trim hu, hr]

/-- Around a part whose ends are kept, only what is before and behind it is trimmed. -/
lemma trim_around {u k v : List α} (hne : k ≠ []) (hhead : ∀ x ∈ k.head?, p x = false)
    (hlast : ∀ x ∈ k.getLast?, p x = false) : trim p (u ++ (k ++ v)) = u.dropWhile p ++ (k ++ v.rdropWhile p) := by
  obtain ⟨x, k', hk'⟩ := List.exists_cons_of_ne_nil hne
  obtain ⟨k'', y, hk''⟩ := (List.eq_nil_or_concat' k).resolve_left hne
  have hx : p x = false := hhead x (by rw [hk']; rfl)
  have hy : p y = false := hlast y (by rw [hk'']; simp)
  have hdrop : (u ++ (k ++ v)).dropWhile p = u.dropWhile p ++ (k ++ v) := by
    rw [hk', List.cons_append, dropWhile_append_cons hx]
  rw [trim, hdrop, hk'', List.append_assoc, List.singleton_append, ← List.append_assoc,
    rdropWhile_append_cons hy]
  simp

/-- Behind an element of `p` in a trimmed list there is one that is kept. -/
lemma exists_of_trim_eq_self {a : α} (ha : p a) {u v : List α} (h : trim p (u ++ a :: v) = u ++ a :: v) :
    ∃ x ∈ v, p x = false := by
  by_contra hno
  push Not at hno
  have hall : ∀ x ∈ a :: v, p x := List.forall_mem_cons.2 ⟨ha, fun x hx => by simpa using hno x hx⟩
  rw [trim_append_right hall] at h
  have hlength := (infix_of_trim p u).length_le
  rw [h, List.length_append, List.length_cons] at hlength
  omega

lemma trim_congr {q : α → Bool} {l : List α} (h : ∀ x ∈ l, p x = q x) : trim p l = trim q l := by
  have hd : l.dropWhile p = l.dropWhile q := by
    induction l with
    | nil => rfl
    | cons x l ih =>
      have hl := ih fun y hy => h y (by simp [hy])
      simp [List.dropWhile_cons, h x (by simp), hl]
  have hr : ∀ m : List α, (∀ x ∈ m, p x = q x) → m.rdropWhile p = m.rdropWhile q := by
    intro m hm
    induction m using List.reverseRecOn with
    | nil => rfl
    | append_singleton m x ih =>
      have := ih fun y hy => hm y (by simp [hy])
      simp [List.rdropWhile_concat, hm x (by simp), this]
  rw [trim, trim, hd]
  exact hr _ fun x hx => h x ((List.dropWhile_sublist q).mem hx)

/-- What is not cut at its own end is not cut behind another list. -/
lemma rdropWhile_append_of_ne_nil {x v : List α} (hv : v.rdropWhile p = v) (hne : v ≠ []) :
    (x ++ v).rdropWhile p = x ++ v := by
  obtain ⟨w, a, rfl⟩ := (List.eq_nil_or_concat' v).resolve_left hne
  have ha : p a = false := by
    by_contra hpa
    rw [List.rdropWhile_concat_pos _ _ _ (by simpa using hpa)] at hv
    have hlength := (List.rdropWhile_prefix p w).length_le
    rw [hv, List.length_append, List.length_singleton] at hlength
    omega
  rw [← List.append_assoc, rdropWhile_append_cons ha]
  rfl

/-- Two parts of one length that are not cut at their ends can be told apart, whatever is around them. -/
lemma eq_of_rdropWhile_eq {x v v' w : List α} (hv : v.rdropWhile p = v) (hv' : v'.rdropWhile p = v')
    (hlength : v.length = v'.length) (h : (x ++ v ++ w).rdropWhile p = (x ++ v' ++ w).rdropWhile p) :
    v = v' := by
  by_cases hw : ∀ c ∈ w, p c
  · rw [rdropWhile_append_of_all hw, rdropWhile_append_of_all hw] at h
    by_cases hnil : v = []
    · subst hnil
      exact (List.eq_nil_of_length_eq_zero hlength.symm).symm
    · have hnil' : v' ≠ [] := fun hnil' => hnil (List.eq_nil_of_length_eq_zero (by rw [hlength, hnil']; rfl))
      rw [rdropWhile_append_of_ne_nil hv hnil, rdropWhile_append_of_ne_nil hv' hnil'] at h
      exact List.append_cancel_left h
  · push Not at hw
    obtain ⟨c, hc, hpc⟩ := hw
    obtain ⟨w₁, w₂, rfl⟩ := List.append_of_mem hc
    have hpc : p c = false := by simpa using hpc
    have hcut : ∀ y : List α, (x ++ y ++ (w₁ ++ c :: w₂)).rdropWhile p =
        x ++ (y ++ (w₁ ++ c :: w₂.rdropWhile p)) := by
      intro y
      rw [← List.append_assoc, rdropWhile_append_cons hpc, List.append_assoc, List.append_assoc]
    rw [hcut, hcut] at h
    exact (List.append_inj (List.append_cancel_left h) hlength).1

end Trim

/-! ### Cutting at the first occurrence -/

section Cut

variable [DecidableEq α]

/-- The part of `l` before the first `a`, all of `l` when there is none. -/
def before (a : α) (l : List α) : List α := l.takeWhile (· ≠ a)

/-- The parts of `l` before and after the first `a`. -/
def cut (a : α) : List α → Option (List α × List α)
  | [] => none
  | x :: l => if x = a then some ([], l) else (cut a l).map fun r => (x :: r.1, r.2)

variable {a : α}

lemma cut_append_cons {u : List α} (hu : a ∉ u) (v : List α) : cut a (u ++ a :: v) = some (u, v) := by
  induction u with
  | nil => simp [cut]
  | cons x u ih =>
    simp only [List.mem_cons, not_or] at hu
    simp [cut, Ne.symm hu.1, ih hu.2]

lemma cut_eq_none {l : List α} : cut a l = none ↔ a ∉ l := by
  induction l with
  | nil => simp [cut]
  | cons x l ih =>
    by_cases hx : x = a
    · simp [cut, hx]
    · simp [cut, hx, ih, Ne.symm hx]

lemma exists_first {l : List α} (h : a ∈ l) : ∃ u v, l = u ++ a :: v ∧ a ∉ u := by
  induction l with
  | nil => simp at h
  | cons x l ih =>
    by_cases hx : x = a
    · exact ⟨[], l, by simp [hx], by simp⟩
    · obtain ⟨u, v, rfl, hu⟩ := ih ((List.mem_cons.1 h).resolve_left (Ne.symm hx))
      exact ⟨x :: u, v, rfl, by simp [Ne.symm hx, hu]⟩

omit [DecidableEq α] in
/-- The last element with a property, if there is one. -/
lemma exists_last_of (P : α → Prop) (l : List α) :
    (∀ x ∈ l, ¬P x) ∨ ∃ u x v, l = u ++ x :: v ∧ P x ∧ ∀ y ∈ v, ¬P y := by
  induction l with
  | nil => exact Or.inl (by simp)
  | cons x l ih =>
    rcases ih with hno | ⟨u, y, v, rfl, hy, hv⟩
    · by_cases hx : P x
      · exact Or.inr ⟨[], x, l, rfl, hx, hno⟩
      · exact Or.inl (List.forall_mem_cons.2 ⟨hx, hno⟩)
    · exact Or.inr ⟨x :: u, y, v, rfl, hy, hv⟩

omit [DecidableEq α] in
lemma exists_last {l : List α} (h : a ∈ l) : ∃ u v, l = u ++ a :: v ∧ a ∉ v := by
  rcases exists_last_of (· = a) l with hno | ⟨u, x, v, hl, rfl, hv⟩
  · exact absurd rfl (hno a h)
  · exact ⟨u, v, hl, fun hmem => hv _ hmem rfl⟩

lemma cut_eq_some {l u v : List α} : cut a l = some (u, v) ↔ l = u ++ a :: v ∧ a ∉ u := by
  constructor
  · intro h
    by_cases hl : a ∈ l
    · obtain ⟨s, t, rfl, hs⟩ := exists_first hl
      rw [cut_append_cons hs] at h
      simp only [Option.some.injEq, Prod.mk.injEq] at h
      obtain ⟨rfl, rfl⟩ := h
      exact ⟨rfl, hs⟩
    · rw [cut_eq_none.2 hl] at h
      cases h
  · rintro ⟨rfl, hu⟩
    exact cut_append_cons hu v

lemma before_of_notMem {l : List α} (h : a ∉ l) : before a l = l :=
  List.takeWhile_eq_self_iff.2 fun x hx => by
    have : x ≠ a := fun e => h (e ▸ hx)
    simpa using this

lemma before_append_cons {u : List α} (hu : a ∉ u) (v : List α) : before a (u ++ a :: v) = u := by
  have hu' : ∀ x ∈ u, decide (x ≠ a) = true := fun x hx => by
    have : x ≠ a := fun e => hu (e ▸ hx)
    simpa using this
  rw [before, List.takeWhile_append_of_pos hu']
  simp

lemma before_append_of_notMem {u : List α} (hu : a ∉ u) (v : List α) :
    before a (u ++ v) = u ++ before a v := by
  have hu' : ∀ x ∈ u, decide (x ≠ a) = true := fun x hx => by
    have : x ≠ a := fun e => hu (e ▸ hx)
    simpa using this
  rw [before, List.takeWhile_append_of_pos hu', before]

lemma mem_of_mem_before {l : List α} {x : α} (h : x ∈ before a l) : x ∈ l :=
  (List.takeWhile_sublist _).mem h

/-- The parts of `l` before and after the last `a`. -/
def cutLast (a : α) (l : List α) : Option (List α × List α) :=
  (cut a l.reverse).map fun r => (r.2.reverse, r.1.reverse)

lemma cutLast_append_cons {v : List α} (hv : a ∉ v) (u : List α) :
    cutLast a (u ++ a :: v) = some (u, v) := by
  rw [cutLast, List.reverse_append, List.reverse_cons, List.append_assoc, List.singleton_append,
    cut_append_cons (by simpa using hv)]
  simp

lemma cutLast_eq_none {l : List α} : cutLast a l = none ↔ a ∉ l := by
  simp [cutLast, cut_eq_none]

variable {p : α → Bool}

/-- Cutting a trimmed list is trimming the outer ends of the two parts. -/
lemma cut_trim (ha : p a = false) (l : List α) :
    cut a (trim p l) = (cut a l).map fun r => (r.1.dropWhile p, r.2.rdropWhile p) := by
  by_cases hl : a ∈ l
  · obtain ⟨u, v, rfl, hu⟩ := exists_first hl
    rw [trim_split ha, cut_append_cons hu, cut_append_cons]
    · rfl
    · exact fun h => hu ((List.dropWhile_sublist p).mem h)
  · rw [cut_eq_none.2 hl, cut_eq_none.2 fun h => hl (mem_of_mem_trim h)]
    rfl

/-- What is before the first `a` does not depend, up to its ends, on the list being trimmed. -/
lemma trim_before_trim (ha : p a = false) (l : List α) :
    trim p (before a (trim p l)) = trim p (before a l) := by
  by_cases hl : a ∈ l
  · obtain ⟨u, v, rfl, hu⟩ := exists_first hl
    rw [trim_split ha, before_append_cons hu, before_append_cons, trim_dropWhile]
    exact fun h => hu ((List.dropWhile_sublist p).mem h)
  · rw [before_of_notMem hl, before_of_notMem fun h => hl (mem_of_mem_trim h), trim_trim]

end Cut

/-! ### Cutting at the first occurrence of a list -/

section CutAt

variable [DecidableEq α] {t : List α}

/-- The parts of a list before and behind the first `t` in it. -/
def cutAt (t : List α) : List α → Option (List α × List α)
  | [] => if t = [] then some ([], []) else none
  | x :: l =>
    if t.isPrefixOf (x :: l) then some ([], (x :: l).drop t.length)
    else (cutAt t l).map fun r => (x :: r.1, r.2)

lemma cutAt_eq_none {l : List α} : cutAt t l = none ↔ ¬t <:+: l := by
  induction l with
  | nil => simp [cutAt]
  | cons x l ih =>
    rw [cutAt, List.infix_cons_iff]
    split_ifs with h
    · simp [List.isPrefixOf_iff_prefix.1 h]
    · rw [Option.map_eq_none_iff, ih, not_or, and_iff_right fun hpre => h (List.isPrefixOf_iff_prefix.2 hpre)]

lemma eq_of_cutAt {l u v : List α} (h : cutAt t l = some (u, v)) : l = u ++ t ++ v := by
  induction l generalizing u with
  | nil =>
    rw [cutAt] at h
    split_ifs at h with ht
    obtain ⟨rfl, rfl⟩ := Prod.mk.inj (Option.some.inj h)
    rw [ht]
    rfl
  | cons x l ih =>
    rw [cutAt] at h
    split_ifs at h with hpre
    · obtain ⟨rfl, rfl⟩ := Prod.mk.inj (Option.some.inj h)
      exact List.prefix_append_drop (List.isPrefixOf_iff_prefix.1 hpre)
    · obtain ⟨⟨u', v'⟩, hcut, heq⟩ := Option.map_eq_some_iff.1 h
      obtain ⟨rfl, rfl⟩ := Prod.mk.inj heq
      rw [ih hcut]
      simp

/-- What comes behind a list does not move the first `t` in it. -/
lemma cutAt_append {l u v : List α} (h : cutAt t l = some (u, v)) (w : List α) :
    cutAt t (l ++ w) = some (u, v ++ w) := by
  induction l generalizing u with
  | nil =>
    rw [cutAt] at h
    split_ifs at h with ht
    obtain ⟨rfl, rfl⟩ := Prod.mk.inj (Option.some.inj h)
    subst ht
    cases w <;> rfl
  | cons x l ih =>
    rw [cutAt] at h
    rw [List.cons_append, cutAt]
    split_ifs at h with hpre
    · obtain ⟨rfl, rfl⟩ := Prod.mk.inj (Option.some.inj h)
      have hpre := List.isPrefixOf_iff_prefix.1 hpre
      have hpre' : t <+: x :: (l ++ w) := hpre.trans (List.prefix_append (x :: l) w)
      rw [if_pos (List.isPrefixOf_iff_prefix.2 hpre'), ← List.cons_append,
        List.drop_append_of_le_length hpre.length_le]
    · obtain ⟨⟨u', v'⟩, hcut, heq⟩ := Option.map_eq_some_iff.1 h
      obtain ⟨rfl, rfl⟩ := Prod.mk.inj heq
      have hlength : t.length ≤ (x :: l).length := by
        have heq := congrArg List.length (eq_of_cutAt hcut)
        simp only [List.length_append] at heq
        simp only [List.length_cons]
        omega
      have hnot : ¬t.isPrefixOf (x :: (l ++ w)) = true := by
        intro hpre'
        exact hpre (List.isPrefixOf_iff_prefix.2 (List.prefix_of_prefix_length_le
          (List.isPrefixOf_iff_prefix.1 hpre') (List.prefix_append (x :: l) w) hlength))
      rw [if_neg hnot, ih hcut]
      rfl

end CutAt

/-! ### Splitting and joining -/

section Split

variable {p : α → Bool}

lemma sep_of_mem_splitOnP {xs l : List α} (hl : l ∈ xs.splitOnP p) {x : α} (hx : x ∈ l) :
    p x = false := by
  induction xs generalizing l with
  | nil =>
    simp only [List.splitOnP_nil, List.mem_singleton] at hl
    simp [hl] at hx
  | cons y xs ih =>
    rw [List.splitOnP_cons_eq_if_modifyHead] at hl
    split at hl
    · rcases List.mem_cons.1 hl with rfl | hl
      · simp at hx
      · exact ih hl hx
    · rename_i hy
      obtain ⟨s, t, hst⟩ := List.exists_cons_of_ne_nil (List.splitOnP_ne_nil p xs)
      rw [hst, List.modifyHead_cons] at hl
      rcases List.mem_cons.1 hl with rfl | hl
      · rcases List.mem_cons.1 hx with rfl | hx
        · simpa using hy
        · exact ih (hst ▸ List.mem_cons_self ..) hx
      · exact ih (hst ▸ List.mem_cons_of_mem _ hl) hx

lemma prefix_of_splitOnP {xs s : List α} {t : List (List α)} (h : xs.splitOnP p = s :: t) : s <+: xs := by
  induction xs generalizing s t with
  | nil =>
    obtain ⟨rfl, -⟩ := List.cons.inj h
    exact List.nil_prefix
  | cons y xs ih =>
    rw [List.splitOnP_cons_eq_if_modifyHead] at h
    split at h
    · obtain ⟨rfl, -⟩ := List.cons.inj h
      exact List.nil_prefix
    · obtain ⟨s', t', hst⟩ := List.exists_cons_of_ne_nil (List.splitOnP_ne_nil p xs)
      rw [hst, List.modifyHead_cons] at h
      obtain ⟨rfl, -⟩ := List.cons.inj h
      exact List.cons_prefix_cons.2 ⟨rfl, ih hst⟩

/-- The parts of a split are parts of the list. -/
lemma infix_of_mem_splitOnP {xs l : List α} (hl : l ∈ xs.splitOnP p) : l <:+: xs := by
  induction xs generalizing l with
  | nil =>
    rw [List.splitOnP_nil, List.mem_singleton] at hl
    rw [hl]
  | cons y xs ih =>
    have hcons : ∀ {l : List α}, l <:+: xs → l <:+: y :: xs := fun h =>
      h.trans (List.suffix_cons y xs).isInfix
    rw [List.splitOnP_cons_eq_if_modifyHead] at hl
    split at hl
    · rcases List.mem_cons.1 hl with rfl | hl
      · exact List.nil_infix
      · exact hcons (ih hl)
    · obtain ⟨s, t, hst⟩ := List.exists_cons_of_ne_nil (List.splitOnP_ne_nil p xs)
      rw [hst, List.modifyHead_cons] at hl
      rcases List.mem_cons.1 hl with rfl | hl
      · exact (List.cons_prefix_cons.2 ⟨rfl, prefix_of_splitOnP hst⟩).isInfix
      · exact hcons (ih (hst ▸ List.mem_cons_of_mem _ hl))

/-- A beginning without separators is one of the first part. -/
lemma prefix_of_prefix_splitOnP {xs t s : List α} {ss : List (List α)} (ht : ∀ x ∈ t, p x = false) (h : t <+: xs)
    (hs : xs.splitOnP p = s :: ss) : t <+: s := by
  induction xs generalizing t s ss with
  | nil =>
    rw [List.prefix_nil.1 h]
    exact List.nil_prefix
  | cons y xs ih =>
    cases t with
    | nil => exact List.nil_prefix
    | cons x t =>
      obtain ⟨rfl, htail⟩ := List.cons_prefix_cons.1 h
      obtain ⟨s', ss', hsplit⟩ := List.exists_cons_of_ne_nil (List.splitOnP_ne_nil p xs)
      have hx : ¬p x = true := by rw [ht x (List.mem_cons_self ..)]; exact Bool.false_ne_true
      rw [List.splitOnP_cons_eq_if_modifyHead, if_neg hx, hsplit, List.modifyHead_cons] at hs
      obtain ⟨rfl, -⟩ := List.cons.inj hs
      exact List.cons_prefix_cons.2 ⟨rfl, ih (fun z hz => ht z (List.mem_cons_of_mem _ hz)) htail hsplit⟩

/-- A part without separators lies in one of the parts of the split. -/
lemma exists_infix_of_mem_splitOnP {xs t : List α} (ht : ∀ x ∈ t, p x = false) (h : t <:+: xs) :
    ∃ s ∈ xs.splitOnP p, t <:+: s := by
  induction xs with
  | nil => exact ⟨[], by simp, h⟩
  | cons y xs ih =>
    obtain ⟨s, ss, hs⟩ := List.exists_cons_of_ne_nil (List.splitOnP_ne_nil p (y :: xs))
    rcases List.infix_cons_iff.1 h with hpre | hin
    · exact ⟨s, hs ▸ List.mem_cons_self .., (prefix_of_prefix_splitOnP ht hpre hs).isInfix⟩
    · obtain ⟨l, hl, hinl⟩ := ih hin
      rw [List.splitOnP_cons_eq_if_modifyHead]
      split_ifs with hy
      · exact ⟨l, List.mem_cons_of_mem _ hl, hinl⟩
      · obtain ⟨s', ss', hsplit⟩ := List.exists_cons_of_ne_nil (List.splitOnP_ne_nil p xs)
        rw [hsplit, List.modifyHead_cons]
        rw [hsplit] at hl
        rcases List.mem_cons.1 hl with rfl | hl
        · exact ⟨y :: l, List.mem_cons_self .., hinl.trans (List.suffix_cons y l).isInfix⟩
        · exact ⟨l, List.mem_cons_of_mem _ hl, hinl⟩

lemma mem_of_mem_splitOnP {xs l : List α} (hl : l ∈ xs.splitOnP p) {x : α} (hx : x ∈ l) : x ∈ xs :=
  (infix_of_mem_splitOnP hl).subset hx

/-- **The parts of a list** are what is between two separators, or a separator and an end. -/
theorem mem_splitOnP_iff {xs l : List α} :
    l ∈ xs.splitOnP p ↔ (∀ x ∈ l, p x = false) ∧
      ∃ u v, xs = u ++ (l ++ v) ∧ (∀ x ∈ u.getLast?, p x) ∧ ∀ x ∈ v.head?, p x := by
  constructor
  · intro hl
    refine ⟨fun x hx => sep_of_mem_splitOnP hl hx, ?_⟩
    induction hn : xs.length using Nat.strong_induction_on generalizing xs with
    | _ n ih =>
      have hfree : ∀ x ∈ xs.takeWhile fun x => !p x, p x = false := fun x hx => by
        simpa using List.mem_takeWhile_imp hx
      have hxs := List.takeWhile_append_dropWhile (p := fun x => !p x) (l := xs)
      generalize xs.takeWhile (fun x => !p x) = u at hfree hxs
      cases hw : xs.dropWhile fun x => !p x with
      | nil =>
        rw [hw, List.append_nil] at hxs
        rw [← hxs, List.splitOnP_eq_singleton hfree, List.mem_singleton] at hl
        exact ⟨[], [], by simp [hl, hxs], by simp, by simp⟩
      | cons a v =>
        have ha : p a := by
          have := List.head?_dropWhile_not (fun x => !p x) xs
          simpa [hw] using this
        rw [hw] at hxs
        rw [← hxs, List.splitOnP_append_cons u v ha, List.splitOnP_eq_singleton hfree] at hl
        rcases List.mem_cons.1 hl with rfl | hl
        · exact ⟨[], a :: v, hxs.symm, by simp, by simpa using ha⟩
        · obtain ⟨u', v', rfl, hu', hv'⟩ := ih v.length (by rw [← hn, ← hxs]; simp; omega) hl rfl
          refine ⟨u ++ a :: u', v', by simp [← hxs], ?_, hv'⟩
          rw [List.getLast?_append, List.getLast?_cons]
          cases hlast : u'.getLast? with
          | none => simpa using ha
          | some z => simpa using hu' z hlast
  · rintro ⟨hl, u, v, rfl, hu, hv⟩
    have hright : l ∈ (l ++ v).splitOnP p := by
      cases v with
      | nil => simp [List.splitOnP_eq_singleton hl]
      | cons b v => simp [List.splitOnP_append_cons l v (hv b rfl), List.splitOnP_eq_singleton hl]
    rcases List.eq_nil_or_concat' u with rfl | ⟨u, a, rfl⟩
    · exact hright
    · rw [List.append_assoc, List.singleton_append, List.splitOnP_append_cons u _ (hu a (by simp))]
      exact List.mem_append_right _ hright

/-- The last part of the first list and the first part of the second become one part. -/
lemma splitOnP_append {xs ys : List α} {us vs : List (List α)} {u v : List α}
    (hx : xs.splitOnP p = us ++ [u]) (hy : ys.splitOnP p = v :: vs) :
    (xs ++ ys).splitOnP p = us ++ (u ++ v) :: vs := by
  induction xs generalizing us u with
  | nil =>
    obtain ⟨rfl, hu⟩ := List.append_inj' (show [] ++ [[]] = us ++ [u] from hx) rfl
    rw [← List.singleton_inj.1 hu]
    exact hy
  | cons x xs ih =>
    rw [List.splitOnP_cons_eq_if_modifyHead] at hx
    rw [List.cons_append, List.splitOnP_cons_eq_if_modifyHead]
    obtain ⟨ws, w, hxs⟩ := (List.eq_nil_or_concat' (xs.splitOnP p)).resolve_left (List.splitOnP_ne_nil p xs)
    rw [ih hxs]
    rw [hxs] at hx
    by_cases hp : p x
    · rw [if_pos hp] at hx ⊢
      rw [← List.cons_append] at hx
      obtain ⟨rfl, hu⟩ := List.append_inj' hx rfl
      rw [List.singleton_inj.1 hu]
      rfl
    · rw [if_neg hp] at hx ⊢
      cases ws with
      | nil =>
        obtain ⟨rfl, hu⟩ := List.append_inj' (show [] ++ [x :: w] = us ++ [u] from hx) rfl
        rw [← List.singleton_inj.1 hu]
        rfl
      | cons w' ws =>
        obtain ⟨rfl, hu⟩ := List.append_inj' (show (x :: w') :: ws ++ [w] = us ++ [u] from hx) rfl
        rw [List.singleton_inj.1 hu]
        rfl

/-- A part without separators is put to the first part. -/
lemma splitOnP_append_free {xs ys v : List α} {vs : List (List α)} (hx : ∀ x ∈ xs, p x = false)
    (hy : ys.splitOnP p = v :: vs) : (xs ++ ys).splitOnP p = (xs ++ v) :: vs := by
  have hfree : xs.splitOnP p = [] ++ [xs] := List.splitOnP_eq_singleton hx
  exact splitOnP_append hfree hy

/-- Splitting behind a replacement that keeps the separators, and makes none of other elements. -/
lemma splitOnP_flatMap {f : α → List α} (hself : ∀ x, p x = true → f x = [x])
    (hp : ∀ x, p x = false → ∀ y ∈ f x, p y = false) (l : List α) :
    (l.flatMap f).splitOnP p = (l.splitOnP p).map (List.flatMap f) := by
  induction l with
  | nil => rfl
  | cons x l ih =>
    obtain ⟨s, t, hst⟩ := List.exists_cons_of_ne_nil (List.splitOnP_ne_nil p l)
    rw [List.flatMap_cons, List.splitOnP_cons_eq_if_modifyHead]
    by_cases hx : p x
    · rw [if_pos hx, hself x hx, List.singleton_append, List.splitOnP_cons_eq_if_modifyHead, if_pos hx, ih]
      rfl
    · have hfree := hp x (by simpa using hx)
      rw [hst] at ih
      rw [if_neg hx, hst, splitOnP_append_free hfree ih]
      rfl

/-- Splitting at some separators first, and then the parts at all of them. -/
lemma flatMap_splitOnP {q : α → Bool} (hq : ∀ x, q x = true → p x = true) (l : List α) :
    (l.splitOnP q).flatMap (List.splitOnP p) = l.splitOnP p := by
  induction l with
  | nil => simp
  | cons x l ih =>
    obtain ⟨s, t, hst⟩ := List.exists_cons_of_ne_nil (List.splitOnP_ne_nil q l)
    rw [List.splitOnP_cons_eq_if_modifyHead, List.splitOnP_cons_eq_if_modifyHead]
    by_cases hx : q x
    · rw [if_pos hx, if_pos (hq x hx), List.flatMap_cons, ih]
      simp
    · rw [if_neg hx, hst, List.modifyHead_cons, List.flatMap_cons, ← ih, hst, List.flatMap_cons,
        List.splitOnP_cons_eq_if_modifyHead]
      obtain ⟨s', t', hst'⟩ := List.exists_cons_of_ne_nil (List.splitOnP_ne_nil p s)
      rw [hst']
      split_ifs <;> rfl

lemma splitOnP_intercalate {c : α} (hc : p c) {ls : List (List α)}
    (h : ∀ l ∈ ls, ∀ x ∈ l, p x = false) (hne : ls ≠ []) :
    ([c].intercalate ls).splitOnP p = ls := by
  induction ls with
  | nil => exact absurd rfl hne
  | cons l ls ih =>
    cases ls with
    | nil => simpa [List.intercalate] using List.splitOnP_eq_singleton (h l (by simp))
    | cons m ls =>
      rw [List.intercalate_cons_cons, List.append_assoc, List.singleton_append,
        List.splitOnP_append_cons_of_forall_mem (h l (by simp)) c hc,
        ih (fun l' hl' => h l' (by simp [hl'])) (by simp)]

lemma infix_intercalate (sep : List α) {ls : List (List α)} {l : List α} (h : l ∈ ls) : l <:+: sep.intercalate ls := by
  induction ls with
  | nil => cases h
  | cons m ls ih =>
    by_cases hls : ls = []
    · subst hls
      rw [List.mem_singleton.1 h, List.intercalate_singleton]
    · rw [List.intercalate_cons_of_ne_nil hls]
      rcases List.mem_cons.1 h with rfl | h
      · exact ⟨[], sep ++ sep.intercalate ls, by simp⟩
      · exact (ih h).trans ((List.suffix_append _ _).isInfix)

/-- A part of a joined list, with what is around it. -/
structure JoinedAround (sep : List α) (before : List (List α)) (l : List α) (after : List (List α))
    (u v : List α) : Prop where
  eq : sep.intercalate (before ++ l :: after) = u ++ (l ++ v)
  left : u = [] ∨ ∃ u', u = u' ++ sep
  right : v = [] ∨ ∃ v', v = sep ++ v'
  first : before = [] → u = []
  last : after = [] → v = []
  behind : ∀ m ∈ after, m <:+: v

lemma exists_joinedAround (sep : List α) (before : List (List α)) (l : List α) (after : List (List α)) :
    ∃ u v, JoinedAround sep before l after u v := by
  induction before with
  | nil =>
    by_cases hafter : after = []
    · exact ⟨[], [], ⟨by simp [hafter], Or.inl rfl, Or.inl rfl, fun _ => rfl, fun _ => rfl, by simp [hafter]⟩⟩
    · refine ⟨[], sep ++ sep.intercalate after, ⟨?_, Or.inl rfl, Or.inr ⟨_, rfl⟩, fun _ => rfl,
        fun h => absurd h hafter, fun m hm => ?_⟩⟩
      · rw [List.nil_append, List.intercalate_cons_of_ne_nil hafter, List.nil_append, List.append_assoc]
      · exact (infix_intercalate sep hm).trans ((List.suffix_append _ _).isInfix)
  | cons b before ih =>
    obtain ⟨u, v, huv, hleft, hright, -, hlast, hv⟩ := ih
    refine ⟨b ++ sep ++ u, v, ⟨?_, Or.inr ?_, hright, by simp, hlast, hv⟩⟩
    · rw [List.cons_append, List.intercalate_cons_of_ne_nil (by simp), huv]
      simp only [List.append_assoc]
    · rcases hleft with rfl | ⟨u', rfl⟩
      · exact ⟨b, List.append_nil _⟩
      · exact ⟨b ++ sep ++ u', by simp only [List.append_assoc]⟩

variable [DecidableEq α] {a : α}

/-- The non-empty pieces of `l` between the separators `a`. -/
def pieces (a : α) (l : List α) : List (List α) := (l.splitOn a).filter (· ≠ [])

@[simp] lemma pieces_nil : pieces a ([] : List α) = [] := by simp [pieces]

lemma pieces_append_cons (x y : List α) : pieces a (x ++ a :: y) = pieces a x ++ pieces a y := by
  simp [pieces, List.splitOn_append_cons_self]

lemma pieces_of_notMem {x : List α} (h : a ∉ x) : pieces a x = if x = [] then [] else [x] := by
  rw [pieces, List.splitOn_eq_singleton h]
  by_cases hx : x = [] <;> simp [hx]

lemma notMem_of_mem_pieces {x l : List α} (h : l ∈ pieces a x) : a ∉ l := fun ha => by
  have hl := (List.mem_filter.1 h).1
  rw [List.splitOn_eq_splitOnP] at hl
  simpa using sep_of_mem_splitOnP hl ha

lemma mem_of_mem_pieces {x l : List α} (h : l ∈ pieces a x) {b : α} (hb : b ∈ l) : b ∈ x := by
  have hl := (List.mem_filter.1 h).1
  rw [List.splitOn_eq_splitOnP] at hl
  exact mem_of_mem_splitOnP hl hb

end Split

/-- What is joined with an element at the end: the others end with the separator. -/
lemma intercalate_append_cons (s x y : List α) (l r : List (List α)) :
    s.intercalate (l ++ (x ++ y) :: r) = l.flatMap (· ++ s) ++ (x ++ s.intercalate (y :: r)) := by
  induction l with
  | nil =>
    cases r with
    | nil => simp
    | cons z r => simp [List.intercalate_cons_cons]
  | cons z l ih =>
    obtain ⟨w, ws, hw⟩ : ∃ w ws, l ++ (x ++ y) :: r = w :: ws := List.exists_cons_of_ne_nil (by simp)
    rw [List.cons_append, hw, List.intercalate_cons_cons, ← hw, ih, List.flatMap_cons]
    simp only [List.append_assoc]

/-! ### Beginnings -/

/-- A beginning without `c` ends before the first `c`. -/
lemma prefix_append_cons_iff {k x y : List α} {c : α} (hc : c ∉ k) : k <+: x ++ c :: y ↔ k <+: x := by
  refine ⟨fun h => ?_, fun h => h.trans (List.prefix_append x _)⟩
  rcases List.prefix_or_prefix_of_prefix h (List.prefix_append x (c :: y)) with hkx | ⟨w, rfl⟩
  · exact hkx
  · have hw : w <+: c :: y := (List.prefix_append_right_inj x).1 h
    cases w with
    | nil => rw [List.append_nil]
    | cons d w =>
      obtain ⟨rfl, -⟩ := List.cons_prefix_cons.1 hw
      exact absurd (by simp) hc

/-! ### Elements that are mapped -/

/-- What two mappings keep is the same, if they keep the same elements, when it is so one by one. -/
lemma filterMap_eq_filterMap_iff {β γ : Type*} {f : α → Option γ} {g : β → Option γ} {as : List α}
    {bs : List β} (h : List.Forall₂ (fun a b => (f a).isSome = (g b).isSome) as bs) :
    as.filterMap f = bs.filterMap g ↔ List.Forall₂ (fun a b => f a = g b) as bs := by
  induction h with
  | nil => exact iff_of_true rfl .nil
  | @cons a b as bs hab _ ih =>
    rw [List.forall₂_cons, ← ih]
    cases ha : f a with
    | none =>
      cases hb : g b with
      | none => rw [List.filterMap_cons_none ha, List.filterMap_cons_none hb, and_iff_right rfl]
      | some d => rw [ha, hb] at hab; cases hab
    | some c =>
      cases hb : g b with
      | none => rw [ha, hb] at hab; cases hab
      | some d =>
        rw [List.filterMap_cons_some ha, List.filterMap_cons_some hb, List.cons.injEq, Option.some.injEq]

/-- The first value among those that are kept. -/
lemma findSome?_filterMap {β γ : Type*} (f : α → Option β) (g : β → Option γ) (l : List α) :
    (l.filterMap f).findSome? g = l.findSome? fun a => (f a).bind g := by
  induction l with
  | nil => rfl
  | cons a l ih =>
    rw [List.findSome?_cons, ← ih]
    cases hf : f a with
    | none => rw [List.filterMap_cons_none hf, Option.bind_none]
    | some b => rw [List.filterMap_cons_some hf, List.findSome?_cons, Option.bind_some]

/-- Two mappings that keep the same elements keep as many. -/
lemma length_filterMap_eq {β γ δ : Type*} {f : α → Option γ} {g : β → Option δ} {as : List α}
    {bs : List β} (h : List.Forall₂ (fun a b => (f a).isSome = (g b).isSome) as bs) :
    (as.filterMap f).length = (bs.filterMap g).length := by
  induction h with
  | nil => rfl
  | @cons a b as bs hab _ ih =>
    cases ha : f a with
    | none =>
      cases hb : g b with
      | none => rw [List.filterMap_cons_none ha, List.filterMap_cons_none hb, ih]
      | some d => rw [ha, hb] at hab; cases hab
    | some c =>
      cases hb : g b with
      | none => rw [ha, hb] at hab; cases hab
      | some d =>
        rw [List.filterMap_cons_some ha, List.filterMap_cons_some hb, List.length_cons, List.length_cons, ih]

/-- The results of a mapping that fails for no element. -/
lemma exists_mem_mapM {β : Type*} {f : α → Option β} {as : List α} {bs : List β} (h : as.mapM f = some bs)
    {P : α → Prop} {Q : β → Prop} (hPQ : ∀ a b, f a = some b → (Q b ↔ P a)) :
    (∃ b ∈ bs, Q b) ↔ ∃ a ∈ as, P a := by
  induction as generalizing bs with
  | nil => cases h; simp
  | cons a as ih =>
    rw [List.mapM_cons] at h
    obtain ⟨b, hb, h⟩ := Option.bind_eq_some_iff.1 h
    obtain ⟨bs', hbs, h⟩ := Option.bind_eq_some_iff.1 h
    rw [← Option.some.inj h, List.exists_mem_cons_iff, List.exists_mem_cons_iff, hPQ a b hb, ih hbs]

/-! ### Elements that are kept -/

section Kept

/-- The last elements of a list and of a sublist. -/
lemma concat_sublist_concat {X Y : List α} {a b : α} (h : (X ++ [a]).Sublist (Y ++ [b])) :
    (X ++ [a]).Sublist Y ∨ a = b ∧ X.Sublist Y := by
  rw [← List.reverse_sublist] at h
  simp only [List.reverse_append, List.reverse_singleton, List.singleton_append] at h
  rcases List.cons_sublist_cons'.1 h with hsub | ⟨hab, hsub⟩
  · left
    rw [← List.reverse_sublist, List.reverse_append]
    exact hsub
  · exact Or.inr ⟨hab, List.reverse_sublist.1 hsub⟩

/-- **Nothing is lost.**  Every element is kept as it is, changed or left out, and `r` as it is.  The
elements are a sublist of what is kept, with one more `r` behind it, only if each is kept as it is. -/
theorem sublist_kept_concat {l : List (α × Option α)} {r : α}
    (hr : ∀ p ∈ l, p.1 = r → p.2 = some r) :
    (l.map Prod.fst).Sublist (l.filterMap Prod.snd ++ [r]) ↔ ∀ p ∈ l, p.2 = some p.1 := by
  constructor
  · intro h
    induction l using List.reverseRecOn with
    | nil => simp
    | append_singleton l p ih =>
      obtain ⟨hrest, hp⟩ := List.forall_mem_append.1 hr
      obtain ⟨a, o⟩ := p
      rw [List.map_append, List.filterMap_append] at h
      -- by the induction, the others are kept when they are found in front of `r`
      have hall : (l.map Prod.fst).Sublist (l.filterMap Prod.snd ++ [r]) → o = some a →
          ∀ p ∈ l ++ [(a, o)], p.2 = some p.1 := by
        intro hl ho
        exact List.forall_mem_append.2 ⟨ih hrest hl, by simpa using ho⟩
      rcases concat_sublist_concat h with hsub | ⟨har, hsub⟩
      · have hlength := hsub.length_le
        have hkept := List.length_filterMap_le Prod.snd l
        cases o with
        | none => simp at hlength; omega
        | some b =>
          have heq := hsub.eq_of_length_le (by simpa using hkept)
          obtain ⟨heq, hab⟩ := List.append_inj' heq rfl
          refine hall ?_ (by simpa [eq_comm] using hab)
          rw [heq]
          exact List.sublist_append_left ..
      · have har : a = r := har
        subst har
        have ho : o = some a := hp _ (List.mem_singleton_self _) rfl
        subst ho
        exact hall hsub rfl
  · intro h
    have heq : l.filterMap Prod.snd = l.map Prod.fst := by
      rw [← List.filterMap_eq_map]
      exact List.filterMap_congr h
    rw [heq]
    exact List.sublist_append_left ..

end Kept

/-! ### Two selections -/

section Selections

variable {β γ : Type*} {S : α → Prop} {T : β → γ → Prop} {f : β → Option α} {g : γ → Option α}

lemma filterMap_cons_toList (f : β → Option α) (b : β) (bs : List β) :
    (b :: bs).filterMap f = (f b).toList ++ bs.filterMap f := by
  cases h : f b <;> simp [h]

/-- A first selection that is ahead stays ahead: it takes no element of `S` that the second does not take,
and so does not come upon the one behind the second. -/
lemma append_filterMap_ne (hT : ∀ b c, T b c → f b = g c ∨ ∃ a, f b = some a ∧ ¬S a) {bs : List β}
    {cs : List γ} (h : List.Forall₂ T bs cs) {u v w : List α} {s : α} (hu : u ≠ []) (hS : ∀ a ∈ u, ¬S a)
    (hs : S s) : u ++ (bs.filterMap f ++ v) ≠ cs.filterMap g ++ s :: w := by
  induction h generalizing u with
  | nil =>
    intro heq
    cases u with
    | nil => exact hu rfl
    | cons a u =>
      obtain ⟨rfl, -⟩ := List.cons.inj heq
      exact hS a (List.mem_cons_self ..) hs
  | @cons b c bs cs hbc _ ih =>
    rw [filterMap_cons_toList, filterMap_cons_toList]
    -- what the first selection takes now is not in `S`: it would have been found ahead
    have hahead : ∀ z : α, ¬S z → ∀ y : Option α, u ++ (z :: bs.filterMap f ++ v) ≠
        y.toList ++ cs.filterMap g ++ s :: w := by
      intro z hz y
      cases y with
      | none =>
        rw [List.cons_append, List.append_cons]
        exact ih (by simp) (by simpa [or_imp, forall_and, hz] using hS)
      | some y =>
        cases u with
        | nil => exact absurd rfl hu
        | cons a u =>
          intro heq
          have htails : u ++ (z :: bs.filterMap f ++ v) = cs.filterMap g ++ s :: w := (List.cons.inj heq).2
          rw [List.cons_append, List.append_cons] at htails
          refine ih (by simp) ?_ htails
          simpa [or_imp, forall_and, hz] using (List.forall_mem_cons.1 hS).2
    rcases hT b c hbc with heq | ⟨a, ha, hSa⟩
    · rw [heq]
      cases g c with
      | none => exact ih hu hS
      | some z =>
        by_cases hz : S z
        · intro heq
          cases u with
          | nil => exact hu rfl
          | cons a u =>
            obtain ⟨rfl, -⟩ := List.cons.inj heq
            exact hS a (List.mem_cons_self ..) hz
        · exact hahead z hz (some z)
    · rw [ha]
      exact hahead a hSa (g c)

/-- **Two selections that give the same list are the same**, if the first takes all that the second takes,
or other elements, and one of `S` is behind the second when it takes fewer. -/
theorem forall₂_of_filterMap_append_eq (hT : ∀ b c, T b c → f b = g c ∨ ∃ a, f b = some a ∧ ¬S a)
    {bs : List β} {cs : List γ} (h : List.Forall₂ T bs cs) {v w : List α}
    (hw : (∃ c ∈ cs, g c = none) → ∃ s w', w = s :: w' ∧ S s)
    (heq : bs.filterMap f ++ v = cs.filterMap g ++ w) :
    List.Forall₂ (fun b c => T b c ∧ f b = g c) bs cs := by
  induction h with
  | nil => exact .nil
  | @cons b c bs cs hbc h ih =>
    have hw' : (∃ c ∈ cs, g c = none) → ∃ s w', w = s :: w' ∧ S s :=
      fun ⟨c, hc, hnone⟩ => hw ⟨c, List.mem_cons_of_mem _ hc, hnone⟩
    rw [filterMap_cons_toList, filterMap_cons_toList] at heq
    cases hb : f b with
    | none =>
      rcases hT b c hbc with hfg | ⟨a, ha, -⟩
      · rw [hb] at hfg
        rw [hb, ← hfg] at heq
        exact .cons ⟨hbc, hb.trans hfg⟩ (ih hw' heq)
      · rw [hb] at ha
        cases ha
    | some a =>
      cases hc : g c with
      | some a' =>
        rw [hb, hc] at heq
        have htails : bs.filterMap f ++ v = cs.filterMap g ++ w := (List.cons.inj heq).2
        refine .cons ⟨hbc, ?_⟩ (ih hw' htails)
        rw [hb, hc, (List.cons.inj heq).1]
      | none =>
        obtain ⟨s, w', rfl, hs⟩ := hw ⟨c, List.mem_cons_self .., hc⟩
        rcases hT b c hbc with hfg | ⟨a', ha', hSa⟩
        · rw [hb, hc] at hfg
          cases hfg
        · obtain rfl : a = a' := Option.some.inj (hb.symm.trans ha')
          rw [hb, hc] at heq
          exact absurd heq (append_filterMap_ne (u := [a]) hT h (by simp) (by simpa using hSa) hs)

/-- When two selections give the same, and the first takes all that the second takes, or the second takes what
the first takes nowhere, then the latter does not happen. -/
theorem forall₂_isSome_of_filterMap_append_eq {Q : α → Prop}
    (hT : ∀ b c, T b c → ((f b).isSome ∨ f b = g c) ∨ ∃ z, g c = some z ∧ ¬Q z) {bs : List β} {cs : List γ}
    (h : List.Forall₂ T bs cs) {u v w : List α} (hu : ∀ a ∈ u, Q a) (hf : ∀ a ∈ bs.filterMap f, Q a)
    (hv : ∀ a ∈ v.head?, Q a) (heq : u ++ (bs.filterMap f ++ v) = cs.filterMap g ++ w) :
    List.Forall₂ (fun b c => T b c ∧ ((f b).isSome ∨ f b = g c)) bs cs := by
  induction h generalizing u with
  | nil => exact .nil
  | @cons b c bs cs hbc _ ih =>
    rw [filterMap_cons_toList] at hf
    rw [filterMap_cons_toList, filterMap_cons_toList] at heq
    have hfb : ∀ a ∈ (f b).toList, Q a := fun a ha => hf a (List.mem_append_left _ ha)
    have hrest : ∀ a ∈ bs.filterMap f, Q a := fun a ha => hf a (List.mem_append_right _ ha)
    rcases hT b c hbc with hgood | ⟨z, hz, hQ⟩
    · refine .cons ⟨hbc, hgood⟩ ?_
      cases hc : g c with
      | none =>
        rw [hc] at heq
        exact ih (u := u ++ (f b).toList) (List.forall_mem_append.2 ⟨hu, hfb⟩) hrest (by simpa using heq)
      | some z =>
        rw [hc] at heq hgood
        cases u with
        | nil =>
          cases hb : f b with
          | none => simp [hb] at hgood
          | some a =>
            rw [hb] at heq
            exact ih (u := []) (by simp) hrest (List.cons.inj heq).2
        | cons x u =>
          have htails : u ++ ((f b).toList ++ bs.filterMap f ++ v) = cs.filterMap g ++ w := (List.cons.inj heq).2
          exact ih (u := u ++ (f b).toList)
            (List.forall_mem_append.2 ⟨(List.forall_mem_cons.1 hu).2, hfb⟩) hrest (by simpa using htails)
    · -- what stands in this place is taken by the first selection, or is behind it
      exfalso
      have hall : ∀ a ∈ u ++ ((f b).toList ++ bs.filterMap f), Q a := List.forall_mem_append.2 ⟨hu, hf⟩
      rw [hz, ← List.append_assoc] at heq
      generalize u ++ ((f b).toList ++ bs.filterMap f) = l at hall heq
      cases l with
      | nil =>
        rw [List.nil_append] at heq
        exact hQ (hv z (by rw [heq]; rfl))
      | cons a l =>
        obtain ⟨rfl, -⟩ := List.cons.inj heq
        exact hQ (hall a (List.mem_cons_self ..))

/-- Parts that are no longer than others one by one, and as long together, are as long one by one. -/
theorem forall₂_length_of_flatMap_eq {f : β → List α} {g : γ → List α} (hT : ∀ b c, T b c → (g c).length ≤ (f b).length)
    {bs : List β} {cs : List γ} (h : List.Forall₂ T bs cs) (heq : bs.flatMap f = cs.flatMap g) :
    List.Forall₂ (fun b c => T b c ∧ (f b).length = (g c).length) bs cs := by
  have hle : ∀ {bs cs}, List.Forall₂ T bs cs → (cs.flatMap g).length ≤ (bs.flatMap f).length := by
    intro bs cs h
    induction h with
    | nil => exact le_rfl
    | cons hbc _ ih =>
      simp only [List.flatMap_cons, List.length_append]
      exact Nat.add_le_add (hT _ _ hbc) ih
  replace heq := congrArg List.length heq
  induction h with
  | nil => exact .nil
  | @cons b c bs cs hbc h ih =>
    have hhead := hT b c hbc
    have htail := hle h
    simp only [List.flatMap_cons, List.length_append] at heq
    exact .cons ⟨hbc, by omega⟩ (ih (by omega))

end Selections

end FreeVPN.Lib
