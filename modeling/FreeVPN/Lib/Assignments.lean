import FreeVPN.Lib.Lists

/-!
# Lists of assignments as texts

An assignment is a key and a value.  `printAssignments` writes one of them a line, and
`readAssignments` cuts a text at the ends of the lines and each line at the first separator:
`readAssignments_printAssignments` says that the second is the inverse of the first, if no key has a
separator and nothing has an end of line.

`present` keeps the assignments of a list of optional ones that have a value.
-/

namespace FreeVPN.Lib

/-! ### Printing and reading -/

section Print

variable {α : Type*} [DecidableEq α] (sep eol : α)

/-- A line for each assignment. -/
def printAssignments (l : List (List α × List α)) : List α :=
  l.flatMap fun a => a.1 ++ sep :: a.2 ++ [eol]

/-- The assignments that the lines of a text are. -/
def readAssignments (t : List α) : List (List α × List α) := (t.splitOn eol).filterMap (cut sep)

/-- **The lines** of what is printed: no assignment adds one, and no value ends one. -/
theorem splitOn_printAssignments (hne : sep ≠ eol) {l : List (List α × List α)}
    (hl : ∀ a ∈ l, eol ∉ a.1 ∧ eol ∉ a.2) :
    (printAssignments sep eol l).splitOn eol = (l.map fun a => a.1 ++ sep :: a.2) ++ [[]] := by
  induction l with
  | nil => simp [printAssignments]
  | cons a l ih =>
    obtain ⟨hkey, hvalue⟩ := hl a (by simp)
    have hline : eol ∉ a.1 ++ sep :: a.2 := by simp [hkey, hvalue, hne.symm]
    have hprint : printAssignments sep eol (a :: l) =
        (a.1 ++ sep :: a.2) ++ eol :: printAssignments sep eol l := by
      simp [printAssignments]
    rw [hprint, List.splitOn_append_cons_self, List.splitOn_eq_singleton hline,
      ih fun b hb => hl b (by simp [hb])]
    rfl

/-- **What is printed is read back.** -/
theorem readAssignments_printAssignments (hne : sep ≠ eol) {l : List (List α × List α)}
    (hl : ∀ a ∈ l, sep ∉ a.1 ∧ eol ∉ a.1 ∧ eol ∉ a.2) :
    readAssignments sep eol (printAssignments sep eol l) = l := by
  have hcut : ∀ a ∈ l, cut sep (a.1 ++ sep :: a.2) = some a := fun a ha => cut_append_cons (hl a ha).1 a.2
  rw [readAssignments, splitOn_printAssignments sep eol hne fun a ha => (hl a ha).2, List.filterMap_append,
    List.filterMap_map]
  change l.filterMap (fun a => cut sep (a.1 ++ sep :: a.2)) ++ [] = l
  rw [List.append_nil, List.filterMap_congr hcut, List.filterMap_some]

end Print

/-! ### Optional assignments -/

section Present

variable {κ ν : Type*}

/-- The assignments that have a value. -/
def present (l : List (κ × Option ν)) : List (κ × ν) := l.filterMap fun a => a.2.map fun v => (a.1, v)

lemma mem_present {l : List (κ × Option ν)} {a : κ × ν} : a ∈ present l ↔ (a.1, some a.2) ∈ l := by
  simp only [present, List.mem_filterMap, Option.map_eq_some_iff]
  constructor
  · rintro ⟨⟨k, _⟩, hb, v, rfl, rfl⟩
    exact hb
  · intro h
    exact ⟨_, h, _, rfl, rfl⟩

lemma present_append (l m : List (κ × Option ν)) : present (l ++ m) = present l ++ present m :=
  List.filterMap_append

/-- Where the keys are distinct, a key has at most one assignment. -/
lemma filter_present [DecidableEq κ] {l : List (κ × Option ν)} (hl : (l.map Prod.fst).Nodup) {k : κ}
    {v : Option ν} (h : (k, v) ∈ l) :
    ((present l).filter fun a => a.1 = k) = v.toList.map (Prod.mk k) := by
  have hnone : ∀ l : List (κ × Option ν), k ∉ l.map Prod.fst →
      ((present l).filter fun a => a.1 = k) = [] := by
    intro l hk
    refine List.filter_eq_nil_iff.2 fun a ha => ?_
    simp only [decide_eq_true_eq]
    rintro rfl
    exact hk (List.mem_map.2 ⟨_, mem_present.1 ha, rfl⟩)
  induction l with
  | nil => cases h
  | cons b l ih =>
    rw [List.map_cons, List.nodup_cons] at hl
    rcases List.mem_cons.1 h with rfl | h
    · have htail := hnone l hl.1
      rw [present] at htail
      cases v <;> simp [present, htail]
    · have hb : b.1 ≠ k := fun e => hl.1 (e ▸ List.mem_map.2 ⟨_, h, rfl⟩)
      rw [← ih hl.2 h]
      obtain ⟨k', v'⟩ := b
      cases v' <;> simp_all [present]

/-- The values that are assigned to a key. -/
def valuesOf [DecidableEq κ] (k : κ) (l : List (κ × ν)) : List ν := (l.filter fun a => a.1 = k).map Prod.snd

lemma mem_valuesOf [DecidableEq κ] {k : κ} {l : List (κ × ν)} {v : ν} : v ∈ valuesOf k l ↔ (k, v) ∈ l := by
  simp [valuesOf, and_comm]

lemma valuesOf_append [DecidableEq κ] (k : κ) (l m : List (κ × ν)) :
    valuesOf k (l ++ m) = valuesOf k l ++ valuesOf k m := by
  rw [valuesOf, List.filter_append, List.map_append]
  rfl

lemma valuesOf_eq_nil [DecidableEq κ] {k : κ} {l : List (κ × ν)} (h : ∀ a ∈ l, a.1 ≠ k) : valuesOf k l = [] := by
  rw [valuesOf, List.filter_eq_nil_iff.2 fun a ha => by simpa using h a ha, List.map_nil]

lemma valuesOf_present [DecidableEq κ] {l : List (κ × Option ν)} (hl : (l.map Prod.fst).Nodup) {k : κ}
    {v : Option ν} (h : (k, v) ∈ l) : valuesOf k (present l) = v.toList := by
  rw [valuesOf, filter_present hl h, List.map_map]
  exact List.map_id _

/-- A key that is assigned a value for each element. -/
lemma valuesOf_map [DecidableEq κ] {ρ : Type*} (k : κ) (f : ρ → ν) (l : List ρ) :
    valuesOf k (present (l.map fun r => (k, some (f r)))) = l.map f := by
  induction l with
  | nil => rfl
  | cons r l ih =>
    simp only [valuesOf, present, List.map_cons, List.filterMap_cons, Option.map_some, decide_true,
      List.filter_cons_of_pos] at ih ⊢
    rw [ih]

end Present

end FreeVPN.Lib
