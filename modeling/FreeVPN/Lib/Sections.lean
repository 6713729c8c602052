import FreeVPN.Lib.Lists
import FreeVPN.Lib.Except

/-!
# Texts made of sections

A line of a sectioned text is blank, the header of a section or an entry.  `sections` groups the
entries: those before the first header, and those of each section.

A parser that folds over the lines is a fold over the sections (`foldl_sections`,
`foldlM_sections`), and one that closes a section when it meets the next header is one that closes
it after its last entry (`foldlM_close`).
-/

namespace FreeVPN.Lib

variable {β γ δ σ ε : Type*}

/-- A line of a sectioned text. -/
inductive Line (β γ : Type*)
  | blank
  | header (h : β)
  | entry (e : γ)
  deriving DecidableEq

/-- The entries before the first header, and the sections: a header with its entries. -/
def sections : List (Line β γ) → List γ × List (β × List γ)
  | [] => ([], [])
  | .blank :: ls => sections ls
  | .header h :: ls => ([], (h, (sections ls).1) :: (sections ls).2)
  | .entry e :: ls => (e :: (sections ls).1, (sections ls).2)

/-- The header that a line is. -/
def Line.getHeader : Line β γ → Option β
  | .header h => some h
  | _ => none

/-- The entry that a line is. -/
def Line.getEntry : Line β γ → Option γ
  | .entry e => some e
  | _ => none

/-- The lines without a header on the last of them. -/
def dropLastHeader (ls : List (Line β γ)) : List (Line β γ) :=
  dropLastIf (fun l => l.getHeader.isSome) ls

lemma dropLastHeader_of_none {ls : List (Line β γ)} (h : ls.getLast?.bind Line.getHeader = none) :
    dropLastHeader ls = ls := by
  rcases dropLastIf_spec (fun l : Line β γ => l.getHeader.isSome) ls with hdrop | ⟨l, hl, hdrop⟩
  · exact hdrop
  · rw [hdrop, List.getLast?_concat, Option.bind_some] at h
    simp [h] at hl

lemma dropLastHeader_of_some {ls : List (Line β γ)} {h : β} (hlast : ls.getLast?.bind Line.getHeader = some h) :
    ls = dropLastHeader ls ++ [.header h] := by
  obtain ⟨l, hl, hh⟩ := Option.bind_eq_some_iff.1 hlast
  obtain ⟨init, rfl⟩ := List.getLast?_eq_some_iff.1 hl
  cases l with
  | header h' =>
    obtain rfl : h' = h := Option.some.inj hh
    rw [dropLastHeader, dropLastIf_concat]
    rfl
  | blank => cases hh
  | entry e => cases hh

/-- The entries of a line changed, or left out. -/
def Line.filterMap (f : γ → Option δ) : Line β γ → Line β δ
  | .blank => .blank
  | .header h => .header h
  | .entry e => (f e).elim .blank .entry

lemma sections_filterMap (f : γ → Option δ) (ls : List (Line β γ)) :
    sections (ls.map (Line.filterMap f)) =
      ((sections ls).1.filterMap f, (sections ls).2.map fun c => (c.1, c.2.filterMap f)) := by
  induction ls with
  | nil => rfl
  | cons l ls ih =>
    cases l with
    | blank => simpa [Line.filterMap, sections] using ih
    | header h => simp [Line.filterMap, sections, ih]
    | entry e => cases hf : f e <;> simp [Line.filterMap, sections, ih, hf]

/-- Blank lines do not count. -/
lemma sections_concat_blank (ls : List (Line β γ)) : sections (ls ++ [.blank]) = sections ls := by
  induction ls with
  | nil => rfl
  | cons l ls ih => cases l <;> simp [sections, ih]

lemma sections_append_blank {ls ms : List (Line β γ)} (h : ∀ l ∈ ms, l = .blank) :
    sections (ls ++ ms) = sections ls := by
  induction ms using List.reverseRecOn with
  | nil => rw [List.append_nil]
  | append_singleton ms l ih =>
    rw [h l (by simp), ← List.append_assoc, sections_concat_blank]
    exact ih fun m hm => h m (by simp [hm])

lemma sections_blank_append {ls ms : List (Line β γ)} (h : ∀ l ∈ ls, l = .blank) :
    sections (ls ++ ms) = sections ms := by
  induction ls with
  | nil => rfl
  | cons l ls ih =>
    rw [h l (List.mem_cons_self ..)]
    exact ih fun m hm => h m (List.mem_cons_of_mem l hm)

/-- **A fold over the lines is a fold over the sections.** -/
theorem foldl_sections {step : σ → Line β γ → σ} {start : σ → β → σ} {read : σ → γ → σ}
    (hblank : ∀ s, step s .blank = s) (hheader : ∀ s h, step s (.header h) = start s h)
    (hentry : ∀ s e, step s (.entry e) = read s e) (ls : List (Line β γ)) (s : σ) :
    ls.foldl step s = (sections ls).2.foldl (fun s c => c.2.foldl read (start s c.1))
      ((sections ls).1.foldl read s) := by
  induction ls generalizing s with
  | nil => rfl
  | cons l ls ih => cases l <;> simp [sections, ih, hblank, hheader, hentry]

/-- The same for a fold that may fail. -/
theorem foldlM_sections {step : σ → Line β γ → Except ε σ} {start : σ → β → Except ε σ}
    {read : σ → γ → Except ε σ} (hblank : ∀ s, step s .blank = .ok s)
    (hheader : ∀ s h, step s (.header h) = start s h)
    (hentry : ∀ s e, step s (.entry e) = read s e) (ls : List (Line β γ)) (s : σ) :
    ls.foldlM step s = (sections ls).1.foldlM read s >>= fun s =>
      (sections ls).2.foldlM (fun s c => start s c.1 >>= fun s => c.2.foldlM read s) s := by
  induction ls generalizing s with
  | nil => rfl
  | cons l ls ih =>
    cases l with
    | blank =>
      rw [List.foldlM_cons, hblank]
      exact ih s
    | header h => simp [sections, hheader, ih]
    | entry e => simp [sections, hentry, ih]

/-- **Closing a section at the next header is closing it after its entries.** -/
theorem foldlM_close {close : σ → Except ε σ} {body : σ → γ → Except ε σ} (cs : List γ) (s : σ) :
    (cs.foldlM (fun s c => close s >>= fun s => body s c) s >>= close) =
      close s >>= fun s => cs.foldlM (fun s c => body s c >>= close) s := by
  induction cs generalizing s with
  | nil => simp
  | cons c cs ih =>
    simp only [List.foldlM_cons, bind_assoc]
    exact bind_congr fun s' => bind_congr fun s'' => ih s''

/-- The same for a fold that does not fail. -/
theorem foldl_close {close : σ → σ} {body : σ → γ → σ} (cs : List γ) (s : σ) :
    close (cs.foldl (fun s c => body (close s) c) s) =
      cs.foldl (fun s c => close (body s c)) (close s) := by
  induction cs generalizing s with
  | nil => rfl
  | cons c cs ih => exact ih _

/-- The entries before the first header are those of the lines up to it. -/
lemma fst_sections (ls : List (Line β γ)) :
    (sections ls).1 = (ls.takeWhile fun l => l.getHeader.isNone).filterMap Line.getEntry := by
  induction ls with
  | nil => rfl
  | cons l ls ih =>
    cases l with
    | blank =>
      rw [List.takeWhile_cons_of_pos rfl, List.filterMap_cons_none rfl]
      exact ih
    | header h => rfl
    | entry e =>
      rw [List.takeWhile_cons_of_pos rfl, List.filterMap_cons_some (show Line.getEntry _ = some e from rfl),
        ← ih]
      rfl

/-- The entries of a section are lines of the text. -/
lemma entry_mem_of_mem_sections {ls : List (Line β γ)} {c : β × List γ} (hc : c ∈ (sections ls).2)
    {e : γ} (he : e ∈ c.2) : .entry e ∈ ls := by
  have h : (∀ e ∈ (sections ls).1, Line.entry e ∈ ls) ∧
      ∀ c ∈ (sections ls).2, ∀ e ∈ c.2, Line.entry e ∈ ls := by
    clear hc he
    induction ls with
    | nil => simp [sections]
    | cons l ls ih =>
      cases l with
      | blank => simpa [sections] using ih
      | header h => simpa [sections] using ih
      | entry e' =>
        simp only [sections, List.mem_cons, Line.entry.injEq, forall_eq_or_imp, true_or, true_and]
        exact ⟨fun e h => Or.inr (ih.1 e h), fun c h e h' => Or.inr (ih.2 c h e h')⟩
  exact h.2 c hc e he

/-- The header of a section is a line of the text. -/
lemma header_mem_of_mem_sections {ls : List (Line β γ)} {c : β × List γ} (hc : c ∈ (sections ls).2) :
    .header c.1 ∈ ls := by
  induction ls with
  | nil => simp [sections] at hc
  | cons l ls ih =>
    cases l with
    | blank => exact List.mem_cons_of_mem _ (ih hc)
    | header h =>
      rcases List.mem_cons.1 hc with rfl | hc
      · exact List.mem_cons_self ..
      · exact List.mem_cons_of_mem _ (ih hc)
    | entry e => exact List.mem_cons_of_mem _ (ih hc)

/-- The sections are counted by the headers. -/
lemma length_filter_sections (q : β → Bool) (ls : List (Line β γ)) :
    ((sections ls).2.filter fun c => q c.1).length = ls.countP fun l => l.getHeader.any q := by
  induction ls with
  | nil => rfl
  | cons l ls ih =>
    cases l with
    | blank => simpa [sections, Line.getHeader] using ih
    | header h => by_cases hq : q h <;> simp [sections, Line.getHeader, hq, ih]
    | entry e => simpa [sections, Line.getHeader] using ih

/-- A header at the end opens a section without entries. -/
lemma sections_concat_header (ls : List (Line β γ)) (h : β) :
    sections (ls ++ [.header h]) = ((sections ls).1, (sections ls).2 ++ [(h, [])]) := by
  induction ls with
  | nil => rfl
  | cons l ls ih => cases l <;> simp [sections, ih]

/-! ### Lines that are put in -/

/-- The second list is the first with some elements of `p` put in. -/
inductive Inserted (p : γ → Prop) : List γ → List γ → Prop
  | nil : Inserted p [] []
  | keep {l l'} (a : γ) : Inserted p l l' → Inserted p (a :: l) (a :: l')
  | insert {l l' a} : p a → Inserted p l l' → Inserted p l (a :: l')

lemma Inserted.refl (p : γ → Prop) (l : List γ) : Inserted p l l := by
  induction l with
  | nil => exact .nil
  | cons a l ih => exact .keep a ih

/-- What does not look at the elements that are put in. -/
lemma Inserted.filter_eq {p : γ → Prop} {q : γ → Bool} (hpq : ∀ a, p a → q a = false) {l l' : List γ}
    (h : Inserted p l l') : l'.filter q = l.filter q := by
  induction h with
  | nil => rfl
  | keep a _ ih =>
    rw [List.filter_cons, List.filter_cons, ih]
  | insert ha _ ih =>
    rw [List.filter_cons_of_neg (by simp [hpq _ ha]), ih]

/-- The second list is the first with lines put in after the first header.  What may be put in depends
on the last header before it, which is `c` at the beginning. -/
inductive InsertedAfter {α : Type*} (header : α → Option β) (p : β → α → Prop) :
    Option β → List α → List α → Prop
  | nil (c) : InsertedAfter header p c [] []
  | keep {c l l'} (a : α) :
    InsertedAfter header p ((header a).or c) l l' → InsertedAfter header p c (a :: l) (a :: l')
  | insert {h l l' a} :
    p h a → InsertedAfter header p (some h) l l' → InsertedAfter header p (some h) l (a :: l')

section InsertedAfter

variable {α α' : Type*} {header : α → Option β} {p : β → α → Prop} {c : Option β}

lemma InsertedAfter.eq_nil {l l' : List α} (h : InsertedAfter header p c l l') (hl' : l' = []) : l = [] := by
  cases h with
  | nil => rfl
  | keep => cases hl'
  | insert => cases hl'

/-- The last line is the last of the first list, or has been put in. -/
lemma InsertedAfter.getLast? {l l' : List α} (h : InsertedAfter header p c l l') :
    ∀ a ∈ l'.getLast?, a ∈ l.getLast? ∨ ∃ h, p h a := by
  induction h with
  | nil => simp
  | @keep c l l' b hl ih =>
    intro a ha
    rw [List.getLast?_cons] at ha ⊢
    cases hl' : l'.getLast? with
    | none =>
      rw [hl.eq_nil (List.getLast?_eq_none_iff.1 hl')]
      rw [hl'] at ha
      exact Or.inl ha
    | some d =>
      obtain rfl : d = a := by simpa [hl'] using ha
      rcases ih d hl' with hd | hd
      · rw [Option.mem_def.1 hd]
        exact Or.inl rfl
      · exact Or.inr hd
  | @insert h l l' b hb _ ih =>
    intro a ha
    rw [List.getLast?_cons] at ha
    cases hl' : l'.getLast? with
    | none =>
      obtain rfl : b = a := by simpa [hl'] using ha
      exact Or.inr ⟨h, hb⟩
    | some d =>
      obtain rfl : d = a := by simpa [hl'] using ha
      exact ih d hl'

/-- Lines that are read, and those that are put in. -/
lemma InsertedAfter.reads {header' : α' → Option β} {p' : β → α' → Prop} {read : α → Option α'}
    (hheader : ∀ a x, read a = some x → header a = header' x)
    (hp : ∀ h a, p h a → ∃ x, read a = some x ∧ p' h x) {l l' : List α}
    (h : InsertedAfter header p c l l') {xs : List α'} (hxs : Reads read l xs) :
    ∃ xs', Reads read l' xs' ∧ InsertedAfter header' p' c xs xs' := by
  induction h generalizing xs with
  | nil c =>
    obtain rfl := List.forall₂_nil_left_iff.1 hxs
    exact ⟨[], .nil, .nil c⟩
  | keep a _ ih =>
    obtain ⟨x, xs, hx, hrest, rfl⟩ := List.forall₂_cons_left_iff.1 hxs
    obtain ⟨xs', hread, hins⟩ := ih hrest
    exact ⟨x :: xs', .cons hx hread, .keep x (hheader a x hx ▸ hins)⟩
  | insert ha _ ih =>
    obtain ⟨xs', hread, hins⟩ := ih hxs
    obtain ⟨x, hx, hpx⟩ := hp _ _ ha
    exact ⟨x :: xs', .cons hx hread, .insert hpx hins⟩

/-- **Entries that are put in after the first header** are put in into the sections. -/
theorem sections_of_insertedAfter {q : β → γ → Prop} {ls ls' : List (Line β γ)}
    (h : InsertedAfter Line.getHeader (fun h l => ∃ e, l = .entry e ∧ q h e) c ls ls') :
    (c = none → (sections ls').1 = (sections ls).1) ∧
      (∀ h, c = some h → Inserted (q h) (sections ls).1 (sections ls').1) ∧
      List.Forall₂ (fun s s' => s'.1 = s.1 ∧ Inserted (q s.1) s.2 s'.2) (sections ls).2 (sections ls').2 := by
  induction h with
  | nil c => exact ⟨fun _ => rfl, fun _ _ => .nil, .nil⟩
  | @keep c ls ls' l _ ih =>
    obtain ⟨ihnone, ihsome, ihrest⟩ := ih
    cases l with
    | blank => exact ⟨ihnone, ihsome, ihrest⟩
    | header h =>
      -- the section of the header has what the induction says of the lines behind it
      exact ⟨fun _ => rfl, fun _ _ => .nil, .cons ⟨rfl, ihsome h rfl⟩ ihrest⟩
    | entry e =>
      refine ⟨fun hc => ?_, fun h hc => .keep e (ihsome h hc), ihrest⟩
      rw [sections, sections, ihnone hc]
  | @insert h ls ls' l hl _ ih =>
    obtain ⟨e, rfl, he⟩ := hl
    obtain ⟨-, ihsome, ihrest⟩ := ih
    refine ⟨nofun, fun h' hh => ?_, ihrest⟩
    obtain rfl := Option.some.inj hh
    exact .insert he (ihsome h rfl)

end InsertedAfter

end FreeVPN.Lib
