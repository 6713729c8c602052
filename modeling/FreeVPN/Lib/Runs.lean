import Mathlib.Data.List.Basic

/-!
# Runs of a guarded transition function

A system is a function `step : S → A → Option S`: the state after an action, or `none` where the
action is not enabled.  `run` takes a list of actions; `Along step C s as` says that every step of
the run of `as` from `s` meets the condition `C` on the state before the step and the action.

`run_invariant` is the rule the developments below use: what every step that meets `C` preserves
holds at the end of every run whose steps all meet `C`.  As every prefix of a run is a run, that is
every state reached.
-/

namespace FreeVPN.Lib

variable {S A : Type*} (step : S → A → Option S)

/-- The state after a list of actions, `none` as soon as one of them is not enabled. -/
def run : S → List A → Option S
  | s, [] => some s
  | s, a :: as => (step s a).bind fun s' => run s' as

/-- Every step of the run of `as` from `s` meets `C`. -/
def Along (C : S → A → Prop) : S → List A → Prop
  | _, [] => True
  | s, a :: as => C s a ∧ ∀ s', step s a = some s' → Along C s' as

variable {step}

/-- Whether every step meets a decidable condition can be computed. -/
instance decidableAlong {C : S → A → Prop} [∀ s a, Decidable (C s a)] :
    ∀ (s : S) (as : List A), Decidable (Along step C s as)
  | _, [] => isTrue trivial
  | s, a :: as =>
    have : ∀ s', Decidable (Along step C s' as) := fun s' => decidableAlong s' as
    inferInstanceAs (Decidable (C s a ∧ ∀ s' ∈ step s a, Along step C s' as))

@[simp] theorem run_nil (s : S) : run step s [] = some s := rfl

theorem run_cons {s t : S} {a : A} {as : List A} :
    run step s (a :: as) = some t ↔ ∃ s', step s a = some s' ∧ run step s' as = some t := by
  simp [run, Option.bind_eq_some_iff]

theorem run_append {s t : S} {as bs : List A} :
    run step s (as ++ bs) = some t ↔ ∃ u, run step s as = some u ∧ run step u bs = some t := by
  induction as generalizing s with
  | nil => simp
  | cons a as ih =>
    rw [List.cons_append, run_cons]
    constructor
    · rintro ⟨s', hs', h⟩
      obtain ⟨u, hu, ht⟩ := ih.1 h
      exact ⟨u, run_cons.2 ⟨s', hs', hu⟩, ht⟩
    · rintro ⟨u, hu, ht⟩
      obtain ⟨s', hs', h⟩ := run_cons.1 hu
      exact ⟨s', hs', ih.2 ⟨u, h, ht⟩⟩

/-- The step after a beginning of a run, and the longer beginning with it. -/
theorem exists_step_of_run {s t u : S} {before after : List A} {a : A}
    (hrun : run step s (before ++ a :: after) = some t) (hu : run step s before = some u) :
    ∃ v, step u a = some v ∧ run step s (before ++ [a]) = some v ∧ run step v after = some t := by
  obtain ⟨u', hu', hrest⟩ := run_append.1 hrun
  obtain rfl : u' = u := Option.some.inj (hu'.symm.trans hu)
  obtain ⟨v, hv, hafter⟩ := run_cons.1 hrest
  exact ⟨v, hv, run_append.2 ⟨u', hu, run_cons.2 ⟨v, hv, rfl⟩⟩, hafter⟩

/-- Every step meets `C`, if and only if the step after every beginning of the run does. -/
theorem along_iff {C : S → A → Prop} {s : S} {as : List A} :
    Along step C s as ↔
      ∀ before a after t, as = before ++ a :: after → run step s before = some t → C t a := by
  induction as generalizing s with
  | nil =>
    refine iff_of_true trivial fun before a after t h => ?_
    simp at h
  | cons b bs ih =>
    constructor
    · rintro ⟨hb, hbs⟩ before a after t h hrun
      cases before with
      | nil =>
        obtain ⟨rfl, rfl⟩ := List.cons.inj h
        obtain rfl := Option.some.inj hrun
        exact hb
      | cons c before =>
        obtain ⟨rfl, rfl⟩ := List.cons.inj h
        obtain ⟨u, hu, hrest⟩ := run_cons.1 hrun
        exact ih.1 (hbs u hu) before a after t rfl hrest
    · intro h
      refine ⟨h [] b bs s rfl rfl, fun u hu => ih.2 ?_⟩
      rintro before a after t rfl hrest
      exact h (b :: before) a after t rfl (run_cons.2 ⟨u, hu, hrest⟩)

theorem along_append {C : S → A → Prop} {s : S} {as bs : List A} :
    Along step C s (as ++ bs) ↔ Along step C s as ∧ ∀ u, run step s as = some u → Along step C u bs := by
  induction as generalizing s with
  | nil => simp [Along]
  | cons a as ih =>
    simp only [List.cons_append, Along, run_cons, and_assoc]
    refine and_congr_right fun _ => ?_
    constructor
    · intro h
      exact ⟨fun s' hs' => (ih.1 (h s' hs')).1, fun u ⟨s', hs', hu⟩ => (ih.1 (h s' hs')).2 u hu⟩
    · rintro ⟨h₁, h₂⟩ s' hs'
      exact ih.2 ⟨h₁ s' hs', fun u hu => h₂ u ⟨s', hs', hu⟩⟩

/-- **The invariant rule.**  What every step that meets `C` preserves holds at the end of every
run whose steps all meet `C`. -/
theorem run_invariant {C : S → A → Prop} {P : S → Prop}
    (hstep : ∀ s a s', P s → C s a → step s a = some s' → P s')
    {s t : S} {as : List A} (hs : P s) (hC : Along step C s as) (hrun : run step s as = some t) :
    P t := by
  induction as generalizing s with
  | nil => simpa [← Option.some.inj hrun] using hs
  | cons a as ih =>
    obtain ⟨s', hs', h⟩ := run_cons.1 hrun
    exact ih (hstep s a s' hs hC.1 hs') (hC.2 s' hs') h

/-- The invariant rule for a property that every enabled step preserves. -/
theorem run_invariant_of_step {P : S → Prop}
    (hstep : ∀ s a s', P s → step s a = some s' → P s')
    {s t : S} {as : List A} (hs : P s) (hrun : run step s as = some t) : P t := by
  have hC : Along step (fun _ _ => True) s as := by
    clear hrun hs
    induction as generalizing s with
    | nil => trivial
    | cons a as ih => exact ⟨trivial, fun s' _ => ih⟩
  exact run_invariant (fun s a s' h _ => hstep s a s' h) hs hC hrun

end FreeVPN.Lib
