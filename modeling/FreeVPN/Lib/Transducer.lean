import Mathlib.Data.List.Basic

/-!
# Transducers

A machine that reads one symbol after the other and puts something out at each: `feed` is the state
after an input, with all that has been put out.

`feed_of_stays` is the rule for a set of states that a machine only leaves by putting out something of
a kind.
-/

namespace FreeVPN.Lib

variable {S A B : Type*} (step : S → A → S × List B)

/-- The state after an input, and what is put out on the way. -/
def feed : S → List A → S × List B
  | s, [] => (s, [])
  | s, a :: as => ((feed (step s a).1 as).1, (step s a).2 ++ (feed (step s a).1 as).2)

variable {step}

lemma feed_append (s : S) (as bs : List A) :
    feed step s (as ++ bs) =
      ((feed step (feed step s as).1 bs).1, (feed step s as).2 ++ (feed step (feed step s as).1 bs).2) := by
  induction as generalizing s with
  | nil => rfl
  | cons a as ih => rw [List.cons_append, feed, ih, feed, List.append_assoc]

/-- **States that are left with something put out.**  Where every step stays in `U` and puts nothing
out, or puts out something of `P`, an input does. -/
theorem feed_of_stays {U : S → Prop} {P : B → Prop}
    (hstep : ∀ s a, U s → U (step s a).1 ∧ (step s a).2 = [] ∨ ∃ b ∈ (step s a).2, P b)
    {s : S} (hs : U s) (as : List A) :
    U (feed step s as).1 ∧ (feed step s as).2 = [] ∨ ∃ b ∈ (feed step s as).2, P b := by
  induction as generalizing s with
  | nil => exact Or.inl ⟨hs, rfl⟩
  | cons a as ih =>
    rcases hstep s a hs with ⟨hU, hnone⟩ | ⟨b, hb, hP⟩
    · rw [feed, hnone, List.nil_append]
      exact ih hU
    · exact Or.inr ⟨b, List.mem_append_left _ hb, hP⟩

end FreeVPN.Lib
