import Mathlib.Data.List.Forall2

/-!
# Two runs of a fallible computation

Two runs that get inputs which differ in what is secret.  `Agree K R` says that they take the same way:
both end well, with results that `R` relates, or both with the same error.  An error of `K` is one that
may tell the inputs apart; after it nothing is said about the other run.

The rules follow the computation: `Agree.bind` and `Agree.map`, and `Agree.same` for a part that does
not depend on what is secret.
-/

namespace FreeVPN.Lib

variable {ε : Type*} {α β γ δ : Type _} {K : ε → Prop} {R : α → β → Prop} {S : γ → δ → Prop}

/-- Two runs agree, as long as none of them ends with an error of `K`. -/
inductive Agree (K : ε → Prop) (R : α → β → Prop) : Except ε α → Except ε β → Prop
  | ok {a : α} {b : β} (h : R a b) : Agree K R (.ok a) (.ok b)
  | error (e : ε) : Agree K R (.error e) (.error e)
  | left {e : ε} (h : K e) (y : Except ε β) : Agree K R (.error e) y
  | right (x : Except ε α) {e : ε} (h : K e) : Agree K R x (.error e)

namespace Agree

lemma bind {x : Except ε α} {y : Except ε β} {f : α → Except ε γ} {g : β → Except ε δ}
    (h : Agree K R x y) (hf : ∀ a b, R a b → Agree K S (f a) (g b)) : Agree K S (x >>= f) (y >>= g) := by
  cases h with
  | ok hab => exact hf _ _ hab
  | error e => exact .error e
  | left he y => exact .left he _
  | right x he => exact .right _ he

lemma map {x : Except ε α} {y : Except ε β} {f : α → γ} {g : β → δ} (h : Agree K R x y)
    (hf : ∀ a b, R a b → S (f a) (g b)) : Agree K S (x.map f) (y.map g) := by
  cases h with
  | ok hab => exact .ok (hf _ _ hab)
  | error e => exact .error e
  | left he y => exact .left he _
  | right x he => exact .right _ he

/-- A part of the computation that is the same in both runs. -/
lemma same {x : Except ε α} {f : α → Except ε γ} {g : α → Except ε δ} (hf : ∀ a, Agree K S (f a) (g a)) :
    Agree K S (x >>= f) (x >>= g) := by
  cases x with
  | error e => exact .error e
  | ok a => exact hf a

/-- **Two runs that end alike.**  Both have results, which are related, or both the same error, or one
has an error of `K`. -/
lemma cases_eq {x : Except ε α} {y : Except ε β} (h : Agree K R x y) :
    (∃ a b, x = .ok a ∧ y = .ok b ∧ R a b) ∨ (∃ e, x = .error e ∧ y = .error e) ∨
      (∃ e, K e ∧ x = .error e) ∨ ∃ e, K e ∧ y = .error e := by
  cases h with
  | ok hab => exact Or.inl ⟨_, _, rfl, rfl, hab⟩
  | error e => exact Or.inr (Or.inl ⟨e, rfl, rfl⟩)
  | left he y => exact Or.inr (Or.inr (Or.inl ⟨_, he, rfl⟩))
  | right x he => exact Or.inr (Or.inr (Or.inr ⟨_, he, rfl⟩))

end Agree

end FreeVPN.Lib
