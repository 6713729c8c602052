import Mathlib.Data.List.Forall2

/-!
# Fallible computations that succeed

What it means for a bind or a mapping in `Except` to end in `.ok`, and how a fold is followed by
another one.
-/

namespace FreeVPN.Lib

variable {ε : Type*} {α β : Type _}

/-- A bind succeeds when both of its parts do. -/
theorem bind_eq_ok {x : Except ε α} {f : α → Except ε β} {b : β} :
    (x >>= f) = .ok b ↔ ∃ a, x = .ok a ∧ f a = .ok b := by
  cases x <;> simp [bind, Except.bind]

@[simp] lemma pure_eq_ok {a b : α} : (pure a : Except ε α) = .ok b ↔ a = b := by
  simp [pure, Except.pure]

lemma map_eq_ok {x : Except ε α} {f : α → β} {b : β} :
    x.map f = .ok b ↔ ∃ a, x = .ok a ∧ f a = b := by
  cases x <;> simp [Except.map]

/-- A mapping succeeds when it does at every element. -/
theorem mapM_eq_ok {γ : Type*} {f : γ → Except ε β} {as : List γ} {bs : List β} :
    as.mapM f = .ok bs ↔ List.Forall₂ (fun a b => f a = .ok b) as bs := by
  induction as generalizing bs with
  | nil => cases bs <;> simp [pure, Except.pure]
  | cons a as ih =>
    simp only [List.mapM_cons, bind_eq_ok, pure_eq_ok, ih, List.forall₂_cons_left_iff]
    constructor
    · rintro ⟨b, hb, bs, hbs, rfl⟩
      exact ⟨b, bs, hb, hbs, rfl⟩
    · rintro ⟨b, bs, hb, hbs, rfl⟩
      exact ⟨b, hb, bs, hbs, rfl⟩

lemma toOption_eq_some {x : Except ε α} {a : α} : x.toOption = some a ↔ x = .ok a := by
  cases x <;> simp [Except.toOption]

lemma exists_of_isOk {x : Except ε α} (h : x.isOk = true) : ∃ a, x = .ok a := by
  cases x with
  | error e => simp [Except.isOk, Except.toBool] at h
  | ok a => exact ⟨a, rfl⟩

/-- A fold whose steps are followed, up to a projection, by the steps of another fold. -/
theorem map_foldlM {γ : Type*} {f : α → γ → Except ε α} {g : β → γ → Except ε β} {π : α → β}
    (h : ∀ a c, (f a c).map π = g (π a) c) (cs : List γ) (a : α) :
    (cs.foldlM f a).map π = cs.foldlM g (π a) := by
  induction cs generalizing a with
  | nil => rfl
  | cons c cs ih =>
    rw [List.foldlM_cons, List.foldlM_cons, ← h]
    cases f a c with
    | error e => rfl
    | ok a' => exact ih a'

/-- There is a list that is related element by element, when each element is related to something. -/
lemma exists_forall₂_iff {α β : Type*} {R : α → β → Prop} {as : List α} :
    (∃ bs, List.Forall₂ R as bs) ↔ ∀ a ∈ as, ∃ b, R a b := by
  induction as with
  | nil => exact iff_of_true ⟨[], .nil⟩ (by simp)
  | cons a as ih =>
    rw [List.forall_mem_cons, ← ih]
    constructor
    · rintro ⟨bs, h⟩
      obtain ⟨b, bs', hab, h, -⟩ := List.forall₂_cons_left_iff.1 h
      exact ⟨⟨b, hab⟩, bs', h⟩
    · rintro ⟨⟨b, hab⟩, bs, h⟩
      exact ⟨b :: bs, .cons hab h⟩

/-- `Reads read as bs`: the elements of `as` are read as those of `bs`, one by one. -/
abbrev Reads {α β : Type*} (read : α → Option β) : List α → List β → Prop :=
  List.Forall₂ fun a b => read a = some b

lemma reads_iff {α β : Type*} {read : α → Option β} {as : List α} {bs : List β} :
    Reads read as bs ↔ as.map read = bs.map some := by
  induction as generalizing bs with
  | nil => cases bs <;> simp
  | cons a as ih => cases bs <;> simp [ih]

lemma exists_reads_iff {α β : Type*} {read : α → Option β} {as : List α} :
    (∃ bs, Reads read as bs) ↔ ∀ a ∈ as, (read a).isSome := by
  rw [exists_forall₂_iff]
  simp only [Option.isSome_iff_exists]

lemma Reads.filterMap_eq {α β : Type*} {read : α → Option β} {as : List α} {bs : List β}
    (h : Reads read as bs) : as.filterMap read = bs := by
  induction h with
  | nil => rfl
  | cons hab _ ih => rw [List.filterMap_cons_some hab, ih]

/-- The last element that is read. -/
lemma Reads.getLast?_bind {α β γ : Type*} {read : α → Option β} {f : α → Option γ} {g : β → Option γ}
    (hfg : ∀ a b, read a = some b → f a = g b) {as : List α} {bs : List β} (h : Reads read as bs) :
    as.getLast?.bind f = bs.getLast?.bind g := by
  have hlast := congrArg List.getLast? (reads_iff.1 h)
  rw [List.getLast?_map, List.getLast?_map] at hlast
  cases ha : as.getLast? with
  | none => cases hb : bs.getLast? <;> simp_all
  | some a =>
    cases hb : bs.getLast? with
    | none => simp_all
    | some b =>
      rw [ha, hb] at hlast
      exact hfg a b (Option.some.inj hlast)

/-- Elements are counted before or after they are read. -/
lemma Reads.countP_eq {α β : Type*} {read : α → Option β} {q : α → Bool} {r : β → Bool}
    (hqr : ∀ a b, read a = some b → q a = r b) {as : List α} {bs : List β} (h : Reads read as bs) :
    as.countP q = bs.countP r := by
  induction h with
  | nil => rfl
  | cons hab _ ih => rw [List.countP_cons, List.countP_cons, ih, hqr _ _ hab]

/-- Two lists that are related to a third one. -/
lemma forall₂_of_forall₂ {α β γ : Type*} {R : α → β → Prop} {S : α → γ → Prop} {T : β → γ → Prop}
    (hT : ∀ a b c, R a b → S a c → T b c) {as : List α} {bs : List β} {cs : List γ}
    (hR : List.Forall₂ R as bs) (hS : List.Forall₂ S as cs) : List.Forall₂ T bs cs := by
  induction hR generalizing cs with
  | nil =>
    obtain rfl := List.forall₂_nil_left_iff.1 hS
    exact .nil
  | cons hab _ ih =>
    obtain ⟨c, cs', hac, hS', rfl⟩ := List.forall₂_cons_left_iff.1 hS
    exact .cons (hT _ _ _ hab hac) (ih hS')

/-- What is read is determined. -/
lemma Reads.unique {α β : Type*} {read : α → Option β} {as : List α} {bs cs : List β}
    (hb : Reads read as bs) (hc : Reads read as cs) : bs = cs := by
  have h := (reads_iff.1 hb).symm.trans (reads_iff.1 hc)
  exact List.map_injective_iff.2 (fun _ _ => Option.some.inj) h

end FreeVPN.Lib
