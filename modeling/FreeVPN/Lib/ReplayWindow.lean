import Mathlib.Data.Finset.Lattice.Fold
import Mathlib.Order.Lattice.Nat
import Mathlib.Data.List.Nodup
import Mathlib.Tactic.Common

/-!
# Replay windows

A receiver of numbered packets that accepts no number twice, without keeping all of them: what lies more than
`size` below the highest number is refused, and so is what lies at or below `floor`.  Numbers start again with
every epoch, and epochs only go forward.

Here the receiver keeps the set of the numbers that it has accepted in the epoch.  This is what an
implementation is compared with, which keeps bits instead.

* `ReplayWindow.Fresh` — what is accepted;
* `ExpiringWindow.nodup_accepted` — no number of an epoch is accepted twice, over any run;
-/

namespace FreeVPN.Lib

/-- The epoch, the numbers accepted in it, and the number at or below which nothing is accepted any more
unless it is higher than all of them. -/
structure ReplayWindow where
  epoch : ℕ := 0
  seen : Finset ℕ := ∅
  floor : ℕ := 0

/-- A number, with its epoch. -/
abbrev Stamp := ℕ × ℕ

namespace ReplayWindow

/-- The highest number of the epoch. -/
def high (w : ReplayWindow) : ℕ := w.seen.sup id

lemma le_high {w : ReplayWindow} {i : ℕ} (h : i ∈ w.seen) : i ≤ w.high := Finset.le_sup (f := id) h

lemma notMem_of_high_lt {w : ReplayWindow} {i : ℕ} (h : w.high < i) : i ∉ w.seen := fun hi =>
  (le_high hi).not_gt h

lemma high_lt_iff {w : ReplayWindow} {n : ℕ} (hn : 0 < n) : w.high < n ↔ ∀ i ∈ w.seen, i < n :=
  Finset.sup_lt_iff (f := id) hn

/-- What is accepted. -/
def Fresh (size : ℕ) (w : ReplayWindow) (p : Stamp) : Prop :=
  0 < p.2 ∧ (w.epoch < p.1 ∨ p.1 = w.epoch ∧ p.2 ∉ w.seen ∧ (w.high < p.2 ∨ w.high < p.2 + size ∧ w.floor < p.2))

instance (size : ℕ) (w : ReplayWindow) (p : Stamp) : Decidable (w.Fresh size p) := by unfold Fresh; infer_instance

/-- The window after a number has been accepted. -/
def accept (w : ReplayWindow) (p : Stamp) : ReplayWindow :=
  if w.epoch < p.1 then { epoch := p.1, seen := {p.2} } else { w with seen := insert p.2 w.seen }

/-- What the window treats as accepted: all that belongs to an earlier epoch, and the numbers of the set. -/
def Accepted (w : ReplayWindow) (p : Stamp) : Prop := p.1 < w.epoch ∨ p.1 = w.epoch ∧ p.2 ∈ w.seen

lemma not_accepted_of_fresh {size : ℕ} {w : ReplayWindow} {p : Stamp} (h : w.Fresh size p) : ¬w.Accepted p := by
  obtain ⟨-, h | ⟨h, hseen, -⟩⟩ := h
  · rintro (h' | ⟨h', -⟩) <;> omega
  · rintro (h' | ⟨-, h'⟩)
    · omega
    · exact hseen h'

lemma accepted_accept {size : ℕ} {w : ReplayWindow} {p : Stamp} (h : w.Fresh size p) :
    (w.accept p).Accepted p := by
  unfold accept
  split
  · exact Or.inr ⟨rfl, Finset.mem_singleton_self _⟩
  · obtain ⟨-, h | ⟨h, -⟩⟩ := h
    · contradiction
    · exact Or.inr ⟨h, Finset.mem_insert_self _ _⟩

lemma Accepted.accept {w : ReplayWindow} {p : Stamp} (h : w.Accepted p) (q : Stamp) : (w.accept q).Accepted p := by
  unfold ReplayWindow.accept
  split
  · rename_i hq
    refine Or.inl ?_
    rcases h with h | ⟨h, -⟩
    · exact h.trans hq
    · exact h ▸ hq
  · exact h.imp_right fun ⟨h, hseen⟩ => ⟨h, Finset.mem_insert_of_mem hseen⟩

lemma accept_same (w : ReplayWindow) (i : ℕ) : w.accept (w.epoch, i) = { w with seen := insert i w.seen } :=
  if_neg (lt_irrefl _)

lemma accept_later {w : ReplayWindow} {p : Stamp} (h : w.epoch < p.1) :
    w.accept p = { epoch := p.1, seen := insert p.2 ∅ } := by
  rw [accept, if_pos h, insert_empty_eq]

lemma high_insert (w : ReplayWindow) (i : ℕ) :
    ReplayWindow.high { w with seen := insert i w.seen } = max i w.high := by
  rw [high, high, Finset.sup_insert]
  rfl

end ReplayWindow

/-! ### Runs -/

/-- A packet, when it comes, and whether it is to be remembered. -/
structure Arrival where
  stamp : Stamp
  now : ℕ
  keep : Bool := true

/-- A window whose floor is raised to the highest number when nothing has come for a time. -/
structure ExpiringWindow extends ReplayWindow where
  expire : ℕ := 0

namespace ExpiringWindow

variable (size lifetime : ℕ)

/-- The window when something comes. -/
def touch (w : ExpiringWindow) (now : ℕ) : ExpiringWindow :=
  { w with floor := if w.expire ≤ now then w.high else w.floor, expire := now + lifetime }

/-- One arrival: whether it is accepted, and the window after it. -/
def step (w : ExpiringWindow) (a : Arrival) : Bool × ExpiringWindow :=
  let w := w.touch lifetime a.now
  if w.Fresh size a.stamp then (true, if a.keep then { w with toReplayWindow := w.accept a.stamp } else w)
  else (false, w)

/-- What the window says of each arrival. -/
def decisions (w : ExpiringWindow) : List Arrival → List Bool
  | [] => []
  | a :: as => (w.step size lifetime a).1 :: (w.step size lifetime a).2.decisions as

/-- The numbers that are accepted and remembered, in the order in which they come. -/
def accepted (w : ExpiringWindow) : List Arrival → List Stamp
  | [] => []
  | a :: as =>
    let r := w.step size lifetime a
    if r.1 && a.keep then a.stamp :: r.2.accepted as else r.2.accepted as

variable {size lifetime}

lemma accepted_cons {w : ExpiringWindow} {a : Arrival} {as : List Arrival} :
    w.accepted size lifetime (a :: as) =
      if (w.step size lifetime a).1 && a.keep then
        a.stamp :: (w.step size lifetime a).2.accepted size lifetime as
      else (w.step size lifetime a).2.accepted size lifetime as := rfl

lemma step_of_fresh {w : ExpiringWindow} {a : Arrival}
    (h : (w.touch lifetime a.now).Fresh size a.stamp) :
    w.step size lifetime a = (true, if a.keep then
      { w.touch lifetime a.now with toReplayWindow := (w.touch lifetime a.now).accept a.stamp }
      else w.touch lifetime a.now) := if_pos h

lemma step_of_not_fresh {w : ExpiringWindow} {a : Arrival}
    (h : ¬(w.touch lifetime a.now).Fresh size a.stamp) :
    w.step size lifetime a = (false, w.touch lifetime a.now) := if_neg h

/-- A step keeps the window, or accepts a number that is fresh. -/
lemma step_cases (w : ExpiringWindow) (size lifetime : ℕ) (a : Arrival) :
    (¬((w.step size lifetime a).1 && a.keep) ∧ (w.step size lifetime a).2 = w.touch lifetime a.now) ∨
      ((w.step size lifetime a).1 && a.keep) ∧ (w.touch lifetime a.now).Fresh size a.stamp ∧
        (w.step size lifetime a).2.toReplayWindow = (w.touch lifetime a.now).accept a.stamp := by
  by_cases hf : (w.touch lifetime a.now).Fresh size a.stamp
  · rw [step_of_fresh hf]
    cases hk : a.keep <;> simp [hf]
  · simp [step_of_not_fresh hf]

lemma accepted_touch {w : ExpiringWindow} {now : ℕ} {p : Stamp} :
    (w.touch lifetime now).Accepted p ↔ w.Accepted p := Iff.rfl

lemma Accepted.step {w : ExpiringWindow} {p : Stamp} (h : w.Accepted p) (size lifetime : ℕ) (a : Arrival) :
    (w.step size lifetime a).2.Accepted p := by
  obtain ⟨-, h'⟩ | ⟨-, -, h'⟩ := w.step_cases size lifetime a
  · rw [h']
    exact h
  · rw [h']
    exact ReplayWindow.Accepted.accept (accepted_touch.2 h) _

/-- What has been accepted before a run is not accepted in it. -/
lemma notMem_accepted {w : ExpiringWindow} {p : Stamp} (h : w.Accepted p) (as : List Arrival) :
    p ∉ w.accepted size lifetime as := by
  induction as generalizing w with
  | nil => simp [accepted]
  | cons a as ih =>
    have hrest := ih (Accepted.step h size lifetime a)
    rw [accepted_cons]
    split
    · rename_i hacc
      obtain ⟨h', -⟩ | ⟨-, hf, -⟩ := w.step_cases size lifetime a
      · exact absurd hacc h'
      · rintro (_ | ⟨_, hmem⟩)
        · exact ReplayWindow.not_accepted_of_fresh hf h
        · exact hrest hmem
    · exact hrest

/-- **No replay.**  No number of an epoch is accepted twice. -/
theorem nodup_accepted (w : ExpiringWindow) (as : List Arrival) : (w.accepted size lifetime as).Nodup := by
  induction as generalizing w with
  | nil => simp [accepted]
  | cons a as ih =>
    rw [accepted_cons]
    split
    · rename_i hacc
      obtain ⟨h', -⟩ | ⟨-, hf, hw⟩ := w.step_cases size lifetime a
      · exact absurd hacc h'
      · refine List.nodup_cons.2 ⟨notMem_accepted ?_ as, ih _⟩
        rw [hw]
        exact ReplayWindow.accepted_accept hf
    · exact ih _

/-! ### What is not refused -/

/-- An arrival of the epoch, inside a window whose floor is zero. -/
lemma step_inWindow (size lifetime : ℕ) {w : ExpiringWindow} {a : Arrival} {epoch : ℕ} (hk : a.keep = true) (hpos : 0 < a.stamp.2)
    (ha : a.stamp.1 = epoch) (hepoch : w.epoch < epoch ∧ w.seen = ∅ ∨ w.epoch = epoch)
    (hfloor : (w.touch lifetime a.now).floor = 0) (hhigh : w.high < a.stamp.2 + size) :
    (w.step size lifetime a).2.epoch = epoch ∧ (w.step size lifetime a).2.floor = 0 ∧
      (w.step size lifetime a).2.expire = a.now + lifetime ∧
      (∀ i, i ∈ (w.step size lifetime a).2.seen ↔ i = a.stamp.2 ∨ i ∈ w.seen) ∧
      (a.stamp.2 ∉ w.seen → (w.step size lifetime a).1 = true) := by
  rcases hepoch with ⟨hlt, hempty⟩ | heq
  · have hf : (w.touch lifetime a.now).Fresh size a.stamp := ⟨hpos, Or.inl (ha ▸ hlt)⟩
    rw [step_of_fresh hf, if_pos hk,
      ReplayWindow.accept_later (w := (w.touch lifetime a.now).toReplayWindow) (ha ▸ hlt)]
    exact ⟨ha, rfl, rfl, fun i => by simp [hempty], fun _ => rfl⟩
  have hstamp : a.stamp = ((w.touch lifetime a.now).epoch, a.stamp.2) := Prod.ext (ha.trans heq.symm) rfl
  by_cases hseen : a.stamp.2 ∈ w.seen
  · have hf : ¬(w.touch lifetime a.now).Fresh size a.stamp := fun hf =>
      ReplayWindow.not_accepted_of_fresh hf (Or.inr ⟨ha.trans heq.symm, hseen⟩)
    rw [step_of_not_fresh hf]
    refine ⟨heq, hfloor, rfl, fun i => ⟨Or.inr, ?_⟩, fun h => absurd hseen h⟩
    rintro (rfl | h)
    · exact hseen
    · exact h
  · have hf : (w.touch lifetime a.now).Fresh size a.stamp :=
      ⟨hpos, Or.inr ⟨ha.trans heq.symm, hseen, Or.inr ⟨hhigh, hfloor ▸ hpos⟩⟩⟩
    rw [step_of_fresh hf, if_pos hk, hstamp, ReplayWindow.accept_same]
    exact ⟨heq, hfloor, rfl, fun i => Finset.mem_insert, fun _ => rfl⟩

/-- Numbers of one epoch that come inside the window, without a silence, are all accepted when they come
first. -/
theorem mem_accepted_of_inWindow {w : ExpiringWindow} {as : List Arrival} {epoch : ℕ}
    (hkeep : ∀ a ∈ as, a.keep = true ∧ 0 < a.stamp.2 ∧ a.stamp.1 = epoch)
    (hepoch : w.epoch < epoch ∧ w.seen = ∅ ∨ w.epoch = epoch) (hfloor : w.floor = 0)
    (hexpire : w.seen = ∅ ∨ ∀ a ∈ as.head?, a.now < w.expire)
    (hhigh : ∀ a ∈ as, w.high < a.stamp.2 + size)
    (hnear : as.Pairwise fun a b => a.stamp.2 < b.stamp.2 + size)
    (hchain : as.IsChain fun a b => b.now < a.now + lifetime) {a : Arrival} (ha : a ∈ as) :
    a.stamp.2 ∈ w.seen ∨ a.stamp ∈ w.accepted size lifetime as := by
  induction as generalizing w with
  | nil => exact absurd ha List.not_mem_nil
  | cons b as ih =>
    obtain ⟨hk, hpos, hb⟩ := hkeep b List.mem_cons_self
    obtain ⟨hnear₁, hnear₂⟩ := List.pairwise_cons.1 hnear
    have htouch : (w.touch lifetime b.now).floor = 0 := by
      unfold touch
      dsimp only
      split
      · rename_i hle
        rcases hexpire with h | h
        · simp [ReplayWindow.high, h]
        · exact absurd (h b rfl) (by omega)
      · exact hfloor
    obtain ⟨hepoch', hfloor', hexpire', hseen', hfirst⟩ := step_inWindow size lifetime
      hk hpos hb hepoch htouch (hhigh b List.mem_cons_self)
    have hhead : b.stamp.2 ∈ w.seen ∨ b.stamp ∈ w.accepted size lifetime (b :: as) := by
      by_cases hb' : b.stamp.2 ∈ w.seen
      · exact Or.inl hb'
      · refine Or.inr ?_
        rw [accepted_cons, if_pos (by simp [hfirst hb', hk])]
        exact List.mem_cons_self
    rcases List.mem_cons.1 ha with rfl | ha
    · exact hhead
    have hrest : ∀ p ∈ (w.step size lifetime b).2.accepted size lifetime as,
        p ∈ w.accepted size lifetime (b :: as) := by
      intro p hp
      rw [accepted_cons]
      split
      · exact List.mem_cons_of_mem _ hp
      · exact hp
    have hih := ih (fun c hc => hkeep c (List.mem_cons_of_mem _ hc)) (Or.inr hepoch') hfloor'
      (Or.inr fun c hc => by
        rw [hexpire']
        obtain ⟨as', rfl⟩ := List.head?_eq_some_iff.1 hc
        exact (List.isChain_cons_cons.1 hchain).1)
      (fun c hc => by
        have hpos' := (hkeep c (List.mem_cons_of_mem _ hc)).2.1
        have hw := hhigh c (List.mem_cons_of_mem _ hc)
        rw [ReplayWindow.high_lt_iff (by omega)] at hw ⊢
        intro i hi
        rcases (hseen' i).1 hi with rfl | hi
        · exact hnear₁ c hc
        · exact hw i hi) hnear₂ hchain.of_cons ha
    rcases hih with hseen | hacc
    · rcases (hseen' _).1 hseen with heq | hseen
      · have : a.stamp = b.stamp :=
          Prod.ext ((hkeep a (List.mem_cons_of_mem _ ha)).2.2.trans hb.symm) heq
        rw [this]
        exact hhead
      · exact Or.inl hseen
    · exact Or.inr (hrest _ hacc)

end ExpiringWindow

end FreeVPN.Lib
