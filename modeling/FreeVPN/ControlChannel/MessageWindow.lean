import Mathlib.Algebra.Group.Int.Defs
import Mathlib.Algebra.GroupWithZero.Nat
import Mathlib.Data.List.GetD
import Mathlib.Order.Basic
import Mathlib.Tactic.Common

/-!
# Message windows

`MessageWindow` keeps the messages of a channel with ids that go up: on the receiving side those that have come
out of order, on the sending side those that have not been acknowledged.  It holds the ids from `headId` on, and
as many as its span says; the queue grows only as far as it is used.

`message` reads the window as a function of the id, which gives a fresh message where the queue has not grown
to.  The lemmas about an operation say what becomes of the head and of `message`.
-/

namespace FreeVPN.ControlChannel

/-- What `MessageWindow` asks of a class of messages. -/
class WindowMessage (M : Type*) where
  /-- The default constructor. -/
  fresh : M
  defined : M → Bool
  erased : M → Bool
  erase : M → M
  defined_fresh : defined fresh = false
  erased_fresh : erased fresh = false
  defined_erase : ∀ m, defined (erase m) = false
  erased_erase : ∀ m, erased (erase m) = true

open WindowMessage

attribute [simp] defined_fresh erased_fresh defined_erase erased_erase

/-- `MessageWindow`; ids have 32 bits. -/
structure MessageWindow (M : Type*) where
  /-- The id of the first message of the queue. -/
  headId : ℕ := 0
  span : ℕ := 0
  q : List M := []
  deriving DecidableEq

namespace MessageWindow

variable {M : Type*} [WindowMessage M] (w : MessageWindow M)

/-- `tail_id`, one past the end of the window. -/
def tailId : ℕ := (w.headId + w.span) % 2 ^ 32

/-- `in_window` -/
def inWindow (id : ℕ) : Bool := w.headId ≤ id && id < w.tailId

/-- `pre_window` -/
def preWindow (id : ℕ) : Bool := id < w.headId

/-- `grow`: the queue is as long as it must be for the id. -/
def grow (id : ℕ) : MessageWindow M :=
  { w with q := w.q ++ List.replicate (id - w.headId + 1 - w.q.length) fresh }

/-- `ref_by_id`: the window that has grown, and the message; it throws if the id is not in the window. -/
def refById (id : ℕ) : Option (MessageWindow M × M) :=
  if w.inWindow id then
    let w := w.grow id
    some (w, w.q.getD (id - w.headId) fresh)
  else none

/-- A change of the message that `ref_by_id` refers to. -/
def put (id : ℕ) (m : M) : MessageWindow M := { w with q := w.q.set (id - w.headId) m }

/-- `purge`: the erased messages at the head of the queue go, and the head moves on. -/
def purge : ℕ → List M → ℕ × List M
  | headId, [] => (headId, [])
  | headId, m :: q => if erased m then purge ((headId + 1) % 2 ^ 32) q else (headId, m :: q)

/-- `rm_by_id` -/
def rmById (id : ℕ) : MessageWindow M :=
  let w := if w.inWindow id then
      let w := w.grow id
      w.put id (erase (w.q.getD (id - w.headId) fresh))
    else w
  let (headId, q) := purge w.headId w.q
  { w with headId, q }

/-- `head_defined` -/
def headDefined : Bool :=
  match w.q with
  | [] => false
  | m :: _ => defined m

/-- `rm_head_nocheck`, which is called when the head is defined. -/
def rmHeadNocheck : MessageWindow M := { w with headId := (w.headId + 1) % 2 ^ 32, q := w.q.tail }

/-! ### Windows as functions -/

/-- The message with an id that is not before the window. -/
def message (id : ℕ) : M := w.q.getD (id - w.headId) fresh

/-- The ids of the queue have 32 bits, and the queue is not longer than the window. -/
structure WellFormed : Prop where
  span : w.span < 2 ^ 32
  bound : w.headId + w.q.length < 2 ^ 32
  length : w.q.length ≤ w.span

variable {w}

omit [WindowMessage M] in
/-- A window that would reach past the last id contains nothing. -/
lemma inWindow_iff (h : w.WellFormed) {id : ℕ} :
    w.inWindow id = true ↔ w.headId + w.span < 2 ^ 32 ∧ w.headId ≤ id ∧ id < w.headId + w.span := by
  have := h.span
  have := h.bound
  rw [inWindow, tailId, Bool.and_eq_true, decide_eq_true_iff, decide_eq_true_iff]
  by_cases hlt : w.headId + w.span < 2 ^ 32
  · rw [Nat.mod_eq_of_lt hlt]
    omega
  · omega

omit [WindowMessage M] in
lemma getD_append_replicate (q : List M) (n i : ℕ) (m : M) : (q ++ List.replicate n m).getD i m = q.getD i m := by
  rcases Nat.lt_or_ge i q.length with h | h
  · rw [List.getD_append _ _ _ _ h]
  · rw [List.getD_append_right _ _ _ _ h, List.getD_eq_default _ _ h, List.getD_eq_getElem?_getD,
      List.getElem?_getD_replicate_default_eq]

@[simp] lemma headId_grow (id : ℕ) : (w.grow id).headId = w.headId := rfl

@[simp] lemma span_grow (id : ℕ) : (w.grow id).span = w.span := rfl

@[simp] lemma message_grow (id id' : ℕ) : (w.grow id).message id' = w.message id' :=
  getD_append_replicate _ _ _ _

lemma length_grow (id : ℕ) : (w.grow id).q.length = max w.q.length (id - w.headId + 1) := by
  simp only [grow, List.length_append, List.length_replicate]
  omega

lemma wellFormed_grow (h : w.WellFormed) {id : ℕ} (hin : w.inWindow id = true) : (w.grow id).WellFormed := by
  obtain ⟨hlt, hle, hid⟩ := (inWindow_iff h).1 hin
  have := h.bound
  have := h.length
  refine ⟨h.span, ?_, ?_⟩
  · rw [length_grow, headId_grow]
    omega
  · rw [length_grow, span_grow]
    omega

lemma refById_eq {id : ℕ} (hin : w.inWindow id = true) : w.refById id = some (w.grow id, w.message id) := by
  rw [refById, if_pos hin]
  exact congrArg (fun m => some (w.grow id, m)) (message_grow (w := w) id id)

omit [WindowMessage M] in
@[simp] lemma headId_put (id : ℕ) (m : M) : (w.put id m).headId = w.headId := rfl

omit [WindowMessage M] in
@[simp] lemma span_put (id : ℕ) (m : M) : (w.put id m).span = w.span := rfl

omit [WindowMessage M] in
lemma wellFormed_put (h : w.WellFormed) (id : ℕ) (m : M) : (w.put id m).WellFormed := by
  refine ⟨h.span, ?_, ?_⟩
  · simpa [put] using h.bound
  · simpa [put] using h.length

lemma message_put {id : ℕ} (hid : w.headId ≤ id) (hlt : id - w.headId < w.q.length) (m : M) {id' : ℕ}
    (hid' : w.headId ≤ id') : (w.put id m).message id' = if id' = id then m else w.message id' := by
  rw [message, put, List.getD_eq_getElem?_getD, List.getElem?_set]
  by_cases h : id' = id
  · subst h
    simp [hlt]
  · rw [if_neg (show ¬id - w.headId = id' - w.headId by omega), if_neg h, message, List.getD_eq_getElem?_getD]

/-- The window after the message with an id in it has been replaced. -/
lemma message_grow_put (h : w.WellFormed) {id : ℕ} (hin : w.inWindow id = true) (m : M) {id' : ℕ}
    (hid' : w.headId ≤ id') : ((w.grow id).put id m).message id' = if id' = id then m else w.message id' := by
  have hid := ((inWindow_iff h).1 hin).2.1
  rw [message_put (by exact hid) (by rw [length_grow, headId_grow]; omega) _ (by exact hid'), message_grow]

/-- What `purge` takes from the queue. -/
lemma purge_eq {headId : ℕ} {q : List M} (h : headId + q.length < 2 ^ 32) :
    ∃ k ≤ q.length, purge headId q = (headId + k, q.drop k) ∧ (∀ i < k, erased (q.getD i fresh) = true) ∧
      ∀ m ∈ (q.drop k).head?, erased m = false := by
  induction q generalizing headId with
  | nil => exact ⟨0, Nat.le_refl _, rfl, by simp, by simp⟩
  | cons m q ih =>
    rw [purge]
    rw [List.length_cons] at h
    split
    · rename_i hm
      rw [Nat.mod_eq_of_lt (show headId + 1 < 2 ^ 32 by omega)]
      obtain ⟨k, hk, hpurge, herased, hhead⟩ := @ih (headId + 1) (by omega)
      refine ⟨k + 1, by simpa using hk, by rw [hpurge, Nat.add_right_comm]; rfl, ?_, hhead⟩
      intro i hi
      cases i with
      | zero => exact hm
      | succ i => exact herased i (by omega)
    · rename_i hm
      exact ⟨0, Nat.zero_le _, rfl, by simp, by simpa using hm⟩

/-- **What `rm_by_id` does.**  The message is erased, and the head moves over erased messages. -/
lemma rmById_spec (h : w.WellFormed) (id : ℕ) :
    (w.rmById id).WellFormed ∧ (w.rmById id).span = w.span ∧ w.headId ≤ (w.rmById id).headId ∧
      (∀ id', (w.rmById id).headId ≤ id' → (w.rmById id).message id' =
        if id' = id ∧ w.inWindow id = true then erase (w.message id) else w.message id') ∧
      ∀ id', w.headId ≤ id' → id' < (w.rmById id).headId →
        id' = id ∧ w.inWindow id = true ∨ erased (w.message id') = true := by
  set w' := if w.inWindow id then (w.grow id).put id (erase (w.message id)) else w with hw'
  have hrm : w.rmById id = { w' with headId := (purge w'.headId w'.q).1, q := (purge w'.headId w'.q).2 } := by
    rw [rmById, hw', ← message_grow (w := w) id id]
    rfl
  have hwf : w'.WellFormed := by
    rw [hw']
    split
    · rename_i hin
      exact wellFormed_put (wellFormed_grow h hin) _ _
    · exact h
  have hhead : w'.headId = w.headId := by
    rw [hw']
    split <;> rfl
  have hspan : w'.span = w.span := by
    rw [hw']
    split <;> rfl
  have hmessage : ∀ id', w.headId ≤ id' →
      w'.message id' = if id' = id ∧ w.inWindow id = true then erase (w.message id) else w.message id' := by
    intro id' hid'
    rw [hw']
    by_cases hin : w.inWindow id = true
    · rw [if_pos hin, message_grow_put h hin _ hid']
      simp only [hin, and_true]
    · rw [if_neg hin, if_neg (fun hc => hin hc.2)]
  obtain ⟨k, hk, hpurge, herased, -⟩ := purge_eq hwf.bound
  rw [hrm, hpurge]
  refine ⟨⟨hwf.span, ?_, ?_⟩, hspan, ?_, ?_, ?_⟩
  · have := hwf.bound
    simp only [List.length_drop]
    omega
  · have := hwf.length
    simp only [List.length_drop]
    omega
  · exact hhead ▸ Nat.le_add_right _ _
  · intro id' (hid' : w'.headId + k ≤ id')
    rw [← hmessage id' (by omega), message, message, List.getD_eq_getElem?_getD, List.getD_eq_getElem?_getD,
      List.getElem?_drop]
    congr 3
    simp only
    omega
  · intro id' hid' (hlt : id' < w'.headId + k)
    have hdone := herased (id' - w'.headId) (by omega)
    have hm := hmessage id' hid'
    rw [message] at hm
    rw [hm] at hdone
    by_cases hc : id' = id ∧ w.inWindow id = true
    · exact Or.inl hc
    · rw [if_neg hc] at hdone
      exact Or.inr hdone

/-- What is at the head of the queue is the message with the id of the head. -/
lemma headDefined_iff : w.headDefined = true ↔ defined (w.message w.headId) = true := by
  rw [headDefined, message, Nat.sub_self]
  cases w.q <;> simp

lemma rmHeadNocheck_spec (h : w.WellFormed) (hd : w.headDefined = true) :
    w.rmHeadNocheck.WellFormed ∧ w.rmHeadNocheck.span = w.span ∧ w.rmHeadNocheck.headId = w.headId + 1 ∧
      ∀ id, w.headId + 1 ≤ id → w.rmHeadNocheck.message id = w.message id := by
  obtain ⟨headId, span, q⟩ := w
  cases q with
  | nil => simp [headDefined] at hd
  | cons m q =>
    have hbound := h.bound
    have hlength := h.length
    simp only [List.length_cons] at hbound hlength
    have hmod : (headId + 1) % 2 ^ 32 = headId + 1 := Nat.mod_eq_of_lt (by omega)
    refine ⟨⟨h.span, ?_, ?_⟩, rfl, hmod, ?_⟩
    · simp only [rmHeadNocheck, List.tail_cons, hmod]
      omega
    · simp only [rmHeadNocheck, List.tail_cons]
      omega
    · intro id (hid : headId + 1 ≤ id)
      obtain ⟨n, rfl⟩ := Nat.exists_eq_add_of_le hid
      simp only [rmHeadNocheck, message, List.tail_cons, hmod]
      rw [Nat.add_sub_cancel_left, show headId + 1 + n - headId = n + 1 by omega, List.getD_cons_succ]

end MessageWindow

end FreeVPN.ControlChannel
