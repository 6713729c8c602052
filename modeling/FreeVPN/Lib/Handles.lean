import Mathlib.Data.List.Basic

/-!
# Handles

What is done with handles, in the order in which it is done: a handle is acquired, used and released.
`liveAfter` is the ledger of the handles that are live, and `WellUsed` says that nothing is done with
a handle that is not, and that none is acquired twice.
-/

namespace FreeVPN.Lib

variable {H : Type*} [DecidableEq H]

/-- What is done with a handle. -/
inductive HandleEvent (H : Type*)
  | acquire (h : H)
  | use (h : H)
  | release (h : H)
  deriving DecidableEq

namespace HandleEvent

/-- The handles that are live afterwards. -/
def after (live : List H) : HandleEvent H → List H
  | acquire h => h :: live
  | use _ => live
  | release h => live.filter (· ≠ h)

/-- A handle that is used or released is live, and one that is acquired is not. -/
def Allowed (live : List H) : HandleEvent H → Prop
  | acquire h => h ∉ live
  | use h | release h => h ∈ live

end HandleEvent

/-- The handles that are live after some events. -/
def liveAfter (live : List H) (es : List (HandleEvent H)) : List H := es.foldl HandleEvent.after live

/-- Every event is allowed when it comes. -/
def WellUsed (live : List H) : List (HandleEvent H) → Prop
  | [] => True
  | e :: es => e.Allowed live ∧ WellUsed (e.after live) es

@[simp] lemma liveAfter_nil (live : List H) : liveAfter live [] = live := rfl

@[simp] lemma liveAfter_cons (live : List H) (e : HandleEvent H) (es : List (HandleEvent H)) :
    liveAfter live (e :: es) = liveAfter (e.after live) es := rfl

lemma liveAfter_append (live : List H) (es fs : List (HandleEvent H)) :
    liveAfter live (es ++ fs) = liveAfter (liveAfter live es) fs := List.foldl_append

lemma wellUsed_append {live : List H} {es fs : List (HandleEvent H)} :
    WellUsed live (es ++ fs) ↔ WellUsed live es ∧ WellUsed (liveAfter live es) fs := by
  induction es generalizing live with
  | nil => simp [WellUsed]
  | cons e es ih => rw [List.cons_append, WellUsed, ih, WellUsed, liveAfter_cons, and_assoc]

end FreeVPN.Lib
