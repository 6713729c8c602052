import Mathlib.Data.List.DropRight

/-!
# Logs that keep their last entries

`push n l x` appends an entry to a log and takes entries from its front when there are more than `n`.
What is kept is `rtake n` of all that was ever appended (`push_rtake`, `foldl_push_rtake`).

A reader that remembers how many entries it has seen reads what is behind them: `append_unread` is the
case in which that is what it has not seen.
-/

namespace FreeVPN.Lib

variable {α : Type*} {n : ℕ}

/-- Append an entry, and keep the last `n`. -/
def push (n : ℕ) (l : List α) (x : α) : List α :=
  if n < (l ++ [x]).length then (l ++ [x]).drop ((l ++ [x]).length - n) else l ++ [x]

lemma rtake_eq_self {l : List α} (h : l.length ≤ n) : l.rtake n = l := by
  rw [List.rtake, Nat.sub_eq_zero_of_le h, List.drop_zero]

@[simp] lemma length_rtake (l : List α) : (l.rtake n).length = min n l.length := by
  rw [List.rtake, List.length_drop]
  omega

lemma push_eq_rtake (l : List α) (x : α) : push n l x = (l ++ [x]).rtake n := by
  unfold push
  split_ifs with h
  · rfl
  · exact (rtake_eq_self (not_lt.1 h)).symm

/-- **What is kept** after one more entry. -/
theorem push_rtake (l : List α) (x : α) : push n (l.rtake n) x = (l ++ [x]).rtake n := by
  rw [push_eq_rtake]
  have hle : l.length - n ≤ l.length := Nat.sub_le ..
  have hsplit : l.rtake n ++ [x] = (l ++ [x]).drop (l.length - n) :=
    (List.drop_append_of_le_length hle).symm
  have hlength : (l.rtake n ++ [x]).length - n + (l.length - n) = (l ++ [x]).length - n := by
    simp only [List.length_append, length_rtake, List.length_singleton]
    omega
  calc (l.rtake n ++ [x]).rtake n
      = (l.rtake n ++ [x]).drop ((l.rtake n ++ [x]).length - n) := rfl
    _ = ((l ++ [x]).drop (l.length - n)).drop ((l.rtake n ++ [x]).length - n) := by rw [hsplit]
    _ = (l ++ [x]).rtake n := by rw [List.drop_drop, Nat.add_comm, hlength, List.rtake]

/-- What is kept after some more entries. -/
theorem foldl_push_rtake (l xs : List α) : xs.foldl (push n) (l.rtake n) = (l ++ xs).rtake n := by
  induction xs generalizing l with
  | nil => simp
  | cons x xs ih => rw [List.foldl_cons, push_rtake, ih, List.append_assoc, List.singleton_append]

/-- **Reading by position.**  A reader that has seen the first entries of a log reads the others
behind their number, as long as the log has kept all its entries. -/
theorem append_unread {seen all : List α} (h : seen <+: all) (hn : all.length ≤ n) :
    seen ++ (all.rtake n).drop (min n seen.length) = all := by
  rw [rtake_eq_self hn, Nat.min_eq_right (h.length_le.trans hn)]
  exact List.prefix_iff_eq_append.1 h

/-- A reader that has seen everything finds nothing behind its position. -/
theorem unread_eq_nil (all : List α) : (all.rtake n).drop (min n all.length) = [] :=
  List.drop_eq_nil_of_le (length_rtake all).le

end FreeVPN.Lib
