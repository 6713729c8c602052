import FreeVPN.Foundation.Text

/-!
# Characters

What Swift counts in a string are not its scalars but its `Character`s, the extended grapheme clusters of
Unicode.  Which scalars are joined in one is up to the tables of Unicode; `Characters` is any way to join
them that leaves no scalar out and ends a `Character` with every line feed, as the rules of Unicode do.

* `count`, `firstCharacters` — `count` and `prefix(_:)` of a string;
* `Ascii.characters` — the `Character`s of a text of ASCII scalars.
-/

namespace FreeVPN.Foundation

/-- How scalars are joined in `Character`s. -/
class Characters where
  /-- The `Character`s of a string. -/
  characters : Text → List Text
  flatten_characters : ∀ s, (characters s).flatten = s
  characters_append : ∀ u v, characters (u ++ '\n' :: v) = characters (u ++ ['\n']) ++ characters v

section Count

variable [Characters]

/-- `count` -/
def count (s : Text) : ℕ := (Characters.characters s).length

/-- `String(prefix(_:))` -/
def firstCharacters (n : ℕ) (s : Text) : Text := ((Characters.characters s).take n).flatten

/-- The `Character`s of a line, with its line feed, and of what is behind it. -/
lemma count_append (u v : Text) : count (u ++ '\n' :: v) = count (u ++ ['\n']) + count v := by
  rw [count, Characters.characters_append, List.length_append]
  rfl

/-- The `Character`s of lines, each with its line feed, and of those behind them. -/
lemma count_joined_append (xs : List Text) {ls : List Text} (hls : ls ≠ []) :
    count (joined ['\n'] (xs ++ ls)) =
      (xs.map fun x => count (x ++ ['\n'])).sum + count (joined ['\n'] ls) := by
  induction xs with
  | nil => rw [List.nil_append, List.map_nil, List.sum_nil, Nat.zero_add]
  | cons x xs ih =>
    have hne : xs ++ ls ≠ [] := List.append_ne_nil_of_right_ne_nil xs hls
    rw [List.cons_append, joined, List.intercalate_cons_of_ne_nil hne, List.append_assoc,
      List.singleton_append, count_append, ih, List.map_cons, List.sum_cons, Nat.add_assoc]

/-- A text that has no more `Character`s is its own beginning. -/
lemma firstCharacters_of_count_le {n : ℕ} {s : Text} (h : count s ≤ n) : firstCharacters n s = s := by
  rw [firstCharacters, List.take_of_length_le h, Characters.flatten_characters]

/-- What is behind a line does not matter where the line has enough `Character`s. -/
lemma firstCharacters_congr {n : ℕ} {u : Text} (h : n ≤ count (u ++ ['\n'])) (v w : Text) :
    firstCharacters n (u ++ '\n' :: v) = firstCharacters n (u ++ '\n' :: w) := by
  have htake : ∀ v, firstCharacters n (u ++ '\n' :: v) = firstCharacters n (u ++ ['\n']) := by
    intro v
    rw [firstCharacters, Characters.characters_append, List.take_append_of_le_length h]
    rfl
  exact (htake v).trans (htake w).symm

end Count

/-! ### ASCII texts -/

namespace Ascii

/-- The `Character`s of a text of ASCII scalars: a line feed behind a carriage return is joined to it. -/
def clusters : Text → List Text
  | [] => []
  | c :: s =>
    match c = '\r' && s.head? = some '\n', clusters s with
    | true, cluster :: rest => (c :: cluster) :: rest
    | _, rest => [c] :: rest

lemma clusters_ne_nil {s : Text} (h : s ≠ []) : clusters s ≠ [] := by
  cases s with
  | nil => exact absurd rfl h
  | cons c s =>
    rw [clusters]
    split
    · simp
    · simp

lemma flatten_clusters (s : Text) : (clusters s).flatten = s := by
  induction s with
  | nil => rfl
  | cons c s ih =>
    rw [clusters]
    split
    · next heq =>
      rw [heq] at ih
      rw [List.flatten_cons, List.cons_append, ← List.flatten_cons, ih]
    · rw [List.flatten_cons, ih]
      rfl

lemma clusters_append (u v : Text) : clusters (u ++ '\n' :: v) = clusters (u ++ ['\n']) ++ clusters v := by
  induction u with
  | nil => rfl
  | cons c u ih =>
    have hhead : (u ++ '\n' :: v).head? = (u ++ ['\n']).head? := by
      cases u with
      | nil => rfl
      | cons d u => rfl
    obtain ⟨cluster, rest, hrest⟩ :=
      List.exists_cons_of_ne_nil (clusters_ne_nil (s := u ++ ['\n']) (by simp))
    rw [List.cons_append, List.cons_append, clusters, clusters, hhead, ih, hrest]
    cases c = '\r' && (u ++ ['\n']).head? = some '\n' <;> rfl

scoped instance characters : Characters where
  characters := clusters
  flatten_characters := flatten_clusters
  characters_append := clusters_append

end Ascii

end FreeVPN.Foundation
