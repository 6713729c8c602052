import FreeVPN.Lib.Lists

/-!
# Lists of items on one line

A value on a line may hold several items between separators `a`, and end in a comment that starts
with the mark `c`.  One reader cuts the comment off first (`readItems`), another does not know of
comments (`rawItems`).  The raw items of one or more values, joined again with `a` and a blank `sp`,
are what the first reader gets to see when the second has printed them:

* `readItems_comment` — what the two readers make of one value;
* `readItems_joined` — the items of a joined list, where a blank first or last item is lost;
* `readItems_joined_comment` — a joined list that contains the mark ends at the first such item.
-/

namespace FreeVPN.Lib

variable {α : Type*}

/-! ### Blank ends -/

section Ends

/-- The list without a blank item at its end. -/
def dropBlankLast (L : List (List α)) : List (List α) := dropLastIf List.isEmpty L

/-- The list without a blank item at its beginning. -/
def dropBlankHead : List (List α) → List (List α)
  | [] => []
  | x :: L => if x = [] then L else x :: L

lemma dropBlankLast_concat (L : List (List α)) (z : List α) :
    dropBlankLast (L ++ [z]) = if z = [] then L else L ++ [z] := by
  simp [dropBlankLast, dropLastIf_concat]

lemma dropBlankHead_of_forall {L : List (List α)} (h : ∀ x ∈ L, x ≠ []) : dropBlankHead L = L := by
  cases L with
  | nil => rfl
  | cons x L => simp [dropBlankHead, h x (by simp)]

/-- Blank ends are lost, and only they. -/
lemma dropBlankEnds_eq_self {L : List (List α)} :
    dropBlankHead (dropBlankLast L) = L ↔ L.head? ≠ some [] ∧ L.getLast? ≠ some [] := by
  cases L using List.reverseRecOn with
  | nil => simp [dropBlankLast, dropLastIf, dropBlankHead]
  | append_singleton L z =>
    rw [dropBlankLast_concat, List.getLast?_concat]
    by_cases hz : z = []
    · subst hz
      simp only [if_true, ne_eq, not_true_eq_false, and_false, iff_false]
      intro h
      have hlen := congrArg List.length h
      cases L with
      | nil => simp [dropBlankHead] at hlen
      | cons x L =>
        by_cases hx : x = []
        · simp [dropBlankHead, hx] at hlen
          omega
        · simp [dropBlankHead, hx] at hlen
    · cases L with
      | nil => simp [hz, dropBlankHead]
      | cons x L => by_cases hx : x = [] <;> simp [hz, hx, dropBlankHead]

end Ends

/-- A joined list is its first item, followed by the others with their separators. -/
lemma intercalate_cons_eq {a sp : α} (x : List α) (L : List (List α)) :
    [a, sp].intercalate (x :: L) = x ++ L.flatMap fun m => a :: sp :: m := by
  induction L generalizing x with
  | nil => simp
  | cons y L ih =>
    rw [List.intercalate_cons_cons, ih y]
    simp

section Items

variable [DecidableEq α] (p : α → Bool) (a c : α)

/-- The items between the separators. -/
def rawItems (v : List α) : List (List α) := (pieces a v).map (trim p)

/-- What is before a comment. -/
def uncommented (v : List α) : List α := trim p (before c v)

/-- The items before a comment. -/
def readItems (v : List α) : List (List α) := rawItems p a (uncommented p c v)

/-! ### Joined lists -/

variable {p a c} {sp : α}

lemma pieces_flatMap {L : List (List α)} (hsp : sp ≠ a) (hL : ∀ x ∈ L, a ∉ x) (x : List α) :
    pieces a (x ++ L.flatMap fun m => a :: sp :: m) = pieces a x ++ L.map (sp :: ·) := by
  induction L generalizing x with
  | nil => simp
  | cons y L ih =>
    have hy : a ∉ sp :: y := by
      simp only [List.mem_cons, not_or]
      exact ⟨Ne.symm hsp, hL y (by simp)⟩
    rw [List.flatMap_cons, List.cons_append, pieces_append_cons, ih (fun m hm => hL m (by simp [hm])),
      pieces_of_notMem hy]
    simp

/-- **The items of a joined list** are the items it was joined from, but for blank ones at the two
ends; the last one need not be trimmed. -/
theorem rawItems_joined (ha : p a = false) (hsp : p sp) {M : List (List α)} {z : List α}
    (hM : ∀ x ∈ M, a ∉ x ∧ trim p x = x) (hz : a ∉ z) :
    rawItems p a (trim p ([a, sp].intercalate (M ++ [z]))) =
      dropBlankHead (dropBlankLast (M ++ [trim p z])) := by
  have hne : sp ≠ a := fun h => by simp [h, ha] at hsp
  have hz' : a ∉ trim p z := fun h => hz (mem_of_mem_trim h)
  cases M with
  | nil =>
    rw [List.nil_append, List.intercalate_singleton, rawItems, pieces_of_notMem hz']
    by_cases h : trim p z = [] <;> simp [dropBlankLast, dropLastIf, dropBlankHead, h]
  | cons x M =>
    have hx := hM x (by simp)
    have hM' : ∀ m ∈ M, a ∉ m ∧ trim p m = m := fun m hm => hM m (by simp [hm])
    have hfront : (x ++ M.flatMap fun m => a :: sp :: m).dropWhile p =
        x ++ M.flatMap fun m => a :: sp :: m := by
      cases x with
      | nil => cases M <;> simp [ha]
      | cons y x =>
        have hy : p y = false := trim_cons_head hx.2
        simp [hy]
    have hjoin : [a, sp].intercalate (x :: (M ++ [z])) =
        (x ++ M.flatMap fun m => a :: sp :: m) ++ a :: (sp :: z) := by
      rw [intercalate_cons_eq]
      simp
    -- what is left of the last item with the blank before it
    have hlast : (pieces a ((sp :: z).rdropWhile p)).map (trim p) =
        if trim p z = [] then [] else [trim p z] := by
      have hmem : a ∉ (sp :: z).rdropWhile p := fun h => by
        rcases List.mem_cons.1 ((List.rdropWhile_prefix p _).subset h) with h | h
        · exact hne h.symm
        · exact hz h
      have hnil : (sp :: z).rdropWhile p = [] ↔ trim p z = [] := by
        rw [List.rdropWhile_eq_nil_iff, trim_eq_nil]
        simp [hsp]
      rw [pieces_of_notMem hmem]
      by_cases h : trim p z = []
      · simp [h, hnil.2 h]
      · rw [if_neg (fun h' => h (hnil.1 h')), if_neg h, List.map_singleton, trim_rdropWhile,
          show sp :: z = [sp] ++ z from rfl, trim_append_left (by simpa using hsp)]
    have hmid : (M.map (sp :: ·)).map (trim p) = M := by
      rw [List.map_map]
      refine (List.map_congr_left fun m hm => ?_).trans (List.map_id M)
      change trim p ([sp] ++ m) = m
      rw [trim_append_left (by simpa using hsp), (hM' m hm).2]
    rw [List.cons_append, hjoin, trim_split ha, hfront, rawItems, pieces_append_cons,
      pieces_flatMap hne fun m hm => (hM' m hm).1, List.map_append, List.map_append, hlast, hmid,
      pieces_of_notMem hx.1, dropBlankLast_concat]
    by_cases hz₀ : trim p z = [] <;> by_cases hx₀ : x = [] <;>
      simp [hz₀, hx₀, hx.2, dropBlankHead]

/-- **A joined list without comments.** -/
theorem readItems_joined (ha : p a = false) (hsp : p sp) (hca : c ≠ a) (hcsp : c ≠ sp)
    {L : List (List α)} (hL : ∀ x ∈ L, a ∉ x ∧ trim p x = x) (hc : ∀ x ∈ L, c ∉ x) :
    readItems p a c ([a, sp].intercalate L) = dropBlankHead (dropBlankLast L) := by
  have hmem : c ∉ [a, sp].intercalate L := by
    cases L with
    | nil => simp
    | cons x L =>
      rw [intercalate_cons_eq]
      simp only [List.mem_append, List.mem_flatMap, List.mem_cons, not_or, not_exists, not_and]
      exact ⟨hc x (by simp), fun m hm => ⟨hca, hcsp, hc m (by simp [hm])⟩⟩
  rw [readItems, uncommented, before_of_notMem hmem]
  cases L using List.reverseRecOn with
  | nil => simp [rawItems, dropBlankLast, dropLastIf, dropBlankHead]
  | append_singleton M z =>
    have hz := hL z (by simp)
    rw [rawItems_joined ha hsp (fun m hm => hL m (by simp [hm])) hz.1, hz.2]

lemma before_joined (hca : c ≠ a) (hcsp : c ≠ sp) {X : List (List α)} {y : List α}
    (hX : ∀ x ∈ X, c ∉ x) (hy : c ∈ y) (Z : List (List α)) :
    before c ([a, sp].intercalate (X ++ y :: Z)) = [a, sp].intercalate (X ++ [before c y]) := by
  induction X with
  | nil =>
    obtain ⟨y₁, y₂, rfl, hy₁⟩ := exists_first hy
    rw [List.nil_append, intercalate_cons_eq, List.append_assoc, List.cons_append,
      before_append_cons hy₁, before_append_cons hy₁]
    simp
  | cons x X ih =>
    obtain ⟨y', X', hX'⟩ : ∃ y' X', X ++ y :: Z = y' :: X' := by cases X <;> simp
    obtain ⟨y'', X'', hX''⟩ : ∃ y'' X'', X ++ [before c y] = y'' :: X'' := by cases X <;> simp
    have hfront : c ∉ x ++ [a, sp] := by
      have := hX x (by simp)
      simp [this, hca, hcsp]
    have ih := ih fun x hx => hX x (by simp [hx])
    rw [hX', hX''] at ih
    rw [List.cons_append, List.cons_append, hX', hX'', List.intercalate_cons_cons,
      List.intercalate_cons_cons, before_append_of_notMem hfront, ih]

/-- **A joined list with a comment** ends at the first item that contains the mark. -/
theorem readItems_joined_comment (ha : p a = false) (hsp : p sp) (hca : c ≠ a) (hcsp : c ≠ sp)
    {X : List (List α)} {y : List α} (hX : ∀ x ∈ X, a ∉ x ∧ trim p x = x) (hXc : ∀ x ∈ X, c ∉ x)
    (hya : a ∉ y) (hyc : c ∈ y) (Z : List (List α)) :
    readItems p a c ([a, sp].intercalate (X ++ y :: Z)) =
      dropBlankHead (dropBlankLast (X ++ [uncommented p c y])) := by
  rw [readItems, uncommented, before_joined hca hcsp hXc hyc,
    rawItems_joined ha hsp hX fun h => hya (mem_of_mem_before h)]
  rfl

/-! ### One value -/

lemma pieces_append_of_notMem {t : List α} (ht : a ∉ t) (hne : t ≠ []) (w : List α) :
    ∃ w₁ Z, pieces a (t ++ w) = (t ++ w₁) :: Z := by
  by_cases hw : a ∈ w
  · obtain ⟨w₁, w₂, rfl, hw₁⟩ := exists_first hw
    refine ⟨w₁, pieces a w₂, ?_⟩
    have htw : a ∉ t ++ w₁ := by simp [ht, hw₁]
    rw [← List.append_assoc, pieces_append_cons, pieces_of_notMem htw]
    simp [hne]
  · have htw : a ∉ t ++ w := by simp [ht, hw]
    exact ⟨w, [], by rw [pieces_of_notMem htw]; simp [hne]⟩

lemma uncommented_of_notMem {v : List α} (h : c ∉ v) : uncommented p c v = trim p v := by
  rw [uncommented, before_of_notMem h]

lemma readItems_of_notMem {v : List α} (hv : trim p v = v) (h : c ∉ v) :
    readItems p a c v = rawItems p a v := by
  rw [readItems, uncommented_of_notMem h, hv]

lemma rawItems_spec {v x : List α} (hx : x ∈ rawItems p a v) :
    a ∉ x ∧ trim p x = x ∧ ∀ b ∈ x, b ∈ v := by
  obtain ⟨y, hy, rfl⟩ := List.mem_map.1 hx
  exact ⟨fun h => notMem_of_mem_pieces hy (mem_of_mem_trim h), trim_trim y,
    fun b hb => mem_of_mem_pieces hy (mem_of_mem_trim hb)⟩

/-- **A value with a comment.**  The first reader stops in the middle of a raw item. -/
theorem readItems_comment (ha : p a = false) (hc : p c = false) (hca : c ≠ a) {v : List α}
    (hv : trim p v = v) (hmem : c ∈ v) :
    ∃ X y Z, rawItems p a v = X ++ y :: Z ∧ (∀ x ∈ X, c ∉ x) ∧ c ∈ y ∧
      readItems p a c v = dropBlankLast (X ++ [uncommented p c y]) := by
  obtain ⟨u, w, rfl, hu⟩ := exists_first hmem
  have hcut : ∀ t w₁ : List α, c ∉ t → c ∈ trim p (t ++ c :: w₁) ∧
      uncommented p c (trim p (t ++ c :: w₁)) = trim p t := fun t w₁ ht =>
    ⟨mem_trim_of_not (by simp) hc, by
      rw [uncommented, trim_before_trim hc, before_append_cons ht]⟩
  have hblank : ∀ t : List α, a ∉ t → (pieces a t).map (trim p) =
      if t = [] then [] else [trim p t] := fun t ht => by
    rw [pieces_of_notMem ht]
    by_cases h : t = [] <;> simp [h]
  have hpiece : ∀ t : List α, a ∉ t → ∃ w₁ Z, pieces a (t ++ c :: w) = (t ++ c :: w₁) :: Z := by
    intro t ht
    have htc : a ∉ t ++ [c] := by simp [ht, Ne.symm hca]
    obtain ⟨w₁, Z, h⟩ := pieces_append_of_notMem htc (by simp) w
    exact ⟨w₁, Z, by simpa using h⟩
  rw [readItems, uncommented, before_append_cons hu]
  by_cases hau : a ∈ u
  · obtain ⟨u₁, u₂, rfl, hu₂⟩ := exists_last hau
    have hcu₁ : c ∉ u₁ := fun h => hu (by simp [h])
    have hcu₂ : c ∉ u₂ := fun h => hu (by simp [h])
    obtain ⟨w₁, Z, hZ⟩ := hpiece u₂ hu₂
    have hfront : u₁.dropWhile p = u₁ := by
      cases u₁ with
      | nil => rfl
      | cons x u₁ => exact List.dropWhile_cons_of_neg (by simpa using trim_cons_head hv)
    refine ⟨(pieces a u₁).map (trim p), trim p (u₂ ++ c :: w₁), Z.map (trim p), ?_, ?_,
      (hcut u₂ w₁ hcu₂).1, ?_⟩
    · rw [rawItems, List.append_assoc, List.cons_append, pieces_append_cons, hZ]
      simp
    · intro x hx hcx
      obtain ⟨y, hy, rfl⟩ := List.mem_map.1 hx
      exact hcu₁ (mem_of_mem_pieces hy (mem_of_mem_trim hcx))
    · have hlast : a ∉ u₂.rdropWhile p := fun h => hu₂ ((List.rdropWhile_prefix p _).subset h)
      have hnil : u₂.rdropWhile p = [] ↔ trim p u₂ = [] := by
        rw [List.rdropWhile_eq_nil_iff, trim_eq_nil]
      rw [rawItems, trim_split ha, hfront, pieces_append_cons, List.map_append, hblank _ hlast,
        (hcut u₂ w₁ hcu₂).2, dropBlankLast_concat, trim_rdropWhile]
      by_cases h : trim p u₂ = []
      · simp [h, hnil.2 h]
      · rw [if_neg (fun h' => h (hnil.1 h')), if_neg h]
  · obtain ⟨w₁, Z, hZ⟩ := hpiece u hau
    refine ⟨[], trim p (u ++ c :: w₁), Z.map (trim p), ?_, by simp, (hcut u w₁ hu).1, ?_⟩
    · rw [rawItems, hZ]
      simp
    · rw [rawItems, hblank _ fun h => hau (mem_of_mem_trim h), (hcut u w₁ hu).2]
      by_cases h : trim p u = [] <;> simp [dropBlankLast, dropLastIf, h]

end Items

end FreeVPN.Lib
