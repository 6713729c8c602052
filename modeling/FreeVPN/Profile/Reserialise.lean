import FreeVPN.Profile.TwoReaders

/-!
# Handing a profile to the WireGuard extension

The app reads a profile with its own parser, prints what it read and hands the text to the tunnel
extension, which reads it with the parser of WireGuardKit.  This module compares the tunnel that the
extension gets with the one it would have got from the profile itself.

Both accept a comment after a value and a key that is repeated, and they disagree about what these
mean: the app keeps the comment as a part of the value, and of several `AllowedIPs` lines it keeps the
last.  `Reserialisable` says what a profile must not have for the detour to be harmless, and
`parse_toWgQuickConfig_iff` that nothing else goes wrong.
-/

namespace FreeVPN.Profile

open FreeVPN.Lib FreeVPN.Foundation FreeVPN.WgQuick

/-! ### Lists of items -/

/-- The items of a value as the kit reads them, before a comment. -/
abbrev kitItems (value : Text) : List Text := readItems isWhitespace ',' '#' value

/-- The values up to the first one with a comment. -/
def throughComment : List Text → List Text
  | [] => []
  | v :: vs => if '#' ∈ v then [v] else v :: throughComment vs

/-- The values after the first one with a comment. -/
def afterComment : List Text → List Text
  | [] => []
  | v :: vs => if '#' ∈ v then vs else afterComment vs

lemma through_append_after (vs : List Text) : throughComment vs ++ afterComment vs = vs := by
  induction vs with
  | nil => rfl
  | cons v vs ih =>
    by_cases hv : '#' ∈ v
    · simp [throughComment, afterComment, hv]
    · simp [throughComment, afterComment, hv, ih]

/-- The values as the kit and as the app list them: where there is a comment, the app goes on after
the item with the mark. -/
lemma listItems_cases {vs : List Text} (hvs : ∀ v ∈ vs, trimWhitespaces v = v) :
    ((∀ v ∈ vs, '#' ∉ v) ∧ vs.flatMap listItems = vs.flatMap kitItems ∧
        ∀ x ∈ vs.flatMap listItems, '#' ∉ x) ∨
      (∃ v ∈ vs, '#' ∈ v) ∧ ∃ X y Z, vs.flatMap listItems = X ++ y :: Z ∧ (∀ x ∈ X, '#' ∉ x) ∧ '#' ∈ y ∧
        (throughComment vs).flatMap kitItems = dropBlankLast (X ++ [strip y]) := by
  induction vs with
  | nil => exact Or.inl ⟨by simp, rfl, by simp⟩
  | cons v vs ih =>
    have hv := hvs v (by simp)
    by_cases hc : '#' ∈ v
    · obtain ⟨X, y, Z, hXyZ, hX, hy, hread⟩ := readItems_comment (p := isWhitespace) (a := ',')
        (by decide) (by decide) (by decide) hv hc
      refine Or.inr ⟨⟨v, by simp, hc⟩, X, y, Z ++ vs.flatMap listItems, ?_, hX, hy, ?_⟩
      · rw [List.flatMap_cons, show listItems v = X ++ y :: Z from hXyZ]
        simp
      · simpa [throughComment, hc] using hread
    · have hread : listItems v = kitItems v := (readItems_of_notMem hv hc).symm
      have hitems : ∀ x ∈ listItems v, '#' ∉ x := fun x hx h => hc ((rawItems_spec hx).2.2 _ h)
      rcases ih fun w hw => hvs w (by simp [hw]) with ⟨h₁, h₂, h₃⟩ | ⟨⟨w, hw, hwc⟩, X, y, Z, h₁, h₂, h₃, h₄⟩
      · refine Or.inl ⟨by simpa [hc] using h₁, ?_, ?_⟩
        · rw [List.flatMap_cons, List.flatMap_cons, h₂, hread]
        · intro x hx
          rw [List.flatMap_cons] at hx
          rcases List.mem_append.1 hx with hx | hx
          · exact hitems x hx
          · exact h₃ x hx
      · refine Or.inr ⟨⟨w, by simp [hw], hwc⟩, listItems v ++ X, y, Z, ?_, ?_, h₃, ?_⟩
        · rw [List.flatMap_cons, h₁, List.append_assoc]
        · intro x hx
          rcases List.mem_append.1 hx with hx | hx
          · exact hitems x hx
          · exact h₂ x hx
        · rw [throughComment, if_neg hc, List.flatMap_cons, h₄, ← hread, List.append_assoc,
            dropBlankLast, dropBlankLast, dropLastIf_concat, ← List.append_assoc, dropLastIf_concat]
          split_ifs <;> simp

/-- What the kit reads in a printed list, when the app lists `vs` and changes the items by `n`. -/
abbrev printedItems (n : Text → Text) (vs : List Text) : List Text :=
  kitItems (joined ", ".toList ((vs.flatMap listItems).map n))

/-- What a change of the items must not touch. -/
structure KeepsItems (n : Text → Text) : Prop where
  comma : ∀ {x}, ',' ∉ x → ',' ∉ n x
  trimmed : ∀ {x}, trimWhitespaces x = x → trimWhitespaces (n x) = n x
  plain : ∀ {x}, '#' ∉ x → '#' ∉ n x
  comment : ∀ {x}, '#' ∈ x → '#' ∈ n x ∧ strip (n x) = strip x

/-- **A printed list to the kit.**  Blank items at the ends are lost, and all items after the first
one with a comment. -/
lemma printedItems_cases {n : Text → Text} (hn : KeepsItems n) {vs : List Text}
    (hvs : ∀ v ∈ vs, trimWhitespaces v = v) :
    ((∀ v ∈ vs, '#' ∉ v) ∧
        printedItems n vs = dropBlankHead (dropBlankLast ((vs.flatMap kitItems).map n))) ∨
      (∃ v ∈ vs, '#' ∈ v) ∧ ∃ X z, (throughComment vs).flatMap kitItems = dropBlankLast (X ++ [z]) ∧
        printedItems n vs = dropBlankHead (dropBlankLast (X.map n ++ [z])) := by
  have hspec : ∀ x ∈ vs.flatMap listItems, ',' ∉ x ∧ trimWhitespaces x = x := fun x hx => by
    obtain ⟨v, -, hx⟩ := List.mem_flatMap.1 hx
    exact ⟨(rawItems_spec hx).1, (rawItems_spec hx).2.1⟩
  have hmap : ∀ X : List Text, (∀ x ∈ X, x ∈ vs.flatMap listItems) →
      ∀ x ∈ X.map n, ',' ∉ x ∧ trimWhitespaces x = x := fun X hX x hx => by
    obtain ⟨w, hw, rfl⟩ := List.mem_map.1 hx
    exact ⟨hn.comma (hspec w (hX w hw)).1, hn.trimmed (hspec w (hX w hw)).2⟩
  have hplain : ∀ X : List Text, (∀ x ∈ X, '#' ∉ x) → ∀ x ∈ X.map n, '#' ∉ x := fun X hX x hx => by
    obtain ⟨w, hw, rfl⟩ := List.mem_map.1 hx
    exact hn.plain (hX w hw)
  rcases listItems_cases hvs with ⟨h₁, h₂, h₃⟩ | ⟨h₁, X, y, Z, h₂, h₃, h₄, h₅⟩
  · refine Or.inl ⟨h₁, ?_⟩
    rw [← h₂]
    exact readItems_joined (by decide) (by decide) (by decide) (by decide) (hmap _ fun x hx => hx)
      (hplain _ h₃)
  · refine Or.inr ⟨h₁, X, strip y, h₅, ?_⟩
    have hX : ∀ x ∈ X, x ∈ vs.flatMap listItems := fun x hx => by rw [h₂]; simp [hx]
    have hy : y ∈ vs.flatMap listItems := by rw [h₂]; simp
    rw [printedItems, h₂, List.map_append, List.map_cons, ← (hn.comment h₄).2]
    exact readItems_joined_comment (by decide) (by decide) (by decide) (by decide) (hmap X hX)
      (hplain X h₃) (hn.comma (hspec y hy).1) (hn.comment h₄).1 _

lemma keepsItems_id : KeepsItems id := ⟨id, id, id, fun h => ⟨h, rfl⟩⟩

/-- `normalizeCIDR` adds a suffix, or nothing. -/
lemma normalizeCIDR_cases (x : Text) : normalizeCIDR x = x ∨
    ∃ t, normalizeCIDR x = x ++ '/' :: t ∧ ',' ∉ '/' :: t ∧ '#' ∉ '/' :: t ∧
      trimWhitespaces ('/' :: t) = '/' :: t := by
  unfold normalizeCIDR
  split_ifs
  · exact Or.inl rfl
  · exact Or.inr ⟨"128".toList, rfl, by decide, by decide, by decide⟩
  · exact Or.inr ⟨"32".toList, rfl, by decide, by decide, by decide⟩

lemma keepsItems_normalizeCIDR : KeepsItems normalizeCIDR where
  comma {x} hx := by
    rcases normalizeCIDR_cases x with h | ⟨t, h, ht, -, -⟩
    · rwa [h]
    · rw [h]
      exact fun hm => (List.mem_append.1 hm).elim hx ht
  trimmed {x} hx := by
    rcases normalizeCIDR_cases x with h | ⟨t, h, -, -, ht⟩
    · rwa [h]
    · rw [h]
      exact trim_append hx ht
  plain {x} hx := by
    rcases normalizeCIDR_cases x with h | ⟨t, h, -, ht, -⟩
    · rwa [h]
    · rw [h]
      exact fun hm => (List.mem_append.1 hm).elim hx ht
  comment {x} hx := by
    rcases normalizeCIDR_cases x with h | ⟨t, h, -, -, -⟩
    · rw [h]
      exact ⟨hx, rfl⟩
    · rw [h]
      refine ⟨List.mem_append_left _ hx, ?_⟩
      obtain ⟨u, v, rfl, hu⟩ := exists_first hx
      rw [strip, strip, uncommented, uncommented, List.append_assoc, List.cons_append,
        before_append_cons hu, before_append_cons hu]

lemma normalizeCIDR_ne_nil (x : Text) : normalizeCIDR x ≠ [] := by
  unfold normalizeCIDR
  split_ifs with h
  · exact List.ne_nil_of_mem h
  · simp
  · simp

/-- No item is listed after a comment. -/
def ListSurvives (vs : List Text) : Prop := ∀ v ∈ afterComment vs, kitItems v = []

lemma listSurvives_iff {vs : List Text} :
    ListSurvives vs ↔ (afterComment vs).flatMap kitItems = [] := by
  simp [ListSurvives]

lemma flatMap_through_after (vs : List Text) :
    vs.flatMap kitItems = (throughComment vs).flatMap kitItems ++ (afterComment vs).flatMap kitItems := by
  rw [← List.flatMap_append, through_append_after]

/-- What keeps the items of the `DNS` lines: no items after a comment, and no blank ones at the
ends. -/
structure DNSSurvives (vs : List Text) : Prop where
  list : ListSurvives vs
  first : (vs.flatMap kitItems).head? ≠ some []
  last : (vs.flatMap kitItems).getLast? = some [] → ∃ v ∈ vs, '#' ∈ v

lemma afterComment_eq_nil {vs : List Text} (h : ∀ v ∈ vs, '#' ∉ v) : afterComment vs = [] := by
  induction vs with
  | nil => rfl
  | cons v vs ih => rw [afterComment, if_neg (h v (by simp)), ih fun w hw => h w (by simp [hw])]

/-- **The printed search list** is what the kit would have read, if nothing is lost. -/
lemma printedItems_eq_iff {vs : List Text} (hvs : ∀ v ∈ vs, trimWhitespaces v = v) :
    printedItems id vs = vs.flatMap kitItems ↔ DNSSurvives vs := by
  rcases printedItems_cases keepsItems_id hvs with ⟨h₁, h₂⟩ | ⟨h₁, X, z, h₂, h₃⟩
  · rw [h₂, List.map_id, dropBlankEnds_eq_self]
    have hnone : ¬∃ v ∈ vs, '#' ∈ v := fun ⟨v, hv, hc⟩ => h₁ v hv hc
    constructor
    · rintro ⟨hf, hl⟩
      exact ⟨listSurvives_iff.2 (by rw [afterComment_eq_nil h₁]; rfl), hf, fun h => absurd h hl⟩
    · rintro ⟨-, hf, hl⟩
      exact ⟨hf, fun h => hnone (hl h)⟩
  · rw [h₃, List.map_id, ← h₂, flatMap_through_after vs]
    have hhead : ∀ A B : List Text, dropBlankHead A = A ++ B ↔ B = [] ∧ (A ++ B).head? ≠ some [] := by
      intro A B
      cases A with
      | nil => cases B <;> simp [dropBlankHead]
      | cons x A =>
        by_cases hx : x = []
        · have hlen : A ≠ [] :: (A ++ B) := fun h => by
            have := congrArg List.length h
            simp at this
            omega
          simp [dropBlankHead, hx, hlen]
        · simp [dropBlankHead, hx]
    rw [hhead]
    constructor
    · rintro ⟨hB, hh⟩
      exact ⟨listSurvives_iff.2 hB, by rwa [flatMap_through_after], fun _ => h₁⟩
    · rintro ⟨hl, hf, -⟩
      exact ⟨listSurvives_iff.1 hl, by rwa [flatMap_through_after] at hf⟩

/-- Blank ends and what follows a comment are all that is lost. -/
lemma printedItems_sublist {vs : List Text} (hvs : ∀ v ∈ vs, trimWhitespaces v = v) :
    (printedItems id vs).Sublist (vs.flatMap kitItems) := by
  have hhead : ∀ A : List Text, (dropBlankHead A).Sublist A := fun A => by
    cases A with
    | nil => exact List.Sublist.refl _
    | cons x A =>
      by_cases hx : x = []
      · simp [dropBlankHead, hx]
      · simp [dropBlankHead, hx]
  have hlast : ∀ A : List Text, (dropBlankLast A).Sublist A := fun A => by
    rcases dropLastIf_spec List.isEmpty A with h | ⟨x, -, h⟩
    · rw [dropBlankLast, h]
    · conv_rhs => rw [h]
      exact List.sublist_append_left ..
  rcases printedItems_cases keepsItems_id hvs with ⟨-, h₂⟩ | ⟨-, X, z, h₂, h₃⟩
  · rw [h₂, List.map_id]
    exact (hhead _).trans (hlast _)
  · rw [h₃, List.map_id, ← h₂, flatMap_through_after vs]
    exact (hhead _).trans (List.sublist_append_left ..)

/-! ### Numbers -/

/-- A printed number has no comment. -/
lemma strip_description (n : ℤ) : strip (description n) = description n := by
  have hmem : '#' ∉ description n := fun h => by
    rcases mem_description h with h | h
    · exact absurd h (by decide)
    · exact absurd h (by decide)
  rw [strip, uncommented_of_notMem hmem]
  exact trimWhitespaces_description n

/-- **A printed number.**  The app does not read a number that is followed by a comment. -/
lemma number_survives {vs : List Text} (hvs : ∀ v ∈ vs, trimWhitespaces v = v) (hlen : vs.length ≤ 1)
    {o : Option UInt16} (h : (joinedValues (vs.map strip)).map parseUInt16 = o.map some) :
    (joinedValues (((vs.getLast?.bind parseInt).map description).toList.map strip)).map parseUInt16 =
      o.map some ↔ ∀ v ∈ vs, '#' ∉ v := by
  match vs, hlen with
  | [], _ => simpa [joinedValues] using h
  | [v], _ =>
    obtain ⟨m, rfl, hm⟩ : ∃ m, o = some m ∧ parseUInt16 (strip v) = some m := by
      cases o with
      | none => simp [joinedValues] at h
      | some m => exact ⟨m, rfl, by simpa [joinedValues] using h⟩
    by_cases hc : '#' ∈ v
    · have hnone : parseInt v = none := by
        cases hv : parseInt v with
        | none => rfl
        | some n =>
          rcases mem_of_parseSigned (parseInteger_eq_some.1 hv).1 hc with h | h | h
          · exact absurd h (by decide)
          · exact absurd h (by decide)
          · exact absurd h (by decide)
      simp [joinedValues, hnone, hc]
    · have hv : strip v = v := (uncommented_of_notMem hc).trans (hvs v (by simp))
      rw [hv] at hm
      simp [joinedValues, parseInt_of_parseUInt16 hm, strip_description, parseUInt16_description, hc]

/-! ### Addresses -/

section Addresses

variable [Network] (hN : Network.Documented)

include hN

/-- The default suffix is the one that the kit assumes. -/
lemma ofText_normalizeCIDR (x : Text) :
    IPAddressRange.ofText (normalizeCIDR x) = IPAddressRange.ofText x := by
  have hcut : ∀ t : Text, '/' ∉ t → '/' ∉ x →
      cutLast '/' (x ++ '/' :: t) = some (x, t) ∧ cutLast '/' x = none := fun t ht hx =>
    ⟨cutLast_append_cons ht x, cutLast_eq_none.2 hx⟩
  have hpre : ∀ {t : Text} {n : UInt8}, parseUInt8 t = some n → t ≠ [] → '/' ∉ t → '/' ∉ x →
      (∀ a, IPAddress.ofText x = some a → min n a.maxNetworkPrefixLength = a.maxNetworkPrefixLength) →
      IPAddressRange.ofText (x ++ '/' :: t) = IPAddressRange.ofText x := by
    intro t n hn hne ht hx hmin
    obtain ⟨h₁, h₂⟩ := hcut t ht hx
    unfold IPAddressRange.ofText
    rw [h₁, h₂]
    dsimp only
    cases ha : IPAddress.ofText x with
    | none => rfl
    | some a => simp [hne, hn, hmin a ha]
  unfold normalizeCIDR
  split_ifs with hslash hcolon
  · rfl
  · refine hpre (n := 128) (by decide) (by decide) (by decide) hslash fun a _ => ?_
    cases a <;> simp only [IPAddress.maxNetworkPrefixLength] <;> decide
  · refine hpre (n := 32) (by decide) (by decide) (by decide) hslash fun a ha => ?_
    cases a with
    | ipv4 a =>
      simp only [IPAddress.maxNetworkPrefixLength]
      decide
    | ipv6 a =>
      -- an IPv6 literal has a colon
      refine absurd ?_ hcolon
      unfold IPAddress.ofText at ha
      cases h4 : Network.ipv4 x with
      | some b => simp [h4] at ha
      | none =>
        cases h6 : Network.ipv6 x with
        | none => simp [h4, h6] at ha
        | some b => exact hN.ipv6_colon h6

lemma map_ofText_normalizeCIDR (xs : List Text) :
    (xs.map normalizeCIDR).map IPAddressRange.ofText = xs.map IPAddressRange.ofText := by
  rw [List.map_map]
  exact List.map_congr_left fun x _ => ofText_normalizeCIDR hN x

/-- **A printed list of addresses** is read as the values up to the first comment. -/
lemma reads_printedItems {vs : List Text} (hvs : ∀ v ∈ vs, trimWhitespaces v = v)
    {rs : List IPAddressRange} :
    Reads IPAddressRange.ofText (printedItems normalizeCIDR vs) rs ↔
      Reads IPAddressRange.ofText ((throughComment vs).flatMap kitItems) rs := by
  have hne : ∀ X : List Text, ∀ x ∈ X.map normalizeCIDR, x ≠ [] := fun X x hx => by
    obtain ⟨w, -, rfl⟩ := List.mem_map.1 hx
    exact normalizeCIDR_ne_nil w
  have hlast : ∀ X : List Text, dropBlankLast (X.map normalizeCIDR) = X.map normalizeCIDR := by
    intro X
    cases X using List.reverseRecOn with
    | nil => rfl
    | append_singleton X x =>
      rw [List.map_append, List.map_singleton, dropBlankLast_concat, if_neg (normalizeCIDR_ne_nil x)]
  rcases printedItems_cases keepsItems_normalizeCIDR hvs with ⟨h₁, h₂⟩ | ⟨-, X, z, h₂, h₃⟩
  · have hall : throughComment vs = vs := by
      clear h₂ hvs
      induction vs with
      | nil => rfl
      | cons v vs ih =>
        rw [throughComment, if_neg (h₁ v (by simp)), ih fun w hw => h₁ w (by simp [hw])]
    rw [h₂, hlast, dropBlankHead_of_forall (hne _), hall, reads_iff, reads_iff,
      map_ofText_normalizeCIDR hN]
  · rw [h₃, h₂, dropBlankLast_concat, dropBlankLast_concat]
    split_ifs with hz
    · rw [dropBlankHead_of_forall (hne _), reads_iff, reads_iff, map_ofText_normalizeCIDR hN]
    · have hmem : ∀ x ∈ X.map normalizeCIDR ++ [z], x ≠ [] := fun x hx => by
        rcases List.mem_append.1 hx with hx | hx
        · exact hne X x hx
        · rwa [List.mem_singleton.1 hx]
      -- the item before the comment is read without a suffix
      rw [dropBlankHead_of_forall hmem, reads_iff, reads_iff, List.map_append,
        map_ofText_normalizeCIDR hN, ← List.map_append]

/-- **The printed addresses** are what the kit would have read, if no item follows a comment. -/
lemma reads_printedItems_iff {vs : List Text} (hvs : ∀ v ∈ vs, trimWhitespaces v = v)
    {rs : List IPAddressRange} (h : Reads IPAddressRange.ofText (vs.flatMap kitItems) rs) :
    Reads IPAddressRange.ofText (printedItems normalizeCIDR vs) rs ↔ ListSurvives vs := by
  rw [reads_printedItems hN hvs, listSurvives_iff]
  rw [flatMap_through_after] at h
  constructor
  · intro h'
    have hlen := h.length_eq.trans h'.length_eq.symm
    rw [List.length_append] at hlen
    exact List.eq_nil_of_length_eq_zero (by omega)
  · intro h'
    rwa [h', List.append_nil] at h

end Addresses

/-! ### Sections -/

lemma splitToArray_strip {v : Text} (hv : OneLine v) : splitToArray (strip v) = kitItems v := by
  refine List.map_congr_left fun x hx => trimWhitespacesAndNewlines_eq fun c hc => hv c ?_
  exact mem_of_mem_before (mem_of_mem_trim (mem_of_mem_pieces hx hc))

lemma items_map_strip {vs : List Text} (hvs : ∀ v ∈ vs, OneLine v) :
    items (joinedValues (vs.map strip)) = vs.flatMap kitItems := by
  rw [items_joinedValues, List.flatMap_map]
  exact List.flatMap_congr fun v hv => splitToArray_strip (hvs v hv)

/-- The items of a printed list. -/
lemma items_listEntry {ws : List Text} (hws : ∀ w ∈ ws, OneLine w) :
    items (joinedValues (if ws = [] then [] else [strip (joined ", ".toList ws)])) =
      kitItems (joined ", ".toList ws) := by
  have hsep : OneLine ", ".toList := by
    decide +kernel
  split_ifs with h
  · subst h
    rfl
  · rw [items_joinedValues, List.flatMap_singleton, splitToArray_strip (oneLine_joined hsep hws)]

/-- What the kit reads in the printed `Address` line. -/
lemma items_address_entries {es : List Entry} (hone : ∀ k, ∀ v ∈ values k es, OneLine v) (key : Text) :
    items (joinedValues (values "address".toList
        ((InterfaceVars.ofEntries es).interfaceConfig key).entries)) =
      printedItems normalizeCIDR (values "address".toList es) := by
  obtain ⟨-, haddress, -⟩ := ((InterfaceVars.ofEntries es).interfaceConfig key).values_entries
  rw [haddress, items_listEntry]
  · rw [printedItems, List.map_flatMap]
    rfl
  · intro w hw
    obtain ⟨v, hv, hw⟩ := List.mem_flatMap.1 hw
    obtain ⟨x, hx, rfl⟩ := List.mem_map.1 hw
    exact ((hone _ v hv).listItems x hx).normalizeCIDR

/-- What the kit reads in the printed `AllowedIPs` line: the items of the last line of the profile. -/
lemma items_allowedIPs_entries {es : List Entry} (hone : ∀ k, ∀ v ∈ values k es, OneLine v)
    {p : PeerConfig} (hp : peerOf es = some p) :
    items (joinedValues (values "allowedips".toList p.entries)) =
      printedItems normalizeCIDR (values "allowedips".toList es).getLast?.toList := by
  obtain ⟨-, -, hallowed, -⟩ := p.values_entries
  have hips : p.allowedIPs = ((values "allowedips".toList es).getLast?.toList.flatMap listItems).map
      normalizeCIDR := by
    rw [(peerOf_eq_some.1 hp).allowedIPs]
    cases (values "allowedips".toList es).getLast? <;> simp
  rw [hallowed, items_listEntry, hips]
  intro w hw
  rw [hips] at hw
  obtain ⟨x, hx, rfl⟩ := List.mem_map.1 hw
  obtain ⟨v, hv, hx⟩ := List.mem_flatMap.1 hx
  exact ((hone _ v (List.mem_of_getLast? (by simpa using hv))).listItems x hx).normalizeCIDR

lemma eq_of_getLast? {vs : List Text} {v : Text} (hlen : (vs.map strip).length ≤ 1)
    (h : vs.getLast? = some v) : vs = [v] := by
  match vs with
  | [] => simp at h
  | [w] => simpa using h
  | w :: x :: vs => simp at hlen

lemma values_of_filterMap_eq_nil {es : List Entry} (h : es.filterMap kitEntry = []) {key : Text}
    (hkey : '#' ∉ key) : values key es = [] := by
  have hval := values_filterMap_kitEntry hkey es
  rw [h] at hval
  simpa using hval.symm

lemma peerOf_eq_none {es : List Entry} (h : es.filterMap kitEntry = []) : peerOf es = none := by
  rw [peerOf_eq_none_iff]
  exact values_of_filterMap_eq_nil h (by decide)

/-- The `[Peer]` sections of the app: those it shares with the kit, and perhaps one more without
entries. -/
lemma exists_peer_bodies (s : Text) : ∃ bs tail, bodies .peer (profileSections s) = bs ++ tail ∧
    bs.map (List.filterMap kitEntry) = bodies .peer (commonSections s) ∧
    ∀ es ∈ tail, es.filterMap kitEntry = [] := by
  rcases bodies_profileSections s .peer with h | h
  · exact ⟨_, [], (List.append_nil _).symm, h, by simp⟩
  · obtain ⟨bs, tail, hb, hbs, htail⟩ := List.map_eq_append_iff.1 h
    refine ⟨bs, tail, hb, hbs, fun es hes => ?_⟩
    obtain ⟨e, rfl, he⟩ := List.map_eq_singleton_iff.1 htail
    rwa [List.mem_singleton.1 hes]

lemma length_peerConfigs_le (s : Text) :
    (peerConfigs s).length ≤ (bodies .peer (commonSections s)).length := by
  obtain ⟨bs, tail, hb, hbs, htail⟩ := exists_peer_bodies s
  have hnone : tail.filterMap peerOf = [] :=
    List.filterMap_eq_nil_iff.2 fun es hes => peerOf_eq_none (htail es hes)
  rw [peerConfigs, hb, List.filterMap_append, hnone, List.append_nil, ← hbs, List.length_map]
  exact List.length_filterMap_le ..

lemma filterMap_interfaceEntries (s : Text) :
    (interfaceEntries s).filterMap kitEntry = (bodies .interface (commonSections s)).flatten := by
  have hflat : (interfaceEntries s).filterMap kitEntry =
      ((bodies .interface (profileSections s)).map (List.filterMap kitEntry)).flatten := by
    rw [interfaceEntries, List.filterMap_flatten]
  rw [hflat]
  rcases bodies_profileSections s .interface with h | h
  · rw [h]
  · rw [h]
    simp

section Sections

variable [Network]

lemma readInterface_iff {es : List Entry} {i : InterfaceConfiguration} :
    wireGuardKit.readInterface es = .ok i ↔
      (∀ e ∈ es, lowercased e.1 ∈ standardInterfaceKeys) ∧
      (∀ k ∈ standardInterfaceKeys, k ∉ keysWithMultipleEntriesAllowed → (values k es).length ≤ 1) ∧
      InterfaceFields es i := by
  rw [wireGuardKit.readInterface_eq_ok, ← collateInterface_attributesOf wireGuardKit (fun _ h => h)]
  simp [wireGuardKit]

lemma readPeer_iff {es : List Entry} {p : PeerConfiguration} :
    wireGuardKit.readPeer es = .ok p ↔
      (∀ e ∈ es, lowercased e.1 ∈ peerSectionKeys) ∧
      (∀ k ∈ peerSectionKeys, k ∉ keysWithMultipleEntriesAllowed → (values k es).length ≤ 1) ∧
      PeerFields es p := by
  rw [wireGuardKit.readPeer_eq_ok, ← collatePeer_attributesOf wireGuardKit]
  simp [wireGuardKit]

/-- What an `[Interface]` section must not have. -/
structure InterfaceSurvives (es : List Entry) : Prop where
  mtu : ∀ v ∈ values "mtu".toList es, '#' ∉ v
  listenPort : ∀ v ∈ values "listenport".toList es, '#' ∉ v
  address : ListSurvives (values "address".toList es)
  dns : DNSSurvives (values "dns".toList es)

/-- What a `[Peer]` section must not have. -/
structure PeerSurvives (es : List Entry) : Prop where
  persistentKeepalive : ∀ v ∈ values "persistentkeepalive".toList es, '#' ∉ v
  /-- Of several `AllowedIPs` lines the app keeps the last. -/
  allowedIPs : ∀ v ∈ (values "allowedips".toList es).dropLast, kitItems v = []

/-- The `DNS` lines are read as servers and search domains; neither loses one without the other. -/
lemma dns_survives {vs : List Text} (hvs : ∀ v ∈ vs, trimWhitespaces v = v) :
    (printedItems id vs).filterMap DNSServer.ofText = (vs.flatMap kitItems).filterMap DNSServer.ofText ∧
      ((printedItems id vs).filter fun s => (DNSServer.ofText s).isNone) =
        ((vs.flatMap kitItems).filter fun s => (DNSServer.ofText s).isNone) ↔ DNSSurvives vs := by
  rw [← printedItems_eq_iff hvs]
  have hcount : ∀ xs : List Text, (xs.filterMap DNSServer.ofText).length +
      (xs.filter fun s => (DNSServer.ofText s).isNone).length = xs.length := by
    intro xs
    induction xs with
    | nil => rfl
    | cons x xs ih =>
      cases hx : DNSServer.ofText x <;> simp [hx] <;> omega
  constructor
  · rintro ⟨h₁, h₂⟩
    refine (printedItems_sublist hvs).eq_of_length ?_
    have hlen := hcount (printedItems id vs)
    rw [h₁, h₂, hcount] at hlen
    exact hlen.symm
  · intro h
    rw [h]
    exact ⟨rfl, rfl⟩

variable (hN : Network.Documented)

include hN

/-- **The printed `[Interface]` section.** -/
theorem interface_survives {es : List Entry} {key : Text}
    (hvs : ∀ k, ∀ v ∈ values k es, OneLine v ∧ trimWhitespaces v = v)
    (hkey : (values "privatekey".toList es).getLast? = some key) {i : InterfaceConfiguration}
    (hi : wireGuardKit.readInterface (es.filterMap kitEntry) = .ok i) :
    wireGuardKit.readInterface ((InterfaceVars.ofEntries es).interfaceConfig key).entries = .ok i ↔
      InterfaceSurvives es := by
  have hval : ∀ k, '#' ∉ k → values k (es.filterMap kitEntry) = (values k es).map strip :=
    fun k hk => values_filterMap_kitEntry hk es
  have hone : ∀ k, ∀ v ∈ values k es, OneLine v := fun k v hv => (hvs k v hv).1
  have htrim : ∀ k, ∀ v ∈ values k es, trimWhitespaces v = v := fun k v hv => (hvs k v hv).2
  obtain ⟨-, hlen, hf⟩ := readInterface_iff.1 hi
  have hlen' : ∀ k ∈ standardInterfaceKeys, k ∉ keysWithMultipleEntriesAllowed → '#' ∉ k →
      ((values k es).map strip).length ≤ 1 := fun k hk hm hc => hval k hc ▸ hlen k hk hm
  generalize hc : (InterfaceVars.ofEntries es).interfaceConfig key = c
  obtain ⟨hv₁, hv₂, hv₃, hv₄, hv₅⟩ := c.values_entries
  obtain ⟨hf₁, hf₂, hf₃, hf₄, hf₅, hf₆⟩ := hf
  rw [hval _ (by decide)] at hf₁ hf₂ hf₄
  rw [hval _ (by decide), items_map_strip (hone _)] at hf₃ hf₅ hf₆
  have hpk : values "privatekey".toList es = [key] :=
    eq_of_getLast? (hlen' _ (by decide) (by decide) (by decide)) hkey
  -- what is printed for each of the keys
  have haddress : items (joinedValues (values "address".toList c.entries)) =
      printedItems normalizeCIDR (values "address".toList es) := hc ▸ items_address_entries hone key
  have hdns : items (joinedValues (values "dns".toList c.entries)) =
      printedItems id (values "dns".toList es) := by
    rw [hv₃, items_listEntry]
    · rw [← hc, printedItems, List.map_id]
      rfl
    · rw [← hc]
      intro w hw
      obtain ⟨v, hv, hw⟩ := List.mem_flatMap.1 hw
      exact (hone _ v hv).listItems w hw
  have hmtu := number_survives (htrim "mtu".toList)
    (by simpa using hlen' "mtu".toList (by decide) (by decide) (by decide)) hf₄
  have hport := number_survives (htrim "listenport".toList)
    (by simpa using hlen' "listenport".toList (by decide) (by decide) (by decide)) hf₂
  rw [readInterface_iff]
  constructor
  · rintro ⟨-, -, hc₁, hc₂, hc₃, hc₄, hc₅, hc₆⟩
    rw [hdns] at hc₅ hc₆
    refine ⟨hmtu.1 ?_, hport.1 ?_, (reads_printedItems_iff hN (htrim _) hf₃).1 (haddress ▸ hc₃),
      (dns_survives (htrim _)).1 ⟨hc₅.trans hf₅.symm, hc₆.trans hf₆.symm⟩⟩
    · rw [hv₄, ← hc] at hc₄
      exact hc₄
    · rw [hv₅, ← hc] at hc₂
      exact hc₂
  · rintro ⟨h₁, h₂, h₃, h₄⟩
    obtain ⟨h₅, h₆⟩ := (dns_survives (htrim _)).2 h₄
    refine ⟨c.recognized_entries, fun k hk _ => c.length_values_entries k hk, ?_, ?_, ?_, ?_, ?_, ?_⟩
    · rw [hv₁, ← hc]
      rw [hpk] at hf₁
      exact hf₁
    · rw [hv₅, ← hc]
      exact hport.2 h₂
    · rw [haddress]
      exact (reads_printedItems_iff hN (htrim _) hf₃).2 h₃
    · rw [hv₄, ← hc]
      exact hmtu.2 h₁
    · rw [hdns, h₅, hf₅]
    · rw [hdns, h₆, hf₆]

/-- The printed `AllowedIPs` are those of the last line. -/
lemma reads_last_iff {vs : List Text} (hvs : ∀ v ∈ vs, trimWhitespaces v = v)
    {rs : List IPAddressRange} (h : Reads IPAddressRange.ofText (vs.flatMap kitItems) rs) :
    Reads IPAddressRange.ofText (printedItems normalizeCIDR vs.getLast?.toList) rs ↔
      ∀ v ∈ vs.dropLast, kitItems v = [] := by
  have hthrough : throughComment vs.getLast?.toList = vs.getLast?.toList := by
    cases vs.getLast? with
    | none => rfl
    | some v => simp [throughComment]
  rw [reads_printedItems hN fun v hv => hvs v (List.mem_of_getLast? (by simpa using hv)), hthrough]
  cases vs using List.reverseRecOn with
  | nil => simpa using h
  | append_singleton vs v =>
    rw [List.flatMap_append, List.flatMap_singleton] at h
    simp only [List.getLast?_concat, Option.toList_some, List.flatMap_singleton,
      List.dropLast_concat]
    rw [← List.flatMap_eq_nil_iff]
    constructor
    · intro h'
      have hlen := h.length_eq.trans h'.length_eq.symm
      rw [List.length_append] at hlen
      exact List.eq_nil_of_length_eq_zero (by omega)
    · intro h'
      rwa [h', List.nil_append] at h

/-- **The printed `[Peer]` section.** -/
theorem peer_survives {es : List Entry} {p : PeerConfig}
    (hvs : ∀ k, ∀ v ∈ values k es, OneLine v ∧ trimWhitespaces v = v) (hp : peerOf es = some p)
    {P : PeerConfiguration} (hP : wireGuardKit.readPeer (es.filterMap kitEntry) = .ok P) :
    wireGuardKit.readPeer p.entries = .ok P ↔ PeerSurvives es := by
  have hval : ∀ k, '#' ∉ k → values k (es.filterMap kitEntry) = (values k es).map strip :=
    fun k hk => values_filterMap_kitEntry hk es
  have hone : ∀ k, ∀ v ∈ values k es, OneLine v := fun k v hv => (hvs k v hv).1
  have htrim : ∀ k, ∀ v ∈ values k es, trimWhitespaces v = v := fun k v hv => (hvs k v hv).2
  obtain ⟨-, hlen, hf⟩ := readPeer_iff.1 hP
  have hlen' : ∀ k ∈ peerSectionKeys, k ∉ keysWithMultipleEntriesAllowed → '#' ∉ k →
      ((values k es).map strip).length ≤ 1 := fun k hk hm hc => hval k hc ▸ hlen k hk hm
  obtain ⟨hv₁, hv₂, hv₃, hv₄, hv₅⟩ := p.values_entries
  obtain ⟨hf₁, hf₂, hf₃, hf₄, hf₅⟩ := hf
  rw [hval _ (by decide)] at hf₁ hf₂ hf₄ hf₅
  rw [hval _ (by decide), items_map_strip (hone _)] at hf₃
  obtain ⟨hlast, hpre, hend, -, hnum⟩ := peerOf_eq_some.1 hp
  have hkey : values "publickey".toList es = [p.publicKey] :=
    eq_of_getLast? (hlen' _ (by decide) (by decide) (by decide)) hlast
  -- what is printed for each of the keys
  have hsingle : ∀ k ∈ peerSectionKeys, k ∉ keysWithMultipleEntriesAllowed → '#' ∉ k →
      (values k es).getLast?.toList = values k es := by
    intro k hk hm hc
    have hle := hlen' k hk hm hc
    generalize values k es = vs at hle
    match vs with
    | [] => rfl
    | [v] => rfl
    | v :: w :: vs => simp at hle
  have hallowed := items_allowedIPs_entries hone hp
  have hkeepalive := number_survives (htrim "persistentkeepalive".toList)
    (by simpa using hlen' "persistentkeepalive".toList (by decide) (by decide) (by decide)) hf₅
  rw [readPeer_iff]
  constructor
  · rintro ⟨-, -, hc₁, hc₂, hc₃, hc₄, hc₅⟩
    rw [hv₅, hnum] at hc₅
    exact ⟨hkeepalive.1 hc₅, (reads_last_iff hN (htrim _) hf₃).1 (hallowed ▸ hc₃)⟩
  · rintro ⟨h₁, h₂⟩
    refine ⟨p.recognized_entries, fun k hk _ => p.length_values_entries k hk, ?_, ?_, ?_, ?_, ?_⟩
    · rw [hv₁]
      rwa [hkey] at hf₁
    · rw [hv₂, hpre, hsingle _ (by decide) (by decide) (by decide)]
      exact hf₂
    · rw [hallowed]
      exact (reads_last_iff hN (htrim _) hf₃).2 h₂
    · rw [hv₄, hend, hsingle _ (by decide) (by decide) (by decide)]
      exact hf₄
    · rw [hv₅, hnum]
      exact hkeepalive.2 h₁

omit hN

/-- A section that the kit reads as a peer has a public key to the app. -/
lemma exists_peerOf {es : List Entry} {P : PeerConfiguration}
    (hP : wireGuardKit.readPeer (es.filterMap kitEntry) = .ok P) : ∃ p, peerOf es = some p := by
  obtain ⟨-, -, hf⟩ := readPeer_iff.1 hP
  have hkey := hf.publicKey
  rw [values_filterMap_kitEntry (by decide)] at hkey
  rw [← Option.isSome_iff_exists, Option.isSome_iff_ne_none, ne_eq, peerOf_eq_none_iff]
  intro hnil
  simp [hnil, joinedValues, -String.reduceToList] at hkey

include hN in
/-- **The printed `[Peer]` sections.** -/
lemma peers_survive {bs : List (List Entry)}
    (hvs : ∀ es ∈ bs, ∀ k, ∀ v ∈ values k es, OneLine v ∧ trimWhitespaces v = v)
    {Ps : List PeerConfiguration}
    (h : List.Forall₂ (fun es P => wireGuardKit.readPeer (List.filterMap kitEntry es) = .ok P) bs Ps) :
    List.Forall₂ (fun p P => wireGuardKit.readPeer (PeerConfig.entries p) = .ok P)
      (bs.filterMap peerOf) Ps ↔ ∀ es ∈ bs, PeerSurvives es := by
  induction h with
  | nil => simp
  | @cons es P bs Ps hP h ih =>
    obtain ⟨p, hp⟩ := exists_peerOf hP
    rw [List.filterMap_cons_some hp, List.forall₂_cons, List.forall_mem_cons,
      ih fun es' h' => hvs es' (by simp [h']), peer_survives hN (hvs es (by simp)) hp hP]

end Sections

/-! ### The detour -/

/-- What a profile must not have, for the tunnel to be the same when the app has read and printed
it. -/
structure Reserialisable (s : Text) : Prop where
  /-- The app does not take a line with a comment for a section header. -/
  headers : ∀ line ∈ openLines s, readLine line = some (.header .peer) → '#' ∉ line
  interface : InterfaceSurvives (interfaceEntries s)
  peers : ∀ es ∈ bodies .peer (profileSections s), PeerSurvives es

/-- **When the detour is harmless.**  The printed text makes the tunnel that the profile makes, if and
only if the profile has none of what `Reserialisable` rules out.  Both texts are plain, so that it is the same to
look for scalars and for `Character`s. -/
theorem parse_toWgQuickConfig_iff [Unicode] [Network] (hN : Network.Documented) {s : Text} {c : WireGuardConfig}
    {T : TunnelConfiguration InterfaceConfiguration} (_hs : Plain s) (_hprinted : Plain c.toWgQuickConfig)
    (hc : WireGuardConfig.parse s = .ok c) (hT : wireGuardKit.parse s = .ok T) :
    wireGuardKit.parse c.toWgQuickConfig = .ok T ↔ Reserialisable s := by
  obtain ⟨hkey, hinterface, hpeers, -⟩ := WireGuardConfig.parse_eq_ok.1 hc
  obtain ⟨ls, hls, hcol⟩ := (wireGuardKit.parse_eq_ok).1 hT
  obtain ⟨es, hes, hi⟩ := hcol.interface
  rw [parse_toWgQuickConfig wireGuardKit (WireGuardConfig.onOneLine_of_parse hc)]
  -- the app has read a private key, so it has seen the header of the `[Interface]` section
  have hheader : ∀ line ∈ openLines s, readLine line = some (.header .interface) → '#' ∉ line := by
    intro line hline hread hmark
    have hlt := (length_bodies_common hls .interface).2 ⟨line, hline, hread, hmark⟩
    have hnil : bodies .interface (commonSections s) = [] := by
      rw [hes] at hlt
      simpa using hlt
    have hfil := filterMap_interfaceEntries s
    rw [hnil, List.flatten_nil] at hfil
    rw [values_of_filterMap_eq_nil hfil (by decide)] at hkey
    cases hkey
  by_cases hpeer : ∀ line ∈ openLines s, readLine line = some (.header .peer) → '#' ∉ line
  · have hcommon : commonSections s = (sections (dropLastHeader ls)).2 :=
      commonSections_eq hls fun line hline h hread => by
        cases h
        · exact hheader line hline hread
        · exact hpeer line hline hread
    have hfil : (interfaceEntries s).filterMap kitEntry = es := by
      rw [filterMap_interfaceEntries, hcommon, hes]
      simp
    rw [hinterface, hpeers, interface_survives hN (fun k v hv => interface_value_spec hv) hkey
      (hfil.symm ▸ hi)]
    obtain ⟨bs, tail, hb, hbs, htail⟩ := exists_peer_bodies s
    have hnone : tail.filterMap peerOf = [] :=
      List.filterMap_eq_nil_iff.2 fun es hes => peerOf_eq_none (htail es hes)
    have hps := hcol.peers
    rw [← hcommon, ← hbs, List.forall₂_map_left_iff] at hps
    have hsurvive : ∀ es ∈ tail, PeerSurvives es := fun es hes => by
      have hv : ∀ k : Text, '#' ∉ k → values k es = [] := fun k hk =>
        values_of_filterMap_eq_nil (htail es hes) hk
      exact ⟨by rw [hv _ (by decide)]; simp, by rw [hv _ (by decide)]; simp⟩
    rw [peerConfigs, hb, List.filterMap_append, hnone, List.append_nil,
      peers_survive hN (fun es hes k v hv => value_spec (hb ▸ List.mem_append_left _ hes) hv) hps]
    constructor
    · rintro ⟨h₁, h₂⟩
      refine ⟨hpeer, h₁, ?_⟩
      rw [hb]
      exact fun es hes => (List.mem_append.1 hes).elim (h₂ es) (hsurvive es)
    · rintro ⟨-, h₁, h₂⟩
      refine ⟨h₁, fun es hes => h₂ es ?_⟩
      rw [hb]
      exact List.mem_append_left _ hes
  · -- the kit has more peers than the app
    refine iff_of_false ?_ fun h => hpeer h.headers
    rintro ⟨-, hps⟩
    push Not at hpeer
    have hlt := (length_bodies_common hls .peer).2 hpeer
    have h₁ := hps.length_eq
    have h₂ := hcol.peers.length_eq
    have h₃ := length_peerConfigs_le s
    rw [hpeers] at h₁
    omega

/-! ### Profiles for which it is not -/

section Examples

open scoped FreeVPN.WgQuick.Dotted

/-- A profile with two `AllowedIPs` lines. -/
def twoAllowedIPs : Text :=
  ("[Interface]\nPrivateKey=AAAAAAAAAAAAAAAAAAAAAAAAAAAAAAAAAAAAAAAAAAA=\n" ++
    "[Peer]\nPublicKey=AAAAAAAAAAAAAAAAAAAAAAAAAAAAAAAAAAAAAAAAAAA=\n" ++
    "AllowedIPs=10.0.0.0/8\nAllowedIPs=10.1.0.0/16").toList

/-- The same profile with the two lines in one. -/
def oneAllowedIPs : Text :=
  ("[Interface]\nPrivateKey=AAAAAAAAAAAAAAAAAAAAAAAAAAAAAAAAAAAAAAAAAAA=\n" ++
    "[Peer]\nPublicKey=AAAAAAAAAAAAAAAAAAAAAAAAAAAAAAAAAAAAAAAAAAA=\n" ++
    "AllowedIPs=10.0.0.0/8,10.1.0.0/16").toList

/-- The numbers of allowed ranges that the kit finds in a text. -/
def allowedRanges (s : Text) : Option (List ℕ) :=
  (wireGuardKit.parse s).toOption.map fun T => T.peers.map fun p => p.allowedIPs.length

lemma allowedRanges_eq_some {s : Text} {ns : List ℕ} :
    allowedRanges s = some ns ↔
      ∃ T, wireGuardKit.parse s = .ok T ∧ T.peers.map (fun p => p.allowedIPs.length) = ns := by
  unfold allowedRanges
  cases wireGuardKit.parse s <;> simp [Except.toOption]

/-- Both parsers accept the profile, and of the two ranges the printed text has one. -/
theorem parse_toWgQuickConfig_twoAllowedIPs :
    ¬∀ (s : Text) (c : WireGuardConfig) (T : TunnelConfiguration InterfaceConfiguration),
      WireGuardConfig.parse s = .ok c → wireGuardKit.parse s = .ok T →
        wireGuardKit.parse c.toWgQuickConfig = .ok T := by
  intro h
  have htext : twoAllowedIPs = _ := toList_append_ofList (toList_append_ofList String.toList_ofList _) _
  have hranges : allowedRanges twoAllowedIPs = some [2] := by
    rw [htext]
    decide +kernel
  have hprinted : (WireGuardConfig.parse twoAllowedIPs).toOption.bind
      (fun c => allowedRanges c.toWgQuickConfig) = some [1] := by
    rw [htext]
    decide +kernel
  obtain ⟨T, hT, hT₂⟩ := allowedRanges_eq_some.1 hranges
  obtain ⟨c, hc, hc₁⟩ := Option.bind_eq_some_iff.1 hprinted
  obtain ⟨T', hT', hT₁⟩ := allowedRanges_eq_some.1 hc₁
  obtain rfl : T = T' := Except.ok.inj ((h _ c T (toOption_eq_some.1 hc) hT).symm.trans hT')
  exact absurd (hT₂.symm.trans hT₁) (by decide)

theorem parse_toWgQuickConfig_oneAllowedIPs :
    ∃ c T, WireGuardConfig.parse oneAllowedIPs = .ok c ∧ wireGuardKit.parse oneAllowedIPs = .ok T ∧
      (wireGuardKit.parse c.toWgQuickConfig = .ok T ↔ Reserialisable oneAllowedIPs) := by
  have htext : oneAllowedIPs = _ := toList_append_ofList (toList_append_ofList String.toList_ofList _) _
  have haccepted : (WireGuardConfig.parse oneAllowedIPs).isOk = true ∧
      (wireGuardKit.parse oneAllowedIPs).isOk = true := by
    rw [htext]
    decide +kernel
  obtain ⟨c, hc⟩ := exists_of_isOk haccepted.1
  obtain ⟨T, hT⟩ := exists_of_isOk haccepted.2
  exact ⟨c, T, hc, hT, parse_toWgQuickConfig_iff Dotted.documented (plain _) (plain _) hc hT⟩

end Examples

end FreeVPN.Profile
