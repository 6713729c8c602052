import FreeVPN.AmneziaWG.Configuration
import FreeVPN.Profile.VPNProtocol

/-!
# Line endings

A text that is submitted in a form comes with a carriage return before every line feed.  All that reads
profiles takes their lines apart, and what is between a carriage return and the line feed behind it is an
empty line.

* `lines_crlf` — the non-empty lines are the same;
* `sameReading_crlf` — and so is what the app and the kit make of the text.
-/

namespace FreeVPN.Profile

open FreeVPN.Lib FreeVPN.Foundation FreeVPN.WgQuick FreeVPN.AmneziaWG

/-- Every line feed becomes a carriage return and a line feed. -/
def crlf (s : Text) : Text := s.flatMap fun c => if c = '\n' then ['\r', '\n'] else [c]

/-! ### Lines -/

/-- **The lines** between the line breaks are the same. -/
lemma lines_crlf (s : Text) : lines (crlf s) = lines s := by
  have happend : ∀ u : Text, lines (u ++ crlf s) = lines (u ++ s) := by
    induction s with
    | nil => exact fun u => rfl
    | cons c s ih =>
      intro u
      by_cases hc : c = '\n'
      · subst hc
        have hcons : crlf ('\n' :: s) = '\r' :: '\n' :: crlf s := rfl
        have hnil : lines ('\n' :: crlf s) = lines (crlf s) := lines_append_newline rfl [] _
        rw [hcons, lines_append_newline rfl, hnil, lines_append_newline rfl]
        exact congrArg (lines u ++ ·) (ih [])
      · have hcons : crlf (c :: s) = c :: crlf s := by simp [crlf, hc]
        rw [hcons, List.append_cons, List.append_cons u c s]
        exact ih (u ++ [c])
  exact happend []

/-- A part of a text without line breaks is a part of a line. -/
lemma contains_eq_any_lines {t : Text} (hne : t ≠ []) (ht : (t.all fun c => !isNewline c) = true) (s : Text) :
    contains s t = (lines s).any fun l => contains l t := by
  have hfree : ∀ c ∈ t, isNewline c = false := fun c hc => by simpa using List.all_eq_true.1 ht c hc
  rw [Bool.eq_iff_iff, contains_eq_true, List.any_eq_true]
  constructor
  · intro h
    obtain ⟨l, hl, hin⟩ := exists_infix_of_mem_splitOnP hfree h
    refine ⟨l, List.mem_filter.2 ⟨hl, decide_eq_true ?_⟩, contains_eq_true.2 hin⟩
    rintro rfl
    exact hne (List.infix_nil.1 hin)
  · rintro ⟨l, hl, hin⟩
    exact (contains_eq_true.1 hin).trans (infix_of_mem_splitOnP (List.mem_filter.1 hl).1)

lemma contains_crlf {t : Text} (hne : t ≠ []) (ht : (t.all fun c => !isNewline c) = true) (s : Text) :
    contains (crlf s) t = contains s t := by
  rw [contains_eq_any_lines hne ht, lines_crlf, ← contains_eq_any_lines hne ht]

/-- A test that no empty line passes. -/
lemma any_components {f : Text → Bool} (hf : f [] = false) (s : Text) :
    (components s).any f = (lines s).any f := by
  rw [lines, List.any_filter]
  congr 1
  funext l
  by_cases hl : l = []
  · simp [hl, hf]
  · simp [hl]

lemma any_components_crlf {f : Text → Bool} (hf : f [] = false) (s : Text) :
    (components (crlf s)).any f = (components s).any f := by
  rw [any_components hf, lines_crlf, ← any_components hf]

/-- A search that finds nothing in an empty line. -/
lemma findSome?_components {α : Type*} {f : Text → Option α} (hf : f [] = none) (s : Text) :
    (components s).findSome? f = (lines s).findSome? f := by
  unfold lines
  induction components s with
  | nil => rfl
  | cons l ls ih =>
    by_cases hl : l = []
    · subst hl
      rw [List.findSome?_cons, hf, ih]
      rfl
    · have hpos : decide (l ≠ []) = true := decide_eq_true hl
      rw [List.filter_cons, if_pos hpos, List.findSome?_cons, List.findSome?_cons, ih]

/-- A loop that passes over empty lines. -/
lemma foldl_components {σ : Type*} {f : σ → Text → σ} (hf : ∀ x, f x [] = x) (s : Text) (x : σ) :
    (components s).foldl f x = (lines s).foldl f x := by
  rw [lines, List.foldl_filter]
  congr 1
  funext y l
  by_cases hl : l = []
  · simp [hl, hf]
  · simp [hl]

/-! ### Case and trimming -/

lemma crlf_append (s t : Text) : crlf (s ++ t) = crlf s ++ crlf t := List.flatMap_append

lemma crlf_eq_self {s : Text} (h : '\n' ∉ s) : crlf s = s := by
  induction s with
  | nil => rfl
  | cons c s ih =>
    have hc : c ≠ '\n' := fun heq => h (heq ▸ List.mem_cons_self ..)
    have hcons : crlf (c :: s) = c :: crlf s := by simp [crlf, hc]
    rw [hcons, ih fun hs => h (List.mem_cons_of_mem _ hs)]

lemma crlf_eq_nil {s : Text} : crlf s = [] ↔ s = [] := by
  cases s with
  | nil => rfl
  | cons c s =>
    by_cases hc : c = '\n' <;> simp [crlf, hc]

/-- Only a line feed is the lowercase form of one. -/
lemma notMem_lowercaseMapping {c : Char} (hc : c ≠ '\n') : '\n' ∉ lowercaseMapping c :=
  fun h => hc (eq_of_mem_lowercaseMapping_of_lt (by decide) h)

lemma lowercased_crlf (s : Text) : lowercased (crlf s) = crlf (lowercased s) := by
  induction s with
  | nil => rfl
  | cons c s ih =>
    have hcons : lowercased (c :: s) = lowercaseMapping c ++ lowercased s := rfl
    rw [hcons, crlf_append, ← ih]
    by_cases hc : c = '\n'
    · subst hc
      rfl
    · have hcrlf : crlf (c :: s) = c :: crlf s := by simp [crlf, hc]
      rw [crlf_eq_self (notMem_lowercaseMapping hc), hcrlf]
      rfl

lemma trim_crlf (s : Text) :
    trimWhitespacesAndNewlines (crlf s) = crlf (trimWhitespacesAndNewlines s) := by
  refine trim_flatMap (fun c hc d hd => ?_) (fun c hc => ?_) s
  · split_ifs at hd with heq
    · simp only [List.mem_cons, List.not_mem_nil, or_false] at hd
      rcases hd with rfl | rfl <;> rfl
    · rw [List.mem_singleton.1 hd]
      exact hc
  · have hne : c ≠ '\n' := by
      rintro rfl
      cases hc
    rw [if_neg hne]
    exact ⟨by simp, by simpa using hc⟩

/-! ### The readers -/

/-- What a text is taken for, and what is read of it. -/
structure SameReading [Network] (s t : Text) : Prop where
  detect : VPNProtocolType.detect s = VPNProtocolType.detect t
  validate : WireGuardConfig.validate s = WireGuardConfig.validate t
  parse : WireGuardConfig.parse s = WireGuardConfig.parse t
  openVPNValidate : OpenVPNConfig.validate s = OpenVPNConfig.validate t
  extractEndpoint : OpenVPNConfig.extractEndpoint s = OpenVPNConfig.extractEndpoint t
  requiresAuth : OpenVPNConfig.requiresAuth s = OpenVPNConfig.requiresAuth t
  tunnelConfiguration : amneziaWGKit.parse s = amneziaWGKit.parse t

lemma detect_crlf (s : Text) : VPNProtocolType.detect (crlf s) = VPNProtocolType.detect s := by
  have hfamily : isWireGuardFamily (crlf s) = isWireGuardFamily s := by
    unfold isWireGuardFamily
    dsimp only
    rw [lowercased_crlf, contains_crlf (t := "[interface]".toList) (by decide) (by decide),
      contains_crlf (t := "[peer]".toList) (by decide) (by decide),
      contains_crlf (t := "privatekey".toList) (by decide) (by decide)]
  have hparameters : hasAWGParams (crlf s) = hasAWGParams s := any_components_crlf (by decide) s
  have hopenVPN : looksLikeOpenVPN (crlf s) = looksLikeOpenVPN s := by
    have hclient : hasClient (crlf (lowercased s)) = hasClient (lowercased s) := any_components_crlf (by decide) _
    unfold looksLikeOpenVPN
    dsimp only
    rw [lowercased_crlf, contains_crlf (t := "remote ".toList) (by decide) (by decide),
      contains_crlf (t := "<ca>".toList) (by decide) (by decide), hclient]
  unfold VPNProtocolType.detect
  rw [hfamily, hparameters, hopenVPN]

lemma parse_crlf (s : Text) : WireGuardConfig.parse (crlf s) = WireGuardConfig.parse s := by
  have hnil : ∀ p : Parsing, p.parseLine [] = p := fun p => rfl
  unfold WireGuardConfig.parse
  rw [foldl_components hnil, lines_crlf, ← foldl_components hnil]

lemma validate_crlf (s : Text) : WireGuardConfig.validate (crlf s) = WireGuardConfig.validate s := by
  unfold WireGuardConfig.validate
  dsimp only
  rw [trim_crlf, parse_crlf]
  simp only [crlf_eq_nil]

lemma openVPNValidate_crlf (s : Text) : OpenVPNConfig.validate (crlf s) = OpenVPNConfig.validate s := by
  have hfile : ∀ lower : Text, ((components (crlf lower)).any fun line => hasPrefix (trimWhitespaces line) "ca ".toList) =
      (components lower).any fun line => hasPrefix (trimWhitespaces line) "ca ".toList :=
    any_components_crlf (by decide)
  unfold OpenVPNConfig.validate
  dsimp only
  rw [trim_crlf, lowercased_crlf, contains_crlf (t := "remote ".toList) (by decide) (by decide),
    contains_crlf (t := "<ca>".toList) (by decide) (by decide), hfile]
  simp only [crlf_eq_nil]

/-- **Line endings do not matter.** -/
theorem sameReading_crlf [Network] (s : Text) : SameReading (crlf s) s where
  detect := detect_crlf s
  validate := validate_crlf s
  parse := parse_crlf s
  openVPNValidate := openVPNValidate_crlf s
  extractEndpoint := by
    have hnil : OpenVPNConfig.endpointOfLine [] = none := rfl
    rw [OpenVPNConfig.extractEndpoint, findSome?_components hnil, lines_crlf, ← findSome?_components hnil,
      OpenVPNConfig.extractEndpoint]
  requiresAuth := any_components_crlf (by decide) s
  tunnelConfiguration := by
    unfold Kit.parse
    rw [lines_crlf]

end FreeVPN.Profile
