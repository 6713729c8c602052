import FreeVPN.OpenVPN.Sanitize

/-!
# What the sanitizer keeps

The lines that are taken out are told by prefixes, so that supported directives, and lines of their
inline blocks, can be among them.  `keptOptions` goes through the lines of a text, some of which are
taken out, and has every option of the text with what is left of it; `keepsOthers_iff` says when all the
supported ones are as they were.
-/

namespace FreeVPN.OpenVPN

open FreeVPN.Lib FreeVPN.Foundation

/-- An option that the sanitizer is to keep. -/
def isSupported (opt : Opt) : Bool := opt.head?.all fun name => name ∉ unsupportedNames

section Keep

variable {α : Type} (keep : α → Bool)

/-- The options of some lines, each with what is left of it when only some lines are kept.  In front of
the lines there are `before` and, of that, `kept` in a block. -/
def keptOptions (before kept : Text) : List (α × Reading) → List (Opt × Option Opt)
  | [] => []
  | (x, .option name args) :: ys =>
    (name :: args, if keep x then some (name :: args) else none) ::
      keptOptions [] (if keep x then [] else kept) ys
  | (x, .content _ line) :: ys =>
    keptOptions (before ++ line ++ ['\n']) (if keep x then kept ++ line ++ ['\n'] else kept) ys
  | (_, .closes tag) :: ys => ([tag, before], some [tag, kept]) :: keptOptions [] [] ys
  | (_, .opens _) :: ys => keptOptions [] [] ys
  | (_, .ignored) :: ys => keptOptions [] [] ys
  | (_, .extraneous _ _) :: ys => keptOptions [] [] ys

variable {keep}

lemma map_fst_keptOptions (before kept : Text) (ys : List (α × Reading)) :
    (keptOptions keep before kept ys).map Prod.fst = optionsOf before (ys.map Prod.snd) := by
  induction ys generalizing before kept with
  | nil => rfl
  | cons y ys ih =>
    obtain ⟨x, r⟩ := y
    cases r <;> simp [keptOptions, optionsOf, ih]

/-- A line that is left out is a directive, or a line in a block. -/
def IsPart (r : Reading) : Prop := (∃ name args, r = .option name args) ∨ ∃ tag line, r = .content tag line

lemma filterMap_snd_keptOptions {ys : List (α × Reading)} (h : ∀ y ∈ ys, keep y.1 = false → IsPart y.2)
    (before kept : Text) :
    (keptOptions keep before kept ys).filterMap Prod.snd =
      optionsOf kept ((ys.filter fun y => keep y.1).map Prod.snd) := by
  induction ys generalizing before kept with
  | nil => rfl
  | cons y ys ih =>
    obtain ⟨hy, hys⟩ := List.forall_mem_cons.1 h
    obtain ⟨x, r⟩ := y
    cases hk : keep x with
    | true => cases r <;> simp [keptOptions, optionsOf, hk, ih hys]
    | false =>
      rcases hy hk with ⟨name, args, rfl⟩ | ⟨tag, line, rfl⟩
      · simp [keptOptions, hk, ih hys]
      · simp [keptOptions, hk, ih hys]

/-- What is left of an option has its name. -/
lemma head_keptOptions {before kept : Text} {ys : List (α × Reading)} {p : Opt × Option Opt}
    (hp : p ∈ keptOptions keep before kept ys) : ∀ opt ∈ p.2, opt.head? = p.1.head? := by
  induction ys generalizing before kept with
  | nil => cases hp
  | cons y ys ih =>
    obtain ⟨x, r⟩ := y
    cases r with
    | option name args =>
      rcases List.mem_cons.1 hp with rfl | hp
      · intro opt hopt
        obtain ⟨-, hopt⟩ := (Option.ite_none_right_eq_some ..).1 hopt
        exact congrArg List.head? (Option.some.inj hopt).symm
      · exact ih hp
    | closes tag =>
      rcases List.mem_cons.1 hp with rfl | hp
      · rintro _ ⟨⟩
        rfl
      · exact ih hp
    | content => exact ih hp
    | opens => exact ih hp
    | ignored => exact ih hp
    | extraneous => exact ih hp

/-- An option of one term is kept as it is when its lines are. -/
lemma keptOptions_of_singleton {name : Text} {before kept : Text} {ys : List (α × Reading)}
    (h : ∀ y ∈ ys, keep y.1 = false → ∀ args, y.2 ≠ .option name args) {p : Opt × Option Opt}
    (hp : p ∈ keptOptions keep before kept ys) (hname : p.1 = [name]) : p.2 = some [name] := by
  induction ys generalizing before kept with
  | nil => cases hp
  | cons y ys ih =>
    obtain ⟨hy, hys⟩ := List.forall_mem_cons.1 h
    obtain ⟨x, r⟩ := y
    cases r with
    | option name' args =>
      rcases List.mem_cons.1 hp with rfl | hp
      · obtain ⟨rfl, rfl⟩ := List.cons.inj hname
        cases hk : keep x with
        | true => rfl
        | false => exact absurd rfl (hy hk [])
      · exact ih hys hp
    | closes tag =>
      rcases List.mem_cons.1 hp with rfl | hp
      · cases (List.cons.inj hname).2
      · exact ih hys hp
    | content => exact ih hys hp
    | opens => exact ih hys hp
    | ignored => exact ih hys hp
    | extraneous => exact ih hys hp

end Keep

section Flags

variable {α : Type} {keep : α → Bool} {text : α → Text}

/-- The lines that are left out are of unsupported options. -/
def OfUnsupported (keep : α → Bool) (ys : List (α × Reading)) : Prop :=
  ∀ y ∈ ys, keep y.1 = false → ∃ name ∈ y.2.owner, name ∈ unsupportedNames

/-- The supported options are kept as they are. -/
def KeepsSupported (ps : List (Opt × Option Opt)) : Prop := ∀ p ∈ ps, isSupported p.1 = true → p.2 = some p.1

lemma isSupported_cons {name : Text} {args : List Text} :
    isSupported (name :: args) = true ↔ name ∉ unsupportedNames := by
  simp [isSupported]

lemma keepsSupported_cons {p : Opt × Option Opt} {ps : List (Opt × Option Opt)} :
    KeepsSupported (p :: ps) ↔ (isSupported p.1 = true → p.2 = some p.1) ∧ KeepsSupported ps :=
  List.forall_mem_cons

lemma ofUnsupported_cons {x : α} {r : Reading} {ys : List (α × Reading)} :
    OfUnsupported keep ((x, r) :: ys) ↔
      (keep x = false → ∃ name ∈ r.owner, name ∈ unsupportedNames) ∧ OfUnsupported keep ys :=
  List.forall_mem_cons

/-- **The supported options are kept as they are** exactly if no line is left out but of the others:
outside a block, and in one, where it matters whether something has been left out before. -/
lemma keepsSupported_iff {xs : List α}
    (h : ∀ x ∈ xs, keep x = false → ∀ block, IsPart (readLine block (text x))) :
    (∀ before kept, blockAfter none ((readings text none xs).map Prod.snd) = none →
      (KeepsSupported (keptOptions keep before kept (readings text none xs)) ↔
        OfUnsupported keep (readings text none xs))) ∧
    ∀ tag before kept, blockAfter (some tag) ((readings text (some tag) xs).map Prod.snd) = none →
      kept.length ≤ before.length →
      (KeepsSupported (keptOptions keep before kept (readings text (some tag) xs)) ↔
        (tag ∈ unsupportedNames ∨ before = kept) ∧ OfUnsupported keep (readings text (some tag) xs)) := by
  induction xs with
  | nil =>
    refine ⟨fun _ _ _ => by simp [KeepsSupported, OfUnsupported, readings, keptOptions], ?_⟩
    intro tag before kept hclosed
    cases hclosed
  | cons x xs ih =>
    obtain ⟨hx, hxs⟩ := List.forall_mem_cons.1 h
    obtain ⟨ihnone, ihsome⟩ := ih hxs
    -- a line that is no part of an option is kept
    have hkeep : ∀ block r, readLine block (text x) = r → ¬IsPart r → keep x = true := by
      rintro block r rfl hr
      by_contra hk
      exact hr (hx (Bool.eq_false_iff.2 hk) block)
    constructor
    · intro before kept hclosed
      rw [readings] at hclosed ⊢
      generalize hr : readLine none (text x) = r at hclosed ⊢
      rw [ofUnsupported_cons]
      cases r with
      | ignored =>
        rw [and_iff_right (by simp [hkeep none _ hr (by simp [IsPart])])]
        exact ihnone [] [] hclosed
      | extraneous name args =>
        rw [and_iff_right (by simp [hkeep none _ hr (by simp [IsPart])])]
        exact ihnone [] [] hclosed
      | opens tag =>
        rw [and_iff_right (by simp [hkeep none _ hr (by simp [IsPart])])]
        refine (ihsome tag [] [] hclosed le_rfl).trans ?_
        rw [and_iff_right (Or.inr rfl)]
        rfl
      | option name args =>
        rw [keptOptions, keepsSupported_cons]
        refine and_congr ?_ (ihnone _ _ hclosed)
        cases hk : keep x with
        | true => simp
        | false => simp [isSupported_cons]
      | content tag line => exact absurd hr ((readLine_none_ne (text x)).1 tag line)
      | closes tag => exact absurd hr ((readLine_none_ne (text x)).2 tag)
    · intro tag before kept hclosed hlength
      rw [readings] at hclosed ⊢
      by_cases hclose : isCloseTag (trimCrlf (text x)) tag = true
      · have hr : readLine (some tag) (text x) = .closes tag := by rw [readLine, if_pos hclose]
        rw [hr] at hclosed ⊢
        rw [ofUnsupported_cons, and_iff_right (a := keep x = false → _)
          (by simp [hkeep _ _ hr (by simp [IsPart])]), keptOptions, keepsSupported_cons, isSupported_cons]
        refine and_congr ?_ (ihnone [] [] hclosed)
        simp only [Option.some.injEq, List.cons.injEq, true_and, and_true]
        rw [← or_iff_not_imp_left, eq_comm]
      · have hr : readLine (some tag) (text x) = .content tag (trimCrlf (text x)) := by
          rw [readLine, if_neg hclose]
        rw [hr] at hclosed ⊢
        rw [ofUnsupported_cons, keptOptions]
        cases hk : keep x with
        | true =>
          refine (ihsome tag _ _ hclosed (by simpa using hlength)).trans ?_
          simp [Reading.block]
        | false =>
          refine (ihsome tag _ _ hclosed (by simp; omega)).trans ?_
          have hne : before ++ trimCrlf (text x) ++ ['\n'] ≠ kept := by
            intro heq
            have := congrArg List.length heq
            simp only [List.length_append, List.length_singleton] at this
            omega
          simp only [Bool.false_eq_true, if_false, or_iff_left hne, Reading.owner, Option.mem_def,
            Option.some.injEq, exists_eq_left', Reading.block, forall_const, ← and_assoc]
          exact and_congr_left' ⟨fun h => ⟨Or.inl h, h⟩, fun h => h.2⟩

end Flags

/-- The block after lines, some of which that neither open nor close one are left out. -/
lemma blockAfter_filter {α : Type} {text : α → Text} {keep : α → Bool} {xs : List α}
    (h : ∀ x ∈ xs, keep x = false → ∀ block, (readLine block (text x)).block = block)
    (block : Option Text) :
    blockAfter block (((readings text block xs).filter fun y => keep y.1).map Prod.snd) =
      blockAfter block ((readings text block xs).map Prod.snd) := by
  induction xs generalizing block with
  | nil => rfl
  | cons x xs ih =>
    obtain ⟨hx, hxs⟩ := List.forall_mem_cons.1 h
    cases hk : keep x with
    | true => simpa [hk, readings, blockAfter] using ih hxs _
    | false =>
      rw [readings, List.filter_cons_of_neg (by simp [hk]), hx hk block, List.map_cons, blockAfter, hx hk block]
      exact ih hxs block

lemma filterMap_filter_of_head {ps : List (Opt × Option Opt)}
    (h : ∀ p ∈ ps, ∀ opt ∈ p.2, opt.head? = p.1.head?) :
    (ps.filterMap Prod.snd).filter isSupported =
      (ps.filter fun p => isSupported p.1).filterMap Prod.snd := by
  induction ps with
  | nil => rfl
  | cons p ps ih =>
    obtain ⟨hp, hps⟩ := List.forall_mem_cons.1 h
    obtain ⟨a, o⟩ := p
    cases o with
    | none => cases hs : isSupported a <;> simp [hs, ih hps]
    | some b =>
      have hb : isSupported b = isSupported a := by rw [isSupported, isSupported, hp b rfl]
      cases hs : isSupported a <;> simp [hs, hb, ih hps]

/-! ### The options of a text -/

section Config

variable {config : Text}

/-- A line that is taken out is part of an option, wherever it stands. -/
lemma isPart_of_removed {x : Text × Bool} (hx : (!isRemoved x) = false) (block : Option Text) :
    IsPart (readLine block x.1) := by
  obtain ⟨⟨name, args, hoption, -⟩, hcontent⟩ :=
    readLine_of_isUnsupported (isUnsupported_of_isRemoved (by simpa using hx))
  cases block with
  | none => exact Or.inl ⟨name, args, hoption⟩
  | some tag => exact Or.inr ⟨tag, _, hcontent tag⟩

/-- The options of a text, with what is left of each. -/
def optionPairs (config : Text) : List (Opt × Option Opt) :=
  keptOptions (fun x => !isRemoved x) [] [] (lineReadings config)

lemma map_fst_optionPairs :
    (optionPairs config).map Prod.fst = optionsOf [] (readingsOf none (textLines config)) := by
  rw [optionPairs, map_fst_keptOptions, map_snd_lineReadings]

lemma filterMap_snd_optionPairs :
    (optionPairs config).filterMap Prod.snd = optionsOf [] (readingsOf none (keptLines config)) := by
  rw [optionPairs, filterMap_snd_keptOptions, readingsOf_keptLines]
  intro y hy hx
  obtain ⟨-, block, hread⟩ := exists_of_mem_readings hy
  rw [hread]
  exact isPart_of_removed hx block

/-- What is left of an accepted text is accepted. -/
lemma isAccepted_keptLines (hacc : IsAccepted (readingsOf none (textLines config))) :
    IsAccepted (readingsOf none (keptLines config)) := by
  have hblock : ∀ x ∈ withFlags false (textLines config), (!isRemoved x) = false →
      ∀ block, (readLine block x.1).block = block := by
    intro x _ hx
    exact block_of_isUnsupported (isUnsupported_of_isRemoved (by simpa using hx))
  have hclosed : blockAfter none ((lineReadings config).map Prod.snd) = none := by
    rw [map_snd_lineReadings]
    exact hacc.closed
  rw [readingsOf_keptLines]
  refine ⟨?_, (blockAfter_filter hblock none).trans hclosed⟩
  intro r hr
  obtain ⟨y, hy, rfl⟩ := List.mem_map.1 hr
  apply hacc.extraneous
  rw [← map_snd_lineReadings]
  exact List.mem_map_of_mem (List.mem_of_mem_filter hy)

/-- The options of what is left of an accepted text. -/
lemma parseFromConfig_sanitize_eq_ok {lim : Option Limits} (hacc : IsAccepted (readingsOf none (textLines config)))
    {opts' : List Opt} :
    parseFromConfig lim (sanitizeOpenVPNConfig config) = .ok opts' ↔
      WithinLimits lim (joined ['\n'] (keptLines config ++ [routeNopull])) ∧
        opts' = (optionPairs config).filterMap Prod.snd ++ [[routeNopull]] := by
  have haccepted := isAccepted_keptLines hacc
  have heq : readingsOf none (textLines (sanitizeOpenVPNConfig config)) =
      readingsOf none (keptLines config) ++ [.option routeNopull []] := by
    rw [textLines_sanitize, readingsOf_append, readingsOf_cons, readingsOf_nil, haccepted.closed,
      readLine_routeNopull]
  rw [parseFromConfig_eq_ok, and_iff_right ((isAccepted_sanitize config).2 ⟨haccepted, heq⟩), heq,
    optionsOf_concat (fun _ => rfl), ← filterMap_snd_optionPairs, eq_comm, sanitizeOpenVPNConfig,
    sanitizeLines_eq]
  rfl

/-- No line `route-nopull` is taken out. -/
lemma optionPairs_of_routeNopull {p : Opt × Option Opt} (hp : p ∈ optionPairs config)
    (hname : p.1 = [routeNopull]) : p.2 = some [routeNopull] := by
  refine keptOptions_of_singleton ?_ hp hname
  intro y hy hx args hoption
  obtain ⟨-, block, hread⟩ := exists_of_mem_readings hy
  obtain ⟨⟨name, args', hname', hne⟩, hcontent⟩ :=
    readLine_of_isUnsupported (isUnsupported_of_isRemoved (x := y.1) (by simpa using hx))
  rw [hread] at hoption
  cases block with
  | none =>
    rw [hname'] at hoption
    exact hne (Reading.option.inj hoption).1
  | some tag =>
    rw [hcontent] at hoption
    cases hoption

/-- The supported options come in order in what is left if and only if they are kept as they are. -/
lemma sublist_iff_keepsSupported :
    (((optionPairs config).map Prod.fst).filter isSupported).Sublist
        ((optionPairs config).filterMap Prod.snd ++ [[routeNopull]]) ↔ KeepsSupported (optionPairs config) := by
  have hroute : isSupported [routeNopull] = true := by simpa [isSupported] using routeNopull_notMem
  have hfst : ((optionPairs config).map Prod.fst).filter isSupported =
      ((optionPairs config).filter fun p => isSupported p.1).map Prod.fst := by
    rw [List.filter_map]
    rfl
  have hhead : ∀ p ∈ optionPairs config, ∀ opt ∈ p.2, opt.head? = p.1.head? := fun p hp => head_keptOptions hp
  have hsnd : ((optionPairs config).filterMap Prod.snd ++ [[routeNopull]]).filter isSupported =
      ((optionPairs config).filter fun p => isSupported p.1).filterMap Prod.snd ++ [[routeNopull]] := by
    rw [List.filter_append, filterMap_filter_of_head hhead, List.filter_cons_of_pos hroute, List.filter_nil]
  have hkeeps := sublist_kept_concat (l := (optionPairs config).filter fun p => isSupported p.1)
    (r := [routeNopull]) fun p hp => optionPairs_of_routeNopull (List.mem_of_mem_filter hp)
  constructor
  · intro h
    have h := h.filter isSupported
    rw [List.filter_filter, hsnd] at h
    simp only [Bool.and_self] at h
    rw [hfst] at h
    intro p hp hs
    exact hkeeps.1 h p (List.mem_filter.2 ⟨hp, hs⟩)
  · intro h
    rw [hfst]
    refine (hkeeps.2 fun p hp => ?_).trans (hsnd ▸ List.filter_sublist)
    obtain ⟨hp, hs⟩ := List.mem_filter.1 hp
    exact h p hp hs

end Config

/-- **When no other option is lost.**  Of a text that is accepted, the options that are supported are in
what the sanitizer leaves, as they were and in their order, if and only if every line that is taken out
is that of an unsupported directive or in an inline block with the name of one, and what is left, with
`route-nopull` behind it, keeps the limits. -/
theorem keepsOthers_iff {lim : Option Limits} {config : Text} {opts : List Opt}
    (h : parseFromConfig lim config = .ok opts) :
    (∃ opts', parseFromConfig lim (sanitizeOpenVPNConfig config) = .ok opts' ∧
        (opts.filter isSupported).Sublist opts') ↔
      (∀ y ∈ lineReadings config, isRemoved y.1 = true → ∃ name ∈ y.2.owner, name ∈ unsupportedNames) ∧
        WithinLimits lim (joined ['\n'] (keptLines config ++ [routeNopull])) := by
  obtain ⟨hacc, -, rfl⟩ := parseFromConfig_eq_ok.1 h
  have hclosed : blockAfter none ((lineReadings config).map Prod.snd) = none := by
    rw [map_snd_lineReadings]
    exact hacc.closed
  have hflags : KeepsSupported (optionPairs config) ↔
      ∀ y ∈ lineReadings config, isRemoved y.1 = true → ∃ name ∈ y.2.owner, name ∈ unsupportedNames := by
    refine ((keepsSupported_iff fun x _ => isPart_of_removed).1 [] [] hclosed).trans ?_
    simp only [OfUnsupported, Bool.not_eq_eq_eq_not, Bool.not_false]
    rfl
  rw [← map_fst_optionPairs, ← hflags, ← sublist_iff_keepsSupported]
  constructor
  · rintro ⟨opts', hopts', hsub⟩
    obtain ⟨hlimits, rfl⟩ := (parseFromConfig_sanitize_eq_ok hacc).1 hopts'
    exact ⟨hsub, hlimits⟩
  · rintro ⟨hsub, hlimits⟩
    exact ⟨_, (parseFromConfig_sanitize_eq_ok hacc).2 ⟨hlimits, rfl⟩, hsub⟩

/-- A supported directive that begins as an unsupported one does is lost. -/
theorem not_keepsOthers_tunMtuMax :
    ¬∀ (lim : Option Limits) (config : Text) (opts : List Opt), parseFromConfig lim config = .ok opts →
      ∃ opts', parseFromConfig lim (sanitizeOpenVPNConfig config) = .ok opts' ∧
        (opts.filter isSupported).Sublist opts' := by
  intro h
  have hparse : (parseFromConfig none "tun-mtu-max 1500".toList).toOption =
      some [["tun-mtu-max".toList, "1500".toList]] := by decide +kernel
  have hparse' : (parseFromConfig none (sanitizeOpenVPNConfig "tun-mtu-max 1500".toList)).toOption =
      some [[routeNopull]] := by decide +kernel
  obtain ⟨opts', hopts', hsub⟩ := h none _ _ (toOption_eq_some.1 hparse)
  rw [toOption_eq_some.1 hparse'] at hopts'
  obtain rfl := Except.ok.inj hopts'
  exact absurd hsub (by decide +kernel)

theorem keepsOthers_redirectGateway :
    ∃ opts opts', parseFromConfig none "redirect-gateway def1\nremote a".toList = .ok opts ∧
      parseFromConfig none (sanitizeOpenVPNConfig "redirect-gateway def1\nremote a".toList) = .ok opts' ∧
        (opts.filter isSupported).Sublist opts' := by
  have hparse : (parseFromConfig none "redirect-gateway def1\nremote a".toList).isOk = true := by
    decide +kernel
  obtain ⟨opts, hopts⟩ := exists_of_isOk hparse
  obtain ⟨opts', hopts', hsub⟩ := (keepsOthers_iff hopts).2 ⟨by decide +kernel, withinLimits_none _⟩
  exact ⟨opts, opts', hopts, hopts', hsub⟩

end FreeVPN.OpenVPN
