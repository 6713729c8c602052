import FreeVPN.OpenVPN.Spelling

/-!
# The sanitizer

`sanitizeOpenVPNConfig` of the Packet Tunnel takes the lines of directives out that OpenVPN3 does not
support, and appends `route-nopull`.  It tells a directive by the beginning of its line, and an inline
block by lines that begin with `<` and `</`, where OpenVPN3 has a lexer and tags.

* `noneUnsupported_iff` — when no unsupported option is left.

A line that is taken out is never a tag (`readLine_of_isUnsupported`), so what is left of a text is read
line by line as it was read in the text (`readings_filter`).
-/

namespace FreeVPN.OpenVPN

open FreeVPN.Lib FreeVPN.Foundation

/-- `unsupportedPrefixes` -/
def unsupportedPrefixes : List Text :=
  ["comp-lzo".toList,
    "fast-io".toList, "float".toList, "sndbuf".toList, "rcvbuf".toList, "tun-mtu-extra".toList,
    "tun-mtu".toList, "fragment".toList, "link-mtu".toList,
    "redirect-gateway".toList, "redirect-private".toList, "route-method".toList, "route-delay".toList,
    "nobind".toList, "persist-key".toList, "persist-tun".toList,
    "ping-restart".toList, "ping-timer-rem".toList,
    "remote-random".toList, "reneg-sec".toList, "resolv-retry".toList,
    "block-outside-dns".toList, "register-dns".toList, "ip-win32".toList,
    "script-security".toList, "up ".toList, "down ".toList, "route-up".toList, "route-pre-down".toList,
    "setenv".toList, "plugin".toList,
    "log ".toList, "log-append".toList, "suppress-timestamps".toList, "machine-readable-output".toList,
    "status".toList, "management".toList]

/-- The directive that a prefix is for. -/
def directiveOf (p : Text) : Text := p.rdropWhile (· = ' ')

/-- The names of the directives that are not supported. -/
def unsupportedNames : List Text := unsupportedPrefixes.map directiveOf

/-- A line, trimmed and lower-cased, begins with one of the prefixes. -/
def isUnsupported (line : Text) : Bool :=
  unsupportedPrefixes.any fun p => hasPrefix (lowercased (trimWhitespaces line)) p

/-- What `compactMap` does with a line: the flag `inBlock` after it, and the line if it is kept. -/
def sanitizeLine (inBlock : Bool) (line : Text) : Bool × Option Text :=
  let trimmed := trimWhitespaces line
  let lower := lowercased trimmed
  if trimmed = [] || hasPrefix lower ['#'] || hasPrefix lower [';'] then (inBlock, some line)
  else if hasPrefix lower ['<'] && !hasPrefix lower ['<', '/'] then (true, some line)
  else if hasPrefix lower ['<', '/'] then (false, some line)
  else if inBlock then (inBlock, some line)
  else if isUnsupported line then (inBlock, none)
  else (inBlock, some line)

/-- The lines that are kept. -/
def sanitizeLines : Bool → List Text → List Text
  | _, [] => []
  | inBlock, line :: lines =>
    (sanitizeLine inBlock line).2.toList ++ sanitizeLines (sanitizeLine inBlock line).1 lines

/-- The option that is appended. -/
def routeNopull : Text := "route-nopull".toList

/-- `sanitizeOpenVPNConfig` -/
def sanitizeOpenVPNConfig (config : Text) : Text :=
  joined ['\n'] (sanitizeLines false (textLines config) ++ [routeNopull])

/-! ### The first term of a line -/

lemma LexComment.IsFresh.put {lex : LexComment} (h : lex.IsFresh) {c : Char}
    (hc : isPlain c = true ∨ isSpace c = true) : (lex.put c).IsFresh ∧ (lex.put c).ch = some c := by
  obtain ⟨h₁, h₂, h₃⟩ := h
  have hc' : c ≠ '\\' ∧ c ≠ '"' ∧ isComment c = false := by
    rcases hc with hc | hc
    · exact (isPlain_iff.1 hc).2
    · exact special_of_isSpace hc
  obtain ⟨hb, hq, hcomment⟩ := hc'
  rw [LexComment.put, h₂, h₃, if_neg Bool.false_ne_true, if_neg Bool.false_ne_true, if_neg hb, if_neg hq,
    hcomment, if_neg (by simp)]
  exact ⟨⟨h₁, rfl, rfl⟩, rfl⟩

/-- The first term begins with `q`, whether it is finished or not. -/
def Terms.Begins (q : Text) (s : Terms) : Prop :=
  (s.ret = [] ∧ s.isDefined = true ∧ ∃ t, s.term = q ++ t) ∨ ∃ t ts, s.ret = (q ++ t) :: ts

lemma Terms.Begins.put {q : Text} {s : Terms} (h : s.Begins q) (c : Char) : (s.put c).Begins q := by
  unfold Terms.put
  dsimp only
  rcases h with ⟨hret, hdef, t, ht⟩ | ⟨t, ts, hret⟩
  · split
    · exact Or.inl ⟨hret, by simp [hdef], t, ht⟩
    · split_ifs
      · exact Or.inl ⟨hret, rfl, _, by rw [ht, List.append_assoc]⟩
      · exact Or.inr ⟨t, [], by rw [hret, ht]; rfl⟩
      · exact Or.inl ⟨hret, by simp [hdef], t, ht⟩
  · right
    split
    · exact ⟨t, ts, hret⟩
    · split_ifs
      · exact ⟨t, ts, hret⟩
      · exact ⟨t, ts ++ [s.term], by simp only [hret, List.cons_append]⟩
      · exact ⟨t, ts, hret⟩

lemma Terms.Begins.foldl {q : Text} {s : Terms} (h : s.Begins q) (cs : Text) :
    (cs.foldl Terms.put s).Begins q := by
  induction cs generalizing s with
  | nil => exact h
  | cons c cs ih => exact ih (h.put c)

lemma Terms.Begins.finish {q : Text} {s : Terms} (h : s.Begins q) : ∃ t ts, s.finish = (q ++ t) :: ts := by
  unfold Terms.finish
  rcases h with ⟨hret, hdef, t, ht⟩ | ⟨t, ts, hret⟩
  · exact ⟨t, [], by rw [if_pos hdef, hret, ht]; rfl⟩
  · split_ifs
    · exact ⟨t, ts ++ [s.term], by rw [hret, List.cons_append]⟩
    · exact ⟨t, ts, hret⟩

/-- **Plain scalars** behind spaces begin the first term. -/
lemma bySpace_plain {u q : Text} (hu : ∀ c ∈ u, isSpace c = true) (hq : ∀ c ∈ q, isPlain c = true)
    (hne : q ≠ []) (rest : Text) : ∃ t ts, bySpace (u ++ q ++ rest) = (q ++ t) :: ts := by
  -- the spaces leave everything as it is
  have hspaces : ∀ s : Terms, s.lex.IsFresh → s.isDefined = false → s.term = [] → s.ret = [] →
      (u.foldl Terms.put s).lex.IsFresh ∧ (u.foldl Terms.put s).term = [] ∧
        (u.foldl Terms.put s).ret = [] := by
    induction u with
    | nil => exact fun s h _ h₂ h₃ => ⟨h, h₂, h₃⟩
    | cons c u ih =>
      intro s h h₁ h₂ h₃
      obtain ⟨hlex, hch⟩ := h.put (Or.inr (hu c (List.mem_cons_self ..)))
      have hput : s.put c = { s with lex := s.lex.put c } := by
        simp [Terms.put, hch, hlex.inQuote, h₁, hu c (List.mem_cons_self ..)]
      rw [List.foldl_cons, hput]
      exact ih (fun c hc => hu c (List.mem_cons_of_mem _ hc)) _ hlex h₁ h₂ h₃
  -- the plain scalars are put together
  have hplain : ∀ (p : Text) (s : Terms), (∀ c ∈ p, isPlain c = true) → p ≠ [] → s.lex.IsFresh →
      s.ret = [] → (p.foldl Terms.put s).isDefined = true ∧ (p.foldl Terms.put s).ret = [] ∧
        (p.foldl Terms.put s).term = s.term ++ p := by
    intro p
    induction p with
    | nil => exact fun s _ h => absurd rfl h
    | cons c p ih =>
      intro s hp _ h hret
      obtain ⟨hc, hp⟩ := List.forall_mem_cons.1 hp
      obtain ⟨hlex, hch⟩ := h.put (Or.inl hc)
      have hspace : isSpace c = false := by
        simp only [isPlain, Bool.and_eq_true, Bool.not_eq_true'] at hc
        exact hc.1.1.1
      have hput : s.put c = { s with lex := s.lex.put c, isDefined := true, term := s.term ++ [c] } := by
        simp [Terms.put, hch, hspace]
      rw [List.foldl_cons, hput]
      cases p with
      | nil => exact ⟨rfl, hret, rfl⟩
      | cons d p =>
        obtain ⟨h₁, h₂, h₃⟩ :=
          ih { s with lex := s.lex.put c, isDefined := true, term := s.term ++ [c] } hp (by simp) hlex hret
        exact ⟨h₁, h₂, by rw [h₃]; simp⟩
  obtain ⟨hlex, hterm, hret⟩ := hspaces {} ⟨rfl, rfl, rfl⟩ rfl rfl rfl
  obtain ⟨h₁, h₂, h₃⟩ := hplain q _ hq hne hlex hret
  have hbegins : ((u ++ q).foldl Terms.put {}).Begins q := by
    rw [List.foldl_append]
    exact Or.inl ⟨h₂, h₁, [], by rw [h₃, hterm]; simp⟩
  rw [bySpace, List.foldl_append]
  exact (hbegins.foldl rest).finish

/-! ### Lines that are taken out -/

/-- A scalar of the names of directives. -/
def isWord (c : Char) : Bool := c.isLower || c.isDigit || c = '-'

/-- A scalar that is one of them when lower-cased. -/
def isWordLowercased (c : Char) : Bool := (lowercaseMapping c).head?.any isWord

lemma plain_of_isWordLowercased {c : Char} (h : isWordLowercased c = true) :
    isPlain c = true ∧ c ≠ '<' ∧ isCrlf c = false := by
  have hspecial : ∀ {d}, isWordLowercased d = false → c ≠ d := by
    rintro d hd rfl
    rw [h] at hd
    cases hd
  have hspace : isSpace c = false := by
    rw [Bool.eq_false_iff]
    intro hs
    simp only [isSpace, Bool.or_eq_true, Bool.and_eq_true, decide_eq_true_eq] at hs
    rcases hs with hs | ⟨hlo, hhi⟩
    · exact hspecial (by decide) hs
    · have hc : c = Char.ofNat c.toNat := (Char.ofNat_toNat c).symm
      have hn : c.toNat = 9 ∨ c.toNat = 10 ∨ c.toNat = 11 ∨ c.toNat = 12 ∨ c.toNat = 13 := by omega
      rcases hn with hn | hn | hn | hn | hn <;> rw [hn] at hc <;> exact hspecial (by decide) hc
  refine ⟨?_, hspecial (by decide), ?_⟩
  · have h₁ : c ≠ '\\' := hspecial (by decide)
    have h₂ : c ≠ '"' := hspecial (by decide)
    have h₃ : c ≠ '#' := hspecial (by decide)
    have h₄ : c ≠ ';' := hspecial (by decide)
    simp [isPlain, isComment, hspace, h₁, h₂, h₃, h₄]
  · have h₁ : c ≠ '\n' := hspecial (by decide)
    have h₂ : c ≠ '\r' := hspecial (by decide)
    simp [isCrlf, h₁, h₂]

/-- A text that begins with a word when lower-cased begins with scalars that are plain. -/
lemma exists_word_of_hasPrefix {p s : Text} (hp : ∀ d ∈ p, isWord d = true) (h : p <+: lowercased s) :
    ∃ q rest, s = q ++ rest ∧ p <+: lowercased q ∧ ∀ c ∈ q, isWordLowercased c = true := by
  induction s generalizing p with
  | nil => exact ⟨[], [], rfl, h, by simp⟩
  | cons c s ih =>
    cases p with
    | nil => exact ⟨[], c :: s, rfl, List.nil_prefix, by simp⟩
    | cons d p =>
      obtain ⟨hd, hword⟩ := List.forall_mem_cons.1 hp
      have hcons : lowercased (c :: s) = lowercaseMapping c ++ lowercased s := rfl
      have hone : lowercased [c] = lowercaseMapping c := by simp [lowercased]
      rw [hcons] at h
      by_cases hdot : c = '\u0130'
      · -- the only scalar that becomes two, the second of which is in no word
        have hmap : lowercaseMapping c = ['i', '\u0307'] := by rw [hdot]; rfl
        rw [hmap] at h hone
        obtain ⟨hde, htail⟩ := List.cons_prefix_cons.1 h
        subst hde
        refine ⟨[c], s, rfl, ?_, ?_⟩
        · rw [hone]
          cases p with
          | nil => simp
          | cons e p =>
            obtain ⟨hee, -⟩ := List.cons_prefix_cons.1 htail
            subst hee
            exact absurd (hword _ (List.mem_cons_self ..)) (by decide)
        · simp [isWordLowercased, hmap, hd]
      · obtain ⟨e, hmap⟩ := lowercaseMapping_eq_singleton hdot
        rw [hmap] at h
        obtain ⟨hde, htail⟩ := List.cons_prefix_cons.1 h
        subst hde
        obtain ⟨q, rest, rfl, hq, hqword⟩ := ih hword htail
        refine ⟨c :: q, rest, rfl, ?_, List.forall_mem_cons.2 ⟨by simp [isWordLowercased, hmap, hd], hqword⟩⟩
        change d :: p <+: lowercaseMapping c ++ lowercased q
        rw [hmap]
        exact List.cons_prefix_cons.2 ⟨rfl, hq⟩

/-- The prefixes are words, with a blank behind some of them, and `route-nopull` begins with none. -/
lemma directiveOf_spec : ∀ p ∈ unsupportedPrefixes, directiveOf p <+: p ∧ directiveOf p ≠ [] ∧
    (∀ d ∈ directiveOf p, isWord d = true) ∧ ¬directiveOf p <+: lowercased routeNopull := by
  have h : (unsupportedPrefixes.all fun p => (directiveOf p).isPrefixOf p && directiveOf p ≠ [] &&
      (directiveOf p).all isWord && !(directiveOf p).isPrefixOf (lowercased routeNopull)) = true := by
    decide +kernel
  intro p hp
  have hall := List.all_eq_true.1 h p hp
  simp only [Bool.and_eq_true, Bool.not_eq_true'] at hall
  obtain ⟨⟨⟨h₁, h₂⟩, h₃⟩, h₄⟩ := hall
  refine ⟨List.isPrefixOf_iff_prefix.1 h₁, of_decide_eq_true h₂, List.all_eq_true.1 h₃, fun h => ?_⟩
  rw [List.isPrefixOf_iff_prefix.2 h] at h₄
  cases h₄

/-- The option that is appended is none that the sanitizer looks for. -/
lemma routeNopull_notMem : routeNopull ∉ unsupportedNames := by
  intro h
  obtain ⟨p, hp, hname⟩ := List.mem_map.1 h
  have hlower : lowercased routeNopull = routeNopull := by decide
  refine (directiveOf_spec p hp).2.2.2 ?_
  rw [hlower, hname]

/-- A white space is plain, unless it is one to the lexer. -/
lemma plain_of_isWhitespace {c : Char} (h : isWhitespace c = true) (hs : isSpace c = false) :
    isPlain c = true ∧ isCrlf c = false := by
  have hspecial : ∀ {d}, isWhitespace d = false → c ≠ d := by
    rintro d hd rfl
    rw [h] at hd
    cases hd
  have h₁ : c ≠ '\\' := hspecial (by decide)
  have h₂ : c ≠ '"' := hspecial (by decide)
  have h₃ : c ≠ '#' := hspecial (by decide)
  have h₄ : c ≠ ';' := hspecial (by decide)
  have h₅ : c ≠ '\n' := hspecial (by decide)
  have h₆ : c ≠ '\r' := hspecial (by decide)
  exact ⟨by simp [isPlain, isComment, hs, h₁, h₂, h₃, h₄], by simp [isCrlf, h₅, h₆]⟩

lemma trimCrlf_append {q : Text} (hne : q ≠ []) (hq : ∀ c ∈ q, isCrlf c = false) (u w : Text) :
    trimCrlf (u ++ q ++ w) = u ++ q ++ trimCrlf w := by
  rcases List.eq_nil_or_concat q with rfl | ⟨q, a, rfl⟩
  · exact absurd rfl hne
  · have ha : isCrlf a = false := hq a (by simp)
    have h := rdropWhile_append_cons ha (u ++ q) w
    simpa [trimCrlf] using h

/-- **A line that is taken out** begins, behind spaces, with plain scalars, which are none of a tag and
not those of `route-nopull`. -/
lemma exists_parts_of_isUnsupported {line : Text} (h : isUnsupported line = true) :
    ∃ u q rest, trimCrlf line = u ++ q ++ rest ∧ (∀ c ∈ u, isSpace c = true) ∧ q ≠ [] ∧
      (∀ c ∈ q, isPlain c = true ∧ c ≠ '<') ∧ ∀ t, q ++ t ≠ routeNopull := by
  obtain ⟨p, hp, hpre⟩ := List.any_eq_true.1 h
  obtain ⟨hdir, hne, hword, hroute⟩ := directiveOf_spec p hp
  obtain ⟨ws, v, hline, hws, -⟩ := exists_trim isWhitespace line
  obtain ⟨q, rest, hbody, hq, hqword⟩ :=
    exists_word_of_hasPrefix hword (hdir.trans (hasPrefix_eq_true.1 hpre))
  rw [show trim isWhitespace line = _ from hbody] at hline
  have hqne : q ≠ [] := by
    rintro rfl
    exact hne (List.prefix_nil.1 hq)
  cases hs : ws.dropWhile isSpace with
  | nil =>
    refine ⟨ws, q, trimCrlf (rest ++ v), ?_, List.dropWhile_eq_nil_iff.1 hs, hqne, ?_, ?_⟩
    · rw [hline, ← trimCrlf_append hqne fun c hc => (plain_of_isWordLowercased (hqword c hc)).2.2]
      simp only [List.append_assoc]
    · intro c hc
      obtain ⟨h₁, h₂, -⟩ := plain_of_isWordLowercased (hqword c hc)
      exact ⟨h₁, h₂⟩
    · intro t ht
      apply hroute
      rw [← ht, lowercased_append]
      exact hq.trans (List.prefix_append ..)
  | cons a ws' =>
    -- a white space that is none to the lexer begins the first term
    have hsplit : ws = ws.takeWhile isSpace ++ a :: ws' := by rw [← hs, List.takeWhile_append_dropWhile]
    have ha : isWhitespace a = true := hws a (by rw [hsplit]; simp)
    have has : isSpace a = false := by
      have := List.head?_dropWhile_not isSpace ws
      rwa [hs] at this
    obtain ⟨hplain, hcrlf⟩ := plain_of_isWhitespace ha has
    refine ⟨ws.takeWhile isSpace, [a], trimCrlf (ws' ++ (q ++ rest) ++ v), ?_,
      fun c hc => List.mem_takeWhile_imp hc, by simp, ?_, ?_⟩
    · rw [← trimCrlf_append (by simp) (by simpa using hcrlf), hline]
      conv_lhs => rw [hsplit]
      simp only [List.append_assoc, List.cons_append, List.nil_append]
    · intro c hc
      obtain rfl := List.mem_singleton.1 hc
      refine ⟨hplain, ?_⟩
      rintro rfl
      cases ha
    · intro t ht
      have hr : a = 'r' := (List.cons.inj ht).1
      subst hr
      cases ha

/-- **How a line is read that is taken out**: as a directive, or as a line in a block, and never as a
tag. -/
lemma readLine_of_isUnsupported {line : Text} (h : isUnsupported line = true) :
    (∃ name args, readLine none line = .option name args ∧ name ≠ routeNopull) ∧
      ∀ tag, readLine (some tag) line = .content tag (trimCrlf line) := by
  obtain ⟨u, q, rest, hline, hu, hne, hq, hroute⟩ := exists_parts_of_isUnsupported h
  obtain ⟨a, q, rfl⟩ := List.exists_cons_of_ne_nil hne
  obtain ⟨haplain, hatag⟩ := hq a (List.mem_cons_self ..)
  obtain ⟨t, ts, hterms⟩ := bySpace_plain hu (fun c hc => (hq c hc).1) hne rest
  have hspace : isSpace a = false := by
    simp only [isPlain, Bool.and_eq_true, Bool.not_eq_true'] at haplain
    exact haplain.1.1.1
  have hcomment : isComment a = false := by
    simp only [isPlain, Bool.and_eq_true, Bool.not_eq_true'] at haplain
    exact haplain.2
  constructor
  · refine ⟨a :: q ++ t, ts, ?_, hroute t⟩
    have hignore : ignoreLine (trimCrlf line) = false := by
      rw [hline, ignoreLine, List.append_assoc, dropWhile_append_of_all hu, List.cons_append,
        List.dropWhile_cons_of_neg (by simp [hspace])]
      exact hcomment
    have hopen : isOpenTag (a :: q ++ t) = false := by simp [isOpenTag, hatag]
    rw [readLine, hignore, if_neg (by simp), hline, hterms]
    simp only [hopen, Bool.false_eq_true, if_false]
  · intro tag
    have hclose : isCloseTag (trimCrlf line) tag = false := by
      rw [hline]
      cases u with
      | nil => simp [isCloseTag, hatag]
      | cons b u =>
        have hb : b ≠ '<' := by
          rintro rfl
          exact absurd (hu '<' (List.mem_cons_self ..)) (by decide)
        simp [isCloseTag, hb]
    rw [readLine, hclose]
    rfl

/-! ### The flag of the sanitizer -/

/-- The lines, each with the flag `inBlock` before it. -/
def withFlags : Bool → List Text → List (Text × Bool)
  | _, [] => []
  | inBlock, line :: lines => (line, inBlock) :: withFlags (sanitizeLine inBlock line).1 lines

/-- The sanitizer takes the line out. -/
def isRemoved (x : Text × Bool) : Bool := !x.2 && isUnsupported x.1

/-- The lines of a text that are kept. -/
def keptLines (config : Text) : List Text :=
  ((withFlags false (textLines config)).filter fun x => !isRemoved x).map Prod.fst

lemma sanitizeLine_snd (inBlock : Bool) (line : Text) :
    (sanitizeLine inBlock line).2 = if isRemoved (line, inBlock) then none else some line := by
  by_cases h : isUnsupported line = true
  · -- its first scalar is none of those that keep a line
    obtain ⟨p, hp, hpre⟩ := List.any_eq_true.1 h
    obtain ⟨hdir, hne, hword, -⟩ := directiveOf_spec p hp
    have hlower := hdir.trans (hasPrefix_eq_true.1 hpre)
    obtain ⟨d, e, hd⟩ := List.exists_cons_of_ne_nil hne
    obtain ⟨w, hw⟩ := hlower
    rw [hd] at hw
    have hdword : isWord d = true := hword d (by rw [hd]; exact List.mem_cons_self ..)
    have htrim : trimWhitespaces line ≠ [] := by
      intro htrim
      rw [htrim] at hw
      cases hw
    have hother : ∀ c, isWord c = false → ∀ cs,
        hasPrefix (lowercased (trimWhitespaces line)) (c :: cs) = false := by
      intro c hc cs
      rw [← hw, Bool.eq_false_iff]
      intro hprefix
      obtain ⟨rfl, -⟩ := List.cons_prefix_cons.1 (hasPrefix_eq_true.1 hprefix)
      rw [hc] at hdword
      cases hdword
    unfold sanitizeLine
    simp only [htrim, hother '#' (by decide), hother ';' (by decide), hother '<' (by decide), h, isRemoved,
      decide_false, Bool.or_self, Bool.false_and, Bool.false_eq_true, if_false, if_true, Bool.and_true]
    cases inBlock <;> rfl
  · have hnot : isRemoved (line, inBlock) = false := by simp [isRemoved, h]
    rw [hnot]
    unfold sanitizeLine
    simp only [h, Bool.false_eq_true, if_false]
    split_ifs <;> rfl

lemma sanitizeLines_eq (inBlock : Bool) (lines : List Text) :
    sanitizeLines inBlock lines =
      ((withFlags inBlock lines).filter fun x => !isRemoved x).map Prod.fst := by
  induction lines generalizing inBlock with
  | nil => rfl
  | cons line lines ih =>
    rw [sanitizeLines, ih, sanitizeLine_snd, withFlags]
    by_cases h : isRemoved (line, inBlock) = true <;> simp [h]

lemma map_fst_withFlags (inBlock : Bool) (lines : List Text) :
    (withFlags inBlock lines).map Prod.fst = lines := by
  induction lines generalizing inBlock with
  | nil => rfl
  | cons line lines ih => simp [withFlags, ih]

lemma textLines_sanitize (config : Text) :
    textLines (sanitizeOpenVPNConfig config) = keptLines config ++ [routeNopull] := by
  have hlines : ∀ l ∈ keptLines config ++ [routeNopull], '\n' ∉ l := by
    intro l hl
    rcases List.mem_append.1 hl with hl | hl
    · have hmem : l ∈ textLines config := by
        rw [← map_fst_withFlags false (textLines config)]
        exact (List.filter_sublist.map _).mem hl
      intro hc
      have := sep_of_mem_splitOnP hmem hc
      simp at this
    · obtain rfl := List.mem_singleton.1 hl
      decide
  rw [textLines, sanitizeOpenVPNConfig, sanitizeLines_eq]
  exact List.splitOn_intercalate '\n' hlines (by simp)

/-! ### What is left is read as before -/

/-- Leaving out lines that neither open nor close a block. -/
lemma readings_filter {α : Type} {text : α → Text} {keep : α → Bool} {xs : List α}
    (h : ∀ x ∈ xs, keep x = false → ∀ block, (readLine block (text x)).block = block)
    (block : Option Text) :
    readings text block (xs.filter keep) = (readings text block xs).filter fun y => keep y.1 := by
  induction xs generalizing block with
  | nil => rfl
  | cons x xs ih =>
    obtain ⟨hx, hxs⟩ := List.forall_mem_cons.1 h
    cases hk : keep x with
    | true => simp [hk, readings, ih hxs]
    | false =>
      rw [List.filter_cons_of_neg (by simp [hk]), readings, List.filter_cons_of_neg (by simp [hk]), ih hxs,
        hx hk block]

/-- How the lines of a text are read, each with the flag of the sanitizer. -/
def lineReadings (config : Text) : List ((Text × Bool) × Reading) :=
  readings Prod.fst none (withFlags false (textLines config))

lemma map_snd_lineReadings (config : Text) :
    (lineReadings config).map Prod.snd = readingsOf none (textLines config) := by
  rw [lineReadings, map_snd_readings, map_fst_withFlags]

lemma block_of_isUnsupported {line : Text} (h : isUnsupported line = true) (block : Option Text) :
    (readLine block line).block = block := by
  obtain ⟨⟨name, args, hoption, -⟩, hcontent⟩ := readLine_of_isUnsupported h
  cases block with
  | none => rw [hoption]; rfl
  | some tag => rw [hcontent]; rfl

lemma isUnsupported_of_isRemoved {x : Text × Bool} (h : isRemoved x = true) : isUnsupported x.1 = true := by
  simp only [isRemoved, Bool.and_eq_true] at h
  exact h.2

/-- **What is left** of a text is read as it was. -/
lemma readingsOf_keptLines (config : Text) :
    readingsOf none (keptLines config) =
      ((lineReadings config).filter fun y => !isRemoved y.1).map Prod.snd := by
  have hblock : ∀ x ∈ withFlags false (textLines config), (!isRemoved x) = false →
      ∀ block, (readLine block x.1).block = block := by
    intro x _ hx
    exact block_of_isUnsupported (isUnsupported_of_isRemoved (by simpa using hx))
  rw [keptLines, ← map_snd_readings, readings_filter hblock]
  rfl

/-- How `route-nopull` is read. -/
lemma readLine_routeNopull (block : Option Text) :
    readLine block routeNopull = match block with
      | some tag => .content tag routeNopull
      | none => .option routeNopull [] := by
  cases block with
  | none => decide +kernel
  | some tag => rfl

/-- The text that is left is accepted when the lines that are kept are. -/
lemma isAccepted_sanitize (config : Text) :
    IsAccepted (readingsOf none (textLines (sanitizeOpenVPNConfig config))) ↔
      IsAccepted (readingsOf none (keptLines config)) ∧
      readingsOf none (textLines (sanitizeOpenVPNConfig config)) =
        readingsOf none (keptLines config) ++ [.option routeNopull []] := by
  rw [textLines_sanitize, readingsOf_append]
  generalize readingsOf none (keptLines config) = rs
  rw [readingsOf_cons, readingsOf_nil, readLine_routeNopull]
  constructor
  · rintro ⟨hextra, hclosed⟩
    rw [blockAfter_append, blockAfter, blockAfter] at hclosed
    cases hb : blockAfter none rs with
    | some tag => rw [hb] at hclosed; cases hclosed
    | none => exact ⟨⟨fun r hr => hextra r (List.mem_append_left _ hr), hb⟩, rfl⟩
  · rintro ⟨⟨hextra, hclosed⟩, heq⟩
    rw [heq]
    refine ⟨List.forall_mem_append.2 ⟨hextra, by simp⟩, ?_⟩
    rw [blockAfter_append]
    rfl

/-- The options of lines have the names of the lines that complete them. -/
lemma names_optionsOf (P : Text → Prop) (before : Text) (rs : List Reading) :
    (∀ opt ∈ optionsOf before rs, ∀ name ∈ opt.head?, P name) ↔ ∀ r ∈ rs, ∀ name ∈ r.named, P name := by
  induction rs generalizing before with
  | nil => simp [optionsOf]
  | cons r rs ih =>
    rw [optionsOf, List.forall_mem_append, ih, List.forall_mem_cons]
    exact and_congr_left' (by cases r <;> simp)

/-- **When no unsupported option is left.**  Of a sanitized text that is accepted, the options are all
supported, with `route-nopull` among them, if and only if every line of the text that completes an
unsupported option is taken out: a directive that is read at the top level is found by the prefix of its
line, with the flag `inBlock` off, and no inline block has such a name. -/
theorem noneUnsupported_iff {lim : Option Limits} {config : Text} {opts : List Opt}
    (h : parseFromConfig lim (sanitizeOpenVPNConfig config) = .ok opts) :
    ((∀ opt ∈ opts, ∀ name ∈ opt.head?, name ∉ unsupportedNames) ∧
        ∃ opt ∈ opts, opt.head? = some routeNopull) ↔
      ∀ y ∈ lineReadings config, ∀ name ∈ y.2.named, name ∈ unsupportedNames → isRemoved y.1 = true := by
  obtain ⟨hacc, -, rfl⟩ := parseFromConfig_eq_ok.1 h
  obtain ⟨-, heq⟩ := (isAccepted_sanitize config).1 hacc
  have hroute : ∃ opt ∈ optionsOf [] (readingsOf none (textLines (sanitizeOpenVPNConfig config))),
      opt.head? = some routeNopull := by
    by_contra hno
    push Not at hno
    have := (names_optionsOf (· ≠ routeNopull) [] _).1 fun opt hopt name hname => by
      rintro rfl
      exact hno opt hopt hname
    exact this (.option routeNopull []) (by rw [heq]; simp) routeNopull rfl rfl
  rw [and_iff_left hroute, names_optionsOf (· ∉ unsupportedNames), heq, List.forall_mem_append,
    and_iff_left (by simpa using routeNopull_notMem), readingsOf_keptLines]
  constructor
  · intro hall y hy name hyname hunsupported
    by_contra hkept
    exact hall y.2 (List.mem_map_of_mem (List.mem_filter.2 ⟨hy, by simpa using hkept⟩)) name hyname
      hunsupported
  · intro hall r hr name hrname hunsupported
    obtain ⟨y, hy, rfl⟩ := List.mem_map.1 hr
    obtain ⟨hy, hkept⟩ := List.mem_filter.1 hy
    rw [hall y hy name hrname hunsupported] at hkept
    cases hkept

/-- A directive in quotes is not found. -/
theorem not_noneUnsupported_quoted :
    ¬∀ (lim : Option Limits) (config : Text) (opts : List Opt),
      parseFromConfig lim (sanitizeOpenVPNConfig config) = .ok opts →
      (∀ opt ∈ opts, ∀ name ∈ opt.head?, name ∉ unsupportedNames) ∧
        ∃ opt ∈ opts, opt.head? = some routeNopull := by
  intro h
  have hparse : (parseFromConfig none (sanitizeOpenVPNConfig "\"redirect-gateway\" def1".toList)).toOption.any
      (fun opts => opts.any fun opt => opt.head?.any (· ∈ unsupportedNames)) = true := by decide +kernel
  obtain ⟨opts, hopts, hany⟩ := Option.any_eq_true _ _ |>.1 hparse
  obtain ⟨opt, hopt, hname⟩ := List.any_eq_true.1 hany
  obtain ⟨name, hhead, hunsupported⟩ := Option.any_eq_true _ _ |>.1 hname
  exact (h none _ opts (toOption_eq_some.1 hopts)).1 opt hopt name hhead (of_decide_eq_true hunsupported)

theorem noneUnsupported_redirectGateway :
    ∃ opts, parseFromConfig none (sanitizeOpenVPNConfig "redirect-gateway def1\nremote a".toList) = .ok opts ∧
      (∀ opt ∈ opts, ∀ name ∈ opt.head?, name ∉ unsupportedNames) ∧
        ∃ opt ∈ opts, opt.head? = some routeNopull := by
  have hparse : (parseFromConfig none
      (sanitizeOpenVPNConfig "redirect-gateway def1\nremote a".toList)).isOk = true := by decide +kernel
  obtain ⟨opts, hopts⟩ := exists_of_isOk hparse
  exact ⟨opts, hopts, (noneUnsupported_iff hopts).2 (by decide +kernel)⟩

end FreeVPN.OpenVPN
