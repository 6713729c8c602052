import FreeVPN.OpenVPN.Spelling
import FreeVPN.Profile.VPNProtocol

/-!
# The validation and the option list

`OpenVPNConfig.validate` looks for `remote ` in a text, and for `<ca>` or a line that begins with `ca `.
What the text means is what `parse_from_config` makes of it.

* `Line` — a line of a text where it stands;
* `remote`, `ca` — what the validation looks for, and the forms that lines with it have;
* `validate_eq_none_iff` — what the validation finds;
* `hasOption_iff` — the options, by the lines that they come from;
* `gives_iff` — and how these lines are written;
* `marks_remote_iff`, `gives_remote_iff`, `marks_ca_iff`, `gives_ca_iff` — which forms both have;
* `validatesOptions_iff` — when the two agree.
-/

namespace FreeVPN.OpenVPN

open FreeVPN.Lib FreeVPN.Foundation FreeVPN.Profile

/-! ### Lines where they stand -/

/-- A line of a text, with the lines before and behind it. -/
structure Line (s : Text) where
  before : List Text
  line : Text
  after : List Text
  lines : textLines s = before ++ line :: after

/-- The inline block that is open before the line. -/
def Line.block {s : Text} (l : Line s) : Option Text := blockAfter none (readingsOf none l.before)

/-- How it is read. -/
def Line.reading {s : Text} (l : Line s) : Reading := readLine l.block l.line

/-- The line gives an option with this name and an argument, or opens the block that is one. -/
def Gives (name : Text) (r : Reading) : Prop := (∃ a as, r = .option name (a :: as)) ∨ r = .opens name

/-- An option with this name and an argument, which for a block is its content. -/
def HasOption (name : Text) (opts : List Opt) : Prop := ∃ a as, name :: a :: as ∈ opts

/-! ### What is looked for -/

/-- There is something else than white space in these lines. -/
def GoesOn (ls : List Text) : Prop := ∃ l ∈ ls, ∃ c ∈ l, isWhitespaceOrNewline c = false

/-- Something that the validation looks for, and the forms of a line in a block, with the lines behind it. -/
structure Sign where
  name : Text
  /-- What the validation finds in a line. -/
  Marks : Text → List Text → Prop
  /-- The option as it is usually written. -/
  Plain : Option Text → Text → List Text → Prop
  /-- What the validation finds, and is no such option: it stands in a block, or in capital letters, or behind
  something else (the mark of a comment, another option), or without an argument. -/
  Decoy : Option Text → Text → List Text → Prop
  /-- The option, written otherwise: with quotes or backslashes, with other white space than a blank, or as a
  block. -/
  Hidden : Option Text → Text → List Text → Prop

section Signs

variable [Unicode]

/-- `lower.contains("remote ")`: with something else behind it, there or further on, because the text is
trimmed.  Usually there is white space, the word, a blank and an argument. -/
def remote : Sign where
  name := "remote".toList
  Marks line after := ∃ p m q, line = p ++ (m ++ q) ∧ lowercased m = "remote ".toList ∧ Alone p q ∧
    GoesOn (q :: after)
  Plain block line after := block = none ∧ ∃ p q, line = p ++ ("remote ".toList ++ q) ∧ (∀ c ∈ p, isSpace c) ∧
    (∀ d ∈ q.head?, Unicode.isExtending d = false) ∧ GoesOn (q :: after) ∧ Argument (trimCrlf q)
  Decoy block line after := ∃ p m q, line = p ++ (m ++ q) ∧ lowercased m = "remote ".toList ∧ Alone p q ∧
    GoesOn (q :: after) ∧
    (block ≠ none ∨ m ≠ "remote ".toList ∨ (∃ c ∈ p, isSpace c = false) ∨ NoMore (trimCrlf q))
  Hidden block line after := block = none ∧ (OneTerm (trimCrlf line) "<remote>".toList ∨
    ∃ gap raw sep rest, trimCrlf line = gap ++ (raw ++ (sep ++ rest)) ∧ Blanks gap ∧ raw ≠ [] ∧
      Spells raw "remote".toList ∧ Blank sep ∧ Argument rest ∧
      ('\\' ∈ gap ∨ raw ≠ "remote".toList ∨ sep ≠ [' '] ∨ (∃ d ∈ rest.head?, Unicode.isExtending d = true) ∨
        ¬GoesOn (rest :: after)))

/-- `ca ` at the beginning of a line for Foundation, which may be a part of one for OpenVPN, with something else
behind it on the line for Foundation: what is before that line, its white space, the word, and what is behind
the word, on that line and then. -/
structure CaWord (line u g m q v : Text) : Prop where
  line : line = u ++ (g ++ (m ++ (q ++ v)))
  start : ∀ d ∈ u.getLast?, isNewline d
  white : ∀ c ∈ g, isWhitespace c
  word : lowercased m = "ca ".toList
  alone : ∀ d ∈ q.head?, Unicode.isExtending d = false
  rest : ∀ c ∈ q, isNewline c = false
  goesOn : ∃ c ∈ q, isWhitespace c = false
  ends : ∀ d ∈ v.head?, isNewline d

/-- `hasInlineCA` and `hasCAFile`: the tag in a line, or `ca ` at its beginning with something else behind it.
Usually there is white space and the tag, with nothing but a comment behind it; or the word, a blank and an
argument. -/
def ca : Sign where
  name := "ca".toList
  Marks line _ := (∃ p m q, line = p ++ (m ++ q) ∧ lowercased m = "<ca>".toList ∧ Alone p q) ∨
    ∃ u g m q v, CaWord line u g m q v
  Plain block line _ := block = none ∧
    ((∃ p q, line = p ++ ("<ca>".toList ++ q) ∧ (∀ c ∈ p, isSpace c) ∧ NoMore (trimCrlf q)) ∨
      ∃ u g q v, CaWord line u g "ca ".toList q v ∧ (∀ c ∈ u ++ g, isSpace c) ∧ Argument (trimCrlf (q ++ v)))
  Decoy block line _ :=
    (∃ p m q, line = p ++ (m ++ q) ∧ lowercased m = "<ca>".toList ∧ Alone p q ∧
      (block ≠ none ∨ m ≠ "<ca>".toList ∨ (∃ c ∈ p, isSpace c = false) ∨ Argument (trimCrlf q))) ∨
    ∃ u g m q v, CaWord line u g m q v ∧
      (block ≠ none ∨ m ≠ "ca ".toList ∨ (∃ c ∈ u ++ g, isSpace c = false) ∨ NoMore (trimCrlf (q ++ v)))
  Hidden block line _ := block = none ∧
    ((∃ gap raw rest, trimCrlf line = gap ++ (raw ++ rest) ∧ Blanks gap ∧ raw ≠ [] ∧
        LastTerm raw rest "<ca>".toList ∧ ('\\' ∈ gap ∨ raw ≠ "<ca>".toList)) ∨
      ∃ gap raw sep rest, trimCrlf line = gap ++ (raw ++ (sep ++ rest)) ∧ Blanks gap ∧ raw ≠ [] ∧
        Spells raw "ca".toList ∧ Blank sep ∧ Argument rest ∧
        ('\\' ∈ gap ∨ raw ≠ "ca".toList ∨ sep ≠ [' '] ∨ (∃ d ∈ rest.head?, Unicode.isExtending d = true) ∨
          ∀ c ∈ rest.takeWhile fun d => !isNewline d, isWhitespace c))

end Signs

/-- A line of the text has one of the forms. -/
def HasLine (s : Text) (form : Option Text → Text → List Text → Prop) : Prop :=
  ∃ l : Line s, form l.block l.line l.after

section Signs

variable [Unicode]

/-- The validation finds a server and a certificate, and the text does not have both. -/
def Misled (s : Text) : Prop :=
  (HasLine s remote.Plain ∨ HasLine s remote.Decoy) ∧ (HasLine s ca.Plain ∨ HasLine s ca.Decoy) ∧
    (¬HasLine s remote.Plain ∧ ¬HasLine s remote.Hidden ∨ ¬HasLine s ca.Plain ∧ ¬HasLine s ca.Hidden)

/-- The text has a server and a certificate, and the validation does not find both. -/
def Missed (s : Text) : Prop :=
  (HasLine s remote.Plain ∨ HasLine s remote.Hidden) ∧ (HasLine s ca.Plain ∨ HasLine s ca.Hidden) ∧
    (¬HasLine s remote.Plain ∧ ¬HasLine s remote.Decoy ∨ ¬HasLine s ca.Plain ∧ ¬HasLine s ca.Decoy)

/-- The validation accepts a text with these options if there are a server and a certificate among them, and
only then. -/
def ValidatesOptions (s : Text) (opts : List Opt) : Prop :=
  OpenVPNConfig.validate s = none ↔ HasOption "remote".toList opts ∧ HasOption "ca".toList opts

end Signs

/-! ### Places in a text -/

section Places

variable {s : Text}

/-- A part of a text without line feeds stands in a line. -/
lemma exists_line {p m q : Text} (hs : s = p ++ (m ++ q)) (hm : '\n' ∉ m) :
    ∃ (l : Line s) (x y : Text), l.line = x ++ (m ++ y) ∧ x <:+ p ∧ y <+: q ∧ textLines q = y :: l.after := by
  obtain ⟨us, x, hp⟩ := (List.eq_nil_or_concat' (p.splitOn '\n')).resolve_left (List.splitOn_ne_nil _ _)
  obtain ⟨y, ys, hq⟩ := List.exists_cons_of_ne_nil (List.splitOn_ne_nil '\n' q)
  have hmq : (m ++ q).splitOn '\n' = (m ++ y) :: ys := by
    rw [List.splitOn_eq_splitOnP] at hq ⊢
    refine splitOnP_append_free (fun c hc => ?_) hq
    have hne : c ≠ '\n' := fun heq => hm (heq ▸ hc)
    simpa using hne
  have hsplit : textLines s = us ++ (x ++ (m ++ y)) :: ys := by
    rw [textLines, hs, List.splitOn_eq_splitOnP]
    rw [List.splitOn_eq_splitOnP] at hp hmq
    exact splitOnP_append hp hmq
  have hx : x <:+ p := by
    obtain ⟨u, v, h⟩ := exists_joinedAround ['\n'] us x []
    have heq := h.eq
    rw [← hp, List.intercalate_splitOn, h.last rfl, List.append_nil] at heq
    exact ⟨u, heq.symm⟩
  have hy : y <+: q := by
    obtain ⟨u, v, h⟩ := exists_joinedAround ['\n'] [] y ys
    have heq := h.eq
    rw [List.nil_append, ← hq, List.intercalate_splitOn, h.first rfl, List.nil_append] at heq
    exact ⟨v, heq.symm⟩
  exact ⟨⟨us, _, ys, hsplit⟩, x, y, rfl, hx, hy, hq⟩

/-- What is before and behind a line. -/
lemma Line.text_eq (l : Line s) : ∃ u v, s = u ++ (l.line ++ v) ∧ (∀ d ∈ u.getLast?, d = '\n') ∧
    (∀ d ∈ v.head?, d = '\n') ∧ ∀ m ∈ l.after, ∀ c ∈ m, c ∈ v := by
  obtain ⟨before, line, after, hlines⟩ := l
  have hs : s = ['\n'].intercalate (before ++ line :: after) := by
    rw [← hlines, List.intercalate_splitOn]
  obtain ⟨u, v, h⟩ := exists_joinedAround ['\n'] before line after
  refine ⟨u, v, hs.trans h.eq, ?_, ?_, fun m hm c hc => (h.behind m hm).subset hc⟩
  · rcases h.left with rfl | ⟨u', rfl⟩
    · simp
    · simp
  · rcases h.right with rfl | ⟨v', rfl⟩
    · simp
    · simp

lemma exists_line_iff {P : Text → Prop} : (∃ l : Line s, P l.line) ↔ ∃ line ∈ textLines s, P line := by
  constructor
  · rintro ⟨l, hl⟩
    exact ⟨l.line, by simp [l.lines], hl⟩
  · rintro ⟨line, hline, hP⟩
    obtain ⟨before, after, hlines⟩ := List.append_of_mem hline
    exact ⟨⟨before, line, after, hlines⟩, hP⟩

lemma exists_reading_iff {P : Reading → Prop} :
    (∃ l : Line s, P l.reading) ↔ ∃ r ∈ readingsOf none (textLines s), P r := by
  constructor
  · rintro ⟨l, hl⟩
    refine ⟨l.reading, ?_, hl⟩
    rw [l.lines, readingsOf_append, readingsOf_cons]
    exact List.mem_append_right _ (List.mem_cons_self ..)
  · rintro ⟨r, hr, hP⟩
    obtain ⟨before, line, after, hlines, rfl⟩ := exists_of_mem_readingsOf hr
    exact ⟨⟨before, line, after, hlines⟩, hP⟩

end Places

/-! ### What the validation finds -/

section Marks

variable {s : Text}

lemma newline_notMem_of_lowercased {m w : Text} (h : lowercased m = w) (hw : '\n' ∉ w) : '\n' ∉ m :=
  fun hmem => hw (h ▸ mem_lowercased (by decide) hmem)

lemma exists_mem_textLines {q : Text} {c : Char} (hc : c ∈ q) (hne : c ≠ '\n') : ∃ l ∈ textLines q, c ∈ l := by
  obtain ⟨u, v, rfl⟩ := List.append_of_mem hc
  have hinfix : [c] <:+: u ++ c :: v := ⟨u, v, by simp⟩
  rw [textLines, List.splitOn_eq_splitOnP]
  obtain ⟨l, hl, hcl⟩ := exists_infix_of_mem_splitOnP (p := (· == '\n')) (by simpa using hne) hinfix
  exact ⟨l, hl, hcl.subset (List.mem_singleton_self c)⟩

variable [Unicode]

omit [Unicode] in
lemma isExtending_of_isNewline [Unicode] {v : Text} (hv : ∀ d ∈ v.head?, isNewline d) :
    ∀ d ∈ v.head?, Unicode.isExtending d = false :=
  fun d hd => (Unicode.blank d (by rw [isWhitespaceOrNewline, hv d hd, Bool.or_true])).1

/-- What a part of the text is joined to is what its line joins it to: at its ends there are line breaks. -/
lemma alone_append {u p q v : Text} (h : Alone p q) (hu : ∀ d ∈ u.getLast?, isWhitespaceOrNewline d)
    (hv : ∀ d ∈ v.head?, isWhitespaceOrNewline d) : Alone (u ++ p) (q ++ v) := by
  constructor
  · intro d hd
    rw [List.getLast?_append] at hd
    cases hp : p.getLast? with
    | none =>
      rw [hp] at hd
      exact (Unicode.blank d (hu d hd)).2
    | some e =>
      rw [hp] at hd
      exact h.1 d (hp ▸ hd)
  · intro d hd
    rw [List.head?_append] at hd
    cases hq : q.head? with
    | none =>
      rw [hq] at hd
      exact (Unicode.blank d (hv d hd)).1
    | some e =>
      rw [hq] at hd
      exact h.2 d (hq ▸ hd)

/-- What is nearer is joined no less. -/
lemma alone_of_around {u p q v : Text} (h : Alone u v) (hp : p <:+ u) (hq : q <+: v) : Alone p q := by
  obtain ⟨x, rfl⟩ := hp
  obtain ⟨y, rfl⟩ := hq
  constructor
  · intro d hd
    refine h.1 d ?_
    rw [List.getLast?_append, Option.mem_def.1 hd]
    rfl
  · intro d hd
    refine h.2 d ?_
    rw [List.head?_append, Option.mem_def.1 hd]
    rfl

omit [Unicode] in
/-- White space that is trimmed off joins nothing. -/
lemma blank_getLast {u : Text} (hu : ∀ c ∈ u, isWhitespaceOrNewline c) : ∀ d ∈ u.getLast?, isWhitespaceOrNewline d :=
  fun d hd => hu d (List.mem_of_getLast? hd)

omit [Unicode] in
lemma blank_head {v : Text} (hv : ∀ c ∈ v, isWhitespaceOrNewline c) : ∀ d ∈ v.head?, isWhitespaceOrNewline d :=
  fun d hd => hv d (List.mem_of_head? hd)

/-- **Where the validation finds a server.** -/
lemma contains_remote_iff : contains (lowercased (trimWhitespacesAndNewlines s)) "remote ".toList = true ↔
    ∃ l : Line s, remote.Marks l.line l.after := by
  have hword : "remote ".toList = "remote".toList ++ [' '] := by decide
  rw [hword, contains_lowercased (by decide) (by simp), ← hword]
  constructor
  · rintro ⟨p, m, q, htrim, hm, halone⟩
    obtain ⟨m', rfl, -⟩ := lowercased_eq_concat (by decide) (hm.trans hword)
    obtain ⟨u, v, hs, hu, hv⟩ := exists_trim isWhitespaceOrNewline s
    -- the text is trimmed, so that it goes on behind the blank
    have hself := trim_trim (p := isWhitespaceOrNewline) s
    rw [show trim isWhitespaceOrNewline s = _ from htrim] at hself hs
    rw [show p ++ (m' ++ [' '] ++ q) = (p ++ m') ++ ' ' :: q by simp] at hself
    obtain ⟨c, hc, hspace⟩ := exists_of_trim_eq_self rfl hself
    have hs' : s = (u ++ p) ++ (m' ++ [' '] ++ (q ++ v)) := by rw [hs]; simp
    obtain ⟨l, x, y, hline, hx, hy, hq⟩ := exists_line hs' (newline_notMem_of_lowercased hm (by decide))
    have hne : c ≠ '\n' := by
      rintro rfl
      cases hspace
    obtain ⟨l', hl', hc'⟩ := exists_mem_textLines (List.mem_append_left v hc) hne
    exact ⟨l, x, _, y, hline, hm, alone_of_around (alone_append halone (blank_getLast hu) (blank_head hv)) hx hy,
      l', hq ▸ hl', c, hc', hspace⟩
  · rintro ⟨l, p, m, q, hline, hm, halone, l', hl', c, hc, hspace⟩
    obtain ⟨u, v, hs, hu, hv', hv⟩ := l.text_eq
    have hmem : c ∈ q ++ v := by
      rcases List.mem_cons.1 hl' with rfl | hl'
      · exact List.mem_append_left _ hc
      · exact List.mem_append_right _ (hv l' hl' c hc)
    obtain ⟨q₁, q₂, hq⟩ := List.append_of_mem hmem
    obtain ⟨e, m', rfl, he⟩ := head_of_lowercased (by decide) hm
    have hpart : s = (u ++ p) ++ ((e :: (m' ++ q₁) ++ [c]) ++ q₂) := by
      rw [hs, hline, List.append_assoc p, List.append_assoc (e :: m'), hq]
      simp
    have htrim : trimWhitespacesAndNewlines s = (u ++ p).dropWhile isWhitespaceOrNewline ++
        ((e :: (m' ++ q₁) ++ [c]) ++ q₂.rdropWhile isWhitespaceOrNewline) := by
      conv_lhs => rw [hpart]
      refine trim_around (by simp) (by simpa using he) ?_
      rw [List.getLast?_concat]
      simpa using hspace
    have hnear : Alone ((u ++ p).dropWhile isWhitespaceOrNewline)
        (q₁ ++ c :: q₂.rdropWhile isWhitespaceOrNewline) := by
      refine alone_of_around (alone_append halone (fun d hd => by rw [hu d hd]; rfl) fun d hd => by rw [hv' d hd]; rfl)
        (List.dropWhile_suffix _) ?_
      rw [hq]
      exact (List.prefix_append_right_inj _).2 (List.cons_prefix_cons.2 ⟨rfl, List.rdropWhile_prefix _ _⟩)
    exact ⟨_, e :: m', q₁ ++ c :: q₂.rdropWhile isWhitespaceOrNewline, by rw [htrim]; simp, hm, hnear⟩

/-- The tag. -/
lemma contains_ca_iff : contains (lowercased (trimWhitespacesAndNewlines s)) "<ca>".toList = true ↔
    ∃ l : Line s, ∃ p m q, l.line = p ++ (m ++ q) ∧ lowercased m = "<ca>".toList ∧ Alone p q := by
  have hword : "<ca>".toList = "<ca".toList ++ ['>'] := by decide
  rw [hword, contains_lowercased (by decide) (by simp), ← hword]
  constructor
  · rintro ⟨p, m, q, htrim, hm, halone⟩
    obtain ⟨u, v, hs, hu, hv⟩ := exists_trim isWhitespaceOrNewline s
    rw [show trim isWhitespaceOrNewline s = _ from htrim] at hs
    have hs' : s = (u ++ p) ++ (m ++ (q ++ v)) := by rw [hs]; simp
    obtain ⟨l, x, y, hline, hx, hy, -⟩ := exists_line hs' (newline_notMem_of_lowercased hm (by decide))
    exact ⟨l, x, m, y, hline, hm,
      alone_of_around (alone_append halone (blank_getLast hu) (blank_head hv)) hx hy⟩
  · rintro ⟨l, p, m, q, hline, hm, halone⟩
    obtain ⟨u, v, hs, hu, hv, -⟩ := l.text_eq
    obtain ⟨m', hm', -⟩ := lowercased_eq_concat (by decide) (hm.trans hword)
    obtain ⟨e, m'', he, hspace⟩ := head_of_lowercased (by decide) hm
    have hpart : s = (u ++ p) ++ (m ++ (q ++ v)) := by rw [hs, hline]; simp
    have htrim : trimWhitespacesAndNewlines s = (u ++ p).dropWhile isWhitespaceOrNewline ++
        (m ++ (q ++ v).rdropWhile isWhitespaceOrNewline) := by
      conv_lhs => rw [hpart]
      refine trim_around (by rw [he]; simp) (by rw [he]; simpa using hspace) ?_
      rw [hm', List.getLast?_concat]
      simp only [Option.mem_def, Option.some.injEq, forall_eq']
      decide
    refine ⟨_, m, _, htrim, hm, alone_of_around (alone_append halone (fun d hd => by rw [hu d hd]; rfl)
      fun d hd => by rw [hv d hd]; rfl) (List.dropWhile_suffix _) (List.rdropWhile_prefix _ _)⟩

/-- A line for Foundation that begins with `ca `, behind white space. -/
lemma hasPrefix_ca_iff {l : Text} : hasPrefix (lowercased (trimWhitespaces l)) "ca ".toList = true ↔
    ∃ g m q, l = g ++ (m ++ q) ∧ (∀ c ∈ g, isWhitespace c) ∧ lowercased m = "ca ".toList ∧
      (∀ d ∈ q.head?, Unicode.isExtending d = false) ∧ ∃ c ∈ q, isWhitespace c = false := by
  have hword : "ca ".toList = "ca".toList ++ [' '] := by decide
  rw [hasPrefix_iff]
  constructor
  · rintro ⟨b, hb, hhead⟩
    obtain ⟨p, m, q, htrim, hp, hm, rfl⟩ := lowercased_eq_append_word (a := []) (d := ' ') (by decide) (by simp)
      (show lowercased (trimWhitespaces l) = [] ++ ("ca".toList ++ [' '] ++ b) by rw [← hword, hb]; rfl)
    obtain rfl : p = [] := by
      cases p with
      | nil => rfl
      | cons c p => exact absurd (List.append_eq_nil_iff.1 hp).1 (lowercaseMapping_ne_nil c)
    obtain ⟨g, v, hl, hg, hv⟩ := exists_trim isWhitespace l
    obtain ⟨m', rfl, -⟩ := lowercased_eq_concat (by decide) hm
    have hself := trim_trim (p := isWhitespace) l
    rw [show trim isWhitespace l = _ from htrim] at hself hl
    rw [show [] ++ (m' ++ [' '] ++ q) = m' ++ ' ' :: q by simp] at hself
    obtain ⟨c, hc, hspace⟩ := exists_of_trim_eq_self rfl hself
    refine ⟨g, m' ++ [' '], q ++ v, by rw [hl]; simp, hg, hm.trans hword.symm, ?_, c, List.mem_append_left v hc, hspace⟩
    have hq := isExtending_head_lowercased.1 hhead
    cases q with
    | nil => cases hc
    | cons d q => exact hq
  · rintro ⟨g, m, q, rfl, hg, hm, hhead, c, hc, hspace⟩
    obtain ⟨q₁, q₂, rfl⟩ := List.append_of_mem hc
    obtain ⟨e, m', rfl, he⟩ := head_of_lowercased (by decide) hm
    have htrim : trimWhitespaces (g ++ (e :: m' ++ (q₁ ++ c :: q₂))) =
        e :: m' ++ (q₁ ++ c :: q₂.rdropWhile isWhitespace) := by
      have hsplit := trim_around (p := isWhitespace) (u := []) (k := e :: (m' ++ q₁) ++ [c]) (v := q₂) (by simp)
        (by simpa using (Bool.or_eq_false_iff.1 he).1) (by
          rw [List.getLast?_concat]
          simpa using hspace)
      rw [trimWhitespaces, trim_append_left hg]
      simpa using hsplit
    refine ⟨lowercased (q₁ ++ c :: q₂.rdropWhile isWhitespace), by rw [htrim, lowercased_append, hm],
      isExtending_head_lowercased.2 ?_⟩
    cases q₁ <;> exact hhead

/-- The lines of the trimmed text in lower case begin with `ca ` where those of the text do. -/
lemma any_hasPrefix_ca (s : Text) : ((components (lowercased (trimWhitespacesAndNewlines s))).any
    fun line => hasPrefix (trimWhitespaces line) "ca ".toList) =
      ((components s).map trimWhitespaces).any fun line => hasPrefix (lowercased line) "ca ".toList := by
  obtain ⟨us, vs, hs, hus, hvs⟩ := map_trim_components s
  have hblank : ∀ ls : List Text, (∀ l ∈ ls, l = []) →
      (ls.any fun line => hasPrefix (lowercased line) "ca ".toList) = false := by
    intro ls hls
    rw [List.any_eq_false]
    intro l hl
    rw [hls l hl]
    exact Bool.false_ne_true
  rw [hs, List.any_append, List.any_append, hblank us hus, hblank vs hvs, Bool.or_false, Bool.false_or,
    components_lowercased, List.any_map, List.any_map]
  congr 1
  funext line
  rw [Function.comp_apply, Function.comp_apply, trimWhitespaces_lowercased]

/-- The lines for Foundation in a line for OpenVPN. -/
lemma exists_caWord_iff {line : Text} : (∃ l ∈ components line, ∃ g m q, l = g ++ (m ++ q) ∧
    (∀ c ∈ g, isWhitespace c) ∧ lowercased m = "ca ".toList ∧ (∀ d ∈ q.head?, Unicode.isExtending d = false) ∧
      ∃ c ∈ q, isWhitespace c = false) ↔ ∃ u g m q v, CaWord line u g m q v := by
  constructor
  · rintro ⟨l, hl, g, m, q, rfl, hg, hm, hhead, hq⟩
    obtain ⟨hfree, u, v, hline, hu, hv⟩ := mem_splitOnP_iff.1 hl
    exact ⟨u, g, m, q, v, by rw [hline]; simp, hu, hg, hm, hhead, fun c hc => hfree c (by simp [hc]), hq, hv⟩
  · rintro ⟨u, g, m, q, v, hline, hu, hg, hm, hhead, hfree, hq, hv⟩
    refine ⟨g ++ (m ++ q), mem_splitOnP_iff.2 ⟨?_, u, v, by rw [hline]; simp, hu, hv⟩, g, m, q, rfl, hg, hm,
      hhead, hq⟩
    simp only [List.mem_append]
    rintro c (hc | hc | hc)
    · by_contra hnew
      rw [Bool.not_eq_false] at hnew
      have hwhite := hg c hc
      rw [isWhitespace_of_isNewline hnew] at hwhite
      cases hwhite
    · by_contra hnew
      rw [Bool.not_eq_false] at hnew
      have hmem := mem_lowercased (lowercaseMapping_of_isNewline hnew) hc
      rw [hm] at hmem
      have hall : ("ca ".toList.all fun c => !isNewline c) = true := by decide
      simpa [hnew] using List.all_eq_true.1 hall c hmem
    · exact hfree c hc

/-- **Where the validation finds a certificate.** -/
lemma hasCA_iff : (contains (lowercased (trimWhitespacesAndNewlines s)) "<ca>".toList ||
      (components (lowercased (trimWhitespacesAndNewlines s))).any
        fun line => hasPrefix (trimWhitespaces line) "ca ".toList) = true ↔
    ∃ l : Line s, ca.Marks l.line l.after := by
  have hlines : components s = (textLines s).flatMap components := by
    rw [textLines, List.splitOn_eq_splitOnP]
    exact (flatMap_splitOnP (fun c hc => by rw [beq_iff_eq.1 hc]; rfl) s).symm
  rw [Bool.or_eq_true, contains_ca_iff, any_hasPrefix_ca, hlines]
  simp only [List.any_eq_true, List.mem_map, List.mem_flatMap, exists_exists_and_eq_and, hasPrefix_ca_iff]
  constructor
  · rintro (⟨l, h⟩ | ⟨l', ⟨line, hline, hl'⟩, h⟩)
    · exact ⟨l, Or.inl h⟩
    · obtain ⟨l, hl⟩ := exists_line_iff (P := fun line => l' ∈ components line).2 ⟨line, hline, hl'⟩
      exact ⟨l, Or.inr (exists_caWord_iff.1 ⟨l', hl, h⟩)⟩
  · rintro ⟨l, h | h⟩
    · exact Or.inl ⟨l, h⟩
    · obtain ⟨l', hl', h⟩ := exists_caWord_iff.2 h
      exact Or.inr ⟨l', ⟨l.line, by simp [l.lines], hl'⟩, h⟩

/-- **What the validation finds.** -/
theorem validate_eq_none_iff : OpenVPNConfig.validate s = none ↔
    (∃ l : Line s, remote.Marks l.line l.after) ∧ ∃ l : Line s, ca.Marks l.line l.after := by
  rw [← contains_remote_iff, ← hasCA_iff]
  unfold OpenVPNConfig.validate
  dsimp only
  by_cases hempty : trimWhitespacesAndNewlines s = []
  · rw [if_pos hempty, hempty]
    exact iff_of_false (by simp) fun h => Bool.false_ne_true h.1
  rw [if_neg hempty]
  cases contains (lowercased (trimWhitespacesAndNewlines s)) "remote ".toList with
  | false => simp
  | true =>
    cases contains (lowercased (trimWhitespacesAndNewlines s)) "<ca>".toList with
    | true => simp
    | false =>
      cases (components (lowercased (trimWhitespacesAndNewlines s))).any
        fun line => hasPrefix (trimWhitespaces line) "ca ".toList <;> simp

end Marks

/-! ### The options -/

section Options

/-- The options with an argument are those of a line, or the blocks that are closed. -/
lemma exists_mem_optionsOf {name before : Text} {rs : List Reading} :
    HasOption name (optionsOf before rs) ↔ ∃ r ∈ rs, (∃ a as, r = .option name (a :: as)) ∨ r = .closes name := by
  unfold HasOption
  induction rs generalizing before with
  | nil => simp [optionsOf]
  | cons r rs ih =>
    simp only [optionsOf, List.mem_append, exists_or, ih, List.mem_cons, exists_eq_or_imp]
    refine or_congr_left ?_
    cases r with
    | option n args => simp [@eq_comm _ name, @eq_comm _ _ args]
    | closes tag => simp [@eq_comm _ name]
    | ignored => simp
    | opens tag => simp
    | content tag line => simp
    | extraneous n args => simp

/-- What is closed has been open before, or is opened. -/
lemma opens_of_closes {name : Text} {block : Option Text} {ls : List Text}
    (h : .closes name ∈ readingsOf block ls) : block = some name ∨ .opens name ∈ readingsOf block ls := by
  induction ls generalizing block with
  | nil => cases h
  | cons l ls ih =>
    cases block with
    | none =>
      rw [readingsOf_cons, List.mem_cons] at h ⊢
      refine Or.inr ?_
      rcases h with h | h
      · exact absurd h.symm ((readLine_none_ne l).2 name)
      · rcases ih h with hblock | hopens
        · refine Or.inl ?_
          cases hr : readLine none l with
          | opens tag =>
            rw [hr] at hblock
            exact congrArg Reading.opens (Option.some.inj hblock).symm
          | content tag line => exact absurd hr ((readLine_none_ne l).1 tag line)
          | ignored => rw [hr] at hblock; cases hblock
          | option n args => rw [hr] at hblock; cases hblock
          | closes tag => rw [hr] at hblock; cases hblock
          | extraneous n args => rw [hr] at hblock; cases hblock
        · exact Or.inr hopens
    | some tag =>
      rw [readingsOf_cons, List.mem_cons] at h ⊢
      rcases readLine_some tag l with hr | ⟨line, hr⟩
      · rw [hr] at h ⊢
        rcases h with h | h
        · exact Or.inl (congrArg some (Reading.closes.inj h).symm)
        · exact Or.inr (Or.inr ((ih h).resolve_left (by simp)))
      · rw [hr] at h ⊢
        exact (ih (h.resolve_left (by simp))).imp_right Or.inr

/-- What is opened is closed, if nothing is open in the end. -/
lemma closes_of_opens {name : Text} {block : Option Text} {ls : List Text}
    (hend : blockAfter block (readingsOf block ls) = none)
    (h : block = some name ∨ .opens name ∈ readingsOf block ls) : .closes name ∈ readingsOf block ls := by
  induction ls generalizing block with
  | nil =>
    rcases h with rfl | h
    · cases hend
    · cases h
  | cons l ls ih =>
    rw [readingsOf_cons, List.mem_cons] at h ⊢
    rw [readingsOf_cons, blockAfter] at hend
    rcases h with rfl | h | h
    · rcases readLine_some name l with hr | ⟨line, hr⟩
      · exact Or.inl hr.symm
      · exact Or.inr (ih hend (Or.inl (by rw [hr]; rfl)))
    · exact Or.inr (ih hend (Or.inl (by rw [← h]; rfl)))
    · exact Or.inr (ih hend (Or.inr h))

/-- **The options of a text**, by the lines that give them. -/
theorem hasOption_iff {lim : Option Limits} {s : Text} {opts : List Opt} (h : parseFromConfig lim s = .ok opts)
    (name : Text) : HasOption name opts ↔ ∃ l : Line s, Gives name l.reading := by
  obtain ⟨haccepted, -, rfl⟩ := parseFromConfig_eq_ok.1 h
  rw [exists_mem_optionsOf, exists_reading_iff]
  constructor
  · rintro ⟨r, hr, hoption | rfl⟩
    · exact ⟨r, hr, Or.inl hoption⟩
    · exact ⟨_, (opens_of_closes hr).resolve_left (by simp), Or.inr rfl⟩
  · rintro ⟨r, hr, hoption | rfl⟩
    · exact ⟨r, hr, Or.inl hoption⟩
    · exact ⟨_, closes_of_opens haccepted.closed (Or.inr hr), Or.inr rfl⟩

end Options

/-! ### How these lines are written -/

section Forms

/-- The tag that opens a block. -/
lemma opens_iff {name str : Text} (hne : name ≠ []) (hslash : name.head? ≠ some '/') :
    isOpenTag str = true ∧ untagOpenTag str = name ↔ str = '<' :: (name ++ ['>']) := by
  constructor
  · rintro ⟨hopen, rfl⟩
    simp only [isOpenTag, Bool.and_eq_true, decide_eq_true_eq] at hopen
    obtain ⟨⟨⟨hlength, hhead⟩, -⟩, hlast⟩ := hopen
    obtain ⟨t, rfl⟩ := List.head?_eq_some_iff.1 hhead
    obtain ⟨mid, hmid⟩ := List.getLast?_eq_some_iff.1 hlast
    cases mid with
    | nil => cases hmid
    | cons d mid =>
      obtain ⟨rfl, ht⟩ := List.cons.inj hmid
      rw [List.append_eq] at ht
      subst ht
      have huntag : untagOpenTag ('<' :: (mid ++ ['>'])) = mid := by
        rw [untagOpenTag, if_pos hlength]
        simp
      rw [huntag]
  · rintro rfl
    obtain ⟨c, name, rfl⟩ := List.exists_cons_of_ne_nil hne
    have hc : c ≠ '/' := by simpa using hslash
    have hlast : ('<' :: (c :: name ++ ['>'])).getLast? = some '>' := by
      rw [← List.cons_append, List.getLast?_concat]
    have hlength : 3 ≤ ('<' :: (c :: name ++ ['>'])).length := by simp
    constructor
    · rw [isOpenTag, hlast, decide_eq_true hlength]
      simp [hc]
    · rw [untagOpenTag, if_pos hlength]
      simp

/-- **How a line is written that gives an option**: outside of a block, with the name and an argument, or with
the tag alone. -/
theorem gives_iff {name : Text} (hopen : isOpenTag name = false) (hne : name ≠ []) (hslash : name.head? ≠ some '/')
    {block : Option Text} {line : Text} : Gives name (readLine block line) ↔ block = none ∧
      (SeveralTerms (trimCrlf line) name ∨ OneTerm (trimCrlf line) ('<' :: (name ++ ['>']))) := by
  cases block with
  | some tag =>
    refine iff_of_false ?_ (by simp)
    rcases readLine_some tag line with hr | ⟨l, hr⟩ <;> simp [Gives, hr]
  | none =>
    rw [and_iff_right rfl, ← exists_bySpace_eq_cons_iff, ← bySpace_eq_singleton_iff]
    unfold readLine Gives
    dsimp only
    by_cases hignore : ignoreLine (trimCrlf line) = true
    · rw [if_pos hignore, bySpace_of_ignoreLine hignore]
      simp
    · rw [if_neg hignore]
      cases bySpace (trimCrlf line) with
      | nil => simp
      | cons n args =>
        dsimp only
        by_cases hn : isOpenTag n = true
        · rw [if_pos hn]
          have hname : n ≠ name := by
            rintro rfl
            rw [hn] at hopen
            cases hopen
          cases args with
          | nil => simp [← opens_iff hne hslash, hn]
          | cons a as => simp [hname]
        · rw [if_neg hn]
          have htag : n ≠ '<' :: (name ++ ['>']) := fun h => hn ((opens_iff hne hslash).2 h).1
          cases args with
          | nil => simpa using htag
          | cons a as => simp

variable {line : Text}

/-- What is behind a part of a trimmed line, in the line as it stands. -/
lemma exists_behind {x v : Text} (h : trimCrlf line = x ++ v) :
    ∃ tail, line = x ++ (v ++ tail) ∧ (∀ c ∈ tail, isCrlf c) ∧ trimCrlf (v ++ tail) = v := by
  have htail : ∀ c ∈ line.rtakeWhile isCrlf, isCrlf c := fun c hc => List.mem_rtakeWhile_imp hc
  refine ⟨line.rtakeWhile isCrlf, ?_, htail, ?_⟩
  · rw [← List.append_assoc, ← h, List.rdropWhile_append_rtakeWhile]
  · rw [trimCrlf, rdropWhile_append_of_all htail, List.rdropWhile_eq_self_iff]
    intro hv
    have hself : trimCrlf (x ++ v) = x ++ v := by rw [← h, trimCrlf, List.rdropWhile_idempotent]
    have hlast := List.rdropWhile_eq_self_iff.1 hself (List.append_ne_nil_of_right_ne_nil x hv)
    rwa [List.getLast_append_of_ne_nil] at hlast

lemma isNewline_of_isCrlf {c : Char} (hc : isCrlf c) : isNewline c := by
  rcases Bool.or_eq_true_iff.1 hc with h | h <;> rw [of_decide_eq_true h] <;> decide

lemma ne_nil_of_argument {t : Text} (h : Argument t) : t ≠ [] := by
  rintro rfl
  obtain ⟨gap, r, hnil, -, hr⟩ := h
  obtain ⟨rfl, rfl⟩ := List.append_eq_nil_iff.1 hnil.symm
  exact not_stops_of_startsTerm hr (Or.inl rfl)

/-- What stands where there is no further term. -/
lemma head_of_noMore {t : Text} (h : NoMore t) : ∀ d ∈ t.head?, isSpace d ∨ d = '\\' ∨ isComment d := by
  obtain ⟨gap, r, rfl, hgap, hr⟩ := h
  intro d hd
  cases hgap with
  | nil =>
    rcases hr with rfl | rfl | ⟨c, r, rfl, hc⟩
    · cases hd
    · exact Or.inr (Or.inl (Option.some.inj hd).symm)
    · exact Or.inr (Or.inr (Option.some.inj hd ▸ hc))
  | cons hb _ =>
    cases hb with
    | space hc => exact Or.inl (Option.some.inj hd ▸ hc)
    | escaped _ => exact Or.inr (Or.inl (Option.some.inj hd).symm)

/-- White space, a word, a blank and an argument. -/
lemma severalTerms_of_word {p w q : Text} (hp : ∀ c ∈ p, isSpace c) (hw : ∀ c ∈ w, isPlain c) (hne : w ≠ [])
    (hq : Argument (trimCrlf q)) : SeveralTerms (trimCrlf (p ++ (w ++ ' ' :: q))) w := by
  refine ⟨p, w, [' '], trimCrlf q, ?_, blanks_of_isSpace hp, hne, spells_self hw, .space (by decide), hq⟩
  rw [trimCrlf, ← List.append_assoc, rdropWhile_append_cons (by decide)]
  simp

variable [Unicode] {block : Option Text} {after : List Text}

lemma isExtending_of_isSpace {c : Char} (hc : isSpace c) :
    Unicode.isExtending c = false ∧ Unicode.isPrepending c = false := by
  refine Unicode.blank c ?_
  simp only [isSpace, isWhitespaceOrNewline, isWhitespace, isNewline, Bool.or_eq_true, Bool.and_eq_true,
    decide_eq_true_eq] at hc ⊢
  rcases hc with rfl | hc
  · decide
  · omega

lemma isExtending_of_noMore {q : Text} (h : NoMore (trimCrlf q)) :
    ∀ d ∈ q.head?, Unicode.isExtending d = false := by
  intro d hd
  obtain ⟨tail, hq, hcrlf, -⟩ := exists_behind (show trimCrlf q = [] ++ trimCrlf q from rfl)
  rw [List.nil_append] at hq
  rw [hq, List.head?_append] at hd
  cases hhead : (trimCrlf q).head? with
  | none =>
    rw [hhead, Option.none_or] at hd
    exact isExtending_of_isNewline (fun e he => isNewline_of_isCrlf (hcrlf e (List.mem_of_head? he))) d hd
  | some e =>
    rw [hhead, Option.some_or] at hd
    obtain rfl := Option.some.inj hd
    rcases head_of_noMore h e hhead with hspace | rfl | hcomment
    · exact (isExtending_of_isSpace hspace).1
    · exact (Unicode.ascii '\\' (by decide)).1
    · rcases Bool.or_eq_true_iff.1 hcomment with he | he
      · exact of_decide_eq_true he ▸ (Unicode.ascii '#' (by decide)).1
      · exact of_decide_eq_true he ▸ (Unicode.ascii ';' (by decide)).1

omit [Unicode] in
lemma isWhitespace_of_isSpace {c : Char} (hc : isSpace c) (hn : isNewline c = false) : isWhitespace c := by
  simp only [isSpace, isNewline, isWhitespace, Bool.or_eq_true, Bool.and_eq_true, decide_eq_true_eq,
    Bool.or_eq_false_iff, Bool.and_eq_false_iff, decide_eq_false_iff_not] at hc hn ⊢
  rcases hc with rfl | hc
  · decide
  · omega

omit [Unicode] in
/-- A text to its last line break, and behind it. -/
lemma exists_last_newline (gap : Text) :
    ∃ u g, gap = u ++ g ∧ (∀ d ∈ u.getLast?, isNewline d) ∧ ∀ c ∈ g, isNewline c = false := by
  refine ⟨_, _, (List.rdropWhile_append_rtakeWhile (p := fun d => !isNewline d)).symm, fun d hd => ?_, fun c hc => ?_⟩
  · obtain ⟨hne, rfl⟩ := List.mem_getLast?_eq_getLast hd
    simpa using List.rdropWhile_last_not _ _ hne
  · simpa using List.mem_rtakeWhile_imp hc

omit [Unicode] in
/-- A term without quotes at the end of a line is closed. -/
lemma noMore_of_lastTerm {raw rest w : Text} (h : LastTerm raw rest w) (hquote : '"' ∉ raw) : NoMore rest := by
  cases h with
  | closed _ hrest => exact hrest
  | unclosed _ _ => exact absurd (by simp) hquote

/-- **The lines in which the validation finds a server.** -/
theorem marks_remote_iff : remote.Marks line after ↔ remote.Plain block line after ∨ remote.Decoy block line after := by
  constructor
  · rintro ⟨p, m, q, hline, hm, halone, hq⟩
    by_cases hdecoy : block ≠ none ∨ m ≠ "remote ".toList ∨ (∃ c ∈ p, isSpace c = false) ∨ NoMore (trimCrlf q)
    · exact Or.inr ⟨p, m, q, hline, hm, halone, hq, hdecoy⟩
    · simp only [not_or, not_exists, not_and, ne_eq, not_not, Bool.not_eq_false] at hdecoy
      obtain ⟨hblock, rfl, hp, hmore⟩ := hdecoy
      exact Or.inl ⟨hblock, p, q, hline, hp, halone.2, hq, (argument_or_noMore _).resolve_right hmore⟩
  · rintro (⟨-, p, q, hline, hp, hhead, hq, -⟩ | ⟨p, m, q, hline, hm, halone, hq, -⟩)
    · refine ⟨p, "remote ".toList, q, hline, by decide, ⟨fun d hd => ?_, hhead⟩, hq⟩
      exact (isExtending_of_isSpace (hp d (List.mem_of_getLast? hd))).2
    · exact ⟨p, m, q, hline, hm, halone, hq⟩

/-- **The lines with a server.** -/
theorem gives_remote_iff : Gives remote.name (readLine block line) ↔
    remote.Plain block line after ∨ remote.Hidden block line after := by
  have hform : Gives "remote".toList (readLine block line) ↔ _ := gives_iff (by decide) (by decide) (by decide)
  refine hform.trans ⟨?_, ?_⟩
  · rintro ⟨hblock, hseveral | hone⟩
    · obtain ⟨gap, raw, sep, rest, hline, hgap, hne, hraw, hsep, hrest⟩ := hseveral
      by_cases hhidden : '\\' ∈ gap ∨ raw ≠ "remote".toList ∨ sep ≠ [' '] ∨
          (∃ d ∈ rest.head?, Unicode.isExtending d = true) ∨ ¬GoesOn (rest :: after)
      · exact Or.inr ⟨hblock, Or.inr ⟨gap, raw, sep, rest, hline, hgap, hne, hraw, hsep, hrest, hhidden⟩⟩
      · simp only [not_or, not_exists, not_and, ne_eq, not_not, Bool.not_eq_true] at hhidden
        obtain ⟨hback, rfl, rfl, hhead, hgoes⟩ := hhidden
        obtain ⟨tail, hline', -, htail⟩ := exists_behind (x := gap ++ ("remote".toList ++ [' '])) (v := rest)
          (by rw [hline]; simp)
        obtain ⟨c, rest, rfl⟩ := List.exists_cons_of_ne_nil (ne_nil_of_argument hrest)
        obtain ⟨l, hl, d, hd, hspace⟩ := hgoes
        refine Or.inl ⟨hblock, gap, c :: rest ++ tail, by rw [hline']; simp, isSpace_of_blanks hgap hback, hhead, ?_,
          by rwa [htail]⟩
        rcases List.mem_cons.1 hl with rfl | hl
        · exact ⟨_, List.mem_cons_self .., d, List.mem_append_left tail hd, hspace⟩
        · exact ⟨l, List.mem_cons_of_mem _ hl, d, hd, hspace⟩
    · exact Or.inr ⟨hblock, Or.inl hone⟩
  · rintro (⟨hblock, p, q, rfl, hp, -, -, hq⟩ | ⟨hblock, hone | ⟨gap, raw, sep, rest, hline, hgap, hne, hraw, hsep, hrest, -⟩⟩)
    · exact ⟨hblock, Or.inl (severalTerms_of_word (w := "remote".toList) hp (List.all_eq_true.1 (by decide)) (by decide) hq)⟩
    · exact ⟨hblock, Or.inr hone⟩
    · exact ⟨hblock, Or.inl ⟨gap, raw, sep, rest, hline, hgap, hne, hraw, hsep, hrest⟩⟩

/-- **The lines in which the validation finds a certificate.** -/
theorem marks_ca_iff : ca.Marks line after ↔ ca.Plain block line after ∨ ca.Decoy block line after := by
  constructor
  · rintro (⟨p, m, q, hline, hm, halone⟩ | ⟨u, g, m, q, v, hword⟩)
    · by_cases hdecoy : block ≠ none ∨ m ≠ "<ca>".toList ∨ (∃ c ∈ p, isSpace c = false) ∨ Argument (trimCrlf q)
      · exact Or.inr (Or.inl ⟨p, m, q, hline, hm, halone, hdecoy⟩)
      · simp only [not_or, not_exists, not_and, ne_eq, not_not, Bool.not_eq_false] at hdecoy
        obtain ⟨hblock, rfl, hp, harg⟩ := hdecoy
        exact Or.inl ⟨hblock, Or.inl ⟨p, q, hline, hp, (argument_or_noMore _).resolve_left harg⟩⟩
    · by_cases hdecoy : block ≠ none ∨ m ≠ "ca ".toList ∨ (∃ c ∈ u ++ g, isSpace c = false) ∨
          NoMore (trimCrlf (q ++ v))
      · exact Or.inr (Or.inr ⟨u, g, m, q, v, hword, hdecoy⟩)
      · simp only [not_or, not_exists, not_and, ne_eq, not_not, Bool.not_eq_false] at hdecoy
        obtain ⟨hblock, rfl, hug, hmore⟩ := hdecoy
        exact Or.inl ⟨hblock, Or.inr ⟨u, g, q, v, hword, hug, (argument_or_noMore _).resolve_right hmore⟩⟩
  · rintro (⟨-, ⟨p, q, hline, hp, hmore⟩ | ⟨u, g, q, v, hword, -⟩⟩ | ⟨p, m, q, hline, hm, halone, -⟩ |
      ⟨u, g, m, q, v, hword, -⟩)
    · refine Or.inl ⟨p, "<ca>".toList, q, hline, by decide, fun d hd => ?_, isExtending_of_noMore hmore⟩
      exact (isExtending_of_isSpace (hp d (List.mem_of_getLast? hd))).2
    · exact Or.inr ⟨u, g, _, q, v, hword⟩
    · exact Or.inl ⟨p, m, q, hline, hm, halone⟩
    · exact Or.inr ⟨u, g, m, q, v, hword⟩

/-- A directive that is usually written begins a line for Foundation. -/
lemma exists_caWord_of_usual {gap rest : Text} (hline : trimCrlf line = gap ++ ("ca".toList ++ ([' '] ++ rest)))
    (hgap : ∀ c ∈ gap, isSpace c) (hhead : ∀ d ∈ rest.head?, Unicode.isExtending d = false)
    (hgoes : ∃ c ∈ rest.takeWhile fun d => !isNewline d, isWhitespace c = false) (hrest : Argument rest) :
    ∃ u g q v, CaWord line u g "ca ".toList q v ∧ (∀ c ∈ u ++ g, isSpace c) ∧ Argument (trimCrlf (q ++ v)) := by
  obtain ⟨u, g, rfl, hu, hg⟩ := exists_last_newline gap
  obtain ⟨tail, hline', hcrlf, htail⟩ := exists_behind (x := (u ++ g) ++ ("ca".toList ++ [' '])) (v := rest)
    (by rw [hline]; simp)
  have hparts := List.takeWhile_append_dropWhile (p := fun d => !isNewline d) (l := rest)
  refine ⟨u, g, rest.takeWhile fun d => !isNewline d, (rest.dropWhile fun d => !isNewline d) ++ tail,
    ⟨?_, hu, fun c hc => ?_, by decide, fun d hd => ?_, fun c hc => ?_, hgoes, ?_⟩, hgap, ?_⟩
  · rw [hline', ← List.append_assoc (rest.takeWhile _), hparts]
    simp
  · exact isWhitespace_of_isSpace (hgap c (List.mem_append_right u hc)) (hg c hc)
  · cases rest with
    | nil => cases hd
    | cons e rest =>
      rw [List.takeWhile_cons] at hd
      split_ifs at hd
      · exact hhead d hd
      · cases hd
  · simpa using List.mem_takeWhile_imp hc
  · cases hdrop : rest.dropWhile fun d => !isNewline d with
    | nil => exact fun d hd => isNewline_of_isCrlf (hcrlf d (List.mem_of_head? (by simpa [hdrop] using hd)))
    | cons e rest' =>
      have hnot := List.head?_dropWhile_not (fun d => !isNewline d) rest
      rw [hdrop] at hnot
      simpa using hnot
  · rw [← List.append_assoc, hparts, htail]
    exact hrest

/-- **The lines with a certificate.** -/
theorem gives_ca_iff : Gives ca.name (readLine block line) ↔
    ca.Plain block line after ∨ ca.Hidden block line after := by
  have hform : Gives "ca".toList (readLine block line) ↔ _ := gives_iff (by decide) (by decide) (by decide)
  refine hform.trans ⟨?_, ?_⟩
  · rintro ⟨hblock, ⟨gap, raw, sep, rest, hline, hgap, hne, hraw, hsep, hrest⟩ | ⟨gap, raw, rest, hline, hgap, hne, hlast⟩⟩
    · by_cases hhidden : '\\' ∈ gap ∨ raw ≠ "ca".toList ∨ sep ≠ [' '] ∨
          (∃ d ∈ rest.head?, Unicode.isExtending d = true) ∨
          ∀ c ∈ rest.takeWhile fun d => !isNewline d, isWhitespace c
      · exact Or.inr ⟨hblock, Or.inr ⟨gap, raw, sep, rest, hline, hgap, hne, hraw, hsep, hrest, hhidden⟩⟩
      · simp only [not_or, not_exists, not_and, ne_eq, not_not, Bool.not_eq_true, not_forall] at hhidden
        obtain ⟨hback, rfl, rfl, hhead, c, hc, hspace⟩ := hhidden
        exact Or.inl ⟨hblock, Or.inr (exists_caWord_of_usual hline (isSpace_of_blanks hgap hback) hhead
          ⟨c, hc, hspace⟩ hrest)⟩
    · by_cases hhidden : '\\' ∈ gap ∨ raw ≠ "<ca>".toList
      · exact Or.inr ⟨hblock, Or.inl ⟨gap, raw, rest, hline, hgap, hne, hlast, hhidden⟩⟩
      · simp only [not_or, ne_eq, not_not] at hhidden
        obtain ⟨hback, rfl⟩ := hhidden
        obtain ⟨tail, hline', -, htail⟩ := exists_behind (x := gap ++ "<ca>".toList) (v := rest)
          (by rw [hline]; simp)
        refine Or.inl ⟨hblock, Or.inl ⟨gap, rest ++ tail, by rw [hline']; simp, isSpace_of_blanks hgap hback, ?_⟩⟩
        rw [htail]
        exact noMore_of_lastTerm hlast (by decide)
  · rintro (⟨hblock, ⟨p, q, rfl, hp, hq⟩ | ⟨u, g, q, v, hword, hug, hq⟩⟩ |
      ⟨hblock, ⟨gap, raw, rest, hline, hgap, hne, hlast, -⟩ | ⟨gap, raw, sep, rest, hline, hgap, hne, hraw, hsep, hrest, -⟩⟩)
    · refine ⟨hblock, Or.inr ⟨p, "<ca>".toList, trimCrlf q, ?_, blanks_of_isSpace hp, by decide,
        .closed (spells_self (List.all_eq_true.1 (by decide))) hq⟩⟩
      have hsplit : p ++ ("<ca>".toList ++ q) = (p ++ "<ca".toList) ++ '>' :: q := by simp
      rw [hsplit, trimCrlf, rdropWhile_append_cons (by decide)]
      simp
    · have hline : line = (u ++ g) ++ ("ca".toList ++ ' ' :: (q ++ v)) := by rw [hword.line]; simp
      rw [hline]
      exact ⟨hblock, Or.inl (severalTerms_of_word hug (List.all_eq_true.1 (by decide)) (by decide) hq)⟩
    · exact ⟨hblock, Or.inr ⟨gap, raw, rest, hline, hgap, hne, hlast⟩⟩
    · exact ⟨hblock, Or.inl ⟨gap, raw, sep, rest, hline, hgap, hne, hraw, hsep, hrest⟩⟩

end Forms

/-! ### Where they agree -/

section Results

variable {s : Text}

lemma exists_or_iff {P : Line s → Prop} {Q R : Option Text → Text → List Text → Prop}
    (h : ∀ l : Line s, P l ↔ Q l.block l.line l.after ∨ R l.block l.line l.after) :
    (∃ l, P l) ↔ HasLine s Q ∨ HasLine s R := by
  rw [HasLine, HasLine, ← exists_or]
  exact exists_congr h

/-- **When the validation accepts the texts with a server and a certificate**: when it is not misled by what
only looks like them, and misses none that is unusually written. -/
theorem validatesOptions_iff [Unicode] {lim : Option Limits} {opts : List Opt}
    (h : parseFromConfig lim s = .ok opts) : ValidatesOptions s opts ↔ ¬Misled s ∧ ¬Missed s := by
  have hserver : HasOption "remote".toList opts ↔ HasLine s remote.Plain ∨ HasLine s remote.Hidden :=
    (hasOption_iff h remote.name).trans (exists_or_iff fun _ => gives_remote_iff)
  have hcertificate : HasOption "ca".toList opts ↔ HasLine s ca.Plain ∨ HasLine s ca.Hidden :=
    (hasOption_iff h ca.name).trans (exists_or_iff fun _ => gives_ca_iff)
  have hvalidates : OpenVPNConfig.validate s = none ↔
      (HasLine s remote.Plain ∨ HasLine s remote.Decoy) ∧ (HasLine s ca.Plain ∨ HasLine s ca.Decoy) := by
    rw [validate_eq_none_iff]
    exact and_congr (exists_or_iff fun _ => marks_remote_iff) (exists_or_iff fun _ => marks_ca_iff)
  have hmisled : Misled s ↔ ((HasLine s remote.Plain ∨ HasLine s remote.Decoy) ∧
      (HasLine s ca.Plain ∨ HasLine s ca.Decoy)) ∧
        ¬((HasLine s remote.Plain ∨ HasLine s remote.Hidden) ∧ (HasLine s ca.Plain ∨ HasLine s ca.Hidden)) := by
    rw [Misled, ← not_or, ← not_or, ← not_and_or, and_assoc]
  have hmissed : Missed s ↔ ((HasLine s remote.Plain ∨ HasLine s remote.Hidden) ∧
      (HasLine s ca.Plain ∨ HasLine s ca.Hidden)) ∧
        ¬((HasLine s remote.Plain ∨ HasLine s remote.Decoy) ∧ (HasLine s ca.Plain ∨ HasLine s ca.Decoy)) := by
    rw [Missed, ← not_or, ← not_or, ← not_and_or, and_assoc]
  rw [ValidatesOptions, hvalidates, hserver, hcertificate, hmisled, hmissed, not_and_not_right, not_and_not_right]
  exact iff_def

/-- What is usually written is neither. -/
lemma clear_of_plain [Unicode] (hserver : HasLine s remote.Plain) (hcertificate : HasLine s ca.Plain) :
    ¬Misled s ∧ ¬Missed s :=
  ⟨fun h => h.2.2.elim (fun hno => hno.1 hserver) fun hno => hno.1 hcertificate,
    fun h => h.2.2.elim (fun hno => hno.1 hserver) fun hno => hno.1 hcertificate⟩

/-- A server behind a tabulation is missed. -/
theorem not_validatesOptions_tabulation : ¬∀ (lim : Option Limits) (s : Text) (opts : List Opt),
    parseFromConfig lim s = .ok opts → ValidatesOptions s opts := by
  intro h
  have hparse : parseFromConfig none "remote\tvpn.example.com 1194\n<ca>\nA\n</ca>\n".toList =
      .ok [["remote".toList, "vpn.example.com".toList, "1194".toList], ["ca".toList, "A\n".toList]] :=
    toOption_eq_some.1 (by decide +kernel)
  have hrefused : OpenVPNConfig.validate "remote\tvpn.example.com 1194\n<ca>\nA\n</ca>\n".toList ≠ none := by
    decide +kernel
  have hcertificate : HasOption "ca".toList [["remote".toList, "vpn.example.com".toList, "1194".toList],
      ["ca".toList, "A\n".toList]] := ⟨"A\n".toList, [], List.mem_cons_of_mem _ (List.mem_cons_self ..)⟩
  exact hrefused ((h none _ _ hparse).2 ⟨⟨_, _, List.mem_cons_self ..⟩, hcertificate⟩)

/-- A server in a comment misleads; what is usually written does not. -/
theorem validatesOptions_iff_comment :
    (parseFromConfig none "# remote a\n<ca>\nA\n</ca>\n".toList = .ok [["ca".toList, "A\n".toList]] ∧
      ¬(¬Misled "# remote a\n<ca>\nA\n</ca>\n".toList ∧ ¬Missed "# remote a\n<ca>\nA\n</ca>\n".toList)) ∧
    parseFromConfig none "remote a\n<ca>\nA\n</ca>\n".toList =
      .ok [["remote".toList, "a".toList], ["ca".toList, "A\n".toList]] ∧
      OpenVPNConfig.validate "remote a\n<ca>\nA\n</ca>\n".toList = none := by
  refine ⟨?_, ?_⟩
  · have hparse : parseFromConfig none "# remote a\n<ca>\nA\n</ca>\n".toList =
        .ok [["ca".toList, "A\n".toList]] := toOption_eq_some.1 (by decide +kernel)
    refine ⟨hparse, fun hclear => ?_⟩
    have haccepted : OpenVPNConfig.validate "# remote a\n<ca>\nA\n</ca>\n".toList = none := by decide +kernel
    obtain ⟨⟨a, as, hmem⟩, -⟩ := ((validatesOptions_iff hparse).2 hclear).1 haccepted
    exact absurd (List.cons.inj (List.mem_singleton.1 hmem)).1 (by decide)
  · have hparse : parseFromConfig none "remote a\n<ca>\nA\n</ca>\n".toList =
        .ok [["remote".toList, "a".toList], ["ca".toList, "A\n".toList]] := toOption_eq_some.1 (by decide +kernel)
    have hserver : HasLine "remote a\n<ca>\nA\n</ca>\n".toList remote.Plain := by
      refine ⟨⟨[], "remote a".toList, ["<ca>".toList, "A".toList, "</ca>".toList, []], by decide +kernel⟩, rfl, [],
        "a".toList, rfl, by simp, fun _ _ => rfl, ⟨"a".toList, List.mem_cons_self .., 'a', by simp, by decide⟩, ?_⟩
      exact ⟨[], "a".toList, rfl, .nil, Or.inl ⟨'a', [], rfl, by decide⟩⟩
    have hcertificate : HasLine "remote a\n<ca>\nA\n</ca>\n".toList ca.Plain := by
      refine ⟨⟨["remote a".toList], "<ca>".toList, ["A".toList, "</ca>".toList, []], by decide +kernel⟩, ?_, Or.inl
        ⟨[], [], rfl, by simp, [], [], rfl, .nil, Or.inl rfl⟩⟩
      decide +kernel
    exact ⟨hparse, ((validatesOptions_iff hparse).2 (clear_of_plain hserver hcertificate)).2
      ⟨⟨_, _, List.mem_cons_self ..⟩, _, _, List.mem_cons_of_mem _ (List.mem_cons_self ..)⟩⟩

end Results

end FreeVPN.OpenVPN
