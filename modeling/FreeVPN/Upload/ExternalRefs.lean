import FreeVPN.Lib.Except
import FreeVPN.Foundation.JavaScript

/-!
# Archives with an OpenVPN text

`resolveExternalRefs` of the upload page's script puts the files of an archive into the text that names
them.  A line with a directive that names a file is left out, and a block with the file is put behind the
text; a `tls-auth` line with a direction leaves a `key-direction` line.

* `reference` — the directive of a line and the file that it names;
* `resolveLine`, `resolveExternalRefs` — the script;
* `Names`, `Resolved`, `Inlined` — what should become of a line, and of a text;
* `Found` — when it does;
* `reference_eq_some_iff`, `resolveLine_cases` — what the script finds in a line, and makes of it.

`toLowerCase` is that of JavaScript; nothing here depends on what it is.
-/

namespace FreeVPN.Upload

open FreeVPN.Lib FreeVPN.Foundation FreeVPN.Foundation.JavaScript

/-! ### Directives -/

/-- `directives` -/
inductive Directive
  | ca
  | cert
  | key
  | tlsAuth
  | tlsCrypt
  deriving DecidableEq

/-- The name of a directive. -/
def Directive.name : Directive → Text
  | .ca => "ca".toList
  | .cert => "cert".toList
  | .key => "key".toList
  | .tlsAuth => "tls-auth".toList
  | .tlsCrypt => "tls-crypt".toList

/-- `['ca','cert','key','tls-auth','tls-crypt']` -/
def directives : List Directive := [.ca, .cert, .key, .tlsAuth, .tlsCrypt]

/-- `/^dir\s+/i`, the part of the expression before the group. -/
def directiveStart (dir : Directive) : Regex Char :=
  .seq .lineStart (.seq (.word ignoringCase dir.name) (.seq (.one isSpace) (.many isSpace)))

/-- `trimmed.match(/^dir\s+(.+)$/i)[1]`: as much white space as possible is left before the group, and no
line terminator is in it. -/
def argumentOf (dir : Directive) (trimmed : Text) : Option Text :=
  (((directiveStart dir).ends (fun _ => false) none trimmed).map Prod.snd).reverse.find?
    fun rest => !rest.isEmpty && rest.all fun c => !isLineTerminator c

/-- `ref`: the argument without its quotes. -/
def unquoted (argument : Text) : Text := (trim isSpace argument).filter fun c => c ≠ '"' ∧ c ≠ '\''

/-- The directive of a line and what it refers to, unless the line is blank, a comment or something else. -/
def reference (line : Text) : Option (Directive × Text) :=
  let trimmed := trim isSpace line
  if trimmed = [] ∨ trimmed.head? = some '#' ∨ trimmed.head? = some ';' then none
  else directives.findSome? fun dir => (argumentOf dir trimmed).map fun argument => (dir, unquoted argument)

/-! ### Files -/

/-- What `files[k]` is. -/
inductive Value
  | undefined
  | string (s : Text)
  /-- A property that every object has. -/
  | inherited

/-- The properties of every object whose names are lowercase. -/
def objectProperties : List Text := ["constructor".toList, "__proto__".toList]

/-- `files[k]` -/
def lookup (files : Text → Option Text) (k : Text) : Value :=
  match files k with
  | some s => .string s
  | none => if k ∈ objectProperties then .inherited else .undefined

/-- Is a value taken for true? -/
def Value.truthy : Value → Bool
  | .undefined => false
  | .string s => !s.isEmpty
  | .inherited => true

/-- `path.split('/').pop()` -/
def baseName (path : Text) : Text := (path.splitOn '/').getLast?.getD []

/-- `files[k]=c`: a text does not become the prototype of an object. -/
def store (files : Text → Option Text) (k c : Text) : Text → Option Text :=
  if k = "__proto__".toList then files else Function.update files k (some c)

/-- `fileContents` of an archive: every file under its base name and under its path. -/
def fileContents (toLowerCase : Text → Text) (entries : List (Text × Text)) : Text → Option Text :=
  entries.foldl (fun files e => store (store files (toLowerCase (baseName e.1)) e.2) (toLowerCase e.1) e.2)
    fun _ => none

section Script

variable (toLowerCase : Text → Text) (files : Text → Option Text)

/-- `files[refLower]||files[baseName]` -/
def contentOf (ref : Text) : Value :=
  let content := lookup files (toLowerCase ref)
  if content.truthy then content else lookup files (toLowerCase (baseName ref))

/-! ### The script -/

/-- `split(/\s+/)`; `gap` says that the last character was white space. -/
def splitSpaces (gap : Bool) : Text → List Text
  | [] => [[]]
  | c :: s =>
    if isSpace c then (if gap then splitSpaces true s else [] :: splitSpaces true s)
    else (splitSpaces false s).modifyHead (c :: ·)

/-- An inline block. -/
structure Block where
  name : Directive
  content : Text

/-- `content.trim` of what is no string. -/
inductive TypeError
  | notAFunction
  deriving DecidableEq

/-- The line for a direction. -/
def keyDirection (direction : Text) : Text := "key-direction ".toList ++ direction

/-- What a line adds to `result` and to `blocks`. -/
def resolveLine (line : Text) : Except TypeError (Option Text × Option Block) :=
  match reference line with
  | none => .ok (some line, none)
  | some (dir, ref) =>
    if ref.head? = some '[' then .ok (some line, none)
    else match contentOf toLowerCase files ref with
      | .inherited => .error .notAFunction
      | .undefined => .ok (some line, none)
      | .string content =>
        if content.isEmpty then .ok (some line, none)
        else
          let parts := splitSpaces false ref
          .ok (if dir = .tlsAuth ∧ 1 < parts.length then some (keyDirection (parts.getLast?.getD [])) else none,
            some ⟨dir, trim isSpace content⟩)

/-- A block as it is printed. -/
def Block.text (b : Block) : Text :=
  '\n' :: ('<' :: b.name.name ++ ['>']) ++ '\n' :: (b.content ++ '\n' :: ("</".toList ++ b.name.name ++ ['>']))

/-- `out` -/
def assemble (result : List Text) (blocks : List Block) : Text :=
  joined ['\n'] result ++ blocks.flatMap Block.text

/-- `resolveExternalRefs` -/
def resolveExternalRefs (ovpn : Text) : Except TypeError Text := do
  let (result, blocks) ← (ovpn.splitOn '\n').foldlM (fun (acc : List Text × List Block) line =>
    (resolveLine toLowerCase files line).map fun r => (acc.1 ++ r.1.toList, acc.2 ++ r.2.toList)) ([], [])
  return assemble result blocks

/-! ### What should become of a text -/

/-- The directives whose files may stand in the text. -/
def inlineNames : List Text :=
  ["ca".toList, "cert".toList, "key".toList, "tls-auth".toList, "tls-crypt".toList]

/-- The line is this directive, in whatever case, with this argument: white space around them, and something
else at both ends of the argument. -/
structure IsDirective (line name argument : Text) : Prop where
  mem : name ∈ inlineNames
  parts : ∃ u word gap v, line = u ++ (word ++ (gap ++ argument) ++ v) ∧ word.map Char.toLower = name ∧ gap ≠ [] ∧
    ∀ c ∈ u ++ (gap ++ v), isSpace c
  ne_nil : argument ≠ []
  trimmed : trim isSpace argument = argument
  oneLine : ∀ c ∈ argument, isLineTerminator c = false

/-- The line is this directive and refers to this: quotes do not count. -/
def Names (line name ref : Text) : Prop :=
  ∃ argument, IsDirective line name argument ∧ ref = argument.filter fun c => c ∉ ['"', '\'']

/-- The base name of a path. -/
def IsBaseName (base path : Text) : Prop := '/' ∉ base ∧ ∃ dir, path = dir ++ base ∧ ∀ c ∈ dir.getLast?, c = '/'

/-- A name and a direction behind it. -/
structure Directed (ref name direction : Text) : Prop where
  parts : ∃ gap, gap ≠ [] ∧ (∀ c ∈ gap, isSpace c) ∧ ref = name ++ (gap ++ direction)
  behind : ∀ c ∈ name.getLast?, isSpace c = false
  ne_nil : direction ≠ []
  oneWord : ∀ c ∈ direction, isSpace c = false

/-- The map has a file of this name, as a path or as a base name, which are what it is made of.  The base name
of another path is no name of it. -/
abbrev Present (name content : Text) : Prop := files (toLowerCase name) = some content

/-- What should become of a line: a block if it names a file, which leaves a line for the direction if there
is one, and else the line itself. -/
inductive Resolved (line : Text) : Option Text × Option (Text × Text) → Prop
  | whole {name ref content} (hline : Names line name ref) (hfile : Present toLowerCase files ref content) :
    Resolved line (none, some (name, trim isSpace content))
  /-- It must be clear which file is meant: none with another content has the base name of all that is behind
  the directive. -/
  | directed {ref name direction content} (hline : Names line "tls-auth".toList ref)
    (hother : ∀ c, ¬Present toLowerCase files ref c) (hname : Directed ref name direction)
    (hfile : Present toLowerCase files name content)
    (hclear : ∀ base c, IsBaseName base ref → Present toLowerCase files base c → c ≠ [] →
      trim isSpace c = trim isSpace content) :
    Resolved line (some ("key-direction ".toList ++ direction), some ("tls-auth".toList, trim isSpace content))
  | kept (hno : ∀ name ref, Names line name ref → (∀ c, ¬Present toLowerCase files ref c) ∧
      (name = "tls-auth".toList → ∀ n direction c, Directed ref n direction → ¬Present toLowerCase files n c)) :
    Resolved line (some line, none)

/-- A block in a text. -/
def inlineBlock (name content : Text) : Text :=
  "\n<".toList ++ name ++ ">\n".toList ++ content ++ "\n</".toList ++ name ++ ">".toList

/-- Lines, and blocks behind them. -/
def withBlocks (lines : List Text) (blocks : List (Text × Text)) : Text :=
  ['\n'].intercalate lines ++ blocks.flatMap fun b => inlineBlock b.1 b.2

/-- The files that a text names are inlined, and nothing else is changed. -/
def Inlined (ovpn : Text) : Prop :=
  ∃ rs, List.Forall₂ (Resolved toLowerCase files) (ovpn.splitOn '\n') rs ∧
    resolveExternalRefs toLowerCase files ovpn = .ok (withBlocks (rs.filterMap Prod.fst) (rs.filterMap Prod.snd))

end Script

/-! ### When a line becomes what it should -/

variable (toLowerCase : Text → Text) (files : Text → Option Text)

/-- The script comes upon a property that every object has: no file is under the reference, or an empty one,
and the lookup of the reference or of its base name finds that property. -/
def Inherits (ref : Text) : Prop :=
  (files (toLowerCase ref) = none ∧ toLowerCase ref ∈ objectProperties) ∨
    (∀ c, files (toLowerCase ref) = some c → c = []) ∧ ∃ base, IsBaseName base ref ∧
      files (toLowerCase base) = none ∧ toLowerCase base ∈ objectProperties

/-- A file that is not empty has the base name of the reference. -/
def Elsewhere (ref content : Text) : Prop :=
  content ≠ [] ∧ ∃ base, IsBaseName base ref ∧ Present toLowerCase files base content

/-- When a line with this reference becomes what it should. -/
structure Found (name ref : Text) : Prop where
  own : Inherits toLowerCase files ref → ref.head? = some '['
  /-- The name of a file does not begin with a bracket, and is not split for a direction; the file is not empty,
  or one with white space only is taken for it. -/
  file : ∀ content, Present toLowerCase files ref content → ref.head? ≠ some '[' ∧
    (name = "tls-auth".toList → ∀ x ∈ ref, isSpace x = false) ∧
    (content = [] → ∃ c, Elsewhere toLowerCase files ref c ∧ ∀ x ∈ c, isSpace x)
  /-- What names no file is none that the script finds by its base name, and no name with a direction; unless
  the script finds, by the base name of both, a file with the same content. -/
  other : (∀ c, ¬Present toLowerCase files ref c) →
    ((ref.head? = some '[' ∨ ∀ c, ¬Elsewhere toLowerCase files ref c) ∧
      (name = "tls-auth".toList → ∀ n direction c, Directed ref n direction → ¬Present toLowerCase files n c)) ∨
    (ref.head? ≠ some '[' ∧ name = "tls-auth".toList ∧ ∃ n direction content c, Directed ref n direction ∧
      Present toLowerCase files n content ∧ Elsewhere toLowerCase files ref c ∧
      trim isSpace c = trim isSpace content)

variable {toLowerCase files}

section Names

/-- A base name is what the script takes for it. -/
lemma isBaseName_iff {base path : Text} : IsBaseName base path ↔ base = baseName path := by
  have heq : ∀ b : Text, IsBaseName b path → b = baseName path := by
    rintro b ⟨hb, dir, rfl, hdir⟩
    rcases List.eq_nil_or_concat' dir with rfl | ⟨dir, c, rfl⟩
    · rw [List.nil_append, baseName, List.splitOn_eq_singleton hb]
      rfl
    · obtain rfl : c = '/' := hdir c (by simp)
      rw [baseName, List.append_assoc, List.singleton_append, List.splitOn_append_cons_self,
        List.splitOn_eq_singleton hb, List.getLast?_concat]
      rfl
  refine ⟨heq base, ?_⟩
  rintro rfl
  -- what is behind the last slash
  have hname : IsBaseName (path.rtakeWhile (· ≠ '/')) path := by
    refine ⟨fun hmem => ?_, path.rdropWhile (· ≠ '/'), List.rdropWhile_append_rtakeWhile.symm, fun c hc => ?_⟩
    · simpa using List.mem_rtakeWhile_imp hmem
    · obtain ⟨hne, rfl⟩ := List.mem_getLast?_eq_getLast hc
      simpa using List.rdropWhile_last_not _ _ hne
  exact heq _ hname ▸ hname

lemma elsewhere_iff {ref content : Text} : Elsewhere toLowerCase files ref content ↔
    content ≠ [] ∧ files (toLowerCase (baseName ref)) = some content := by
  simp only [Elsewhere, isBaseName_iff, exists_eq_left]

end Names

section Step

lemma contentOf_eq_inherited {ref : Text} :
    contentOf toLowerCase files ref = .inherited ↔ Inherits toLowerCase files ref := by
  unfold contentOf lookup Inherits
  simp only [isBaseName_iff, exists_eq_left]
  cases hpath : files (toLowerCase ref) with
  | none =>
    by_cases hmem : toLowerCase ref ∈ objectProperties
    · simp [hmem, Value.truthy]
    · cases hbase : files (toLowerCase (baseName ref)) <;> simp [hmem, Value.truthy]
  | some c =>
    cases c with
    | nil => cases hbase : files (toLowerCase (baseName ref)) <;> simp [Value.truthy]
    | cons x c => simp [Value.truthy]

lemma lookup_eq_string {k content : Text} : lookup files k = .string content ↔ files k = some content := by
  unfold lookup
  cases files k with
  | none =>
    refine iff_of_false ?_ (by simp)
    dsimp only
    split_ifs <;> simp
  | some c => simp

/-- The content that is taken: the file of the reference, or, if that is none or empty, the one that is found by
the base name. -/
lemma contentOf_eq_string {ref content : Text} (hne : content ≠ []) :
    contentOf toLowerCase files ref = .string content ↔ Present toLowerCase files ref content ∨
      ¬Inherits toLowerCase files ref ∧ (∀ c, Present toLowerCase files ref c → c = []) ∧
        Elsewhere toLowerCase files ref content := by
  have hbase : lookup files (toLowerCase (baseName ref)) = .string content ↔
      lookup files (toLowerCase (baseName ref)) ≠ .inherited ∧ content ≠ [] ∧
        files (toLowerCase (baseName ref)) = some content := by
    rw [← lookup_eq_string]
    refine ⟨fun h => ⟨?_, hne, h⟩, fun h => h.2.2⟩
    rw [h]
    exact fun h => by cases h
  rw [elsewhere_iff, ← contentOf_eq_inherited]
  cases hpath : files (toLowerCase ref) with
  | none =>
    by_cases hmem : toLowerCase ref ∈ objectProperties
    · simp [contentOf, lookup, hpath, hmem, Value.truthy]
    · have hcontent : contentOf toLowerCase files ref = lookup files (toLowerCase (baseName ref)) := by
        simp [contentOf, lookup, hpath, hmem, Value.truthy]
      rw [hcontent, hbase]
      simp [Present, hpath]
  | some c =>
    cases c with
    | nil =>
      have hcontent : contentOf toLowerCase files ref = lookup files (toLowerCase (baseName ref)) := by
        simp [contentOf, lookup, hpath, Value.truthy]
      rw [hcontent, hbase]
      simp [Present, hpath, hne.symm]
    | cons x c =>
      have hcontent : contentOf toLowerCase files ref = .string (x :: c) := by
        simp [contentOf, lookup, hpath, Value.truthy]
      rw [hcontent]
      simp [Present, hpath]

/-- When the script takes nothing for a content, there is at most an empty file. -/
lemma eq_nil_of_contentOf {ref : Text} (h : (contentOf toLowerCase files ref).truthy = false) :
    (∀ c, Present toLowerCase files ref c → c = []) ∧ ∀ c, ¬Elsewhere toLowerCase files ref c := by
  have hno : ∀ content, content ≠ [] → contentOf toLowerCase files ref ≠ .string content := by
    intro content hne heq
    rw [heq] at h
    exact hne (by simpa [Value.truthy] using h)
  have hnot : ¬Inherits toLowerCase files ref := by
    rw [← contentOf_eq_inherited]
    intro heq
    rw [heq] at h
    cases h
  have hpath : ∀ c, Present toLowerCase files ref c → c = [] := fun c hc => by
    by_contra hne
    exact hno c hne ((contentOf_eq_string hne).2 (Or.inl hc))
  exact ⟨hpath, fun c hc => hno c hc.1 ((contentOf_eq_string hc.1).2 (Or.inr ⟨hnot, hpath, hc⟩))⟩

/-- **What the script does with a line.** -/
theorem resolveLine_cases {line : Text} {a : Option Text × Option Block}
    (h : resolveLine toLowerCase files line = .ok a) :
    (a = (some line, none) ∧ ∀ dir ref, reference line = some (dir, ref) → ref.head? = some '[' ∨
      ¬Inherits toLowerCase files ref ∧ (∀ c, Present toLowerCase files ref c → c = []) ∧
        ∀ c, ¬Elsewhere toLowerCase files ref c) ∨
    ∃ dir ref content, reference line = some (dir, ref) ∧ ref.head? ≠ some '[' ∧
      ¬Inherits toLowerCase files ref ∧ content ≠ [] ∧ contentOf toLowerCase files ref = .string content ∧
      a = (if dir = .tlsAuth ∧ 1 < (splitSpaces false ref).length then
        some (keyDirection ((splitSpaces false ref).getLast?.getD [])) else none, some ⟨dir, trim isSpace content⟩) := by
  unfold resolveLine at h
  cases href : reference line with
  | none =>
    rw [href] at h
    exact Or.inl ⟨(Except.ok.inj h).symm, by simp⟩
  | some r =>
    obtain ⟨dir, ref⟩ := r
    rw [href] at h
    simp only at h
    by_cases hbracket : ref.head? = some '['
    · rw [if_pos hbracket] at h
      refine Or.inl ⟨(Except.ok.inj h).symm, fun d r hr => Or.inl ?_⟩
      obtain ⟨rfl, rfl⟩ := Prod.mk.inj (Option.some.inj hr)
      exact hbracket
    rw [if_neg hbracket] at h
    have hinherits : Inherits toLowerCase files ref → contentOf toLowerCase files ref = .inherited :=
      contentOf_eq_inherited.2
    -- the line is kept when there is no content
    have hkept : (contentOf toLowerCase files ref).truthy = false → ¬Inherits toLowerCase files ref →
        ∀ d r, some (dir, ref) = some (d, r) → r.head? = some '[' ∨ ¬Inherits toLowerCase files r ∧
          (∀ c, Present toLowerCase files r c → c = []) ∧ ∀ c, ¬Elsewhere toLowerCase files r c := by
      rintro hfalse hnot d r hr
      obtain ⟨rfl, rfl⟩ := Prod.mk.inj (Option.some.inj hr)
      exact Or.inr ⟨hnot, eq_nil_of_contentOf hfalse⟩
    cases hcontent : contentOf toLowerCase files ref with
    | inherited =>
      rw [hcontent] at h
      cases h
    | undefined =>
      rw [hcontent] at h hkept hinherits
      exact Or.inl ⟨(Except.ok.inj h).symm, hkept rfl fun hown => by cases hinherits hown⟩
    | string content =>
      rw [hcontent] at h hkept hinherits
      have hnot : ¬Inherits toLowerCase files ref := fun hown => by cases hinherits hown
      cases content with
      | nil => exact Or.inl ⟨(Except.ok.inj h).symm, hkept rfl hnot⟩
      | cons x content =>
        exact Or.inr ⟨dir, ref, _, rfl, hbracket, hnot, by simp, hcontent, (Except.ok.inj h).symm⟩

end Step

/-! ### Lines with a directive -/

section Lines

/-- What the expression of a directive finds: the directive and white space, and the argument behind them. -/
lemma mem_ends_directiveStart {dir : Directive} {t rest : Text} :
    rest ∈ ((directiveStart dir).ends (fun _ => false) none t).map Prod.snd ↔
      ∃ word gap, t = word ++ (gap ++ rest) ∧ word.map Char.toLower = dir.name ∧ gap ≠ [] ∧ ∀ c ∈ gap, isSpace c := by
  have hname : dir.name.map Char.toLower = dir.name := by cases dir <;> decide
  rw [List.mem_map]
  constructor
  · rintro ⟨⟨v, w⟩, hends, rfl⟩
    obtain ⟨rfl, v₁, v₂, rfl, ⟨rfl, -⟩, word, v₃, rfl, hword, _, gap, rfl, ⟨c, rfl, hc⟩, hgap⟩ :=
      (Regex.mem_ends _).1 hends
    exact ⟨word, c :: gap, by simp, (forall₂_ignoringCase hname).1 (Regex.matches_word.1 hword), by simp,
      List.forall_mem_cons.2 ⟨hc, hgap⟩⟩
  · rintro ⟨word, gap, rfl, hword, hne, hgap⟩
    obtain ⟨c, gap, rfl⟩ := List.exists_cons_of_ne_nil hne
    obtain ⟨hc, hgap⟩ := List.forall_mem_cons.1 hgap
    exact ⟨(word ++ c :: gap, rest), (Regex.mem_ends _).2 ⟨by simp, [], word ++ c :: gap, rfl, ⟨rfl, by simp⟩, word,
      c :: gap, rfl, Regex.matches_word.2 ((forall₂_ignoringCase hname).2 hword), [c], gap, rfl, ⟨c, rfl, hc⟩, hgap⟩, rfl⟩

lemma exists_of_reference {line ref : Text} {dir : Directive} (h : reference line = some (dir, ref)) :
    ∃ argument, argumentOf dir (trim isSpace line) = some argument ∧ ref = unquoted argument := by
  simp only [reference] at h
  split_ifs at h
  obtain ⟨d, -, hd⟩ := List.exists_of_findSome?_eq_some h
  obtain ⟨argument, hargument, heq⟩ := Option.map_eq_some_iff.1 hd
  obtain ⟨rfl, rfl⟩ := Prod.mk.inj heq
  exact ⟨argument, hargument, rfl⟩

lemma argumentOf_eq_some {dir : Directive} {t argument : Text} (h : argumentOf dir t = some argument) :
    (∃ word gap, t = word ++ (gap ++ argument) ∧ word.map Char.toLower = dir.name ∧ gap ≠ [] ∧
      ∀ c ∈ gap, isSpace c) ∧ argument ≠ [] ∧ ∀ c ∈ argument, isLineTerminator c = false := by
  have hmem := List.mem_of_find?_eq_some h
  rw [List.mem_reverse] at hmem
  have hargument := List.find?_some h
  simp only [Bool.and_eq_true, Bool.not_eq_true', List.isEmpty_eq_false_iff, List.all_eq_true] at hargument
  exact ⟨mem_ends_directiveStart.1 hmem, hargument⟩

lemma isSome_argumentOf {dir : Directive} {word gap argument : Text} (hword : word.map Char.toLower = dir.name)
    (hgap : gap ≠ [] ∧ ∀ c ∈ gap, isSpace c) (hne : argument ≠ []) (hline : ∀ c ∈ argument, isLineTerminator c = false) :
    (argumentOf dir (word ++ (gap ++ argument))).isSome := by
  rw [argumentOf, List.find?_isSome]
  refine ⟨argument, List.mem_reverse.2 (mem_ends_directiveStart.2 ⟨word, gap, rfl, hword, hgap⟩), ?_⟩
  simpa [hne] using hline

lemma Directive.name_injective : Function.Injective Directive.name := by
  intro d e h
  cases d <;> cases e <;> first | rfl | exact absurd h (by decide)

lemma toLower_of_isSpace {c : Char} (hc : isSpace c) : c.toLower = c := by
  refine toLower_eq_self ?_
  simp only [isSpace, isLineTerminator, isWhitespace, Bool.or_eq_true, Bool.and_eq_true, decide_eq_true_eq] at hc
  omega

/-- There is no white space in a directive, which begins with a letter. -/
lemma of_map_toLower {word : Text} {dir : Directive} (h : word.map Char.toLower = dir.name) :
    (∀ c ∈ word, isSpace c = false) ∧ ∃ c w, word = c :: w ∧ c ≠ '#' ∧ c ≠ ';' := by
  constructor
  · intro c hc
    by_contra hspace
    rw [Bool.not_eq_false] at hspace
    have hmem : c ∈ dir.name := h ▸ List.mem_map.2 ⟨c, hc, toLower_of_isSpace hspace⟩
    have hall : (dir.name.all fun c => !isSpace c) = true := by cases dir <;> decide
    simpa [hspace] using List.all_eq_true.1 hall c hmem
  · cases word with
    | nil => cases dir <;> cases h
    | cons c w =>
      refine ⟨c, w, rfl, ?_, ?_⟩ <;> rintro rfl <;> cases dir <;> cases h

lemma takeWhile_word {word gap rest : Text} (hword : ∀ c ∈ word, isSpace c = false)
    (hgap : gap ≠ [] ∧ ∀ c ∈ gap, isSpace c) : (word ++ (gap ++ rest)).takeWhile (fun c => !isSpace c) = word := by
  obtain ⟨c, gap, rfl⟩ := List.exists_cons_of_ne_nil hgap.1
  rw [List.takeWhile_append_of_pos (by simpa using hword), List.cons_append,
    List.takeWhile_cons_of_neg (by simp [hgap.2 c (List.mem_cons_self ..)]), List.append_nil]

lemma filter_quotes (t : Text) :
    (t.filter fun c => c ∉ ['"', '\'']) = t.filter fun c => c ≠ '"' ∧ c ≠ '\'' := by
  congr 1
  funext c
  simp

/-- What the script takes for a directive is one. -/
lemma names_of_reference {line ref : Text} {dir : Directive} (h : reference line = some (dir, ref)) :
    Names line dir.name ref := by
  have hmem : dir.name ∈ inlineNames := by cases dir <;> decide
  obtain ⟨a, hargument, rfl⟩ := exists_of_reference h
  obtain ⟨⟨word, gap, htrim, hword, hne, hgap⟩, ha, hterm⟩ := argumentOf_eq_some hargument
  obtain ⟨u, v, hline, hu, hv⟩ := exists_trim isSpace line
  obtain ⟨g, w, hparts, hg, hw⟩ := exists_trim isSpace a
  have hlast : trim isSpace a ≠ [] := by
    intro hnil
    have hkept := getLast_of_trim (p := isSpace) (l := trim isSpace line) (trim_trim line)
    obtain ⟨a', c, rfl⟩ := (List.eq_nil_or_concat' a).resolve_left ha
    have hc := hkept c (by rw [htrim]; simp)
    rw [trim_eq_nil.1 hnil c (by simp)] at hc
    cases hc
  refine ⟨trim isSpace a, ⟨hmem, ⟨u, word, gap ++ g, w ++ v, ?_, hword, by simp [hne], ?_⟩, hlast, trim_trim a,
    fun c hc => hterm c (mem_of_mem_trim hc)⟩, (filter_quotes _).symm⟩
  · conv_lhs => rw [hline, htrim, hparts]
    simp
  · simp only [List.mem_append]
    rintro c (hc | (hc | hc) | hc | hc)
    · exact hu c hc
    · exact hgap c hc
    · exact hg c hc
    · exact hw c hc
    · exact hv c hc

/-- The script finds one directive in such a line, and one argument, whichever part of the white space is left
before it. -/
lemma eq_of_argumentOf {dir d : Directive} {word gap argument a : Text} (hword : word.map Char.toLower = dir.name)
    (hgap : gap ≠ [] ∧ ∀ c ∈ gap, isSpace c) (htrimmed : trim isSpace argument = argument)
    (ha : argumentOf d (word ++ (gap ++ argument)) = some a) : d = dir ∧ trim isSpace a = argument := by
  obtain ⟨⟨word', gap', heq, hword', hgap'⟩, -, -⟩ := argumentOf_eq_some ha
  have hfirst : (word ++ (gap ++ argument)).takeWhile (fun c => !isSpace c) = word :=
    takeWhile_word (of_map_toLower hword).1 hgap
  have hsame : word = word' := by
    rw [← hfirst, heq, takeWhile_word (of_map_toLower hword').1 hgap']
  subst hsame
  refine ⟨Directive.name_injective (hword'.symm.trans hword), ?_⟩
  rw [← trim_append_left hgap'.2, ← List.append_cancel_left heq, trim_append_left hgap.2, htrimmed]

/-- **What the script takes for a directive and its file is one.** -/
theorem reference_eq_some_iff {line ref : Text} {dir : Directive} :
    reference line = some (dir, ref) ↔ Names line dir.name ref := by
  refine ⟨names_of_reference, ?_⟩
  rintro ⟨argument, ⟨-, ⟨u, word, gap, v, hline, hword, hne, hall⟩, hne', htrimmed, hterm⟩, rfl⟩
  simp only [List.forall_mem_append] at hall
  obtain ⟨hu, hgap, hv⟩ := hall
  obtain ⟨hspace, c, w, hcons, hmark⟩ := of_map_toLower hword
  have htrim : trim isSpace line = word ++ (gap ++ argument) := by
    rw [hline, trim_around, List.dropWhile_eq_nil_iff.2 hu, List.rdropWhile_eq_nil_iff.2 hv]
    · simp
    · simp [hcons]
    · intro x hx
      rw [hcons] at hx hspace
      exact hspace x (Option.some.inj hx ▸ List.mem_cons_self ..)
    · intro x hx
      rw [← List.append_assoc, List.getLast?_append_of_ne_nil _ hne'] at hx
      exact getLast_of_trim htrimmed x hx
  have hexists : (directives.findSome? fun d => (argumentOf d (word ++ (gap ++ argument))).map
      fun a => (d, unquoted a)).isSome := by
    rw [List.findSome?_isSome_iff]
    exact ⟨dir, by cases dir <;> decide, by simpa using isSome_argumentOf hword ⟨hne, hgap⟩ hne' hterm⟩
  obtain ⟨r, hr⟩ := Option.isSome_iff_exists.1 hexists
  obtain ⟨d, -, hd⟩ := List.exists_of_findSome?_eq_some hr
  obtain ⟨a, ha, rfl⟩ := Option.map_eq_some_iff.1 hd
  obtain ⟨rfl, hargument⟩ := eq_of_argumentOf hword ⟨hne, hgap⟩ htrimmed ha
  simp only [reference]
  rw [htrim, if_neg (by simp [hcons, hmark]), hr, unquoted, hargument, filter_quotes]

/-- A line with a directive begins with white space or with the directive. -/
lemma head_of_reference {line ref : Text} {dir : Directive} (h : reference line = some (dir, ref)) :
    ∃ c l, line = c :: l ∧ (isSpace c ∨ dir.name.head? = some c.toLower) := by
  obtain ⟨argument, hargument, -⟩ := exists_of_reference h
  obtain ⟨⟨word, gap, htrim, hword, -⟩, -⟩ := argumentOf_eq_some hargument
  obtain ⟨u, v, hline, hu, -⟩ := exists_trim isSpace line
  rw [htrim] at hline
  cases u with
  | cons x u => exact ⟨x, _, hline, Or.inl (hu x (List.mem_cons_self ..))⟩
  | nil =>
    cases word with
    | nil => cases dir <;> cases hword
    | cons x word => exact ⟨x, _, hline, Or.inr (by rw [← hword]; rfl)⟩

/-- A reference is made of characters of its line. -/
lemma mem_of_mem_reference {line ref : Text} {dir : Directive} (h : reference line = some (dir, ref)) {x : Char}
    (hx : x ∈ ref) : x ∈ line := by
  obtain ⟨argument, hargument, rfl⟩ := exists_of_reference h
  obtain ⟨⟨word, gap, htrim, -⟩, -⟩ := argumentOf_eq_some hargument
  have hmem : x ∈ trim isSpace line := by
    rw [htrim]
    simp [mem_of_mem_trim (List.mem_filter.1 hx).1]
  exact mem_of_mem_trim hmem

lemma Names.exists_reference {line name ref : Text} (h : Names line name ref) :
    ∃ dir, name = Directive.name dir ∧ reference line = some (dir, ref) := by
  obtain ⟨dir, rfl⟩ : ∃ dir, name = Directive.name dir := by
    obtain ⟨argument, hdirective, -⟩ := h
    have hmem := hdirective.mem
    simp only [inlineNames, List.mem_cons, List.not_mem_nil, or_false] at hmem
    rcases hmem with rfl | rfl | rfl | rfl | rfl
    exacts [⟨.ca, rfl⟩, ⟨.cert, rfl⟩, ⟨.key, rfl⟩, ⟨.tlsAuth, rfl⟩, ⟨.tlsCrypt, rfl⟩]
  exact ⟨dir, rfl, reference_eq_some_iff.2 h⟩

lemma Names.unique {line name ref name' ref' : Text} (h : Names line name ref) (h' : Names line name' ref') :
    name = name' ∧ ref = ref' := by
  obtain ⟨dir, rfl, href⟩ := h.exists_reference
  obtain ⟨dir', rfl, href'⟩ := h'.exists_reference
  obtain ⟨rfl, rfl⟩ := Prod.mk.inj (Option.some.inj (href.symm.trans href'))
  exact ⟨rfl, rfl⟩

lemma name_eq_tlsAuth {dir : Directive} : dir.name = "tls-auth".toList ↔ dir = .tlsAuth :=
  Directive.name_injective.eq_iff (b := .tlsAuth)

/-- The line that the script puts for a direction is no directive with a file. -/
lemma keyDirection_ne_of_reference {line ref direction : Text} {dir : Directive} (h : reference line = some (dir, ref)) :
    line ≠ keyDirection direction := by
  rintro rfl
  obtain ⟨argument, hargument, -⟩ := exists_of_reference h
  obtain ⟨⟨word, gap, htrim, hword, hgap⟩, -⟩ := argumentOf_eq_some hargument
  obtain ⟨u, v, hline, hu, -⟩ := exists_trim isSpace (keyDirection direction)
  have hwhole : (keyDirection direction).takeWhile (fun c => !isSpace c) = "key-direction".toList := by
    have hline : keyDirection direction = "key-direction".toList ++ ([' '] ++ direction) := rfl
    rw [hline]
    have hword : ("key-direction".toList.all fun c => !isSpace c) = true := by decide
    exact takeWhile_word (by simpa using List.all_eq_true.1 hword) ⟨by decide, List.forall_mem_singleton.2 (by decide)⟩
  rw [htrim] at hline
  cases u with
  | cons x u =>
    obtain rfl : 'k' = x := (List.cons.inj hline).1
    exact absurd (hu 'k' (List.mem_cons_self ..)) (by decide)
  | nil =>
    rw [hline, List.nil_append, List.append_assoc, List.append_assoc,
      takeWhile_word (of_map_toLower hword).1 hgap] at hwhole
    rw [hwhole] at hword
    revert hword
    cases dir <;> decide

lemma splitSpaces_ne_nil (gap : Bool) (s : Text) : splitSpaces gap s ≠ [] := by
  induction s generalizing gap with
  | nil => simp [splitSpaces]
  | cons c s ih =>
    rw [splitSpaces]
    split_ifs
    · exact ih true
    · simp
    · obtain ⟨x, xs, hx⟩ := List.exists_cons_of_ne_nil (ih false)
      simp [hx]

/-- A text is split if there is white space in it. -/
lemma one_lt_length_splitSpaces {s : Text} : 1 < (splitSpaces false s).length ↔ ∃ c ∈ s, isSpace c := by
  induction s with
  | nil => simp [splitSpaces]
  | cons c s ih =>
    simp only [splitSpaces, List.exists_mem_cons_iff]
    by_cases hc : isSpace c
    · have hpos : 0 < (splitSpaces true s).length := List.length_pos_of_ne_nil (splitSpaces_ne_nil true s)
      simp [hc, hpos]
    · simp [hc, ih]

/-- The last part, if it is behind white space. -/
lemma getLast?_splitSpaces {u d : Text} {c : Char} (hc : isSpace c) (hd : ∀ x ∈ d, isSpace x = false) (gap : Bool) :
    (splitSpaces gap (u ++ c :: d)).getLast? = some d := by
  have hword : ∀ (d : Text) (gap : Bool), (∀ x ∈ d, isSpace x = false) → splitSpaces gap d = [d] := by
    intro d
    induction d with
    | nil => exact fun _ _ => rfl
    | cons x d ih =>
      intro gap hd
      obtain ⟨hx, hd⟩ := List.forall_mem_cons.1 hd
      rw [splitSpaces, hx, if_neg Bool.false_ne_true, ih false hd]
      rfl
  induction u generalizing gap with
  | nil =>
    rw [List.nil_append, splitSpaces, if_pos hc, hword d true hd]
    split_ifs <;> rfl
  | cons x u ih =>
    rw [List.cons_append, splitSpaces]
    split_ifs with hx hgap
    · exact ih true
    · obtain ⟨y, ys, hys⟩ := List.exists_cons_of_ne_nil (splitSpaces_ne_nil true (u ++ c :: d))
      rw [hys, List.getLast?_cons_cons, ← hys]
      exact ih true
    · have hlength : 1 < (splitSpaces false (u ++ c :: d)).length := one_lt_length_splitSpaces.2 ⟨c, by simp, hc⟩
      have hlast := ih false
      match hparts : splitSpaces false (u ++ c :: d) with
      | [] => simp [hparts] at hlength
      | [y] => simp [hparts] at hlength
      | y :: z :: ys =>
        rw [hparts, List.getLast?_cons_cons] at hlast
        rw [List.modifyHead_cons, List.getLast?_cons_cons, hlast]

/-- How the script splits a name and a direction. -/
lemma Directed.splitSpaces {ref name direction : Text} (h : Directed ref name direction) :
    1 < (splitSpaces false ref).length ∧ (Upload.splitSpaces false ref).getLast? = some direction := by
  obtain ⟨gap, hne, hgap, rfl⟩ := h.parts
  obtain ⟨gap, c, rfl⟩ := (List.eq_nil_or_concat' gap).resolve_left hne
  have hc : isSpace c := hgap c (by simp)
  refine ⟨one_lt_length_splitSpaces.2 ⟨c, by simp, hc⟩, ?_⟩
  have hassoc : name ++ (gap ++ [c] ++ direction) = (name ++ gap) ++ c :: direction := by simp
  rw [hassoc, getLast?_splitSpaces hc h.oneWord]

lemma mem_of_mem_splitSpaces {gap : Bool} {s x : Text} (hx : x ∈ splitSpaces gap s) {c : Char} (hc : c ∈ x) :
    c ∈ s := by
  induction s generalizing gap x with
  | nil =>
    obtain rfl := List.mem_singleton.1 hx
    exact hc
  | cons d s ih =>
    rw [splitSpaces] at hx
    split_ifs at hx
    · exact List.mem_cons_of_mem _ (ih hx hc)
    · rcases List.mem_cons.1 hx with rfl | hx
      · cases hc
      · exact List.mem_cons_of_mem _ (ih hx hc)
    · obtain ⟨y, ys, hys⟩ := List.exists_cons_of_ne_nil (splitSpaces_ne_nil false s)
      rw [hys, List.modifyHead_cons] at hx
      rcases List.mem_cons.1 hx with rfl | hx
      · rcases List.mem_cons.1 hc with rfl | hc
        · exact List.mem_cons_self ..
        · exact List.mem_cons_of_mem _ (ih (hys ▸ List.mem_cons_self ..) hc)
      · exact List.mem_cons_of_mem _ (ih (hys ▸ List.mem_cons_of_mem _ hx) hc)

end Lines

end FreeVPN.Upload
