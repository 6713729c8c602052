import FreeVPN.Upload.ExternalRefs

/-!
# When the files of an archive are put into a text

The text that `resolveExternalRefs` makes is compared with the text that it should make, line by line: first
the lines that are left, then the blocks.

* `found_of_eq` — a line of which the script leaves what it should;
* `forall₂_isSome_added`, `forall₂_added_eq` — in a text as it should be these are all lines;
* `inlined_iff` — the texts of which the script makes what it should.
-/

namespace FreeVPN.Upload

open FreeVPN.Lib FreeVPN.Foundation FreeVPN.Foundation.JavaScript

variable {toLowerCase : Text → Text} {files : Text → Option Text}

/-! ### The texts -/

section Texts

/-- The name and the content of a block. -/
def Block.pair (b : Block) : Text × Text := (b.name.name, b.content)

/-- What a line adds; nothing when the script throws there. -/
def added (toLowerCase : Text → Text) (files : Text → Option Text) (line : Text) : Option Text × Option Block :=
  (resolveLine toLowerCase files line).toOption.getD (none, none)

lemma added_of_ok {line : Text} {a : Option Text × Option Block} (h : resolveLine toLowerCase files line = .ok a) :
    added toLowerCase files line = a := by
  rw [added, h]
  rfl

lemma assemble_eq (result : List Text) (blocks : List Block) :
    assemble result blocks = withBlocks result (blocks.map Block.pair) := by
  rw [assemble, withBlocks, List.flatMap_map]
  congr 2
  funext b
  simp [Block.text, inlineBlock, Block.pair]

lemma foldlM_resolveLine {lines : List Text} {acc out : List Text × List Block} :
    lines.foldlM (fun (acc : List Text × List Block) line =>
      (resolveLine toLowerCase files line).map fun r => (acc.1 ++ r.1.toList, acc.2 ++ r.2.toList)) acc = .ok out ↔
      (∀ line ∈ lines, ∃ a, resolveLine toLowerCase files line = .ok a) ∧
        out = (acc.1 ++ lines.filterMap fun line => (added toLowerCase files line).1,
          acc.2 ++ lines.filterMap fun line => (added toLowerCase files line).2) := by
  induction lines generalizing acc with
  | nil =>
    rw [List.foldlM_nil, pure_eq_ok]
    simp [eq_comm]
  | cons line lines ih =>
    rw [List.foldlM_cons, List.forall_mem_cons, filterMap_cons_toList, filterMap_cons_toList,
      ← List.append_assoc, ← List.append_assoc]
    cases h : resolveLine toLowerCase files line with
    | error e =>
      refine iff_of_false (fun h => by cases h) ?_
      rintro ⟨⟨⟨a, ha⟩, -⟩, -⟩
      cases ha
    | ok a =>
      rw [added_of_ok h]
      exact ih.trans (by simp)

/-- The script gives a text when it throws for no line. -/
lemma resolveExternalRefs_eq_ok {ovpn out : Text} :
    resolveExternalRefs toLowerCase files ovpn = .ok out ↔
      (∀ line ∈ ovpn.splitOn '\n', ∃ a, resolveLine toLowerCase files line = .ok a) ∧
        out = withBlocks ((ovpn.splitOn '\n').filterMap fun line => (added toLowerCase files line).1)
          ((ovpn.splitOn '\n').filterMap fun line => (added toLowerCase files line).2.map Block.pair) := by
  simp only [resolveExternalRefs, bind_eq_ok, foldlM_resolveLine, List.nil_append, pure_eq_ok, assemble_eq]
  constructor
  · rintro ⟨_, ⟨hall, rfl⟩, rfl⟩
    exact ⟨hall, by rw [List.map_filterMap]⟩
  · rintro ⟨hall, rfl⟩
    exact ⟨_, ⟨hall, rfl⟩, by rw [List.map_filterMap]⟩

/-- The lines of a block. -/
def blockLines (b : Text × Text) : List Text :=
  ('<' :: b.1 ++ ['>']) :: (b.2.splitOn '\n' ++ ["</".toList ++ b.1 ++ ['>']])

lemma splitOn_blocks (base : Text) {blocks : List (Text × Text)} (h : ∀ b ∈ blocks, '\n' ∉ b.1) :
    (base ++ blocks.flatMap fun b => inlineBlock b.1 b.2).splitOn '\n' = base.splitOn '\n' ++ blocks.flatMap blockLines := by
  induction blocks generalizing base with
  | nil => simp
  | cons b blocks ih =>
    obtain ⟨hname, h⟩ := List.forall_mem_cons.1 h
    have hstart : '\n' ∉ '<' :: b.1 ++ ['>'] := by simpa using hname
    have hend : '\n' ∉ "</".toList ++ b.1 ++ ['>'] := by simpa using hname
    have htext : inlineBlock b.1 b.2 = '\n' :: (('<' :: b.1 ++ ['>']) ++
        '\n' :: (b.2 ++ '\n' :: ("</".toList ++ b.1 ++ ['>']))) := by simp [inlineBlock]
    rw [List.flatMap_cons, List.flatMap_cons, ← List.append_assoc, ih _ h, htext, blockLines,
      List.splitOn_append_cons_self, List.splitOn_append_cons_self, List.splitOn_append_cons_self,
      List.splitOn_eq_singleton hstart, List.splitOn_eq_singleton hend]
    simp

/-- The lines of a text with blocks: one empty line when no line is left before them. -/
lemma splitOn_withBlocks {result : List Text} {blocks : List (Text × Text)} (h : ∀ line ∈ result, '\n' ∉ line)
    (hblocks : ∀ b ∈ blocks, '\n' ∉ b.1) : (withBlocks result blocks).splitOn '\n' =
      result ++ ((if result = [] then [[]] else []) ++ blocks.flatMap blockLines) := by
  rw [withBlocks, splitOn_blocks _ hblocks]
  by_cases hresult : result = []
  · simp [hresult]
  · have hsplit : (['\n'].intercalate result).splitOn '\n' = result := by
      rw [List.splitOn_eq_splitOnP]
      refine splitOnP_intercalate (by simp) (fun line hline c hc => ?_) hresult
      have hne : c ≠ '\n' := fun heq => h line hline (heq ▸ hc)
      simpa using hne
    rw [hsplit, if_neg hresult, List.nil_append]

end Texts

/-! ### One line -/

section Line

variable {line name ref : Text} {a : Option Text × Option Block} {r : Option Text × Option (Text × Text)}

/-- How a line in the place of a block begins: not as one of the lines of the text. -/
def BlockStart (line : Text) : Prop := ∀ c ∈ line.head?, c = '<'

lemma not_blockStart_keyDirection (direction : Text) : ¬BlockStart (keyDirection direction) := fun h => by
  cases h 'k' rfl

lemma reference_of_blockStart (h : BlockStart line) : reference line = none := by
  cases href : reference line with
  | none => rfl
  | some d =>
    obtain ⟨dir, ref⟩ := d
    obtain ⟨c, l, rfl, hc⟩ := head_of_reference href
    obtain rfl : c = '<' := h c rfl
    rcases hc with hc | hc
    · cases hc
    · have hname : ∀ dir : Directive, dir.name.head? ≠ some '<'.toLower := by
        intro dir
        cases dir <;> decide
      exact absurd hc (hname dir)

lemma Names.not_blockStart (h : Names line name ref) : ¬BlockStart line := by
  obtain ⟨dir, -, href⟩ := h.exists_reference
  intro hstart
  rw [reference_of_blockStart hstart] at href
  cases href

/-- A line with a content is replaced. -/
lemma resolveLine_of_content {dir : Directive} {content : Text} (href : reference line = some (dir, ref))
    (hbracket : ref.head? ≠ some '[') (hne : content ≠ []) (hcontent : contentOf toLowerCase files ref = .string content) :
    resolveLine toLowerCase files line =
      .ok (if dir = .tlsAuth ∧ 1 < (splitSpaces false ref).length then
        some (keyDirection ((splitSpaces false ref).getLast?.getD [])) else none, some ⟨dir, trim isSpace content⟩) := by
  unfold resolveLine
  simp only [href, hbracket, if_false, hcontent]
  rw [if_neg (by simpa using hne)]

/-- A line that is kept: the reference begins with a bracket, or the script finds nothing. -/
lemma resolveLine_of_kept {dir : Directive} {ref : Text} (href : reference line = some (dir, ref))
    (h : ref.head? = some '[' ∨ ¬Inherits toLowerCase files ref ∧ (∀ c, ¬Present toLowerCase files ref c) ∧
      ∀ c, ¬Elsewhere toLowerCase files ref c) :
    resolveLine toLowerCase files line = .ok (some line, none) := by
  unfold resolveLine
  simp only [href]
  by_cases hbracket : ref.head? = some '['
  · rw [if_pos hbracket]
  rw [if_neg hbracket]
  obtain ⟨hnot, hno, helsewhere⟩ := h.resolve_left hbracket
  cases hcontent : contentOf toLowerCase files ref with
  | inherited => exact absurd (contentOf_eq_inherited.1 hcontent) hnot
  | undefined => rfl
  | string content =>
    cases content with
    | nil => rfl
    | cons x content =>
      rcases (contentOf_eq_string (by simp)).1 hcontent with hfile | ⟨-, -, hbase⟩
      · exact absurd hfile (hno _)
      · exact absurd hbase (helsewhere _)

lemma Found.not_inherits {name ref : Text} (h : Found toLowerCase files name ref) (hbracket : ref.head? ≠ some '[') :
    ¬Inherits toLowerCase files ref := fun hown => hbracket (h.own hown)

/-- A line with the name of a file becomes a block. -/
lemma exists_resolveLine_of_present {dir : Directive} {ref content : Text} (href : reference line = some (dir, ref))
    (hfound : Found toLowerCase files dir.name ref) (hcontent : Present toLowerCase files ref content) :
    ∃ a, resolveLine toLowerCase files line = .ok a ∧
      Resolved toLowerCase files line (a.1, a.2.map Block.pair) := by
  have hline : Names line dir.name ref := reference_eq_some_iff.1 href
  obtain ⟨hbracket, hspace, hempty⟩ := hfound.file content hcontent
  have hsplit : ¬(dir = .tlsAuth ∧ 1 < (splitSpaces false ref).length) := by
    rintro ⟨hdir, hlength⟩
    obtain ⟨c, hc, hcspace⟩ := one_lt_length_splitSpaces.1 hlength
    rw [hspace (name_eq_tlsAuth.2 hdir) c hc] at hcspace
    cases hcspace
  by_cases hnil : content = []
  · -- an empty file, for which a file with white space is taken
    subst hnil
    obtain ⟨c, helsewhere, hblank⟩ := hempty rfl
    have htaken := (contentOf_eq_string helsewhere.1).2 (Or.inr ⟨hfound.not_inherits hbracket, fun d hd =>
      (Option.some.inj (hcontent.symm.trans hd)).symm, helsewhere⟩)
    refine ⟨_, resolveLine_of_content href hbracket helsewhere.1 htaken, ?_⟩
    rw [if_neg hsplit, trim_eq_nil.2 hblank]
    exact .whole hline hcontent
  · refine ⟨_, resolveLine_of_content href hbracket hnil ((contentOf_eq_string hnil).2 (Or.inl hcontent)), ?_⟩
    rw [if_neg hsplit]
    exact .whole hline hcontent

/-- A line with a reference that is the name of no file is kept, or has a direction. -/
lemma exists_resolveLine_of_not_present {dir : Directive} {ref : Text} (href : reference line = some (dir, ref))
    (hfound : Found toLowerCase files dir.name ref) (hno : ∀ c, ¬Present toLowerCase files ref c) :
    ∃ a, resolveLine toLowerCase files line = .ok a ∧
      Resolved toLowerCase files line (a.1, a.2.map Block.pair) := by
  have hline : Names line dir.name ref := reference_eq_some_iff.1 href
  rcases hfound.other hno with ⟨hkept, hdirected⟩ |
    ⟨hbracket, hname, n, direction, content, c, hdirected, hfile, helsewhere, hsame⟩
  · have hnothing : ref.head? = some '[' ∨ ¬Inherits toLowerCase files ref ∧ (∀ c, ¬Present toLowerCase files ref c) ∧
        ∀ c, ¬Elsewhere toLowerCase files ref c := by
      by_cases hbracket : ref.head? = some '['
      · exact Or.inl hbracket
      · exact Or.inr ⟨hfound.not_inherits hbracket, hno, hkept.resolve_left hbracket⟩
    refine ⟨(some line, none), resolveLine_of_kept href hnothing, .kept fun name' ref' hline' => ?_⟩
    obtain ⟨rfl, rfl⟩ := hline.unique hline'
    exact ⟨hno, hdirected⟩
  · obtain rfl := name_eq_tlsAuth.1 hname
    have htaken := (contentOf_eq_string helsewhere.1).2
      (Or.inr ⟨hfound.not_inherits hbracket, fun d hd => absurd hd (hno d), helsewhere⟩)
    refine ⟨_, resolveLine_of_content href hbracket helsewhere.1 htaken, ?_⟩
    obtain ⟨hlength, hlast⟩ := hdirected.splitSpaces
    rw [if_pos ⟨rfl, hlength⟩, hlast, hsame]
    refine .directed hline hno hdirected hfile fun base b hbase hb hne => ?_
    obtain ⟨-, base', hbase', hc⟩ := helsewhere
    rw [isBaseName_iff] at hbase hbase'
    rw [hbase] at hb
    rw [hbase'] at hc
    rw [← Option.some.inj (hc.symm.trans hb), hsame]

/-- A line for which the condition holds becomes what it should. -/
lemma exists_resolveLine (h : ∀ name ref, Names line name ref → Found toLowerCase files name ref) :
    ∃ a, resolveLine toLowerCase files line = .ok a ∧
      Resolved toLowerCase files line (a.1, a.2.map Block.pair) := by
  cases href : reference line with
  | none =>
    refine ⟨(some line, none), by rw [resolveLine, href], .kept fun name ref hline => ?_⟩
    obtain ⟨dir, -, hsome⟩ := hline.exists_reference
    rw [href] at hsome
    cases hsome
  | some d =>
    obtain ⟨dir, ref⟩ := d
    have hfound := h _ _ (reference_eq_some_iff.1 href)
    by_cases hpresent : ∃ content, Present toLowerCase files ref content
    · obtain ⟨content, hcontent⟩ := hpresent
      exact exists_resolveLine_of_present href hfound hcontent
    · exact exists_resolveLine_of_not_present href hfound fun c hc => hpresent ⟨c, hc⟩

/-- Where the script leaves something, it leaves what it should, or no line with which a block begins. -/
lemma added_eq_or (ha : resolveLine toLowerCase files line = .ok a) (hr : Resolved toLowerCase files line r) {l : Text}
    (hl : a.1 = some l) : a.1 = r.1 ∨ ∃ l, a.1 = some l ∧ ¬BlockStart l := by
  rcases resolveLine_cases ha with ⟨rfl, -⟩ | ⟨dir, ref, content, -, -, -, -, -, rfl⟩
  · cases hr with
    | whole hline _ => exact Or.inr ⟨line, rfl, hline.not_blockStart⟩
    | directed hline _ _ _ _ => exact Or.inr ⟨line, rfl, hline.not_blockStart⟩
    | kept _ => exact Or.inl rfl
  · dsimp only at hl
    split_ifs at hl
    obtain rfl := Option.some.inj hl
    exact Or.inr ⟨_, if_pos ‹_›, not_blockStart_keyDirection _⟩

/-- Where the script leaves nothing, nothing is left, or the line itself. -/
lemma eq_none_or (ha : resolveLine toLowerCase files line = .ok a) (hr : Resolved toLowerCase files line r)
    (hnone : a.1 = none) : a.1 = r.1 ∨ r.1 = some line ∧ ∃ dir ref, reference line = some (dir, ref) := by
  rcases resolveLine_cases ha with ⟨rfl, -⟩ | ⟨dir, ref, content, href, -, -, -, -, rfl⟩
  · cases hnone
  · cases hr with
    | whole _ _ => exact Or.inl hnone
    | kept _ => exact Or.inr ⟨rfl, dir, ref, href⟩
    | directed hline _ hname _ _ =>
      obtain ⟨dir', hdir, href'⟩ := hline.exists_reference
      obtain ⟨rfl, rfl⟩ := Prod.mk.inj (Option.some.inj (href.symm.trans href'))
      dsimp only at hnone
      rw [if_pos ⟨name_eq_tlsAuth.1 hdir.symm, hname.splitSpaces.1⟩] at hnone
      cases hnone

/-- The blocks of a line, as they are printed. -/
def blockText (b : Option (Text × Text)) : Text := b.toList.flatMap fun b => inlineBlock b.1 b.2

lemma length_blockText_le_iff {name x y : Text} :
    (blockText (some (name, x))).length ≤ (blockText (some (name, y))).length ↔ x.length ≤ y.length := by
  simp [blockText, inlineBlock]

/-- A line of which the script leaves what it should: its block is no shorter than it should be, and as long only
if the condition holds. -/
lemma found_of_eq (ha : resolveLine toLowerCase files line = .ok a) (hr : Resolved toLowerCase files line r)
    (heq : a.1 = r.1) : (blockText r.2).length ≤ (blockText (a.2.map Block.pair)).length ∧
      ((blockText (a.2.map Block.pair)).length = (blockText r.2).length →
        ∀ name ref, Names line name ref → Found toLowerCase files name ref) := by
  rcases resolveLine_cases ha with ⟨rfl, hcases⟩ | ⟨dir, ref, content, href, hbracket, hinherits, hne, hcontent, rfl⟩
  · cases hr with
    | whole _ _ => cases heq
    | directed hline _ _ _ _ =>
      obtain ⟨dir, -, href⟩ := hline.exists_reference
      exact absurd (Option.some.inj heq) (keyDirection_ne_of_reference href)
    | kept hno =>
      refine ⟨le_rfl, fun _ name ref hline => ?_⟩
      obtain ⟨hother, hdirected⟩ := hno name ref hline
      obtain ⟨dir, -, href⟩ := hline.exists_reference
      have hkept := hcases dir ref href
      exact ⟨fun hown => hkept.resolve_right fun h => h.1 hown, fun c hc => absurd hc (hother c),
        fun _ => Or.inl ⟨hkept.imp_right fun h => h.2.2, hdirected⟩⟩
  · have hline : Names line dir.name ref := reference_eq_some_iff.1 href
    have hfound : Found toLowerCase files dir.name ref →
        ∀ name ref, Names line name ref → Found toLowerCase files name ref := by
      intro hfound name ref' hline'
      obtain ⟨rfl, rfl⟩ := hline.unique hline'
      exact hfound
    have htaken := (contentOf_eq_string hne).1 hcontent
    cases hr with
    | kept hno =>
      dsimp only at heq
      split_ifs at heq
      exact absurd (Option.some.inj heq).symm (keyDirection_ne_of_reference href)
    | @whole name' ref' c hline' hfile =>
      obtain ⟨rfl, rfl⟩ := hline.unique hline'
      have hspace : dir.name = "tls-auth".toList → ∀ x ∈ ref, isSpace x = false := by
        intro hdir x hx
        by_contra hspace
        have hlength := one_lt_length_splitSpaces.2 ⟨x, hx, by simpa using hspace⟩
        simp [name_eq_tlsAuth.1 hdir, hlength] at heq
      have hown : Inherits toLowerCase files ref → ref.head? = some '[' := fun hown => absurd hown hinherits
      rcases htaken with hpath | ⟨-, hpath, helsewhere⟩
      · obtain rfl : c = content := Option.some.inj (hfile.symm.trans hpath)
        refine ⟨le_rfl, fun _ => hfound ⟨hown, fun d hd => ⟨hbracket, hspace, fun hnil => ?_⟩,
          fun hno => absurd hpath (hno c)⟩⟩
        exact absurd ((Option.some.inj (hfile.symm.trans hd)).trans hnil) hne
      · obtain rfl : c = [] := hpath c hfile
        refine ⟨length_blockText_le_iff.2 (Nat.zero_le _), fun hlength => hfound ⟨hown, fun d _ => ⟨hbracket, hspace,
          fun _ => ⟨content, helsewhere, ?_⟩⟩, fun hno => absurd hfile (hno [])⟩⟩
        have hblank := length_blockText_le_iff.1 hlength.le
        rw [trim_nil, List.length_nil, Nat.le_zero, List.length_eq_zero_iff] at hblank
        exact trim_eq_nil.1 hblank
    | @directed ref' name direction c hline' hother hname hfile hclear =>
      obtain ⟨hdir, rfl⟩ := hline.unique hline'
      obtain ⟨-, -, hne, base, hbase, hfound'⟩ := htaken.resolve_left (hother content)
      have hsame := hclear base content hbase hfound' hne
      refine ⟨?_, fun _ => hfound ⟨fun hown => absurd hown hinherits, fun d hd => absurd hd (hother d), fun _ =>
        Or.inr ⟨hbracket, hdir, name, direction, c, content, hname, hfile, ⟨hne, base, hbase, hfound'⟩, hsame⟩⟩⟩
      rw [← hsame, ← hdir]
      exact le_rfl

lemma newline_notMem_name (dir : Directive) : '\n' ∉ dir.name := by
  cases dir <;> decide

/-- What is left of a line are lines, and its block has a name in one line. -/
lemma newline_notMem_of_resolved (hline : '\n' ∉ line) (hr : Resolved toLowerCase files line r) :
    (∀ l, r.1 = some l → '\n' ∉ l) ∧ ∀ b, r.2 = some b → '\n' ∉ b.1 := by
  have hname : ∀ {name ref}, Names line name ref → '\n' ∉ name := by
    intro name ref h
    obtain ⟨dir, rfl, -⟩ := h.exists_reference
    exact newline_notMem_name dir
  cases hr with
  | whole h _ => exact ⟨by simp, fun b hb => Option.some.inj hb ▸ hname h⟩
  | directed h _ hdirected _ _ =>
    refine ⟨fun l hl => ?_, fun b hb => Option.some.inj hb ▸ hname h⟩
    obtain ⟨gap, -, -, rfl⟩ := hdirected.parts
    obtain ⟨dir, -, href⟩ := h.exists_reference
    obtain rfl := Option.some.inj hl
    intro hmem
    rcases List.mem_append.1 hmem with hmem | hmem
    · revert hmem
      decide
    · exact hline (mem_of_mem_reference href (by simp [hmem]))
  | kept _ => exact ⟨fun l hl => Option.some.inj hl ▸ hline, by simp⟩

lemma newline_notMem_of_resolveLine (hline : '\n' ∉ line) (ha : resolveLine toLowerCase files line = .ok a) :
    (∀ l, a.1 = some l → '\n' ∉ l) ∧ ∀ b, a.2.map Block.pair = some b → '\n' ∉ b.1 := by
  rcases resolveLine_cases ha with ⟨rfl, -⟩ | ⟨dir, ref, content, href, -, -, -, -, rfl⟩
  · exact ⟨fun l hl => Option.some.inj hl ▸ hline, by simp⟩
  · refine ⟨fun l hl => ?_, fun b hb => Option.some.inj hb ▸ newline_notMem_name dir⟩
    dsimp only at hl
    split_ifs at hl
    obtain rfl := Option.some.inj hl
    intro hmem
    rcases List.mem_append.1 hmem with hmem | hmem
    · revert hmem
      decide
    · obtain ⟨y, hy, hmem⟩ : ∃ y ∈ splitSpaces false ref, '\n' ∈ y := by
        cases hlast : (splitSpaces false ref).getLast? with
        | none => simp [hlast] at hmem
        | some y => exact ⟨y, List.mem_of_getLast? hlast, by simpa [hlast] using hmem⟩
      exact hline (mem_of_mem_reference href (mem_of_mem_splitSpaces hy hmem))

/-- A line that names nothing is left as it is. -/
lemma added_of_reference (h : reference line = none) : added toLowerCase files line = (some line, none) :=
  added_of_ok (by rw [resolveLine, h])

lemma blockStart_head (c : Prop) [Decidable c] (blocks : List (Text × Text)) :
    ∀ l ∈ ((if c then [[]] else []) ++ blocks.flatMap blockLines).head?, BlockStart l := by
  intro l hl
  by_cases hc : c
  · rw [if_pos hc] at hl
    rw [← Option.some.inj hl]
    exact fun x hx => by cases hx
  · rw [if_neg hc] at hl
    cases blocks with
    | nil => cases hl
    | cons b blocks =>
      rw [← Option.some.inj hl]
      exact fun x hx => (Option.some.inj hx).symm

end Line

/-! ### The whole text -/

section Results

variable {lines : List Text} {rs : List (Option Text × Option (Text × Text))}

/-- A line for which the script does not throw, and what should become of it. -/
structure Answered (toLowerCase : Text → Text) (files : Text → Option Text) (line : Text)
    (r : Option Text × Option (Text × Text)) : Prop where
  newline : '\n' ∉ line
  ok : ∃ a, resolveLine toLowerCase files line = .ok a
  resolved : Resolved toLowerCase files line r

/-- The lines of the text that the script makes. -/
lemma splitOn_added (h : ∀ line ∈ lines, '\n' ∉ line ∧ ∃ a, resolveLine toLowerCase files line = .ok a) :
    (withBlocks (lines.filterMap fun line => (added toLowerCase files line).1)
        (lines.filterMap fun line => (added toLowerCase files line).2.map Block.pair)).splitOn '\n' =
      lines.filterMap (fun line => (added toLowerCase files line).1) ++
        ((if lines.filterMap (fun line => (added toLowerCase files line).1) = [] then [[]] else []) ++
          (lines.filterMap fun line => (added toLowerCase files line).2.map Block.pair).flatMap blockLines) := by
  refine splitOn_withBlocks (fun l hl => ?_) fun b hb => ?_
  · obtain ⟨line, hline, hadded⟩ := List.mem_filterMap.1 hl
    obtain ⟨hnewline, a, ha⟩ := h line hline
    rw [added_of_ok ha] at hadded
    exact (newline_notMem_of_resolveLine hnewline ha).1 l hadded
  · obtain ⟨line, hline, hadded⟩ := List.mem_filterMap.1 hb
    obtain ⟨hnewline, a, ha⟩ := h line hline
    rw [added_of_ok ha] at hadded
    exact (newline_notMem_of_resolveLine hnewline ha).2 b hadded

/-- The lines of the text that it should make. -/
lemma splitOn_resolved (h : List.Forall₂ (Answered toLowerCase files) lines rs) :
    (withBlocks (rs.filterMap Prod.fst) (rs.filterMap Prod.snd)).splitOn '\n' =
      rs.filterMap Prod.fst ++ ((if rs.filterMap Prod.fst = [] then [[]] else []) ++
        (rs.filterMap Prod.snd).flatMap blockLines) := by
  have hright := exists_forall₂_iff.1 ⟨_, h.flip⟩
  refine splitOn_withBlocks (fun l hl => ?_) fun b hb => ?_
  · obtain ⟨r, hr, hfst⟩ := List.mem_filterMap.1 hl
    obtain ⟨line, hline⟩ := hright r hr
    exact (newline_notMem_of_resolved hline.newline hline.resolved).1 l hfst
  · obtain ⟨r, hr, hsnd⟩ := List.mem_filterMap.1 hb
    obtain ⟨line, hline⟩ := hright r hr
    exact (newline_notMem_of_resolved hline.newline hline.resolved).2 b hsnd

/-- In a text as it should be no line is missing: what the script leaves of one line it leaves of every line
like it, or it is for a direction. -/
lemma forall₂_isSome_added (h : List.Forall₂ (Answered toLowerCase files) lines rs)
    (heq : withBlocks (rs.filterMap Prod.fst) (rs.filterMap Prod.snd) =
      withBlocks (lines.filterMap fun line => (added toLowerCase files line).1)
        (lines.filterMap fun line => (added toLowerCase files line).2.map Block.pair)) :
    List.Forall₂ (fun line r => Answered toLowerCase files line r ∧
      ((added toLowerCase files line).1.isSome ∨ (added toLowerCase files line).1 = r.1)) lines rs := by
  have hleft := exists_forall₂_iff.1 ⟨_, h⟩
  have hsplit := congrArg (List.splitOn '\n') heq
  rw [splitOn_resolved h, splitOn_added fun line hline =>
    (hleft line hline).elim fun _ hr => ⟨hr.newline, hr.ok⟩] at hsplit
  refine forall₂_isSome_of_filterMap_append_eq
    (Q := fun l => (added toLowerCase files l).1 = some l ∨ ∃ direction, l = keyDirection direction)
    ?_ h (u := []) (by simp) ?_ ?_ hsplit.symm
  · rintro line r ⟨-, ⟨a, ha⟩, hr⟩
    rw [added_of_ok ha]
    cases hfst : a.1 with
    | some l => exact Or.inl (Or.inl rfl)
    | none =>
      rcases eq_none_or ha hr hfst with heq | ⟨hkept, dir, ref, href⟩
      · exact Or.inl (Or.inr (hfst.symm.trans heq))
      · refine Or.inr ⟨line, hkept, ?_⟩
        rintro (hadded | ⟨direction, hdirection⟩)
        · rw [added_of_ok ha, hfst] at hadded
          cases hadded
        · exact keyDirection_ne_of_reference href hdirection
  · intro l hl
    obtain ⟨line, hline, hadded⟩ := List.mem_filterMap.1 hl
    obtain ⟨r, -, ⟨a, ha⟩, -⟩ := hleft line hline
    rw [added_of_ok ha] at hadded
    rcases resolveLine_cases ha with ⟨rfl, -⟩ | ⟨dir, ref, content, -, -, -, -, -, rfl⟩
    · obtain rfl := Option.some.inj hadded
      exact Or.inl (by rw [added_of_ok ha])
    · dsimp only at hadded
      split_ifs at hadded
      exact Or.inr ⟨_, (Option.some.inj hadded).symm⟩
  · intro l hl
    exact Or.inl (by rw [added_of_reference (reference_of_blockStart (blockStart_head _ _ l hl))])

/-- And no line is left that should not be. -/
lemma forall₂_added_eq (h : List.Forall₂ (Answered toLowerCase files) lines rs)
    (heq : withBlocks (rs.filterMap Prod.fst) (rs.filterMap Prod.snd) =
      withBlocks (lines.filterMap fun line => (added toLowerCase files line).1)
        (lines.filterMap fun line => (added toLowerCase files line).2.map Block.pair)) :
    List.Forall₂ (fun line r => Answered toLowerCase files line r ∧ (added toLowerCase files line).1 = r.1)
      lines rs := by
  have hsplit := congrArg (List.splitOn '\n') heq
  rw [splitOn_resolved h, splitOn_added fun line hline =>
    (exists_forall₂_iff.1 ⟨_, h⟩ line hline).elim fun _ hr => ⟨hr.newline, hr.ok⟩] at hsplit
  have hsame := forall₂_of_filterMap_append_eq (S := BlockStart) (g := Prod.fst) ?_ (forall₂_isSome_added h heq) ?_
    hsplit.symm
  · exact hsame.imp fun _ _ hr => ⟨hr.1.1, hr.2⟩
  · rintro line r ⟨⟨-, ⟨a, ha⟩, hr⟩, hsome | heq⟩
    · rw [added_of_ok ha] at hsome ⊢
      obtain ⟨l, hl⟩ := Option.isSome_iff_exists.1 hsome
      exact added_eq_or ha hr hl
    · exact Or.inl heq
  · rintro ⟨r, hr, hnone⟩
    obtain ⟨b, hb⟩ : ∃ b, r.2 = some b := by
      obtain ⟨line, -, -, hresolved⟩ := exists_forall₂_iff.1 ⟨_, h.flip⟩ r hr
      cases hresolved with
      | whole _ _ => exact ⟨_, rfl⟩
      | directed _ _ _ _ _ => cases hnone
      | kept _ => cases hnone
    obtain ⟨b', blocks, hblocks⟩ := List.exists_cons_of_ne_nil
      (List.ne_nil_of_mem (List.mem_filterMap.2 ⟨r, hr, hb⟩))
    rw [hblocks]
    split_ifs
    · exact ⟨_, _, rfl, fun c hc => by cases hc⟩
    · exact ⟨_, _, rfl, fun c hc => (Option.some.inj hc).symm⟩

/-- In a text as it should be the condition holds for every line. -/
lemma found_of_inlined {ovpn : Text} (h : Inlined toLowerCase files ovpn) {line : Text}
    (hline : line ∈ ovpn.splitOn '\n') {name ref : Text} (hnames : Names line name ref) :
    Found toLowerCase files name ref := by
  obtain ⟨rs, hrs, hscript⟩ := h
  obtain ⟨hok, heq⟩ := resolveExternalRefs_eq_ok.1 hscript
  have hanswered : List.Forall₂ (Answered toLowerCase files) (ovpn.splitOn '\n') rs := by
    have hlines : ∀ line ∈ ovpn.splitOn '\n', '\n' ∉ line := by
      intro line hline hmem
      rw [List.splitOn_eq_splitOnP] at hline
      simpa using sep_of_mem_splitOnP hline hmem
    have hleft := (List.forall₂_and_left _ _).2 ⟨fun line hline => And.intro (hlines line hline) (hok line hline), hrs⟩
    exact hleft.imp fun _ _ hr => ⟨hr.1.1, hr.1.2, hr.2⟩
  have hsame := forall₂_added_eq hanswered heq
  -- what is left is the same, so that the blocks are
  have hfst := (filterMap_eq_filterMap_iff (hsame.imp fun _ _ h => congrArg Option.isSome h.2)).2
    (hsame.imp fun _ _ h => h.2)
  have hblocks : (ovpn.splitOn '\n').flatMap (fun line => blockText ((added toLowerCase files line).2.map Block.pair)) =
      rs.flatMap fun r => blockText r.2 := by
    rw [withBlocks, withBlocks, hfst, List.append_cancel_left_eq, List.filterMap_eq_flatMap_toList,
      List.filterMap_eq_flatMap_toList, List.flatMap_assoc, List.flatMap_assoc] at heq
    exact heq.symm
  have hlength := forall₂_length_of_flatMap_eq ?_ hsame hblocks
  · obtain ⟨r, ⟨⟨-, ⟨a, ha⟩, hr⟩, hfst⟩, hlength⟩ := exists_forall₂_iff.1 ⟨_, hlength⟩ line hline
    rw [added_of_ok ha] at hfst hlength
    exact (found_of_eq ha hr hfst).2 hlength name ref hnames
  · rintro line r ⟨⟨-, ⟨a, ha⟩, hr⟩, hfst⟩
    rw [added_of_ok ha] at hfst ⊢
    exact (found_of_eq ha hr hfst).1

/-- **When the files of an archive are put into the text**: when every line that names something finds its file
under the whole name or does not mean one. -/
theorem inlined_iff {ovpn : Text} : Inlined toLowerCase files ovpn ↔
    ∀ line ∈ ovpn.splitOn '\n', ∀ name ref, Names line name ref → Found toLowerCase files name ref := by
  refine ⟨fun h line hline name ref => found_of_inlined h hline, fun h => ?_⟩
  have hall : ∀ line ∈ ovpn.splitOn '\n', ∃ a, resolveLine toLowerCase files line = .ok a ∧
      Resolved toLowerCase files line (a.1, a.2.map Block.pair) := fun line hline => exists_resolveLine (h line hline)
  refine ⟨(ovpn.splitOn '\n').map fun line => ((added toLowerCase files line).1,
    (added toLowerCase files line).2.map Block.pair), ?_, ?_⟩
  · rw [List.forall₂_map_right_iff, List.forall₂_same]
    intro line hline
    obtain ⟨a, ha, hresolved⟩ := hall line hline
    rw [added_of_ok ha]
    exact hresolved
  · rw [resolveExternalRefs_eq_ok, List.filterMap_map, List.filterMap_map]
    exact ⟨fun line hline => (hall line hline).imp fun a ha => ha.1, rfl⟩

/-- `tls-auth ta.key 1` with the file `ta.key`: the script looks for a file `ta.key 1`, and keeps the line. -/
theorem not_inlined_direction :
    ¬∀ entries ovpn, Inlined lowercased (fileContents lowercased entries) ovpn := by
  intro h
  have hnames : Names "tls-auth ta.key 1".toList "tls-auth".toList "ta.key 1".toList :=
    reference_eq_some_iff.1 (by decide +kernel : reference _ = some (.tlsAuth, _))
  have hfound := found_of_inlined (h [("ta.key".toList, "K".toList)] "tls-auth ta.key 1".toList)
    (by decide +kernel) hnames
  have hname : "ta.key".toList.getLast? = some 'y' := by decide
  have hdirected : Directed "ta.key 1".toList "ta.key".toList "1".toList := by
    refine ⟨⟨[' '], by decide, List.forall_mem_singleton.2 (by decide), by decide⟩, fun c hc => ?_, by decide,
      List.forall_mem_singleton.2 (by decide)⟩
    obtain rfl : 'y' = c := Option.some.inj (hname.symm.trans hc)
    decide
  have hfile : Present lowercased (fileContents lowercased [("ta.key".toList, "K".toList)]) "ta.key".toList
      "K".toList := by decide +kernel
  have hother : ∀ c, ¬Present lowercased (fileContents lowercased [("ta.key".toList, "K".toList)])
      "ta.key 1".toList c := by
    have hnone : fileContents lowercased [("ta.key".toList, "K".toList)] (lowercased "ta.key 1".toList) = none := by
      decide +kernel
    intro c hc
    rw [Present, hnone] at hc
    cases hc
  rcases hfound.other hother with ⟨-, hno⟩ | ⟨-, -, n, d, content, c, -, -, ⟨-, base, hbase, hc⟩, -⟩
  · exact hno rfl _ _ _ hdirected hfile
  · have hbaseName : baseName "ta.key 1".toList = "ta.key 1".toList := by decide +kernel
    rw [isBaseName_iff.1 hbase, hbaseName] at hc
    exact hother c hc

end Results

end FreeVPN.Upload
