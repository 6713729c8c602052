import FreeVPN.Profile.Printed

/-!
# A profile to the app and to the kit

`WireGuardConfig.parse` and the parser of WireGuardKit read the same texts by different rules.  The
kit cuts off what follows a `#` before it looks at a line; the app leaves out the lines that begin
with one, and keeps the comments of the others as part of the line.

* `readLine_eq` — a line to the two readers;
* `commonSections`, `bodies_profileSections` — the sections of the app, with the entries as the kit
  reads them;
* `commonSections_eq`, `length_bodies_common` — these are the sections of the kit, unless a section
  header is followed by a comment, and then the kit has more.
-/

namespace FreeVPN.Profile

open FreeVPN.Lib FreeVPN.Foundation FreeVPN.WgQuick

/-! ### The lines of a profile to the two readers -/

/-- What the kit reads where the app reads an entry: the key of an entry inside a comment is none,
and the comment of a value is cut off. -/
def kitEntry (e : Entry) : Option Entry := if '#' ∈ e.1 then none else some (e.1, strip e.2)

/-- What the kit reads where the app reads a line. -/
abbrev kitLine (line : Text) : Line Header Entry := (profileLine line).filterMap kitEntry

lemma values_filterMap_kitEntry {key : Text} (hkey : '#' ∉ key) (es : List Entry) :
    values key (es.filterMap kitEntry) = (values key es).map strip := by
  induction es with
  | nil => rfl
  | cons e es ih =>
    by_cases he : '#' ∈ e.1
    · have hne : lowercased e.1 ≠ key := fun h => hkey (h ▸ mem_lowercased (by decide) he)
      rw [values_cons, if_neg hne, ← ih]
      simp [kitEntry, he]
    · rw [List.filterMap_cons_some (b := (e.1, strip e.2)) (by simp [kitEntry, he]), values_cons,
        values_cons, ih]
      split_ifs <;> rfl

lemma bodies_filterMap (h : Header) (cs : List (Header × List Entry)) (f : Entry → Option Entry) :
    bodies h (cs.map fun c => (c.1, c.2.filterMap f)) = (bodies h cs).map (List.filterMap f) := by
  induction cs with
  | nil => rfl
  | cons c cs ih => 
    rw [List.map_cons, bodies_cons, bodies_cons, ih]
    split_ifs <;> rfl

lemma trimWhitespaces_part {line u : Text} (hline : ∀ c ∈ line, isNewline c = false)
    (hu : ∀ c ∈ u, c ∈ line) : trimWhitespacesAndNewlines u = trimWhitespaces u :=
  trimWhitespacesAndNewlines_eq fun c hc => hline c (hu c hc)

/-- A line without the comment mark is the same to the two readers. -/
lemma readLine_plain {t : Text} (ht : trimWhitespaces t = t) (hne : t ≠ [])
    (hline : ∀ c ∈ t, isNewline c = false) (hmem : '#' ∉ t) {x : Line Header Entry}
    (hx : readLine t = some x) : kitLine t = x := by
  have htk : trimWhitespacesAndNewlines (before '#' t) = t := by
    rw [before_of_notMem hmem, trimWhitespaces_part hline fun c hc => hc, ht]
  have hpre : hasPrefix t ['#'] = false := by
    cases t with
    | nil => exact absurd rfl hne
    | cons d t =>
      have hd : d ≠ '#' := fun h => hmem (by simp [h])
      simp [hasPrefix_eq, List.isPrefixOf, Ne.symm hd]
  unfold readLine at hx
  unfold kitLine profileLine
  simp only [htk, hne, if_false, ht, hpre, false_or, reduceCtorEq] at hx ⊢
  cases hc : cut '=' t with
  | some r =>
    obtain ⟨hr, -⟩ := cut_eq_some.1 (show cut '=' t = some (r.1, r.2) from hc)
    have hk : ∀ c ∈ r.1, c ∈ t := fun c h => by simp [hr, h]
    have hv : ∀ c ∈ r.2, c ∈ t := fun c h => by simp [hr, h]
    have hk' : '#' ∉ trimWhitespaces r.1 := fun h => hmem (hk _ (mem_of_mem_trim h))
    have hv' : '#' ∉ trimWhitespaces r.2 := fun h => hmem (hv _ (mem_of_mem_trim h))
    simp only [hc, Option.some.injEq] at hx
    simp only [headerOf_of_cut hc, ← hx, Line.filterMap, kitEntry, hk', if_false, Option.elim_some,
      strip, uncommented_of_notMem hv', trim_trim, trimWhitespaces_part hline hk,
      trimWhitespaces_part hline hv]
  | none =>
    simp only [hc, Option.map_eq_some_iff] at hx
    obtain ⟨h, hh, rfl⟩ := hx
    simp [hh, Line.filterMap]

lemma readLine_trim {line : Text} (hline : ∀ c ∈ line, isNewline c = false) :
    readLine (trimWhitespaces line) = readLine line := by
  have h₁ : trimWhitespacesAndNewlines (before '#' line) = trimWhitespaces (before '#' line) :=
    trimWhitespaces_part hline fun c hc => mem_of_mem_before hc
  have h₂ : trimWhitespacesAndNewlines (before '#' (trimWhitespaces line)) =
      trimWhitespaces (before '#' (trimWhitespaces line)) :=
    trimWhitespaces_part hline fun c hc => mem_of_mem_trim (mem_of_mem_before hc)
  have h₃ : trimWhitespaces (before '#' (trimWhitespaces line)) = trimWhitespaces (before '#' line) :=
    trim_before_trim (by decide) line
  unfold readLine
  rw [h₁, h₂, h₃]

/-- A line whose comment starts after `u`. -/
lemma readLine_comment {d : Char} {u w : Text} (hd : isWhitespace d = false) (hu : '#' ∉ d :: u)
    (hline : ∀ c ∈ d :: u ++ '#' :: w, isNewline c = false)
    (ht : trimWhitespaces (d :: u ++ '#' :: w) = d :: u ++ '#' :: w) {x : Line Header Entry}
    (hx : readLine (d :: u ++ '#' :: w) = some x) :
    kitLine (d :: u ++ '#' :: w) = x ∧ x.getHeader = none ∨
      kitLine (d :: u ++ '#' :: w) = .blank ∧ ∃ h, x = .header h := by
  have htk : trimWhitespacesAndNewlines (before '#' (d :: u ++ '#' :: w)) = trimWhitespaces (d :: u) := by
    rw [before_append_cons hu, trimWhitespaces_part hline fun c hc => by simp at hc ⊢; tauto]
  have hne : trimWhitespaces (d :: u) ≠ [] := fun h => by
    simpa [hd] using trim_eq_nil.1 h d (by simp)
  have hpre : hasPrefix (d :: u ++ '#' :: w) ['#'] = false := by
    have hd' : '#' ≠ d := fun h => hu (h ▸ List.mem_cons_self ..)
    simp [hasPrefix_eq, List.isPrefixOf, hd']
  have hheader : headerOf (d :: u ++ '#' :: w) = none := by
    cases hh : headerOf (d :: u ++ '#' :: w) with
    | none => rfl
    | some h =>
      have hw : ∀ h : Header, '#' ∉ h.word := fun h => by cases h <;> decide
      exact absurd (by simp) (notMem_of_headerOf hh (by decide) hw)
  unfold readLine at hx
  simp only [htk, hne, if_false] at hx
  unfold kitLine profileLine
  rw [ht]
  have hnil : ¬(d :: u ++ '#' :: w = [] ∨ hasPrefix (d :: u ++ '#' :: w) ['#'] = true) := by
    rw [hpre]
    simp
  simp only [if_neg hnil, hheader]
  have hcut := cut_trim (p := isWhitespace) (a := '=') (by decide) (d :: u)
  rw [hcut] at hx
  cases hcu : cut '=' (d :: u) with
  | some r =>
    -- the equals sign is before the comment, which is at the end of the value
    obtain ⟨hr, hr₁⟩ := cut_eq_some.1 (show cut '=' (d :: u) = some (r.1, r.2) from hcu)
    have hfull : cut '=' (d :: u ++ '#' :: w) = some (r.1, r.2 ++ '#' :: w) := by
      rw [hr, List.append_assoc, List.cons_append, cut_append_cons hr₁]
    have hkey : ∀ c ∈ r.1, c ∈ d :: u := fun c h => by simp [hr, h]
    have hval : ∀ c ∈ r.2, c ∈ d :: u := fun c h => by simp [hr, h]
    have hall : ∀ c ∈ d :: u, c ∈ d :: u ++ '#' :: w := fun c h => List.mem_append_left _ h
    have hk : '#' ∉ trimWhitespaces r.1 := fun h => hu (hkey _ (mem_of_mem_trim h))
    have hk' : trimWhitespacesAndNewlines (r.1.dropWhile isWhitespace) = trimWhitespaces r.1 := by
      rw [trimWhitespaces_part hline fun c h => hall c (hkey c ((List.dropWhile_sublist _).mem h))]
      exact trim_dropWhile r.1
    have hv' : trimWhitespacesAndNewlines (r.2.rdropWhile isWhitespace) = trimWhitespaces r.2 := by
      rw [trimWhitespaces_part hline fun c h =>
        hall c (hval c ((List.rdropWhile_prefix _ _).subset h))]
      exact trim_rdropWhile r.2
    have hv : strip (trimWhitespaces (r.2 ++ '#' :: w)) = trimWhitespaces r.2 := by
      have hr₂ : '#' ∉ r.2 := fun h => hu (hval _ h)
      rw [strip, uncommented, trim_before_trim (by decide), before_append_cons hr₂]
    simp only [hcu, Option.map_some, Option.some.injEq, hk', hv'] at hx
    left
    rw [hfull, ← hx]
    simp [Line.filterMap, Line.getHeader, kitEntry, hk, hv]
  | none =>
    -- the line is a header to the kit; to the app it is an entry inside the comment, or nothing
    have hu' := cut_eq_none.1 hcu
    simp only [hcu, Option.map_none, Option.map_eq_some_iff] at hx
    obtain ⟨h, -, rfl⟩ := hx
    refine Or.inr ⟨?_, h, rfl⟩
    by_cases hw : '=' ∈ w
    · obtain ⟨w₁, w₂, rfl, hw₁⟩ := exists_first hw
      have hfull : cut '=' (d :: u ++ '#' :: (w₁ ++ '=' :: w₂)) = some (d :: u ++ '#' :: w₁, w₂) := by
        rw [show d :: u ++ '#' :: (w₁ ++ '=' :: w₂) = (d :: u ++ '#' :: w₁) ++ '=' :: w₂ by simp]
        refine cut_append_cons ?_ w₂
        simp only [List.mem_append, List.mem_cons, not_or] at hu' ⊢
        exact ⟨hu', by decide, hw₁⟩
      have hk : '#' ∈ trimWhitespaces (d :: u ++ '#' :: w₁) := mem_trim_of_not (by simp) (by decide)
      rw [hfull]
      simp only [Line.filterMap, kitEntry, if_pos hk, Option.elim_none]
    · have hfull : cut '=' (d :: u ++ '#' :: w) = none := by
        refine cut_eq_none.2 ?_
        simp only [List.mem_append, List.mem_cons, not_or] at hu' ⊢
        exact ⟨hu', by decide, hw⟩
      rw [hfull]
      rfl

/-- **A line to the two readers**, where the kit can read it: the kit reads what the app reads, but
for a section header that is followed by a comment. -/
theorem readLine_eq {line : Text} (hline : ∀ c ∈ line, isNewline c = false) {x : Line Header Entry}
    (hx : readLine line = some x) :
    kitLine line = x ∧ ('#' ∈ line → x.getHeader = none) ∨
      kitLine line = .blank ∧ '#' ∈ line ∧ ∃ h, x = .header h := by
  have hline' : ∀ c ∈ trimWhitespaces line, isNewline c = false := fun c hc =>
    hline c (mem_of_mem_trim hc)
  have hkit : kitLine line = kitLine (trimWhitespaces line) := by
    have htt : trimWhitespaces (trimWhitespaces line) = trimWhitespaces line := trim_trim line
    unfold kitLine profileLine
    rw [htt]
  rw [← readLine_trim hline] at hx
  rw [hkit]
  have hmem : '#' ∈ line ↔ '#' ∈ trimWhitespaces line :=
    ⟨fun h => mem_trim_of_not h (by decide), mem_of_mem_trim⟩
  rw [hmem]
  have htt : trimWhitespaces (trimWhitespaces line) = trimWhitespaces line := trim_trim line
  generalize trimWhitespaces line = t at hx hline' htt
  by_cases hc : '#' ∈ t
  · obtain ⟨u, w, rfl, hu⟩ := exists_first hc
    cases u with
    | nil =>
      have hx' : x = .blank := by simpa [readLine, before] using hx.symm
      refine Or.inl ⟨?_, fun _ => by rw [hx']; rfl⟩
      have hpre : hasPrefix ([] ++ '#' :: w) ['#'] = true := by simp [hasPrefix_eq]
      unfold kitLine profileLine
      simp only [htt, hx', hpre, or_true, if_true, Line.filterMap]
    | cons d u =>
      have hd : isWhitespace d = false := trim_cons_head htt
      rcases readLine_comment hd hu hline' htt hx with ⟨h₁, h₂⟩ | ⟨h₁, h₂⟩
      · exact Or.inl ⟨h₁, fun _ => h₂⟩
      · exact Or.inr ⟨h₁, hc, h₂⟩
  · by_cases hne : t = []
    · subst hne
      have hx' : x = .blank := by simpa [readLine, before] using hx.symm
      exact Or.inl ⟨by rw [hx']; rfl, fun h => by simp at h⟩
    · exact Or.inl ⟨readLine_plain htt hne hline' hc hx, fun h => absurd h hc⟩

/-! ### The sections of a profile to the two readers -/

/-- Does the kit read a section header? -/
def isHeaderLine (line : Text) : Bool := ((readLine line).bind Line.getHeader).isSome

/-- The lines of a text, without a section header on the last of them: it opens no section. -/
def openLines (s : Text) : List Text := dropLastIf isHeaderLine (lines s)

/-- The sections of `openLines` as the app reads them, with the entries as the kit reads them. -/
def commonSections (s : Text) : List (Header × List Entry) := (sections ((openLines s).map kitLine)).2

lemma notNewline_of_mem_lines {s line : Text} (h : line ∈ lines s) {c : Char} (hc : c ∈ line) :
    isNewline c = false :=
  notNewline_of_mem_components (List.mem_filter.1 h).1 hc

lemma profileSections_eq (s : Text) : profileSections s = (sections ((lines s).map profileLine)).2 := by
  have hblank : ∀ ls : List Text, sections (ls.map profileLine) =
      sections ((ls.filter (· ≠ [])).map profileLine) := by
    intro ls
    induction ls with
    | nil => rfl
    | cons l ls ih =>
      by_cases hl : l = []
      · subst hl
        simpa [profileLine, sections] using ih
      · rw [List.filter_cons_of_pos (by simpa using hl), List.map_cons, List.map_cons]
        cases profileLine l <;> simp [sections, ih]
  rw [profileSections, hblank]

/-- The sections of the app are those of `openLines`, and perhaps one more without entries. -/
lemma bodies_profileSections (s : Text) (h : Header) :
    (bodies h (profileSections s)).map (List.filterMap kitEntry) = bodies h (commonSections s) ∨
      (bodies h (profileSections s)).map (List.filterMap kitEntry) =
        bodies h (commonSections s) ++ [[]] := by
  have hmap : (sections ((lines s).map kitLine)).2 =
      (profileSections s).map fun c => (c.1, c.2.filterMap kitEntry) := by
    have : (lines s).map kitLine = ((lines s).map profileLine).map (Line.filterMap kitEntry) := by
      simp [kitLine]
    rw [this, sections_filterMap, profileSections_eq]
  rw [← bodies_filterMap, ← hmap, commonSections]
  rcases dropLastIf_spec isHeaderLine (lines s) with hlast | ⟨line, hline, hlast⟩
  · exact Or.inl (by rw [openLines, hlast])
  · have hmem : line ∈ lines s := by rw [hlast]; simp
    obtain ⟨x, hx⟩ : ∃ x, readLine line = some x := by
      rcases hr : readLine line with _ | x
      · simp [isHeaderLine, hr] at hline
      · exact ⟨x, rfl⟩
    have hkit : (lines s).map kitLine = (openLines s).map kitLine ++ [kitLine line] := by
      conv_lhs => rw [hlast]
      simp [openLines]
    rw [hkit]
    have hblank : kitLine line = .blank ∨ ∃ h', kitLine line = .header h' := by
      rcases readLine_eq (fun c hc => notNewline_of_mem_lines hmem hc) hx with ⟨h₁, -⟩ | ⟨h₁, -⟩
      · cases x with
        | header h' => exact Or.inr ⟨h', h₁⟩
        | blank => simp [isHeaderLine, hx, Line.getHeader] at hline
        | entry e => simp [isHeaderLine, hx, Line.getHeader] at hline
      · exact Or.inl h₁
    rcases hblank with hb | ⟨h', hb⟩
    · exact Or.inl (by rw [hb, sections_concat_blank])
    · rw [hb, sections_concat_header]
      by_cases hh : h' = h
      · exact Or.inr (by simp [bodies, hh])
      · exact Or.inl (by simp [bodies, hh])

/-! ### Sections that the app does not see -/

lemma mem_lines_of_mem_openLines {s line : Text} (h : line ∈ openLines s) : line ∈ lines s := by
  rcases dropLastIf_spec isHeaderLine (lines s) with hlast | ⟨l, -, hlast⟩
  · rwa [openLines, hlast] at h
  · rw [hlast]
    exact List.mem_append_left _ h

lemma reads_openLines {s : Text} {ls : List (Line Header Entry)} (hls : Reads readLine (lines s) ls) :
    Reads readLine (openLines s) (dropLastHeader ls) :=
  forall₂_dropLastIf (fun line x hx => by simp [isHeaderLine, hx]) hls

/-- The app sees at most the sections that the kit sees, and fewer of a kind when the header of one
is followed by a comment. -/
lemma length_bodies_common {s : Text} {ls : List (Line Header Entry)}
    (hls : Reads readLine (lines s) ls) (h : Header) :
    (bodies h (commonSections s)).length ≤ (bodies h (sections (dropLastHeader ls)).2).length ∧
      ((∃ line ∈ openLines s, readLine line = some (.header h) ∧ '#' ∈ line) →
        (bodies h (commonSections s)).length < (bodies h (sections (dropLastHeader ls)).2).length) := by
  have hnew : ∀ line ∈ openLines s, ∀ c ∈ line, isNewline c = false := fun line hline c hc =>
    notNewline_of_mem_lines (mem_lines_of_mem_openLines hline) hc
  rw [commonSections, length_bodies, length_bodies]
  have hreads := reads_openLines hls
  generalize openLines s = as at hnew hreads
  generalize dropLastHeader ls = bs at hreads
  induction hreads with
  | nil => simp
  | @cons line x as bs hx hreads ih =>
    obtain ⟨ih₁, ih₂⟩ := ih fun l hl => hnew l (by simp [hl])
    rw [List.map_cons, List.countP_cons, List.countP_cons]
    rcases readLine_eq (hnew line (by simp)) hx with ⟨h₁, h₂⟩ | ⟨h₁, h₂, h', rfl⟩
    · rw [h₁]
      refine ⟨by omega, ?_⟩
      rintro ⟨l, hl, hlx, hlc⟩
      rcases List.mem_cons.1 hl with rfl | hl
      · rw [hx] at hlx
        rw [Option.some.inj hlx] at h₂
        exact absurd (h₂ hlc) (by simp [Line.getHeader])
      · have := ih₂ ⟨l, hl, hlx, hlc⟩
        omega
    · rw [h₁]
      have hb : (Line.blank (β := Header) (γ := Entry)).getHeader.any (· = h) = false := rfl
      simp only [hb, Bool.false_eq_true, if_false]
      refine ⟨by omega, ?_⟩
      rintro ⟨l, hl, hlx, hlc⟩
      rcases List.mem_cons.1 hl with rfl | hl
      · rw [hx] at hlx
        simp only [Option.some.injEq, Line.header.injEq] at hlx
        have hh : (Line.header (γ := Entry) h').getHeader.any (· = h) = true := by
          simp [Line.getHeader, hlx]
        simp only [hh, if_true]
        omega
      · have := ih₂ ⟨l, hl, hlx, hlc⟩
        omega

/-- **Where no section header has a comment, the two readers see the same sections.** -/
lemma commonSections_eq {s : Text} {ls : List (Line Header Entry)}
    (hls : Reads readLine (lines s) ls)
    (hplain : ∀ line ∈ openLines s, ∀ h, readLine line = some (.header h) → '#' ∉ line) :
    commonSections s = (sections (dropLastHeader ls)).2 := by
  have hnew : ∀ line ∈ openLines s, ∀ c ∈ line, isNewline c = false := fun line hline c hc =>
    notNewline_of_mem_lines (mem_lines_of_mem_openLines hline) hc
  have hreads := reads_openLines hls
  rw [commonSections]
  suffices h : (openLines s).map kitLine = dropLastHeader ls by rw [h]
  generalize openLines s = as at hnew hreads hplain
  generalize dropLastHeader ls = bs at hreads
  induction hreads with
  | nil => rfl
  | @cons line x as bs hx hreads ih =>
    rw [List.map_cons, ih (fun l hl => hnew l (by simp [hl])) fun l hl => hplain l (by simp [hl])]
    rcases readLine_eq (hnew line (by simp)) hx with ⟨h₁, -⟩ | ⟨-, h₂, h', rfl⟩
    · rw [h₁]
    · exact absurd h₂ (hplain line (by simp) h' hx)

end FreeVPN.Profile
