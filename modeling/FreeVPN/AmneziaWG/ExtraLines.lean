import FreeVPN.AmneziaWG.Configuration

/-!
# Lines that make no difference

AmneziaWGKit ignores the keys that it does not know.  Lines with such keys may be put in anywhere after
the first section header, as long as they do not follow a header on the last line
(`Kit.parse_of_insertedAfter`).

A header on the last line is the exception throughout: the kit closes a section at the next header or at
the last line, and this one is opened when it is over.  `everySectionProcessed_iff` says that nothing else
is lost.
-/

namespace FreeVPN.AmneziaWG

open FreeVPN.Lib FreeVPN.Foundation FreeVPN.WgQuick

/-! ### The last line -/

/-- The header that a line is, without its comment and the white space around it, in any case. -/
def lineHeader (line : Text) : Option Header := headerOf (trimWhitespacesAndNewlines (before '#' line))

/-- The header that the last line of a text is. -/
def lastHeader (s : Text) : Option Header := (lines s).getLast?.bind lineHeader

lemma lastHeader_of_reads {s : Text} {ls : List (Line Header Entry)} (hls : Reads readLine (lines s) ls) :
    lastHeader s = ls.getLast?.bind Line.getHeader :=
  hls.getLast?_bind fun _ _ hx => headerOf_of_readLine hx

/-! ### Unknown keys -/

section Unknown

variable {I : Type} {kit : Kit I}

/-- `key = value`, and maybe a comment, with a key that the section does not recognise.  The equals sign and the
mark of the comment are `Character`s of their own. -/
def UnknownEntry [Unicode] (kit : Kit I) (h : Header) (line : Text) : Prop :=
  ∃ key value comment : Text, line = key ++ '=' :: value ++ comment ∧ '=' ∉ key ∧ '#' ∉ key ∧ '#' ∉ value ∧
    Alone key (value ++ comment) ∧ (comment = [] ∨ ∃ c, comment = '#' :: c ∧ Alone (key ++ '=' :: value) c) ∧
    lowercased (trimWhitespacesAndNewlines key) ∉ kit.sectionKeys h

/-- An entry, without its comment. -/
lemma readLine_entry {key value comment : Text} (hkey : '=' ∉ key) (hkey' : '#' ∉ key) (hvalue : '#' ∉ value)
    (hcomment : comment = [] ∨ ∃ c, comment = '#' :: c) :
    readLine (key ++ '=' :: value ++ comment) =
      some (.entry (trimWhitespacesAndNewlines key, trimWhitespacesAndNewlines value)) := by
  have hmem : '#' ∉ key ++ '=' :: value := by simp [hkey', hvalue]
  have hbefore : before '#' (key ++ '=' :: value ++ comment) = key ++ '=' :: value := by
    rcases hcomment with rfl | ⟨c, rfl⟩
    · rw [List.append_nil, before_of_notMem hmem]
    · exact before_append_cons hmem c
  have hcut := cut_trim (p := isWhitespaceOrNewline) (a := '=') (by decide) (key ++ '=' :: value)
  rw [cut_append_cons hkey, Option.map_some] at hcut
  change cut '=' (trimWhitespacesAndNewlines _) = _ at hcut
  have hne : trimWhitespacesAndNewlines (key ++ '=' :: value) ≠ [] := fun h => by
    rw [h] at hcut
    cases hcut
  unfold readLine
  rw [hbefore, if_neg hne, hcut]
  simp only [trim_dropWhile, trim_rdropWhile]

lemma readLine_unknownEntry [Unicode] {h : Header} {line : Text} (hline : UnknownEntry kit h line) :
    ∃ x : Line Header Entry, readLine line = some x ∧
      ∃ e, x = .entry e ∧ lowercased e.1 ∉ kit.sectionKeys h := by
  obtain ⟨key, value, comment, rfl, h₁, h₂, h₃, -, hcomment, hunknown⟩ := hline
  exact ⟨_, readLine_entry h₁ h₂ h₃ (hcomment.imp_right fun ⟨c, hc, _⟩ => ⟨c, hc⟩), _, rfl, hunknown⟩

/-- **Entries with unknown keys** do not change the attributes of a section. -/
lemma values_of_inserted {h : Header} {es es' : List Entry}
    (hins : Inserted (fun e : Entry => lowercased e.1 ∉ kit.sectionKeys h) es es') {k : Text}
    (hk : k ∈ kit.sectionKeys h) : values k es' = values k es := by
  have hother : ∀ e : Entry, lowercased e.1 ∉ kit.sectionKeys h → decide (lowercased e.1 = k) = false :=
    fun e he => decide_eq_false fun hek => he (hek ▸ hk)
  rw [values, hins.filter_eq hother, values]

lemma attributesOf_of_inserted {h : Header} {es es' : List Entry}
    (hins : Inserted (fun e : Entry => lowercased e.1 ∉ kit.sectionKeys h) es es') :
    kit.attributesOf h es' = kit.attributesOf h es := by
  funext k
  by_cases hk : k ∈ kit.sectionKeys h
  · rw [kit.attributesOf_of_mem hk, kit.attributesOf_of_mem hk, values_of_inserted hins hk]
  · rw [Kit.attributesOf, if_neg hk, Kit.attributesOf, if_neg hk]

/-- The bodies of the sections of a kind. -/
lemma bodies_of_inserted {cs cs' : List (Header × List Entry)} {q : Header → Entry → Prop}
    (hcs : List.Forall₂ (fun s s' => s'.1 = s.1 ∧ Inserted (q s.1) s.2 s'.2) cs cs') (h : Header) :
    List.Forall₂ (Inserted (q h)) (bodies h cs) (bodies h cs') := by
  induction hcs with
  | nil => exact .nil
  | @cons s s' cs cs' hs _ ih =>
    obtain ⟨hheader, hins⟩ := hs
    rw [bodies_cons, bodies_cons, hheader]
    by_cases hh : s.1 = h
    · rw [if_pos hh, if_pos hh]
      exact .cons (hh ▸ hins) ih
    · rw [if_neg hh, if_neg hh]
      exact ih

variable [Network] (hlenient : kit.strict = false)

include hlenient

omit [Network] in
lemma readInterface_of_inserted {es es' : List Entry} {i : I}
    (hins : Inserted (fun e : Entry => lowercased e.1 ∉ kit.sectionKeys .interface) es es')
    (h : kit.readInterface es = .ok i) : kit.readInterface es' = .ok i := by
  obtain ⟨-, hsingle, hcollate⟩ := kit.readInterface_eq_ok.1 h
  refine kit.readInterface_eq_ok.2 ⟨fun hs => by simp [hlenient] at hs, fun k hk hm => ?_, ?_⟩
  · rw [values_of_inserted hins hk]
    exact hsingle k hk hm
  · rw [attributesOf_of_inserted hins]
    exact hcollate

lemma readPeer_of_inserted {es es' : List Entry} {p : PeerConfiguration}
    (hins : Inserted (fun e : Entry => lowercased e.1 ∉ kit.sectionKeys .peer) es es')
    (h : kit.readPeer es = .ok p) : kit.readPeer es' = .ok p := by
  obtain ⟨-, hsingle, hcollate⟩ := kit.readPeer_eq_ok.1 h
  refine kit.readPeer_eq_ok.2 ⟨fun hs => by simp [hlenient] at hs, fun k hk hm => ?_, ?_⟩
  · rw [values_of_inserted hins hk]
    exact hsingle k hk hm
  · rw [attributesOf_of_inserted hins]
    exact hcollate

/-- **Unknown keys are ignored** by a lenient kit, wherever they are put in after the first header. -/
theorem parse_of_insertedAfter [Unicode] {s s' : Text} {T : TunnelConfiguration I} (hT : kit.parse s = .ok T)
    (hlast : lastHeader s = none)
    (hins : InsertedAfter lineHeader (UnknownEntry kit) none (lines s) (lines s')) :
    kit.parse s' = .ok T := by
  obtain ⟨ls, hls, hcol⟩ := kit.parse_eq_ok.1 hT
  obtain ⟨ls', hls', hins'⟩ := hins.reads (fun _ _ hx => headerOf_of_readLine hx)
    (fun _ _ hline => readLine_unknownEntry hline) hls
  -- the last line is no header, neither before nor after
  have hend : ls.getLast?.bind Line.getHeader = none := by rw [← lastHeader_of_reads hls, hlast]
  have hend' : ls'.getLast?.bind Line.getHeader = none := by
    refine Option.bind_eq_none_iff.2 fun x hx => ?_
    rcases hins'.getLast? x hx with hx | ⟨h, e, rfl, -⟩
    · exact Option.bind_eq_none_iff.1 hend x hx
    · rfl
  rw [dropLastHeader_of_none hend] at hcol
  obtain ⟨hpre, -, hsections⟩ := sections_of_insertedAfter hins'
  have hbodies := bodies_of_inserted (q := fun h e => lowercased e.1 ∉ kit.sectionKeys h) hsections
  obtain ⟨⟨a, ha⟩, ⟨es, hes, hi⟩, hpeers⟩ := hcol
  refine kit.parse_eq_ok.2 ⟨ls', hls', ?_⟩
  rw [dropLastHeader_of_none hend']
  constructor
  · exact ⟨a, hpre rfl ▸ ha⟩
  · have hb := hbodies .interface
    rw [hes] at hb
    obtain ⟨es', _, hes', hnil, hb'⟩ := List.forall₂_cons_left_iff.1 hb
    obtain rfl := List.forall₂_nil_left_iff.1 hnil
    exact ⟨es', hb', readInterface_of_inserted hlenient hes' hi⟩
  · exact forall₂_of_forall₂ (R := Inserted _) (S := fun es p => kit.readPeer es = .ok p)
      (T := fun es p => kit.readPeer es = .ok p)
      (fun _ _ _ hx hp => readPeer_of_inserted hlenient hx hp) (hbodies .peer) hpeers

end Unknown

section Parse

variable [Network]

/-- **Unknown keys are ignored.**  If the last line of an accepted text is no section header, lines with
keys that their sections do not recognise may be put in after the first header. -/
theorem parse_of_unknownEntries [Unicode] {s s' : Text} {T : TunnelConfiguration InterfaceConfiguration}
    (hT : amneziaWGKit.parse s = .ok T) (hlast : lastHeader s = none)
    (hins : InsertedAfter lineHeader (UnknownEntry amneziaWGKit) none (lines s) (lines s')) :
    amneziaWGKit.parse s' = .ok T :=
  parse_of_insertedAfter rfl hT hlast hins

/-! ### Every section -/

/-- A line that is blank, or only a comment, the mark of which is a `Character` of its own. -/
def BlankLine [Unicode] (line : Text) : Prop :=
  ∃ blank comment : Text, line = blank ++ comment ∧ (∀ c ∈ blank, isWhitespaceOrNewline c) ∧
    (comment = [] ∨ ∃ c, comment = '#' :: c ∧ Alone blank c)

omit [Network] in
lemma readLine_blankLine [Unicode] {line : Text} (h : BlankLine line) : readLine line = some .blank := by
  obtain ⟨blank, comment, rfl, hblank, hcomment⟩ := h
  have hmark : '#' ∉ blank := fun hmem => absurd (hblank '#' hmem) (by decide)
  have hbefore : before '#' (blank ++ comment) = blank := by
    rcases hcomment with rfl | ⟨c, rfl, -⟩
    · rw [List.append_nil, before_of_notMem hmark]
    · exact before_append_cons hmark c
  exact if_pos (by rw [hbefore, trimWhitespacesAndNewlines, trim_eq_nil.2 hblank])

/-- Every section of a text is processed: each `[Peer]` header makes a peer, in their order, there is one
`[Interface]` header, and blank lines and comments at the end change nothing. -/
structure EverySectionProcessed [Unicode] (s : Text) (T : TunnelConfiguration InterfaceConfiguration) : Prop where
  count : T.peers.length = (lines s).countP fun line => lineHeader line = some .peer
  order : List.Forall₂ (fun es p => amneziaWGKit.readPeer es = .ok p)
    (bodies .peer (sections ((lines s).filterMap readLine)).2) T.peers
  interface : ((lines s).countP fun line => lineHeader line = some .interface) = 1
  trailing : ∀ (c : Char) (t : Text), isNewline c → (∀ line ∈ lines t, BlankLine line) →
    amneziaWGKit.parse (s ++ c :: t) = amneziaWGKit.parse s

omit [Network] in
/-- The headers of a kind are as many as its sections. -/
lemma countP_lineHeader {s : Text} {ls : List (Line Header Entry)} (hls : Reads readLine (lines s) ls)
    (h : Header) :
    ((lines s).countP fun line => lineHeader line = some h) = (bodies h (sections ls).2).length := by
  rw [length_bodies]
  refine hls.countP_eq fun line x hx => ?_
  rw [lineHeader, headerOf_of_readLine hx]
  cases x.getHeader <;> simp

/-- What is added at the end of a text whose last line is no header. -/
lemma parse_append_blank [Unicode] {s : Text} {T : TunnelConfiguration InterfaceConfiguration}
    (hT : amneziaWGKit.parse s = .ok T) (hlast : lastHeader s = none) {c : Char} (hc : isNewline c)
    {t : Text} (ht : ∀ line ∈ lines t, BlankLine line) : amneziaWGKit.parse (s ++ c :: t) = .ok T := by
  obtain ⟨ls, hls, hcol⟩ := amneziaWGKit.parse_eq_ok.1 hT
  have hblank : ∀ line ∈ lines t, readLine line = some .blank := fun line hline => readLine_blankLine (ht line hline)
  have hreads : Reads readLine (lines t) ((lines t).map fun _ => (.blank : Line Header Entry)) :=
    List.forall₂_map_right_iff.2 (List.forall₂_same.2 hblank)
  have hall : ∀ b ∈ (lines t).map fun _ => (.blank : Line Header Entry), b = .blank := by simp
  generalize (lines t).map (fun _ => (.blank : Line Header Entry)) = bs at hreads hall
  have hend : ls.getLast?.bind Line.getHeader = none := by rw [← lastHeader_of_reads hls, hlast]
  have hend' : (ls ++ bs).getLast?.bind Line.getHeader = none := by
    rw [List.getLast?_append]
    cases hb : bs.getLast? with
    | none => exact hend
    | some b =>
      rw [hall b (List.mem_of_getLast? hb)]
      rfl
  refine amneziaWGKit.parse_eq_ok.2 ⟨ls ++ bs, ?_, ?_⟩
  · rw [lines_append_newline hc]
    exact List.rel_append hls hreads
  · rw [dropLastHeader_of_none hend', sections_append_blank hall, ← dropLastHeader_of_none hend]
    exact hcol

/-- **A header on the last line is all that is lost.**  Every section of an accepted text is processed, if
and only if its last line is no section header. -/
theorem everySectionProcessed_iff [Unicode] {s : Text} {T : TunnelConfiguration InterfaceConfiguration}
    (hT : amneziaWGKit.parse s = .ok T) : EverySectionProcessed s T ↔ lastHeader s = none := by
  obtain ⟨ls, hls, hcol⟩ := amneziaWGKit.parse_eq_ok.1 hT
  obtain ⟨es, hes, -⟩ := hcol.interface
  constructor
  · rintro ⟨hcount, -, hinterface, -⟩
    rw [countP_lineHeader hls] at hcount hinterface
    cases hlast : lastHeader s with
    | none => rfl
    | some h =>
      rw [lastHeader_of_reads hls] at hlast
      have hlength := hcol.peers.length_eq
      -- the header on the last line counts, but has no section
      rw [dropLastHeader_of_some hlast, sections_concat_header] at hcount hinterface
      rw [bodies_append, List.length_append] at hcount hinterface
      rw [hes] at hinterface
      cases h <;> simp [bodies] at hcount hinterface hlength
      omega
  · intro hlast
    have hend : ls.getLast?.bind Line.getHeader = none := by rw [← lastHeader_of_reads hls, hlast]
    rw [dropLastHeader_of_none hend] at hcol hes
    constructor
    · rw [countP_lineHeader hls]
      exact hcol.peers.length_eq.symm
    · rw [hls.filterMap_eq]
      exact hcol.peers
    · rw [countP_lineHeader hls, hes]
      rfl
    · intro c t hc ht
      rw [hT]
      exact parse_append_blank hT hlast hc ht

end Parse

/-! ### Extra lines, and a header that is lost -/

section Examples

open scoped FreeVPN.WgQuick.Dotted

/-- A line with a key. -/
def keyLine (key : String) : Text := (key ++ "=AAAAAAAAAAAAAAAAAAAAAAAAAAAAAAAAAAAAAAAAAAA=").toList

/-- An interface and a peer. -/
def plainLines : List Text :=
  ["[Interface]".toList, keyLine "PrivateKey", "[Peer]".toList, keyLine "PublicKey"]

/-- The same with keys that are unknown in their section. -/
def extendedLines : List Text :=
  ["[Interface]".toList, "Table = off # routes".toList, keyLine "PrivateKey", "Table = off".toList,
    "[Peer]".toList, keyLine "PublicKey", "DNS = 10.0.0.1".toList]

/-- The text of lines. -/
abbrev textOf (ls : List Text) : Text := joined ['\n'] ls

lemma insertedAfter_extendedLines :
    InsertedAfter lineHeader (UnknownEntry amneziaWGKit) none plainLines extendedLines := by
  have hinterface : lineHeader "[Interface]".toList = some .interface := by decide +kernel
  have hpeer : lineHeader "[Peer]".toList = some .peer := by decide +kernel
  have hprivate : lineHeader (keyLine "PrivateKey") = none := by decide +kernel
  have hpublic : lineHeader (keyLine "PublicKey") = none := by decide +kernel
  refine .keep _ ?_
  rw [hinterface]
  refine .insert ⟨"Table ".toList, " off ".toList, "# routes".toList, ?_⟩ (.keep _ ?_)
  · exact ⟨rfl, by decide, by decide, by decide, alone _ _, Or.inr ⟨_, rfl, alone _ _⟩, by decide +kernel⟩
  rw [hprivate]
  refine .insert ⟨"Table ".toList, " off".toList, [], ?_⟩ (.keep _ ?_)
  · exact ⟨rfl, by decide, by decide, by decide, alone _ _, Or.inl rfl, by decide +kernel⟩
  rw [hpeer]
  refine .keep _ ?_
  rw [hpublic]
  refine .insert ⟨"DNS ".toList, " 10.0.0.1".toList, [], ?_⟩ (.nil _)
  exact ⟨rfl, by decide, by decide, by decide, alone _ _, Or.inl rfl, by decide +kernel⟩

lemma isOk_plainLines : (amneziaWGKit.parse (textOf plainLines)).isOk = true := by
  decide +kernel

/-- The extra lines are ignored. -/
theorem parse_of_unknownEntries_extendedLines :
    ∃ T, amneziaWGKit.parse (textOf plainLines) = .ok T ∧ amneziaWGKit.parse (textOf extendedLines) = .ok T := by
  obtain ⟨T, hT⟩ := exists_of_isOk isOk_plainLines
  have hplain : lines (textOf plainLines) = plainLines := by decide +kernel
  have hextended : lines (textOf extendedLines) = extendedLines := by decide +kernel
  refine ⟨T, hT, parse_of_unknownEntries hT (by decide +kernel) ?_⟩
  rw [hplain, hextended]
  exact insertedAfter_extendedLines

theorem everySectionProcessed_plainLines :
    ∃ T, amneziaWGKit.parse (textOf plainLines) = .ok T ∧ EverySectionProcessed (textOf plainLines) T := by
  obtain ⟨T, hT⟩ := exists_of_isOk isOk_plainLines
  exact ⟨T, hT, (everySectionProcessed_iff hT).2 (by decide +kernel)⟩

/-- The text ends in a `[Peer]` header, and there is no peer. -/
theorem not_everySectionProcessed_lastPeer :
    ¬∀ (s : Text) (T : TunnelConfiguration InterfaceConfiguration), amneziaWGKit.parse s = .ok T →
      EverySectionProcessed s T := by
  intro h
  have hpeers : (amneziaWGKit.parse (textOf (plainLines.take 3))).toOption.map (fun T => T.peers.length) =
      some 0 := by decide +kernel
  have hheaders : ((lines (textOf (plainLines.take 3))).countP fun line => lineHeader line = some .peer) = 1 := by
    decide +kernel
  obtain ⟨T, hT, hlength⟩ := Option.map_eq_some_iff.1 hpeers
  have hcount := (h _ T (toOption_eq_some.1 hT)).count
  omega

end Examples

end FreeVPN.AmneziaWG
