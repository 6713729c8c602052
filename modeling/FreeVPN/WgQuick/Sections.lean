import FreeVPN.Lib.Except
import FreeVPN.WgQuick.Parser

/-!
# The sections of a wg-quick text

What the kits accept, said without their loop.  A line is blank, a section header or an entry
(`readLine`), and a text is accepted when its entries can be read section by section and there is
exactly one `[Interface]` section (`Kit.parse_eq_ok`).  A header on the last line opens no section:
the loop collates at the last line what came before it, and ends.

The entries of a section are read into attributes: `readEntries_eq_ok` says which lists of entries
are accepted and what attributes they make.
-/

namespace FreeVPN.WgQuick

open FreeVPN.Lib FreeVPN.Foundation

/-! ### Lines -/

/-- The two section headers. -/
inductive Header
  | interface
  | peer
  deriving DecidableEq

/-- The lowercase text of a header. -/
def Header.word : Header → Text
  | .interface => "[interface]".toList
  | .peer => "[peer]".toList

/-- The header that a trimmed line is. -/
def headerOf (line : Text) : Option Header :=
  if lowercased line = "[interface]".toList then some .interface
  else if lowercased line = "[peer]".toList then some .peer
  else none

/-- The state of the parser in the section of a header. -/
def Header.state : Header → ParserState
  | .interface => .inInterfaceSection
  | .peer => .inPeerSection

/-- The key, as it is written, and the value of an entry. -/
abbrev Entry := Text × Text

/-- What a line is to the kits, `none` when it is invalid. -/
def readLine (line : Text) : Option (Line Header Entry) :=
  let trimmedLine := trimWhitespacesAndNewlines (before '#' line)
  if trimmedLine = [] then some .blank
  else match cut '=' trimmedLine with
    | some (key, value) =>
      some (.entry (trimWhitespacesAndNewlines key, trimWhitespacesAndNewlines value))
    | none => (headerOf trimmedLine).map .header

/-- The values that the entries of a section give to a key. -/
def values (key : Text) (es : List Entry) : List Text :=
  (es.filter fun e => lowercased e.1 = key).map Prod.snd

/-- The bodies of the sections with the header `h`. -/
def bodies (h : Header) (cs : List (Header × List Entry)) : List (List Entry) :=
  (cs.filter fun c => c.1 = h).map Prod.snd

@[simp] lemma values_nil (key : Text) : values key [] = [] := rfl

lemma values_append (key : Text) (es fs : List Entry) :
    values key (es ++ fs) = values key es ++ values key fs := by
  simp [values]

lemma values_cons (key : Text) (e : Entry) (es : List Entry) :
    values key (e :: es) = if lowercased e.1 = key then e.2 :: values key es else values key es := by
  by_cases h : lowercased e.1 = key <;> simp [values, h]

lemma values_concat (key : Text) (es : List Entry) (e : Entry) :
    values key (es ++ [e]) = if lowercased e.1 = key then values key es ++ [e.2] else values key es := by
  rw [values_append, values_cons]
  split_ifs <;> simp

lemma bodies_cons (h : Header) (c : Header × List Entry) (cs : List (Header × List Entry)) :
    bodies h (c :: cs) = if c.1 = h then c.2 :: bodies h cs else bodies h cs := by
  by_cases hc : c.1 = h <;> simp [bodies, hc]

lemma bodies_append (h : Header) (cs ds : List (Header × List Entry)) :
    bodies h (cs ++ ds) = bodies h cs ++ bodies h ds := by
  rw [bodies, List.filter_append, List.map_append]
  rfl

/-- The sections of a kind are counted by their headers. -/
lemma length_bodies (h : Header) (ls : List (Line Header Entry)) :
    (bodies h (sections ls).2).length = ls.countP fun l => l.getHeader.any (· = h) := by
  rw [bodies, List.length_map]
  exact length_filter_sections (fun h' => decide (h' = h)) ls

lemma headerOf_eq_some {line : Text} {h : Header} :
    headerOf line = some h ↔ lowercased line = h.word := by
  have hne : Header.interface.word ≠ Header.peer.word := by decide
  change (if lowercased line = Header.interface.word then some Header.interface
    else if lowercased line = Header.peer.word then some Header.peer else none) = some h ↔ _
  cases h <;> split_ifs with hi hp <;> simp_all

/-- No header has an equals sign or a number sign. -/
lemma notMem_of_headerOf {line : Text} {h : Header} (hh : headerOf line = some h) {c : Char}
    (hc : lowercaseMapping c = [c]) (hw : ∀ h : Header, c ∉ h.word) : c ∉ line := fun hm =>
  hw h (headerOf_eq_some.1 hh ▸ mem_lowercased hc hm)

/-- A line with an equals sign is no header. -/
lemma headerOf_of_cut {line : Text} {r : Text × Text} (h : cut '=' line = some r) :
    headerOf line = none := by
  obtain ⟨rfl, -⟩ := cut_eq_some.1 (show cut '=' line = some (r.1, r.2) from h)
  cases hh : headerOf (r.1 ++ '=' :: r.2) with
  | none => rfl
  | some h =>
    have hw : ∀ h : Header, '=' ∉ h.word := fun h => by cases h <;> decide
    exact absurd (by simp) (notMem_of_headerOf hh (by decide) hw)

/-- The header that a line is. -/
lemma headerOf_of_readLine {line : Text} {x : Line Header Entry} (hx : readLine line = some x) :
    headerOf (trimWhitespacesAndNewlines (before '#' line)) = x.getHeader := by
  unfold readLine at hx
  generalize trimWhitespacesAndNewlines (before '#' line) = t at hx ⊢
  by_cases ht : t = []
  · obtain rfl : .blank = x := by simpa only [ht, if_true, Option.some.injEq] using hx
    rw [ht]
    rfl
  · simp only [ht, if_false] at hx
    cases hc : cut '=' t with
    | some r =>
      simp only [hc, Option.some.injEq] at hx
      rw [← hx]
      exact headerOf_of_cut hc
    | none =>
      simp only [hc, Option.map_eq_some_iff] at hx
      obtain ⟨h, hh, rfl⟩ := hx
      exact hh

/-! ### The attributes of a section -/

/-- The value of a key in the attributes, from the values of its entries. -/
def joinedValues (vs : List Text) : Option Text := if vs = [] then none else some (joined [','] vs)

lemma joinedValues_concat (vs : List Text) (v : Text) :
    joinedValues (vs ++ [v]) = some (match joinedValues vs with
      | some present => present ++ ',' :: v
      | none => v) := by
  unfold joinedValues joined
  induction vs with
  | nil => simp
  | cons w vs ih =>
    cases vs with
    | nil => simp
    | cons x vs => simpa using ih

/-- **The items of several values** are those of each of them. -/
lemma items_joinedValues (vs : List Text) : items (joinedValues vs) = vs.flatMap splitToArray := by
  unfold joinedValues
  split_ifs with hvs
  · simp [items, hvs]
  · rw [items, Option.elim_some]
    clear hvs
    induction vs with
    | nil => simp [joined, splitToArray]
    | cons v vs ih =>
      cases vs with
      | nil => simp [joined]
      | cons w vs =>
        rw [joined, List.intercalate_cons_cons, splitToArray, split, List.append_assoc,
          List.singleton_append, pieces_append_cons, List.map_append, List.flatMap_cons, ← ih]
        rfl

section Entries

variable {I : Type} (kit : Kit I)

/-- The entries of a section, read one by one. -/
def Kit.readEntries (state : ParserState) (es : List Entry) (attributes : Attributes) :
    Except ParseError Attributes :=
  es.foldlM (fun a e => kit.readAttribute state a e.1 e.2) attributes

/-- The keys that the section of a header recognises. -/
def Kit.sectionKeys : Header → List Text
  | .interface => kit.interfaceSectionKeys
  | .peer => peerSectionKeys

/-- An entry of a section: a recognised key is added to the attributes, any other is an error for
the strict kit and leaves no attribute for the lenient one. -/
lemma Kit.readAttribute_eq_ok {h : Header} {b a : Attributes} {key v : Text} :
    kit.readAttribute h.state b key v = .ok a ↔
      (b (lowercased key) = none ∨ lowercased key ∈ keysWithMultipleEntriesAllowed) ∧
      (lowercased key ∉ kit.sectionKeys h → kit.strict = false) ∧
      Function.update b (lowercased key) (if lowercased key ∈ kit.sectionKeys h then
        some (match b (lowercased key) with
          | some present => present ++ ',' :: v
          | none => v) else none) = a := by
  cases h <;>
    by_cases hm : lowercased key ∈ keysWithMultipleEntriesAllowed <;>
    cases hb : b (lowercased key) <;>
    cases hs : kit.strict <;>
    simp only [Kit.readAttribute, Kit.sectionKeys, Header.state, hb, hm, hs] <;>
    split_ifs with hk <;>
    simp_all [unrecognized, bind, Except.bind]

/-- The attributes that the entries of a section become. -/
def Kit.attributesOf (h : Header) (es : List Entry) : Attributes := fun k =>
  if k ∈ kit.sectionKeys h then joinedValues (values k es) else none

lemma Kit.attributesOf_of_mem {h : Header} {k : Text} (hk : k ∈ kit.sectionKeys h) (es : List Entry) :
    kit.attributesOf h es k = joinedValues (values k es) := if_pos hk

lemma Kit.update_attributesOf (h : Header) (es : List Entry) (e : Entry) :
    Function.update (kit.attributesOf h es) (lowercased e.1) (if lowercased e.1 ∈ kit.sectionKeys h then
        some (match kit.attributesOf h es (lowercased e.1) with
          | some present => present ++ ',' :: e.2
          | none => e.2) else none) = kit.attributesOf h (es ++ [e]) := by
  funext k
  by_cases hk : k = lowercased e.1
  · subst hk
    rw [Function.update_self]
    by_cases hkeys : lowercased e.1 ∈ kit.sectionKeys h
    · simp [Kit.attributesOf, hkeys, values_concat, joinedValues_concat]
    · simp [Kit.attributesOf, hkeys]
  · rw [Function.update_of_ne hk]
    simp [Kit.attributesOf, values_concat, Ne.symm hk]

/-- **What the entries of a section become.**  They are read when all keys are recognised (by the
strict kit) and no key has two entries unless it may have; a recognised key gets its values, joined
by commas. -/
theorem Kit.readEntries_eq_ok {h : Header} {es : List Entry} {a : Attributes} :
    kit.readEntries h.state es noAttributes = .ok a ↔
      (kit.strict → ∀ e ∈ es, lowercased e.1 ∈ kit.sectionKeys h) ∧
      (∀ k ∈ kit.sectionKeys h, k ∉ keysWithMultipleEntriesAllowed → (values k es).length ≤ 1) ∧
      kit.attributesOf h es = a := by
  induction es using List.reverseRecOn generalizing a with
  | nil =>
    have hnone : kit.attributesOf h [] = noAttributes := by
      funext k
      simp [Kit.attributesOf, joinedValues, noAttributes]
    simp [Kit.readEntries, pure, Except.pure, hnone]
  | append_singleton es e ih =>
    have hsplit : kit.readEntries h.state (es ++ [e]) noAttributes = .ok a ↔
        ∃ b, kit.readEntries h.state es noAttributes = .ok b ∧
          kit.readAttribute h.state b e.1 e.2 = .ok a := by
      simp [Kit.readEntries, List.foldlM_append, bind_eq_ok]
    rw [hsplit]
    simp only [ih, and_assoc, exists_and_left, exists_eq_left', kit.readAttribute_eq_ok,
      kit.update_attributesOf]
    -- the new entry is the first of its key, or one of several that are allowed
    have hfresh : kit.attributesOf h es (lowercased e.1) = none ↔
        (lowercased e.1 ∈ kit.sectionKeys h → values (lowercased e.1) es = []) := by
      by_cases hk : lowercased e.1 ∈ kit.sectionKeys h <;> simp [Kit.attributesOf, joinedValues, hk]
    have hlast : (∀ k ∈ kit.sectionKeys h, k ∉ keysWithMultipleEntriesAllowed →
          (values k (es ++ [e])).length ≤ 1) ↔
        (∀ k ∈ kit.sectionKeys h, k ∉ keysWithMultipleEntriesAllowed → (values k es).length ≤ 1) ∧
        (kit.attributesOf h es (lowercased e.1) = none ∨
          lowercased e.1 ∈ keysWithMultipleEntriesAllowed) := by
      rw [hfresh]
      constructor
      · intro hall
        refine ⟨fun k hk hm => le_trans ?_ (hall k hk hm), ?_⟩
        · rw [values_append, List.length_append]
          omega
        · by_cases hm : lowercased e.1 ∈ keysWithMultipleEntriesAllowed
          · exact Or.inr hm
          · refine Or.inl fun hk => ?_
            have := hall _ hk hm
            simpa [values_concat] using this
      · rintro ⟨hall, hnew⟩ k hk hm
        rw [values_concat]
        split_ifs with he
        · subst he
          simp [hnew.resolve_right hm hk]
        · exact hall k hk hm
    have hstrict : (kit.strict → ∀ e' ∈ es ++ [e], lowercased e'.1 ∈ kit.sectionKeys h) ↔
        (kit.strict → ∀ e' ∈ es, lowercased e'.1 ∈ kit.sectionKeys h) ∧
        (lowercased e.1 ∉ kit.sectionKeys h → kit.strict = false) := by
      cases kit.strict
      · simp
      · simp [or_imp, forall_and]
    rw [hlast, hstrict]
    constructor
    · rintro ⟨h₁, h₂, h₃, h₄, h₅⟩
      exact ⟨⟨h₁, h₄⟩, ⟨h₂, h₃⟩, h₅⟩
    · rintro ⟨⟨h₁, h₄⟩, ⟨h₂, h₃⟩, h₅⟩
      exact ⟨h₁, h₂, h₃, h₄, h₅⟩

end Entries

/-! ### What the attributes become -/

section Collate

variable {α : Type} {read : Text → Option α} {error : Text → ParseError}

lemma reading_eq_ok {s : Text} {v : α} : reading read error s = .ok v ↔ read s = some v := by
  unfold reading
  cases read s <;> simp

lemma optionally_eq_ok {s : Option Text} {v : Option α} :
    optionally read error s = .ok v ↔ s.map read = v.map some := by
  cases s with
  | none => cases v <;> simp [optionally]
  | some s =>
    simp only [optionally, map_eq_ok, reading_eq_ok]
    cases v <;> simp

variable [Network]

/-- What an `[Interface]` section becomes. -/
theorem collateInterface_eq_ok {a : Attributes} {c : InterfaceConfiguration} :
    collateInterface a = .ok c ↔
      (a "privatekey".toList).bind BaseKey.ofBase64 = some c.privateKey ∧
      (a "listenport".toList).map parseUInt16 = c.listenPort.map some ∧
      Reads IPAddressRange.ofText (items (a "address".toList)) c.addresses ∧
      (a "mtu".toList).map parseUInt16 = c.mtu.map some ∧
      (items (a "dns".toList)).filterMap DNSServer.ofText = c.dns ∧
      ((items (a "dns".toList)).filter fun s => (DNSServer.ofText s).isNone) = c.dnsSearch := by
  unfold collateInterface
  cases a "privatekey".toList with
  | none => simp [bind, Except.bind]
  | some s =>
    simp only [bind_eq_ok, Except.ok.injEq, exists_eq_left', reading_eq_ok, optionally_eq_ok,
      mapM_eq_ok, pure_eq_ok, Option.bind_some]
    constructor
    · rintro ⟨k, hk, l, hl, r, hr, m, hm, rfl⟩
      exact ⟨hk, hl, hr, hm, rfl, rfl⟩
    · rintro ⟨hk, hl, hr, hm, hd, hs⟩
      refine ⟨_, hk, _, hl, _, hr, _, hm, ?_⟩
      rw [hd, hs]

/-- What a `[Peer]` section becomes. -/
theorem collatePeer_eq_ok {a : Attributes} {c : PeerConfiguration} :
    collatePeer a = .ok c ↔
      (a "publickey".toList).bind BaseKey.ofBase64 = some c.publicKey ∧
      (a "presharedkey".toList).map BaseKey.ofBase64 = c.preSharedKey.map some ∧
      Reads IPAddressRange.ofText (items (a "allowedips".toList)) c.allowedIPs ∧
      (a "endpoint".toList).map Endpoint.ofText = c.endpoint.map some ∧
      (a "persistentkeepalive".toList).map parseUInt16 = c.persistentKeepAlive.map some := by
  unfold collatePeer
  cases a "publickey".toList with
  | none => simp [bind, Except.bind]
  | some s =>
    simp only [bind_eq_ok, Except.ok.injEq, exists_eq_left', reading_eq_ok, optionally_eq_ok,
      mapM_eq_ok, pure_eq_ok, Option.bind_some]
    constructor
    · rintro ⟨k, hk, p, hp, r, hr, e, he, l, hl, rfl⟩
      exact ⟨hk, hp, hr, he, hl⟩
    · rintro ⟨hk, hp, hr, he, hl⟩
      exact ⟨_, hk, _, hp, _, hr, _, he, _, hl, rfl⟩

/-- The fields that the entries of an `[Interface]` section give. -/
structure InterfaceFields (es : List Entry) (c : InterfaceConfiguration) : Prop where
  privateKey : (joinedValues (values "privatekey".toList es)).bind BaseKey.ofBase64 = some c.privateKey
  listenPort : (joinedValues (values "listenport".toList es)).map parseUInt16 = c.listenPort.map some
  addresses : Reads IPAddressRange.ofText (items (joinedValues (values "address".toList es))) c.addresses
  mtu : (joinedValues (values "mtu".toList es)).map parseUInt16 = c.mtu.map some
  dns : (items (joinedValues (values "dns".toList es))).filterMap DNSServer.ofText = c.dns
  dnsSearch : ((items (joinedValues (values "dns".toList es))).filter fun s =>
    (DNSServer.ofText s).isNone) = c.dnsSearch

/-- The fields that the entries of a `[Peer]` section give. -/
structure PeerFields (es : List Entry) (c : PeerConfiguration) : Prop where
  publicKey : (joinedValues (values "publickey".toList es)).bind BaseKey.ofBase64 = some c.publicKey
  preSharedKey :
    (joinedValues (values "presharedkey".toList es)).map BaseKey.ofBase64 = c.preSharedKey.map some
  allowedIPs :
    Reads IPAddressRange.ofText (items (joinedValues (values "allowedips".toList es))) c.allowedIPs
  endpoint : (joinedValues (values "endpoint".toList es)).map Endpoint.ofText = c.endpoint.map some
  persistentKeepAlive : (joinedValues (values "persistentkeepalive".toList es)).map parseUInt16 =
    c.persistentKeepAlive.map some

variable {I : Type} (kit : Kit I)

lemma collateInterface_attributesOf (hkeys : standardInterfaceKeys ⊆ kit.interfaceSectionKeys)
    {es : List Entry} {c : InterfaceConfiguration} :
    collateInterface (kit.attributesOf .interface es) = .ok c ↔ InterfaceFields es c := by
  have hattr : ∀ k ∈ standardInterfaceKeys, kit.attributesOf .interface es k = joinedValues (values k es) :=
    fun k hk => kit.attributesOf_of_mem (hkeys hk) es
  rw [collateInterface_eq_ok, hattr "privatekey".toList (by decide), hattr "listenport".toList (by decide),
    hattr "address".toList (by decide), hattr "mtu".toList (by decide), hattr "dns".toList (by decide)]
  constructor
  · rintro ⟨h₁, h₂, h₃, h₄, h₅, h₆⟩
    exact ⟨h₁, h₂, h₃, h₄, h₅, h₆⟩
  · rintro ⟨h₁, h₂, h₃, h₄, h₅, h₆⟩
    exact ⟨h₁, h₂, h₃, h₄, h₅, h₆⟩

lemma collatePeer_attributesOf {es : List Entry} {c : PeerConfiguration} :
    collatePeer (kit.attributesOf .peer es) = .ok c ↔ PeerFields es c := by
  have hattr : ∀ k ∈ peerSectionKeys, kit.attributesOf .peer es k = joinedValues (values k es) :=
    fun k hk => kit.attributesOf_of_mem hk es
  rw [collatePeer_eq_ok, hattr "publickey".toList (by decide), hattr "presharedkey".toList (by decide),
    hattr "allowedips".toList (by decide), hattr "endpoint".toList (by decide),
    hattr "persistentkeepalive".toList (by decide)]
  constructor
  · rintro ⟨h₁, h₂, h₃, h₄, h₅⟩
    exact ⟨h₁, h₂, h₃, h₄, h₅⟩
  · rintro ⟨h₁, h₂, h₃, h₄, h₅⟩
    exact ⟨h₁, h₂, h₃, h₄, h₅⟩

end Collate

/-! ### From the loop to the sections -/

section Loop

variable [Network] {I : Type} (kit : Kit I)

/-- What the loop keeps of an `[Interface]` section. -/
def Kit.readInterface (es : List Entry) : Except ParseError I :=
  kit.readEntries .inInterfaceSection es noAttributes >>= kit.collate

/-- What the loop keeps of a `[Peer]` section. -/
def Kit.readPeer (es : List Entry) : Except ParseError PeerConfiguration :=
  kit.readEntries .inPeerSection es noAttributes >>= collatePeer

omit [Network] in
lemma Kit.readInterface_eq_ok {es : List Entry} {i : I} :
    kit.readInterface es = .ok i ↔
      (kit.strict → ∀ e ∈ es, lowercased e.1 ∈ kit.interfaceSectionKeys) ∧
      (∀ k ∈ kit.interfaceSectionKeys, k ∉ keysWithMultipleEntriesAllowed → (values k es).length ≤ 1) ∧
      kit.collate (kit.attributesOf .interface es) = .ok i := by
  rw [Kit.readInterface, bind_eq_ok]
  change (∃ a, kit.readEntries Header.interface.state es noAttributes = .ok a ∧ _) ↔ _
  simp only [kit.readEntries_eq_ok, and_assoc, exists_and_left, exists_eq_left']
  rfl

lemma Kit.readPeer_eq_ok {es : List Entry} {p : PeerConfiguration} :
    kit.readPeer es = .ok p ↔
      (kit.strict → ∀ e ∈ es, lowercased e.1 ∈ peerSectionKeys) ∧
      (∀ k ∈ peerSectionKeys, k ∉ keysWithMultipleEntriesAllowed → (values k es).length ≤ 1) ∧
      collatePeer (kit.attributesOf .peer es) = .ok p := by
  rw [Kit.readPeer, bind_eq_ok]
  change (∃ a, kit.readEntries Header.peer.state es noAttributes = .ok a ∧ _) ↔ _
  simp only [kit.readEntries_eq_ok, and_assoc, exists_and_left, exists_eq_left']
  rfl

/-- The loop at the start of a section. -/
def Loop.start (l : Loop I) (h : Header) : Loop I :=
  { l with parserState := h.state, attributes := noAttributes }

/-- The loop in a section, at an entry. -/
def Kit.entry (l : Loop I) (e : Entry) : Except ParseError (Loop I) :=
  (kit.readAttribute l.parserState l.attributes e.1 e.2).map fun attributes => { l with attributes }

/-- The loop after what a line says, before it ends a section. -/
def Kit.content (l : Loop I) : Line Header Entry → Except ParseError (Loop I)
  | .entry e => kit.entry l e
  | _ => .ok l

/-- The body of the loop, on a line that has been read. -/
def Kit.step (l : Loop I) : Line Header Entry → Except ParseError (Loop I)
  | .blank => .ok l
  | .header h => (kit.endSection l).map fun l => l.start h
  | .entry e => kit.entry l e

lemma Kit.readContent_of_some {l : Loop I} {line : Text} {x : Line Header Entry}
    (hx : readLine line = some x) :
    kit.readContent l line (trimWhitespacesAndNewlines (before '#' line)) = kit.content l x := by
  unfold readLine at hx
  unfold Kit.readContent
  generalize trimWhitespacesAndNewlines (before '#' line) = t at hx ⊢
  by_cases ht : t = []
  · obtain rfl : .blank = x := by simpa only [ht, if_true, Option.some.injEq] using hx
    simp only [ht, if_true]
    rfl
  · simp only [ht, if_false] at hx ⊢
    cases hc : cut '=' t with
    | some r =>
      simp only [hc, Option.some.injEq] at hx
      rw [← hx]
      rfl
    | none =>
      simp only [hc, Option.map_eq_some_iff] at hx
      obtain ⟨h, hh, rfl⟩ := hx
      refine if_neg fun hn => ?_
      cases h
      · exact hn.1 (headerOf_eq_some.1 hh)
      · exact hn.2 (headerOf_eq_some.1 hh)

lemma Loop.startSection_eq (l : Loop I) (line : Text) :
    l.startSection (lowercased line) = (headerOf line).elim l l.start := by
  unfold Loop.startSection headerOf
  split_ifs <;> rfl

/-- The body of the loop reads a line and, at the last line, ends the section. -/
theorem Kit.parseLine_of_some {isLastLine : Bool} {l : Loop I} {line : Text} {x : Line Header Entry}
    (hx : readLine line = some x) :
    kit.parseLine isLastLine l line = kit.step l x >>= fun l =>
      if isLastLine ∧ x.getHeader = none then kit.endSection l else .ok l := by
  have hh := headerOf_of_readLine hx
  unfold Kit.parseLine
  simp only [kit.readContent_of_some hx, Loop.startSection_eq, hh]
  have hheader : (lowercased (trimWhitespacesAndNewlines (before '#' line)) = "[interface]".toList ∨
      lowercased (trimWhitespacesAndNewlines (before '#' line)) = "[peer]".toList) ↔
      x.getHeader ≠ none := by
    rw [← hh, Option.ne_none_iff_exists']
    constructor
    · rintro (h | h)
      · exact ⟨.interface, headerOf_eq_some.2 h⟩
      · exact ⟨.peer, headerOf_eq_some.2 h⟩
    · rintro ⟨h, h'⟩
      cases h
      · exact Or.inl (headerOf_eq_some.1 h')
      · exact Or.inr (headerOf_eq_some.1 h')
  simp only [hheader]
  have hmap : ∀ y : Except ParseError (Loop I), y.map (fun l => l) = y := fun y => by cases y <;> rfl
  cases x with
  | blank => simp [Kit.content, Kit.step, Line.getHeader, hmap]
  | header h =>
    cases hend : kit.endSection l <;>
      simp [Kit.content, Kit.step, Line.getHeader, bind, Except.bind, Except.map, hend]
  | entry e => simp [Kit.content, Kit.step, Line.getHeader, hmap]

lemma Kit.parseLine_of_none {isLastLine : Bool} {l : Loop I} {line : Text}
    (h : readLine line = none) : kit.parseLine isLastLine l line = .error (.invalidLine line) := by
  unfold readLine at h
  unfold Kit.parseLine Kit.readContent
  generalize trimWhitespacesAndNewlines (before '#' line) = t at h ⊢
  by_cases ht : t = []
  · simp [ht] at h
  · simp only [ht, if_false] at h ⊢
    cases hc : cut '=' t with
    | some r => simp [hc] at h
    | none =>
      simp only [hc, Option.map_eq_none_iff] at h
      have hne : ∀ h' : Header, lowercased t ≠ h'.word := fun h' hw => by
        rw [headerOf_eq_some.2 hw] at h
        cases h
      rw [if_pos ⟨hne .interface, hne .peer⟩]
      rfl

/-- The loop ends with an error at an invalid line. -/
lemma Kit.reads_of_parseLines {lines : List Text} {l r : Loop I} (h : kit.parseLines l lines = .ok r) :
    ∃ ls, Reads readLine lines ls := by
  induction lines generalizing l with
  | nil => exact ⟨[], .nil⟩
  | cons line lines ih =>
    obtain ⟨l', hl', h'⟩ := bind_eq_ok.1 h
    obtain ⟨ls, hls⟩ := ih h'
    cases hx : readLine line with
    | none => simp [kit.parseLine_of_none hx] at hl'
    | some x => exact ⟨x :: ls, .cons hx hls⟩

/-- **The loop, line by line.**  The last section is ended at the last line; a header there does not
count. -/
theorem Kit.parseLines_eq {T : Type} {finish : Loop I → Except ParseError T}
    (hfinish : ∀ l h, finish (l.start h) = finish l) {lines : List Text} {ls : List (Line Header Entry)}
    (hls : Reads readLine lines ls) (hne : lines ≠ []) (l : Loop I) :
    kit.parseLines l lines >>= finish =
      (dropLastHeader ls).foldlM kit.step l >>= fun l => kit.endSection l >>= finish := by
  induction hls generalizing l with
  | nil => exact absurd rfl hne
  | @cons line x lines ls hx hls ih =>
    cases hls with
    | nil =>
      rw [Kit.parseLines, List.isEmpty_nil, kit.parseLine_of_some hx]
      cases x with
      | blank =>
        cases hend : kit.endSection l <;>
          simp [Kit.parseLines, Kit.step, Line.getHeader, dropLastHeader, dropLastIf, bind, Except.bind, hend,
            pure, Except.pure]
      | header h =>
        cases hend : kit.endSection l <;>
          simp [Kit.parseLines, Kit.step, Line.getHeader, dropLastHeader, dropLastIf, bind, Except.bind, Except.map,
            hend, hfinish, pure, Except.pure]
      | entry e =>
        cases he : kit.entry l e with
        | error e => simp [Kit.step, Line.getHeader, dropLastHeader, dropLastIf, bind, Except.bind, he]
        | ok l' =>
          cases hend : kit.endSection l' <;>
            simp [Kit.parseLines, Kit.step, Line.getHeader, dropLastHeader, dropLastIf, bind, Except.bind, he, hend,
              pure, Except.pure]
    | @cons line' y lines ls hy hls' =>
      have hdrop : dropLastHeader (x :: y :: ls) = x :: dropLastHeader (y :: ls) := by
        rfl
      rw [Kit.parseLines, List.isEmpty_cons, kit.parseLine_of_some hx, hdrop, List.foldlM_cons]
      cases hstep : kit.step l x with
      | error e => rfl
      | ok l' => simpa [bind, Except.bind] using ih (by simp) l'

/-- The entries of a section change the attributes only. -/
lemma Kit.foldlM_entry (es : List Entry) (l : Loop I) :
    es.foldlM kit.entry l =
      (kit.readEntries l.parserState es l.attributes).map fun attributes => { l with attributes } := by
  induction es generalizing l with
  | nil => rfl
  | cons e es ih =>
    unfold Kit.readEntries at ih ⊢
    rw [List.foldlM_cons, List.foldlM_cons, Kit.entry]
    cases kit.readAttribute l.parserState l.attributes e.1 e.2 with
    | error e => rfl
    | ok a => exact ih { l with attributes := a }

/-- What the loop has collated. -/
def Loop.results (l : Loop I) : Option I × List PeerConfiguration :=
  (l.interfaceConfiguration, l.peerConfigurations)

/-- A section is collated. -/
def Kit.collateSection (r : Option I × List PeerConfiguration) (c : Header × List Entry) :
    Except ParseError (Option I × List PeerConfiguration) :=
  match c with
  | (.interface, es) => kit.readInterface es >>= fun interface =>
    if r.1.isSome then .error .multipleInterfaces else .ok (some interface, r.2)
  | (.peer, es) => (kit.readPeer es).map fun peer => (r.1, r.2 ++ [peer])

/-- The loop over a section, from its header to its end. -/
lemma Kit.foldlM_section (l : Loop I) (c : Header × List Entry) :
    ((c.2.foldlM kit.entry (l.start c.1) >>= kit.endSection).map Loop.results) =
      kit.collateSection l.results c := by
  obtain ⟨h, es⟩ := c
  rw [Kit.foldlM_entry]
  cases h with
  | interface =>
    simp only [Kit.collateSection, Kit.readInterface, Loop.start, Header.state]
    cases kit.readEntries .inInterfaceSection es noAttributes with
    | error e => rfl
    | ok a =>
      simp only [Except.map, bind, Except.bind, Kit.endSection, Loop.results]
      cases kit.collate a with
      | error e => rfl
      | ok i => by_cases hi : l.interfaceConfiguration.isSome <;> simp [hi]
  | peer =>
    simp only [Kit.collateSection, Kit.readPeer, Loop.start, Header.state]
    cases kit.readEntries .inPeerSection es noAttributes with
    | error e => rfl
    | ok a =>
      simp only [Except.map, bind, Except.bind, Kit.endSection, Loop.results]
      cases collatePeer a <;> rfl

/-- **The loop, section by section**, from outside any section. -/
theorem Kit.foldlM_step (ls : List (Line Header Entry)) {l : Loop I}
    (hl : l.parserState = .notInASection) :
    ((ls.foldlM kit.step l >>= kit.endSection).map Loop.results) =
      kit.readEntries .notInASection (sections ls).1 l.attributes >>= fun _ =>
        (sections ls).2.foldlM kit.collateSection l.results := by
  obtain ⟨i, ps, _, a₀⟩ := l
  subst hl
  have hheader : ∀ l h, kit.step l (.header h) = (kit.endSection l).map fun l => l.start h := fun _ _ => rfl
  have hentry : ∀ l e, kit.step l (.entry e) = kit.entry l e := fun _ _ => rfl
  rw [foldlM_sections (fun _ => rfl) hheader hentry, kit.foldlM_entry]
  dsimp only
  cases kit.readEntries .notInASection (sections ls).1 a₀ with
  | error e => rfl
  | ok a =>
    have hstart : ∀ (l : Loop I) (c : Header × List Entry),
        ((kit.endSection l).map (fun l => l.start c.1) >>= fun l => c.2.foldlM kit.entry l) =
          kit.endSection l >>= fun l => c.2.foldlM kit.entry (l.start c.1) := fun l c => by
      cases kit.endSection l <;> rfl
    simp only [hstart]
    change Except.map Loop.results
      ((sections ls).2.foldlM _ (Loop.mk i ps .notInASection a) >>= kit.endSection) = _
    rw [foldlM_close]
    exact map_foldlM kit.foldlM_section (sections ls).2 (Loop.mk i ps .notInASection a)

/-- The sections, collated one after the other. -/
lemma Kit.foldlM_collateSection_eq_ok {cs : List (Header × List Entry)}
    {r r' : Option I × List PeerConfiguration} :
    cs.foldlM kit.collateSection r = .ok r' ↔
      (∃ is, List.Forall₂ (fun es i => kit.readInterface es = .ok i) (bodies .interface cs) is ∧
        r.1.toList ++ is = r'.1.toList) ∧
      (∃ ps, List.Forall₂ (fun es p => kit.readPeer es = .ok p) (bodies .peer cs) ps ∧
        r.2 ++ ps = r'.2) := by
  induction cs generalizing r with
  | nil =>
    obtain ⟨i, ps⟩ := r
    obtain ⟨i', ps'⟩ := r'
    cases i <;> cases i' <;> simp [bodies]
  | cons c cs ih =>
    obtain ⟨h, es⟩ := c
    obtain ⟨i₀, ps₀⟩ := r
    rw [List.foldlM_cons, bind_eq_ok]
    simp only [ih, bodies_cons]
    cases h with
    | interface =>
      simp only [Kit.collateSection, bind_eq_ok, if_true, reduceCtorEq, if_false,
        List.forall₂_cons_left_iff]
      constructor
      · rintro ⟨s, ⟨i, hi, hs⟩, ⟨is, his, heq⟩, hps⟩
        split_ifs at hs with hsome
        obtain rfl := Except.ok.inj hs
        obtain rfl : i₀ = none := by simpa using hsome
        exact ⟨⟨i :: is, ⟨i, is, hi, his, rfl⟩, heq⟩, hps⟩
      · rintro ⟨⟨_, ⟨i, is, hi, his, rfl⟩, heq⟩, hps⟩
        have hnone : i₀ = none := by
          have hlen := congrArg List.length heq
          cases i₀ <;> cases h' : r'.1 <;> simp [h'] at hlen ⊢
        subst hnone
        exact ⟨(some i, ps₀), ⟨i, hi, rfl⟩, ⟨is, his, heq⟩, hps⟩
    | peer =>
      simp only [Kit.collateSection, map_eq_ok, if_true, reduceCtorEq, if_false,
        List.forall₂_cons_left_iff]
      constructor
      · rintro ⟨_, ⟨p, hp, rfl⟩, his, ps, hps, heq⟩
        exact ⟨his, p :: ps, ⟨p, ps, hp, hps, rfl⟩, by simpa using heq⟩
      · rintro ⟨his, _, ⟨p, ps, hp, hps, rfl⟩, heq⟩
        exact ⟨_, ⟨p, hp, rfl⟩, his, ps, hps, by simpa using heq⟩

/-- What it takes for the sections of a text to make a tunnel configuration. -/
structure Kit.Collates (c : List Entry × List (Header × List Entry)) (T : TunnelConfiguration I) :
    Prop where
  /-- The entries before the first header are not used, but a repeated key is an error there too. -/
  preamble : ∃ a, kit.readEntries .notInASection c.1 noAttributes = .ok a
  interface : ∃ es, bodies .interface c.2 = [es] ∧ kit.readInterface es = .ok T.interface
  peers : List.Forall₂ (fun es p => kit.readPeer es = .ok p) (bodies .peer c.2) T.peers

lemma TunnelConfiguration.ofLoop_eq_ok {l : Loop I} {T : TunnelConfiguration I} :
    TunnelConfiguration.ofLoop l = .ok T ↔ l.results = (some T.interface, T.peers) := by
  obtain ⟨i, ps, hd⟩ := T
  unfold TunnelConfiguration.ofLoop Loop.results
  split_ifs with hdistinct
  · cases l.interfaceConfiguration <;> simp
  · simp only [false_iff, Prod.mk.injEq, not_and]
    rintro - rfl
    exact hdistinct hd

/-- **What the kits accept.**  Every line can be read, and the sections make a configuration. -/
theorem Kit.parse_eq_ok {s : Text} {T : TunnelConfiguration I} :
    kit.parse s = .ok T ↔
      ∃ ls, Reads readLine (lines s) ls ∧ kit.Collates (sections (dropLastHeader ls)) T := by
  have hread : ∀ ls, Reads readLine (lines s) ls →
      (kit.parse s = .ok T ↔ kit.Collates (sections (dropLastHeader ls)) T) := by
    intro ls hls
    by_cases hne : lines s = []
    · rw [hne] at hls
      obtain rfl := List.forall₂_nil_left_iff.1 hls
      simp only [Kit.parse, hne, Kit.parseLines]
      constructor
      · intro h
        cases h
      · rintro ⟨-, ⟨es, hes, -⟩, -⟩
        simp [dropLastHeader, dropLastIf, sections, bodies] at hes
    · have hfold := kit.foldlM_step (dropLastHeader ls) (l := {}) rfl
      have hres : kit.parse s = .ok T ↔ ((dropLastHeader ls).foldlM kit.step {} >>= kit.endSection).map
          Loop.results = .ok (some T.interface, T.peers) := by
        rw [Kit.parse, kit.parseLines_eq (fun _ _ => rfl) hls hne, ← bind_assoc, bind_eq_ok, map_eq_ok]
        simp only [TunnelConfiguration.ofLoop_eq_ok]
      rw [hres, hfold, bind_eq_ok]
      simp only [kit.foldlM_collateSection_eq_ok, Loop.results, Option.toList_none, Option.toList_some,
        List.nil_append, exists_eq_right, List.forall₂_cons_right_iff, List.forall₂_nil_right_iff]
      constructor
      · rintro ⟨a, ha, ⟨es, _, hi, rfl, hes⟩, hp⟩
        exact ⟨⟨a, ha⟩, ⟨es, hes, hi⟩, hp⟩
      · rintro ⟨⟨a, ha⟩, ⟨es, hes, hi⟩, hp⟩
        exact ⟨a, ha, ⟨es, [], hi, rfl, hes⟩, hp⟩
  constructor
  · intro h
    obtain ⟨l, hl, -⟩ := bind_eq_ok.1 h
    obtain ⟨ls, hls⟩ := kit.reads_of_parseLines hl
    exact ⟨ls, hls, (hread ls hls).1 h⟩
  · rintro ⟨ls, hls, h⟩
    exact (hread ls hls).2 h

end Loop

end FreeVPN.WgQuick
