import FreeVPN.Lib.TwoRuns
import FreeVPN.AmneziaWG.Configuration

/-!
# Two texts that differ in their keys

Texts that are the same but for the values of `PrivateKey`, `PresharedKey` and `HeaderProtectionKey`
(`SameButSecrets`), and what AmneziaWGKit makes of them: configurations that are the same but for
their keys, or the same error, unless one of the texts has a key that cannot be read
(`agree_parse`).
-/

namespace FreeVPN.AmneziaWG

open FreeVPN.Lib FreeVPN.Foundation FreeVPN.WgQuick

/-! ### The texts -/

/-- The keys whose values are secret. -/
def secretKeys : List Text := ["privatekey".toList, "presharedkey".toList, "headerprotectionkey".toList]

/-- A value of an assignment: it is trimmed, and has no comment and no line break. -/
structure IsValue (value : Text) : Prop where
  trimmed : trimWhitespaces value = value
  plain : '#' ∉ value
  line : ∀ c ∈ value, isNewline c = false

/-- A secret key, and what stands around its value. -/
structure IsFrame (name gap rest : Text) : Prop where
  key : lowercased (trimWhitespaces name) ∈ secretKeys
  name : ∀ c ∈ name, isNewline c = false
  gap : ∀ c ∈ gap, isWhitespace c
  /-- White space, and perhaps a comment. -/
  comment : trimWhitespaces (before '#' rest) = []
  rest : ∀ c ∈ rest, isNewline c = false

/-- Two lines that are the same, or assign values of one length to a secret key. -/
inductive SameButSecret : Text → Text → Prop
  | same {line : Text} (h : ∀ c ∈ line, isNewline c = false) : SameButSecret line line
  | secret {name gap rest value value' : Text} (hframe : IsFrame name gap rest) (hvalue : IsValue value)
      (hvalue' : IsValue value') (hlength : value.length = value'.length) :
      SameButSecret (name ++ '=' :: (gap ++ value ++ rest)) (name ++ '=' :: (gap ++ value' ++ rest))

/-- Two texts that are the same line by line, with the same line breaks, but for the values of secret
keys. -/
inductive SameButSecrets : Text → Text → Prop
  | last {line line' : Text} (h : SameButSecret line line') : SameButSecrets line line'
  | line {line line' s t : Text} {c : Char} (h : SameButSecret line line') (hc : isNewline c)
      (hst : SameButSecrets s t) : SameButSecrets (line ++ c :: s) (line' ++ c :: t)

lemma SameButSecret.oneLine {line line' : Text} (h : SameButSecret line line') :
    (∀ c ∈ line, isNewline c = false) ∧ ∀ c ∈ line', isNewline c = false := by
  cases h with
  | same h => exact ⟨h, h⟩
  | @secret name gap rest value value' hframe hvalue hvalue' =>
    have hgap : ∀ c ∈ gap, isNewline c = false := by
      intro c hc
      rw [Bool.eq_false_iff]
      intro hnewline
      exact absurd (hframe.gap c hc) (by simp [isWhitespace_of_isNewline hnewline])
    have hall : ∀ v : Text, IsValue v → ∀ c ∈ name ++ '=' :: (gap ++ v ++ rest), isNewline c = false := by
      intro v hv c hc
      simp only [List.mem_append, List.mem_cons] at hc
      rcases hc with hc | rfl | (hc | hc) | hc
      · exact hframe.name c hc
      · decide
      · exact hgap c hc
      · exact hv.line c hc
      · exact hframe.rest c hc
    exact ⟨hall value hvalue, hall value' hvalue'⟩

lemma SameButSecrets.length_eq {s t : Text} (h : SameButSecrets s t) : s.length = t.length := by
  have hline : ∀ {line line' : Text}, SameButSecret line line' → line.length = line'.length := by
    intro line line' h
    cases h with
    | same => rfl
    | secret _ _ _ hlength => simp only [List.length_append, List.length_cons, hlength]
  induction h with
  | last h => exact hline h
  | line h _ _ ih => rw [List.length_append, List.length_append, List.length_cons, List.length_cons, hline h, ih]

/-- The lines of the two texts. -/
lemma SameButSecrets.components {s t : Text} (h : SameButSecrets s t) :
    List.Forall₂ SameButSecret (Foundation.components s) (Foundation.components t) := by
  induction h with
  | last h =>
    rw [Foundation.components, Foundation.components, List.splitOnP_eq_singleton h.oneLine.1,
      List.splitOnP_eq_singleton h.oneLine.2]
    exact .cons h .nil
  | line h hc _ ih =>
    rw [Foundation.components, Foundation.components,
      List.splitOnP_append_cons_of_forall_mem h.oneLine.1 _ hc,
      List.splitOnP_append_cons_of_forall_mem h.oneLine.2 _ hc]
    exact .cons h ih

/-! ### What the kit reads -/

lemma notMem_name {name : Text} (h : lowercased (trimWhitespaces name) ∈ secretKeys) {c : Char}
    (hlower : lowercaseMapping c = [c]) (hwhite : isWhitespace c = false) (hc : ∀ k ∈ secretKeys, c ∉ k) :
    c ∉ name := fun hmem =>
  hc _ h (mem_lowercased hlower (mem_trim_of_not hmem hwhite))

/-- The entry of a secret key. -/
lemma readLine_secret {name gap rest value : Text} (hframe : IsFrame name gap rest) (hvalue : IsValue value) :
    readLine (name ++ '=' :: (gap ++ value ++ rest)) = some (.entry (trimWhitespaces name, value)) := by
  have hequals : isWhitespace '=' = false := by decide
  have hname := notMem_name hframe.key (c := '=') (by decide) hequals (by decide)
  have hmark := notMem_name hframe.key (c := '#') (by decide) (by decide) (by decide)
  have hgap : '#' ∉ gap := fun h => absurd (hframe.gap _ h) (by decide)
  have hbefore : before '#' (name ++ '=' :: (gap ++ value ++ rest)) =
      name ++ '=' :: (gap ++ value ++ before '#' rest) := by
    have hleft : '#' ∉ name ++ '=' :: (gap ++ value) := by
      simp only [List.mem_append, List.mem_cons, not_or]
      exact ⟨hmark, by decide, hgap, hvalue.plain⟩
    have happend : ∀ x : Text, name ++ '=' :: (gap ++ value ++ x) = (name ++ '=' :: (gap ++ value)) ++ x := by
      simp
    rw [happend, happend, before_append_of_notMem hleft]
  have hnewline : ∀ c ∈ before '#' (name ++ '=' :: (gap ++ value ++ rest)), isNewline c = false := fun c hc =>
    (SameButSecret.secret hframe hvalue hvalue rfl).oneLine.1 c (mem_of_mem_before hc)
  have hkey : trimWhitespacesAndNewlines (name.dropWhile isWhitespace) = trimWhitespaces name := by
    rw [trimWhitespacesAndNewlines_eq fun c hc => hframe.name c (List.dropWhile_subset _ hc)]
    exact trim_dropWhile name
  have hval : trimWhitespacesAndNewlines ((gap ++ value ++ before '#' rest).rdropWhile isWhitespace) = value := by
    rw [hbefore] at hnewline
    rw [trimWhitespacesAndNewlines_eq fun c hc => hnewline c (List.mem_append_right _
      (List.mem_cons_of_mem _ ((List.rdropWhile_prefix _ _).subset hc))), trimWhitespaces, trim_rdropWhile,
      trim_append_right (trim_eq_nil.1 hframe.comment), trim_append_left hframe.gap]
    exact hvalue.trimmed
  unfold readLine
  rw [trimWhitespacesAndNewlines_eq hnewline, hbefore, trimWhitespaces, trim_split hequals]
  have hcut : cut '=' (name.dropWhile isWhitespace ++
      '=' :: (gap ++ value ++ before '#' rest).rdropWhile isWhitespace) =
        some (name.dropWhile isWhitespace, (gap ++ value ++ before '#' rest).rdropWhile isWhitespace) :=
    cut_append_cons (fun h => hname (List.dropWhile_subset _ h)) _
  simp only [List.append_eq_nil_iff, reduceCtorEq, and_false, if_false, hcut, hkey, hval]

/-- Two entries with the same key, and the same value or two secret ones of one length. -/
structure SameEntry (e e' : Entry) : Prop where
  key : e.1 = e'.1
  length : e.2.length = e'.2.length
  value : lowercased e.1 ∉ secretKeys → e.2 = e'.2

/-- Two lines as the kit reads them. -/
inductive SameLine : Line Header Entry → Line Header Entry → Prop
  | same (x : Line Header Entry) : SameLine x x
  | entry {e e' : Entry} (h : SameEntry e e') : SameLine (.entry e) (.entry e')

/-- The kit reads neither of two lines, or both. -/
lemma SameButSecret.readLine {line line' : Text} (h : SameButSecret line line') :
    (line = line' ∧ WgQuick.readLine line = none) ∨
      ∃ x x', WgQuick.readLine line = some x ∧ WgQuick.readLine line' = some x' ∧ SameLine x x' := by
  cases h with
  | same =>
    cases hx : WgQuick.readLine line with
    | none => exact Or.inl ⟨rfl, rfl⟩
    | some x => exact Or.inr ⟨x, x, rfl, rfl, .same x⟩
  | secret hframe hvalue hvalue' hlength =>
    refine Or.inr ⟨_, _, readLine_secret hframe hvalue, readLine_secret hframe hvalue', .entry ?_⟩
    exact ⟨rfl, hlength, fun h => absurd hframe.key h⟩

/-! ### What the kit makes of the entries -/

/-- A key that cannot be read. -/
def IsKeyError : ParseError → Prop
  | .interfaceHasInvalidPrivateKey _ => True
  | .peerHasInvalidPreSharedKey _ => True
  | _ => False

/-- Attributes that are the same but for secret values. -/
structure SameAttributes (a a' : Attributes) : Prop where
  value : ∀ k ∉ secretKeys, a k = a' k
  length : ∀ k, (a k).map List.length = (a' k).map List.length

lemma SameAttributes.refl (a : Attributes) : SameAttributes a a := ⟨fun _ _ => rfl, fun _ => rfl⟩

lemma SameAttributes.isSome {a a' : Attributes} (h : SameAttributes a a') (k : Text) :
    (a k).isSome = (a' k).isSome := by
  have hlength := congrArg Option.isSome (h.length k)
  rwa [Option.isSome_map, Option.isSome_map] at hlength

lemma SameAttributes.update {a a' : Attributes} (h : SameAttributes a a') {k : Text} {v v' : Option Text}
    (hvalue : k ∉ secretKeys → v = v') (hlength : v.map List.length = v'.map List.length) :
    SameAttributes (Function.update a k v) (Function.update a' k v') := by
  constructor
  · intro l hl
    by_cases hk : l = k
    · subst hk
      rw [Function.update_self, Function.update_self, hvalue hl]
    · rw [Function.update_of_ne hk, Function.update_of_ne hk, h.value l hl]
  · intro l
    by_cases hk : l = k
    · subst hk
      rw [Function.update_self, Function.update_self, hlength]
    · rw [Function.update_of_ne hk, Function.update_of_ne hk, h.length l]

/-- No secret key may have several entries. -/
lemma notMem_secretKeys {k : Text} (h : k ∈ keysWithMultipleEntriesAllowed) : k ∉ secretKeys := by
  have hall : ∀ k ∈ keysWithMultipleEntriesAllowed, k ∉ secretKeys := by decide
  exact hall k h

/-- What the section says of a key, after its value has been stored. -/
def afterAttribute {I : Type} (kit : Kit I) (parserState : ParserState) (keyWithCase : Text)
    (attributes : Attributes) : Except ParseError Attributes :=
  match parserState with
  | .inInterfaceSection =>
    if lowercased keyWithCase ∈ kit.interfaceSectionKeys then .ok attributes
    else unrecognized kit.strict (.interfaceHasUnrecognizedKey keyWithCase) attributes (lowercased keyWithCase)
  | .inPeerSection =>
    if lowercased keyWithCase ∈ peerSectionKeys then .ok attributes
    else unrecognized kit.strict (.peerHasUnrecognizedKey keyWithCase) attributes (lowercased keyWithCase)
  | .notInASection => .ok attributes

lemma agree_afterAttribute {I : Type} (kit : Kit I) (parserState : ParserState) (key : Text)
    {a a' : Attributes} (ha : SameAttributes a a') :
    Agree IsKeyError SameAttributes (afterAttribute kit parserState key a)
      (afterAttribute kit parserState key a') := by
  have hunknown : ∀ error : ParseError, Agree IsKeyError SameAttributes
      (unrecognized kit.strict error a (lowercased key)) (unrecognized kit.strict error a' (lowercased key)) := by
    intro error
    unfold unrecognized
    split_ifs
    · exact .error _
    · exact .ok (ha.update (fun _ => rfl) rfl)
  cases parserState with
  | inInterfaceSection =>
    dsimp only [afterAttribute]
    split_ifs
    · exact .ok ha
    · exact hunknown _
  | inPeerSection =>
    dsimp only [afterAttribute]
    split_ifs
    · exact .ok ha
    · exact hunknown _
  | notInASection => exact .ok ha

lemma agree_readAttribute {I : Type} (kit : Kit I) (parserState : ParserState) {a a' : Attributes}
    (ha : SameAttributes a a') {key value value' : Text} (hlength : value.length = value'.length)
    (hvalue : lowercased key ∉ secretKeys → value = value') :
    Agree IsKeyError SameAttributes (kit.readAttribute parserState a key value)
      (kit.readAttribute parserState a' key value') := by
  have hsome := ha.isSome (lowercased key)
  unfold Kit.readAttribute
  cases hpresent : a (lowercased key) with
  | none =>
    have hpresent' : a' (lowercased key) = none := by
      rw [hpresent] at hsome
      exact Option.isNone_iff_eq_none.1 (Option.isSome_eq_false_iff.1 hsome.symm)
    simp only [hpresent, hpresent']
    exact agree_afterAttribute kit parserState key
      (ha.update (fun h => congrArg some (hvalue h)) (congrArg some hlength))
  | some present =>
    by_cases hmany : lowercased key ∈ keysWithMultipleEntriesAllowed
    · have hsecret := notMem_secretKeys hmany
      have hpresent' : a' (lowercased key) = some present := ha.value _ hsecret ▸ hpresent
      simp only [hpresent, hpresent', hmany, if_true, hvalue hsecret]
      exact agree_afterAttribute kit parserState key (ha.update (fun _ => rfl) rfl)
    · obtain ⟨present', hpresent'⟩ : ∃ present', a' (lowercased key) = some present' := by
        rw [hpresent] at hsome
        exact Option.isSome_iff_exists.1 hsome.symm
      simp only [hpresent, hpresent', hmany, if_false]
      exact .error _

/-! ### What the kit makes of the sections -/

section Configurations

variable [Network]

/-- Two interfaces that are the same but for their keys. -/
structure SameInterface (i i' : InterfaceConfiguration) : Prop where
  eq : i' = { i with privateKey := i'.privateKey, headerProtectionKey := i'.headerProtectionKey }
  isSome : i.headerProtectionKey.isSome = i'.headerProtectionKey.isSome

/-- Two peers that are the same but for their pre-shared keys. -/
def SamePeer (p p' : PeerConfiguration) : Prop := p' = { p with preSharedKey := p'.preSharedKey }

/-- Two interfaces of WireGuardKit that are the same but for their keys. -/
def SameBase (i i' : WgQuick.InterfaceConfiguration) : Prop := i' = { i with privateKey := i'.privateKey }

omit [Network] in
/-- A key that can be read or not. -/
lemma agree_reading {α : Type} (read : Text → Option α) (error : Text → ParseError)
    (herror : ∀ s, IsKeyError (error s)) (s s' : Text) :
    Agree IsKeyError (fun _ _ => True) (reading read error s) (reading read error s') := by
  unfold reading
  cases read s with
  | none => exact .left (herror s) _
  | some v =>
    cases read s' with
    | none => exact .right _ (herror s')
    | some v' => exact .ok trivial

omit [Network] in
lemma agree_optionally {α : Type} (read : Text → Option α) (error : Text → ParseError)
    (herror : ∀ s, IsKeyError (error s)) {s s' : Option Text} (hs : s.isSome = s'.isSome) :
    Agree IsKeyError (fun _ _ => True) (optionally read error s) (optionally read error s') := by
  cases s <;> cases s' <;> simp only [Option.isSome_none, Option.isSome_some, Bool.false_eq_true,
    Bool.true_eq_false] at hs
  · exact .ok trivial
  · exact (agree_reading read error herror _ _).map fun _ _ _ => trivial

lemma agree_collateBase {a a' : Attributes} (ha : SameAttributes a a') :
    Agree IsKeyError SameBase (WgQuick.collateInterface a) (WgQuick.collateInterface a') := by
  have hsome := ha.isSome "privatekey".toList
  unfold WgQuick.collateInterface
  rw [← ha.value "listenport".toList (by decide), ← ha.value "address".toList (by decide),
    ← ha.value "mtu".toList (by decide), ← ha.value "dns".toList (by decide)]
  cases h : a "privatekey".toList with
  | none =>
    have h' : a' "privatekey".toList = none := by
      rw [h] at hsome
      exact Option.isNone_iff_eq_none.1 (Option.isSome_eq_false_iff.1 hsome.symm)
    rw [h']
    exact .error _
  | some s =>
    obtain ⟨s', h'⟩ : ∃ s', a' "privatekey".toList = some s' := by
      rw [h] at hsome
      exact Option.isSome_iff_exists.1 hsome.symm
    rw [h']
    change Agree _ _ (reading BaseKey.ofBase64 .interfaceHasInvalidPrivateKey s >>= _)
      (reading BaseKey.ofBase64 .interfaceHasInvalidPrivateKey s' >>= _)
    refine Agree.bind (agree_reading BaseKey.ofBase64 .interfaceHasInvalidPrivateKey (fun _ => trivial) s s') fun k k' _ => ?_
    exact Agree.same fun _ => Agree.same fun _ => Agree.same fun _ => .ok rfl

lemma agree_collatePeer {a a' : Attributes} (ha : SameAttributes a a') :
    Agree IsKeyError SamePeer (collatePeer a) (collatePeer a') := by
  unfold collatePeer
  rw [← ha.value "publickey".toList (by decide), ← ha.value "allowedips".toList (by decide),
    ← ha.value "endpoint".toList (by decide), ← ha.value "persistentkeepalive".toList (by decide)]
  have hshared := agree_optionally BaseKey.ofBase64 .peerHasInvalidPreSharedKey
    (fun _ => trivial) (ha.isSome "presharedkey".toList)
  cases a "publickey".toList with
  | none => exact .error _
  | some s =>
    change Agree _ _ (reading BaseKey.ofBase64 .peerHasInvalidPublicKey s >>= _)
      (reading BaseKey.ofBase64 .peerHasInvalidPublicKey s >>= _)
    refine Agree.same fun publicKey => Agree.bind hshared fun k k' _ => ?_
    exact Agree.same fun _ => Agree.same fun _ => Agree.same fun _ => .ok rfl

/-- The parameters are public, but for the header protection key. -/
lemma sameInterface_withParameters {a b : Attributes} (ha : SameAttributes a b)
    {i i' : WgQuick.InterfaceConfiguration} (hi : SameBase i i') :
    SameInterface (withParameters i a) (withParameters i' b) := by
  have hvalue : ∀ k, k ∉ secretKeys → b k = a k := fun k hk => (ha.value k hk).symm
  have hsome : (dataAttribute (a "headerprotectionkey".toList)).isSome =
      (dataAttribute (b "headerprotectionkey".toList)).isSome := by
    have hlength := ha.length "headerprotectionkey".toList
    unfold dataAttribute
    cases h : a "headerprotectionkey".toList <;> cases h' : b "headerprotectionkey".toList <;>
      rw [h, h'] at hlength
    · cases hlength
    · cases hlength
    · rename_i v v'
      have hlength : v.length = v'.length := Option.some.inj hlength
      cases v <;> cases v' <;> simp_all
  constructor
  · rw [hi]
    simp (disch := decide) only [withParameters, hvalue, -String.reduceToList]
  · exact hsome

lemma agree_collate {a a' : Attributes} (ha : SameAttributes a a') :
    Agree IsKeyError SameInterface (amneziaWGKit.collate a) (amneziaWGKit.collate a') :=
  (agree_collateBase ha).map fun _ _ hi => sameInterface_withParameters ha hi

/-! ### What the kit makes of the texts -/

/-- The loop in the two runs. -/
structure SameLoop (l l' : Loop InterfaceConfiguration) : Prop where
  interface : Option.Rel SameInterface l.interfaceConfiguration l'.interfaceConfiguration
  peers : List.Forall₂ SamePeer l.peerConfigurations l'.peerConfigurations
  parserState : l.parserState = l'.parserState
  attributes : SameAttributes l.attributes l'.attributes

lemma SameLoop.start {l l' : Loop InterfaceConfiguration} (h : SameLoop l l') (header : Header) :
    SameLoop (l.start header) (l'.start header) :=
  ⟨h.interface, h.peers, rfl, .refl noAttributes⟩

lemma agree_endSection {l l' : Loop InterfaceConfiguration} (h : SameLoop l l') :
    Agree IsKeyError SameLoop (amneziaWGKit.endSection l) (amneziaWGKit.endSection l') := by
  obtain ⟨i, ps, state, a⟩ := l
  obtain ⟨i', ps', state', a'⟩ := l'
  obtain ⟨hi, hps, hstate, ha⟩ := h
  dsimp only at hi hps hstate ha
  subst hstate
  cases state with
  | notInASection => exact .ok ⟨hi, hps, rfl, ha⟩
  | inInterfaceSection =>
    refine Agree.bind (agree_collate ha) fun j j' hj => ?_
    cases hi with
    | none => exact .ok ⟨.some hj, hps, rfl, ha⟩
    | some _ => exact .error _
  | inPeerSection =>
    refine Agree.bind (agree_collatePeer ha) fun p p' hp => ?_
    exact .ok ⟨hi, List.rel_append hps (.cons hp .nil), rfl, ha⟩

lemma agree_entry {l l' : Loop InterfaceConfiguration} (h : SameLoop l l') {e e' : Entry}
    (he : SameEntry e e') :
    Agree IsKeyError SameLoop (amneziaWGKit.entry l e) (amneziaWGKit.entry l' e') := by
  obtain ⟨hkey, hlength, hvalue⟩ := he
  unfold Kit.entry
  rw [← h.parserState, ← hkey]
  refine (agree_readAttribute amneziaWGKit l.parserState h.attributes hlength hvalue).map fun a a' ha => ?_
  exact ⟨h.interface, h.peers, rfl, ha⟩

lemma agree_step {l l' : Loop InterfaceConfiguration} (h : SameLoop l l') {x x' : Line Header Entry}
    (hx : SameLine x x') : Agree IsKeyError SameLoop (amneziaWGKit.step l x) (amneziaWGKit.step l' x') := by
  cases hx with
  | same x =>
    cases x with
    | blank => exact .ok h
    | header header => exact (agree_endSection h).map fun _ _ hl => hl.start header
    | entry e => exact agree_entry h ⟨rfl, rfl, fun _ => rfl⟩
  | entry he => exact agree_entry h he

/-- One line in the two runs. -/
lemma agree_parseLine {l l' : Loop InterfaceConfiguration} (h : SameLoop l l') (isLastLine : Bool)
    {line line' : Text} (hline : SameButSecret line line') :
    Agree IsKeyError SameLoop (amneziaWGKit.parseLine isLastLine l line)
      (amneziaWGKit.parseLine isLastLine l' line') := by
  rcases hline.readLine with ⟨rfl, hnone⟩ | ⟨x, x', hx, hx', hxx⟩
  · rw [amneziaWGKit.parseLine_of_none hnone, amneziaWGKit.parseLine_of_none hnone]
    exact .error _
  · rw [amneziaWGKit.parseLine_of_some hx, amneziaWGKit.parseLine_of_some hx']
    refine Agree.bind (agree_step h hxx) fun m m' hm => ?_
    have hheader : x.getHeader = x'.getHeader := by
      cases hxx <;> rfl
    rw [hheader]
    split_ifs
    · exact agree_endSection hm
    · exact .ok hm

/-- The loop in the two runs, line by line. -/
lemma agree_parseLines {ls ls' : List Text} (hls : List.Forall₂ SameButSecret ls ls')
    {l l' : Loop InterfaceConfiguration} (h : SameLoop l l') :
    Agree IsKeyError SameLoop (amneziaWGKit.parseLines l ls) (amneziaWGKit.parseLines l' ls') := by
  induction hls generalizing l l' with
  | nil => exact .ok h
  | @cons line line' ls ls' hline hls ih =>
    have hempty : ls.isEmpty = ls'.isEmpty := by
      cases hls <;> rfl
    unfold Kit.parseLines
    rw [hempty]
    exact Agree.bind (agree_parseLine h _ hline) fun m m' hm => ih hm

/-- Two configurations that are the same but for their keys. -/
structure SameConfiguration (T T' : TunnelConfiguration InterfaceConfiguration) : Prop where
  interface : SameInterface T.interface T'.interface
  peers : List.Forall₂ SamePeer T.peers T'.peers

lemma map_publicKey {ps ps' : List PeerConfiguration} (h : List.Forall₂ SamePeer ps ps') :
    ps.map PeerConfiguration.publicKey = ps'.map PeerConfiguration.publicKey := by
  induction h with
  | nil => rfl
  | cons hp _ ih => rw [List.map_cons, List.map_cons, ih, hp]

lemma agree_ofLoop {l l' : Loop InterfaceConfiguration} (h : SameLoop l l') :
    Agree IsKeyError SameConfiguration (TunnelConfiguration.ofLoop l) (TunnelConfiguration.ofLoop l') := by
  have hkeys := map_publicKey h.peers
  unfold TunnelConfiguration.ofLoop
  by_cases hd : (l.peerConfigurations.map PeerConfiguration.publicKey).Nodup
  · rw [dif_pos hd, dif_pos (hkeys ▸ hd)]
    have hi := h.interface
    generalize l.interfaceConfiguration = i at hi
    generalize l'.interfaceConfiguration = i' at hi
    cases hi with
    | none => exact .error _
    | some hi => exact .ok ⟨hi, h.peers⟩
  · rw [dif_neg hd, dif_neg (hkeys ▸ hd)]
    exact .error _

/-- **The two runs of the parser.**  They make configurations that are the same but for their keys, or
end with the same error, unless one of them ends with that of a key. -/
theorem agree_parse {s t : Text} (h : SameButSecrets s t) :
    Agree IsKeyError SameConfiguration (amneziaWGKit.parse s) (amneziaWGKit.parse t) := by
  have hlines : List.Forall₂ SameButSecret (lines s) (lines t) := by
    have hcomponents := h.components
    unfold lines
    generalize Foundation.components s = as at hcomponents
    generalize Foundation.components t = bs at hcomponents
    induction hcomponents with
    | nil => exact .nil
    | @cons line line' ls ls' hline _ ih =>
      have hempty : line = [] ↔ line' = [] := by
        cases hline <;> simp
      by_cases hnil : line = []
      · rw [List.filter_cons_of_neg (by simpa using hnil), List.filter_cons_of_neg (by simpa using hempty.1 hnil)]
        exact ih
      · rw [List.filter_cons_of_pos (by simpa using hnil),
          List.filter_cons_of_pos (by simpa using mt hempty.2 hnil)]
        exact .cons hline ih
  refine Agree.bind (agree_parseLines hlines ?_) fun l l' hl => agree_ofLoop hl
  exact ⟨.none, .nil, rfl, .refl noAttributes⟩

end Configurations

end FreeVPN.AmneziaWG
