import FreeVPN.WgQuick.Sections

/-!
# Which texts the kits accept

`Kit.parse_eq_ok` says what configuration a text makes; here is what a text must be like for there to
be one: `InterfaceReadable` and `PeerReadable` for the values of a section, `Kit.Readable` for a text
(`Kit.exists_parse_iff`).
-/

namespace FreeVPN.WgQuick

open FreeVPN.Lib FreeVPN.Foundation

/-! ### One value -/

section Values

variable {α : Type}

/-- No key has two values, unless it may have. -/
def SingleValued (keys : List Text) (es : List Entry) : Prop :=
  ∀ k ∈ keys, k ∉ keysWithMultipleEntriesAllowed → (values k es).length ≤ 1

lemma exists_of_optional (read : Text → Option α) {vs : List Text} (hlen : vs.length ≤ 1) :
    (∃ o : Option α, (joinedValues vs).map read = o.map some) ↔ ∀ v ∈ vs, (read v).isSome := by
  match vs, hlen with
  | [], _ => exact iff_of_true ⟨none, rfl⟩ (by simp)
  | [v], _ =>
    simp only [joinedValues, List.cons_ne_nil, if_false, joined, List.intercalate_singleton,
      Option.map_some, List.forall_mem_singleton]
    constructor
    · rintro ⟨o, ho⟩
      cases o with
      | none => cases ho
      | some a => rw [Option.some.inj ho, Option.isSome_some]
    · intro h
      obtain ⟨a, ha⟩ := Option.isSome_iff_exists.1 h
      exact ⟨some a, by rw [ha, Option.map_some]⟩

lemma bind_joinedValues (read : Text → Option α) {vs : List Text} (hlen : vs.length ≤ 1) (a : α) :
    (joinedValues vs).bind read = some a ↔ ∃ v ∈ vs, read v = some a := by
  match vs, hlen with
  | [], _ => simp [joinedValues]
  | [v], _ => simp [joinedValues, joined]

end Values

/-! ### The sections -/

section Sections

variable [Network]

/-- The values of an `[Interface]` section can be read. -/
structure InterfaceReadable (es : List Entry) : Prop where
  privateKey : ∃ v ∈ values "privatekey".toList es, (BaseKey.ofBase64 v).isSome
  listenPort : ∀ v ∈ values "listenport".toList es, (parseUInt16 v).isSome
  addresses : ∀ x ∈ (values "address".toList es).flatMap splitToArray, (IPAddressRange.ofText x).isSome
  mtu : ∀ v ∈ values "mtu".toList es, (parseUInt16 v).isSome

/-- The values of a `[Peer]` section can be read. -/
structure PeerReadable (es : List Entry) : Prop where
  publicKey : ∃ v ∈ values "publickey".toList es, (BaseKey.ofBase64 v).isSome
  preSharedKey : ∀ v ∈ values "presharedkey".toList es, (BaseKey.ofBase64 v).isSome
  allowedIPs : ∀ x ∈ (values "allowedips".toList es).flatMap splitToArray,
    (IPAddressRange.ofText x).isSome
  endpoint : ∀ v ∈ values "endpoint".toList es, (Endpoint.ofText v).isSome
  persistentKeepAlive : ∀ v ∈ values "persistentkeepalive".toList es, (parseUInt16 v).isSome

lemma exists_interfaceFields_iff {es : List Entry} (hes : SingleValued standardInterfaceKeys es) :
    (∃ c, InterfaceFields es c) ↔ InterfaceReadable es := by
  have hkey := bind_joinedValues BaseKey.ofBase64 (hes "privatekey".toList (by decide) (by decide))
  have hport := exists_of_optional parseUInt16
    (hes "listenport".toList (by decide) (by decide))
  have hmtu := exists_of_optional parseUInt16 (hes "mtu".toList (by decide) (by decide))
  constructor
  · rintro ⟨c, h₁, h₂, h₃, h₄, -, -⟩
    obtain ⟨v, hv, hread⟩ := (hkey _).1 h₁
    rw [items_joinedValues] at h₃
    exact ⟨⟨v, hv, by rw [hread, Option.isSome_some]⟩, hport.1 ⟨_, h₂⟩, exists_reads_iff.1 ⟨_, h₃⟩,
      hmtu.1 ⟨_, h₄⟩⟩
  · rintro ⟨⟨v, hv, hsome⟩, h₂, h₃, h₄⟩
    obtain ⟨privateKey, hread⟩ := Option.isSome_iff_exists.1 hsome
    obtain ⟨listenPort, h₂⟩ := hport.2 h₂
    obtain ⟨addresses, h₃⟩ := exists_reads_iff.2 h₃
    obtain ⟨mtu, h₄⟩ := hmtu.2 h₄
    rw [← items_joinedValues] at h₃
    exact ⟨{ privateKey, listenPort, addresses, mtu, dns := _, dnsSearch := _ },
      (hkey _).2 ⟨v, hv, hread⟩, h₂, h₃, h₄, rfl, rfl⟩

/-- The public key of a `[Peer]` section. -/
def publicKeyOf (es : List Entry) : Option BaseKey :=
  (values "publickey".toList es).head?.bind BaseKey.ofBase64

omit [Network] in
lemma publicKeyOf_eq_some {es : List Entry} (hlen : (values "publickey".toList es).length ≤ 1)
    {k : BaseKey} :
    publicKeyOf es = some k ↔ ∃ v ∈ values "publickey".toList es, BaseKey.ofBase64 v = some k := by
  unfold publicKeyOf
  generalize values "publickey".toList es = vs at hlen ⊢
  match vs, hlen with
  | [], _ => simp
  | [v], _ => simp

lemma exists_peerFields_iff {es : List Entry} (hes : SingleValued peerSectionKeys es) :
    (∃ c, PeerFields es c) ↔ PeerReadable es := by
  have hkey := bind_joinedValues BaseKey.ofBase64 (hes "publickey".toList (by decide) (by decide))
  have hshared := exists_of_optional BaseKey.ofBase64
    (hes "presharedkey".toList (by decide) (by decide))
  have hend := exists_of_optional Endpoint.ofText
    (hes "endpoint".toList (by decide) (by decide))
  have hkeep := exists_of_optional parseUInt16
    (hes "persistentkeepalive".toList (by decide) (by decide))
  constructor
  · rintro ⟨c, h₁, h₂, h₃, h₄, h₅⟩
    obtain ⟨v, hv, hread⟩ := (hkey _).1 h₁
    rw [items_joinedValues] at h₃
    exact ⟨⟨v, hv, by rw [hread, Option.isSome_some]⟩, hshared.1 ⟨_, h₂⟩, exists_reads_iff.1 ⟨_, h₃⟩,
      hend.1 ⟨_, h₄⟩, hkeep.1 ⟨_, h₅⟩⟩
  · rintro ⟨⟨v, hv, hsome⟩, h₂, h₃, h₄, h₅⟩
    obtain ⟨publicKey, hread⟩ := Option.isSome_iff_exists.1 hsome
    obtain ⟨preSharedKey, h₂⟩ := hshared.2 h₂
    obtain ⟨allowedIPs, h₃⟩ := exists_reads_iff.2 h₃
    obtain ⟨endpoint, h₄⟩ := hend.2 h₄
    obtain ⟨persistentKeepAlive, h₅⟩ := hkeep.2 h₅
    rw [← items_joinedValues] at h₃
    exact ⟨{ publicKey, preSharedKey, allowedIPs, endpoint, persistentKeepAlive },
      (hkey _).2 ⟨v, hv, hread⟩, h₂, h₃, h₄, h₅⟩

lemma publicKey_of_peerFields {es : List Entry} (hes : SingleValued peerSectionKeys es)
    {c : PeerConfiguration} (h : PeerFields es c) : publicKeyOf es = some c.publicKey := by
  have hlen := hes "publickey".toList (by decide) (by decide)
  exact (publicKeyOf_eq_some hlen).2 ((bind_joinedValues _ hlen _).1 h.publicKey)

end Sections

/-! ### The text -/

section Text

variable [Network] {I : Type} (kit : Kit I)

/-- The sections of a text to the kits. -/
def kitSections (s : Text) : List Entry × List (Header × List Entry) :=
  sections (dropLastHeader ((lines s).filterMap readLine))

/-- What the entries of a section must be like. -/
structure Kit.SectionReadable (h : Header) (es : List Entry) : Prop where
  recognized : kit.strict → ∀ e ∈ es, lowercased e.1 ∈ kit.sectionKeys h
  single : SingleValued (kit.sectionKeys h) es

/-- What a text must be like for the kit. -/
structure Kit.Readable (s : Text) : Prop where
  /-- Every line is blank, a section header or an entry. -/
  lines : ∀ line ∈ lines s, (readLine line).isSome
  /-- No key is repeated before the first header, unless it may be. -/
  preamble : ∀ k ∉ keysWithMultipleEntriesAllowed, (values k (kitSections s).1).length ≤ 1
  interface : ∃ es, bodies .interface (kitSections s).2 = [es] ∧
    kit.SectionReadable .interface es ∧ InterfaceReadable es
  peers : ∀ es ∈ bodies .peer (kitSections s).2, kit.SectionReadable .peer es ∧ PeerReadable es
  distinct : ((bodies .peer (kitSections s).2).filterMap publicKeyOf).Nodup

omit [Network] in
/-- An entry outside of the sections. -/
lemma Kit.readAttribute_notInASection {b a : Attributes} {key v : Text} :
    kit.readAttribute .notInASection b key v = .ok a ↔
      (b (lowercased key) = none ∨ lowercased key ∈ keysWithMultipleEntriesAllowed) ∧
      Function.update b (lowercased key) (some (match b (lowercased key) with
        | some present => present ++ ',' :: v
        | none => v)) = a := by
  by_cases hm : lowercased key ∈ keysWithMultipleEntriesAllowed <;>
    cases hb : b (lowercased key) <;>
    simp [Kit.readAttribute, hb, hm, bind, Except.bind]

omit [Network] in
lemma Kit.readEntries_notInASection {es : List Entry} {a : Attributes} :
    kit.readEntries .notInASection es noAttributes = .ok a ↔
      (∀ k ∉ keysWithMultipleEntriesAllowed, (values k es).length ≤ 1) ∧
      (fun k => joinedValues (values k es)) = a := by
  induction es using List.reverseRecOn generalizing a with
  | nil =>
    have hnone : (fun k => joinedValues (values k [])) = noAttributes := rfl
    rw [hnone]
    simp [Kit.readEntries, pure, Except.pure]
  | append_singleton es e ih =>
    have hsplit : kit.readEntries .notInASection (es ++ [e]) noAttributes = .ok a ↔
        ∃ b, kit.readEntries .notInASection es noAttributes = .ok b ∧
          kit.readAttribute .notInASection b e.1 e.2 = .ok a := by
      simp [Kit.readEntries, List.foldlM_append, bind_eq_ok]
    rw [hsplit]
    simp only [ih, and_assoc, exists_and_left, exists_eq_left', kit.readAttribute_notInASection]
    have hupdate : Function.update (fun k => joinedValues (values k es)) (lowercased e.1)
        (some (match joinedValues (values (lowercased e.1) es) with
          | some present => present ++ ',' :: e.2
          | none => e.2)) = fun k => joinedValues (values k (es ++ [e])) := by
      funext k
      by_cases hk : k = lowercased e.1
      · subst hk
        rw [Function.update_self, values_concat, if_pos rfl]
        exact (joinedValues_concat _ _).symm
      · rw [Function.update_of_ne hk, values_concat, if_neg (Ne.symm hk)]
    have hnone : joinedValues (values (lowercased e.1) es) = none ↔ values (lowercased e.1) es = [] := by
      simp [joinedValues]
    rw [hupdate, hnone, ← and_assoc]
    refine and_congr_left fun _ => ?_
    constructor
    · rintro ⟨hall, hnew⟩ k hk
      rw [values_concat]
      split_ifs with he
      · subst he
        simp [hnew.resolve_right hk]
      · exact hall k hk
    · intro hall
      refine ⟨fun k hk => le_trans ?_ (hall k hk), ?_⟩
      · rw [values_append, List.length_append]
        omega
      · by_cases hm : lowercased e.1 ∈ keysWithMultipleEntriesAllowed
        · exact Or.inr hm
        · have hle := hall _ hm
          exact Or.inl (by simpa [values_concat] using hle)

variable {kit}

lemma Kit.exists_readInterface_iff (hkeys : standardInterfaceKeys ⊆ kit.interfaceSectionKeys)
    (hcollate : ∀ a, (∃ i, kit.collate a = .ok i) ↔ ∃ i, collateInterface a = .ok i) {es : List Entry} :
    (∃ i, kit.readInterface es = .ok i) ↔
      kit.SectionReadable .interface es ∧ InterfaceReadable es := by
  simp only [kit.readInterface_eq_ok, exists_and_left]
  constructor
  · rintro ⟨h₁, h₂, h₃⟩
    obtain ⟨i, hi⟩ := (hcollate _).1 h₃
    have hstandard : SingleValued standardInterfaceKeys es := fun k hk => h₂ k (hkeys hk)
    exact ⟨⟨h₁, h₂⟩, (exists_interfaceFields_iff hstandard).1
      ⟨i, (collateInterface_attributesOf kit hkeys).1 hi⟩⟩
  · rintro ⟨⟨h₁, h₂⟩, h₃⟩
    have hstandard : SingleValued standardInterfaceKeys es := fun k hk => h₂ k (hkeys hk)
    obtain ⟨i, hi⟩ := (exists_interfaceFields_iff hstandard).2 h₃
    exact ⟨h₁, h₂, (hcollate _).2 ⟨i, (collateInterface_attributesOf kit hkeys).2 hi⟩⟩

lemma Kit.exists_readPeer_iff {es : List Entry} :
    (∃ p, kit.readPeer es = .ok p) ↔ kit.SectionReadable .peer es ∧ PeerReadable es := by
  simp only [kit.readPeer_eq_ok, exists_and_left, collatePeer_attributesOf]
  constructor
  · rintro ⟨h₁, h₂, h₃⟩
    exact ⟨⟨h₁, h₂⟩, (exists_peerFields_iff h₂).1 h₃⟩
  · rintro ⟨⟨h₁, h₂⟩, h₃⟩
    exact ⟨h₁, h₂, (exists_peerFields_iff h₂).2 h₃⟩

lemma Kit.publicKeyOf_of_readPeer {es : List Entry} {p : PeerConfiguration}
    (h : kit.readPeer es = .ok p) : publicKeyOf es = some p.publicKey := by
  obtain ⟨-, h₂, h₃⟩ := kit.readPeer_eq_ok.1 h
  exact publicKey_of_peerFields h₂ ((collatePeer_attributesOf kit).1 h₃)

/-- The peers of a configuration, section by section. -/
lemma Kit.exists_peers_iff {ess : List (List Entry)} :
    (∃ ps : List PeerConfiguration, List.Forall₂ (fun es p => kit.readPeer es = .ok p) ess ps ∧
        (ps.map PeerConfiguration.publicKey).Nodup) ↔
      (∀ es ∈ ess, kit.SectionReadable .peer es ∧ PeerReadable es) ∧ (ess.filterMap publicKeyOf).Nodup := by
  have hkeys : ∀ {ps : List PeerConfiguration},
      List.Forall₂ (fun es p => kit.readPeer es = .ok p) ess ps →
        ess.filterMap publicKeyOf = ps.map PeerConfiguration.publicKey := by
    intro ps h
    induction h with
    | nil => rfl
    | cons hp _ ih => rw [List.filterMap_cons_some (Kit.publicKeyOf_of_readPeer hp), ih, List.map_cons]
  simp only [← Kit.exists_readPeer_iff, ← exists_forall₂_iff]
  constructor
  · rintro ⟨ps, h, hd⟩
    exact ⟨⟨ps, h⟩, hkeys h ▸ hd⟩
  · rintro ⟨⟨ps, h⟩, hd⟩
    exact ⟨ps, h, hkeys h ▸ hd⟩

variable (kit) in
/-- **What the kits accept.** -/
theorem Kit.exists_parse_iff (hkeys : standardInterfaceKeys ⊆ kit.interfaceSectionKeys)
    (hcollate : ∀ a, (∃ i, kit.collate a = .ok i) ↔ ∃ i, collateInterface a = .ok i) {s : Text} :
    (∃ T, kit.parse s = .ok T) ↔ kit.Readable s := by
  simp only [kit.parse_eq_ok]
  constructor
  · rintro ⟨T, ls, hls, ⟨a, ha⟩, ⟨es, hes, hi⟩, hp⟩
    have hsections : kitSections s = sections (dropLastHeader ls) := by
      rw [kitSections, hls.filterMap_eq]
    rw [← hsections] at ha hes hp
    obtain ⟨hpeers, hdistinct⟩ := Kit.exists_peers_iff.1 ⟨T.peers, hp, T.distinct⟩
    exact ⟨exists_reads_iff.1 ⟨ls, hls⟩, (kit.readEntries_notInASection.1 ha).1,
      ⟨es, hes, (Kit.exists_readInterface_iff hkeys hcollate).1 ⟨_, hi⟩⟩, hpeers, hdistinct⟩
  · rintro ⟨hlines, hpreamble, ⟨es, hes, hi⟩, hpeers, hdistinct⟩
    obtain ⟨ls, hls⟩ := exists_reads_iff.2 hlines
    have hsections : kitSections s = sections (dropLastHeader ls) := by
      rw [kitSections, hls.filterMap_eq]
    obtain ⟨interface, hi⟩ := (Kit.exists_readInterface_iff hkeys hcollate).2 hi
    obtain ⟨peers, hp, distinct⟩ := Kit.exists_peers_iff.2 ⟨hpeers, hdistinct⟩
    refine ⟨{ interface, peers, distinct }, ls, hls, ?_⟩
    rw [← hsections]
    exact ⟨⟨_, kit.readEntries_notInASection.2 ⟨hpreamble, rfl⟩⟩, ⟨es, hes, hi⟩, hp⟩

end Text

end FreeVPN.WgQuick
