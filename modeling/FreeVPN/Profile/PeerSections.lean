import FreeVPN.Profile.VPNProtocol

/-!
# The peers of an accepted profile

The reader keeps the fields of the peer that it reads in variables of their own, puts them away at
the next section header and at the end of the text, and forgets them.  So a peer has the fields that
the lines between its header and the next one give it.  But a section without a `PublicKey` is put
away as nothing, without an error, and the check of the public keys that comes after the reading has
only the peers that are left to look at.

* `length_peerBlocks` — the blocks of lines are as many as the `[Peer]` header lines;
* `bodies_peer` — the sections of the reader as the lines between two headers;
* `onePeerEach_iff` — when every section becomes a peer.
-/

namespace FreeVPN.Profile

open FreeVPN.Lib FreeVPN.Foundation FreeVPN.WgQuick

/-! ### The lines of a section -/

/-- A `[Peer]` header line. -/
def isPeerHeader (line : Text) : Bool := lowercased (trimWhitespaces line) = "[peer]".toList

/-- A section header line. -/
def isSectionHeader (line : Text) : Bool :=
  isPeerHeader line || lowercased (trimWhitespaces line) = "[interface]".toList

/-- For each `[Peer]` header line the lines between it and the next section header. -/
def peerBlocks : List Text → List (List Text)
  | [] => []
  | line :: ls =>
    if isPeerHeader line then (ls.takeWhile fun l => !isSectionHeader l) :: peerBlocks ls
    else peerBlocks ls

/-- The value that a line assigns to a key. -/
def assignedValue (key line : Text) : Option Text :=
  if hasPrefix (trimWhitespaces line) ['#'] then none
  else match cut '=' (trimWhitespaces line) with
    | some (name, value) =>
      if lowercased (trimWhitespaces name) = key then some (trimWhitespaces value) else none
    | none => none

/-- The values that lines assign to a key, in their order. -/
def assigned (key : Text) (block : List Text) : List Text := block.filterMap (assignedValue key)

/-- There is one block of lines for every header line. -/
lemma length_peerBlocks (ls : List Text) : (peerBlocks ls).length = ls.countP isPeerHeader := by
  induction ls with
  | nil => rfl
  | cons line ls ih =>
    rw [peerBlocks, List.countP_cons]
    split_ifs
    · rw [List.length_cons, ih]
    · exact ih

/-- The entries of lines. -/
def entriesOf (block : List Text) : List Entry := block.filterMap fun line => (profileLine line).getEntry

lemma isPeerHeader_iff {line : Text} : isPeerHeader line ↔ profileLine line = .header .peer := by
  rw [profileLine_eq_header, isPeerHeader, decide_eq_true_eq]
  rfl

lemma isSectionHeader_eq (line : Text) : (!isSectionHeader line) = (profileLine line).getHeader.isNone := by
  have hinterface : lowercased (trimWhitespaces line) = "[interface]".toList ↔
      profileLine line = .header .interface := (profileLine_eq_header (h := .interface)).symm
  rw [Bool.eq_iff_iff, isSectionHeader, Bool.not_eq_true', Bool.or_eq_false_iff, ← Bool.not_eq_true,
    isPeerHeader_iff, decide_eq_false_iff_not, hinterface]
  cases profileLine line with
  | blank => simp [Line.getHeader]
  | header h => cases h <;> simp [Line.getHeader]
  | entry e => simp [Line.getHeader]

/-- What a line assigns is its entry. -/
lemma assignedValue_eq (key line : Text) :
    assignedValue key line =
      (profileLine line).getEntry.bind fun e => if lowercased e.1 = key then some e.2 else none := by
  have hentry : ∀ e, profileLine line = .entry e → assignedValue key line =
      if lowercased e.1 = key then some e.2 else none := by
    intro e he
    obtain ⟨hcomment, name, value, hcut, rfl⟩ := profileLine_eq_entry.1 he
    simp [assignedValue, hcomment, hcut]
  have hnone : (∀ e, profileLine line ≠ .entry e) → assignedValue key line = none := by
    intro h
    unfold assignedValue
    split_ifs with hcomment
    · rfl
    · cases hcut : cut '=' (trimWhitespaces line) with
      | none => rfl
      | some r =>
        exact absurd (profileLine_eq_entry.2 ⟨Bool.eq_false_iff.2 hcomment, r.1, r.2, hcut, rfl⟩) (h _)
  cases hline : profileLine line with
  | blank => exact hnone fun e h => by simp [hline] at h
  | header h => exact hnone fun e h => by simp [hline] at h
  | entry e => exact hentry e hline

lemma values_entriesOf (key : Text) (block : List Text) : values key (entriesOf block) = assigned key block := by
  induction block with
  | nil => rfl
  | cons line block ih =>
    rw [entriesOf, assigned, List.filterMap_cons, List.filterMap_cons, assignedValue_eq]
    cases (profileLine line).getEntry with
    | none => exact ih
    | some e =>
      simp only [Option.bind_some]
      rw [values_cons]
      split_ifs
      · exact congrArg (e.2 :: ·) ih
      · exact ih

/-- **The `[Peer]` sections** are the lines between their headers and the next ones. -/
theorem bodies_peer (ls : List Text) :
    bodies .peer (sections (ls.map profileLine)).2 = (peerBlocks ls).map entriesOf := by
  induction ls with
  | nil => rfl
  | cons line ls ih =>
    have hbody : (sections (ls.map profileLine)).1 = entriesOf (ls.takeWhile fun l => !isSectionHeader l) := by
      rw [fst_sections, List.takeWhile_map, List.filterMap_map, entriesOf]
      simp only [isSectionHeader_eq]
      rfl
    rw [List.map_cons, peerBlocks]
    cases hline : profileLine line with
    | header h =>
      cases h with
      | interface =>
        have hpeer : ¬isPeerHeader line := fun h => by simp [isPeerHeader_iff.1 h] at hline
        rw [if_neg hpeer, ← ih]
        simp [sections, bodies_cons]
      | peer =>
        rw [if_pos (isPeerHeader_iff.2 hline), List.map_cons, ← ih, ← hbody]
        simp [sections, bodies_cons]
    | blank =>
      have hpeer : ¬isPeerHeader line := fun h => by simp [isPeerHeader_iff.1 h] at hline
      rw [if_neg hpeer, ← ih]
      rfl
    | entry e =>
      have hpeer : ¬isPeerHeader line := fun h => by simp [isPeerHeader_iff.1 h] at hline
      rw [if_neg hpeer, ← ih]
      rfl

/-! ### One peer for each section -/

/-- A peer with a public key, and with the fields that lines assign: of a key that is repeated the
last value. -/
structure IsPeerOf (block : List Text) (p : PeerConfig) : Prop where
  publicKey : (assigned "publickey".toList block).getLast? = some p.publicKey
  filled : trimWhitespaces p.publicKey ≠ []
  presharedKey : p.presharedKey = (assigned "presharedkey".toList block).getLast?
  endpoint : p.endpoint = (assigned "endpoint".toList block).getLast?
  allowedIPs : p.allowedIPs =
    (assigned "allowedips".toList block).getLast?.elim [] fun v => (listItems v).map normalizeCIDR
  persistentKeepalive : p.persistentKeepalive =
    (assigned "persistentkeepalive".toList block).getLast?.bind parseInt

/-- Every `[Peer]` section of a text becomes one peer, in their order. -/
def OnePeerEach (s : Text) : Prop :=
  ∃ c, WireGuardConfig.parse s = .ok c ∧ List.Forall₂ IsPeerOf (peerBlocks (components s)) c.peers

lemma isPeerOf_of_peerOf {block : List Text} {p : PeerConfig} (hp : peerOf (entriesOf block) = some p)
    (hfilled : trimWhitespaces p.publicKey ≠ []) : IsPeerOf block p := by
  obtain ⟨h₁, h₂, h₃, h₄, h₅⟩ := peerOf_eq_some.1 hp
  rw [values_entriesOf] at h₁ h₂ h₃ h₄ h₅
  exact ⟨h₁, hfilled, h₂, h₃, h₄, h₅⟩

lemma exists_peerOf_iff {block : List Text} :
    (∃ p, peerOf (entriesOf block) = some p) ↔ assigned "publickey".toList block ≠ [] := by
  rw [← Option.isSome_iff_exists, Option.isSome_iff_ne_none, ne_eq, peerOf_eq_none_iff, values_entriesOf]

/-- **When every section of an accepted profile becomes a peer**: when each of them has a line with a
public key. -/
theorem onePeerEach_iff {s : Text} (hs : WireGuardConfig.validate s = none) :
    OnePeerEach s ↔ ∀ block ∈ peerBlocks (components s), assigned "publickey".toList block ≠ [] := by
  obtain ⟨c, hc, -, hfilled⟩ := WireGuardConfig.validate_eq_none.1 hs
  constructor
  · rintro ⟨d, -, hpeers⟩ block hblock
    obtain ⟨p, hp⟩ := exists_forall₂_iff.1 ⟨_, hpeers⟩ block hblock
    intro hnil
    have hkey := hp.publicKey
    rw [hnil] at hkey
    cases hkey
  · intro hkeys
    refine ⟨c, hc, ?_⟩
    obtain ⟨-, -, hpeers, -⟩ := WireGuardConfig.parse_eq_ok.1 hc
    rw [hpeers, peerConfigs, profileSections, bodies_peer] at hfilled
    rw [hpeers, peerConfigs, profileSections, bodies_peer]
    generalize peerBlocks (components s) = blocks at hkeys hfilled
    induction blocks with
    | nil => exact .nil
    | cons block blocks ih =>
      obtain ⟨p, hp⟩ := exists_peerOf_iff.2 (hkeys block (by simp))
      rw [List.map_cons, List.filterMap_cons_some hp] at hfilled ⊢
      rw [List.forall_mem_cons] at hfilled
      exact .cons (isPeerOf_of_peerOf hp hfilled.1)
        (ih (fun b hb => hkeys b (by simp [hb])) hfilled.2)

/-- A profile with two peers. -/
def twoPeers : Text :=
  ("[Interface]\nPrivateKey=a\nAddress=10.0.0.2\n[Peer]\nPublicKey=b\n" ++
    "[Peer]\nEndpoint=c:1\nPublicKey=d").toList

/-- A profile whose second peer has no public key. -/
def namelessPeer : Text :=
  "[Interface]\nPrivateKey=a\nAddress=10.0.0.2\n[Peer]\nPublicKey=b\n[Peer]\nEndpoint=c:1".toList

theorem onePeerEach_twoPeers : OnePeerEach twoPeers := by
  have htext : twoPeers = _ := toList_append_ofList String.toList_ofList _
  have hvalid : WireGuardConfig.validate twoPeers = none := by
    rw [htext]
    decide +kernel
  refine (onePeerEach_iff hvalid).2 ?_
  rw [htext]
  decide +kernel

/-- The validation says nothing against the section that is lost. -/
theorem not_onePeerEach_namelessPeer :
    ¬∀ s : Text, WireGuardConfig.validate s = none → OnePeerEach s := by
  intro h
  have htext : namelessPeer = _ := String.toList_ofList
  have hvalid : WireGuardConfig.validate namelessPeer = none := by
    rw [htext]
    decide +kernel
  obtain ⟨c, hc, hpeers⟩ := h namelessPeer hvalid
  have hblocks : (peerBlocks (components namelessPeer)).length = 2 := by
    rw [htext]
    decide +kernel
  have hread : (WireGuardConfig.parse namelessPeer).toOption.map (fun c => c.peers.length) = some 1 := by
    rw [htext]
    decide +kernel
  simp only [hc, Except.toOption, Option.map_some, Option.some.injEq] at hread
  have hlen := hpeers.length_eq
  omega

end FreeVPN.Profile
