import FreeVPN.ControlChannel.ProtoStack

/-!
# What is on the wire

`datagram` is the form of all that a control channel sends: the opcode, the session id of the sender, the
acknowledgements, the session id of the receiver if there are any, and the body.

* `encapsulate_eq`, `generateAck_eq` — every packet that is sent is a datagram;
* `decapsulate_datagram` — what a datagram does where it comes: the acknowledgements and the message that were
  put into it are read from it.
-/

namespace FreeVPN.ControlChannel

open ReliableAck

/-- The bytes of a packet. -/
def datagram (c : KeyConfig) (dest : ProtoSessionID) (acks : List ℕ) (opcode : Opcode) (body : Buffer) : Buffer :=
  ProtoStack.genHead c opcode (BitVec.ofNat 8 acks.length :: idBytes acks
    (if acks = [] then body else dest.val ++ body))

/-- The acknowledgements that the next packet takes. -/
def ProtoStack.nextAcks (s : ProtoStack) : List ℕ := s.xmitAcks.data.take s.xmitAcks.batch

/-- The state after a packet has taken them. -/
def ProtoStack.dropAcks (s : ProtoStack) : ProtoStack :=
  { s with xmitAcks := { s.xmitAcks with data := s.xmitAcks.data.drop s.xmitAcks.batch } }

namespace ProtoStack

variable {c : KeyConfig} {s : ProtoStack}

lemma length_nextAcks : s.nextAcks.length = s.xmitAcks.batch := List.length_take_of_le batch_le

lemma nextAcks_eq_nil : s.nextAcks = [] ↔ s.xmitAcks.data = [] := by
  constructor
  · intro h
    by_contra hne
    have := batch_pos hne
    rw [← length_nextAcks, h] at this
    exact absurd this (by decide)
  · intro h
    rw [nextAcks, h, List.take_nil]

lemma prependDestPsidAndAcks_eq {dest : ProtoSessionID} (h : s.xmitAcks.data ≠ [] → s.psidPeer = some dest)
    (buf : Buffer) :
    s.prependDestPsidAndAcks buf = some (BitVec.ofNat 8 s.nextAcks.length :: idBytes s.nextAcks
      (if s.nextAcks = [] then buf else dest.val ++ buf), s.dropAcks) := by
  rw [prependDestPsidAndAcks, length_nextAcks]
  by_cases hnil : s.xmitAcks.data = []
  · rw [if_pos hnil, if_pos (nextAcks_eq_nil.2 hnil)]
    rfl
  · have hpeer : s.psidPeer.map (fun psid => psid.val ++ buf) = some (dest.val ++ buf) := by
      rw [h hnil]
      rfl
    rw [if_neg hnil, if_neg (mt nextAcks_eq_nil.1 hnil), hpeer]
    rfl

lemma encapsulate_eq {dest : ProtoSessionID} (h : s.xmitAcks.data ≠ [] → s.psidPeer = some dest) (id : ℕ)
    (pkt : Packet) :
    s.encapsulate c id pkt =
      some (⟨pkt.opcode, datagram c dest s.nextAcks pkt.opcode (prependId pkt.buf id)⟩, s.dropAcks) := by
  rw [encapsulate, prependDestPsidAndAcks_eq h]
  rfl

lemma generateAck_eq {dest : ProtoSessionID} (h : s.xmitAcks.data ≠ [] → s.psidPeer = some dest) :
    s.generateAck c = some (datagram c dest s.nextAcks .ackV1 [], s.dropAcks) := by
  rw [generateAck, prependDestPsidAndAcks_eq h]
  rfl

end ProtoStack

/-! ### Reading -/

lemma ProtoSessionID.read_append (psid : ProtoSessionID) (buf : Buffer) :
    ProtoSessionID.read (psid.val ++ buf) = some (psid, buf) := by
  have hlen : 8 ≤ (psid.val ++ buf).length := by
    rw [List.length_append, psid.property]
    exact Nat.le_add_right _ _
  rw [ProtoSessionID.read, dif_pos hlen]
  refine congrArg some (Prod.ext (Subtype.ext ?_) ?_)
  · exact List.take_left' psid.property
  · exact List.drop_left' psid.property

/-- The peer knows the opcode and the key of what this side sends. -/
def Understood (c c' : KeyConfig) (opcode : Opcode) : Prop :=
  packetType c' [opCompose opcode c.keyId] = some opcode

lemma packetType_datagram {c c' : KeyConfig} {opcode : Opcode} (h : Understood c c' opcode) (dest : ProtoSessionID)
    (acks : List ℕ) (body : Buffer) : packetType c' (datagram c dest acks opcode body) = some opcode := h

namespace ProtoStack

variable {c c' : KeyConfig} {s : ProtoStack}

/-- **The round trip.**  The acknowledgements of a datagram reach the sending side of the peer, and the message its
receiving side. -/
theorem decapsulate_datagram (hpeer : s.psidPeer = none ∨ s.psidPeer = some c.psidSelf) {acks : List ℕ}
    (hacks : ∀ id ∈ acks, id < 2 ^ 32) (hlen : acks.length < 2 ^ 8) (opcode : Opcode) (body : Buffer) :
    s.decapsulate c' ⟨opcode, datagram c c'.psidSelf acks opcode body⟩ =
      ProtoStack.decapsulateControl c'
        { s with psidPeer := some c.psidSelf, relSend := acks.foldl ReliableSend.ack s.relSend } ⟨opcode, body⟩ := by
  have hsrc : s.verifySrcPsid c' c.psidSelf = (true, { s with psidPeer := some c.psidSelf }) := by
    rcases hpeer with h | h
    · rw [verifySrcPsid, h]
    · rw [verifySrcPsid, h]
      simp only [if_true]
      rw [← h]
  rw [decapsulate, datagram, genHead]
  simp only [popFront_cons, ProtoSessionID.read_append, hsrc, if_true]
  rw [decapsulateBody]
  simp only [ack_cons_idBytes hacks hlen]
  by_cases hnil : acks = []
  · simp [hnil]
  · have hpos : acks.length ≠ 0 := fun h => hnil (List.length_eq_zero_iff.1 h)
    simp [hnil, hpos, ProtoSessionID.read_append]

end ProtoStack

end FreeVPN.ControlChannel
