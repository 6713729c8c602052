import Mathlib.Data.List.Infix
import FreeVPN.ControlChannel.Datagram

/-!
# One side of a control channel

What holds of a control channel whose peer does what it should, in terms of the messages that the two sides have.

* `Sending`, `Receiving` — the invariants of its two halves;
* `Sends` — what an operation that sends does, proved for `flush`, `sendPendingAcks` and `retransmit`;
* `Comes` — what a packet does where it comes, proved for acknowledgements and for messages.
-/

namespace FreeVPN.ControlChannel

open ReliableAck

/-! ### Invariants of a side -/

/-- A side has the message with the id: it has been passed up, or waits for those before it. -/
def Got (r : ReliableRecv Packet) (id : ℕ) : Prop :=
  id < r.window.headId ∨ (r.window.message id).packet.isSome = true

/-- A packet has acknowledgements, which are of messages that the sender has. -/
structure Acked (c c' : KeyConfig) (has : ℕ → Prop) (acks : List ℕ) (opcode : Opcode) : Prop where
  understood : Understood c c' opcode
  length : acks.length < 2 ^ 8
  acks : ∀ a ∈ acks, a < 2 ^ 32 ∧ has a

/-- A packet has the message with the id. -/
def Holds (c c' : KeyConfig) (handed : List Packet) (has : ℕ → Prop) (id : ℕ) (buf : Buffer) : Prop :=
  ∃ acks opcode payload, buf = datagram c c'.psidSelf acks opcode (prependId payload id) ∧
    Acked c c' has acks opcode ∧ opcode ≠ .ackV1 ∧ id < 2 ^ 32 ∧ handed[id]? = some ⟨opcode, payload⟩

/-- A packet only acknowledges, or has a message that was handed in. -/
def Carried (c c' : KeyConfig) (handed : List Packet) (has : ℕ → Prop) (buf : Buffer) : Prop :=
  (∃ acks, buf = datagram c c'.psidSelf acks .ackV1 [] ∧ Acked c c' has acks .ackV1) ∨
    ∃ id, Holds c c' handed has id buf

/-- The sending half of a side, which has the messages that `has` tells, and the other side those that `got`
tells. -/
structure Sending (c c' : KeyConfig) (relSend : ReliableSend Packet) (handed : List Packet) (has got : ℕ → Prop) :
    Prop where
  wellFormed : relSend.window.WellFormed
  span : relSend.window.span = c.reliableWindow
  next : relSend.next = handed.length
  headId_le : relSend.window.headId ≤ handed.length
  next_le : handed.length ≤ relSend.window.headId + relSend.window.span
  next_lt : handed.length < 2 ^ 32
  kept : ∀ id, relSend.window.headId ≤ id → id < handed.length →
    (relSend.window.message id).erased = true ∧ (relSend.window.message id).packet = none ∨
      ∃ p, (relSend.window.message id).packet = some p ∧ Holds c c' handed has id p.buf
  unsent : ∀ id, handed.length ≤ id →
    (relSend.window.message id).packet = none ∧ (relSend.window.message id).erased = false
  released : ∀ id < handed.length,
    id < relSend.window.headId ∨ (relSend.window.message id).erased = true → got id

/-- The receiving half of a side, where `handed` is what has been handed in at the other one. -/
structure Receiving (c : KeyConfig) (r : ProtoStack) (handed : List Packet) : Prop where
  wellFormed : r.relRecv.window.WellFormed
  span : r.relRecv.window.span = c.reliableWindow
  headId : r.relRecv.window.headId = r.passedUp.length
  passedUp : r.passedUp <+: handed
  stored : ∀ id, r.relRecv.window.headId ≤ id → ∀ p, (r.relRecv.window.message id).packet = some p →
    handed[id]? = some p
  acks : ∀ a ∈ r.xmitAcks.data, Got r.relRecv a

/-- What a side knows of the other, and that it has not been ended. -/
structure Endpoint (c c' : KeyConfig) (s : ProtoStack) : Prop where
  maxAckList : s.xmitAcks.maxAckList = c.maxAckList
  psidPeer : s.psidPeer = none ∨ s.psidPeer = some c'.psidSelf
  acks : s.xmitAcks.data ≠ [] → s.psidPeer = some c'.psidSelf
  valid : s.invalidated = false
  queue : ∀ p ∈ s.rawWriteQueue, p.opcode = ProtoStack.initialOp c

/-- A time is set at which what is kept is sent again. -/
def Armed (s : ProtoStack) : Prop :=
  ∀ id, s.relSend.window.inWindow id = true → (s.relSend.window.message id).packet.isSome = true →
    s.nextRetransmit.isSome = true

/-- What could be passed up has been. -/
def Drained (s : ProtoStack) : Prop := s.sslStarted = true → ¬s.relRecv.ready = true

section Mono

variable {c c' : KeyConfig} {handed handed' : List Packet} {has has' got got' : ℕ → Prop}

lemma getElem?_of_prefix (h : handed <+: handed') {id : ℕ} {p : Packet} (hp : handed[id]? = some p) :
    handed'[id]? = some p := by
  obtain ⟨rest, rfl⟩ := h
  rw [List.getElem?_append_left (List.getElem?_eq_some_iff.1 hp).1, hp]

lemma Acked.mono {acks : List ℕ} {opcode : Opcode} (h : Acked c c' has acks opcode) (hhas : ∀ id, has id → has' id) :
    Acked c c' has' acks opcode :=
  ⟨h.understood, h.length, fun a ha => ⟨(h.acks a ha).1, hhas a (h.acks a ha).2⟩⟩

lemma Holds.mono {id : ℕ} {buf : Buffer} (h : Holds c c' handed has id buf) (hhanded : handed <+: handed')
    (hhas : ∀ id, has id → has' id) : Holds c c' handed' has' id buf := by
  obtain ⟨acks, opcode, payload, hbuf, hacked, hne, hid, hp⟩ := h
  exact ⟨acks, opcode, payload, hbuf, hacked.mono hhas, hne, hid, getElem?_of_prefix hhanded hp⟩

lemma Carried.mono {buf : Buffer} (h : Carried c c' handed has buf) (hhanded : handed <+: handed')
    (hhas : ∀ id, has id → has' id) : Carried c c' handed' has' buf := by
  rcases h with ⟨acks, hbuf, hacked⟩ | ⟨id, h⟩
  · exact Or.inl ⟨acks, hbuf, hacked.mono hhas⟩
  · exact Or.inr ⟨id, h.mono hhanded hhas⟩

lemma Sending.mono {relSend : ReliableSend Packet} (h : Sending c c' relSend handed has got)
    (hhas : ∀ id, has id → has' id) (hgot : ∀ id, got id → got' id) : Sending c c' relSend handed has' got' :=
  { h with
    kept := fun id hid hlt => (h.kept id hid hlt).imp_right fun ⟨p, hp, hholds⟩ =>
      ⟨p, hp, hholds.mono (List.prefix_refl _) hhas⟩
    released := fun id hid hrel => hgot id (h.released id hid hrel) }

lemma Receiving.mono {r : ProtoStack} (h : Receiving c r handed) (hhanded : handed <+: handed') :
    Receiving c r handed' :=
  { h with
    passedUp := h.passedUp.trans hhanded
    stored := fun id hid p hp => getElem?_of_prefix hhanded (h.stored id hid p hp) }

/-- What a side has was handed in at the other one. -/
lemma Receiving.lt_of_got {r : ProtoStack} (h : Receiving c r handed) {id : ℕ} (hgot : Got r.relRecv id) :
    id < handed.length := by
  rcases hgot with hlt | hsome
  · exact (h.headId ▸ hlt).trans_le h.passedUp.length_le
  · by_cases hid : r.relRecv.window.headId ≤ id
    · obtain ⟨p, hp⟩ := Option.isSome_iff_exists.1 hsome
      exact (List.getElem?_eq_some_iff.1 (h.stored id hid p hp)).1
    · exact ((h.headId ▸ Nat.lt_of_not_le hid : id < r.passedUp.length)).trans_le h.passedUp.length_le

end Mono

/-! ### What is sent -/

/-- What sending leaves as it is; of the acknowledgements some have gone. -/
structure Quiet (s s' : ProtoStack) : Prop where
  relRecv : s'.relRecv = s.relRecv
  passedUp : s'.passedUp = s.passedUp
  psidPeer : s'.psidPeer = s.psidPeer
  sslStarted : s'.sslStarted = s.sslStarted
  invalidated : s'.invalidated = s.invalidated
  now : s'.now = s.now
  maxAckList : s'.xmitAcks.maxAckList = s.xmitAcks.maxAckList
  acks : ∀ a ∈ s'.xmitAcks.data, a ∈ s.xmitAcks.data

section Quiet

variable {c c' : KeyConfig} {s s' s'' : ProtoStack}

lemma Quiet.refl (s : ProtoStack) : Quiet s s := ⟨rfl, rfl, rfl, rfl, rfl, rfl, rfl, fun _ => id⟩

lemma Quiet.trans (h : Quiet s s') (h' : Quiet s' s'') : Quiet s s'' :=
  ⟨h'.relRecv.trans h.relRecv, h'.passedUp.trans h.passedUp, h'.psidPeer.trans h.psidPeer,
    h'.sslStarted.trans h.sslStarted, h'.invalidated.trans h.invalidated, h'.now.trans h.now,
    h'.maxAckList.trans h.maxAckList, fun a ha => h.acks a (h'.acks a ha)⟩

/-- The queues are not among what a `Quiet` step leaves as it is. -/
lemma Quiet.queues (h : Quiet s s') (rawWriteQueue : List Packet) (ciphertext : List Buffer) :
    Quiet s { s' with rawWriteQueue, ciphertext } :=
  ⟨h.relRecv, h.passedUp, h.psidPeer, h.sslStarted, h.invalidated, h.now, h.maxAckList, h.acks⟩

lemma Quiet.receiving {handed : List Packet} (h : Quiet s s') (hR : Receiving c s handed) :
    Receiving c s' handed := by
  refine ⟨?_, ?_, ?_, ?_, ?_, fun a ha => ?_⟩
  · rw [h.relRecv]
    exact hR.wellFormed
  · rw [h.relRecv]
    exact hR.span
  · rw [h.relRecv, h.passedUp]
    exact hR.headId
  · rw [h.passedUp]
    exact hR.passedUp
  · rw [h.relRecv]
    exact hR.stored
  · rw [h.relRecv]
    exact hR.acks a (h.acks a ha)

lemma Quiet.drained (h : Quiet s s') (hD : Drained s) : Drained s' := by
  rw [Drained, h.sslStarted, h.relRecv]
  exact hD

lemma Quiet.endpoint (h : Quiet s s') (hE : Endpoint c c' s) (hqueue : ∀ p ∈ s'.rawWriteQueue, p ∈ s.rawWriteQueue) :
    Endpoint c c' s' where
  maxAckList := h.maxAckList.trans hE.maxAckList
  psidPeer := h.psidPeer ▸ hE.psidPeer
  acks hne := by
    rw [h.psidPeer]
    refine hE.acks fun hnil => hne ?_
    refine List.eq_nil_iff_forall_not_mem.2 fun a ha => ?_
    have := h.acks a ha
    rw [hnil] at this
    exact List.not_mem_nil this
  valid := h.invalidated.trans hE.valid
  queue p hp := hE.queue p (hqueue p hp)

end Quiet

lemma acked_nextAcks {c c' : KeyConfig} {s : ProtoStack} {has : ℕ → Prop} {opcode : Opcode} (hE : Endpoint c c' s)
    (hmax : 0 < c.maxAckList ∧ c.maxAckList < 2 ^ 8) (hacks : ∀ a ∈ s.xmitAcks.data, a < 2 ^ 32 ∧ has a)
    (hop : Understood c c' opcode) : Acked c c' has s.nextAcks opcode := by
  refine ⟨hop, ?_, fun a ha => hacks a (List.mem_of_mem_take ha)⟩
  have h := batch_le_max (a := s.xmitAcks) (by rw [hE.maxAckList]; exact hmax.1)
  rw [hE.maxAckList] at h
  rw [ProtoStack.length_nextAcks]
  exact h.trans_lt hmax.2

section Send

variable {c c' : KeyConfig} {s : ProtoStack} {has got : ℕ → Prop}

/-- One packet more is sent. -/
lemma Sending.push {relSend relSend' : ReliableSend Packet} {handed : List Packet}
    (hS : Sending c c' relSend handed has got) {pkt : Packet} {now : ℕ} (hready : relSend.ready = true)
    (hsend : relSend.send now c.tlsTimeout = some (relSend.next, relSend')) {buf : Buffer}
    (hbuf : ∀ id, id = relSend.next → id < 2 ^ 32 → (handed ++ [pkt])[id]? = some pkt →
      Holds c c' (handed ++ [pkt]) has id buf) :
    Sending c c' (relSend'.setPacket relSend.next ⟨pkt.opcode, buf⟩) (handed ++ [pkt]) has got := by
  obtain ⟨relSend'', hsend', hnext, hset⟩ := ReliableSend.send_spec hS.wellFormed hready now c.tlsTimeout
  obtain rfl : relSend'' = relSend' := (Prod.mk.inj (Option.some.inj (hsend'.symm.trans hsend))).2
  obtain ⟨hwf, hhead, hspan, hmessage⟩ := hset ⟨pkt.opcode, buf⟩
  obtain ⟨hlt, -, hid⟩ := (MessageWindow.inWindow_iff hS.wellFormed).1 hready
  have hlen : (handed ++ [pkt]).length = handed.length + 1 := by simp
  have hsn := hS.next
  have hle := hS.headId_le
  have hunsent := hS.unsent relSend.next (Nat.le_of_eq hS.next.symm)
  refine ⟨hwf, hspan.trans hS.span, ?_, ?_, ?_, ?_, ?_, ?_, ?_⟩
  · rw [hlen, ← hsn]
    exact hnext
  · omega
  · omega
  · omega
  · intro id hid' hidlt
    rw [hmessage id (hhead ▸ hid')]
    by_cases heq : id = relSend.next
    · rw [if_pos heq]
      refine Or.inr ⟨_, rfl, hbuf id heq (by omega) ?_⟩
      rw [heq, hsn, List.getElem?_append_right (Nat.le_refl _), Nat.sub_self]
      rfl
    · rw [if_neg heq]
      refine (hS.kept id (hhead ▸ hid') (by omega)).imp_right ?_
      rintro ⟨p, hp, hholds⟩
      exact ⟨p, hp, hholds.mono (List.prefix_append _ _) fun _ h => h⟩
  · intro id hid'
    rw [hmessage id (by omega), if_neg (by omega)]
    exact hS.unsent id (by omega)
  · intro id hidlt hor
    by_cases hlow : id < relSend.window.headId
    · exact hS.released id (by omega) (Or.inl hlow)
    · rw [hhead, or_iff_right hlow, hmessage id (by omega)] at hor
      by_cases heq : id = relSend.next
      · rw [if_pos heq] at hor
        rw [heq] at hor
        simp [hunsent.2] at hor
      · rw [if_neg heq] at hor
        exact hS.released id (by omega) (Or.inr hor)

/-- One turn of the loop over the packets that are to be sent. -/
lemma sendPackets_cons {relSend : ReliableSend Packet} (hready : s.relSend.ready = true)
    (hsend : s.relSend.send s.now c.tlsTimeout = some (s.relSend.next, relSend))
    (hacks : s.xmitAcks.data ≠ [] → s.psidPeer = some c'.psidSelf) (pkt : Packet) (queue : List Packet)
    {buf : Buffer} (hbuf : buf = datagram c c'.psidSelf s.nextAcks pkt.opcode (prependId pkt.buf s.relSend.next)) :
    ProtoStack.sendPackets c (pkt :: queue) s =
      (ProtoStack.sendPackets c queue { s.dropAcks with
        relSend := relSend.setPacket s.relSend.next ⟨pkt.opcode, buf⟩, handed := s.handed ++ [pkt] }).map
        fun r => (r.1, r.2.1, buf :: r.2.2) := by
  have hencapsulate := ProtoStack.encapsulate_eq (c := c)
    (s := { s with relSend, handed := s.handed ++ [pkt] }) hacks s.relSend.next pkt
  rw [ProtoStack.sendPackets, if_pos hready, hsend]
  dsimp only [Option.bind_eq_bind, Option.bind_some]
  rw [hencapsulate, hbuf]
  dsimp only [Option.bind_some]
  rw [Option.map_eq_bind]
  rfl

/-- The loop over the packets that are to be sent. -/
lemma sendPackets_spec (hmax : 0 < c.maxAckList ∧ c.maxAckList < 2 ^ 8) (hE : Endpoint c c' s)
    (hS : Sending c c' s.relSend s.handed has got) (hacks : ∀ a ∈ s.xmitAcks.data, a < 2 ^ 32 ∧ has a)
    {queue : List Packet} (hqueue : ∀ p ∈ queue, Understood c c' p.opcode ∧ p.opcode ≠ .ackV1) :
    ∃ queue' s' out, ProtoStack.sendPackets c queue s = some (queue', s', out) ∧
      Sending c c' s'.relSend s'.handed has got ∧ Quiet s s' ∧ s'.rawWriteQueue = s.rawWriteQueue ∧
      s'.ciphertext = s.ciphertext ∧ (∃ sent, queue = sent ++ queue' ∧ s'.handed = s.handed ++ sent) ∧
      ∀ buf ∈ out, Carried c c' s'.handed has buf := by
  induction queue generalizing s with
  | nil =>
    exact ⟨[], s, [], rfl, hS, Quiet.refl s, rfl, rfl, ⟨[], rfl, (List.append_nil _).symm⟩, by simp⟩
  | cons pkt queue ih =>
    by_cases hready : s.relSend.ready = true
    swap
    · exact ⟨pkt :: queue, s, [], if_neg hready, hS, Quiet.refl s, rfl, rfl,
        ⟨[], rfl, (List.append_nil _).symm⟩, by simp⟩
    obtain ⟨relSend, hsend, -, -⟩ := ReliableSend.send_spec hS.wellFormed hready s.now c.tlsTimeout
    obtain ⟨hop, hne⟩ := hqueue pkt List.mem_cons_self
    have hacked := acked_nextAcks hE hmax hacks hop
    obtain ⟨buf, hbuf⟩ : ∃ buf, buf = datagram c c'.psidSelf s.nextAcks pkt.opcode
      (prependId pkt.buf s.relSend.next) := ⟨_, rfl⟩
    have hholds : ∀ id, id = s.relSend.next → id < 2 ^ 32 → (s.handed ++ [pkt])[id]? = some pkt →
        Holds c c' (s.handed ++ [pkt]) has id buf := fun id heq hid hp =>
      ⟨s.nextAcks, pkt.opcode, pkt.buf, heq ▸ hbuf, hacked, hne, hid, hp⟩
    have hS₁ := hS.push hready hsend hholds
    have hquiet : Quiet s { s.dropAcks with
        relSend := relSend.setPacket s.relSend.next ⟨pkt.opcode, buf⟩, handed := s.handed ++ [pkt] } :=
      ⟨rfl, rfl, rfl, rfl, rfl, rfl, rfl, fun _ => List.mem_of_mem_drop⟩
    obtain ⟨queue', s', out, hrun, hS', hquiet', hraw, hcipher, ⟨sent, hsent, hhanded⟩, hcarried⟩ :=
      ih (hquiet.endpoint hE fun _ => id) hS₁ (fun a ha => hacks a (hquiet.acks a ha))
        fun p hp => hqueue p (List.mem_cons_of_mem _ hp)
    refine ⟨queue', s', buf :: out, ?_, hS', hquiet.trans hquiet', hraw, hcipher,
      ⟨pkt :: sent, by rw [hsent]; rfl, by rw [hhanded, List.append_assoc]; rfl⟩, ?_⟩
    · rw [sendPackets_cons hready hsend hE.acks pkt queue hbuf, hrun]
      rfl
    · intro b hb
      rcases List.mem_cons.1 hb with rfl | hb
      · refine Or.inr ⟨s.relSend.next, (hholds _ rfl ?_ ?_).mono (hhanded ▸ List.prefix_append _ _) fun _ => id⟩
        · rw [hS.next]
          exact hS.next_lt
        · rw [hS.next, List.getElem?_append_right (Nat.le_refl _), Nat.sub_self]
          rfl
      · exact hcarried b hb

/-- The times at which the messages are sent again do not matter. -/
lemma Sending.of_same {relSend relSend' : ReliableSend Packet} {handed : List Packet}
    (hS : Sending c c' relSend handed has got) (h : ReliableSend.Same relSend relSend') :
    Sending c c' relSend' handed has got := by
  have hle := hS.headId_le
  refine ⟨h.wellFormed, h.span.trans hS.span, h.next.trans hS.next, h.headId ▸ hle, ?_, hS.next_lt, ?_, ?_, ?_⟩
  · rw [h.headId, h.span]
    exact hS.next_le
  · intro id hid hlt
    rw [h.headId] at hid
    rw [h.erased id hid, h.packet id hid]
    exact hS.kept id hid hlt
  · intro id hid
    rw [h.erased id (hle.trans hid), h.packet id (hle.trans hid)]
    exact hS.unsent id hid
  · intro id hid hor
    refine hS.released id hid ?_
    rw [h.headId] at hor
    rcases hor with hlt | herased
    · exact Or.inl hlt
    · by_cases hlow : id < relSend.window.headId
      · exact Or.inl hlow
      · exact Or.inr ((h.erased id (Nat.le_of_not_lt hlow)).symm.trans herased)

lemma updateRetransmit_spec (hwf : s.relSend.window.WellFormed) :
    ∃ s', s.updateRetransmit = some s' ∧ ReliableSend.Same s.relSend s'.relSend ∧ s'.handed = s.handed ∧
      s'.ciphertext = s.ciphertext ∧ Quiet s s' ∧ s'.rawWriteQueue = s.rawWriteQueue ∧ Armed s' := by
  obtain ⟨relSend, wait, hrun, hsame, hsome⟩ := ReliableSend.untilRetransmit_spec hwf
    (fun i hi => ReliableSend.mem_ids.1 hi) s.now none
  refine ⟨{ s with relSend, nextRetransmit := wait.map (s.now + ·) }, ?_, hsame, rfl, rfl,
    ⟨rfl, rfl, rfl, rfl, rfl, rfl, rfl, fun _ h => h⟩, rfl, ?_⟩
  · rw [ProtoStack.updateRetransmit, hrun]
    rfl
  · intro id hin hp
    rw [Option.isSome_map]
    have hin' : s.relSend.window.inWindow id = true := (hsame.inWindow id).symm.trans hin
    have hle := ((MessageWindow.inWindow_iff hwf).1 hin').2.1
    refine hsome (Or.inr ⟨id, ReliableSend.mem_ids.2 hin', ?_⟩)
    rw [← hsame.packet id hle]
    exact hp

/-- What the TLS object has had for the peer: what has been handed in of it, and what waits. -/
def stream (s : ProtoStack) : List Buffer :=
  (s.handed.filter fun p => p.opcode = .controlV1).map Packet.buf ++ s.ciphertext

/-- What an operation that sends does: it does not throw, nothing of the receiving half changes, and what goes to
the wire is in order. -/
def Sends (c c' : KeyConfig) (has got : ℕ → Prop) (s : ProtoStack) (r : Option (ProtoStack × List Buffer)) : Prop :=
  ∃ s' out, r = some (s', out) ∧ Endpoint c c' s' ∧ Sending c c' s'.relSend s'.handed has got ∧ Quiet s s' ∧
    Armed s' ∧ s.handed <+: s'.handed ∧ stream s' = stream s ∧ ∀ buf ∈ out, Carried c c' s'.handed has buf

lemma initialOp_ne : ProtoStack.initialOp c ≠ .ackV1 ∧ ProtoStack.initialOp c ≠ .controlV1 := by
  rw [ProtoStack.initialOp]
  split
  · decide
  · split <;> decide

lemma stream_raw {sent : List Packet} (hsent : ∀ p ∈ sent, p.opcode = ProtoStack.initialOp c) :
    sent.filter (fun p => p.opcode = .controlV1) = [] := by
  refine List.filter_eq_nil_iff.2 fun p hp => ?_
  rw [hsent p hp, decide_eq_true_iff]
  exact initialOp_ne.2

lemma stream_app {sent queue : List Packet} {ciphertext : List Buffer}
    (h : ciphertext.map (Packet.mk .controlV1) = sent ++ queue) :
    (sent.filter fun p => p.opcode = .controlV1).map Packet.buf ++ queue.map Packet.buf = ciphertext := by
  have hall : ∀ p ∈ sent, decide (p.opcode = .controlV1) = true := by
    intro p hp
    have hmem := h ▸ List.mem_append_left queue hp
    obtain ⟨buf, -, rfl⟩ := List.mem_map.1 hmem
    rfl
  rw [List.filter_eq_self.2 hall, ← List.map_append, ← h, List.map_map]
  exact List.map_id ciphertext

lemma sends_flush (hmax : 0 < c.maxAckList ∧ c.maxAckList < 2 ^ 8)
    (hop : ∀ opcode, opcode = ProtoStack.initialOp c ∨ opcode = .controlV1 → Understood c c' opcode)
    (hE : Endpoint c c' s) (hS : Sending c c' s.relSend s.handed has got)
    (hacks : ∀ a ∈ s.xmitAcks.data, a < 2 ^ 32 ∧ has a) : Sends c c' has got s (s.flush c) := by
  have hraw : ∀ p ∈ s.rawWriteQueue, Understood c c' p.opcode ∧ p.opcode ≠ .ackV1 := by
    intro p hp
    refine ⟨hop _ (Or.inl (hE.queue p hp)), ?_⟩
    rw [hE.queue p hp]
    exact initialOp_ne.1
  obtain ⟨queue₁, s₁, out₁, hrun₁, hS₁, hquiet₁, hraw₁, hcipher₁, ⟨sent₁, hsent₁, hhanded₁⟩, hcarried₁⟩ :=
    sendPackets_spec hmax hE hS hacks hraw
  have hstream₁ : stream { s₁ with rawWriteQueue := queue₁ } = stream s := by
    have hnil := stream_raw (c := c) fun p hp => hE.queue p (hsent₁ ▸ List.mem_append_left _ hp)
    rw [stream, stream, hhanded₁, List.filter_append, hnil, List.append_nil, hcipher₁]
  have hquiet₁' : Quiet s { s₁ with rawWriteQueue := queue₁ } := hquiet₁.queues queue₁ s₁.ciphertext
  have hE₁ := hquiet₁'.endpoint hE fun p hp => hsent₁ ▸ List.mem_append_right _ hp
  have hdown : ∃ s₂ out₂, { s₁ with rawWriteQueue := queue₁ }.downStackApp c = some (s₂, out₂) ∧
      Endpoint c c' s₂ ∧ Sending c c' s₂.relSend s₂.handed has got ∧
      Quiet { s₁ with rawWriteQueue := queue₁ } s₂ ∧ s₁.handed <+: s₂.handed ∧
      stream s₂ = stream { s₁ with rawWriteQueue := queue₁ } ∧ ∀ buf ∈ out₂, Carried c c' s₂.handed has buf := by
    rw [ProtoStack.downStackApp]
    split
    · have hcontrol : ∀ p ∈ s₁.ciphertext.map (Packet.mk .controlV1), Understood c c' p.opcode ∧ p.opcode ≠ .ackV1 := by
        intro p hp
        obtain ⟨buf, -, rfl⟩ := List.mem_map.1 hp
        exact ⟨hop _ (Or.inr rfl), Opcode.noConfusion⟩
      obtain ⟨queue₂, s₂, out₂, hrun₂, hS₂, hquiet₂, hraw₂, -, ⟨sent₂, hsent₂, hhanded₂⟩, hcarried₂⟩ :=
        sendPackets_spec hmax hE₁ hS₁ (fun a ha => hacks a (hquiet₁.acks a ha)) hcontrol
      have hquiet₂' := hquiet₂.queues s₂.rawWriteQueue (queue₂.map Packet.buf)
      refine ⟨{ s₂ with ciphertext := queue₂.map Packet.buf }, out₂, ?_, ?_, hS₂, hquiet₂', ?_, ?_, hcarried₂⟩
      · rw [hrun₂]
        rfl
      · exact hquiet₂'.endpoint hE₁ fun p hp => hraw₂ ▸ hp
      · exact hhanded₂ ▸ List.prefix_append _ _
      · rw [stream, stream, hhanded₂, List.filter_append, List.map_append, List.append_assoc, stream_app hsent₂]
    · exact ⟨_, [], rfl, hE₁, hS₁, Quiet.refl _, List.prefix_refl _, rfl, by simp⟩
  obtain ⟨s₂, out₂, hrun₂, hE₂, hS₂, hquiet₂, hprefix₂, hstream₂, hcarried₂⟩ := hdown
  obtain ⟨s₃, hrun₃, hsame, hhanded₃, hcipher₃, hquiet₃, hraw₃, harmed⟩ := updateRetransmit_spec hS₂.wellFormed
  refine ⟨s₃, out₁ ++ out₂, ?_, ?_, ?_, (hquiet₁'.trans hquiet₂).trans hquiet₃, harmed, ?_, ?_, ?_⟩
  · rw [ProtoStack.flush, if_neg (by rw [hE.valid]; exact Bool.false_ne_true), ProtoStack.downStackRaw, hrun₁]
    dsimp only [Option.bind_eq_bind, Option.bind_some, Option.pure_def]
    rw [hrun₂]
    dsimp only [Option.bind_some]
    rw [hrun₃]
    rfl
  · exact hquiet₃.endpoint hE₂ fun p hp => hraw₃ ▸ hp
  · rw [hhanded₃]
    exact hS₂.of_same hsame
  · rw [hhanded₃]
    exact (hhanded₁ ▸ List.prefix_append _ _ : s.handed <+: s₁.handed).trans hprefix₂
  · rw [stream, hhanded₃, hcipher₃]
    exact hstream₂.trans hstream₁
  · intro buf hbuf
    rw [hhanded₃]
    rcases List.mem_append.1 hbuf with hbuf | hbuf
    · exact (hcarried₁ buf hbuf).mono hprefix₂ fun _ h => h
    · exact hcarried₂ buf hbuf

lemma sends_sendAcks (hmax : 0 < c.maxAckList ∧ c.maxAckList < 2 ^ 8) (hop : Understood c c' .ackV1) (n : ℕ)
    (hE : Endpoint c c' s) (hS : Sending c c' s.relSend s.handed has got) (hA : Armed s)
    (hacks : ∀ a ∈ s.xmitAcks.data, a < 2 ^ 32 ∧ has a) : Sends c c' has got s (ProtoStack.sendAcks c n s) := by
  induction n generalizing s with
  | zero => exact ⟨s, [], rfl, hE, hS, Quiet.refl s, hA, List.prefix_refl _, rfl, by simp⟩
  | succ n ih =>
    by_cases hnil : s.xmitAcks.data = []
    · exact ⟨s, [], if_pos hnil, hE, hS, Quiet.refl s, hA, List.prefix_refl _, rfl, by simp⟩
    have hquiet : Quiet s s.dropAcks := ⟨rfl, rfl, rfl, rfl, rfl, rfl, rfl, fun _ => List.mem_of_mem_drop⟩
    obtain ⟨s', out, hrun, hE', hS', hquiet', hA', hprefix, hstream, hcarried⟩ :=
      ih (s := s.dropAcks) (hquiet.endpoint hE fun _ h => h) hS hA fun a ha => hacks a (hquiet.acks a ha)
    refine ⟨s', datagram c c'.psidSelf s.nextAcks .ackV1 [] :: out, ?_, hE', hS', hquiet.trans hquiet', hA', hprefix,
      hstream, ?_⟩
    · rw [ProtoStack.sendAcks, if_neg hnil, ProtoStack.generateAck_eq hE.acks]
      dsimp only [Option.bind_eq_bind, Option.bind_some]
      rw [hrun]
      rfl
    · intro buf hbuf
      rcases List.mem_cons.1 hbuf with rfl | hbuf
      · exact Or.inl ⟨s.nextAcks, rfl, acked_nextAcks hE hmax hacks hop⟩
      · exact hcarried buf hbuf

lemma sends_sendPendingAcks (hmax : 0 < c.maxAckList ∧ c.maxAckList < 2 ^ 8) (hop : Understood c c' .ackV1)
    (hE : Endpoint c c' s) (hS : Sending c c' s.relSend s.handed has got) (hA : Armed s)
    (hacks : ∀ a ∈ s.xmitAcks.data, a < 2 ^ 32 ∧ has a) : Sends c c' has got s (s.sendPendingAcks c) := by
  rw [ProtoStack.sendPendingAcks, if_neg (by rw [hE.valid]; exact Bool.false_ne_true)]
  exact sends_sendAcks hmax hop _ hE hS hA hacks

/-- What is kept is what was sent. -/
lemma Sending.holds {relSend : ReliableSend Packet} {handed : List Packet}
    (hS : Sending c c' relSend handed has got) {id : ℕ} (hid : relSend.window.headId ≤ id) {p : Packet}
    (hp : (relSend.window.message id).packet = some p) : Holds c c' handed has id p.buf := by
  rcases Nat.lt_or_ge id handed.length with hlt | hge
  · rcases hS.kept id hid hlt with ⟨-, hnone⟩ | ⟨p', hp', hholds⟩
    · rw [hp] at hnone
      cases hnone
    · rw [hp] at hp'
      obtain rfl := Option.some.inj hp'
      exact hholds
  · rw [(hS.unsent id hge).1] at hp
    cases hp

lemma retransmit_spec (hwf : s.relSend.window.WellFormed) (hA : Armed s) :
    ∃ s' out, s.retransmit c = some (s', out) ∧ ReliableSend.Same s.relSend s'.relSend ∧ s'.handed = s.handed ∧
      s'.ciphertext = s.ciphertext ∧ Quiet s s' ∧ s'.rawWriteQueue = s.rawWriteQueue ∧ Armed s' ∧
      (∀ buf ∈ out, ∃ id p, s.relSend.window.headId ≤ id ∧ (s.relSend.window.message id).packet = some p ∧
        buf = p.buf) ∧
      (c.isTcp = false → s.invalidated = false → s.nextRetransmit.any (· ≤ s.now) = true →
        ∀ id, s.relSend.window.inWindow id = true → ∀ p, (s.relSend.window.message id).packet = some p →
          (s.relSend.window.message id).retransmitAt ≤ s.now → p.buf ∈ out) := by
  rw [ProtoStack.retransmit]
  split
  swap
  · rename_i hnot
    refine ⟨s, [], rfl, ReliableSend.Same.refl hwf, rfl, rfl, Quiet.refl s, rfl, hA, by simp, fun _ hvalid hdue => ?_⟩
    exact absurd ⟨by rw [hvalid]; exact Bool.false_ne_true, hdue⟩ hnot
  obtain ⟨relSend, packets, hrun, hsame, hmem, hall⟩ := ReliableSend.retransmit_spec hwf
    (fun i hi => ReliableSend.mem_ids.1 hi) List.nodup_range' s.now c.tlsTimeout
  obtain ⟨s', hrun', hsame', hhanded, hcipher, hquiet, hraw, harmed⟩ :=
    updateRetransmit_spec (s := { s with relSend }) hsame.wellFormed
  refine ⟨s', if c.isTcp then [] else packets.map Packet.buf, ?_, hsame.trans hsame', hhanded, hcipher, ?_, hraw,
    harmed, ?_, ?_⟩
  · rw [hrun]
    dsimp only [Option.bind_eq_bind, Option.bind_some]
    rw [hrun']
    rfl
  · exact ⟨hquiet.relRecv, hquiet.passedUp, hquiet.psidPeer, hquiet.sslStarted, hquiet.invalidated, hquiet.now,
      hquiet.maxAckList, hquiet.acks⟩
  · intro buf hbuf
    split at hbuf
    · cases hbuf
    · obtain ⟨p, hp, rfl⟩ := List.mem_map.1 hbuf
      obtain ⟨id, hid, hidp⟩ := hmem p hp
      exact ⟨id, p, ((MessageWindow.inWindow_iff hwf).1 (ReliableSend.mem_ids.1 hid)).2.1, hidp, rfl⟩
  · intro hudp _ _ id hin p hp hdue
    rw [hudp, if_neg Bool.false_ne_true]
    exact List.mem_map_of_mem (hall id (ReliableSend.mem_ids.2 hin) p hp hdue)

lemma sends_retransmit (hE : Endpoint c c' s) (hS : Sending c c' s.relSend s.handed has got) (hA : Armed s) :
    Sends c c' has got s (s.retransmit c) := by
  obtain ⟨s', out, hrun, hsame, hhanded, hcipher, hquiet, hraw, harmed, hout, -⟩ :=
    retransmit_spec (c := c) hS.wellFormed hA
  refine ⟨s', out, hrun, hquiet.endpoint hE fun p hp => hraw ▸ hp, ?_, hquiet, harmed, ?_, ?_, ?_⟩
  · rw [hhanded]
    exact hS.of_same hsame
  · rw [hhanded]
  · rw [stream, stream, hhanded, hcipher]
  · intro buf hbuf
    obtain ⟨id, p, hid, hp, rfl⟩ := hout buf hbuf
    rw [hhanded]
    exact Or.inr ⟨id, hS.holds hid hp⟩

end Send

/-! ### What comes -/

section Receive

variable {c c' : KeyConfig} {s : ProtoStack} {handed : List Packet} {has got : ℕ → Prop}

/-- The peer has acknowledged a message. -/
lemma Sending.ack {relSend : ReliableSend Packet} (hS : Sending c c' relSend handed has got) {a : ℕ}
    (ha : a < handed.length) (hgot : got a) : Sending c c' (relSend.ack a) handed has got := by
  obtain ⟨hwf, hspan, hhead, hmessage, hpassed⟩ := MessageWindow.rmById_spec hS.wellFormed a
  have hle := hS.headId_le
  have hnew : (relSend.window.rmById a).headId ≤ handed.length := by
    by_contra hlt
    rcases hpassed handed.length hle (Nat.lt_of_not_le hlt) with ⟨rfl, -⟩ | herased
    · exact absurd ha (Nat.lt_irrefl _)
    · exact Bool.false_ne_true ((hS.unsent _ (Nat.le_refl _)).2.symm.trans herased)
  refine ⟨hwf, hspan.trans hS.span, hS.next, hnew, ?_, hS.next_lt, ?_, ?_, ?_⟩
  · exact hS.next_le.trans (Nat.add_le_add hhead hspan.ge)
  · intro id hid hlt
    rw [show ((relSend.ack a).window.message id) = _ from hmessage id hid]
    split
    · exact Or.inl ⟨rfl, rfl⟩
    · exact hS.kept id (hhead.trans hid) hlt
  · intro id hid
    rw [show ((relSend.ack a).window.message id) = _ from hmessage id (hnew.trans hid),
      if_neg (show ¬(id = a ∧ relSend.window.inWindow a = true) from fun hc => by omega)]
    exact hS.unsent id hid
  · intro id hid hor
    by_cases hlow : id < relSend.window.headId
    · exact hS.released id hid (Or.inl hlow)
    · have hge := Nat.le_of_not_lt hlow
      by_cases hnext : id < (relSend.window.rmById a).headId
      · rcases hpassed id hge hnext with ⟨rfl, -⟩ | herased
        · exact hgot
        · exact hS.released id hid (Or.inr herased)
      · have herased := hor.resolve_left hnext
        rw [show ((relSend.ack a).window.message id) = _ from hmessage id (Nat.le_of_not_lt hnext)] at herased
        split at herased
        · rename_i heq
          exact heq.1 ▸ hgot
        · exact hS.released id hid (Or.inr herased)

/-- What is kept after acknowledgements was kept before. -/
lemma Sending.inWindow_of_ack {relSend : ReliableSend Packet} (hS : Sending c c' relSend handed has got) {a id : ℕ}
    (hin : (relSend.ack a).window.inWindow id = true)
    (hp : ((relSend.ack a).window.message id).packet.isSome = true) :
    relSend.window.inWindow id = true ∧ (relSend.window.message id).packet.isSome = true := by
  obtain ⟨hwf, hspan, hhead, hmessage, -⟩ := MessageWindow.rmById_spec hS.wellFormed a
  obtain ⟨hlt, hid, -⟩ := (MessageWindow.inWindow_iff hwf).1 hin
  rw [show ((relSend.ack a).window.message id) = _ from hmessage id hid] at hp
  split at hp
  · exact absurd hp Bool.false_ne_true
  · refine ⟨(MessageWindow.inWindow_iff hS.wellFormed).2 ⟨by omega, hhead.trans hid, ?_⟩, hp⟩
    by_contra hge
    have hnone := (hS.unsent id (hS.next_le.trans (Nat.le_of_not_lt hge))).1
    rw [hnone] at hp
    exact Bool.false_ne_true hp

/-- The peer has acknowledged messages. -/
lemma Sending.foldl_ack {acks : List ℕ} (hS : Sending c c' s.relSend s.handed has got) (hA : Armed s)
    (hacks : ∀ a ∈ acks, a < s.handed.length ∧ got a) :
    Sending c c' (acks.foldl ReliableSend.ack s.relSend) s.handed has got ∧
      Armed { s with relSend := acks.foldl ReliableSend.ack s.relSend } := by
  induction acks generalizing s with
  | nil => exact ⟨hS, hA⟩
  | cons a acks ih =>
    obtain ⟨ha, hgot⟩ := hacks a List.mem_cons_self
    refine ih (s := { s with relSend := s.relSend.ack a }) (hS.ack ha hgot) ?_
      fun b hb => hacks b (List.mem_cons_of_mem _ hb)
    intro id hin hp
    obtain ⟨hin', hp'⟩ := hS.inWindow_of_ack hin hp
    exact hA id hin' hp'

/-- A message that was handed in at the other side is received. -/
lemma Receiving.receive (hR : Receiving c s handed) {pkt : Packet} {id : ℕ} (hp : handed[id]? = some pkt) :
    ∃ s', s.receiveMessage pkt id = (s.relRecv.window.inWindow id, s') ∧ Receiving c s' handed ∧
      (∀ id', Got s.relRecv id' → Got s'.relRecv id') ∧
      (s.relRecv.window.inWindow id = true → Got s'.relRecv id) ∧
      s' = { s with relRecv := s'.relRecv, xmitAcks := s'.xmitAcks } ∧
      s'.xmitAcks.maxAckList = s.xmitAcks.maxAckList ∧
      (s.relRecv.window.inWindow id = false → s'.relRecv = s.relRecv) := by
  by_cases hin : s.relRecv.window.inWindow id = true
  · obtain ⟨r', hreceive, hwf, hhead, hspan, hmessage⟩ := ReliableRecv.receive_of_inWindow hR.wellFormed hin pkt
    have hid := ((MessageWindow.inWindow_iff hR.wellFormed).1 hin).2.1
    have hgot : ∀ id', Got s.relRecv id' → Got r' id' := by
      rintro id' (hlt | hsome)
      · exact Or.inl (hhead ▸ hlt)
      · by_cases hlow : id' < s.relRecv.window.headId
        · exact Or.inl (hhead ▸ hlow)
        · refine Or.inr ?_
          rw [hmessage id' (Nat.le_of_not_lt hlow)]
          split
          · rfl
          · exact hsome
    have hnew : Got r' id := Or.inr (by rw [hmessage id hid, if_pos rfl]; rfl)
    refine ⟨{ s with relRecv := r', xmitAcks := { s.xmitAcks with data := s.xmitAcks.data ++ [id] } }, ?_,
      ⟨hwf, hspan.trans hR.span, hhead.trans hR.headId, hR.passedUp, ?_, ?_⟩, hgot, fun _ => hnew, rfl, rfl, ?_⟩
    · rw [ProtoStack.receiveMessage, hreceive, hin]
      rfl
    · intro id' hid' p hp'
      have hid'' : s.relRecv.window.headId ≤ id' := hhead ▸ hid'
      rw [show (r'.window.message id').packet = _ from hmessage id' hid''] at hp'
      split at hp'
      · rename_i heq
        rw [heq, hp]
        exact hp'
      · exact hR.stored id' hid'' p hp'
    · intro a ha
      rcases List.mem_append.1 ha with ha | ha
      · exact hgot a (hR.acks a ha)
      · rw [List.mem_singleton.1 ha]
        exact hnew
    · rw [hin]
      exact fun h => absurd h (by decide)
  · have hreceive := ReliableRecv.receive_of_not_inWindow hin pkt
    have hfalse := Bool.eq_false_iff.2 hin
    by_cases hpre : s.relRecv.window.preWindow id = true
    · refine ⟨{ s with xmitAcks := { s.xmitAcks with data := s.xmitAcks.data ++ [id] } }, ?_,
        ⟨hR.wellFormed, hR.span, hR.headId, hR.passedUp, hR.stored, ?_⟩, fun _ h => h,
        fun h => absurd h hin, rfl, rfl, fun _ => rfl⟩
      · rw [ProtoStack.receiveMessage, hreceive, hfalse, hpre]
        rfl
      · intro a ha
        rcases List.mem_append.1 ha with ha | ha
        · exact hR.acks a ha
        · rw [List.mem_singleton.1 ha]
          exact Or.inl (of_decide_eq_true hpre)
    · refine ⟨s, ?_, hR, fun _ h => h, fun h => absurd h hin, rfl, rfl, fun _ => rfl⟩
      rw [ProtoStack.receiveMessage, hreceive, hfalse, Bool.eq_false_iff.2 hpre]
      rfl

/-- The message that is next goes up. -/
lemma Receiving.advance (hR : Receiving c s handed) (hready : s.relRecv.ready = true) {pkt : Packet}
    (hnext : s.relRecv.nextSequenced = some pkt) :
    Receiving c { s with passedUp := s.passedUp ++ [pkt], relRecv := s.relRecv.advance } handed ∧
      ∀ id, Got s.relRecv id → Got s.relRecv.advance id := by
  obtain ⟨hwf, hspan, hhead, hmessage⟩ := MessageWindow.rmHeadNocheck_spec hR.wellFormed hready
  obtain ⟨pkt', hnext', hstored⟩ := ReliableRecv.nextSequenced_of_ready hready
  obtain rfl : pkt' = pkt := Option.some.inj (hnext'.symm.trans hnext)
  have hgot : ∀ id, Got s.relRecv id → Got s.relRecv.advance id := by
    rintro id (hlt | hsome)
    · exact Or.inl (hhead ▸ Nat.lt_succ_of_lt hlt)
    · rcases Nat.lt_or_ge id (s.relRecv.window.headId + 1) with hlt | hge
      · exact Or.inl (hhead ▸ hlt)
      · exact Or.inr (by rw [show s.relRecv.advance.window.message id = _ from hmessage id hge]; exact hsome)
  refine ⟨⟨hwf, hspan.trans hR.span, ?_, ?_, ?_, fun a ha => hgot a (hR.acks a ha)⟩, hgot⟩
  · rw [List.length_append, ← hR.headId]
    exact hhead
  · obtain ⟨rest, hrest⟩ := hR.passedUp
    have hat := hR.stored _ (Nat.le_refl _) _ hstored
    rw [← hrest, hR.headId, List.getElem?_append_right (Nat.le_refl _), Nat.sub_self] at hat
    cases rest with
    | nil => cases hat
    | cons q rest =>
      obtain rfl : q = pkt' := Option.some.inj hat
      exact ⟨rest, by rw [List.append_assoc]; exact hrest⟩
  · intro id hid p hp
    have hid' : s.relRecv.window.headId + 1 ≤ id := hhead ▸ hid
    rw [show s.relRecv.advance.window.message id = _ from hmessage id hid'] at hp
    exact hR.stored id (by omega) p hp

/-- The loop of `up_sequenced`. -/
lemma Receiving.upSequencedLoop (n : ℕ) (hR : Receiving c s handed) :
    ∃ s', ProtoStack.upSequencedLoop n s = s' ∧ Receiving c s' handed ∧
      (∀ id, Got s.relRecv id → Got s'.relRecv id) ∧
      s' = { s with relRecv := s'.relRecv, passedUp := s'.passedUp } ∧
      (s.relRecv.window.q.length ≤ n → Drained s') := by
  induction n generalizing s with
  | zero =>
    refine ⟨s, rfl, hR, fun _ h => h, rfl, fun hlen _ hready => ?_⟩
    rw [ReliableRecv.ready, MessageWindow.headDefined, List.length_eq_zero_iff.1 (Nat.le_zero.1 hlen)] at hready
    exact Bool.false_ne_true hready
  | succ n ih =>
    rw [ProtoStack.upSequencedLoop]
    by_cases hready : s.relRecv.ready = true
    swap
    · rw [if_neg hready]
      exact ⟨s, rfl, hR, fun _ h => h, rfl, fun _ _ => hready⟩
    obtain ⟨pkt, hnext, -⟩ := ReliableRecv.nextSequenced_of_ready hready
    rw [if_pos hready, hnext]
    dsimp only
    split
    swap
    · rename_i hwait
      refine ⟨s, rfl, hR, fun _ h => h, rfl, fun _ hstarted => absurd ?_ hwait⟩
      rw [hstarted, Bool.or_true]
    obtain ⟨hR', hgot⟩ := hR.advance hready hnext
    obtain ⟨s', hs', hR'', hgot', hframe, hdrained⟩ := ih hR'
    refine ⟨s', hs', hR'', fun id h => hgot' id (hgot id h), by rw [hframe], fun hlen => hdrained ?_⟩
    rw [show s.relRecv.advance.window.q = s.relRecv.window.q.tail from rfl, List.length_tail]
    omega

/-- What a packet does where it comes. -/
structure Comes (c c' : KeyConfig) (handed : List Packet) (got : ℕ → Prop) (s s' : ProtoStack) : Prop where
  endpoint : Endpoint c c' s'
  sending : Sending c c' s'.relSend s'.handed (Got s'.relRecv) got
  receiving : Receiving c s' handed
  armed : Armed s'
  drained : Drained s'
  mono : ∀ id, Got s.relRecv id → Got s'.relRecv id
  handed : s'.handed = s.handed
  ciphertext : s'.ciphertext = s.ciphertext
  sslStarted : s'.sslStarted = s.sslStarted

/-- The acknowledgements of a packet have been taken. -/
lemma comes_acks (hE : Endpoint c c' s) (hS : Sending c c' s.relSend s.handed (Got s.relRecv) got)
    (hR : Receiving c s handed) (hA : Armed s) (hD : Drained s) (hlt : ∀ a, got a → a < s.handed.length)
    {acks : List ℕ} (hacks : ∀ a ∈ acks, a < 2 ^ 32 ∧ got a) :
    Comes c c' handed got s
      { s with psidPeer := some c'.psidSelf, relSend := acks.foldl ReliableSend.ack s.relSend } := by
  obtain ⟨hS', hA'⟩ := hS.foldl_ack hA fun a ha => ⟨hlt a (hacks a ha).2, (hacks a ha).2⟩
  exact ⟨⟨hE.maxAckList, Or.inr rfl, fun _ => rfl, hE.valid, hE.queue⟩, hS',
    ⟨hR.wellFormed, hR.span, hR.headId, hR.passedUp, hR.stored, hR.acks⟩, hA', hD, fun _ h => h, rfl, rfl, rfl⟩

lemma comes_ackV1 (hE : Endpoint c c' s) (hS : Sending c c' s.relSend s.handed (Got s.relRecv) got)
    (hR : Receiving c s handed) (hA : Armed s) (hD : Drained s) (hlt : ∀ a, got a → a < s.handed.length)
    {acks : List ℕ} (hacked : Acked c' c got acks .ackV1) :
    Comes c c' handed got s (s.netRecv c (datagram c' c.psidSelf acks .ackV1 [])) := by
  have hnet : s.netRecv c (datagram c' c.psidSelf acks .ackV1 []) =
      { s with psidPeer := some c'.psidSelf, relSend := acks.foldl ReliableSend.ack s.relSend } := by
    rw [ProtoStack.netRecv, packetType_datagram hacked.understood]
    dsimp only
    rw [if_neg (by rw [hE.valid]; exact Bool.false_ne_true), ProtoStack.decapsulate_datagram hE.psidPeer
      (fun a ha => (hacked.acks a ha).1) hacked.length]
    rfl
  rw [hnet]
  exact comes_acks hE hS hR hA hD hlt hacked.acks

/-- **A message comes.**  If it is in the window, the side has it. -/
lemma comes_message (hE : Endpoint c c' s) (hS : Sending c c' s.relSend s.handed (Got s.relRecv) got)
    (hR : Receiving c s handed) (hA : Armed s) (hD : Drained s) (hlt : ∀ a, got a → a < s.handed.length)
    {id : ℕ} {buf : Buffer} (hholds : Holds c' c handed got id buf) :
    Comes c c' handed got s (s.netRecv c buf) ∧
      (s.relRecv.window.inWindow id = true → Got (s.netRecv c buf).relRecv id) := by
  obtain ⟨acks, opcode, payload, rfl, hacked, hne, hid, hp⟩ := hholds
  have hcomes := comes_acks hE hS hR hA hD hlt hacked.acks
  obtain ⟨s₁, hs₁⟩ : ∃ s₁ : ProtoStack,
      { s with psidPeer := some c'.psidSelf, relSend := acks.foldl ReliableSend.ack s.relSend } = s₁ := ⟨_, rfl⟩
  have hrecv : s₁.relRecv = s.relRecv := hs₁ ▸ rfl
  rw [hs₁] at hcomes
  obtain ⟨s₂, hreceive, hR₂, hgot₂, hnew, hframe₂, hmax₂, hout⟩ := hcomes.receiving.receive hp
  have hpeer : s₁.psidPeer = some c'.psidSelf := hs₁ ▸ rfl
  have hE₂ : Endpoint c c' s₂ := by
    rw [hframe₂]
    exact ⟨hmax₂.trans hcomes.endpoint.maxAckList, hcomes.endpoint.psidPeer, fun _ => hpeer, hcomes.endpoint.valid,
      hcomes.endpoint.queue⟩
  have hrel₂ : s₂.relSend = s₁.relSend := by rw [hframe₂]
  have hhanded₂ : s₂.handed = s₁.handed := by rw [hframe₂]
  have hcipher₂ : s₂.ciphertext = s₁.ciphertext := by rw [hframe₂]
  have hstarted₂ : s₂.sslStarted = s₁.sslStarted := by rw [hframe₂]
  have hA₂ : Armed s₂ := by
    rw [hframe₂]
    exact hcomes.armed
  have hS₂ : Sending c c' s₂.relSend s₂.handed (Got s₂.relRecv) got := by
    rw [hrel₂, hhanded₂]
    exact hcomes.sending.mono hgot₂ fun _ h => h
  have hnet : s.netRecv c (datagram c' c.psidSelf acks opcode (prependId payload id)) =
      if s.relRecv.window.inWindow id = true then s₂.upSequenced else s₂ := by
    rw [ProtoStack.netRecv, packetType_datagram hacked.understood]
    dsimp only
    rw [if_neg (by rw [hE.valid]; exact Bool.false_ne_true), ProtoStack.decapsulate_datagram hE.psidPeer
      (fun a ha => (hacked.acks a ha).1) hacked.length, hs₁, ProtoStack.decapsulateControl, if_neg hne,
      readId_prependId hid]
    simp only [hreceive, hrecv]
  by_cases hin : s.relRecv.window.inWindow id = true
  · rw [hnet, if_pos hin]
    obtain ⟨s₃, hs₃, hR₃, hgot₃, hframe₃, hdrained⟩ := hR₂.upSequencedLoop s₂.relRecv.window.q.length
    rw [ProtoStack.upSequenced, hs₃]
    refine ⟨⟨?_, ?_, hR₃, ?_, hdrained (Nat.le_refl _), fun id h => hgot₃ id (hgot₂ id (hrecv ▸ h)), ?_, ?_, ?_⟩,
      fun _ => hgot₃ id (hnew (hrecv ▸ hin))⟩
    · rw [hframe₃]
      exact ⟨hE₂.maxAckList, hE₂.psidPeer, hE₂.acks, hE₂.valid, hE₂.queue⟩
    · have hrel₃ : s₃.relSend = s₂.relSend := by rw [hframe₃]
      have hhanded₃ : s₃.handed = s₂.handed := by rw [hframe₃]
      rw [hrel₃, hhanded₃]
      exact hS₂.mono hgot₃ fun _ h => h
    · rw [hframe₃]
      exact hA₂
    · rw [hframe₃]
      exact hhanded₂.trans hcomes.handed
    · rw [hframe₃]
      exact hcipher₂.trans hcomes.ciphertext
    · rw [hframe₃]
      exact hstarted₂.trans hcomes.sslStarted
  · rw [hnet, if_neg hin]
    have hsame := hout (hrecv ▸ Bool.eq_false_iff.2 hin)
    refine ⟨⟨hE₂, hS₂, hR₂, hA₂, ?_, fun id h => hgot₂ id (hrecv ▸ h), hhanded₂.trans hcomes.handed,
      hcipher₂.trans hcomes.ciphertext, hstarted₂.trans hcomes.sslStarted⟩, fun h => absurd h hin⟩
    rw [Drained, hstarted₂, hsame]
    exact hcomes.drained

end Receive

/-- A side does not have the message that is next. -/
lemma Drained.not_got {s : ProtoStack} (hD : Drained s) (hstarted : s.sslStarted = true) :
    ¬Got s.relRecv s.relRecv.window.headId := by
  rintro (hlt | hsome)
  · exact Nat.lt_irrefl _ hlt
  · exact hD hstarted (MessageWindow.headDefined_iff.2 hsome)

end FreeVPN.ControlChannel
