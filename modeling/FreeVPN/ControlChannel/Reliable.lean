import FreeVPN.ControlChannel.Buffer
import FreeVPN.ControlChannel.MessageWindow

/-!
# The reliability layer

`ReliableSend` keeps what has been sent until it is acknowledged, `ReliableRecv` puts what comes in order, and
`ReliableAck` keeps the ids that are to be acknowledged and writes them in front of a packet.
-/

namespace FreeVPN.ControlChannel

open WindowMessage

variable {P : Type*}

/-! ### Messages -/

/-- `ReliableMessageBase` -/
structure RecvMessage (P : Type*) where
  id : ℕ := 0
  packet : Option P := none
  erased : Bool := false
  deriving DecidableEq

/-- `ReliableSendTemplate::Message` -/
structure SendMessage (P : Type*) extends RecvMessage P where
  retransmitAt : ℕ := 0
  deriving DecidableEq

instance : WindowMessage (RecvMessage P) where
  fresh := {}
  defined m := m.packet.isSome
  erased m := m.erased
  erase m := { m with id := 0, packet := none, erased := true }
  defined_fresh := rfl
  erased_fresh := rfl
  defined_erase _ := rfl
  erased_erase _ := rfl

instance : WindowMessage (SendMessage P) where
  fresh := {}
  defined m := m.packet.isSome
  erased m := m.erased
  erase m := { m with id := 0, packet := none, erased := true }
  defined_fresh := rfl
  erased_fresh := rfl
  defined_erase _ := rfl
  erased_erase _ := rfl

/-- `ready_retransmit` -/
def SendMessage.readyRetransmit (m : SendMessage P) (now : ℕ) : Bool := m.packet.isSome && m.retransmitAt ≤ now

/-- `until_retransmit` of a message. -/
def SendMessage.untilRetransmit (m : SendMessage P) (now : ℕ) : ℕ :=
  if now < m.retransmitAt then m.retransmitAt - now else 0

/-! ### Sending -/

/-- `ReliableSendTemplate` -/
structure ReliableSend (P : Type*) where
  next : ℕ := 0
  window : MessageWindow (SendMessage P)
  deriving DecidableEq

namespace ReliableSend

/-- `init` -/
def init (span : ℕ) : ReliableSend P := { window := { span } }

variable (s : ReliableSend P)

/-- `ready`: whether the queue is ready to take another packet. -/
def ready : Bool := s.window.inWindow s.next

/-- `send`: the id of the fresh message. -/
def send (now tlsTimeout : ℕ) : Option (ℕ × ReliableSend P) := do
  let (window, m) ← s.window.refById s.next
  return (s.next, {
    next := (s.next + 1) % 2 ^ 32
    window := window.put s.next { m with id := s.next, retransmitAt := now + tlsTimeout } })

/-- The packet of the message that `send` has returned. -/
def setPacket (id : ℕ) (packet : P) : ReliableSend P :=
  { s with window := s.window.put id { s.window.message id with packet := some packet } }

/-- `ack` -/
def ack (id : ℕ) : ReliableSend P := { s with window := s.window.rmById id }

/-- The ids from `head_id` to `tail_id`, over which the loops go. -/
def ids : List ℕ := List.range' s.window.headId (s.window.tailId - s.window.headId)

/-- `until_retransmit`, which is infinite if there is nothing to retransmit. -/
def untilRetransmit (now : ℕ) : List ℕ → ReliableSend P → Option ℕ → Option (ReliableSend P × Option ℕ)
  | [], s, ret => some (s, ret)
  | i :: is, s, ret => do
    let (window, m) ← s.window.refById i
    let ret := if m.packet.isSome then
        let ut := m.untilRetransmit now
        if ret.all (ut < ·) then some ut else ret
      else ret
    untilRetransmit now is { s with window } ret

/-- `n_unacked` -/
def nUnacked : List ℕ → ReliableSend P → ℕ → Option (ReliableSend P × ℕ)
  | [], s, ret => some (s, ret)
  | i :: is, s, ret => do
    let (window, m) ← s.window.refById i
    nUnacked is { s with window } (if m.packet.isSome then ret + 1 else ret)

/-- The loop of `retransmit`, with the packets that are sent again. -/
def retransmit (now tlsTimeout : ℕ) : List ℕ → ReliableSend P → Option (ReliableSend P × List P)
  | [], s => some (s, [])
  | i :: is, s => do
    let (window, m) ← s.window.refById i
    match if m.readyRetransmit now then m.packet else none with
    | some packet =>
      let (s, packets) ← retransmit now tlsTimeout is
        { s with window := window.put i { m with retransmitAt := now + tlsTimeout } }
      return (s, packet :: packets)
    | none => retransmit now tlsTimeout is { s with window }

section

variable {s : ReliableSend P}

lemma mem_ids {i : ℕ} : i ∈ s.ids ↔ s.window.inWindow i = true := by
  rw [ids, List.mem_range'_1, MessageWindow.inWindow, Bool.and_eq_true, decide_eq_true_iff, decide_eq_true_iff]
  omega

/-- What `send` and `setPacket` do, one after the other. -/
lemma send_spec (h : s.window.WellFormed) (hready : s.ready = true) (now tlsTimeout : ℕ) :
    ∃ s', s.send now tlsTimeout = some (s.next, s') ∧ s'.next = s.next + 1 ∧ ∀ packet : P,
      (s'.setPacket s.next packet).window.WellFormed ∧
      (s'.setPacket s.next packet).window.headId = s.window.headId ∧
      (s'.setPacket s.next packet).window.span = s.window.span ∧
      ∀ id, s.window.headId ≤ id → (s'.setPacket s.next packet).window.message id =
        if id = s.next then
          { id, packet := some packet, erased := (s.window.message id).erased, retransmitAt := now + tlsTimeout }
        else s.window.message id := by
  obtain ⟨hlt, hle, hid⟩ := (MessageWindow.inWindow_iff h).1 hready
  have hnext : (s.next + 1) % 2 ^ 32 = s.next + 1 := Nat.mod_eq_of_lt (by omega)
  have hgrow := MessageWindow.wellFormed_grow h hready
  have hlength : s.next - s.window.headId < (s.window.grow s.next).q.length := by
    rw [MessageWindow.length_grow]
    omega
  refine ⟨_, by rw [send, MessageWindow.refById_eq hready]; rfl, hnext, fun packet => ?_⟩
  refine ⟨MessageWindow.wellFormed_put (MessageWindow.wellFormed_put hgrow _ _) _ _, rfl, rfl, fun id hid' => ?_⟩
  have hlength' := hlength
  rw [setPacket, MessageWindow.message_put (by exact hle) (by simpa [MessageWindow.put] using hlength) _
      (by exact hid'), MessageWindow.message_put (by exact hle) hlength _ (by exact hle),
    MessageWindow.message_put (by exact hle) hlength _ (by exact hid')]
  by_cases hid'' : id = s.next
  · simp [hid'']
  · simp [hid'']

/-- The same messages, apart from the times at which they are sent again. -/
structure Same (s s' : ReliableSend P) : Prop where
  wellFormed : s'.window.WellFormed
  next : s'.next = s.next
  headId : s'.window.headId = s.window.headId
  span : s'.window.span = s.window.span
  packet : ∀ id, s.window.headId ≤ id → (s'.window.message id).packet = (s.window.message id).packet
  erased : ∀ id, s.window.headId ≤ id → (s'.window.message id).erased = (s.window.message id).erased

lemma Same.refl (h : s.window.WellFormed) : Same s s :=
  ⟨h, rfl, rfl, rfl, fun _ _ => rfl, fun _ _ => rfl⟩

lemma Same.trans {s s' s'' : ReliableSend P} (h : Same s s') (h' : Same s' s'') : Same s s'' where
  wellFormed := h'.wellFormed
  next := h'.next.trans h.next
  headId := h'.headId.trans h.headId
  span := h'.span.trans h.span
  packet id hid := (h'.packet id (h.headId ▸ hid)).trans (h.packet id hid)
  erased id hid := (h'.erased id (h.headId ▸ hid)).trans (h.erased id hid)

lemma Same.inWindow {s' : ReliableSend P} (h : Same s s') (id : ℕ) :
    s'.window.inWindow id = s.window.inWindow id := by
  rw [MessageWindow.inWindow, MessageWindow.inWindow, MessageWindow.tailId, MessageWindow.tailId, h.headId, h.span]

/-- The window has grown. -/
lemma same_grow (h : s.window.WellFormed) {i : ℕ} (hi : s.window.inWindow i = true) :
    Same s { s with window := s.window.grow i } where
  wellFormed := MessageWindow.wellFormed_grow h hi
  next := rfl
  headId := rfl
  span := rfl
  packet id _ := congrArg (·.packet) (MessageWindow.message_grow (w := s.window) i id)
  erased id _ := congrArg (·.erased) (MessageWindow.message_grow (w := s.window) i id)

/-- The window has grown, and a message is sent again later. -/
lemma same_put (h : s.window.WellFormed) {i : ℕ} (hi : s.window.inWindow i = true) (t : ℕ) :
    Same s { s with window := (s.window.grow i).put i { s.window.message i with retransmitAt := t } } where
  wellFormed := MessageWindow.wellFormed_put (MessageWindow.wellFormed_grow h hi) _ _
  next := rfl
  headId := rfl
  span := rfl
  packet id hid := by
    rw [MessageWindow.message_grow_put h hi _ hid]
    split
    · rename_i heq
      rw [heq]
    · rfl
  erased id hid := by
    rw [MessageWindow.message_grow_put h hi _ hid]
    split
    · rename_i heq
      rw [heq]
    · rfl

lemma untilRetransmit_spec {is : List ℕ} (h : s.window.WellFormed) (his : ∀ i ∈ is, s.window.inWindow i = true)
    (now : ℕ) (ret : Option ℕ) :
    ∃ s' ret', untilRetransmit now is s ret = some (s', ret') ∧ Same s s' ∧
      (ret.isSome = true ∨ (∃ i ∈ is, (s.window.message i).packet.isSome = true) → ret'.isSome = true) := by
  induction is generalizing s ret with
  | nil => exact ⟨s, ret, rfl, Same.refl h, by simp⟩
  | cons i is ih =>
    have hi := his i List.mem_cons_self
    have hsame := same_grow h hi
    obtain ⟨s', ret', hrun, hsame', hsome⟩ := ih hsame.wellFormed
      (fun j hj => (hsame.inWindow j).trans (his j (List.mem_cons_of_mem _ hj)))
      (if (s.window.message i).packet.isSome then
        if ret.all ((s.window.message i).untilRetransmit now < ·) then
          some ((s.window.message i).untilRetransmit now) else ret
      else ret)
    refine ⟨s', ret', ?_, hsame.trans hsame', ?_⟩
    · rw [untilRetransmit, MessageWindow.refById_eq hi]
      exact hrun
    · intro hor
      refine hsome ?_
      simp only [MessageWindow.message_grow]
      rcases hor with hret | ⟨j, hj, hjd⟩
      · refine Or.inl ?_
        split
        · split
          · rfl
          · exact hret
        · exact hret
      · rcases List.mem_cons.1 hj with rfl | hj
        · refine Or.inl ?_
          rw [if_pos hjd]
          cases ret with
          | none => rfl
          | some r => split <;> rfl
        · exact Or.inr ⟨j, hj, hjd⟩

lemma retransmit_spec {is : List ℕ} (h : s.window.WellFormed) (his : ∀ i ∈ is, s.window.inWindow i = true)
    (hnd : is.Nodup) (now tlsTimeout : ℕ) :
    ∃ s' packets, retransmit now tlsTimeout is s = some (s', packets) ∧ Same s s' ∧
      (∀ p ∈ packets, ∃ i ∈ is, (s.window.message i).packet = some p) ∧
      ∀ i ∈ is, ∀ p, (s.window.message i).packet = some p → (s.window.message i).retransmitAt ≤ now →
        p ∈ packets := by
  induction is generalizing s with
  | nil => exact ⟨s, [], rfl, Same.refl h, by simp, by simp⟩
  | cons i is ih =>
    have hi := his i List.mem_cons_self
    have hle := ((MessageWindow.inWindow_iff h).1 hi).2.1
    obtain ⟨hnot, hnd⟩ := List.nodup_cons.1 hnd
    have hrest : ∀ j ∈ is, s.window.headId ≤ j := fun j hj =>
      ((MessageWindow.inWindow_iff h).1 (his j (List.mem_cons_of_mem _ hj))).2.1
    rw [retransmit, MessageWindow.refById_eq hi]
    dsimp only [Option.bind_eq_bind, Option.bind_some]
    split
    · rename_i packet hpacket
      rw [ite_eq_iff] at hpacket
      obtain ⟨hready, hpacket⟩ | ⟨-, hnone⟩ := hpacket
      swap
      · exact absurd hnone (by simp)
      have hsame := same_put h hi (now + tlsTimeout)
      obtain ⟨s', packets, hrun, hsame', hmem, hall⟩ := ih hsame.wellFormed
        (fun j hj => (hsame.inWindow j).trans (his j (List.mem_cons_of_mem _ hj))) hnd
      have hmessage : ∀ j ∈ is,
          ((s.window.grow i).put i { s.window.message i with retransmitAt := now + tlsTimeout }).message j =
            s.window.message j := fun j hj => by
        rw [MessageWindow.message_grow_put h hi _ (hrest j hj), if_neg (show ¬j = i from fun hc => hnot (hc ▸ hj))]
      refine ⟨s', packet :: packets, by rw [hrun]; rfl, hsame.trans hsame', ?_, ?_⟩
      · intro p hp
        rcases List.mem_cons.1 hp with rfl | hp
        · exact ⟨i, List.mem_cons_self, hpacket⟩
        · obtain ⟨j, hj, hjp⟩ := hmem p hp
          exact ⟨j, List.mem_cons_of_mem _ hj, by rw [← hmessage j hj]; exact hjp⟩
      · intro j hj p hp hdue
        rcases List.mem_cons.1 hj with rfl | hj
        · rw [hpacket] at hp
          rw [Option.some.inj hp]
          exact List.mem_cons_self
        · rw [← hmessage j hj] at hp hdue
          exact List.mem_cons_of_mem _ (hall j hj p hp hdue)
    · rename_i hnone
      have hsame := same_grow h hi
      obtain ⟨s', packets, hrun, hsame', hmem, hall⟩ := ih hsame.wellFormed
        (fun j hj => (hsame.inWindow j).trans (his j (List.mem_cons_of_mem _ hj))) hnd
      simp only [MessageWindow.message_grow] at hmem hall
      refine ⟨s', packets, hrun, hsame.trans hsame', ?_, ?_⟩
      · intro p hp
        obtain ⟨j, hj, hjp⟩ := hmem p hp
        exact ⟨j, List.mem_cons_of_mem _ hj, hjp⟩
      · intro j hj p hp hdue
        rcases List.mem_cons.1 hj with rfl | hj
        · simp [SendMessage.readyRetransmit, hp, hdue] at hnone
        · exact hall j hj p hp hdue

end

end ReliableSend

/-! ### Receiving -/

/-- `ReliableRecvTemplate` -/
structure ReliableRecv (P : Type*) where
  window : MessageWindow (RecvMessage P)
  deriving DecidableEq

/-- The flags of `receive`. -/
structure ReceiveFlags where
  ackToSender : Bool
  inWindow : Bool
  deriving DecidableEq

namespace ReliableRecv

/-- `init` -/
def init (span : ℕ) : ReliableRecv P := { window := { span } }

variable (r : ReliableRecv P)

/-- `receive` -/
def receive (packet : P) (id : ℕ) : ReceiveFlags × ReliableRecv P :=
  match r.window.refById id with
  | some (window, m) => (⟨true, true⟩, { window := window.put id { m with id, packet := some packet } })
  | none => (⟨r.window.preWindow id, false⟩, r)

/-- `ready` -/
def ready : Bool := r.window.headDefined

/-- `next_sequenced` -/
def nextSequenced : Option P := r.window.q.head?.bind RecvMessage.packet

/-- `advance` -/
def advance : ReliableRecv P := { window := r.window.rmHeadNocheck }

section

variable {r : ReliableRecv P}

lemma receive_of_inWindow (h : r.window.WellFormed) {id : ℕ} (hin : r.window.inWindow id = true) (packet : P) :
    ∃ r', r.receive packet id = (⟨true, true⟩, r') ∧ r'.window.WellFormed ∧
      r'.window.headId = r.window.headId ∧ r'.window.span = r.window.span ∧
      ∀ id', r.window.headId ≤ id' → (r'.window.message id').packet =
        if id' = id then some packet else (r.window.message id').packet := by
  have hreceive : r.receive packet id = (⟨true, true⟩, {
      window := (r.window.grow id).put id { r.window.message id with id, packet := some packet } }) := by
    rw [receive, MessageWindow.refById_eq hin]
  refine ⟨_, hreceive, ?_, rfl, rfl, ?_⟩
  · exact MessageWindow.wellFormed_put (MessageWindow.wellFormed_grow h hin) _ _
  · intro id' hid'
    rw [MessageWindow.message_grow_put h hin _ hid']
    split <;> rfl

lemma receive_of_not_inWindow {id : ℕ} (hin : ¬r.window.inWindow id = true) (packet : P) :
    r.receive packet id = (⟨r.window.preWindow id, false⟩, r) := by
  rw [receive, MessageWindow.refById, if_neg hin]

lemma nextSequenced_of_ready (h : r.ready = true) :
    ∃ packet, r.nextSequenced = some packet ∧ (r.window.message r.window.headId).packet = some packet := by
  obtain ⟨packet, hp⟩ := Option.isSome_iff_exists.1 (MessageWindow.headDefined_iff.1 h)
  refine ⟨packet, ?_, hp⟩
  rw [nextSequenced, ← hp, MessageWindow.message, Nat.sub_self]
  cases hq : r.window.q with
  | nil => simp [ready, MessageWindow.headDefined, hq] at h
  | cons m q => rfl

end

end ReliableRecv

/-! ### Acknowledgements -/

/-- `ReliableAck`; a maximum of zero means that there is none. -/
structure ReliableAck where
  maxAckList : ℕ
  data : List ℕ := []
  deriving DecidableEq

namespace ReliableAck

/-- `prepend_id` -/
def prependId (buf : Buffer) (id : ℕ) : Buffer := htonl (BitVec.ofNat 32 id) ++ buf

/-- `read_id` -/
def readId (buf : Buffer) : Option (ℕ × Buffer) := (readNtohl buf).map fun r => (r.1.toNat, r.2)

/-- How many ids a packet takes. -/
def batch (a : ReliableAck) : ℕ := if a.maxAckList = 0 then a.data.length else min a.data.length a.maxAckList

/-- `prepend` -/
def prepend (a : ReliableAck) (buf : Buffer) : Buffer × ReliableAck :=
  (BitVec.ofNat 8 a.batch :: (a.data.take a.batch).foldr (fun id buf => prependId buf id) buf,
    { a with data := a.data.drop a.batch })

/-- The loop of `ack`.  What has been read stays acknowledged when the buffer ends too early. -/
def ackIds : ℕ → ReliableSend P → Buffer → Bool → ReliableSend P × Option Buffer
  | 0, relSend, buf, _ => (relSend, some buf)
  | n + 1, relSend, buf, live =>
    match readId buf with
    | none => (relSend, none)
    | some (id, buf) => ackIds n (if live then relSend.ack id else relSend) buf live

/-- `ack`: the number of ids that have been read, and what is left of the buffer. -/
def ack (relSend : ReliableSend P) (buf : Buffer) (live : Bool) : ReliableSend P × Option (ℕ × Buffer) :=
  match popFront buf with
  | none => (relSend, none)
  | some (len, buf) =>
    let (relSend, buf) := ackIds len.toNat relSend buf live
    (relSend, buf.map fun buf => (len.toNat, buf))

section

variable {s : ReliableSend P} {a : ReliableAck}

/-- The bytes of a list of ids. -/
def idBytes (ids : List ℕ) (buf : Buffer) : Buffer := ids.foldr (fun id buf => prependId buf id) buf

lemma readId_prependId {id : ℕ} (h : id < 2 ^ 32) (buf : Buffer) : readId (prependId buf id) = some (id, buf) := by
  rw [readId, prependId, readNtohl_htonl, Option.map_some, BitVec.toNat_ofNat, Nat.mod_eq_of_lt h]

lemma ackIds_idBytes {ids : List ℕ} (h : ∀ id ∈ ids, id < 2 ^ 32) (buf : Buffer) :
    ackIds ids.length s (idBytes ids buf) true = (ids.foldl ReliableSend.ack s, some buf) := by
  induction ids generalizing s with
  | nil => rfl
  | cons id ids ih =>
    rw [List.length_cons, ackIds, idBytes, List.foldr_cons, readId_prependId (h id List.mem_cons_self)]
    exact ih fun id hid => h id (List.mem_cons_of_mem _ hid)

/-- The acknowledgements in front of a packet are read as they were written. -/
lemma ack_cons_idBytes {ids : List ℕ} (h : ∀ id ∈ ids, id < 2 ^ 32) (hlen : ids.length < 2 ^ 8) (buf : Buffer) :
    ack s (BitVec.ofNat 8 ids.length :: idBytes ids buf) true =
      (ids.foldl ReliableSend.ack s, some (ids.length, buf)) := by
  have hcount : (BitVec.ofNat 8 ids.length).toNat = ids.length := by
    rw [BitVec.toNat_ofNat, Nat.mod_eq_of_lt hlen]
  rw [ack, popFront_cons]
  simp only [hcount, ackIds_idBytes h, Option.map_some]

lemma batch_le : a.batch ≤ a.data.length := by
  unfold batch
  split
  · exact Nat.le_refl _
  · exact Nat.min_le_left _ _

lemma batch_pos (h : a.data ≠ []) : 0 < a.batch := by
  have := List.length_pos_iff.2 h
  unfold batch
  split <;> omega

lemma batch_le_max (h : 0 < a.maxAckList) : a.batch ≤ a.maxAckList := by
  rw [batch, if_neg (by omega)]
  exact Nat.min_le_right _ _

end

end ReliableAck

end FreeVPN.ControlChannel
