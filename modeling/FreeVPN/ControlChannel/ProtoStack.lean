import FreeVPN.ControlChannel.Reliable

/-!
# The control channel of a key

`KeyContext` is the control channel of one TLS session: packets go through `ReliableSend` to the network, and
what comes goes through `ReliableRecv` to the TLS object.  Packets are not wrapped (`TLS_PLAIN`).  The TLS object
is not modelled: what it has for the peer is an event, and what it gets is kept in `passedUp`.

* `encapsulate`, `generateAck` — the bytes of a packet;
* `decapsulate` — what is done with the bytes of one;
* `flush`, `sendPendingAcks`, `retransmit`, `netRecv`, `startHandshake` — the operations.
-/

namespace FreeVPN.ControlChannel

/-! ### Packets -/

/-- The opcodes of the control channel. -/
inductive Opcode
  | softResetV1
  | controlV1
  | ackV1
  | hardResetClientV2
  | hardResetServerV2
  | hardResetClientV3
  deriving DecidableEq

/-- The number of an opcode. -/
def Opcode.code : Opcode → Byte
  | .softResetV1 => 3
  | .controlV1 => 4
  | .ackV1 => 5
  | .hardResetClientV2 => 7
  | .hardResetServerV2 => 8
  | .hardResetClientV3 => 10

/-- `op_compose`, in the byte that is pushed. -/
def opCompose (opcode : Opcode) (keyId : Fin 8) : Byte := opcode.code <<< 3 ||| BitVec.ofNat 8 keyId.val

/-- The eight bytes of `ProtoSessionID`, when it is defined. -/
abbrev ProtoSessionID := { id : Buffer // id.length = 8 }

/-- `read` -/
def ProtoSessionID.read (buf : Buffer) : Option (ProtoSessionID × Buffer) :=
  if h : 8 ≤ buf.length then some (⟨buf.take 8, List.length_take_of_le h⟩, buf.drop 8) else none

/-- `Packet`, whose buffer is there. -/
structure Packet where
  opcode : Opcode
  buf : Buffer
  deriving DecidableEq

/-- `is_raw` -/
def Packet.isRaw (pkt : Packet) : Bool := pkt.opcode ≠ .controlV1

/-- What is fixed for a key. -/
structure KeyConfig where
  isServer : Bool
  /-- Over TCP a bad packet ends the session, and nothing is sent again. -/
  isTcp : Bool
  /-- At most `KEY_ID_MASK`. -/
  keyId : Fin 8
  psidSelf : ProtoSessionID
  reliableWindow : ℕ := 4
  maxAckList : ℕ := 4
  tlsTimeout : ℕ

/-- `PacketType`, for packets of the control channel with the id of the key. -/
def packetType (c : KeyConfig) (buf : Buffer) : Option Opcode :=
  match buf with
  | [] => none
  | op :: _ =>
    let opcode : Option Opcode :=
      if op >>> 3 = 3 then some .softResetV1
      else if op >>> 3 = 4 then some .controlV1
      else if op >>> 3 = 5 then some .ackV1
      else if op >>> 3 = 7 then if c.isServer then some .hardResetClientV2 else none
      else if op >>> 3 = 10 then if c.isServer then some .hardResetClientV3 else none
      else if op >>> 3 = 8 then if c.isServer then none else some .hardResetServerV2
      else none
    if (op &&& 7).toNat = c.keyId.val then opcode else none

/-- `ProtoStackBase` with what `KeyContext` adds. -/
structure ProtoStack where
  now : ℕ := 0
  relRecv : ReliableRecv Packet
  relSend : ReliableSend Packet
  xmitAcks : ReliableAck
  rawWriteQueue : List Packet := []
  /-- What the TLS object has for the peer. -/
  ciphertext : List Buffer := []
  sslStarted : Bool := false
  psidPeer : Option ProtoSessionID := none
  /-- `none` is never. -/
  nextRetransmit : Option ℕ := none
  invalidated : Bool := false
  /-- What has been handed to the reliability layer, in order. -/
  handed : List Packet := []
  /-- What has been passed up, to `raw_recv` or to the TLS object, in order. -/
  passedUp : List Packet := []

namespace ProtoStack

/-- The constructor. -/
def init (c : KeyConfig) : ProtoStack where
  relRecv := .init c.reliableWindow
  relSend := .init c.reliableWindow
  xmitAcks := { maxAckList := c.maxAckList }

variable (c : KeyConfig) (s : ProtoStack)

/-! ### Bytes that are sent -/

/-- `prepend_dest_psid_and_acks`, which throws `peer_psid_undef`. -/
def prependDestPsidAndAcks (buf : Buffer) : Option (Buffer × ProtoStack) := do
  let buf ← if s.xmitAcks.data = [] then some buf else s.psidPeer.map fun psid => psid.val ++ buf
  let (buf, xmitAcks) := s.xmitAcks.prepend buf
  return (buf, { s with xmitAcks })

/-- `gen_head_tls_plain` -/
def genHead (opcode : Opcode) (buf : Buffer) : Buffer := opCompose opcode c.keyId :: (c.psidSelf.val ++ buf)

/-- `encapsulate` -/
def encapsulate (id : ℕ) (pkt : Packet) : Option (Packet × ProtoStack) := do
  let (buf, s) ← s.prependDestPsidAndAcks (ReliableAck.prependId pkt.buf id)
  return ({ pkt with buf := genHead c pkt.opcode buf }, s)

/-- `generate_ack` -/
def generateAck : Option (Buffer × ProtoStack) := do
  let (buf, s) ← s.prependDestPsidAndAcks []
  return (genHead c .ackV1 buf, s)

/-! ### Down the stack -/

/-- The loop of `down_stack_raw` and that of `down_stack_app`: packets go out while the reliability layer takes
them.  What is left of them is returned, and what is sent. -/
def sendPackets : List Packet → ProtoStack → Option (List Packet × ProtoStack × List Buffer)
  | [], s => some ([], s, [])
  | pkt :: queue, s =>
    if s.relSend.ready then do
      let (id, relSend) ← s.relSend.send s.now c.tlsTimeout
      let s := { s with relSend, handed := s.handed ++ [pkt] }
      let (pkt, s) ← s.encapsulate c id pkt
      let s := { s with relSend := s.relSend.setPacket id pkt }
      let (queue, s, out) ← sendPackets queue s
      return (queue, s, pkt.buf :: out)
    else some (pkt :: queue, s, [])

/-- `down_stack_raw` -/
def downStackRaw : Option (ProtoStack × List Buffer) := do
  let (rawWriteQueue, s, out) ← sendPackets c s.rawWriteQueue s
  return ({ s with rawWriteQueue }, out)

/-- The second half of `down_stack_app`, for what the TLS object has. -/
def downStackApp : Option (ProtoStack × List Buffer) :=
  if s.sslStarted then do
    let (queue, s, out) ← sendPackets c (s.ciphertext.map (Packet.mk .controlV1)) s
    return ({ s with ciphertext := queue.map Packet.buf }, out)
  else some (s, [])

/-- `update_retransmit` -/
def updateRetransmit : Option ProtoStack := do
  let (relSend, wait) ← s.relSend.untilRetransmit s.now s.relSend.ids none
  return { s with relSend, nextRetransmit := wait.map (s.now + ·) }

/-- `flush` of `ProtoStackBase`. -/
def flush : Option (ProtoStack × List Buffer) :=
  if s.invalidated then some (s, [])
  else do
    let (s, raw) ← s.downStackRaw c
    let (s, app) ← s.downStackApp c
    let s ← s.updateRetransmit
    return (s, raw ++ app)

/-- The loop of `send_pending_acks`; each turn takes an id at least. -/
def sendAcks : ℕ → ProtoStack → Option (ProtoStack × List Buffer)
  | 0, s => some (s, [])
  | n + 1, s =>
    if s.xmitAcks.data = [] then some (s, [])
    else do
      let (buf, s) ← s.generateAck c
      let (s, out) ← sendAcks n s
      return (s, buf :: out)

/-- `send_pending_acks` -/
def sendPendingAcks : Option (ProtoStack × List Buffer) :=
  if s.invalidated then some (s, []) else sendAcks c s.xmitAcks.data.length s

/-- `retransmit`; packets are sent again over UDP only. -/
def retransmit : Option (ProtoStack × List Buffer) :=
  if ¬s.invalidated ∧ s.nextRetransmit.any (· ≤ s.now) then do
    let (relSend, packets) ← s.relSend.retransmit s.now c.tlsTimeout s.relSend.ids
    let s ← { s with relSend }.updateRetransmit
    return (s, if c.isTcp then [] else packets.map Packet.buf)
  else some (s, [])

/-! ### Up the stack -/

/-- A packet that is bad. -/
def bad : Bool × ProtoStack := (false, { s with invalidated := s.invalidated || c.isTcp })

/-- `verify_src_psid` -/
def verifySrcPsid (psid : ProtoSessionID) : Bool × ProtoStack :=
  match s.psidPeer with
  | some peer => if peer = psid then (true, s) else s.bad c
  | none => (true, { s with psidPeer := some psid })

/-- The end of `decapsulate_tls_plain`: the message goes to the reliability layer. -/
def receiveMessage (pkt : Packet) (id : ℕ) : Bool × ProtoStack :=
  let (flags, relRecv) := s.relRecv.receive pkt id
  let s := { s with relRecv }
  let s := if flags.ackToSender then { s with xmitAcks := { s.xmitAcks with data := s.xmitAcks.data ++ [id] } }
    else s
  (flags.inWindow, s)

/-- `decapsulate_tls_plain` behind the acknowledgements. -/
def decapsulateControl (pkt : Packet) : Bool × ProtoStack :=
  if pkt.opcode = .ackV1 then (false, s)
  else
    match ReliableAck.readId pkt.buf with
    | none => s.bad c
    | some (id, buf) => s.receiveMessage { pkt with buf } id

/-- `decapsulate_tls_plain` from the acknowledgements on. -/
def decapsulateBody (pkt : Packet) : Bool × ProtoStack :=
  let (relSend, acked) := ReliableAck.ack s.relSend pkt.buf true
  let s := { s with relSend }
  match acked with
  | none => s.bad c
  | some (count, buf) =>
    let dest : Option (Option Buffer) :=
      if count = 0 then some (some buf)
      else (ProtoSessionID.read buf).map fun r => if c.psidSelf = r.1 then some r.2 else none
    match dest with
    | some (some buf) => s.decapsulateControl c { pkt with buf }
    | _ => s.bad c

/-- `decapsulate`, with the packet as it comes. -/
def decapsulate (pkt : Packet) : Bool × ProtoStack :=
  match popFront pkt.buf with
  | none => s.bad c
  | some (_, buf) =>
    match ProtoSessionID.read buf with
    | none => s.bad c
    | some (srcPsid, buf) =>
      let (ok, s) := s.verifySrcPsid c srcPsid
      if ok then s.decapsulateBody c { pkt with buf } else (false, s)

/-- The loop of `up_sequenced`: packets that are next in the sequence go up.  A packet of the TLS session waits
until it has started. -/
def upSequencedLoop : ℕ → ProtoStack → ProtoStack
  | 0, s => s
  | n + 1, s =>
    match if s.relRecv.ready then s.relRecv.nextSequenced else none with
    | none => s
    | some pkt =>
      if pkt.isRaw || s.sslStarted then
        upSequencedLoop n { s with passedUp := s.passedUp ++ [pkt], relRecv := s.relRecv.advance }
      else s

/-- `up_sequenced`; each turn takes a message from the queue. -/
def upSequenced : ProtoStack := upSequencedLoop s.relRecv.window.q.length s

/-- `net_recv`, for a packet of this key. -/
def netRecv (buf : Buffer) : ProtoStack :=
  match packetType c buf with
  | none => s
  | some opcode =>
    if s.invalidated then s
    else
      let (ok, s) := s.decapsulate c { opcode, buf }
      if ok then s.upSequenced else s

/-- `start_handshake` -/
def startHandshake : ProtoStack := if s.invalidated then s else { s with sslStarted := true }.upSequenced

/-- The opcode with which a key starts. -/
def initialOp : Opcode :=
  if c.keyId ≠ 0 then .softResetV1 else if c.isServer then .hardResetServerV2 else .hardResetClientV2

/-- `send_reset` -/
def sendReset : ProtoStack :=
  if s.invalidated then s else { s with rawWriteQueue := s.rawWriteQueue ++ [⟨initialOp c, []⟩] }

end ProtoStack

end FreeVPN.ControlChannel
