import FreeVPN.Lib.Runs
import FreeVPN.ControlChannel.Endpoint

/-!
# Delivery over the control channel

The control channels of a key at the client and at the server, with a network between them that loses packets,
hands them over more than once and in any order, but makes none up.

* `ControlChannels.step` — one event at one side;
* `Inv` — what holds of both sides and of all that is on the wire, and `inv_step`: every event preserves it;
* `passedUp_prefix`, `ciphertext_prefix` — what is passed up at a side is a beginning of what was handed in at the
  other, and what the TLS object gets of what the other one had;
* `not_lost` — nothing is let go before the other side has it;
* `exists_delivery` — after any run all that was handed in can be delivered, even if all that is on its way is lost.
-/

namespace FreeVPN.ControlChannel

open FreeVPN.Lib ReliableAck

inductive Side
  | client
  | server
  deriving DecidableEq

def Side.other : Side → Side
  | .client => .server
  | .server => .client

@[simp] lemma Side.other_other (x : Side) : x.other.other = x := by cases x <;> rfl

lemma Side.other_ne (x : Side) : x.other ≠ x := by cases x <;> decide

/-- Both control channels, and all that has been sent to each side. -/
structure ControlChannels where
  stack : Side → ProtoStack
  wire : Side → List Buffer := fun _ => []

/-- What happens at a side. -/
inductive ChannelEvent
  | sendReset
  /-- The TLS object has something for the peer. -/
  | ciphertext (buf : Buffer)
  | startHandshake
  | flush
  | sendPendingAcks
  | retransmit
  | wait (time : ℕ)
  /-- Something that was sent to the side comes. -/
  | deliver (buf : Buffer)

namespace ControlChannels

/-- A side is in a new state, and has sent packets. -/
def emit (sys : ControlChannels) (x : Side) (r : ProtoStack × List Buffer) : ControlChannels where
  stack := fun y => if y = x then r.1 else sys.stack y
  wire := fun y => if y = x.other then sys.wire y ++ r.2 else sys.wire y

/-- One event at one side.  There is no state after an exception, nor if a packet would come that was not sent. -/
def step (c : Side → KeyConfig) (sys : ControlChannels) (e : Side × ChannelEvent) : Option ControlChannels :=
  let s := sys.stack e.1
  match e.2 with
  | .sendReset => some (sys.emit e.1 (s.sendReset (c e.1), []))
  | .ciphertext buf => some (sys.emit e.1 ({ s with ciphertext := s.ciphertext ++ [buf] }, []))
  | .startHandshake => some (sys.emit e.1 (s.startHandshake, []))
  | .flush => (s.flush (c e.1)).map (sys.emit e.1)
  | .sendPendingAcks => (s.sendPendingAcks (c e.1)).map (sys.emit e.1)
  | .retransmit => (s.retransmit (c e.1)).map (sys.emit e.1)
  | .wait time => some (sys.emit e.1 ({ s with now := s.now + time }, []))
  | .deliver buf => if buf ∈ sys.wire e.1 then some (sys.emit e.1 (s.netRecv (c e.1) buf, [])) else none

/-- Nothing has happened. -/
def init (c : Side → KeyConfig) : ControlChannels where
  stack x := .init (c x)

end ControlChannels

/-- **The invariant** of both sides and of all that is on the wire. -/
structure Inv (c : Side → KeyConfig) (sys : ControlChannels) : Prop where
  endpoint : ∀ x, Endpoint (c x) (c x.other) (sys.stack x)
  sending : ∀ x, Sending (c x) (c x.other) (sys.stack x).relSend (sys.stack x).handed (Got (sys.stack x).relRecv)
    (Got (sys.stack x.other).relRecv)
  receiving : ∀ x, Receiving (c x) (sys.stack x) (sys.stack x.other).handed
  armed : ∀ x, Armed (sys.stack x)
  drained : ∀ x, Drained (sys.stack x)
  carried : ∀ x, ∀ buf ∈ sys.wire x.other,
    Carried (c x) (c x.other) (sys.stack x).handed (Got (sys.stack x).relRecv) buf

/-- The two sides of a key. -/
structure Paired (c : Side → KeyConfig) : Prop where
  client : (c .client).isServer = false
  server : (c .server).isServer = true
  keyId : (c .client).keyId = (c .server).keyId
  reliableWindow : (c .client).reliableWindow = (c .server).reliableWindow
  window_lt : (c .client).reliableWindow < 2 ^ 32
  maxAckList : ∀ x, 0 < (c x).maxAckList ∧ (c x).maxAckList < 2 ^ 8

/-- What one side does does not disturb the other. -/
lemma Inv.emit {c : Side → KeyConfig} {sys : ControlChannels} (h : Inv c sys) {x : Side} {s' : ProtoStack}
    {out : List Buffer} (hE : Endpoint (c x) (c x.other) s')
    (hS : Sending (c x) (c x.other) s'.relSend s'.handed (Got s'.relRecv) (Got (sys.stack x.other).relRecv))
    (hR : Receiving (c x) s' (sys.stack x.other).handed) (hA : Armed s') (hD : Drained s')
    (hC : ∀ buf ∈ out, Carried (c x) (c x.other) s'.handed (Got s'.relRecv) buf)
    (hgot : ∀ id, Got (sys.stack x).relRecv id → Got s'.relRecv id) (hhanded : (sys.stack x).handed <+: s'.handed) :
    Inv c (sys.emit x (s', out)) := by
  have hx : (sys.emit x (s', out)).stack x = s' := if_pos rfl
  have hy : (sys.emit x (s', out)).stack x.other = sys.stack x.other := if_neg x.other_ne
  have hwx : (sys.emit x (s', out)).wire x = sys.wire x := if_neg x.other_ne.symm
  have hwy : (sys.emit x (s', out)).wire x.other = sys.wire x.other ++ out := if_pos rfl
  have hside : ∀ z, z = x ∨ z = x.other := fun z => by cases z <;> cases x <;> simp [Side.other]
  refine ⟨fun z => ?_, fun z => ?_, fun z => ?_, fun z => ?_, fun z => ?_, fun z => ?_⟩
  · rcases hside z with rfl | rfl
    · rw [hx]
      exact hE
    · rw [hy]
      exact h.endpoint _
  · rcases hside z with rfl | rfl
    · rw [hx, hy]
      exact hS
    · rw [Side.other_other, hx, hy]
      have := h.sending x.other
      rw [Side.other_other] at this
      exact this.mono (fun _ => id) hgot
  · rcases hside z with rfl | rfl
    · rw [hx, hy]
      exact hR
    · rw [Side.other_other, hx, hy]
      have := h.receiving x.other
      rw [Side.other_other] at this
      exact this.mono hhanded
  · rcases hside z with rfl | rfl
    · rw [hx]
      exact hA
    · rw [hy]
      exact h.armed _
  · rcases hside z with rfl | rfl
    · rw [hx]
      exact hD
    · rw [hy]
      exact h.drained _
  · rcases hside z with rfl | rfl
    · rw [hx, hwy]
      intro buf hbuf
      rcases List.mem_append.1 hbuf with hbuf | hbuf
      · exact (h.carried z buf hbuf).mono hhanded hgot
      · exact hC buf hbuf
    · rw [Side.other_other, hy, hwx]
      have := h.carried x.other
      rw [Side.other_other] at this
      exact this

/-! ### The two sides of a key -/

lemma opCompose_shift (opcode : Opcode) : ∀ keyId : Fin 8, opCompose opcode keyId >>> 3 = opcode.code := by
  cases opcode <;> decide

lemma opCompose_and (opcode : Opcode) : ∀ keyId : Fin 8, (opCompose opcode keyId &&& 7).toNat = keyId.val := by
  cases opcode <;> decide

/-- What a side sends with is known to the other. -/
lemma Paired.understood {c : Side → KeyConfig} (h : Paired c) (x : Side) {opcode : Opcode}
    (hop : opcode = ProtoStack.initialOp (c x) ∨ opcode = .controlV1 ∨ opcode = .ackV1) :
    Understood (c x) (c x.other) opcode := by
  have hkey : (c x.other).keyId = (c x).keyId := by
    cases x
    · exact h.keyId.symm
    · exact h.keyId
  rw [Understood, packetType]
  simp only [opCompose_shift, opCompose_and, hkey, if_true]
  rcases hop with rfl | rfl | rfl
  · unfold ProtoStack.initialOp
    split
    · rfl
    · cases x
      · simp [h.client, h.server, Side.other, Opcode.code]
      · simp [h.client, h.server, Side.other, Opcode.code]
  · rfl
  · rfl

lemma Paired.window {c : Side → KeyConfig} (h : Paired c) (x : Side) :
    (c x.other).reliableWindow = (c x).reliableWindow := by
  cases x
  · exact h.reliableWindow.symm
  · exact h.reliableWindow

/-! ### Runs -/

section Run

variable {c : Side → KeyConfig} {sys sys' : ControlChannels}

/-- The results about a side, when the other is in the state it is. -/
lemma Inv.lt_of_got (h : Inv c sys) (x : Side) {a : ℕ} (ha : Got (sys.stack x.other).relRecv a) :
    a < (sys.stack x).handed.length := by
  have hR := h.receiving x.other
  rw [Side.other_other] at hR
  exact hR.lt_of_got ha

lemma Inv.lt_of_acks (h : Inv c sys) (x : Side) :
    ∀ a ∈ (sys.stack x).xmitAcks.data, a < 2 ^ 32 ∧ Got (sys.stack x).relRecv a := by
  intro a ha
  have hgot := (h.receiving x).acks a ha
  exact ⟨((h.receiving x).lt_of_got hgot).trans (h.sending x.other).next_lt, hgot⟩

/-- An operation that sends preserves the invariant. -/
lemma Inv.of_sends (h : Inv c sys) {x : Side} {r : Option (ProtoStack × List Buffer)}
    (hr : Sends (c x) (c x.other) (Got (sys.stack x).relRecv) (Got (sys.stack x.other).relRecv) (sys.stack x) r) :
    ∃ s' out, r = some (s', out) ∧ Inv c (sys.emit x (s', out)) ∧ stream s' = stream (sys.stack x) := by
  obtain ⟨s', out, hrun, hE, hS, hquiet, hA, hprefix, hstream, hcarried⟩ := hr
  refine ⟨s', out, hrun, h.emit hE ?_ (hquiet.receiving (h.receiving x)) hA (hquiet.drained (h.drained x)) ?_ ?_
    hprefix, hstream⟩
  · rw [hquiet.relRecv]
    exact hS
  · rw [hquiet.relRecv]
    exact hcarried
  · rw [hquiet.relRecv]
    exact fun _ h => h

lemma Inv.of_comes (h : Inv c sys) {x : Side} {s' : ProtoStack}
    (hs' : Comes (c x) (c x.other) (sys.stack x.other).handed (Got (sys.stack x.other).relRecv) (sys.stack x) s') :
    Inv c (sys.emit x (s', [])) :=
  h.emit hs'.endpoint hs'.sending hs'.receiving hs'.armed hs'.drained (by simp) hs'.mono (hs'.handed ▸ List.prefix_refl _)

/-- The TLS session starts. -/
lemma comes_startHandshake (h : Inv c sys) (x : Side) :
    Inv c (sys.emit x ((sys.stack x).startHandshake, [])) ∧ (sys.stack x).startHandshake.sslStarted = true ∧
      (sys.stack x).startHandshake.handed = (sys.stack x).handed ∧
      stream (sys.stack x).startHandshake = stream (sys.stack x) := by
  have hE := h.endpoint x
  have hR : Receiving (c x) { sys.stack x with sslStarted := true } (sys.stack x.other).handed :=
    ⟨(h.receiving x).wellFormed, (h.receiving x).span, (h.receiving x).headId, (h.receiving x).passedUp,
      (h.receiving x).stored, (h.receiving x).acks⟩
  obtain ⟨s', hs', hR', hgot, hframe, hdrained⟩ := hR.upSequencedLoop (sys.stack x).relRecv.window.q.length
  have hstart : (sys.stack x).startHandshake = s' := by
    rw [ProtoStack.startHandshake, if_neg (by rw [hE.valid]; exact Bool.false_ne_true), ← hs']
    rfl
  have hrel : s'.relSend = (sys.stack x).relSend := by rw [hframe]
  have hhanded : s'.handed = (sys.stack x).handed := by rw [hframe]
  rw [hstart]
  refine ⟨h.emit ?_ ?_ hR' ?_ (hdrained (Nat.le_refl _)) (by simp) hgot (hhanded ▸ List.prefix_refl _), ?_, hhanded,
    ?_⟩
  · rw [hframe]
    exact ⟨hE.maxAckList, hE.psidPeer, hE.acks, hE.valid, hE.queue⟩
  · rw [hrel, hhanded]
    exact (h.sending x).mono hgot fun _ h => h
  · rw [hframe]
    exact h.armed x
  · rw [hframe]
  · rw [hframe]
    rfl

/-- What the TLS object of a side has for the peer with an event. -/
def offered (x : Side) : Side × ChannelEvent → List Buffer
  | (y, .ciphertext buf) => if y = x then [buf] else []
  | _ => []

/-- Nothing is offered to the streams, and that of the side stays as it is. -/
lemma stream_emit {x : Side} {s' : ProtoStack} {out : List Buffer} (hs' : stream s' = stream (sys.stack x)) (z : Side) :
    stream ((sys.emit x (s', out)).stack z) = stream (sys.stack z) ++ [] := by
  rw [List.append_nil]
  by_cases hz : z = x
  · rw [hz, ← hs']
    exact congrArg stream (if_pos rfl)
  · exact congrArg stream (if_neg hz)

/-- **One event.**  It does not throw, unless a packet that was never sent would come, and preserves the invariant. -/
lemma inv_step (hc : Paired c) (h : Inv c sys) (e : Side × ChannelEvent)
    (hsent : ∀ buf, e.2 = .deliver buf → buf ∈ sys.wire e.1) :
    ∃ sys', ControlChannels.step c sys e = some sys' ∧ Inv c sys' ∧
      ∀ z, stream (sys'.stack z) = stream (sys.stack z) ++ offered z e := by
  obtain ⟨x, e⟩ := e
  have hE := h.endpoint x
  have hS := h.sending x
  have hR := h.receiving x
  have hA := h.armed x
  have hD := h.drained x
  cases e with
  | sendReset =>
    refine ⟨_, rfl, ?_⟩
    rw [ProtoStack.sendReset, if_neg (by rw [hE.valid]; exact Bool.false_ne_true)]
    refine ⟨h.emit ⟨hE.maxAckList, hE.psidPeer, hE.acks, hE.valid, ?_⟩ hS
      ⟨hR.wellFormed, hR.span, hR.headId, hR.passedUp, hR.stored, hR.acks⟩ hA hD (by simp) (fun _ h => h)
      (List.prefix_refl _), stream_emit rfl⟩
    intro p hp
    rcases List.mem_append.1 hp with hp | hp
    · exact hE.queue p hp
    · rw [List.mem_singleton.1 hp]
  | ciphertext buf =>
    refine ⟨_, rfl, h.emit ⟨hE.maxAckList, hE.psidPeer, hE.acks, hE.valid, hE.queue⟩ hS
      ⟨hR.wellFormed, hR.span, hR.headId, hR.passedUp, hR.stored, hR.acks⟩ hA hD (by simp) (fun _ h => h)
      (List.prefix_refl _), fun z => ?_⟩
    by_cases hz : z = x
    · have hpush : stream { sys.stack x with ciphertext := (sys.stack x).ciphertext ++ [buf] } =
          stream (sys.stack x) ++ [buf] := (List.append_assoc _ _ _).symm
      rw [hz, offered, if_pos rfl, ← hpush]
      exact congrArg stream (if_pos rfl)
    · rw [offered, if_neg (Ne.symm hz), List.append_nil]
      exact congrArg stream (if_neg hz)
  | startHandshake =>
    obtain ⟨hinv, -, -, hstream⟩ := comes_startHandshake h x
    exact ⟨_, rfl, hinv, stream_emit hstream⟩
  | flush =>
    obtain ⟨s', out, hrun, hinv, hstream⟩ := h.of_sends (sends_flush (hc.maxAckList x)
      (fun opcode hop => hc.understood x (hop.imp_right Or.inl)) hE hS (h.lt_of_acks x))
    exact ⟨_, by rw [ControlChannels.step, hrun]; rfl, hinv, stream_emit hstream⟩
  | sendPendingAcks =>
    obtain ⟨s', out, hrun, hinv, hstream⟩ := h.of_sends (sends_sendPendingAcks (hc.maxAckList x)
      (hc.understood x (Or.inr (Or.inr rfl))) hE hS hA (h.lt_of_acks x))
    exact ⟨_, by rw [ControlChannels.step, hrun]; rfl, hinv, stream_emit hstream⟩
  | retransmit =>
    obtain ⟨s', out, hrun, hinv, hstream⟩ := h.of_sends (sends_retransmit hE hS hA)
    exact ⟨_, by rw [ControlChannels.step, hrun]; rfl, hinv, stream_emit hstream⟩
  | wait time =>
    exact ⟨_, rfl, h.emit ⟨hE.maxAckList, hE.psidPeer, hE.acks, hE.valid, hE.queue⟩ hS
      ⟨hR.wellFormed, hR.span, hR.headId, hR.passedUp, hR.stored, hR.acks⟩ hA hD (by simp) (fun _ h => h)
      (List.prefix_refl _), stream_emit rfl⟩
  | deliver buf =>
    have hmem := hsent buf rfl
    have hcomes : Comes (c x) (c x.other) (sys.stack x.other).handed (Got (sys.stack x.other).relRecv) (sys.stack x)
        ((sys.stack x).netRecv (c x) buf) := by
      have hcarried := h.carried x.other
      rw [Side.other_other] at hcarried
      rcases hcarried buf hmem with ⟨acks, rfl, hacked⟩ | ⟨id, hholds⟩
      · exact comes_ackV1 hE hS hR hA hD (fun a => h.lt_of_got x) hacked
      · exact (comes_message hE hS hR hA hD (fun a => h.lt_of_got x) hholds).1
    exact ⟨_, if_pos hmem, h.of_comes hcomes, stream_emit (by rw [stream, stream, hcomes.handed, hcomes.ciphertext])⟩

lemma sent_of_step {e : Side × ChannelEvent} (hstep : ControlChannels.step c sys e = some sys') (buf : Buffer)
    (he : e.2 = .deliver buf) : buf ∈ sys.wire e.1 := by
  by_contra hnot
  rw [ControlChannels.step, he] at hstep
  simp only [if_neg hnot] at hstep
  cases hstep

lemma inv_init (hc : Paired c) : Inv c (.init c) := by
  have hwin : ∀ x, (c x).reliableWindow < 2 ^ 32 := by
    intro x
    cases x
    · exact hc.window_lt
    · exact hc.reliableWindow ▸ hc.window_lt
  refine ⟨fun x => ⟨rfl, Or.inl rfl, fun h => absurd rfl h, rfl, by simp [ControlChannels.init, ProtoStack.init]⟩,
    fun x => ?_, fun x => ?_, fun x => ?_, fun x h => absurd h Bool.false_ne_true, by simp [ControlChannels.init]⟩
  · refine ⟨⟨hwin x, Nat.two_pow_pos 32, Nat.zero_le _⟩, rfl, rfl, Nat.le_refl _, Nat.zero_le _, Nat.two_pow_pos 32,
      fun id _ h => absurd h (Nat.not_lt_zero _), fun id _ => ⟨rfl, rfl⟩, fun id h => absurd h (Nat.not_lt_zero _)⟩
  · refine ⟨⟨hwin x, Nat.two_pow_pos 32, Nat.zero_le _⟩, rfl, rfl, List.prefix_refl _, fun id _ p hp => ?_,
      by simp [ControlChannels.init, ProtoStack.init]⟩
    cases hp
  · intro id _ hp
    cases hp

lemma inv_run (hc : Paired c) {es : List (Side × ChannelEvent)}
    (hrun : run (ControlChannels.step c) (.init c) es = some sys) : Inv c sys := by
  refine run_invariant_of_step (fun sys e sys' h hstep => ?_) (inv_init hc) hrun
  obtain ⟨sys'', hstep', hinv, -⟩ := inv_step hc h e (sent_of_step hstep)
  obtain rfl : sys'' = sys' := Option.some.inj (hstep'.symm.trans hstep)
  exact hinv

/-- What the TLS object has had for the peer is in the stream. -/
lemma stream_run (hc : Paired c) (h : Inv c sys) {es : List (Side × ChannelEvent)}
    (hrun : run (ControlChannels.step c) sys es = some sys') (x : Side) :
    stream (sys'.stack x) = stream (sys.stack x) ++ es.flatMap (offered x) := by
  induction es generalizing sys with
  | nil =>
    obtain rfl := Option.some.inj hrun
    rw [List.flatMap_nil, List.append_nil]
  | cons e es ih =>
    obtain ⟨sys₁, hstep, hrest⟩ := run_cons.1 hrun
    obtain ⟨sys₂, hstep', hinv, hstream⟩ := inv_step hc h e (sent_of_step hstep)
    obtain rfl : sys₂ = sys₁ := Option.some.inj (hstep'.symm.trans hstep)
    rw [ih hinv hrest, hstream, List.flatMap_cons, List.append_assoc]

/-- A key at a client. -/
def clientKey : KeyConfig where
  isServer := false
  isTcp := false
  keyId := (0#3).toFin
  psidSelf := ⟨[1, 2, 3, 4, 5, 6, 7, 8], rfl⟩
  tlsTimeout := 1024

/-- The same key at a server. -/
def serverKey : KeyConfig where
  isServer := true
  isTcp := false
  keyId := (0#3).toFin
  psidSelf := ⟨[8, 7, 6, 5, 4, 3, 2, 1], rfl⟩
  tlsTimeout := 1024

/-- Two sides. -/
def bothKeys : Side → KeyConfig
  | .client => clientKey
  | .server => serverKey

lemma paired_bothKeys : Paired bothKeys :=
  ⟨rfl, rfl, rfl, rfl, by decide, fun x => by cases x <;> decide⟩

/-- The session is opened, and the client sends what its TLS object has; it has not come yet. -/
def opening : List (Side × ChannelEvent) :=
  [(.client, .sendReset), (.client, .flush),
   (.server, .deliver [56, 1, 2, 3, 4, 5, 6, 7, 8, 0, 0, 0, 0, 0]),
   (.server, .sendReset), (.server, .flush),
   (.client, .deliver [64, 8, 7, 6, 5, 4, 3, 2, 1, 1, 0, 0, 0, 0, 1, 2, 3, 4, 5, 6, 7, 8, 0, 0, 0, 0]),
   (.client, .startHandshake), (.client, .ciphertext [22, 3, 1]), (.client, .flush)]

lemma isSome_opening : (run (ControlChannels.step bothKeys) (.init bothKeys) opening).isSome = true := by
  decide +kernel

/-- The state after it. -/
def opened : ControlChannels := (run (ControlChannels.step bothKeys) (.init bothKeys) opening).get isSome_opening

lemma run_opening : run (ControlChannels.step bothKeys) (.init bothKeys) opening = some opened :=
  (Option.some_get isSome_opening).symm

/-- **Order.**  What a side passes up is a beginning of what was handed in at the other one: no message comes twice,
in another order or with one before it left out, and none is made up. -/
theorem passedUp_prefix (hc : Paired c) {es : List (Side × ChannelEvent)}
    (hrun : run (ControlChannels.step c) (.init c) es = some sys) (x : Side) :
    (sys.stack x).passedUp <+: (sys.stack x.other).handed :=
  ((inv_run hc hrun).receiving x).passedUp

theorem passedUp_prefix_opened : (opened.stack .server).passedUp <+: (opened.stack .client).handed :=
  passedUp_prefix paired_bothKeys run_opening .server

/-- **From TLS to TLS.**  What the TLS object of a side gets is a beginning of what that of the other side had for
it. -/
theorem ciphertext_prefix (hc : Paired c) {es : List (Side × ChannelEvent)}
    (hrun : run (ControlChannels.step c) (.init c) es = some sys) (x : Side) :
    ((sys.stack x).passedUp.filter fun p => !p.isRaw).map Packet.buf <+: es.flatMap (offered x.other) := by
  have hstream := stream_run hc (inv_init hc) hrun x.other
  have hraw : (fun p : Packet => !p.isRaw) = fun p => decide (p.opcode = .controlV1) := by
    funext p
    simp [Packet.isRaw]
  have hprefix := (((inv_run hc hrun).receiving x).passedUp.filter fun p => !p.isRaw).map Packet.buf
  rw [show stream ((ControlChannels.init c).stack x.other) = [] from rfl, List.nil_append] at hstream
  rw [← hstream, stream, ← hraw]
  exact hprefix.trans (List.prefix_append _ _)

theorem ciphertext_prefix_opened :
    ((opened.stack .server).passedUp.filter fun p => !p.isRaw).map Packet.buf <+: opening.flatMap (offered .client) :=
  ciphertext_prefix paired_bothKeys run_opening .server

/-- **Nothing is let go too early.**  A message that was handed in is kept, in a packet that holds it, until the other
side has it. -/
theorem not_lost (hc : Paired c) {es : List (Side × ChannelEvent)}
    (hrun : run (ControlChannels.step c) (.init c) es = some sys) (x : Side) {id : ℕ}
    (hid : id < (sys.stack x).handed.length) :
    Got (sys.stack x.other).relRecv id ∨
      ∃ p, ((sys.stack x).relSend.window.message id).packet = some p ∧
        Holds (c x) (c x.other) (sys.stack x).handed (Got (sys.stack x).relRecv) id p.buf := by
  have hS := (inv_run hc hrun).sending x
  by_cases hlow : id < (sys.stack x).relSend.window.headId
  · exact Or.inl (hS.released id hid (Or.inl hlow))
  · rcases hS.kept id (Nat.le_of_not_lt hlow) hid with ⟨herased, -⟩ | hkept
    · exact Or.inl (hS.released id hid (Or.inr herased))
    · exact Or.inr hkept

theorem not_lost_opened : Got (opened.stack .server).relRecv 1 ∨
    ∃ p, ((opened.stack .client).relSend.window.message 1).packet = some p ∧
      Holds (bothKeys .client) (bothKeys .server) (opened.stack .client).handed (Got (opened.stack .client).relRecv) 1
        p.buf :=
  not_lost paired_bothKeys run_opening .client (by decide +kernel)

/-- The message that the other side waits for is kept, and in the window of the other side. -/
lemma Inv.kept_next (hc : Paired c) (h : Inv c sys) {x : Side} (hstarted : (sys.stack x.other).sslStarted = true)
    (hmore : (sys.stack x.other).relRecv.window.headId < (sys.stack x).handed.length)
    (hlt : (sys.stack x).handed.length + (c x).reliableWindow < 2 ^ 32) :
    (∃ p, (sys.stack x).relSend.window.headId ≤ (sys.stack x.other).relRecv.window.headId ∧
      ((sys.stack x).relSend.window.message (sys.stack x.other).relRecv.window.headId).packet = some p ∧
      Holds (c x) (c x.other) (sys.stack x).handed (Got (sys.stack x).relRecv)
        (sys.stack x.other).relRecv.window.headId p.buf) ∧
      (sys.stack x.other).relRecv.window.inWindow (sys.stack x.other).relRecv.window.headId = true := by
  have hS := h.sending x
  have hR := h.receiving x.other
  have hnot := (h.drained x.other).not_got hstarted
  have hge : (sys.stack x).relSend.window.headId ≤ (sys.stack x.other).relRecv.window.headId := by
    by_contra hlow
    exact hnot (hS.released _ hmore (Or.inl (Nat.lt_of_not_le hlow)))
  refine ⟨?_, (MessageWindow.inWindow_iff hR.wellFormed).2 ⟨?_, Nat.le_refl _, ?_⟩⟩
  · rcases hS.kept _ hge hmore with ⟨herased, -⟩ | ⟨p, hp, hholds⟩
    · exact absurd (hS.released _ hmore (Or.inr herased)) hnot
    · exact ⟨p, hge, hp, hholds⟩
  · rw [hR.span, hc.window]
    omega
  · have hle := hS.next_le
    rw [hS.span] at hle
    rw [hR.span, hc.window]
    omega

/-- All that is kept at one side is on its way to the other. -/
lemma exists_delivery_of_wire (hc : Paired c) {x : Side} {packets : List Packet} {relSend : ReliableSend Packet}
    (h : Inv c sys) (hhanded : (sys.stack x).handed = packets) (hrel : (sys.stack x).relSend = relSend)
    (hlt : packets.length + (c x).reliableWindow < 2 ^ 32) (hstarted : (sys.stack x.other).sslStarted = true)
    (hwire : ∀ id, relSend.window.inWindow id = true → ∀ p, (relSend.window.message id).packet = some p →
      p.buf ∈ sys.wire x.other) :
    ∃ es sys', run (ControlChannels.step c) sys es = some sys' ∧ (sys'.stack x).handed = packets ∧
      (sys'.stack x.other).passedUp = packets := by
  obtain ⟨n, hn⟩ : ∃ n, packets.length - (sys.stack x.other).relRecv.window.headId = n := ⟨_, rfl⟩
  induction n using Nat.strongRecOn generalizing sys with
  | ind n ih =>
    have hR := h.receiving x.other
    rw [Side.other_other, hhanded] at hR
    rcases Nat.lt_or_ge (sys.stack x.other).relRecv.window.headId packets.length with hmore | hdone
    swap
    · refine ⟨[], sys, rfl, hhanded, hR.passedUp.eq_of_length_le ?_⟩
      rw [← hR.headId]
      exact hdone
    obtain ⟨⟨p, hge, hp, hholds⟩, hin⟩ := h.kept_next hc hstarted (hhanded ▸ hmore) (hhanded ▸ hlt)
    have hS := h.sending x
    have hinS : relSend.window.inWindow (sys.stack x.other).relRecv.window.headId = true := by
      rw [← hrel, MessageWindow.inWindow_iff hS.wellFormed]
      have hnext := hS.next_le
      have hspan := hS.span
      rw [hhanded] at hnext
      omega
    have hmem : p.buf ∈ sys.wire x.other := hwire _ hinS p (hrel ▸ hp)
    obtain ⟨hcomes, hnew⟩ : Comes (c x.other) (c x) (sys.stack x).handed (Got (sys.stack x).relRecv)
        (sys.stack x.other) ((sys.stack x.other).netRecv (c x.other) p.buf) ∧ _ :=
      comes_message (by simpa using h.endpoint x.other) (by simpa using h.sending x.other) (hhanded ▸ hR) (h.armed _)
        (h.drained _) (by simpa using fun a => h.lt_of_got (x := x.other) (a := a)) hholds
    obtain ⟨s', hs'⟩ : ∃ s', (sys.stack x.other).netRecv (c x.other) p.buf = s' := ⟨_, rfl⟩
    rw [hs'] at hcomes hnew
    have hinv : Inv c (sys.emit x.other (s', [])) := h.of_comes (by simpa using hcomes)
    have hx : (sys.emit x.other (s', [])).stack x = sys.stack x := if_neg x.other_ne.symm
    have hy : (sys.emit x.other (s', [])).stack x.other = s' := if_pos rfl
    have hwy : (sys.emit x.other (s', [])).wire x.other = sys.wire x.other := if_neg x.other.other_ne.symm
    have hforward : (sys.stack x.other).relRecv.window.headId < s'.relRecv.window.headId := by
      by_contra hback
      refine hcomes.drained.not_got (hcomes.sslStarted.trans hstarted) ?_
      rcases Nat.lt_or_ge s'.relRecv.window.headId (sys.stack x.other).relRecv.window.headId with hlow | hge
      · exact hcomes.mono _ (Or.inl hlow)
      · rw [Nat.le_antisymm (Nat.le_of_not_lt hback) hge]
        exact hnew hin
    obtain ⟨es, sys', hrun, hdone⟩ := ih (packets.length - s'.relRecv.window.headId) (by omega) hinv
      (by rw [hx, hhanded]) (by rw [hx, hrel]) (by rw [hy, hcomes.sslStarted, hstarted])
      (by rw [hwy]; exact hwire) (by rw [hy])
    refine ⟨(x.other, .deliver p.buf) :: es, sys', run_cons.2 ⟨_, ?_, hrun⟩, hdone⟩
    rw [ControlChannels.step]
    dsimp only
    rw [if_pos hmem, hs']

lemma exists_le_all (f : ℕ → ℕ) (is : List ℕ) : ∃ t, ∀ i ∈ is, f i ≤ t := by
  induction is with
  | nil => exact ⟨0, by simp⟩
  | cons i is ih =>
    obtain ⟨t, ht⟩ := ih
    refine ⟨max (f i) t, fun j hj => ?_⟩
    rcases List.mem_cons.1 hj with rfl | hj
    · exact Nat.le_max_left _ _
    · exact (ht j hj).trans (Nat.le_max_right _ _)

/-- The time comes at which all that is kept is sent again. -/
lemma exists_retransmit (hc : Paired c) (h : Inv c sys) {x : Side} (hudp : (c x).isTcp = false) :
    ∃ es sys', run (ControlChannels.step c) sys es = some sys' ∧ Inv c sys' ∧
      (sys'.stack x).handed = (sys.stack x).handed ∧ sys'.stack x.other = sys.stack x.other ∧
      ∀ id, (sys'.stack x).relSend.window.inWindow id = true → ∀ p,
        ((sys'.stack x).relSend.window.message id).packet = some p → p.buf ∈ sys'.wire x.other := by
  have hS := h.sending x
  obtain ⟨t, ht⟩ := exists_le_all (fun i => ((sys.stack x).relSend.window.message i).retransmitAt)
    (sys.stack x).relSend.ids
  -- a time that is not before the next retransmission, if there is one, nor before that of any message
  obtain ⟨time, htime⟩ : ∃ time, time = (sys.stack x).nextRetransmit.getD 0 + t := ⟨_, rfl⟩
  obtain ⟨sys₁, hwait, hinv₁, -⟩ := inv_step hc h (x, .wait time) (by rintro buf ⟨⟩)
  have hsys₁ := Option.some.inj hwait
  have hx₁ : sys₁.stack x = { sys.stack x with now := (sys.stack x).now + time } := by
    rw [← hsys₁]
    exact if_pos rfl
  have hy₁ : sys₁.stack x.other = sys.stack x.other := by
    rw [← hsys₁]
    exact if_neg x.other_ne
  obtain ⟨s', out, hrun, hsame, hhanded, -, -, -, -, -, hout⟩ :=
    retransmit_spec (c := c x) (hinv₁.sending x).wellFormed (hinv₁.armed x)
  obtain ⟨sys₂, hretransmit, hinv₂, -⟩ := inv_step hc hinv₁ (x, .retransmit) (by rintro buf ⟨⟩)
  have hsys₂ : sys₁.emit x (s', out) = sys₂ := by
    rw [ControlChannels.step] at hretransmit
    dsimp only at hretransmit
    rw [hrun] at hretransmit
    exact Option.some.inj hretransmit
  have hx₂ : sys₂.stack x = s' := by
    rw [← hsys₂]
    exact if_pos rfl
  have hy₂ : sys₂.stack x.other = sys₁.stack x.other := by
    rw [← hsys₂]
    exact if_neg x.other_ne
  have hw₂ : sys₂.wire x.other = sys₁.wire x.other ++ out := by
    rw [← hsys₂]
    exact if_pos rfl
  refine ⟨[(x, .wait time), (x, .retransmit)], sys₂, run_cons.2 ⟨_, hwait, run_cons.2 ⟨_, hretransmit, rfl⟩⟩, hinv₂,
    ?_, hy₂.trans hy₁, ?_⟩
  · rw [hx₂, hhanded, hx₁]
  · intro id hin p hp
    rw [hx₂] at hin hp
    rw [hsame.inWindow] at hin
    have hle := ((MessageWindow.inWindow_iff (hinv₁.sending x).wellFormed).1 hin).2.1
    rw [hsame.packet id hle] at hp
    rw [hw₂]
    refine List.mem_append_right _ (hout hudp (hinv₁.endpoint x).valid ?_ id hin p hp ?_)
    · have harmed := hinv₁.armed x id hin (by rw [hp]; rfl)
      rw [hx₁] at harmed ⊢
      obtain ⟨next, hnext⟩ := Option.isSome_iff_exists.1 harmed
      dsimp only at hnext ⊢
      rw [hnext] at htime ⊢
      simp only [Option.any_some, decide_eq_true_iff]
      rw [Option.getD_some] at htime
      omega
    · rw [hx₁] at hin ⊢
      have := ht id (ReliableSend.mem_ids.2 hin)
      dsimp only at this ⊢
      omega

/-- **Nothing stays away.**  After any run, even if all that is on its way is lost, there is a continuation after
which everything that was handed in at a side has been passed up at the other: its TLS session starts, and what is
kept is sent again over UDP, and comes. -/
theorem exists_delivery (hc : Paired c) {es : List (Side × ChannelEvent)}
    (hrun : run (ControlChannels.step c) (.init c) es = some sys) (x : Side) (hudp : (c x).isTcp = false)
    (hlt : (sys.stack x).handed.length + (c x).reliableWindow < 2 ^ 32) :
    ∃ es' sys', run (ControlChannels.step c) { sys with wire := fun _ => [] } es' = some sys' ∧
      (sys'.stack x).handed = (sys.stack x).handed ∧ (sys'.stack x.other).passedUp = (sys.stack x).handed := by
  have h := inv_run hc hrun
  have hlost : Inv c { sys with wire := fun _ => [] } :=
    ⟨h.endpoint, h.sending, h.receiving, h.armed, h.drained, fun x buf hbuf => absurd hbuf List.not_mem_nil⟩
  obtain ⟨hinv₁, hstarted, -, -⟩ := comes_startHandshake hlost x.other
  set sys₁ := ControlChannels.emit { sys with wire := fun _ => [] } x.other
    ((sys.stack x.other).startHandshake, []) with hsys₁
  have hx₁ : sys₁.stack x = sys.stack x := if_neg x.other_ne.symm
  have hy₁ : sys₁.stack x.other = (sys.stack x.other).startHandshake := if_pos rfl
  obtain ⟨es₂, sys₂, hrun₂, hinv₂, hhanded₂, hy₂, hwire₂⟩ := exists_retransmit hc hinv₁ hudp
  rw [hx₁] at hhanded₂
  obtain ⟨es₃, sys₃, hrun₃, hhanded₃, hpassed₃⟩ := exists_delivery_of_wire hc hinv₂ hhanded₂ rfl hlt
    (by rw [hy₂, hy₁]; exact hstarted) hwire₂
  exact ⟨(x.other, .startHandshake) :: (es₂ ++ es₃), sys₃,
    run_cons.2 ⟨sys₁, rfl, run_append.2 ⟨sys₂, hrun₂, hrun₃⟩⟩, hhanded₃, hpassed₃⟩

theorem exists_delivery_opened :
    ∃ es' sys', run (ControlChannels.step bothKeys) { opened with wire := fun _ => [] } es' = some sys' ∧
      (sys'.stack .client).handed = (opened.stack .client).handed ∧
      (sys'.stack .server).passedUp = (opened.stack .client).handed :=
  exists_delivery paired_bothKeys run_opening .client rfl (by decide +kernel)

end Run

end FreeVPN.ControlChannel
