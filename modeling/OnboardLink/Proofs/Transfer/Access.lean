import OnboardLink.Proofs.Frame.Access
import OnboardLink.Proofs.SpacePacket.Access
import OnboardLink.Proofs.Transfer.Lossless

/-! Sending and receiving with every access checked. Neither accesses octets on its own, so both are
as safe as the codecs under them. -/
namespace OnboardLink.AddressedPacket

def payload? (sent : AddressedPacket) : Option (Except Error Octets) := do
  let size ← sent.packet.size?
  if Frame.maxPayload < size then return .error (.overflow size Frame.maxPayload)
  else
    match ← sent.packet.appendTo? {} with
    | (.error error, _) => return .error (.packet error)
    | (.ok _, sink) => return .ok sink.written

/-- Sends by a frame writer whose accesses are checked. -/
def sendBy? (write? : Frame → Octets → Option (Except Frame.Error ℕ × Octets))
    (sent : AddressedPacket) (destination : Octets) (counters : Counters) : Option Sent := do
  match ← sent.payload? with
  | .error error => return ⟨.error error, destination, counters⟩
  | .ok payload =>
    match ← write? ⟨sent.target, sent.protocol, payload⟩ destination with
    | (.error error, destination) => return ⟨.error (.frame error), destination, counters⟩
    | (.ok size, destination) => return ⟨.ok size, destination, counters.countSent size⟩

def sendInto? : AddressedPacket → Octets → Counters → Option Sent := sendBy? Frame.writeInto?

def sendTo? : AddressedPacket → Octets → Counters → Option Sent := sendBy? Frame.appendTo?

def receive? (wire : Octets) (secondaryLength : ℕ) (counters : Counters) :
    Option (Except Error AddressedPacket × Counters) := do
  match ← Frame.read? wire with
  | .error error => return (.error (.frame error), countFailure counters error)
  | .ok frame =>
    match ← SpacePacket.read? frame.payload secondaryLength with
    | .error error => return (.error (.packet error), counters.countFrameError)
    | .ok packet =>
      return (.ok ⟨frame.target, frame.protocol, packet⟩, counters.countReceived wire.length)

variable {sent : AddressedPacket}

private theorem payload?_eq (h : sent.packet.size < Length.limit) :
    sent.payload? = some sent.payload := by
  have hd : sent.packet.dataFieldLength < Length.limit :=
    Nat.lt_of_le_of_lt (Nat.le_add_left _ _) h
  rw [payload?, payload, SpacePacket.size?_eq h, SpacePacket.appendTo?_eq hd]
  simp only [Option.bind_eq_bind, Option.bind_some]
  split
  · rfl
  · rcases sent.packet.appendTo {} with ⟨error | size, sink⟩ <;> rfl

private theorem sendBy?_eq {write : Frame → Octets → Except Frame.Error ℕ × Octets}
    {write? : Frame → Octets → Option (Except Frame.Error ℕ × Octets)}
    (hw : ∀ frame destination, write? frame destination = some (write frame destination))
    (h : sent.packet.size < Length.limit) (destination : Octets) (counters : Counters) :
    sendBy? write? sent destination counters = some (sendBy write sent destination counters) := by
  rw [sendBy?, sendBy, payload?_eq h]
  cases sent.payload with
  | error error => rfl
  | ok payload =>
    simp only [hw, Option.bind_eq_bind, Option.bind_some]
    rcases write ⟨sent.target, sent.protocol, payload⟩ destination with ⟨error | size, after⟩ <;> rfl

theorem sendInto?_eq (h : sent.packet.size < Length.limit) (buffer : Octets)
    (counters : Counters) : sent.sendInto? buffer counters = some (sent.sendInto buffer counters) :=
  sendBy?_eq Frame.writeInto?_eq h buffer counters

theorem size_le_of_sendInto {buffer : Octets} {counters : Counters} {size : ℕ}
    (h : (sent.sendInto buffer counters).result = .ok size) :
    size ≤ (sent.sendInto buffer counters).destination.length :=
  (Frame.size_bounds_of_writeInto (sendBy_eq_ok h).2).2

theorem sendTo?_eq (h : sent.packet.size < Length.limit) (stream : Octets) (counters : Counters) :
    sent.sendTo? stream counters = some (sent.sendTo stream counters) :=
  sendBy?_eq Frame.appendTo?_eq h stream counters

theorem receive?_eq (wire : Octets) (secondaryLength : ℕ) (counters : Counters) :
    receive? wire secondaryLength counters = some (receive wire secondaryLength counters) := by
  rw [receive?, receive, Frame.read?_eq]
  cases Frame.read wire with
  | error error => rfl
  | ok frame =>
    simp only [SpacePacket.read?_eq, Option.bind_eq_bind, Option.bind_some]
    cases SpacePacket.read frame.payload secondaryLength with
    | error error => rfl
    | ok packet => rfl

end OnboardLink.AddressedPacket
