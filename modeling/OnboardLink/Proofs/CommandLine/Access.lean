import OnboardLink.CommandLine.Report
import OnboardLink.Proofs.Transfer.Access

/-! The commands that look into the buffers they had filled, with every access checked. A writer
answers the size of what it wrote, so that the answer is a place inside the buffer. -/
namespace OnboardLink

/-- Encodes a frame, reads its checksum back and shows as many octets as the writer answered. -/
def describeEncoded? (target protocol : UInt8) (payload : PayloadInput) :
    Option (Except Failure Report) :=
  match payload.octets with
  | .error failure => return .error failure
  | .ok octets => do
    let frame : Frame := ⟨target, protocol, octets⟩
    match ← frame.writeInto? (zeros (← frame.size?)) with
    | (.error error, _) => return .error (.ofFrame "encode" error)
    | (.ok size, buffer) =>
      let high ← Length.sub? size Frame.trailerSize
      let low ← Length.sub? size 1
      let checksum ← buffer.word? high low
      let written ← buffer.slice? 0 size
      return .ok (.ofEncoded size checksum written)

def packetBuffer? (user : Octets) : Option Octets := do
  let packet ← Length.add? SpacePacket.headerSize user.length
  let frame ← Frame.sizeFor? packet
  return zeros frame

def describeCreated? (device target : UInt8) (application : UInt16) (payload : PayloadInput) :
    Option (Except Failure Report) :=
  match payload.octets with
  | .error failure => return .error failure
  | .ok user => do
    let buffer ← packetBuffer? user
    let sent ← (AddressedPacket.telemetry device target application user).sendInto? buffer {}
    match sent.result with
    | .error error => return .error (.ofTransfer "create" error)
    | .ok size =>
      let written ← sent.destination.slice? 0 size
      return .ok (.ofCreated size written sent.counters)

def describeReceived? (digits : String) (secondaryLength : ℕ) :
    Option (Except Failure Report) :=
  match readHex digits with
  | .error failure => return .error failure
  | .ok octets => do
    match ← AddressedPacket.receive? octets secondaryLength {} with
    | (.error error, _) => return .error (.ofTransfer "decode" error)
    | (.ok received, counters) => return .ok (.ofReceived received counters)

/-- A payload that can be read has so few octets that a packet of them in a frame has a length. -/
def PayloadInput.Fits (payload : PayloadInput) : Prop :=
  ∀ octets, payload.octets = .ok octets → octets.length + 10 < Length.limit

variable {payload : PayloadInput}

private theorem describeEncoded?_eq (h : payload.Fits) (target protocol : UInt8) :
    describeEncoded? target protocol payload = some (describeEncoded target protocol payload) := by
  rw [describeEncoded?, describeEncoded]
  cases hp : payload.octets with
  | error failure => rfl
  | ok octets =>
    let frame : Frame := ⟨target, protocol, octets⟩
    have hsize : frame.size? = some frame.size := by
      refine Frame.sizeFor?_of_lt ((Frame.size_eq frame).trans_lt ?_)
      exact Nat.lt_of_le_of_lt (Nat.add_le_add_left (by decide) _) (h octets hp)
    simp only [hsize, frame, Frame.writeInto?_eq, Option.bind_some, bind, Except.bind]
    rcases hw : frame.writeInto (zeros frame.size) with ⟨error | size, buffer⟩
    · rfl
    · obtain ⟨h4, hl⟩ := Frame.size_bounds_of_writeInto hw
      change 4 ≤ size at h4
      have hhigh : Length.sub? size Frame.trailerSize = some (size - 2) :=
        Length.sub?_of_le (Nat.le_trans (by decide) h4)
      have hlow : Length.sub? size 1 = some (size - 1) :=
        Length.sub?_of_le (Nat.le_trans (by decide) h4)
      have hchecksum : buffer.word? (size - 2) (size - 1) = some (buffer.wordAt (size - 2)) :=
        Octets.word?_of_lt (by omega) (by omega)
      have hwritten : buffer.slice? 0 size = some (buffer.take size) :=
        Octets.slice?_of_le (Nat.zero_le _) hl
      simp only [hhigh, hlow, hchecksum, hwritten, Option.bind_some]
      rfl

private theorem packetBuffer?_eq {user : Octets} (h : user.length + 10 < Length.limit) :
    packetBuffer? user = some (packetBuffer user) := by
  have hframe : Frame.sizeFor (SpacePacket.headerSize + user.length) < Length.limit := by
    change 2 + (6 + user.length) + 2 < _
    omega
  have hpacket : SpacePacket.headerSize + user.length < Length.limit := by
    change 6 + user.length < _
    omega
  rw [packetBuffer?, Length.add?_of_lt hpacket]
  simp only [Option.bind_eq_bind, Option.bind_some, Frame.sizeFor?_of_lt hframe]
  rfl

private theorem describeCreated?_eq (h : payload.Fits) (device target : UInt8)
    (application : UInt16) :
    describeCreated? device target application payload =
      some (describeCreated device target application payload) := by
  rw [describeCreated?, describeCreated]
  cases hp : payload.octets with
  | error failure => rfl
  | ok user =>
    have hfits := h user hp
    simp only [packetBuffer?_eq hfits, Option.bind_some, bind, Except.bind]
    generalize hc : AddressedPacket.telemetry device target application user = created
    have hsize : created.packet.size < Length.limit := by
      rw [← hc]
      change 6 + (0 + user.length) < _
      omega
    simp only [AddressedPacket.sendInto?_eq hsize, Option.bind_some]
    generalize hs : created.sendInto (packetBuffer user) {} = sent
    cases hr : sent.result with
    | error error => rfl
    | ok size =>
      have hl : size ≤ sent.destination.length :=
        hs ▸ AddressedPacket.size_le_of_sendInto (hs ▸ hr)
      have hwritten : sent.destination.slice? 0 size = some (sent.destination.take size) :=
        Octets.slice?_of_le (Nat.zero_le _) hl
      simp only [hwritten, Option.bind_some]
      rfl

private theorem describeReceived?_eq (digits : String) (secondaryLength : ℕ) :
    describeReceived? digits secondaryLength = some (describeReceived digits secondaryLength) := by
  rw [describeReceived?, describeReceived]
  cases readHex digits with
  | error failure => rfl
  | ok octets =>
    simp only [AddressedPacket.receive?_eq, Option.bind_eq_bind, Option.bind_some]
    simp only [bind, Except.bind]
    rcases AddressedPacket.receive octets secondaryLength {} with ⟨error | received, counters⟩ <;> rfl

/-- Nothing is ever accessed out of range and no length is subtracted from a shorter one: each
function with all its accesses checked has a result on every input, which is that of the function
without the checks. Only where a packet's size is formed before it is judged has it to be the length
of something. -/
theorem accesses_in_range :
    (∀ register octets, Checksum.absorb? register octets = some (Checksum.absorb register octets)) ∧
    (∀ (frame : Frame) destination,
      frame.writeInto? destination = some (frame.writeInto destination) ∧
      frame.appendTo? destination = some (frame.appendTo destination)) ∧
    (∀ wire, Frame.read? wire = some (Frame.read wire)) ∧
    (∀ packet : SpacePacket, packet.dataFieldLength + 10 < Length.limit →
      (∀ buffer, packet.writeInto? buffer = some (packet.writeInto buffer)) ∧
      ∀ sink, packet.appendTo? sink = some (packet.appendTo sink)) ∧
    (∀ octets secondaryLength,
      SpacePacket.read? octets secondaryLength = some (SpacePacket.read octets secondaryLength)) ∧
    (∀ sent : AddressedPacket, sent.packet.dataFieldLength + 10 < Length.limit →
      ∀ destination counters,
        sent.sendInto? destination counters = some (sent.sendInto destination counters) ∧
        sent.sendTo? destination counters = some (sent.sendTo destination counters)) ∧
    (∀ wire secondaryLength counters, AddressedPacket.receive? wire secondaryLength counters =
      some (AddressedPacket.receive wire secondaryLength counters)) ∧
    (∀ payload : PayloadInput, payload.Fits → ∀ device target protocol application,
      describeEncoded? target protocol payload =
        some (describeEncoded target protocol payload) ∧
      describeCreated? device target application payload =
        some (describeCreated device target application payload)) ∧
    ∀ digits secondaryLength,
      describeReceived? digits secondaryLength = some (describeReceived digits secondaryLength) := by
  refine ⟨Checksum.absorb?_eq, ?_, Frame.read?_eq, ?_, SpacePacket.read?_eq, ?_,
    AddressedPacket.receive?_eq, ?_, describeReceived?_eq⟩
  · intro frame destination
    exact ⟨frame.writeInto?_eq destination, frame.appendTo?_eq destination⟩
  · intro packet h
    have hd : packet.dataFieldLength < Length.limit := Nat.lt_of_le_of_lt (Nat.le_add_right _ _) h
    exact ⟨SpacePacket.writeInto?_eq hd, SpacePacket.appendTo?_eq hd⟩
  · intro sent h destination counters
    have hs : sent.packet.size < Length.limit := by
      change 6 + sent.packet.dataFieldLength < _
      omega
    exact ⟨AddressedPacket.sendInto?_eq hs destination counters,
      AddressedPacket.sendTo?_eq hs destination counters⟩
  · intro payload h device target protocol application
    exact ⟨describeEncoded?_eq h target protocol, describeCreated?_eq h device target application⟩

/-- A packet with a secondary header in a buffer too short for it, sent into one with room, and the
commands on a payload of three octets. -/
theorem accesses_in_range_announced :
    let packet : SpacePacket :=
      { header := { hasSecondary := true }, secondary := [0xAA], user := [0x01, 0x02] }
    let sent : AddressedPacket := ⟨2, Protocol.packet, packet⟩
    let payload : PayloadInput := .text "abc"
    packet.dataFieldLength + 10 < Length.limit ∧ payload.Fits ∧
      packet.writeInto? (zeros 8) = some (.error (.noRoom 9 8), zeros 8) ∧
      (sent.sendInto? (zeros 20) {}).isSome = true ∧
      describeEncoded? 1 Protocol.raw payload = some (describeEncoded 1 Protocol.raw payload) := by
  intro packet sent payload
  obtain ⟨-, -, -, hpacket, -, hsent, -, hcommand, -⟩ := accesses_in_range
  have hd : packet.dataFieldLength + 10 < Length.limit := by decide
  have hp : payload.Fits := by
    rintro octets ⟨⟩
    decide
  refine ⟨hd, hp, ?_, ?_, (hcommand payload hp 0 1 Protocol.raw 0).1⟩
  · rw [(hpacket packet hd).1 (zeros 8)]
    decide
  · rw [(hsent sent hd (zeros 20) {}).1]
    rfl

end OnboardLink
