import OnboardLink.Proofs.Frame.RoundTrip
import OnboardLink.Proofs.Octets.Access

/-! The frame codec with every access checked. The payload is judged before a size is formed and the
buffer before an octet is written, and octets too short for a frame are refused before anything is
subtracted from their length. -/
namespace OnboardLink.Frame

variable {frame : Frame} {buffer : Octets}

def sizeFor? (payloadLength : ℕ) : Option ℕ := do
  let body ← Length.add? headerSize payloadLength
  Length.add? body trailerSize

def size? (frame : Frame) : Option ℕ := sizeFor? frame.payload.length

/-- What the writer does with a buffer that has room, octet by octet and stretch by stretch. -/
def fill? (frame : Frame) (buffer : Octets) (needed : ℕ) : Option Octets := do
  let body ← Length.add? headerSize frame.payload.length
  let buffer ← buffer.set? 0 frame.target
  let buffer ← buffer.set? 1 frame.protocol
  let buffer ← buffer.copy? headerSize body frame.payload
  let covered ← buffer.slice? 0 body
  let checksum ← Checksum.of? covered
  buffer.copy? body needed (Octets.ofWord checksum)

def writeInto? (frame : Frame) (buffer : Octets) : Option (Except Error ℕ × Octets) :=
  match checkPayload frame.payload.length with
  | .error error => return (.error error, buffer)
  | .ok () => do
    let needed ← frame.size?
    if buffer.length < needed then return (.error (.noRoom needed buffer.length), buffer)
    else return (.ok needed, ← frame.fill? buffer needed)

/-- The writer behind a stream, with the checksum taken piece by piece. -/
def appendTo? (frame : Frame) (stream : Octets) : Option (Except Error ℕ × Octets) :=
  match checkPayload frame.payload.length with
  | .error error => return (.error error, stream)
  | .ok () => do
    let register ← Checksum.of? frame.header
    let register ← Checksum.absorb? register frame.payload
    let size ← frame.size?
    return (.ok size, stream ++ (frame.header ++ (frame.payload ++ Octets.ofWord register)))

/-- The reader, with lengths subtracted and octets looked at in its order. -/
def read? (wire : Octets) : Option (Except Error Frame) :=
  if wire.length < minSize then return .error (.tooShort wire.length)
  else do
    let body ← Length.sub? wire.length trailerSize
    let payloadLength ← Length.sub? body headerSize
    match checkPayload payloadLength with
    | .error error => return .error error
    | .ok () =>
      let next ← Length.add? body 1
      let received ← wire.word? body next
      let covered ← wire.slice? 0 body
      let computed ← Checksum.of? covered
      if received ≠ computed then return .error (.wrongChecksum received computed)
      else
        let target ← wire[0]?
        let protocol ← wire[1]?
        let payload ← wire.slice? headerSize body
        return .ok ⟨target, protocol, payload⟩

theorem sizeFor?_of_lt {payloadLength : ℕ} (h : sizeFor payloadLength < Length.limit) :
    sizeFor? payloadLength = some (sizeFor payloadLength) := by
  have hb : headerSize + payloadLength < Length.limit := Nat.lt_of_le_of_lt (Nat.le_add_right _ _) h
  rw [sizeFor?, Length.add?_of_lt hb]
  exact Length.add?_of_lt h

theorem size_lt_limit (h : frame.payload.length ≤ maxPayload) : frame.size < Length.limit := by
  rw [size_eq]
  exact Nat.lt_of_le_of_lt (Nat.add_le_add_right h minSize) (by decide)

theorem size?_eq (h : frame.payload.length ≤ maxPayload) : frame.size? = some frame.size :=
  sizeFor?_of_lt (size_lt_limit h)

theorem fill?_eq (hp : frame.payload.length ≤ maxPayload) (hr : frame.size ≤ buffer.length) :
    frame.fill? buffer frame.size = some (buffer.overwrite 0 frame.wire) := by
  have hl : 2 + frame.payload.length + 2 ≤ buffer.length := hr
  have h2 : 1 < buffer.length := by omega
  have hb := Length.add?_of_lt (Nat.lt_of_le_of_lt (Nat.le_add_right _ _) (size_lt_limit hp))
  -- Each write extends what is laid from the front on, from nothing to the whole wire form.
  have htarget : buffer.set? 0 frame.target = some (buffer.overwrite 0 [frame.target]) :=
    Octets.set?_overwrite [] rfl (Nat.zero_lt_of_lt h2) _
  have hprotocol : (buffer.overwrite 0 [frame.target]).set? 1 frame.protocol =
      some (buffer.overwrite 0 frame.header) := Octets.set?_overwrite [frame.target] rfl h2 _
  have hpayload : (buffer.overwrite 0 frame.header).copy? headerSize
      (headerSize + frame.payload.length) frame.payload = some (buffer.overwrite 0 frame.body) :=
    Octets.copy?_overwrite _ rfl rfl (Nat.le_of_add_right_le hl)
  have hcovered : (buffer.overwrite 0 frame.body).slice? 0 (headerSize + frame.payload.length) =
      some frame.body :=
    Octets.slice?_overwrite _ (length_body frame).symm (Nat.le_of_add_right_le hl)
  have hchecksum : (buffer.overwrite 0 frame.body).copy? (headerSize + frame.payload.length)
      frame.size (Octets.ofWord (Checksum.of frame.body)) = some (buffer.overwrite 0 frame.wire) :=
    Octets.copy?_overwrite _ (length_body frame).symm rfl hr
  simp only [fill?, hb, htarget, hprotocol, hpayload, hcovered, Checksum.of?_eq, hchecksum,
    Option.bind_eq_bind, Option.bind_some]

theorem writeInto?_eq (frame : Frame) (buffer : Octets) :
    frame.writeInto? buffer = some (frame.writeInto buffer) := by
  cases hc : checkPayload frame.payload.length with
  | error error =>
    simp only [writeInto?, writeInto, hc]
    rfl
  | ok =>
    have hp := le_of_checkPayload hc
    have hs := size?_eq hp
    by_cases hr : buffer.length < frame.size
    · simp only [writeInto?, writeInto, hc, hs, Option.bind_eq_bind, Option.bind_some, if_pos hr]
      rfl
    · have hf := fill?_eq hp (Nat.not_lt.mp hr)
      rw [writeInto_of_room hp (Nat.not_lt.mp hr), ← length_wire, ← Octets.overwrite_zero,
        length_wire]
      simp only [writeInto?, hc, hs, hf, Option.bind_eq_bind, Option.bind_some, if_neg hr]
      rfl

/-- The size answered is a place in the buffer, behind all that a frame has besides its payload. -/
theorem size_bounds_of_writeInto {after : Octets} {size : ℕ}
    (h : frame.writeInto buffer = (.ok size, after)) : minSize ≤ size ∧ size ≤ after.length := by
  obtain ⟨-, -, rfl, rfl⟩ := writeInto_eq_ok h
  constructor
  · rw [size_eq]
    exact Nat.le_add_left _ _
  · rw [List.length_append, length_wire]
    exact Nat.le_add_right _ _

theorem appendTo?_eq (frame : Frame) (stream : Octets) :
    frame.appendTo? stream = some (frame.appendTo stream) := by
  cases hc : checkPayload frame.payload.length with
  | error error =>
    simp only [appendTo?, appendTo, hc]
    rfl
  | ok =>
    have hs := size?_eq (le_of_checkPayload hc)
    simp only [appendTo?, appendTo, hc, hs, Checksum.of?_eq, Checksum.absorb?_eq,
      Option.bind_eq_bind, Option.bind_some]
    rfl

theorem read?_eq (wire : Octets) : read? wire = some (read wire) := by
  by_cases hs : wire.length < minSize
  · simp only [read?, read, if_pos hs]
    rfl
  obtain ⟨length, hl⟩ : ∃ length, wire.length = length + 4 :=
    Nat.exists_eq_add_of_le' (Nat.not_lt.mp hs)
  have hb : wire.length - 2 = length + 2 := by omega
  have hp : length + 2 - 2 = length := Nat.add_sub_cancel length 2
  have hbody : Length.sub? wire.length 2 = some (wire.length - 2) := Length.sub?_of_le (by omega)
  have hpayload : Length.sub? (length + 2) 2 = some length := Length.sub?_of_le (by omega)
  cases hc : checkPayload length with
  | error error =>
    simp only [read?, read, headerSize, trailerSize, if_neg hs, hb, hp, hbody, hpayload, hc,
      Option.bind_eq_bind, Option.bind_some]
    rfl
  | ok =>
    have hm : length ≤ 65535 := le_of_checkPayload hc
    have hnext : Length.add? (length + 2) 1 = some (length + 3) := by
      refine Length.add?_of_lt ?_
      rw [Length.limit]
      omega
    have hreceived : wire.word? (length + 2) (length + 3) = some (wire.wordAt (length + 2)) :=
      Octets.word?_of_lt rfl (by omega)
    have hcovered : wire.slice? 0 (length + 2) = some (wire.take (length + 2)) :=
      Octets.slice?_of_le (Nat.zero_le _) (by omega)
    have htarget : wire[0]? = some (wire.octetAt 0) := Octets.getElem?_of_lt (by omega)
    have hprotocol : wire[1]? = some (wire.octetAt 1) := Octets.getElem?_of_lt (by omega)
    have htaken : wire.slice? 2 (length + 2) = some ((wire.take (length + 2)).drop 2) :=
      Octets.slice?_of_le (by omega) (by omega)
    simp only [read?, read, headerSize, trailerSize, if_neg hs, hb, hp, hbody, hpayload, hc, hnext,
      hreceived, hcovered, htarget, hprotocol, htaken, Checksum.of?_eq, Option.bind_eq_bind,
      Option.bind_some]
    split <;> rfl

end OnboardLink.Frame
