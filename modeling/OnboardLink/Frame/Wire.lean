import OnboardLink.Checksum
import OnboardLink.Frame

/-! Frames on the wire: target, protocol, payload, and the checksum of all of these. There are two
writers, one into a given buffer and one that appends to a stream, and a reader. -/
namespace OnboardLink.Frame

def checkPayload (length : Nat) : Except Error Unit :=
  if maxPayload < length then .error (.payloadTooLong length maxPayload) else .ok ()

def header (frame : Frame) : Octets := [frame.target, frame.protocol]

/-- Writes a frame at the front of a buffer and answers its size, together with the whole buffer
afterwards. The checksum is taken over what stands in the buffer. A refusal leaves the buffer as it
was. -/
def writeInto (frame : Frame) (buffer : Octets) : Except Error Nat × Octets :=
  match checkPayload frame.payload.length with
  | .error error => (.error error, buffer)
  | .ok () =>
    if buffer.length < frame.size then
      (.error (.noRoom frame.size buffer.length), buffer)
    else
      let body := headerSize + frame.payload.length
      let filled := (buffer.overwrite 0 frame.header).overwrite headerSize frame.payload
      let checksum := Checksum.of (filled.take body)
      (.ok frame.size, filled.overwrite body (Octets.ofWord checksum))

/-- Appends a frame to a stream and answers its size, together with the whole stream afterwards. The
checksum is taken piece by piece. A refusal leaves the stream as it was. -/
def appendTo (frame : Frame) (stream : Octets) : Except Error Nat × Octets :=
  match checkPayload frame.payload.length with
  | .error error => (.error error, stream)
  | .ok () =>
    let digest := (({} : Checksum.Digest).absorb frame.header).absorb frame.payload
    (.ok frame.size, stream ++ (frame.header ++ (frame.payload ++ Octets.ofWord digest.register)))

/-- Reads octets as exactly one frame. A wrong length is found before a wrong checksum. -/
def read (wire : Octets) : Except Error Frame :=
  let body := wire.length - trailerSize
  let received := wire.wordAt body
  let computed := Checksum.of (wire.take body)
  if wire.length < minSize then .error (.tooShort wire.length)
  else match checkPayload (body - headerSize) with
    | .error error => .error error
    | .ok () =>
      if received ≠ computed then .error (.wrongChecksum received computed)
      else .ok ⟨wire.octetAt 0, wire.octetAt 1, (wire.take body).drop headerSize⟩

end OnboardLink.Frame
