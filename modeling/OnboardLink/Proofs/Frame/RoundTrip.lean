import OnboardLink.Frame.Wire

/-! The one form a frame has on the wire. Both writers produce it and the reader accepts nothing
else, so frames of admissible length and accepted octets correspond one to one. -/
namespace OnboardLink.Frame

/-- What the checksum of a frame is taken over. -/
def body (frame : Frame) : Octets := frame.header ++ frame.payload

/-- The octets of a frame on the wire. -/
def wire (frame : Frame) : Octets := frame.body ++ Octets.ofWord (Checksum.of frame.body)

@[simp] theorem length_header (frame : Frame) : frame.header.length = headerSize := rfl

theorem length_body (frame : Frame) : frame.body.length = headerSize + frame.payload.length := by
  simp [body]

theorem length_body_append (frame : Frame) (word : UInt16) :
    (frame.body ++ Octets.ofWord word).length = frame.payload.length + minSize := by
  rw [List.length_append, length_body, Octets.length_ofWord, minSize, trailerSize]
  omega

theorem size_eq (frame : Frame) : frame.size = frame.payload.length + minSize := by
  simp only [size, sizeFor, minSize]
  omega

theorem length_wire (frame : Frame) : frame.wire.length = frame.size := by
  rw [wire, length_body_append, size_eq]

private theorem checkPayload_ok {length : Nat} (h : length ≤ maxPayload) :
    checkPayload length = .ok () :=
  if_neg (Nat.not_lt.mpr h)

private theorem checkPayload_error {length : Nat} (h : maxPayload < length) :
    checkPayload length = .error (.payloadTooLong length maxPayload) :=
  if_pos h

theorem le_of_checkPayload {length : Nat} (h : checkPayload length = .ok ()) :
    length ≤ maxPayload := by
  apply Nat.le_of_not_lt
  intro hl
  rw [checkPayload_error hl] at h
  cases h

/-- With room in the buffer the wire form covers its front, whatever stood there, and the rest of
the buffer stays. -/
theorem writeInto_of_room {frame : Frame} {buffer : Octets}
    (hp : frame.payload.length ≤ maxPayload) (hr : frame.size ≤ buffer.length) :
    frame.writeInto buffer = (.ok frame.size, frame.wire ++ buffer.drop frame.size) := by
  have hf : (buffer.overwrite 0 frame.header).overwrite headerSize frame.payload =
      frame.body ++ buffer.drop (headerSize + frame.payload.length) := by
    rw [Octets.overwrite_zero, ← length_header frame, Octets.overwrite_append, List.drop_drop,
      body, List.append_assoc]
  have hs : frame.body.length + (Octets.ofWord (Checksum.of frame.body)).length = frame.size := by
    rw [← length_wire, wire, List.length_append]
  simp only [writeInto, checkPayload_ok hp, if_neg (Nat.not_lt.mpr hr), hf]
  rw [← length_body, List.take_left, Octets.overwrite_append, List.drop_drop, hs, wire,
    List.append_assoc]

theorem writeInto_of_long {frame : Frame} (hp : maxPayload < frame.payload.length)
    (buffer : Octets) :
    frame.writeInto buffer =
      (.error (.payloadTooLong frame.payload.length maxPayload), buffer) := by
  simp only [writeInto, checkPayload_error hp]

theorem writeInto_of_small {frame : Frame} {buffer : Octets}
    (hp : frame.payload.length ≤ maxPayload) (hr : buffer.length < frame.size) :
    frame.writeInto buffer = (.error (.noRoom frame.size buffer.length), buffer) := by
  simp only [writeInto, checkPayload_ok hp, if_pos hr]

/-- Nothing else is written into a buffer. -/
theorem writeInto_eq_ok {frame : Frame} {buffer written : Octets} {size : Nat}
    (h : frame.writeInto buffer = (.ok size, written)) :
    frame.payload.length ≤ maxPayload ∧ frame.size ≤ buffer.length ∧ size = frame.size ∧
      written = frame.wire ++ buffer.drop frame.size := by
  rcases Nat.lt_or_ge maxPayload frame.payload.length with hp | hp
  · rw [writeInto_of_long hp] at h
    cases h
  · rcases Nat.lt_or_ge buffer.length frame.size with hr | hr
    · rw [writeInto_of_small hp hr] at h
      cases h
    · rw [writeInto_of_room hp hr] at h
      cases h
      exact ⟨hp, hr, rfl, rfl⟩

theorem eq_wire_of_writeInto {frame : Frame} {buffer written : Octets} {size : Nat}
    (h : frame.writeInto buffer = (.ok size, written)) :
    frame.payload.length ≤ maxPayload ∧ size = frame.size ∧ written.take size = frame.wire := by
  obtain ⟨hp, -, rfl, rfl⟩ := writeInto_eq_ok h
  exact ⟨hp, rfl, by rw [← length_wire, List.take_left]⟩

/-- A writer that refuses leaves the destination. -/
theorem writeInto_of_error {frame : Frame} {buffer after : Octets} {error : Error}
    (h : frame.writeInto buffer = (.error error, after)) : after = buffer := by
  rw [writeInto] at h
  split at h
  · cases h
    rfl
  · split at h
    · cases h
      rfl
    · cases h

/-- The stream writer appends the same octets. -/
theorem appendTo_of_fits {frame : Frame} (hp : frame.payload.length ≤ maxPayload)
    (stream : Octets) : frame.appendTo stream = (.ok frame.size, stream ++ frame.wire) := by
  have hd : ((({} : Checksum.Digest).absorb frame.header).absorb frame.payload).register =
      Checksum.of frame.body := (Checksum.absorb_append _ _ _).symm
  simp only [appendTo, checkPayload_ok hp, hd, wire, body, List.append_assoc]

theorem appendTo_of_long {frame : Frame} (hp : maxPayload < frame.payload.length)
    (stream : Octets) :
    frame.appendTo stream =
      (.error (.payloadTooLong frame.payload.length maxPayload), stream) := by
  simp only [appendTo, checkPayload_error hp]

theorem appendTo_eq_ok {frame : Frame} {stream after : Octets} {size : Nat}
    (h : frame.appendTo stream = (.ok size, after)) :
    frame.payload.length ≤ maxPayload ∧ size = frame.size ∧ after = stream ++ frame.wire := by
  rcases Nat.lt_or_ge maxPayload frame.payload.length with hp | hp
  · rw [appendTo_of_long hp] at h
    cases h
  · rw [appendTo_of_fits hp] at h
    cases h
    exact ⟨hp, rfl, rfl⟩

theorem appendTo_of_error {frame : Frame} {stream after : Octets} {error : Error}
    (h : frame.appendTo stream = (.error error, after)) : after = stream := by
  rw [appendTo] at h
  split at h
  · cases h
    rfl
  · cases h

theorem read_of_short {octets : Octets} (h : octets.length < minSize) :
    read octets = .error (.tooShort octets.length) :=
  if_pos h

/-- At least four octets are the body of some frame and a word. -/
theorem exists_body_append {octets : Octets} (h : minSize ≤ octets.length) :
    ∃ (frame : Frame) (word : UInt16), octets = frame.body ++ Octets.ofWord word := by
  obtain ⟨target, protocol, rest, rfl⟩ :
      ∃ target protocol rest, octets = target :: protocol :: rest := by
    match octets, h with
    | target :: protocol :: rest, _ => exact ⟨target, protocol, rest, rfl⟩
  have hl : (rest.drop (rest.length - 2)).length = 2 := by
    have : 4 ≤ rest.length + 2 := h
    rw [List.length_drop]
    omega
  obtain ⟨high, low, ht⟩ : ∃ high low, rest.drop (rest.length - 2) = [high, low] := by
    match rest.drop (rest.length - 2), hl with
    | [high, low], _ => exact ⟨high, low, rfl⟩
  refine ⟨⟨target, protocol, rest.take (rest.length - 2)⟩, Octets.word high low, ?_⟩
  rw [Octets.ofWord_word, ← ht]
  simp [body, header]

theorem wordAt_append (front : Octets) (word : UInt16) :
    (front ++ Octets.ofWord word).wordAt front.length = word := by
  have h0 : (front ++ Octets.ofWord word).octetAt front.length = (word >>> 8).toUInt8 := by
    simp [Octets.octetAt, Octets.ofWord, List.getD]
  have h1 : (front ++ Octets.ofWord word).octetAt (front.length + 1) = word.toUInt8 := by
    simp [Octets.octetAt, Octets.ofWord, List.getD]
  rw [Octets.wordAt, h0, h1, Octets.word_ofWord]

/-- The reader's answer to a body and a word: the payload is measured before the word is
compared. -/
theorem read_body_append (frame : Frame) (word : UInt16) :
    read (frame.body ++ Octets.ofWord word) =
      if maxPayload < frame.payload.length then
        .error (.payloadTooLong frame.payload.length maxPayload)
      else if word ≠ Checksum.of frame.body then
        .error (.wrongChecksum word (Checksum.of frame.body))
      else .ok frame := by
  have hb : (frame.body ++ Octets.ofWord word).length - trailerSize = frame.body.length := by
    rw [List.length_append, Octets.length_ofWord]
    rfl
  have hs : ¬ (frame.body ++ Octets.ofWord word).length < minSize := by
    rw [length_body_append]
    exact Nat.not_lt.mpr (Nat.le_add_left _ _)
  have hp : frame.body.length - headerSize = frame.payload.length := by
    rw [length_body, Nat.add_sub_cancel_left]
  have hf : (⟨(frame.body ++ Octets.ofWord word).octetAt 0,
      (frame.body ++ Octets.ofWord word).octetAt 1, frame.body.drop headerSize⟩ : Frame) =
        frame := rfl
  simp only [read, hb, if_neg hs, hp, wordAt_append, List.take_left, hf]
  by_cases hm : maxPayload < frame.payload.length
  · simp only [checkPayload_error hm, if_pos hm]
  · simp only [checkPayload_ok (Nat.not_lt.mp hm), if_neg hm]

/-- The reader takes the wire form of a frame that fits for that frame. -/
theorem read_wire {frame : Frame} (hp : frame.payload.length ≤ maxPayload) :
    read frame.wire = .ok frame := by
  rw [wire, read_body_append, if_neg (Nat.not_lt.mpr hp), if_neg (not_not_intro rfl)]

/-- No other octets are read as a frame. -/
theorem eq_wire_of_read {octets : Octets} {frame : Frame} (h : read octets = .ok frame) :
    frame.payload.length ≤ maxPayload ∧ octets = frame.wire := by
  by_cases hs : octets.length < minSize
  · rw [read_of_short hs] at h
    contradiction
  · obtain ⟨found, word, rfl⟩ := exists_body_append (Nat.not_lt.mp hs)
    rw [read_body_append] at h
    by_cases hm : maxPayload < found.payload.length
    · rw [if_pos hm] at h
      contradiction
    · by_cases hc : word = Checksum.of found.body
      · rw [if_neg hm, if_neg (not_not_intro hc)] at h
        obtain rfl : found = frame := Except.ok.inj h
        exact ⟨Nat.not_lt.mp hm, by rw [wire, hc]⟩
      · rw [if_neg hm, if_pos hc] at h
        contradiction

theorem read_eq_tooShort_iff (octets : Octets) :
    (∃ length, read octets = .error (.tooShort length)) ↔ octets.length < minSize := by
  rcases Nat.lt_or_ge octets.length minSize with hs | hs
  · exact iff_of_true ⟨_, read_of_short hs⟩ hs
  · obtain ⟨frame, word, rfl⟩ := exists_body_append hs
    refine iff_of_false ?_ (Nat.not_lt.mpr hs)
    rintro ⟨length, h⟩
    rw [read_body_append] at h
    split at h
    · cases h
    · split at h <;> cases h

theorem read_eq_payloadTooLong_iff (octets : Octets) :
    (∃ size max, read octets = .error (.payloadTooLong size max)) ↔
      maxPayload + minSize < octets.length := by
  rcases Nat.lt_or_ge octets.length minSize with hs | hs
  · refine iff_of_false ?_ (by omega)
    rintro ⟨size, max, h⟩
    rw [read_of_short hs] at h
    cases h
  · obtain ⟨frame, word, rfl⟩ := exists_body_append hs
    rw [read_body_append, length_body_append, Nat.add_lt_add_iff_right]
    by_cases hm : maxPayload < frame.payload.length
    · exact iff_of_true ⟨_, _, if_pos hm⟩ hm
    · refine iff_of_false ?_ hm
      rintro ⟨size, max, h⟩
      rw [if_neg hm] at h
      split at h <;> cases h

/-- The checksum decides where the length is admissible: it has to be the last two octets, taken
over all before them. -/
theorem read_eq_wrongChecksum_iff (octets : Octets) :
    (∃ received computed, read octets = .error (.wrongChecksum received computed)) ↔
      minSize ≤ octets.length ∧ octets.length ≤ maxPayload + minSize ∧
        octets.drop (octets.length - 2) ≠
          Octets.ofWord (Checksum.of (octets.take (octets.length - 2))) := by
  rcases Nat.lt_or_ge octets.length minSize with hs | hs
  · refine iff_of_false ?_ (fun h => Nat.not_le.mpr hs h.1)
    rintro ⟨received, computed, h⟩
    rw [read_of_short hs] at h
    cases h
  · obtain ⟨frame, word, rfl⟩ := exists_body_append hs
    have hl : (frame.body ++ Octets.ofWord word).length - 2 = frame.body.length := by
      rw [List.length_append, Octets.length_ofWord, Nat.add_sub_cancel]
    rw [hl, List.drop_left, List.take_left, length_body_append, Nat.add_le_add_iff_right,
      ne_eq (Octets.ofWord _), not_congr Octets.ofWord_inj, read_body_append]
    by_cases hm : maxPayload < frame.payload.length
    · refine iff_of_false ?_ (fun h => Nat.not_le.mpr hm h.2.1)
      rintro ⟨received, computed, h⟩
      rw [if_pos hm] at h
      cases h
    · by_cases hc : word = Checksum.of frame.body
      · refine iff_of_false ?_ (fun h => h.2.2 hc)
        rintro ⟨received, computed, h⟩
        rw [if_neg hm, if_neg (not_not_intro hc)] at h
        cases h
      · refine iff_of_true ⟨word, Checksum.of frame.body, ?_⟩
          ⟨Nat.le_add_left _ _, Nat.not_lt.mp hm, hc⟩
        rw [if_neg hm, if_pos hc]

/-- Frames with a payload of at most 65535 octets and accepted octets correspond one to one. Written
into any buffer with room a frame is read back, accepted octets are what both writers make of their
frame, and octets are refused for their length first and then for their checksum only. -/
theorem codec_bijective :
    (∀ (frame : Frame) (buffer : Octets),
      frame.payload.length ≤ 65535 → frame.payload.length + 4 ≤ buffer.length →
        (frame.writeInto buffer).1 = .ok (frame.payload.length + 4) ∧
        read ((frame.writeInto buffer).2.take (frame.payload.length + 4)) = .ok frame) ∧
    (∀ (octets : Octets) (frame : Frame), read octets = .ok frame →
      (∀ buffer : Octets, octets.length ≤ buffer.length →
        (frame.writeInto buffer).1 = .ok octets.length ∧
        (frame.writeInto buffer).2.take octets.length = octets) ∧
      ∀ stream : Octets, frame.appendTo stream = (.ok octets.length, stream ++ octets)) ∧
    ∀ octets : Octets,
      ((∃ length, read octets = .error (.tooShort length)) ↔ octets.length < 4) ∧
      ((∃ size max, read octets = .error (.payloadTooLong size max)) ↔ 65539 < octets.length) ∧
      ((∃ received computed, read octets = .error (.wrongChecksum received computed)) ↔
        4 ≤ octets.length ∧ octets.length ≤ 65539 ∧
          octets.drop (octets.length - 2) ≠
            Octets.ofWord (Checksum.of (octets.take (octets.length - 2)))) := by
  refine ⟨?_, ?_, ?_⟩
  · intro frame buffer hp hr
    have hs : frame.payload.length + 4 = frame.size := (size_eq frame).symm
    rw [hs] at hr ⊢
    rw [writeInto_of_room hp hr, ← length_wire, List.take_left]
    exact ⟨rfl, read_wire hp⟩
  · intro octets frame h
    obtain ⟨hp, rfl⟩ := eq_wire_of_read h
    constructor
    · intro buffer hr
      rw [length_wire] at hr ⊢
      rw [writeInto_of_room hp hr, ← length_wire, List.take_left]
      exact ⟨rfl, rfl⟩
    · intro stream
      rw [appendTo_of_fits hp, length_wire]
  · intro octets
    exact ⟨read_eq_tooShort_iff octets, read_eq_payloadTooLong_iff octets,
      read_eq_wrongChecksum_iff octets⟩

/-- A frame of one octet in a buffer of six, and its five octets on the wire. -/
theorem codec_bijective_short :
    (([0xAA] : Octets).length ≤ 65535 ∧ ([0xAA] : Octets).length + 4 ≤ 6) ∧
    ((writeInto ⟨5, 1, [0xAA]⟩ (List.replicate 6 0xEE)).1 = .ok 5 ∧
      read ((writeInto ⟨5, 1, [0xAA]⟩ (List.replicate 6 0xEE)).2.take 5) =
        .ok ⟨5, 1, [0xAA]⟩) ∧
    read [5, 1, 0xAA, 0x00, 0xFD] = .ok ⟨5, 1, [0xAA]⟩ ∧
    (writeInto ⟨5, 1, [0xAA]⟩ (List.replicate 6 0xEE)).2.take 5 = [5, 1, 0xAA, 0x00, 0xFD] ∧
    ∃ received computed,
      read [5, 1, 0xAA, 0x00, 0xFE] = .error (.wrongChecksum received computed) := by
  have hc : Checksum.of [5, 1, 0xAA] = 0x00FD := by
    simp only [Checksum.of, Checksum.absorb, List.foldl, Checksum.step, Checksum.get_table]
    decide
  have hw : wire ⟨5, 1, [0xAA]⟩ = [5, 1, 0xAA, 0x00, 0xFD] :=
    congrArg (fun word => [5, 1, 0xAA] ++ Octets.ofWord word) hc
  have hr : read [5, 1, 0xAA, 0x00, 0xFD] = .ok ⟨5, 1, [0xAA]⟩ := by
    rw [← hw]
    exact read_wire (by decide)
  refine ⟨by decide,
    codec_bijective.1 ⟨5, 1, [0xAA]⟩ (List.replicate 6 0xEE) (by decide) (by decide),
    hr, ((codec_bijective.2.1 _ _ hr).1 (List.replicate 6 0xEE) (by decide)).2, ?_⟩
  apply (codec_bijective.2.2 [5, 1, 0xAA, 0x00, 0xFE]).2.2.mpr
  refine ⟨by decide, by decide, ?_⟩
  change [0x00, 0xFE] ≠ Octets.ofWord (Checksum.of [5, 1, 0xAA])
  rw [hc]
  decide

end OnboardLink.Frame
