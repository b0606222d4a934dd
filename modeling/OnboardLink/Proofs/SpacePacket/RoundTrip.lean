import OnboardLink.SpacePacket
import OnboardLink.Proofs.SpacePacket.Packing

/-! The one written form of a packet. It says where it ends, so octets are read as a packet only
where they are the whole of its written form; it does not say where its secondary header ends. -/
namespace OnboardLink.SpacePacket

/-- The packet can be written: its fields are within their widths, there is a secondary header
exactly where one is announced, and the length word can say how long the data field is. -/
structure Writable (packet : SpacePacket) : Prop where
  header : packet.header.Fits
  secondary : packet.secondary ≠ [] ↔ packet.header.hasSecondary = true
  data : 1 ≤ packet.dataFieldLength
  short : packet.dataFieldLength ≤ maxDataField

/-- The octets of a written packet. -/
def octets (packet : SpacePacket) : Octets :=
  packet.header.octets packet.dataFieldLength ++ (packet.secondary ++ packet.user)

/-- What can be wrong with a packet, in the order in which it is looked for. Its length is looked at
twice, the second time with the header. -/
def faults (packet : SpacePacket) : List (Bool × Error) :=
  [(packet.header.hasSecondary && packet.secondary.isEmpty, .secondaryMissing),
    (!packet.header.hasSecondary && !packet.secondary.isEmpty, .secondaryUnannounced),
    (65536 < packet.dataFieldLength, .dataTooLong packet.dataFieldLength 65536)] ++
  packet.header.faults packet.dataFieldLength

variable {packet : SpacePacket}

@[simp] theorem length_octets (packet : SpacePacket) : packet.octets.length = packet.size := by
  simp [octets, size, dataFieldLength]

theorem headerOctets_of_missing (hf : packet.header.hasSecondary = true)
    (hs : packet.secondary = []) : packet.headerOctets = .error .secondaryMissing := by
  rw [headerOctets, hf, hs]
  rfl

/-- A packet has no fault exactly where it can be written. -/
theorem writable_iff_faultless : packet.Writable ↔ faultless packet.faults = true := by
  have hs : (packet.secondary ≠ [] ↔ packet.header.hasSecondary = true) ↔
      (!(packet.header.hasSecondary && packet.secondary.isEmpty)) = true ∧
        (!(!packet.header.hasSecondary && !packet.secondary.isEmpty)) = true := by
    rw [Ne, ← List.isEmpty_iff]
    cases packet.header.hasSecondary <;> cases packet.secondary.isEmpty <;> decide
  have hm : packet.dataFieldLength ≤ maxDataField ↔
      (!decide (65536 < packet.dataFieldLength)) = true := by
    simp [maxDataField]
  have hl : faultless packet.faults = true ↔
      ((packet.secondary ≠ [] ↔ packet.header.hasSecondary = true) ∧
        packet.dataFieldLength ≤ maxDataField) ∧
      packet.header.Fits ∧ 1 ≤ packet.dataFieldLength ∧ packet.dataFieldLength ≤ maxDataField := by
    rw [faults, faultless_append, Bool.and_eq_true, Header.faultless_faults_iff, hs, hm]
    simp only [faultless_cons, faultless_nil, Bool.and_eq_true, Bool.and_true, and_assoc]
  rw [hl]
  constructor
  · intro h
    exact ⟨⟨h.secondary, h.short⟩, h.header, h.data, h.short⟩
  · rintro ⟨⟨hs, hm⟩, hh, h1, -⟩
    exact ⟨hh, hs, h1, hm⟩

theorem headerOctets_eq_judge (packet : SpacePacket) : packet.headerOctets =
    judge packet.faults (.ok (packet.header.octets packet.dataFieldLength)) .error := by
  rw [headerOctets, faults, judge_append, ← Header.pack_eq_judge]
  simp only [judge_cons, judge_nil, decide_eq_true_eq, maxDataField]
  rfl

theorem headerOctets_eq_ok_iff {packed : Octets} : packet.headerOctets = .ok packed ↔
    packet.Writable ∧ packed = packet.header.octets packet.dataFieldLength := by
  rw [headerOctets_eq_judge, judge_eq_ok_iff, writable_iff_faultless]

theorem Sink.append_append (sink : Sink) (front back : Octets) :
    (sink.append front).append back = sink.append (front ++ back) := by
  simp [Sink.append, Function.comp_def, Nat.sub_sub]

/-- A sink with room takes the written form of every packet that has one. -/
theorem Writable.appendTo_of_room (h : packet.Writable) {sink : Sink}
    (hr : sink.admits packet.size = true) :
    packet.appendTo sink = (.ok packet.size, sink.append packet.octets) := by
  rw [appendTo, headerOctets_eq_ok_iff.mpr ⟨h, rfl⟩]
  dsimp only
  rw [if_pos hr, Sink.append_append, Sink.append_append, octets]

theorem Writable.appendTo_of_full (h : packet.Writable) {sink : Sink}
    (hr : ¬ sink.admits packet.size = true) :
    packet.appendTo sink = (.error (.noRoom packet.size (sink.room.getD 0)), sink) := by
  rw [appendTo, headerOctets_eq_ok_iff.mpr ⟨h, rfl⟩]
  exact if_neg hr

theorem Writable.appendTo_eq (h : packet.Writable) (written : Octets) :
    packet.appendTo ⟨written, none⟩ = (.ok packet.size, ⟨written ++ packet.octets, none⟩) :=
  h.appendTo_of_room rfl

theorem appendTo_of_error {error : Error} (h : packet.headerOctets = .error error) (sink : Sink) :
    packet.appendTo sink = (.error error, sink) := by
  rw [appendTo, h]

/-- How long the packet is, by the length word of its first octets. -/
def declared (octets : Octets) : ℕ := headerSize + (Header.unpack octets).2

theorem declared_eq (octets : Octets) : declared octets = 7 + (octets.wordAt 4).toNat := by
  change 6 + ((octets.wordAt 4).toNat + 1) = _
  omega

theorem declared_append {octets : Octets} (h : headerSize ≤ octets.length) (rest : Octets) :
    declared (octets ++ rest) = declared octets := by
  have h6 : 6 ≤ octets.length := h
  have hw : (octets ++ rest).wordAt 4 = octets.wordAt 4 := by
    simp only [Octets.wordAt, Octets.octetAt]
    rw [List.getD_append _ _ _ _ (by omega), List.getD_append _ _ _ _ (by omega)]
  rw [declared_eq, declared_eq, hw]

/-- The reader's judgement, in its order. -/
theorem read_eq (octets : Octets) (secondaryLength : ℕ) : read octets secondaryLength =
    let header := (Header.unpack octets).1
    let dataField := octets.drop headerSize
    let cut := if header.hasSecondary then secondaryLength else 0
    if octets.length < headerSize then .error (.cutShort octets.length headerSize)
    else if octets.length < declared octets then
      .error (.cutShort octets.length (declared octets))
    else if declared octets < octets.length then
      .error (.overlong (declared octets) octets.length)
    else if dataField.length < cut then .error (.secondaryTooLong cut dataField.length)
    else .ok { header, secondary := dataField.take cut, user := dataField.drop cut } :=
  rfl

/-- Octets that end before the packet does are refused for that alone. -/
theorem read_of_lt_declared {octets : Octets} (h : octets.length < declared octets)
    (secondaryLength : ℕ) :
    ∃ needed, read octets secondaryLength = .error (.cutShort octets.length needed) := by
  rw [read_eq]
  by_cases hs : octets.length < headerSize
  · exact ⟨_, if_pos hs⟩
  · exact ⟨_, (if_neg hs).trans (if_pos h)⟩

/-- Octets that go on after the packet's end are refused for that alone. -/
theorem read_of_declared_lt {octets : Octets} (h : declared octets < octets.length)
    (secondaryLength : ℕ) :
    read octets secondaryLength = .error (.overlong (declared octets) octets.length) := by
  have hs : ¬ octets.length < headerSize :=
    Nat.not_lt.mpr ((Nat.le_add_right _ _).trans h.le)
  rw [read_eq]
  exact (if_neg hs).trans ((if_neg (Nat.not_lt.mpr h.le)).trans (if_pos h))

/-- Octets of the declared length are a header and the data field it announces. -/
theorem exists_octets_append {octets : Octets} (h : octets.length = declared octets) :
    ∃ (header : Header) (dataField : Octets), header.Fits ∧ 1 ≤ dataField.length ∧
      dataField.length ≤ maxDataField ∧ octets = header.octets dataField.length ++ dataField := by
  have hs : headerSize ≤ octets.length := h ▸ Nat.le_add_right _ _
  have hl : (octets.drop headerSize).length = (Header.unpack octets).2 := by
    rw [List.length_drop, h, declared, Nat.add_sub_cancel_left]
  obtain ⟨h1, hm⟩ := Header.unpack_length_bounds octets
  refine ⟨(Header.unpack octets).1, octets.drop headerSize, Header.unpack_fits octets, ?_, ?_, ?_⟩
  · rwa [hl]
  · rwa [hl]
  · rw [hl, Header.octets_unpack hs, List.take_append_drop]

/-- The reader's answer to a header and the data field it announces: the cut is all that can be
wrong. -/
theorem read_octets_append {header : Header} (hf : header.Fits) {dataField : Octets}
    (h1 : 1 ≤ dataField.length) (hm : dataField.length ≤ maxDataField) (secondaryLength : ℕ) :
    read (header.octets dataField.length ++ dataField) secondaryLength =
      let cut := if header.hasSecondary then secondaryLength else 0
      if dataField.length < cut then .error (.secondaryTooLong cut dataField.length)
      else .ok { header, secondary := dataField.take cut, user := dataField.drop cut } := by
  have hu := hf.unpack_octets h1 hm dataField
  have hd : (header.octets dataField.length ++ dataField).length =
      declared (header.octets dataField.length ++ dataField) := by
    rw [declared, hu, List.length_append, Header.length_octets]
  have hs : ¬ (header.octets dataField.length ++ dataField).length < headerSize := by
    rw [List.length_append, Header.length_octets]
    exact Nat.not_lt.mpr (Nat.le_add_right _ _)
  have ht : (header.octets dataField.length ++ dataField).drop headerSize = dataField := rfl
  rw [read_eq, if_neg hs, ← hd, if_neg (lt_irrefl _), if_neg (lt_irrefl _), hu, ht]

/-- Octets are read as a packet where they are its written form and the cut is where its secondary
header ends. -/
theorem read_eq_ok_iff {octets : Octets} {secondaryLength : ℕ} :
    read octets secondaryLength = .ok packet ↔
      packet.header.Fits ∧ 1 ≤ packet.dataFieldLength ∧ packet.dataFieldLength ≤ maxDataField ∧
        packet.secondary.length = (if packet.header.hasSecondary then secondaryLength else 0) ∧
          octets = packet.octets := by
  have hp : packet.dataFieldLength = (packet.secondary ++ packet.user).length :=
    List.length_append.symm
  constructor
  · intro h
    -- Any other length is refused before the cut is looked at.
    have hd : octets.length = declared octets := by
      rcases Nat.lt_trichotomy octets.length (declared octets) with hl | he | hg
      · obtain ⟨needed, hn⟩ := read_of_lt_declared hl secondaryLength
        rw [hn] at h
        cases h
      · exact he
      · rw [read_of_declared_lt hg] at h
        cases h
    obtain ⟨header, dataField, hf, h1, hm, rfl⟩ := exists_octets_append hd
    rw [read_octets_append hf h1 hm] at h
    dsimp only at h
    by_cases hc : dataField.length < if header.hasSecondary then secondaryLength else 0
    · rw [if_pos hc] at h
      cases h
    · rw [if_neg hc] at h
      cases h
      rw [hp, SpacePacket.octets, hp, List.take_append_drop]
      exact ⟨hf, h1, hm, List.length_take_of_le (Nat.not_lt.mp hc), rfl⟩
  · rintro ⟨hf, h1, hm, hs, rfl⟩
    rw [hp] at h1 hm
    rw [SpacePacket.octets, hp, read_octets_append hf h1 hm, ← hs]
    dsimp only
    rw [if_neg (by simp), List.take_left, List.drop_left]

/-- Packets are read as they were where the secondary header's length is known. -/
theorem Writable.read_octets (h : packet.Writable) {secondaryLength : ℕ}
    (hn : packet.header.hasSecondary = true → secondaryLength = packet.secondary.length) :
    read packet.octets secondaryLength = .ok packet := by
  refine read_eq_ok_iff.mpr ⟨h.header, h.data, h.short, ?_, rfl⟩
  split
  · rename_i hc
    exact (hn hc).symm
  · rename_i hc
    rw [← h.secondary, not_not] at hc
    rw [hc, List.length_nil]

/-- What was read can be written, but for an announced secondary header of no octet. -/
theorem writable_of_read {octets : Octets} {secondaryLength : ℕ}
    (h : read octets secondaryLength = .ok packet)
    (hn : packet.header.hasSecondary = false ∨ 1 ≤ secondaryLength) : packet.Writable := by
  obtain ⟨hh, h1, hm, hl, -⟩ := read_eq_ok_iff.mp h
  refine ⟨hh, ?_, h1, hm⟩
  rw [← List.length_pos_iff, hl]
  cases hc : packet.header.hasSecondary with
  | false => simp
  | true =>
    rw [hc] at hn
    have h1 : 1 ≤ secondaryLength := hn.resolve_left nofun
    exact iff_of_true h1 rfl

private theorem Writable.declared_octets (h : packet.Writable) :
    declared packet.octets = packet.size := by
  rw [declared, octets, h.header.unpack_octets h.data h.short]
  rfl

/-- Nothing may follow a packet. -/
theorem Writable.read_append (h : packet.Writable) {more : Octets} (hm : more ≠ [])
    (secondaryLength : ℕ) : ∃ declared actual,
      read (packet.octets ++ more) secondaryLength = .error (.overlong declared actual) := by
  have hs : headerSize ≤ packet.octets.length := by
    rw [length_octets]
    exact Nat.le_add_right _ _
  have hl := List.length_pos_iff.mpr hm
  refine ⟨_, _, read_of_declared_lt ?_ secondaryLength⟩
  rw [declared_append hs, h.declared_octets, List.length_append, length_octets]
  omega

/-- Nothing may be missing at a packet's end. -/
theorem Writable.read_of_append_eq (h : packet.Writable) {front more : Octets}
    (he : front ++ more = packet.octets) (hm : more ≠ []) (secondaryLength : ℕ) :
    ∃ length needed, read front secondaryLength = .error (.cutShort length needed) := by
  have hl := List.length_pos_iff.mpr hm
  -- A cut inside the header loses the length word, but no packet is as short as a header.
  have hd : front.length < declared front := by
    by_cases hs : headerSize ≤ front.length
    · rw [← declared_append hs more, he, h.declared_octets, ← length_octets, ← he,
        List.length_append]
      omega
    · have : front.length < 6 := Nat.not_le.mp hs
      rw [declared_eq]
      omega
  exact ⟨_, read_of_lt_declared hd secondaryLength⟩

end OnboardLink.SpacePacket
