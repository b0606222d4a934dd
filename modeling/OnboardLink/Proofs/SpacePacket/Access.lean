import OnboardLink.Proofs.Octets.Access
import OnboardLink.Proofs.SpacePacket.Acceptance

/-! The packet codec with every access checked. The writers rely on the header's size, on the room
asked for and on a data field of admissible length; the reader relies on the length word matching
the octets before it cuts the data field. -/
namespace OnboardLink.SpacePacket

namespace Header

def pack? (header : Header) (dataField : ℕ) : Option (Except Error Octets) :=
  match header.check with
  | .error error => return .error error
  | .ok () =>
    if dataField = 0 then return .error .noData
    else do
      let length ← Length.sub? dataField 1
      if maxDataField < dataField then return .error (.dataTooLong dataField maxDataField)
      else
        let packed : Octets := List.replicate headerSize 0
        let packed ← packed.copy? 0 2 (Octets.ofWord header.identification)
        let packed ← packed.copy? 2 4 (Octets.ofWord header.sequencing)
        let packed ← packed.copy? 4 6 (Octets.ofWord length.toUInt16)
        return .ok packed

def unpack? (octets : Octets) : Option (Header × ℕ) := do
  let identification ← octets.word? 0 1
  let sequencing ← octets.word? 2 3
  let length ← octets.word? 4 5
  return (ofWords identification sequencing, ← Length.add? length.toNat 1)

private theorem pack?_eq (header : Header) (dataField : ℕ) :
    header.pack? dataField = some (header.pack dataField) := by
  cases hc : header.check with
  | error error =>
    simp only [pack?, pack, hc]
    rfl
  | ok =>
    by_cases h0 : dataField = 0
    · simp only [pack?, pack, hc, if_pos h0]
      rfl
    have hl : Length.sub? dataField 1 = some (dataField - 1) :=
      Length.sub?_of_le (Nat.one_le_iff_ne_zero.mpr h0)
    by_cases hm : maxDataField < dataField
    · simp only [pack?, pack, hc, if_neg h0, hl, if_pos hm, Option.bind_eq_bind, Option.bind_some]
      rfl
    -- The three words fill the six octets, whatever they are.
    · simp only [pack?, pack, hc, if_neg h0, hl, if_neg hm, Option.bind_eq_bind, Option.bind_some]
      rfl

/-- The first six octets are all that a header is read from. -/
theorem unpack?_take {octets : Octets} (h : headerSize ≤ octets.length) :
    unpack? (octets.take headerSize) = some (unpack octets) := by
  have hw : ∀ {position : ℕ}, position + 1 < headerSize → Octets.word? (octets.take headerSize)
      position (position + 1) = some (octets.wordAt position) := by
    intro position hp
    rw [Octets.word?, List.getElem?_take_of_lt (Nat.lt_of_succ_lt hp), List.getElem?_take_of_lt hp]
    exact Octets.word?_of_lt rfl (Nat.lt_of_lt_of_le hp h)
  have hl : Length.add? (octets.wordAt 4).toNat 1 = some ((octets.wordAt 4).toNat + 1) :=
    Length.add?_of_lt (Nat.lt_of_le_of_lt (octets.wordAt 4).toNat_lt (by decide))
  rw [unpack?, hw (by decide), hw (by decide), hw (by decide)]
  simp only [Option.bind_eq_bind, Option.bind_some, hl]
  rfl

end Header

def dataFieldLength? (packet : SpacePacket) : Option ℕ :=
  Length.add? packet.secondary.length packet.user.length

def size? (packet : SpacePacket) : Option ℕ := do
  let dataField ← packet.dataFieldLength?
  Length.add? headerSize dataField

def headerOctets? (packet : SpacePacket) : Option (Except Error Octets) :=
  if packet.header.hasSecondary && packet.secondary.isEmpty then return .error .secondaryMissing
  else if !packet.header.hasSecondary && !packet.secondary.isEmpty then
    return .error .secondaryUnannounced
  else do
    let dataField ← packet.dataFieldLength?
    if maxDataField < dataField then return .error (.dataTooLong dataField maxDataField)
    else packet.header.pack? dataField

/-- What the writer does with a buffer that has room. -/
def fill? (packet : SpacePacket) (header buffer : Octets) (needed : ℕ) : Option Octets := do
  let userStart ← Length.add? headerSize packet.secondary.length
  let buffer ← buffer.copy? 0 headerSize header
  let buffer ← buffer.copy? headerSize userStart packet.secondary
  buffer.copy? userStart needed packet.user

def writeInto? (packet : SpacePacket) (buffer : Octets) :
    Option (Except Error ℕ × Octets) := do
  match ← packet.headerOctets? with
  | .error error => return (.error error, buffer)
  | .ok header =>
    let needed ← packet.size?
    if buffer.length < needed then return (.error (.noRoom needed buffer.length), buffer)
    else return (.ok needed, ← packet.fill? header buffer needed)

/-- Appends octets, where the sink admits them. -/
def Sink.append? (sink : Sink) (octets : Octets) : Option Sink :=
  if sink.admits octets.length then some (sink.append octets) else none

def appendTo? (packet : SpacePacket) (sink : Sink) : Option (Except Error ℕ × Sink) := do
  match ← packet.headerOctets? with
  | .error error => return (.error error, sink)
  | .ok header =>
    let needed ← packet.size?
    if sink.admits needed then
      let sink ← sink.append? header
      let sink ← sink.append? packet.secondary
      let sink ← sink.append? packet.user
      return (.ok needed, sink)
    else return (.error (.noRoom needed (sink.room.getD 0)), sink)

def read? (octets : Octets) (secondaryLength : ℕ) : Option (Except Error SpacePacket) :=
  if octets.length < headerSize then return .error (.cutShort octets.length headerSize)
  else do
    let front ← octets.slice? 0 headerSize
    let (header, dataFieldLength) ← Header.unpack? front
    let declared ← Length.add? headerSize dataFieldLength
    if octets.length < declared then return .error (.cutShort octets.length declared)
    else if declared < octets.length then return .error (.overlong declared octets.length)
    else
      let dataField ← octets.slice? headerSize octets.length
      let cut := if header.hasSecondary then secondaryLength else 0
      if dataField.length < cut then return .error (.secondaryTooLong cut dataField.length)
      else
        let (secondary, user) ← dataField.splitAt? cut
        return .ok { header, secondary, user }

variable {packet : SpacePacket} {buffer : Octets}

private theorem headerOctets?_eq (h : packet.dataFieldLength < Length.limit) :
    packet.headerOctets? = some packet.headerOctets := by
  have hd : packet.dataFieldLength? = some packet.dataFieldLength := Length.add?_of_lt h
  simp only [headerOctets?, headerOctets, hd, Header.pack?_eq, Option.bind_eq_bind,
    Option.bind_some]
  split
  · rfl
  split
  · rfl
  split <;> rfl

theorem size?_eq (h : packet.size < Length.limit) : packet.size? = some packet.size := by
  have hd : packet.dataFieldLength? = some packet.dataFieldLength :=
    Length.add?_of_lt (Nat.lt_of_le_of_lt (Nat.le_add_left _ _) h)
  rw [size?, hd]
  exact Length.add?_of_lt h

theorem Writable.size_lt_limit (h : packet.Writable) : packet.size < Length.limit :=
  Nat.lt_of_le_of_lt (Nat.add_le_add_left h.short headerSize) (by decide)

theorem Writable.fill?_eq (h : packet.Writable) (hr : packet.size ≤ buffer.length) :
    packet.fill? (packet.header.octets packet.dataFieldLength) buffer packet.size =
      some (buffer.overwrite 0 packet.octets) := by
  let header := packet.header.octets packet.dataFieldLength
  have hl : headerSize + packet.secondary.length + packet.user.length ≤ buffer.length := by
    rwa [Nat.add_assoc]
  have hs : headerSize + packet.secondary.length ≤ buffer.length := Nat.le_of_add_right_le hl
  have huser : Length.add? headerSize packet.secondary.length =
      some (headerSize + packet.secondary.length) :=
    Length.add?_of_lt (Nat.lt_of_le_of_lt
      (Nat.add_le_add_left (Nat.le_add_right _ _) headerSize) h.size_lt_limit)
  have h1 : buffer.copy? 0 headerSize header = some (buffer.overwrite 0 header) :=
    Octets.copy?_overwrite [] rfl rfl (Nat.le_of_add_right_le hs)
  have h2 : (buffer.overwrite 0 header).copy? headerSize (headerSize + packet.secondary.length)
      packet.secondary = some (buffer.overwrite 0 (header ++ packet.secondary)) :=
    Octets.copy?_overwrite header rfl rfl hs
  have h3 : (buffer.overwrite 0 (header ++ packet.secondary)).copy?
      (headerSize + packet.secondary.length) packet.size packet.user =
        some (buffer.overwrite 0 (header ++ packet.secondary ++ packet.user)) :=
    Octets.copy?_overwrite (header ++ packet.secondary) (by rw [List.length_append]; rfl)
      (Nat.add_assoc _ _ _).symm hr
  rw [octets, ← List.append_assoc, fill?, huser]
  simp only [Option.bind_eq_bind, Option.bind_some, header, h1, h2, h3]

theorem writeInto?_eq (h : packet.dataFieldLength < Length.limit) (buffer : Octets) :
    packet.writeInto? buffer = some (packet.writeInto buffer) := by
  rw [writeInto?, headerOctets?_eq h]
  cases hh : packet.headerOctets with
  | error error =>
    rw [writeInto_of_error hh]
    rfl
  | ok packed =>
    obtain ⟨hw, rfl⟩ := headerOctets_eq_ok_iff.mp hh
    simp only [size?_eq hw.size_lt_limit, Option.bind_eq_bind, Option.bind_some]
    by_cases hr : buffer.length < packet.size
    · rw [if_pos hr, hw.writeInto_of_small hr]
      rfl
    · have hr' := Nat.not_lt.mp hr
      rw [if_neg hr, hw.fill?_eq hr', hw.writeInto_eq hr', Octets.overwrite_zero, length_octets]
      rfl

/-- A sink that admits octets and as many more as a count takes the octets and admits the count. -/
theorem Sink.append?_of_admits {sink : Sink} {octets : Octets} {count : ℕ}
    (h : sink.admits (octets.length + count) = true) :
    sink.append? octets = some (sink.append octets) ∧ (sink.append octets).admits count = true := by
  obtain ⟨written, room⟩ := sink
  cases room with
  | none => exact ⟨rfl, rfl⟩
  | some room =>
    have hr : octets.length + count ≤ room := of_decide_eq_true h
    have ho : octets.length ≤ room := Nat.le_of_add_right_le hr
    exact ⟨if_pos (decide_eq_true ho), decide_eq_true (Nat.le_sub_of_add_le' hr)⟩

theorem appendTo?_eq (h : packet.dataFieldLength < Length.limit) (sink : Sink) :
    packet.appendTo? sink = some (packet.appendTo sink) := by
  rw [appendTo?, appendTo, headerOctets?_eq h]
  cases hh : packet.headerOctets with
  | error error => rfl
  | ok packed =>
    obtain ⟨hw, rfl⟩ := headerOctets_eq_ok_iff.mp hh
    simp only [size?_eq hw.size_lt_limit, Option.bind_eq_bind, Option.bind_some]
    by_cases hr : sink.admits packet.size = true
    · let header := packet.header.octets packet.dataFieldLength
      obtain ⟨hheader, hr1⟩ : sink.append? header = some (sink.append header) ∧
          (sink.append header).admits packet.dataFieldLength = true := Sink.append?_of_admits hr
      obtain ⟨hsecondary, hr2⟩ := Sink.append?_of_admits hr1
      have huser : ((sink.append header).append packet.secondary).append? packet.user =
          some (((sink.append header).append packet.secondary).append packet.user) := if_pos hr2
      simp only [if_pos hr, header, hheader, hsecondary, huser, Option.bind_some]
      rfl
    · rw [if_neg hr, if_neg hr]
      rfl

theorem read?_eq (octets : Octets) (secondaryLength : ℕ) :
    read? octets secondaryLength = some (read octets secondaryLength) := by
  by_cases hs : octets.length < headerSize
  · simp only [read?, read_eq, if_pos hs]
    rfl
  have hfront : octets.slice? 0 headerSize = some (octets.take headerSize) :=
    Octets.slice?_of_le (Nat.zero_le _) (Nat.not_lt.mp hs)
  have hu := Header.unpack?_take (Nat.not_lt.mp hs)
  have hb := (Header.unpack_length_bounds octets).2
  have hd : Length.add? headerSize (Header.unpack octets).2 = some (declared octets) :=
    Length.add?_of_lt (Nat.lt_of_le_of_lt (Nat.add_le_add_left hb headerSize) (by decide))
  have hf : octets.slice? headerSize octets.length = some (octets.drop headerSize) := by
    rw [Octets.slice?_of_le (Nat.not_lt.mp hs) le_rfl, List.take_length]
  rw [read_eq]
  simp only [read?, if_neg hs, hfront, hu, hd, hf, Option.bind_eq_bind, Option.bind_some]
  -- Both sides judge the two lengths and the cut in the same order.
  generalize (if (Header.unpack octets).1.hasSecondary then secondaryLength else 0) = cut
  split
  · rfl
  split
  · rfl
  split
  · rfl
  · rename_i hc
    rw [Octets.splitAt?_of_le (Nat.not_lt.mp hc)]
    rfl

end OnboardLink.SpacePacket
