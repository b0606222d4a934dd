import OnboardLink.Proofs.SpacePacket.RoundTrip

/-! Which octets are a packet. The length word decides first and the announced secondary header
second, so octets are refused in one of four ways or read. What was read is written as the same
octets, and what was written is read as the same packet. -/
namespace OnboardLink.SpacePacket

variable {packet : SpacePacket} {octets buffer after : Octets} {secondaryLength size : ℕ}

private theorem declared_eq_octets (octets : Octets) :
    declared octets = 7 + ((octets.octetAt 4).toNat * 256 + (octets.octetAt 5).toNat) := by
  rw [declared_eq, Octets.wordAt, Octets.toNat_word]

/-- A secondary header is announced by one bit of the first octet. -/
theorem hasSecondary_unpack (octets : Octets) :
    (Header.unpack octets).1.hasSecondary = (octets.octetAt 0).toNat.testBit 3 := by
  have hlow := (octets.octetAt (0 + 1)).toNat_lt
  have hb : (octets.wordAt 0).toNat / 2048 % 2 = (octets.octetAt 0).toNat / 2 ^ 3 % 2 := by
    rw [Octets.wordAt, Octets.toNat_word]
    omega
  have hf := Header.toNat_hasSecondary_ofWords (octets.wordAt 0) (octets.wordAt 2)
  rw [Nat.testBit_eq_decide_div_mod_eq, ← hb, ← hf]
  change (Header.ofWords _ _).hasSecondary = _
  cases (Header.ofWords (octets.wordAt 0) (octets.wordAt 2)).hasSecondary <;> rfl

/-- The reader's answer to octets of the declared length: the cut is all that can be wrong. -/
theorem read_of_eq_declared (h : octets.length = declared octets) (secondaryLength : ℕ) :
    read octets secondaryLength =
      let header := (Header.unpack octets).1
      let cut := if header.hasSecondary then secondaryLength else 0
      if declared octets - 6 < cut then .error (.secondaryTooLong cut (declared octets - 6))
      else .ok { header, secondary := (octets.drop 6).take cut, user := (octets.drop 6).drop cut } := by
  have hs : ¬ octets.length < headerSize := Nat.not_lt.mpr (h ▸ Nat.le_add_right _ _)
  have hl : (octets.drop headerSize).length = declared octets - 6 := by
    rw [List.length_drop, h]
    rfl
  rw [read_eq, if_neg hs, hl, h, if_neg (lt_irrefl _), if_neg (lt_irrefl _)]
  rfl

/-- The reader's judgement: each answer with what it is given for. -/
theorem read_cases (octets : Octets) (secondaryLength : ℕ) :
    let announced := (octets.octetAt 0).toNat.testBit 3
    (octets.length < 6 ∧ read octets secondaryLength = .error (.cutShort octets.length 6)) ∨
    (6 ≤ octets.length ∧ octets.length < declared octets ∧
      read octets secondaryLength = .error (.cutShort octets.length (declared octets))) ∨
    (6 ≤ octets.length ∧ declared octets < octets.length ∧
      read octets secondaryLength = .error (.overlong (declared octets) octets.length)) ∨
    (octets.length = declared octets ∧ announced = true ∧
      declared octets - 6 < secondaryLength ∧ read octets secondaryLength =
        .error (.secondaryTooLong secondaryLength (declared octets - 6))) ∨
    (octets.length = declared octets ∧
      (announced = true → secondaryLength ≤ declared octets - 6) ∧
      ∃ packet, read octets secondaryLength = .ok packet) := by
  intro announced
  by_cases hs : octets.length < 6
  · exact .inl ⟨hs, by rw [read_eq]; exact if_pos hs⟩
  have h6 : 6 ≤ octets.length := Nat.not_lt.mp hs
  rcases Nat.lt_trichotomy octets.length (declared octets) with hl | he | hg
  · have hr : read octets secondaryLength = .error (.cutShort octets.length (declared octets)) := by
      rw [read_eq]
      exact (if_neg hs).trans (if_pos hl)
    exact .inr (.inl ⟨h6, hl, hr⟩)
  · have hr := read_of_eq_declared he secondaryLength
    dsimp only at hr
    rw [hasSecondary_unpack octets] at hr
    cases ha : announced with
    | false =>
      rw [show (octets.octetAt 0).toNat.testBit 3 = false from ha] at hr
      exact .inr (.inr (.inr (.inr ⟨he, nofun, _, hr⟩)))
    | true =>
      rw [show (octets.octetAt 0).toNat.testBit 3 = true from ha, if_pos rfl] at hr
      by_cases hc : declared octets - 6 < secondaryLength
      · rw [if_pos hc] at hr
        exact .inr (.inr (.inr (.inl ⟨he, rfl, hc, hr⟩)))
      · rw [if_neg hc] at hr
        exact .inr (.inr (.inr (.inr ⟨he, fun _ => Nat.not_lt.mp hc, _, hr⟩)))
  · exact .inr (.inr (.inl ⟨h6, hg, read_of_declared_lt hg secondaryLength⟩))

/-- Every answer has its reason, and no two reasons meet. -/
theorem read_iff (octets : Octets) (secondaryLength : ℕ) :
    let word := (octets.octetAt 4).toNat * 256 + (octets.octetAt 5).toNat
    let announced := (octets.octetAt 0).toNat.testBit 3
    let answer := read octets secondaryLength
    (answer = .error (.cutShort octets.length 6) ↔ octets.length < 6) ∧
    (answer = .error (.cutShort octets.length (7 + word)) ↔
      6 ≤ octets.length ∧ octets.length < 7 + word) ∧
    (answer = .error (.overlong (7 + word) octets.length) ↔ 7 + word < octets.length) ∧
    (answer = .error (.secondaryTooLong secondaryLength (word + 1)) ↔
      octets.length = 7 + word ∧ announced = true ∧ word + 1 < secondaryLength) ∧
    ((∃ packet, answer = .ok packet) ↔
      octets.length = 7 + word ∧ (announced = true → secondaryLength ≤ word + 1)) := by
  intro word announced answer
  have hd : declared octets = 7 + word := declared_eq_octets octets
  have hw : declared octets - 6 = word + 1 := by omega
  have hne : Error.cutShort octets.length 6 ≠ .cutShort octets.length (7 + word) := by
    rw [Ne, Error.cutShort.injEq]
    omega
  have hj := read_cases octets secondaryLength
  rw [hw, hd] at hj
  rcases hj with ⟨hs, hr⟩ | ⟨h6, hl, hr⟩ | ⟨h6, hg, hr⟩ | ⟨he, ha, hc, hr⟩ | ⟨he, hc, packet, hr⟩
  · exact ⟨iff_of_true hr hs,
      iff_of_false (hr.trans_ne (mt Except.error.inj hne)) (by omega),
      iff_of_false (hr.trans_ne nofun) (by omega),
      iff_of_false (hr.trans_ne nofun) (by omega),
      iff_of_false (fun ⟨_, h⟩ => nomatch hr.symm.trans h) (by omega)⟩
  · exact ⟨iff_of_false (hr.trans_ne (mt Except.error.inj hne.symm)) (by omega),
      iff_of_true hr ⟨h6, hl⟩,
      iff_of_false (hr.trans_ne nofun) (by omega),
      iff_of_false (hr.trans_ne nofun) (by omega),
      iff_of_false (fun ⟨_, h⟩ => nomatch hr.symm.trans h) (by omega)⟩
  · exact ⟨iff_of_false (hr.trans_ne nofun) (by omega),
      iff_of_false (hr.trans_ne nofun) (by omega),
      iff_of_true hr hg,
      iff_of_false (hr.trans_ne nofun) (by omega),
      iff_of_false (fun ⟨_, h⟩ => nomatch hr.symm.trans h) (by omega)⟩
  · exact ⟨iff_of_false (hr.trans_ne nofun) (by omega),
      iff_of_false (hr.trans_ne nofun) (by omega),
      iff_of_false (hr.trans_ne nofun) (by omega),
      iff_of_true hr ⟨he, ha, hc⟩,
      iff_of_false (fun ⟨_, h⟩ => nomatch hr.symm.trans h)
        fun h => absurd (h.2 ha) (Nat.not_le.mpr hc)⟩
  · exact ⟨iff_of_false (hr.trans_ne nofun) (by omega),
      iff_of_false (hr.trans_ne nofun) (by omega),
      iff_of_false (hr.trans_ne nofun) (by omega),
      iff_of_false (hr.trans_ne nofun) fun h => absurd (hc h.2.1) (Nat.not_le.mpr h.2.2),
      iff_of_true ⟨packet, hr⟩ ⟨he, hc⟩⟩

/-- What is read is the data field, cut where a secondary header is announced. -/
theorem data_of_read (h : read octets secondaryLength = .ok packet) :
    let announced := (octets.octetAt 0).toNat.testBit 3
    packet.octets = octets ∧ packet.header.hasSecondary = announced ∧
      packet.secondary ++ packet.user = octets.drop 6 ∧
      packet.secondary.length = if announced then secondaryLength else 0 := by
  obtain ⟨hf, h1, hm, hs, rfl⟩ := read_eq_ok_iff.mp h
  have ha : packet.header.hasSecondary = (packet.octets.octetAt 0).toNat.testBit 3 := by
    rw [← hasSecondary_unpack, SpacePacket.octets, hf.unpack_octets h1 hm]
  exact ⟨rfl, ha, rfl, ha ▸ hs⟩

/-- With room in the buffer the written form covers its front and the rest of the buffer stays. -/
theorem Writable.writeInto_eq (h : packet.Writable) (hr : packet.size ≤ buffer.length) :
    packet.writeInto buffer = (.ok packet.size, packet.octets ++ buffer.drop packet.size) := by
  let front := packet.header.octets packet.dataFieldLength
  have hl : headerSize + packet.secondary.length = 0 + (front ++ packet.secondary).length := by
    rw [Nat.zero_add, List.length_append]
    rfl
  have h1 : (buffer.overwrite 0 front).overwrite headerSize packet.secondary =
      buffer.overwrite 0 (front ++ packet.secondary) :=
    Octets.overwrite_overwrite (Nat.zero_le _) (Nat.zero_add _).symm
  have h2 : (buffer.overwrite 0 (front ++ packet.secondary)).overwrite
      (headerSize + packet.secondary.length) packet.user =
        buffer.overwrite 0 (front ++ packet.secondary ++ packet.user) :=
    Octets.overwrite_overwrite (Nat.zero_le _) hl
  have ho : front ++ packet.secondary ++ packet.user = packet.octets := List.append_assoc _ _ _
  simp only [writeInto, headerOctets_eq_ok_iff.mpr ⟨h, rfl⟩, if_neg (Nat.not_lt.mpr hr)]
  rw [h1, h2, ho, Octets.overwrite_zero, length_octets]

theorem Writable.writeInto_of_small (h : packet.Writable) (hr : buffer.length < packet.size) :
    packet.writeInto buffer = (.error (.noRoom packet.size buffer.length), buffer) := by
  simp only [writeInto, headerOctets_eq_ok_iff.mpr ⟨h, rfl⟩, if_pos hr]

theorem writeInto_of_error {error : Error} (h : packet.headerOctets = .error error)
    (buffer : Octets) : packet.writeInto buffer = (.error error, buffer) := by
  simp only [writeInto, h]

/-- Nothing else is written. -/
theorem writeInto_eq_ok (h : packet.writeInto buffer = (.ok size, after)) :
    packet.Writable ∧ packet.size ≤ buffer.length ∧ size = packet.size ∧
      after = packet.octets ++ buffer.drop packet.size := by
  cases hh : packet.headerOctets with
  | error error =>
    rw [writeInto_of_error hh] at h
    cases h
  | ok packed =>
    have hw := (headerOctets_eq_ok_iff.mp hh).1
    rcases Nat.lt_or_ge buffer.length packet.size with hr | hr
    · rw [hw.writeInto_of_small hr] at h
      cases h
    · rw [hw.writeInto_eq hr] at h
      cases h
      exact ⟨hw, hr, rfl, rfl⟩

/-- Octets are a packet for a length word that says their length and an announced secondary header
that is no longer than the data field; for every other octets the first fault is told. What was read
is written as the same octets, unless a secondary header was announced and none cut off, and what was
written is read as it was. -/
theorem format_exact :
    (∀ (octets : Octets) (secondaryLength : ℕ),
      let word := (octets.octetAt 4).toNat * 256 + (octets.octetAt 5).toNat
      let announced := (octets.octetAt 0).toNat.testBit 3
      let answer := read octets secondaryLength
      (answer = .error (.cutShort octets.length 6) ↔ octets.length < 6) ∧
      (answer = .error (.cutShort octets.length (7 + word)) ↔
        6 ≤ octets.length ∧ octets.length < 7 + word) ∧
      (answer = .error (.overlong (7 + word) octets.length) ↔ 7 + word < octets.length) ∧
      (answer = .error (.secondaryTooLong secondaryLength (word + 1)) ↔
        octets.length = 7 + word ∧ announced = true ∧ word + 1 < secondaryLength) ∧
      ((∃ packet, answer = .ok packet) ↔
        octets.length = 7 + word ∧ (announced = true → secondaryLength ≤ word + 1)) ∧
      ∀ packet, answer = .ok packet →
        packet.octets = octets ∧ packet.header.hasSecondary = announced ∧
        packet.secondary ++ packet.user = octets.drop 6 ∧
        packet.secondary.length = (if announced then secondaryLength else 0) ∧
        (announced = false ∨ 1 ≤ secondaryLength →
          ∀ buffer : Octets, octets.length ≤ buffer.length → packet.writeInto buffer =
            (.ok octets.length, octets ++ buffer.drop octets.length))) ∧
    ∀ (packet : SpacePacket) (buffer after : Octets) (size : ℕ),
      packet.writeInto buffer = (.ok size, after) →
        read (after.take size) packet.secondary.length = .ok packet := by
  constructor
  · intro octets secondaryLength word announced answer
    obtain ⟨hshort, hcut, hlong, hsecondary, hread⟩ := read_iff octets secondaryLength
    refine ⟨hshort, hcut, hlong, hsecondary, hread, ?_⟩
    intro packet h
    obtain ⟨ho, ha, hdata, hs⟩ := data_of_read h
    refine ⟨ho, ha, hdata, hs, ?_⟩
    intro hn buffer hr
    have hw : packet.Writable := writable_of_read h (ha ▸ hn)
    have hl : packet.size = octets.length := by rw [← length_octets, ho]
    rw [hw.writeInto_eq (hl.trans_le hr), ho, hl]
  · intro packet buffer after size h
    obtain ⟨hw, -, rfl, rfl⟩ := writeInto_eq_ok h
    rw [← length_octets, List.take_left]
    exact hw.read_octets fun _ => rfl

/-- A packet with a secondary header of one octet, written into a longer buffer, and the same octets
with a cut behind their end. -/
theorem format_exact_announced :
    let packet : SpacePacket :=
      { header := { hasSecondary := true }, secondary := [0xAA], user := [0x01, 0x02] }
    let octets : Octets := [0x08, 0x00, 0xC0, 0x00, 0x00, 0x02, 0xAA, 0x01, 0x02]
    let buffer : Octets := octets ++ [0xEE]
    read octets 1 = .ok packet ∧ octets.length ≤ buffer.length ∧
      packet.writeInto buffer = (.ok 9, buffer) ∧
      read (buffer.take 9) 1 = .ok packet ∧
      read octets 4 = .error (.secondaryTooLong 4 3) := by
  intro packet octets buffer
  have hr : read octets 1 = .ok packet := by decide
  obtain ⟨hoctets, hwritten⟩ := format_exact
  have hb : octets.length ≤ buffer.length := by decide
  have hw := ((hoctets octets 1).2.2.2.2.2 packet hr).2.2.2.2 (.inr (le_refl 1)) buffer hb
  have hd : octets ++ buffer.drop octets.length = buffer := rfl
  rw [hd] at hw
  exact ⟨hr, hb, hw, hwritten packet buffer buffer 9 hw, by decide⟩

end OnboardLink.SpacePacket
