import Mathlib
import OnboardLink.Proofs.Judgement
import OnboardLink.SpacePacket.Header

/-! The packing of a primary header. Its two first words are numbers whose digits, of unequal width,
are the fields; fields within their widths and words correspond one to one. So packing a header and
unpacking it undo each other, and a header that cannot be packed is refused for the first fault it
has. -/
namespace OnboardLink.SpacePacket.Header

/-- Every field is within its width. -/
structure Fits (header : Header) : Prop where
  version : header.version ≤ maxVersion
  application : header.application ≤ maxApplication
  sequenceCount : header.sequenceCount ≤ maxSequenceCount

/-- The fields in two words. -/
def ofWords (identification sequencing : UInt16) : Header where
  version := (identification >>> 13).toUInt8
  kind := if identification &&& 0x1000 ≠ 0 then .telecommand else .telemetry
  hasSecondary := identification &&& 0x0800 ≠ 0
  application := identification &&& maxApplication
  segment := .ofBits (sequencing >>> 14)
  sequenceCount := sequencing &&& maxSequenceCount

/-- The six octets of a header in front of a data field of the given length. -/
def octets (header : Header) (dataField : ℕ) : Octets :=
  Octets.ofWord header.identification ++ (Octets.ofWord header.sequencing ++
    Octets.ofWord (dataField - 1).toUInt16)

variable {header : Header}

/-- Fields beyond their widths, from the first field to the last. -/
def fieldFaults (header : Header) : List (Bool × Error) :=
  [(7 < header.version.toNat, .versionTooGreat header.version),
    (0x7FF < header.application.toNat, .applicationTooGreat header.application),
    (0x3FFF < header.sequenceCount.toNat, .sequenceCountTooGreat header.sequenceCount)]

/-- Lengths of a data field that the length word cannot say. -/
def lengthFaults (dataField : ℕ) : List (Bool × Error) :=
  [(dataField = 0, .noData), (65536 < dataField, .dataTooLong dataField 65536)]

/-- What can be wrong with a header in front of a data field of the given length, in the order in
which it is looked for. -/
def faults (header : Header) (dataField : ℕ) : List (Bool × Error) :=
  header.fieldFaults ++ lengthFaults dataField

theorem fits_iff : header.Fits ↔ header.version.toNat ≤ 7 ∧
    header.application.toNat ≤ 0x7FF ∧ header.sequenceCount.toNat ≤ 0x3FFF :=
  ⟨fun h => ⟨h.version, h.application, h.sequenceCount⟩, fun ⟨hv, ha, hs⟩ => ⟨hv, ha, hs⟩⟩

private theorem fits_iff_faultless : header.Fits ↔ faultless header.fieldFaults = true := by
  simp [fits_iff, fieldFaults]

private theorem check_eq_judge (header : Header) :
    header.check = judge header.fieldFaults (.ok ()) .error := by
  have hv : maxVersion < header.version ↔ 7 < header.version.toNat := Iff.rfl
  have ha : maxApplication < header.application ↔ 0x7FF < header.application.toNat := Iff.rfl
  have hs : maxSequenceCount < header.sequenceCount ↔ 0x3FFF < header.sequenceCount.toNat :=
    Iff.rfl
  simp only [check, fieldFaults, judge_cons, judge_nil, decide_eq_true_eq, hv, ha, hs]

theorem check_eq_ok_iff : header.check = .ok () ↔ header.Fits := by
  rw [check_eq_judge, judge_eq_ok_iff, fits_iff_faultless]
  exact and_iff_left rfl

/-- A field laid below another that leaves room for it adds its number. -/
private theorem toNat_or {high low : UInt16} (width : ℕ) (hh : 2 ^ width ∣ high.toNat)
    (hl : low.toNat < 2 ^ width) : (high ||| low).toNat = high.toNat + low.toNat := by
  obtain ⟨digits, hd⟩ := hh
  rw [UInt16.toNat_or, hd, Nat.two_pow_add_eq_or_of_lt hl]

/-- A field moved up to its place, where nothing of it is lost. -/
private theorem toNat_shiftLeft {field place : UInt16}
    (h : field.toNat * 2 ^ (place.toNat % 16) < 2 ^ 16) :
    (field <<< place).toNat = field.toNat * 2 ^ (place.toNat % 16) := by
  rw [UInt16.toNat_shiftLeft, Nat.shiftLeft_eq, Nat.mod_eq_of_lt h]

private theorem toNat_bit_le (kind : Kind) : kind.bit.toNat ≤ 1 := by
  cases kind <;> decide

private theorem toNat_flag_le (flag : Bool) : flag.toUInt16.toNat ≤ 1 := by
  cases flag <;> decide

private theorem toNat_bits_le (segment : Segment) : segment.bits.toNat ≤ 3 := by
  cases segment <;> decide

/-- The digits of the first word. -/
theorem Fits.toNat_identification (h : header.Fits) :
    header.identification.toNat = header.version.toNat * 8192 + header.kind.bit.toNat * 4096 +
      header.hasSecondary.toUInt16.toNat * 2048 + header.application.toNat := by
  have hv : header.version.toUInt16.toNat ≤ 7 := h.version
  have ha : header.application.toNat ≤ 2047 := h.application
  have hk := toNat_bit_le header.kind
  have hs := toNat_flag_le header.hasSecondary
  have h13 : (header.version.toUInt16 <<< 13).toNat = header.version.toUInt16.toNat * 8192 :=
    toNat_shiftLeft (by change _ * 8192 < 65536; omega)
  have h12 : (header.kind.bit <<< 12).toNat = header.kind.bit.toNat * 4096 :=
    toNat_shiftLeft (by change _ * 4096 < 65536; omega)
  have h11 : (header.hasSecondary.toUInt16 <<< 11).toNat =
      header.hasSecondary.toUInt16.toNat * 2048 :=
    toNat_shiftLeft (by change _ * 2048 < 65536; omega)
  have hvk : ((header.version.toUInt16 <<< 13) ||| (header.kind.bit <<< 12)).toNat =
      header.version.toUInt16.toNat * 8192 + header.kind.bit.toNat * 4096 := by
    rw [toNat_or 13 (by omega) (by omega), h13, h12]
  have hvks : ((header.version.toUInt16 <<< 13) ||| (header.kind.bit <<< 12) |||
      (header.hasSecondary.toUInt16 <<< 11)).toNat = header.version.toUInt16.toNat * 8192 +
        header.kind.bit.toNat * 4096 + header.hasSecondary.toUInt16.toNat * 2048 := by
    rw [toNat_or 12 (by omega) (by omega), hvk, h11]
  rw [identification, toNat_or 11 (by omega) (by omega), hvks, UInt8.toNat_toUInt16]

private theorem Fits.toNat_sequencing (h : header.Fits) :
    header.sequencing.toNat = header.segment.bits.toNat * 16384 + header.sequenceCount.toNat := by
  have hc : header.sequenceCount.toNat ≤ 16383 := h.sequenceCount
  have hb := toNat_bits_le header.segment
  have h14 : (header.segment.bits <<< 14).toNat = header.segment.bits.toNat * 16384 :=
    toNat_shiftLeft (by change _ * 16384 < 65536; omega)
  rw [sequencing, toNat_or 14 (by omega) (by omega), h14]

private theorem toNat_and_mask (word mask : UInt16) (width : ℕ) (h : mask.toNat = 2 ^ width - 1) :
    (word &&& mask).toNat = word.toNat % 2 ^ width := by
  rw [UInt16.toNat_and, h, Nat.and_two_pow_sub_one_eq_mod]

private theorem and_ne_zero_iff (word mask : UInt16) (place : ℕ) (h : mask.toNat = 2 ^ place) :
    word &&& mask ≠ 0 ↔ word.toNat / 2 ^ place % 2 = 1 := by
  rw [ne_eq, ← UInt16.toNat_inj, UInt16.toNat_and, h, Nat.and_two_pow,
    Nat.testBit_eq_decide_div_mod_eq]
  by_cases hp : word.toNat / 2 ^ place % 2 = 1
  · simp [hp]
  · simp [hp]

private theorem bits_ofBits {bits : UInt16} (h : bits.toNat ≤ 3) :
    (Segment.ofBits bits).bits = bits := by
  obtain h0 | h1 | h2 | h3 : bits = 0 ∨ bits = 1 ∨ bits = 2 ∨ bits = 3 := by
    simp only [← UInt16.toNat_inj]
    change bits.toNat = 0 ∨ bits.toNat = 1 ∨ bits.toNat = 2 ∨ bits.toNat = 3
    omega
  all_goals
    subst bits
    rfl

section Words

variable (identification sequencing : UInt16)

private theorem toNat_version_ofWords :
    (ofWords identification sequencing).version.toNat = identification.toNat / 8192 := by
  have := identification.toNat_lt
  simp [ofWords, Nat.shiftRight_eq_div_pow]
  omega

private theorem toNat_kind_ofWords :
    (ofWords identification sequencing).kind.bit.toNat = identification.toNat / 4096 % 2 := by
  have hb : identification &&& 0x1000 ≠ 0 ↔ identification.toNat / 4096 % 2 = 1 :=
    and_ne_zero_iff identification 0x1000 12 rfl
  by_cases hc : identification &&& 0x1000 ≠ 0
  · rw [hb.mp hc, ofWords, if_pos hc]
    rfl
  · have h0 : identification.toNat / 4096 % 2 = 0 := Nat.mod_two_ne_one.mp (mt hb.mpr hc)
    rw [h0, ofWords, if_neg hc]
    rfl

theorem toNat_hasSecondary_ofWords :
    (ofWords identification sequencing).hasSecondary.toUInt16.toNat =
      identification.toNat / 2048 % 2 := by
  have hb : identification &&& 0x0800 ≠ 0 ↔ identification.toNat / 2048 % 2 = 1 :=
    and_ne_zero_iff identification 0x0800 11 rfl
  by_cases hc : identification &&& 0x0800 ≠ 0
  · rw [hb.mp hc, ofWords, decide_eq_true hc]
    rfl
  · have h0 : identification.toNat / 2048 % 2 = 0 := Nat.mod_two_ne_one.mp (mt hb.mpr hc)
    rw [h0, ofWords, decide_eq_false hc]
    rfl

private theorem toNat_application_ofWords :
    (ofWords identification sequencing).application.toNat = identification.toNat % 2048 :=
  toNat_and_mask identification maxApplication 11 rfl

private theorem toNat_segment_ofWords :
    (ofWords identification sequencing).segment.bits.toNat = sequencing.toNat / 16384 := by
  have hs : (sequencing >>> 14).toNat = sequencing.toNat / 16384 := by
    simp [Nat.shiftRight_eq_div_pow]
  have := sequencing.toNat_lt
  rw [ofWords, bits_ofBits (by omega), hs]

private theorem toNat_sequenceCount_ofWords :
    (ofWords identification sequencing).sequenceCount.toNat = sequencing.toNat % 16384 :=
  toNat_and_mask sequencing maxSequenceCount 14 rfl

/-- Whatever the words are, the fields read from them are within their widths. -/
theorem ofWords_fits : (ofWords identification sequencing).Fits := by
  refine ⟨UInt8.le_iff_toNat_le.mpr ?_, UInt16.le_iff_toNat_le.mpr ?_,
    UInt16.le_iff_toNat_le.mpr ?_⟩
  · have := identification.toNat_lt
    rw [toNat_version_ofWords]
    change _ ≤ 7
    omega
  · rw [toNat_application_ofWords]
    exact Nat.le_of_lt_succ (Nat.mod_lt _ (by decide))
  · rw [toNat_sequenceCount_ofWords]
    exact Nat.le_of_lt_succ (Nat.mod_lt _ (by decide))

private theorem identification_ofWords :
    (ofWords identification sequencing).identification = identification := by
  apply UInt16.toNat_inj.mp
  rw [(ofWords_fits identification sequencing).toNat_identification, toNat_version_ofWords,
    toNat_kind_ofWords, toNat_hasSecondary_ofWords, toNat_application_ofWords]
  omega

private theorem sequencing_ofWords :
    (ofWords identification sequencing).sequencing = sequencing := by
  apply UInt16.toNat_inj.mp
  rw [(ofWords_fits identification sequencing).toNat_sequencing, toNat_segment_ofWords,
    toNat_sequenceCount_ofWords]
  omega

end Words

private theorem kind_eq {a b : Kind} (h : a.bit.toNat = b.bit.toNat) : a = b := by
  cases a <;> cases b <;> first | rfl | cases h

private theorem flag_eq {a b : Bool} (h : a.toUInt16.toNat = b.toUInt16.toNat) : a = b := by
  cases a <;> cases b <;> first | rfl | cases h

private theorem segment_eq {a b : Segment} (h : a.bits.toNat = b.bits.toNat) : a = b := by
  have hb : a.bits = b.bits := UInt16.toNat_inj.mp h
  rw [← Segment.ofBits_bits a, hb, Segment.ofBits_bits]

/-- Fields within their widths are told apart by their words. -/
theorem Fits.eq_of_words {other : Header} (h : header.Fits) (ho : other.Fits)
    (hi : header.identification = other.identification)
    (hs : header.sequencing = other.sequencing) : header = other := by
  -- Equal words have equal digits, since each digit is below the weight of the next.
  have hid := congrArg UInt16.toNat hi
  have hsd := congrArg UInt16.toNat hs
  rw [h.toNat_identification, ho.toNat_identification] at hid
  rw [h.toNat_sequencing, ho.toNat_sequencing] at hsd
  have ha : header.application.toNat ≤ 2047 := h.application
  have hb : other.application.toNat ≤ 2047 := ho.application
  have hc : header.sequenceCount.toNat ≤ 16383 := h.sequenceCount
  have hd : other.sequenceCount.toNat ≤ 16383 := ho.sequenceCount
  have hk := toNat_bit_le header.kind
  have hl := toNat_bit_le other.kind
  have hf := toNat_flag_le header.hasSecondary
  have hg := toNat_flag_le other.hasSecondary
  have hversion : header.version = other.version := UInt8.toNat_inj.mp (by omega)
  have hkind : header.kind = other.kind := kind_eq (by omega)
  have hflag : header.hasSecondary = other.hasSecondary := flag_eq (by omega)
  have happlication : header.application = other.application := UInt16.toNat_inj.mp (by omega)
  have hsegment : header.segment = other.segment := segment_eq (by omega)
  have hcount : header.sequenceCount = other.sequenceCount := UInt16.toNat_inj.mp (by omega)
  cases header
  cases other
  rw [mk.injEq]
  exact ⟨hversion, hkind, hflag, happlication, hsegment, hcount⟩

/-- Fields within their widths are found again in their words. -/
theorem Fits.ofWords_eq (h : header.Fits) :
    ofWords header.identification header.sequencing = header :=
  (ofWords_fits _ _).eq_of_words h (identification_ofWords _ _) (sequencing_ofWords _ _)

@[simp] theorem length_octets (header : Header) (dataField : ℕ) :
    (header.octets dataField).length = headerSize := rfl

/-- The fields are judged before the length of the data field. -/
theorem pack_eq_judge (header : Header) (dataField : ℕ) : header.pack dataField =
    judge (header.faults dataField) (.ok (header.octets dataField)) .error := by
  rw [pack, check_eq_judge, faults, judge_append]
  rcases judge_cases header.fieldFaults with ⟨-, hn⟩ | ⟨-, fault, -, hf⟩
  · simp only [hn, lengthFaults, judge_cons, judge_nil, decide_eq_true_eq, maxDataField]
    rfl
  · simp only [hf]

theorem faultless_faults_iff {dataField : ℕ} : faultless (header.faults dataField) = true ↔
    header.Fits ∧ 1 ≤ dataField ∧ dataField ≤ maxDataField := by
  have hl : faultless (lengthFaults dataField) = true ↔
      1 ≤ dataField ∧ dataField ≤ maxDataField := by
    simp [lengthFaults, maxDataField, Nat.one_le_iff_ne_zero]
  rw [faults, faultless_append, Bool.and_eq_true, ← fits_iff_faultless, hl]

/-- A header is packed where its fields are within their widths and the data field has a length that
the length word can say. -/
theorem pack_eq_ok_iff {dataField : ℕ} {packed : Octets} : header.pack dataField = .ok packed ↔
    header.Fits ∧ 1 ≤ dataField ∧ dataField ≤ maxDataField ∧ packed = header.octets dataField := by
  rw [pack_eq_judge, judge_eq_ok_iff, faultless_faults_iff, and_assoc, and_assoc]

/-- The length word is one less than the length it says, so that it says the longest too. -/
theorem toNat_lengthWord {dataField : ℕ} (h1 : 1 ≤ dataField) (hm : dataField ≤ maxDataField) :
    (dataField - 1).toUInt16.toNat + 1 = dataField := by
  have : dataField ≤ 65536 := hm
  rw [Nat.toUInt16, UInt16.toNat_ofNat_of_lt' (by change _ < 65536; omega)]
  omega

/-- A packed header is unpacked again, whatever follows it. -/
theorem Fits.unpack_octets (h : header.Fits) {dataField : ℕ} (h1 : 1 ≤ dataField)
    (hm : dataField ≤ maxDataField) (rest : Octets) :
    unpack (header.octets dataField ++ rest) = (header, dataField) := by
  have hi : (header.octets dataField ++ rest).wordAt 0 = header.identification :=
    Octets.word_ofWord _
  have hs : (header.octets dataField ++ rest).wordAt 2 = header.sequencing :=
    Octets.word_ofWord _
  have hl : (header.octets dataField ++ rest).wordAt 4 = (dataField - 1).toUInt16 :=
    Octets.word_ofWord _
  change (ofWords _ _, _ + 1) = _
  rw [hi, hs, hl, h.ofWords_eq, toNat_lengthWord h1 hm]

/-- Every six octets are the header that is unpacked from them. -/
theorem octets_unpack {octets : Octets} (h : headerSize ≤ octets.length) :
    (unpack octets).1.octets (unpack octets).2 = octets.take headerSize := by
  obtain ⟨a, b, c, d, e, f, rest, rfl⟩ :
      ∃ a b c d e f rest, octets = a :: b :: c :: d :: e :: f :: rest := by
    match octets, h with
    | a :: b :: c :: d :: e :: f :: rest, _ => exact ⟨a, b, c, d, e, f, rest, rfl⟩
  have hi := identification_ofWords (Octets.word a b) (Octets.word c d)
  have hs := sequencing_ofWords (Octets.word a b) (Octets.word c d)
  have hl : ((Octets.word e f).toNat + 1 - 1).toUInt16 = Octets.word e f := by
    rw [Nat.add_sub_cancel]
    exact UInt16.ofNat_toNat
  change Octets.ofWord (ofWords (Octets.word a b) (Octets.word c d)).identification ++
    (Octets.ofWord (ofWords (Octets.word a b) (Octets.word c d)).sequencing ++
      Octets.ofWord ((Octets.word e f).toNat + 1 - 1).toUInt16) = [a, b, c, d, e, f]
  rw [hi, hs, hl, Octets.ofWord_word, Octets.ofWord_word, Octets.ofWord_word]
  rfl

theorem unpack_fits (octets : Octets) : (unpack octets).1.Fits := ofWords_fits _ _

theorem unpack_length_bounds (octets : Octets) :
    1 ≤ (unpack octets).2 ∧ (unpack octets).2 ≤ maxDataField :=
  ⟨Nat.le_add_left _ _, (octets.wordAt 4).toNat_lt⟩

/-- Six octets and a header with the length of its data field correspond one to one, where the
fields are within their widths and the length is one that a word can say. Every other header is
refused for the first of its faults. -/
theorem packing_bijective :
    (∀ octets : Octets, octets.length = 6 →
      (unpack octets).1.pack (unpack octets).2 = .ok octets ∧
      (unpack octets).1.check = .ok () ∧
      1 ≤ (unpack octets).2 ∧ (unpack octets).2 ≤ 65536) ∧
    ∀ (header : Header) (dataField : ℕ),
      ((∃ packed, header.pack dataField = .ok packed) ↔
        header.version.toNat ≤ 7 ∧ header.application.toNat ≤ 0x7FF ∧
          header.sequenceCount.toNat ≤ 0x3FFF ∧ 1 ≤ dataField ∧ dataField ≤ 65536) ∧
      (∀ packed, header.pack dataField = .ok packed →
        packed.length = 6 ∧ unpack packed = (header, dataField)) ∧
      header.pack dataField =
        judge (header.faults dataField) (.ok (header.octets dataField)) .error := by
  refine ⟨?_, ?_⟩
  · intro octets hl
    obtain ⟨h1, hm⟩ := unpack_length_bounds octets
    have ho : octets = (unpack octets).1.octets (unpack octets).2 := by
      rw [octets_unpack (Nat.le_of_eq hl.symm)]
      exact (List.take_of_length_le (Nat.le_of_eq hl)).symm
    exact ⟨pack_eq_ok_iff.mpr ⟨unpack_fits octets, h1, hm, ho⟩,
      check_eq_ok_iff.mpr (unpack_fits octets), h1, hm⟩
  · intro header dataField
    refine ⟨?_, ?_, pack_eq_judge header dataField⟩
    · constructor
      · rintro ⟨packed, h⟩
        obtain ⟨hf, h1, hm, -⟩ := pack_eq_ok_iff.mp h
        obtain ⟨hv, ha, hs⟩ := fits_iff.mp hf
        exact ⟨hv, ha, hs, h1, hm⟩
      · rintro ⟨hv, ha, hs, h1, hm⟩
        exact ⟨_, pack_eq_ok_iff.mpr ⟨fits_iff.mpr ⟨hv, ha, hs⟩, h1, hm, rfl⟩⟩
    · intro packed h
      obtain ⟨hf, h1, hm, rfl⟩ := pack_eq_ok_iff.mp h
      have hu := hf.unpack_octets h1 hm []
      rw [List.append_nil] at hu
      exact ⟨length_octets header dataField, hu⟩

/-- The header of a packet with a secondary header, and a header with a fault in every field in front
of no data. -/
theorem packing_bijective_announced :
    let octets : Octets := [0x0D, 0x59, 0xD2, 0xAB, 0x0A, 0x8F]
    let header : Header := { hasSecondary := true, application := 1369, sequenceCount := 4779 }
    let faulty : Header := { version := 8, application := 0x800, sequenceCount := 0x4000 }
    octets.length = 6 ∧ header.pack 2704 = .ok octets ∧ header.check = .ok () ∧
      unpack octets = (header, 2704) ∧ faulty.pack 0 = .error (.versionTooGreat 8) := by
  intro octets header faulty
  have hl : octets.length = 6 := rfl
  have hu : unpack octets = (header, 2704) := by decide
  obtain ⟨hp, hc, -⟩ := packing_bijective.1 octets hl
  rw [hu] at hp hc
  exact ⟨hl, hp, hc, ((packing_bijective.2 header 2704).2.1 octets hp).2,
    (packing_bijective.2 faulty 0).2.2⟩

end OnboardLink.SpacePacket.Header
