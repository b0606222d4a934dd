import OnboardLink.Proofs.SpacePacket.RoundTrip

/-! Packets one behind the other. Each says how long it is, so whatever the data of the packets looks
like, their octets fall into the same packets only; all that stays open is where the secondary header
of each ends. -/
namespace OnboardLink.SpacePacket

/-- Appends packets in their order, and answers for each of them. -/
def Sink.appendAll (sink : Sink) : List SpacePacket → List (Except Error ℕ) × Sink
  | [] => ([], sink)
  | packet :: packets =>
    let (answer, sink) := packet.appendTo sink
    let (answers, sink) := sink.appendAll packets
    (answer :: answers, sink)

/-- The packets have the same header and the same data field, cut anywhere. -/
structure Agrees (packet other : SpacePacket) : Prop where
  header : packet.header = other.header
  dataField : packet.secondary ++ packet.user = other.secondary ++ other.user

variable {packet other : SpacePacket} {packets others : List SpacePacket}

theorem appendTo_eq_ok {sink : Sink} (h : (packet.appendTo sink).1.isOk) :
    packet.Writable ∧ (packet.appendTo sink).2 = sink.append packet.octets := by
  cases hp : packet.headerOctets with
  | error fault =>
    rw [appendTo_of_error hp] at h
    cases h
  | ok packed =>
    have hw : packet.Writable := (headerOctets_eq_ok_iff.mp hp).1
    by_cases hr : sink.admits packet.size
    · rw [hw.appendTo_of_room hr]
      exact ⟨hw, rfl⟩
    · rw [hw.appendTo_of_full hr] at h
      cases h

/-- What accepted packets add to a sink. -/
theorem Sink.appendAll_of_accepted {sink : Sink}
    (h : ∀ answer ∈ (sink.appendAll packets).1, answer.isOk) :
    (∀ packet ∈ packets, packet.Writable) ∧
      (sink.appendAll packets).2.written = sink.written ++ (packets.map octets).flatten := by
  induction packets generalizing sink with
  | nil => exact ⟨nofun, (List.append_nil _).symm⟩
  | cons packet packets ih =>
    rw [appendAll, List.forall_mem_cons] at h
    obtain ⟨hw, hs⟩ := appendTo_eq_ok h.1
    obtain ⟨hl, hr⟩ := ih h.2
    refine ⟨List.forall_mem_cons.mpr ⟨hw, hl⟩, ?_⟩
    rw [appendAll, hr, hs, List.map_cons, List.flatten_cons, ← List.append_assoc]
    rfl

/-- Octets that begin with a packet begin with no other. -/
theorem Writable.agrees_of_append_eq (h : packet.Writable) (ho : other.Writable)
    {rest more : Octets} (he : packet.octets ++ rest = other.octets ++ more) :
    packet.Agrees other ∧ packet.octets = other.octets ∧ rest = more := by
  have hu := h.header.unpack_octets h.data h.short (packet.secondary ++ packet.user ++ rest)
  have hv := ho.header.unpack_octets ho.data ho.short (other.secondary ++ other.user ++ more)
  rw [← List.append_assoc] at hu hv
  have hh : (packet.header, packet.dataFieldLength) = (other.header, other.dataFieldLength) := by
    rw [← hu, ← hv]
    exact congrArg Header.unpack he
  obtain ⟨hheader, hlength⟩ := Prod.mk.inj hh
  have hl : packet.octets.length = other.octets.length := by
    rw [length_octets, length_octets, size, size, hlength]
  obtain ⟨hoctets, hrest⟩ := List.append_inj he hl
  have hd : packet.secondary ++ packet.user = other.secondary ++ other.user :=
    (List.append_inj hoctets (by simp)).2
  exact ⟨⟨hheader, hd⟩, hoctets, hrest⟩

private theorem Agrees.octets_eq (h : packet.Agrees other) : packet.octets = other.octets := by
  have hl : packet.dataFieldLength = other.dataFieldLength := by
    rw [dataFieldLength, dataFieldLength, ← List.length_append, h.dataField, List.length_append]
  rw [octets, octets, h.header, h.dataField, hl]

/-- Packets that can be written are found again in their octets, all of them and in their order. -/
theorem flatten_octets_eq_iff (h : ∀ packet ∈ packets, packet.Writable)
    (ho : ∀ other ∈ others, other.Writable) :
    (packets.map octets).flatten = (others.map octets).flatten ↔
      List.Forall₂ Agrees packets others := by
  induction packets generalizing others with
  | nil =>
    cases others with
    | nil => exact iff_of_true rfl .nil
    | cons other others => exact iff_of_false nofun nofun
  | cons packet packets ih =>
    cases others with
    | nil => exact iff_of_false nofun nofun
    | cons other others =>
      obtain ⟨hp, h⟩ := List.forall_mem_cons.mp h
      obtain ⟨hq, ho⟩ := List.forall_mem_cons.mp ho
      rw [List.forall₂_cons, ← ih h ho]
      constructor
      · intro he
        obtain ⟨ha, -, hr⟩ := hp.agrees_of_append_eq hq he
        exact ⟨ha, hr⟩
      · rintro ⟨ha, hr⟩
        rw [List.map_cons, List.map_cons, List.flatten_cons, List.flatten_cons, ha.octets_eq, hr]

/-- Packets that were all appended can be told from their octets: other packets leave the same octets
only where they are as many, and have the same headers and the same data fields in the same order.
No packet's octets are a beginning of those of another, but for the whole of them. -/
theorem uniquely_decodable (room otherRoom : Option ℕ) :
    (∀ packets others : List SpacePacket,
      let run := Sink.appendAll ⟨[], room⟩ packets
      let otherRun := Sink.appendAll ⟨[], otherRoom⟩ others
      (∀ answer ∈ run.1, answer.isOk) → (∀ answer ∈ otherRun.1, answer.isOk) →
        (run.2.written = otherRun.2.written ↔ List.Forall₂ Agrees packets others)) ∧
    ∀ packet other : SpacePacket,
      let run := packet.appendTo ⟨[], room⟩
      let otherRun := other.appendTo ⟨[], otherRoom⟩
      run.1.isOk → otherRun.1.isOk → run.2.written <+: otherRun.2.written →
        run.2.written = otherRun.2.written := by
  constructor
  · intro packets others run otherRun h ho
    obtain ⟨hw, hr⟩ := Sink.appendAll_of_accepted h
    obtain ⟨hv, hs⟩ := Sink.appendAll_of_accepted ho
    rw [hr, hs, List.append_cancel_left_eq, flatten_octets_eq_iff hw hv]
  · rintro packet other run otherRun h ho ⟨rest, he⟩
    obtain ⟨hw, hr⟩ := appendTo_eq_ok h
    obtain ⟨hv, hs⟩ := appendTo_eq_ok ho
    rw [hr, hs] at he ⊢
    have he : packet.octets ++ rest = other.octets ++ [] := he.trans (List.append_nil _).symm
    exact (hw.agrees_of_append_eq hv he).2.1

/-- A packet whose data is another packet, cut at two places and followed by the packet it holds. -/
theorem uniquely_decodable_nested :
    let inner : SpacePacket := { user := [0xAA] }
    let outer : SpacePacket :=
      { header := { hasSecondary := true }, secondary := [0x01, 0x02], user := inner.octets }
    let recut : SpacePacket := { outer with secondary := [0x01], user := 0x02 :: inner.octets }
    let run := Sink.appendAll ⟨[], none⟩ [outer, inner]
    let otherRun := Sink.appendAll ⟨[], some 64⟩ [recut, inner]
    let last := outer.appendTo ⟨[], none⟩
    let otherLast := recut.appendTo ⟨[], some 64⟩
    (∀ answer ∈ run.1, answer.isOk) ∧ (∀ answer ∈ otherRun.1, answer.isOk) ∧
      run.2.written = otherRun.2.written ∧ List.Forall₂ Agrees [outer, inner] [recut, inner] ∧
      last.1.isOk ∧ otherLast.1.isOk ∧ last.2.written <+: otherLast.2.written ∧
      last.2.written = otherLast.2.written := by
  intro inner outer recut run otherRun last otherLast
  obtain ⟨hlists, hprefix⟩ := uniquely_decodable none (some 64)
  have h : ∀ answer ∈ run.1, answer.isOk := by decide
  have ho : ∀ answer ∈ otherRun.1, answer.isOk := by decide
  have hw : run.2.written = otherRun.2.written := by decide
  have hl : last.1.isOk := by decide
  have hm : otherLast.1.isOk := by decide
  have hp : last.2.written <+: otherLast.2.written := by decide
  exact ⟨h, ho, hw, (hlists _ _ h ho).mp hw, hl, hm, hp, hprefix _ _ hl hm hp⟩

end OnboardLink.SpacePacket
