import OnboardLink.Transfer.Exchange
import OnboardLink.Proofs.Transfer.Lossless

/-! What the counters of an exchange count. Every call adds what its answer says and nothing else
does, so the counters are a tally of the calls since they were last cleared. Frames that carry a
packet have 11 to 65539 octets, which ties the octets counted to the packets. -/
namespace OnboardLink

namespace Counters

instance : Add Counters where
  add a b :=
    { packetsSent := a.packetsSent + b.packetsSent
      packetsReceived := a.packetsReceived + b.packetsReceived
      checksumErrors := a.checksumErrors + b.checksumErrors
      frameErrors := a.frameErrors + b.frameErrors
      linkErrors := a.linkErrors + b.linkErrors
      octetsSent := a.octetsSent + b.octetsSent
      octetsReceived := a.octetsReceived + b.octetsReceived }

theorem add_def (a b : Counters) : a + b =
    ⟨a.packetsSent + b.packetsSent, a.packetsReceived + b.packetsReceived,
      a.checksumErrors + b.checksumErrors, a.frameErrors + b.frameErrors,
      a.linkErrors + b.linkErrors, a.octetsSent + b.octetsSent,
      a.octetsReceived + b.octetsReceived⟩ := rfl

/-- What an attempt to send adds. -/
def ofSent : Except AddressedPacket.Error ℕ → Counters
  | .ok size => { packetsSent := 1, octetsSent := size.toUInt64 }
  | .error _ => {}

/-- What an attempt to receive from so many octets adds. -/
def ofReceived (size : ℕ) : Except AddressedPacket.Error AddressedPacket → Counters
  | .ok _ => { packetsReceived := 1, octetsReceived := size.toUInt64 }
  | .error (.frame (.wrongChecksum ..)) => { checksumErrors := 1 }
  | .error _ => { frameErrors := 1 }

end Counters

namespace AddressedPacket

variable {sent : AddressedPacket}

private theorem sendBy_counters (write : Frame → Octets → Except Frame.Error ℕ × Octets)
    (sent : AddressedPacket) (destination : Octets) (counters : Counters) :
    (sendBy write sent destination counters).counters =
      counters + .ofSent (sendBy write sent destination counters).result := by
  rw [sendBy]
  split
  · simp [Counters.ofSent, Counters.add_def]
  · split
    · simp [Counters.ofSent, Counters.add_def]
    · simp [Counters.ofSent, Counters.add_def, Counters.countSent]

theorem receive_counters (wire : Octets) (secondaryLength : ℕ) (counters : Counters) :
    (receive wire secondaryLength counters).2 =
      counters + .ofReceived wire.length (receive wire secondaryLength counters).1 := by
  rw [receive]
  cases Frame.read wire with
  | error error =>
    cases error <;> simp [countFailure, Counters.ofReceived, Counters.add_def,
      Counters.countChecksumError, Counters.countFrameError]
  | ok frame =>
    dsimp only
    cases SpacePacket.read frame.payload secondaryLength with
    | error error => simp [Counters.ofReceived, Counters.add_def, Counters.countFrameError]
    | ok packet => simp [Counters.ofReceived, Counters.add_def, Counters.countReceived]

section Refusals

variable {write : Frame → Octets → Except Frame.Error ℕ × Octets} {destination : Octets}

/-- A refused packet is not written, by a writer that leaves the destination where it refuses. -/
theorem sendBy_of_result_error {error : Error} {counters : Counters}
    (hw : ∀ {frame : Frame} {destination after : Octets} {error : Frame.Error},
      write frame destination = (.error error, after) → after = destination)
    (h : (sendBy write sent destination counters).result = .error error) :
    sendBy write sent destination counters = ⟨.error error, destination, counters⟩ := by
  cases hp : sent.payload with
  | error refusal =>
    rw [sendBy_of_error hp] at h ⊢
    cases h
    rfl
  | ok octets =>
    obtain ⟨hs, -⟩ := payload_eq_ok_iff.mp hp
    rcases he : write sent.frame destination with ⟨refusal | size, after⟩
    · obtain rfl := hw he
      rw [hs.sendBy_of_error he] at h ⊢
      cases h
      rfl
    · rw [hs.sendBy_eq he] at h
      cases h

end Refusals

private theorem length_wire_bounds (h1 : 1 ≤ sent.packet.dataFieldLength)
    (hf : sent.packet.size ≤ Frame.maxPayload) :
    11 ≤ sent.wire.length ∧ sent.wire.length ≤ 65539 := by
  have hs : sent.packet.size = 6 + sent.packet.dataFieldLength := rfl
  have hm : Frame.maxPayload = 65535 := rfl
  rw [length_wire]
  omega

end AddressedPacket

namespace Exchange

/-- An operation with its answer. -/
structure Call where
  operation : Operation
  answer : Answer

/-- The calls of a run. -/
def calls (exchange : Exchange) (operations : List Operation) : List Call :=
  operations.zipWith Call.mk (exchange.run operations).1

namespace Call

/-- The size of the frame that was sent. -/
def sentSize? : Call → Option ℕ
  | ⟨_, .sent (.ok size) _⟩ => some size
  | _ => none

/-- The size of all that a packet was received from. -/
def receivedSize? : Call → Option ℕ
  | ⟨.receive wire _, .received (.ok _)⟩ => some wire.length
  | _ => none

def isReceive : Call → Bool
  | ⟨.receive .., _⟩ => true
  | _ => false

/-- Nothing was received, for a wrong checksum. -/
def isChecksumError : Call → Bool
  | ⟨_, .received (.error (.frame (.wrongChecksum ..)))⟩ => true
  | _ => false

/-- Nothing was received, for any other reason. -/
def isFrameError : Call → Bool
  | ⟨_, .received (.error (.frame (.wrongChecksum ..)))⟩ => false
  | ⟨_, .received (.error _)⟩ => true
  | _ => false

def isLinkFault : Call → Bool
  | ⟨.linkFault, _⟩ => true
  | _ => false

/-- The answer is one that some exchange gives. -/
def Answered (call : Call) : Prop :=
  ∃ before : Exchange, (before.step call.operation).1 = call.answer

end Call

/-- The counters that calls add up to, modulo `2^64`. -/
def tally (calls : List Call) : Counters where
  packetsSent := (calls.filterMap Call.sentSize?).length.toUInt64
  packetsReceived := (calls.filterMap Call.receivedSize?).length.toUInt64
  checksumErrors := (calls.countP Call.isChecksumError).toUInt64
  frameErrors := (calls.countP Call.isFrameError).toUInt64
  linkErrors := (calls.countP Call.isLinkFault).toUInt64
  octetsSent := (calls.filterMap Call.sentSize?).sum.toUInt64
  octetsReceived := (calls.filterMap Call.receivedSize?).sum.toUInt64

/-- The calls behind the last one that cleared the counters. -/
def sinceClear (calls : List Call) : List Call := calls.rtakeWhile (·.operation ≠ .clear)

variable {exchange : Exchange} {operation : Operation} {operations : List Operation}
  {destination : Octets} {size : ℕ}

theorem run_append (exchange : Exchange) (front back : List Operation) :
    (exchange.run (front ++ back)).2 = ((exchange.run front).2.run back).2 := by
  induction front generalizing exchange with
  | nil => rfl
  | cons operation front ih => exact ih _

theorem calls_append (exchange : Exchange) (front back : List Operation) :
    exchange.calls (front ++ back) =
      exchange.calls front ++ (exchange.run front).2.calls back := by
  induction front generalizing exchange with
  | nil => rfl
  | cons operation front ih => exact congrArg _ (ih _)

private theorem length_calls (exchange : Exchange) (operations : List Operation) :
    (exchange.calls operations).length = operations.length := by
  induction operations generalizing exchange with
  | nil => rfl
  | cons operation operations ih => exact congrArg _ (ih _)

private theorem answered_of_mem_calls {call : Call} (h : call ∈ exchange.calls operations) :
    call.Answered := by
  induction operations generalizing exchange with
  | nil => cases h
  | cons operation operations ih =>
    rcases List.mem_cons.mp h with rfl | h
    · exact ⟨exchange, rfl⟩
    · exact ih h

private theorem mem_calls_of_mem_sinceClear {calls : List Call} {call : Call}
    (h : call ∈ sinceClear calls) : call ∈ calls :=
  (List.rtakeWhile_suffix _ _).subset h

private theorem tally_append (front back : List Call) :
    tally (front ++ back) = tally front + tally back := by
  simp [tally, Counters.add_def]

/-- A call adds what its answer says. -/
theorem counters_step (exchange : Exchange) (hn : operation ≠ .clear) :
    (exchange.step operation).2.counters =
      exchange.counters + tally [⟨operation, (exchange.step operation).1⟩] := by
  cases operation with
  | sendInto packet buffer =>
    refine (AddressedPacket.sendBy_counters _ _ _ _).trans (congrArg _ ?_)
    simp only [step, AddressedPacket.sendInto]
    cases (packet.sendBy Frame.writeInto buffer exchange.counters).result <;> rfl
  | send packet =>
    refine (AddressedPacket.sendBy_counters _ _ _ _).trans (congrArg _ ?_)
    simp only [step, AddressedPacket.sendTo]
    cases (packet.sendBy Frame.appendTo exchange.stream exchange.counters).result <;> rfl
  | receive wire secondaryLength =>
    refine (AddressedPacket.receive_counters _ _ _).trans (congrArg _ ?_)
    simp only [step]
    rcases (AddressedPacket.receive wire secondaryLength exchange.counters).1 with
      (error | _ | _) | _
    · cases error <;> rfl
    all_goals rfl
  | linkFault =>
    have hc : exchange.counters.countLinkError = exchange.counters + { linkErrors := 1 } := by
      simp [Counters.countLinkError, Counters.add_def]
    exact hc
  | clear => exact absurd rfl hn
  | redirect stream =>
    have hc : exchange.counters = exchange.counters + {} := by simp [Counters.add_def]
    exact hc

/-- From cleared counters on, the counters are the tally of the calls since they were last
cleared. -/
theorem counters_run (h : exchange.counters = {}) (operations : List Operation) :
    (exchange.run operations).2.counters = tally (sinceClear (exchange.calls operations)) := by
  -- from the back, where the last call that cleared them cuts off what is tallied
  induction operations using List.reverseRecOn with
  | nil => exact h
  | append_singleton operations operation ih =>
    have hl : (exchange.run operations).2.calls [operation] =
        [⟨operation, ((exchange.run operations).2.step operation).1⟩] := rfl
    have hr : ((exchange.run operations).2.run [operation]).2 =
        ((exchange.run operations).2.step operation).2 := rfl
    rw [run_append, calls_append, hl, hr, sinceClear, List.rtakeWhile_concat]
    by_cases hc : operation = .clear
    · subst hc
      rfl
    · rw [if_pos (by simpa using hc), tally_append, counters_step _ hc, ih, sinceClear]

/-- An attempt to receive is counted in one of three ways, and nothing else is. -/
private theorem countP_isReceive_singleton {call : Call} (h : call.Answered) :
    [call].countP Call.isReceive = ([call].filterMap Call.receivedSize?).length +
      [call].countP Call.isChecksumError + [call].countP Call.isFrameError := by
  obtain ⟨operation, answer⟩ := call
  obtain ⟨before, ha⟩ := h
  obtain rfl : (before.step operation).1 = answer := ha
  cases operation with
  | receive wire secondaryLength =>
    simp only [step]
    rcases (AddressedPacket.receive wire secondaryLength before.counters).1 with (error | _ | _) | _
    · cases error <;> rfl
    all_goals rfl
  | _ => rfl

private theorem countP_isReceive {calls : List Call} (h : ∀ call ∈ calls, call.Answered) :
    calls.countP Call.isReceive = (calls.filterMap Call.receivedSize?).length +
      calls.countP Call.isChecksumError + calls.countP Call.isFrameError := by
  induction calls with
  | nil => rfl
  | cons call calls ih =>
    have ih := ih fun call hc => h call (List.mem_cons_of_mem _ hc)
    have hs := countP_isReceive_singleton (h call List.mem_cons_self)
    rw [← List.singleton_append, List.countP_append, List.countP_append, List.countP_append,
      List.filterMap_append, List.length_append, hs, ih]
    omega

private theorem sent_size_bounds (h : (exchange.step operation).1 = .sent (.ok size) destination) :
    11 ≤ size ∧ size ≤ 65539 := by
  cases operation with
  | sendInto packet buffer =>
    obtain ⟨hr, -⟩ := Answer.sent.inj h
    obtain ⟨hs, hw⟩ := AddressedPacket.sendBy_eq_ok hr
    obtain ⟨-, rfl, -⟩ := Frame.eq_wire_of_writeInto hw
    rw [← Frame.length_wire]
    exact AddressedPacket.length_wire_bounds hs.writable.data hs.fits
  | send packet =>
    obtain ⟨hr, -⟩ := Answer.sent.inj h
    obtain ⟨hs, -⟩ := AddressedPacket.sendBy_eq_ok hr
    rw [hs.sendTo_eq] at hr
    cases hr
    exact AddressedPacket.length_wire_bounds hs.writable.data hs.fits
  | _ => cases h

private theorem received_size_bounds {wire : Octets} {secondaryLength : ℕ}
    {packet : AddressedPacket}
    (h : (exchange.step (.receive wire secondaryLength)).1 = .received (.ok packet)) :
    11 ≤ wire.length ∧ wire.length ≤ 65539 := by
  obtain ⟨hf, hp, rfl⟩ := AddressedPacket.receive_eq_ok_iff.mp (Answer.received.inj h)
  exact AddressedPacket.length_wire_bounds (SpacePacket.read_eq_ok_iff.mp hp).2.1 hf

private theorem sentSize_bounds {calls : List Call} (h : ∀ call ∈ calls, call.Answered) :
    ∀ size ∈ calls.filterMap Call.sentSize?, 11 ≤ size ∧ size ≤ 65539 := by
  intro size hs
  obtain ⟨⟨operation, answer⟩, hm, hs⟩ := List.mem_filterMap.mp hs
  obtain ⟨before, ha⟩ := h _ hm
  rcases answer with ⟨error | size, destination⟩ | _ | _
  · cases hs
  · cases hs
    exact sent_size_bounds ha
  · cases hs
  · cases hs

private theorem receivedSize_bounds {calls : List Call} (h : ∀ call ∈ calls, call.Answered) :
    ∀ size ∈ calls.filterMap Call.receivedSize?, 11 ≤ size ∧ size ≤ 65539 := by
  intro size hs
  obtain ⟨⟨operation, answer⟩, hm, hs⟩ := List.mem_filterMap.mp hs
  obtain ⟨before, ha⟩ := h _ hm
  cases operation with
  | receive wire secondaryLength =>
    rcases answer with _ | (error | packet) | _
    · cases hs
    · cases hs
    · cases hs
      exact received_size_bounds ha
    · cases hs
  | _ => cases hs

/-- Sizes within bounds add up to within the same bounds of their number, which no counter is too
narrow for as long as there are fewer than `2^47` of them. -/
private theorem sum_bounds {sizes : List ℕ} (hb : ∀ size ∈ sizes, 11 ≤ size ∧ size ≤ 65539)
    (hl : sizes.length < 2 ^ 47) :
    11 * sizes.length.toUInt64.toNat ≤ sizes.sum.toUInt64.toNat ∧
      sizes.sum.toUInt64.toNat ≤ 65539 * sizes.length.toUInt64.toNat := by
  have hlow := sizes.card_nsmul_le_sum 11 fun size hs => (hb size hs).1
  have hhigh := sizes.sum_le_card_nsmul 65539 fun size hs => (hb size hs).2
  rw [smul_eq_mul] at hlow hhigh
  -- neither has come round, for 65539 * 2^47 < 2^64
  have hm : UInt64.size = 2 ^ 64 := rfl
  have hcount : sizes.length.toUInt64.toNat = sizes.length :=
    UInt64.toNat_ofNat_of_lt (by omega)
  have hsum : sizes.sum.toUInt64.toNat = sizes.sum := UInt64.toNat_ofNat_of_lt (by omega)
  rw [hcount, hsum]
  omega

/-- A packet refused leaves the buffer and the exchange. -/
theorem step_sendInto_of_refused {packet : AddressedPacket} {buffer : Octets}
    {error : AddressedPacket.Error}
    (h : (exchange.step (.sendInto packet buffer)).1 = .sent (.error error) destination) :
    exchange.step (.sendInto packet buffer) = (.sent (.error error) buffer, exchange) := by
  obtain ⟨hr, -⟩ := Answer.sent.inj h
  have hs := AddressedPacket.sendBy_of_result_error Frame.writeInto_of_error hr
  simp only [step, AddressedPacket.sendInto, hs]

private theorem step_send_of_refused {packet : AddressedPacket} {error : AddressedPacket.Error}
    (h : (exchange.step (.send packet)).1 = .sent (.error error) destination) :
    exchange.step (.send packet) = (.sent (.error error) exchange.stream, exchange) := by
  obtain ⟨hr, -⟩ := Answer.sent.inj h
  have hs := AddressedPacket.sendBy_of_result_error Frame.appendTo_of_error hr
  simp only [step, AddressedPacket.sendTo, hs]

/-- The counters are the tally of the calls since they were last cleared, whatever they were and in
whatever order. So every attempt to receive is in one of three counters, the octets sent and received
are 11 to 65539 to a packet as long as no counter has come round, and a packet refused changes
nothing. -/
theorem counters_eq_tally (stream : Octets) (operations : List Operation) :
    let start : Exchange := { stream }
    let recent := sinceClear (start.calls operations)
    let counters := (start.run operations).2.counters
    counters = tally recent ∧
    counters.packetsReceived + counters.checksumErrors + counters.frameErrors =
      (recent.countP Call.isReceive).toUInt64 ∧
    (recent.length < 2 ^ 47 →
      (11 * counters.packetsSent.toNat ≤ counters.octetsSent.toNat ∧
        counters.octetsSent.toNat ≤ 65539 * counters.packetsSent.toNat) ∧
      11 * counters.packetsReceived.toNat ≤ counters.octetsReceived.toNat ∧
        counters.octetsReceived.toNat ≤ 65539 * counters.packetsReceived.toNat) ∧
    ∀ (exchange : Exchange) (packet : AddressedPacket) (error : AddressedPacket.Error)
        (destination : Octets),
      (∀ buffer, (exchange.step (.sendInto packet buffer)).1 = .sent (.error error) destination →
        destination = buffer ∧ (exchange.step (.sendInto packet buffer)).2 = exchange) ∧
      ((exchange.step (.send packet)).1 = .sent (.error error) destination →
        destination = exchange.stream ∧ (exchange.step (.send packet)).2 = exchange) := by
  intro start recent counters
  have ht : counters = tally recent := counters_run rfl operations
  have ha : ∀ call ∈ recent, call.Answered := fun call hc =>
    answered_of_mem_calls (mem_calls_of_mem_sinceClear hc)
  refine ⟨ht, ?_, ?_, ?_⟩
  · rw [ht, countP_isReceive ha]
    simp [tally]
  · intro hl
    rw [ht]
    exact ⟨sum_bounds (sentSize_bounds ha) ((List.length_filterMap_le _ _).trans_lt hl),
      sum_bounds (receivedSize_bounds ha) ((List.length_filterMap_le _ _).trans_lt hl)⟩
  · intro exchange packet error destination
    constructor
    · intro buffer h
      have hs := step_sendInto_of_refused h
      rw [hs] at h ⊢
      cases h
      exact ⟨rfl, rfl⟩
    · intro h
      have hs := step_send_of_refused h
      rw [hs] at h ⊢
      cases h
      exact ⟨rfl, rfl⟩

/-- A packet of one octet sent and received, one without data refused, and nothing received from no
octets, all behind a fault that was cleared. -/
theorem counters_eq_tally_cleared :
    let sent : AddressedPacket := ⟨5, 1, { user := [0xAA] }⟩
    let empty : AddressedPacket := ⟨5, 1, {}⟩
    let start : Exchange := { stream := [0x55] }
    let operations : List Operation := [.linkFault, .clear, .sendInto sent (.replicate 16 0xEE),
      .send empty, .receive sent.wire 0, .receive [] 0, .linkFault]
    let counters := (start.run operations).2.counters
    counters =
      { packetsSent := 1, packetsReceived := 1, frameErrors := 1, linkErrors := 1,
        octetsSent := 11, octetsReceived := 11 } ∧
    (sinceClear (start.calls operations)).length < 2 ^ 47 ∧
    (11 * counters.packetsSent.toNat ≤ counters.octetsSent.toNat ∧
      counters.octetsSent.toNat ≤ 65539 * counters.packetsSent.toNat) ∧
    ((start.step (.send empty)).1 = .sent (.error (.packet .noData)) [0x55] ∧
      (start.step (.send empty)).2 = start) ∧
    (start.step (.sendInto empty [0xEE])).1 = .sent (.error (.packet .noData)) [0xEE] ∧
    (start.step (.sendInto empty [0xEE])).2 = start := by
  intro sent empty start operations counters
  have hs : sent.Sendable :=
    ⟨⟨⟨by decide, by decide, by decide⟩, by decide, by decide, by decide⟩, by decide⟩
  have hl : sent.wire.length = 11 := AddressedPacket.length_wire sent
  have hr (counters : Counters) :
      AddressedPacket.receive sent.wire 0 counters = (.ok sent, counters.countReceived 11) := by
    have ho : (AddressedPacket.receive sent.wire 0 counters).1 = .ok sent :=
      hs.receive_wire nofun counters
    refine Prod.ext ho ?_
    rw [AddressedPacket.receive_counters, ho]
    simp [Counters.ofReceived, Counters.add_def, Counters.countReceived, hl]
  have he : (start.step (.send empty)).1 = .sent (.error (.packet .noData)) [0x55] := rfl
  have hb : (start.step (.sendInto empty [0xEE])).1 =
      .sent (.error (.packet .noData)) [0xEE] := rfl
  obtain ⟨-, -, hsizes, hrefused⟩ := counters_eq_tally [0x55] operations
  have hn := hrefused start empty (.packet .noData)
  have hm : (sinceClear (start.calls operations)).length < 2 ^ 47 := by
    have := (List.rtakeWhile_suffix (·.operation ≠ .clear) (start.calls operations)).length_le
    rw [length_calls] at this
    exact this.trans_lt (by decide)
  have hc : counters =
      { packetsSent := 1, packetsReceived := 1, frameErrors := 1, linkErrors := 1,
        octetsSent := 11, octetsReceived := 11 } := by
    have hi := hs.sendInto_eq (show sent.wire.length ≤ (List.replicate 16 0xEE).length by
      rw [hl]
      decide)
    have hd (stream : Octets) (counters : Counters) :
        empty.sendTo stream counters = ⟨.error (.packet .noData), stream, counters⟩ := rfl
    simp only [counters, operations, run, step, hi, hd, hr]
    rw [hl]
    rfl
  exact ⟨hc, hm, (hsizes hm).1, ⟨he, ((hn _).2 he).2⟩, hb, ((hn _).1 _ hb).2⟩

end Exchange
end OnboardLink
