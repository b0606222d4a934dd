import OnboardLink.Proofs.Router.Routing

/-! What the counters of a router's ports count. A frame that leaves is counted where it leaves, a
frame that finds its link down is counted there, and all others are not, so the counters and the
frames that were not counted add up to all the frames there were. -/
namespace OnboardLink.Router

/-- An operation with its answer. -/
structure Call where
  operation : Operation
  answer : Answer

/-- The calls of a run. -/
def calls (router : Router) (operations : List Operation) : List Call :=
  operations.zipWith Call.mk (router.run operations).1

namespace Call

/-- The port that a frame was forwarded through. -/
def forwarded? : Call → Option UInt8
  | ⟨.dispatch _, .decided (.forward port)⟩ => some port
  | _ => none

/-- The port whose link a frame found down. -/
def down? : Call → Option UInt8
  | ⟨.dispatch _, .refused (.miss _ (.linkDown port _))⟩ => some port
  | _ => none

/-- The port that a frame was said to come in through. -/
def arrived? : Call → Option UInt8
  | ⟨.countReceived port, _⟩ => some port
  | _ => none

def isDispatch : Call → Bool
  | ⟨.dispatch _, _⟩ => true
  | _ => false

/-- A frame stayed or found no port at all. -/
def isPortless : Call → Bool
  | ⟨.dispatch _, .decided .stay⟩ => true
  | ⟨.dispatch _, .refused (.miss _ .beyondTable)⟩ => true
  | ⟨.dispatch _, .refused (.miss _ .noRoute)⟩ => true
  | _ => false

/-- The answer is one that a router with sound tables gives. -/
def Answered (device ports : UInt8) (call : Call) : Prop :=
  ∃ before : Router, Sound device ports before ∧ (before.step call.operation).1 = call.answer

end Call

/-- What a call adds to the counters of a port. -/
structure Adds (call : Call) (port : UInt8) (record after : Port) : Prop where
  sent : after.sent = record.sent + if call.forwarded? = some port then 1 else 0
  errors : after.errors = record.errors + if call.down? = some port then 1 else 0
  received : after.received = record.received + if call.arrived? = some port then 1 else 0

/-- The counters of a port show the calls that concern it, modulo `2^32`. -/
structure Shows (calls : List Call) (port : UInt8) (record : Port) : Prop where
  sent : record.sent = ((calls.filterMap Call.forwarded?).count port).toUInt32
  errors : record.errors = ((calls.filterMap Call.down?).count port).toUInt32
  received : record.received = ((calls.filterMap Call.arrived?).count port).toUInt32

variable {device ports port : UInt8} {router : Router} {record after : Port} {call : Call}
  {calls : List Call} {operations : List Operation}

theorem Adds.refl (hf : call.forwarded? ≠ some port) (hd : call.down? ≠ some port)
    (ha : call.arrived? ≠ some port) : Adds call port record record := by
  constructor
  · rw [if_neg hf, add_zero]
  · rw [if_neg hd, add_zero]
  · rw [if_neg ha, add_zero]

/-- A call that concerns no port adds nothing. -/
theorem Adds.of_none (hf : call.forwarded? = none) (hd : call.down? = none)
    (ha : call.arrived? = none) : Adds call port record record := by
  have hz : none ≠ some port := (Option.some_ne_none port).symm
  apply Adds.refl
  · rw [hf]
    exact hz
  · rw [hd]
    exact hz
  · rw [ha]
    exact hz

/-- A call that changes one port adds to it what it adds there, and nothing to the others. -/
theorem Adds.ite {chosen : UInt8} {update : Port → Port}
    (hc : Adds call chosen record (update record))
    (hn : port ≠ chosen → Adds call port record record) :
    Adds call port record (if port = chosen then update record else record) := by
  by_cases he : port = chosen
  · rw [if_pos he, he]
    exact hc
  · rw [if_neg he]
    exact hn he

theorem calls_append (router : Router) (front back : List Operation) :
    router.calls (front ++ back) = router.calls front ++ (router.run front).2.calls back := by
  induction front generalizing router with
  | nil => rfl
  | cons operation front ih => exact congrArg _ (ih _)

theorem Sound.answered (hs : Sound device ports router) (h : call ∈ router.calls operations) :
    call.Answered device ports := by
  induction operations generalizing router with
  | nil => cases h
  | cons operation operations ih =>
    rcases List.mem_cons.mp h with rfl | h
    · exact ⟨router, hs, rfl⟩
    · exact ih (hs.change (step_change operation)) h

/-- A port's record after another's was replaced, or its own. -/
theorem port?_setPort_update (hp : router.port? port = some record) {chosen : UInt8} {old : Port}
    (ho : router.port? chosen = some old) (update : Port → Port) :
    (router.setPort chosen (update old)).port? port =
      some (if port = chosen then update record else record) := by
  rw [port?_setPort old ho]
  split
  · rename_i he
    subst he
    rw [Option.some.inj (hp.symm.trans ho)]
  · exact hp

private theorem port?_attempt_updatePort (hp : router.port? port = some record) (chosen : UInt8)
    (update : Port → Port) : (router.attempt (router.updatePort chosen update)).2.port? port =
      some (if port = chosen then update record else record) := by
  rw [updatePort]
  cases ho : router.port? chosen with
  | none =>
    have hn : port ≠ chosen := by
      rintro rfl
      cases hp.symm.trans ho
    rw [if_neg hn]
    exact hp
  | some old => exact port?_setPort_update hp ho update

/-- Every call leaves a port in place and adds to its counters what its answer says. -/
theorem adds_step (hp : router.port? port = some record) (operation : Operation) :
    ∃ after, (router.step operation).2.port? port = some after ∧
      Adds ⟨operation, (router.step operation).1⟩ port record after := by
  have hz : none ≠ some port := (Option.some_ne_none port).symm
  cases operation with
  | install destination chosen =>
    exact ⟨record, (port?_install router destination chosen port).trans hp, .of_none rfl rfl rfl⟩
  | setActive channel active =>
    refine ⟨record, ?_, .of_none rfl rfl rfl⟩
    rw [step, setActive]
    cases router.channel? channel <;> exact hp
  | setState chosen state =>
    refine ⟨_, port?_attempt_updatePort hp chosen ({ · with state }), ?_⟩
    have h : Adds ⟨.setState chosen state, (router.step (.setState chosen state)).1⟩ port record
        record := .of_none rfl rfl rfl
    split
    · exact ⟨h.sent, h.errors, h.received⟩
    · exact h
  | countReceived chosen =>
    refine ⟨_, port?_attempt_updatePort hp chosen Port.countReceived, .ite ?_ fun hn => ?_⟩
    · constructor <;> simp [Call.forwarded?, Call.down?, Call.arrived?, Port.countReceived]
    · exact .refl hz hz fun hc => hn (Option.some.inj hc).symm
  | spendCredit channel =>
    refine ⟨record, ?_, .of_none rfl rfl rfl⟩
    rw [step, spendCredit]
    cases router.channel? channel <;> exact hp
  | returnCredits channel credits =>
    refine ⟨record, ?_, .of_none rfl rfl rfl⟩
    rw [step, returnCredits]
    cases router.channel? channel <;> exact hp
  | dispatch frame =>
    -- how the frame was routed no longer matters, only what came of it
    have hd := dispatched router frame
    rw [step]
    generalize router.dispatch frame = result at hd ⊢
    cases hd with
    | stay | beyondTable | noRoute | inactivePort =>
      exact ⟨record, hp, .of_none rfl rfl rfl⟩
    | @forward chosen old ho hc =>
      refine ⟨_, port?_setPort_update hp ho Port.countSent, .ite ?_ fun hn => ?_⟩
      · constructor <;> simp [Call.forwarded?, Call.down?, Call.arrived?, Port.countSent]
      · exact .refl (fun hc => hn (Option.some.inj hc).symm) hz hz
    | @linkDown chosen old ho hc =>
      refine ⟨_, port?_setPort_update hp ho Port.countError, .ite ?_ fun hn => ?_⟩
      · constructor <;> simp [Call.forwarded?, Call.down?, Call.arrived?, Port.countError]
      · exact .refl hz (fun hc => hn (Option.some.inj hc).symm) hz

private theorem toUInt32_count_concat (found : Call → Option UInt8) (calls : List Call)
    (call : Call) (port : UInt8) : (((calls ++ [call]).filterMap found).count port).toUInt32 =
      ((calls.filterMap found).count port).toUInt32 + if found call = some port then 1 else 0 := by
  cases h : found call with
  | none => simp [h]
  | some other => by_cases he : other = port <;> simp [h, he]

private theorem Shows.concat (h : Shows calls port record) (ha : Adds call port record after) :
    Shows (calls ++ [call]) port after := by
  constructor
  · rw [ha.sent, h.sent, toUInt32_count_concat]
  · rw [ha.errors, h.errors, toUInt32_count_concat]
  · rw [ha.received, h.received, toUInt32_count_concat]

/-- A port that starts with blank counters shows the calls of the run. -/
theorem shows_run (hp : router.port? port = some record) (h : Shows [] port record)
    (operations : List Operation) : ∃ after, (router.run operations).2.port? port = some after ∧
      Shows (router.calls operations) port after := by
  induction operations using List.reverseRecOn with
  | nil => exact ⟨record, hp, h⟩
  | append_singleton operations operation ih =>
    obtain ⟨before, hb, hs⟩ := ih
    obtain ⟨after, hp, ha⟩ := adds_step hb operation
    refine ⟨after, ?_, ?_⟩
    · rw [run_append]
      exact hp
    · rw [calls_append]
      exact hs.concat ha

private theorem create_shows (device ports : UInt8) {port : UInt8}
    (h : port.toNat < min ports.toNat maxPorts) :
    ∃ record, (create device ports).port? port = some record ∧ Shows [] port record := by
  have hs := create_sound device ports
  have ha : (create device ports).isActive port = true := by
    rw [isActive_iff, hs.activePorts]
    exact h
  have hl : port.toNat < maxPorts := hs.port_lt ha
  refine ⟨_, port?_eq_some_iff.mpr ⟨ha, Vector.getElem?_eq_getElem hl⟩, ?_⟩
  constructor <;> simp [create]

/-- Every frame is forwarded, finds its link down or has no port to count it. -/
private theorem countP_isDispatch_singleton (h : call.Answered device ports) :
    [call].countP Call.isDispatch = ([call].filterMap Call.forwarded?).length +
      ([call].filterMap Call.down?).length + [call].countP Call.isPortless := by
  obtain ⟨operation, answer⟩ := call
  obtain ⟨before, hs, ha⟩ := h
  obtain rfl : (before.step operation).1 = answer := ha
  cases operation with
  | dispatch frame =>
    have hd := dispatched before frame
    have hn := hs.dispatch_ne frame frame.target
    rw [step]
    generalize before.dispatch frame = result at hd hn ⊢
    cases hd with
    | inactivePort => exact absurd rfl (hn _)
    | _ => rfl
  | _ => rfl

private theorem countP_isDispatch (h : ∀ call ∈ calls, call.Answered device ports) :
    calls.countP Call.isDispatch = (calls.filterMap Call.forwarded?).length +
      (calls.filterMap Call.down?).length + calls.countP Call.isPortless := by
  induction calls with
  | nil => rfl
  | cons call calls ih =>
    have ih := ih fun call hc => h call (List.mem_cons_of_mem _ hc)
    have hs := countP_isDispatch_singleton (h call List.mem_cons_self)
    rw [← List.singleton_append, List.countP_append, List.countP_append, List.filterMap_append,
      List.filterMap_append, List.length_append, List.length_append, hs, ih]
    omega

/-- The calls that concern active ports are all there are. -/
private theorem sum_count {n : ℕ} (hn : n ≤ 256) {concerned : List UInt8}
    (h : ∀ port ∈ concerned, port.toNat < n) :
    ∑ index ∈ Finset.range n, concerned.count index.toUInt8 = concerned.length := by
  have hi : Function.Injective UInt8.toNat := fun _ _ => UInt8.toNat_inj.mp
  have hm : ∀ index ∈ (concerned.map UInt8.toNat : Multiset ℕ), index ∈ Finset.range n := by
    simpa using h
  have hc := Multiset.sum_count_eq_card hm
  rw [Multiset.coe_card, List.length_map] at hc
  rw [← hc]
  apply Finset.sum_congr rfl
  intro index hr
  have hb : index < 256 := (Finset.mem_range.mp hr).trans_le hn
  have ht : index.toUInt8.toNat = index := UInt8.toNat_ofNat_of_lt hb
  rw [Multiset.coe_count, ← List.count_map_of_injective concerned _ hi, ht]

private theorem sum_toUInt32 (numbers : List ℕ) (count : ℕ → ℕ) :
    (numbers.map fun number => (count number).toUInt32).sum = (numbers.map count).sum.toUInt32 := by
  induction numbers with
  | nil => rfl
  | cons number numbers ih => simp_all

/-- Frames are counted on active ports only. -/
theorem Call.Answered.port_lt (h : call.Answered device ports)
    (hc : call.forwarded? = some port ∨ call.down? = some port) :
    port.toNat < min ports.toNat maxPorts := by
  obtain ⟨operation, answer⟩ := call
  obtain ⟨before, hs, ha⟩ := h
  obtain rfl : (before.step operation).1 = answer := ha
  have hl {chosen : UInt8} {old : Port} (ho : before.port? chosen = some old) :
      chosen.toNat < min ports.toNat maxPorts := by
    rw [← hs.activePorts]
    exact isActive_iff.mp (port?_eq_some_iff.mp ho).1
  cases operation with
  | dispatch frame =>
    have hd := dispatched before frame
    rw [step] at hc
    generalize before.dispatch frame = result at hd hc
    cases hd with
    | forward ho | linkDown ho =>
      simp only [Call.forwarded?, Call.down?, Option.some.injEq, reduceCtorEq, or_false,
        false_or] at hc
      exact hc ▸ hl ho
    | _ => simp [Call.forwarded?, Call.down?] at hc
  | _ => simp [Call.forwarded?, Call.down?] at hc

/-- What the counters of the active ports add up to. -/
theorem sum_activePorts (hs : Sound device ports router)
    (h : ∀ port : UInt8, port.toNat < min ports.toNat maxPorts →
      ∃ record, router.port? port = some record ∧ Shows calls port record)
    (ha : ∀ call ∈ calls, call.Answered device ports) :
    (router.activePortList.map fun record => record.sent + record.errors).sum =
      ((calls.filterMap Call.forwarded?).length + (calls.filterMap Call.down?).length).toUInt32 := by
  have hn : min ports.toNat maxPorts ≤ 256 := (Nat.min_le_right _ _).trans (by decide)
  have hp : router.activePortList.map (fun record => record.sent + record.errors) =
      (List.range (min ports.toNat maxPorts)).map fun index =>
        ((calls.filterMap Call.forwarded?).count index.toUInt8 +
          (calls.filterMap Call.down?).count index.toUInt8).toUInt32 := by
    apply List.ext_getElem
    · simp [activePortList, hs.activePorts]
    · intro index hi _
      have hl : index < min ports.toNat maxPorts := by
        simpa [activePortList, hs.activePorts] using hi
      have ht : index.toUInt8.toNat = index := UInt8.toNat_ofNat_of_lt (hl.trans_le hn)
      obtain ⟨record, hr, hc⟩ := h index.toUInt8 (ht.symm ▸ hl)
      obtain ⟨-, hr⟩ := port?_eq_some_iff.mp hr
      obtain ⟨_, he⟩ := Vector.getElem?_eq_some_iff.mp hr
      simp only [ht] at he
      simp [activePortList, he, hc.sent, hc.errors]
  have hf := sum_count hn fun port (hm : port ∈ calls.filterMap Call.forwarded?) => by
    obtain ⟨call, hc, hp⟩ := List.mem_filterMap.mp hm
    exact (ha call hc).port_lt (.inl hp)
  have hd := sum_count hn fun port (hm : port ∈ calls.filterMap Call.down?) => by
    obtain ⟨call, hc, hp⟩ := List.mem_filterMap.mp hm
    exact (ha call hc).port_lt (.inr hp)
  rw [hp, sum_toUInt32, ← hf, ← hd, ← Finset.sum_add_distrib]
  rfl

/-- After whatever was done with a router, each active port has counted the frames that left through
it, those that found its link down and those that came in. All frames there were are counted on
active ports, stayed, or found no port to be counted on. -/
theorem counters_eq_counts (device ports : UInt8) (operations : List Operation) :
    let start := create device ports
    let router := (start.run operations).2
    let calls := start.calls operations
    (∀ port : UInt8, port.toNat < min ports.toNat 8 → ∃ record, router.port? port = some record ∧
      record.sent = ((calls.filterMap Call.forwarded?).count port).toUInt32 ∧
      record.errors = ((calls.filterMap Call.down?).count port).toUInt32 ∧
      record.received = ((calls.filterMap Call.arrived?).count port).toUInt32) ∧
    (router.activePortList.map fun record => record.sent + record.errors).sum +
        (calls.countP Call.isPortless).toUInt32 =
      (calls.countP Call.isDispatch).toUInt32 := by
  intro start router calls
  have hs : Sound device ports start := create_sound device ports
  have ha : ∀ call ∈ calls, call.Answered device ports := fun _ => hs.answered
  have hp (port : UInt8) (h : port.toNat < min ports.toNat maxPorts) :
      ∃ record, router.port? port = some record ∧ Shows calls port record := by
    obtain ⟨record, hr, hb⟩ := create_shows device ports h
    exact shows_run hr hb operations
  constructor
  · intro port h
    obtain ⟨record, hr, hc⟩ := hp port h
    exact ⟨record, hr, hc.sent, hc.errors, hc.received⟩
  · rw [sum_activePorts (hs.reaches (run_reaches operations)) hp ha, countP_isDispatch ha]
    exact (UInt32.ofNat_add _ _).symm

/-- Four frames to a destination behind port one: before the link is connected, twice while it is and
after the route is gone to another port; one frame stays and one has no route. -/
theorem counters_eq_counts_mixed :
    let operations : List Operation := [.install 4 1, .dispatch ⟨4, 0, []⟩, .setState 1 .connected,
      .dispatch ⟨4, 0, []⟩, .countReceived 1, .setActive 0 true, .dispatch ⟨4, 0, []⟩, .install 4 2,
      .dispatch ⟨4, 0, []⟩, .dispatch ⟨9, 0, []⟩, .dispatch ⟨5, 0, []⟩]
    let router := ((create 9 3).run operations).2
    (1 : UInt8).toNat < min (3 : UInt8).toNat 8 ∧
    (∃ record, router.port? 1 = some record ∧
      record.sent = 2 ∧ record.errors = 1 ∧ record.received = 1) ∧
    (router.activePortList.map fun record => record.sent + record.errors).sum + 2 = 6 := by
  intro operations router
  have h := counters_eq_counts 9 3 operations
  exact ⟨by decide, h.1 1 (by decide), h.2⟩

end OnboardLink.Router
