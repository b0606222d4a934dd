import OnboardLink.Proofs.Router.Routing

/-! Traffic in any order. Frames and arrivals only count on the records of ports, and no decision
reads what they count. So every call answers as if it came alone, and since counting commutes the
order of the calls leaves no trace in the router either. -/
namespace OnboardLink.Router

/-- A call that sets nothing up: a frame to be routed, or one that came in through a port. -/
inductive Traffic where
  | routed (frame : Frame)
  | arrived (port : UInt8)
  deriving DecidableEq, Repr

def Traffic.operation : Traffic → Operation
  | routed frame => .dispatch frame
  | arrived port => .countReceived port

/-- What a router answers to a call that comes alone. -/
def answer (router : Router) (call : Traffic) : Answer := (router.step call.operation).1

/-- The counters on the record of a port. -/
inductive Counter where
  | sent
  | received
  | errors

/-- The record with one more on a counter. -/
def Counter.count : Counter → Port → Port
  | sent => Port.countSent
  | received => Port.countReceived
  | errors => Port.countError

/-- Where a call counts, by its answer. -/
def Traffic.mark? : Traffic → Answer → Option (UInt8 × Counter)
  | routed _, .decided (.forward port) => some (port, .sent)
  | routed _, .refused (.miss _ (.linkDown port _)) => some (port, .errors)
  | arrived port, _ => some (port, .received)
  | routed _, _ => none

/-- The router that has counted once more, if the port is active. -/
def tick (router : Router) : Option (UInt8 × Counter) → Router
  | none => router
  | some (port, counter) =>
    match router.port? port with
    | some record => router.setPort port (counter.count record)
    | none => router

variable {router changed : Router}

theorem Counter.count_comm (one other : Counter) (record : Port) :
    one.count (other.count record) = other.count (one.count record) := by
  cases one <;> cases other <;> rfl

private theorem Counter.state_count (counter : Counter) (record : Port) :
    (counter.count record).state = record.state := by
  cases counter <;> rfl

private theorem tick_of_active {port : UInt8} {record : Port} (h : router.port? port = some record)
    (counter : Counter) :
    router.tick (some (port, counter)) = router.setPort port (counter.count record) := by
  rw [tick, h]

private theorem tick_of_inactive {port : UInt8} (h : router.port? port = none) (counter : Counter) :
    router.tick (some (port, counter)) = router := by
  rw [tick, h]

private theorem port?_tick (router : Router) (port other : UInt8) (counter : Counter) :
    (router.tick (some (port, counter))).port? other =
      if other = port then (router.port? other).map counter.count else router.port? other := by
  cases hp : router.port? port with
  | none =>
    rw [tick_of_inactive hp]
    split
    · rename_i he
      rw [he, hp, Option.map_none]
    · rfl
  | some record =>
    rw [tick_of_active hp, port?_setPort record hp]
    split
    · rename_i he
      rw [he, hp, Option.map_some]
    · rfl

private theorem tick_tick_self {port : UInt8} {record : Port} (h : router.port? port = some record)
    (first second : Counter) : (router.tick (some (port, first))).tick (some (port, second)) =
      router.setPort port (second.count (first.count record)) := by
  have hf : (router.tick (some (port, first))).port? port = some (first.count record) := by
    rw [port?_tick, if_pos rfl, h, Option.map_some]
  rw [tick_of_active hf, tick_of_active h]
  simp [setPort]

private theorem tick_tick_of_ne {port other : UInt8} (hn : port ≠ other) (one two : Counter) :
    (router.tick (some (port, one))).tick (some (other, two)) =
      (router.tick (some (other, two))).tick (some (port, one)) := by
  have hp : (router.tick (some (other, two))).port? port = router.port? port := by
    rw [port?_tick, if_neg hn]
  have ho : (router.tick (some (port, one))).port? other = router.port? other := by
    rw [port?_tick, if_neg hn.symm]
  cases hr : router.port? port with
  | none => rw [tick_of_inactive hr, tick_of_inactive (hp.trans hr)]
  | some record =>
    cases hs : router.port? other with
    | none => rw [tick_of_inactive (ho.trans hs), tick_of_inactive hs]
    | some old =>
      have hi : port.toNat ≠ other.toNat := fun hc => hn (UInt8.toNat_inj.mp hc)
      rw [tick_of_active (ho.trans hs), tick_of_active (hp.trans hr), tick_of_active hr,
        tick_of_active hs]
      simp only [setPort, Vector.setIfInBound_comm _ _ hi]

/-- The order in which two calls count leaves no trace. -/
theorem tick_comm (router : Router) (one other : Option (UInt8 × Counter)) :
    (router.tick one).tick other = (router.tick other).tick one := by
  match one, other with
  | none, _ => rfl
  | _, none => rfl
  | some (port, first), some (place, second) =>
    by_cases he : port = place
    · subst he
      cases hp : router.port? port with
      | none => simp only [tick_of_inactive hp]
      | some record =>
        rw [tick_tick_self hp, tick_tick_self hp, Counter.count_comm]
    · exact tick_tick_of_ne he first second

/-- A decision reads the device, the routes and the states of links, and nothing else. -/
theorem dispatch_fst_congr (hd : changed.device = router.device)
    (hr : changed.routes = router.routes)
    (hs : ∀ port, (changed.port? port).map Port.state = (router.port? port).map Port.state)
    (frame : Frame) : (changed.dispatch frame).1 = (router.dispatch frame).1 := by
  rw [dispatch, dispatch, egress, egress, hd, hr]
  by_cases ht : frame.target = router.device
  · rw [if_pos ht, if_pos ht]
  · rw [if_neg ht, if_neg ht]
    cases router.routes[frame.target.toNat]? with
    | none => rfl
    | some entry =>
      cases entry with
      | none => rfl
      | some port =>
        have hp := hs port
        cases ho : router.port? port with
        | none =>
          rw [ho, Option.map_none, Option.map_eq_none_iff] at hp
          simp only [hp, ho]
        | some record =>
          rw [ho, Option.map_some] at hp
          obtain ⟨found, hf, he⟩ := Option.map_eq_some_iff.mp hp
          by_cases hc : record.state = .connected
          · simp [hf, ho, Port.isConnected, he, hc]
          · simp [hf, ho, Port.isConnected, he, hc]

private theorem port?_state_tick (router : Router) (mark : Option (UInt8 × Counter))
    (port : UInt8) :
    ((router.tick mark).port? port).map Port.state = (router.port? port).map Port.state := by
  match mark with
  | none => rfl
  | some (place, counter) =>
    rw [port?_tick]
    split
    · rw [Option.map_map]
      exact congrArg (Option.map · _) (funext counter.state_count)
    · rfl

/-- Counting is all that a tick does. -/
theorem exists_tick_eq (router : Router) (mark : Option (UInt8 × Counter)) :
    ∃ ports, router.tick mark = { router with ports } := by
  match mark with
  | none => exact ⟨_, rfl⟩
  | some (port, counter) =>
    cases hp : router.port? port with
    | none => exact ⟨_, tick_of_inactive hp counter⟩
    | some record => exact ⟨_, tick_of_active hp counter⟩

private theorem answer_routed (router : Router) (frame : Frame) :
    router.answer (.routed frame) = match (router.dispatch frame).1 with
      | .ok decision => .decided decision
      | .error error => .refused error := by
  rw [answer, Traffic.operation, step]
  split <;> simp [*]

private theorem answer_arrived (router : Router) (port : UInt8) :
    router.answer (.arrived port) =
      if ((router.port? port).map Port.state).isSome then .done
      else .refused (.noSuchPort port router.activePorts) := by
  rw [answer, Traffic.operation, step, countReceived, updatePort]
  cases router.port? port <;> rfl

/-- No answer depends on what was counted before. -/
theorem answer_tick (router : Router) (mark : Option (UInt8 × Counter)) (call : Traffic) :
    (router.tick mark).answer call = router.answer call := by
  obtain ⟨ports, hp⟩ := exists_tick_eq router mark
  cases call with
  | routed frame =>
    have hd : ((router.tick mark).dispatch frame).1 = (router.dispatch frame).1 :=
      dispatch_fst_congr (by rw [hp]) (by rw [hp]) (port?_state_tick router mark) frame
    rw [answer_routed, answer_routed, hd]
  | arrived port =>
    have ha : (router.tick mark).activePorts = router.activePorts := by rw [hp]
    rw [answer_arrived, answer_arrived, port?_state_tick, ha]

/-- A call does no more than count where its answer says. -/
theorem step_traffic (router : Router) (call : Traffic) :
    (router.step call.operation).2 = router.tick (call.mark? (router.answer call)) := by
  cases call with
  | routed frame =>
    have hd := dispatched router frame
    rw [answer_routed, Traffic.operation, step_dispatch_snd]
    generalize router.dispatch frame = result at hd
    cases hd with
    | stay | beyondTable | noRoute | inactivePort => rfl
    | forward hp _ => exact (tick_of_active hp .sent).symm
    | linkDown hp _ => exact (tick_of_active hp .errors).symm
  | arrived port =>
    rw [Traffic.operation, step, countReceived, updatePort, Traffic.mark?]
    cases hp : router.port? port with
    | none => exact (tick_of_inactive hp .received).symm
    | some record => exact (tick_of_active hp .received).symm

/-- A run of traffic from a router that answers as `router` does. -/
theorem run_traffic {current : Router} (h : ∀ call, current.answer call = router.answer call)
    (traffic : List Traffic) :
    current.run (traffic.map Traffic.operation) = (traffic.map router.answer,
      (traffic.map fun call => call.mark? (router.answer call)).foldl tick current) := by
  induction traffic generalizing current with
  | nil => rfl
  | cons call traffic ih =>
    have hc : (current.step call.operation).1 = router.answer call := h call
    have hs := step_traffic current call
    rw [h] at hs
    have hn : ∀ other, (current.step call.operation).2.answer other = router.answer other := by
      intro other
      rw [hs, answer_tick, h]
    have hl := ih hn
    rw [hs] at hl
    simp only [List.map_cons, List.foldl_cons, run, hc, hs, hl]

/-- The order of traffic does not matter. Frames and arrivals, however many sources they come from
and however these are interleaved, are each answered as if no other had come, and leave the same
router behind. -/
theorem traffic_order_irrelevant (router : Router) {traffic reordered : List Traffic}
    (h : traffic.Perm reordered) :
    (router.run (traffic.map Traffic.operation)).1 = traffic.map router.answer ∧
    (router.run (reordered.map Traffic.operation)).1 = reordered.map router.answer ∧
    (router.run (traffic.map Traffic.operation)).2 =
      (router.run (reordered.map Traffic.operation)).2 := by
  have hr : ∀ call, router.answer call = router.answer call := fun _ => rfl
  rw [run_traffic hr, run_traffic hr]
  refine ⟨rfl, rfl, ?_⟩
  have : RightCommutative tick := ⟨tick_comm⟩
  exact (h.map _).foldl_eq router

/-- A frame that is forwarded, one without a route and two arrivals, of which one is refused. -/
theorem traffic_order_irrelevant_forwarded :
    let router := ((create 9 3).run [.install 4 1, .setState 1 .connected]).2
    let traffic : List Traffic := [.routed ⟨4, 0, []⟩, .arrived 1, .routed ⟨5, 0, []⟩, .arrived 7]
    let reordered : List Traffic :=
      [.arrived 7, .routed ⟨5, 0, []⟩, .arrived 1, .routed ⟨4, 0, []⟩]
    traffic.Perm reordered ∧
    (router.run (traffic.map Traffic.operation)).1 =
      [.decided (.forward 1), .done, .refused (.miss 5 .noRoute), .refused (.noSuchPort 7 3)] ∧
    (router.run (reordered.map Traffic.operation)).1 =
      [.refused (.noSuchPort 7 3), .refused (.miss 5 .noRoute), .done, .decided (.forward 1)] ∧
    (router.run (traffic.map Traffic.operation)).2 =
      (router.run (reordered.map Traffic.operation)).2 := by
  intro router traffic reordered
  have hp : traffic.Perm reordered := by decide
  exact ⟨hp, traffic_order_irrelevant router hp⟩

end OnboardLink.Router
