import OnboardLink.Proofs.Router.History
import OnboardLink.Proofs.Router.Soundness

/-! Where frames go, decided by what was done with the router before. Its tables follow the history
operation by operation: an installed route replaces the one before, a state the one before, and all
else leaves both as they are. -/
namespace OnboardLink.Router

variable {device ports : UInt8} {router changed : Router}

/-- The routes of two routers are the same, and so are the states of their links. -/
structure Alike (router changed : Router) : Prop where
  route? : ∀ destination, changed.route? destination = router.route? destination
  state : ∀ port, (changed.port? port).map Port.state = (router.port? port).map Port.state

theorem Alike.refl (router : Router) : Alike router router := ⟨fun _ => rfl, fun _ => rfl⟩

private theorem setChannel_alike (router : Router) (channel : UInt8) (record : Channel) :
    Alike router (router.setChannel channel record) :=
  ⟨fun _ => rfl, fun _ => rfl⟩

theorem port?_setPort {port : UInt8} {record : Port} (old : Port) (h : router.port? port = some old)
    (other : UInt8) : (router.setPort port record).port? other =
      if other = port then some record else router.port? other := by
  obtain ⟨ha, ho⟩ := port?_eq_some_iff.mp h
  have hs : (router.setPort port record).isActive other = router.isActive other := rfl
  rw [port?, port?, hs, setPort, getElem?_setIfInBounds_toNat ho]
  by_cases he : other = port
  · rw [if_pos he, if_pos he, he, if_pos ha]
  · rw [if_neg he, if_neg he]

private theorem setPort_alike {port : UInt8} {record old : Port} (h : router.port? port = some old)
    (hs : record.state = old.state) : Alike router (router.setPort port record) := by
  refine ⟨fun _ => rfl, ?_⟩
  intro other
  rw [port?_setPort old h]
  split
  · rename_i he
    rw [he, h, Option.map_some, Option.map_some, hs]
  · rfl

private theorem egress_alike (router : Router) (target : UInt8) :
    Alike router (router.egress target).2 := by
  rw [egress]
  split
  · exact .refl router
  · exact .refl router
  · split
    · exact .refl router
    · rename_i record hr
      split
      · exact setPort_alike hr rfl
      · exact setPort_alike hr rfl

private theorem dispatch_alike (router : Router) (frame : Frame) :
    Alike router (router.dispatch frame).2 := by
  rw [dispatch_snd]
  split
  · exact .refl router
  · exact egress_alike router frame.target

/-- Whatever is no setting leaves the routes and the states of the links. -/
theorem step_alike {operation : Operation} (h : operation.isSetting = false) :
    Alike router (router.step operation).2 := by
  cases operation with
  | install destination port => cases h
  | setState port state => cases h
  | setActive channel active =>
    rw [step, setActive]
    cases router.channel? channel with
    | none => exact .refl router
    | some record => exact setChannel_alike router channel _
  | countReceived port =>
    rw [step, countReceived, updatePort]
    cases hr : router.port? port with
    | none => exact .refl router
    | some record => exact setPort_alike hr rfl
  | spendCredit channel =>
    rw [step, spendCredit]
    cases router.channel? channel with
    | none => exact .refl router
    | some record => exact setChannel_alike router channel _
  | returnCredits channel credits =>
    rw [step, returnCredits]
    cases router.channel? channel with
    | none => exact .refl router
    | some record => exact setChannel_alike router channel _
  | dispatch frame =>
    rw [step_dispatch_snd]
    exact dispatch_alike router frame

/-- The routes and the states of the links are those that a history tells of. -/
structure Follows (active : ℕ) (history : List Operation) (router : Router) : Prop where
  route : ∀ destination : UInt8, destination.toNat < maxPorts → ∀ port,
    router.route? destination = some port ↔
      Latest (Operation.Leads active destination) history (.install destination port)
  state : ∀ port record, router.port? port = some record → ∀ state,
    record.state = state ↔ LatestState history port state

private theorem create_follows (device ports : UInt8) (active : ℕ) :
    Follows active [] (create device ports) := by
  constructor
  · intro destination hd port
    refine iff_of_false ?_ not_latest_nil
    simp [route?, create, hd]
  · intro port record hr state
    obtain ⟨-, hp⟩ := port?_eq_some_iff.mp hr
    obtain ⟨hl, rfl⟩ := Vector.getElem?_eq_some_iff.mp hp
    simp [create, LatestState, not_latest_nil, eq_comm]

theorem port?_install (router : Router) (destination port other : UInt8) :
    (router.install destination port).2.port? other = router.port? other := by
  rw [install]
  split <;> rfl

private theorem route?_install (router : Router) {destination : UInt8}
    (h : destination.toNat < maxPorts) (other port : UInt8) :
    (router.install other port).2.route? destination =
      if other = destination ∧ router.isActive port then some port
      else router.route? destination := by
  rw [install]
  by_cases he : other = destination
  · subst he
    by_cases ha : router.isActive port
    · rw [if_pos (by simp [h, ha]), if_pos ⟨rfl, ha⟩, route?,
        Vector.getElem?_setIfInBounds_self_of_lt h]
      rfl
    · rw [if_neg (by simp [ha]), if_neg (by simp [ha])]
  · have hn : other.toNat ≠ destination.toNat := fun hc => he (UInt8.toNat_inj.mp hc)
    refine Eq.trans ?_ (if_neg fun hc => he hc.1).symm
    split
    · rw [route?, Vector.getElem?_setIfInBounds_ne hn]
      rfl
    · rfl

/-- Installing is all that changes a route. -/
theorem step_route? (hs : Sound device ports router) (operation : Operation) {destination : UInt8}
    (hd : destination.toNat < maxPorts) (port : UInt8) :
    (router.step operation).2.route? destination = some port ↔
      operation.Leads (min ports.toNat maxPorts) destination ∧ .install destination port = operation ∨
        ¬ operation.Leads (min ports.toNat maxPorts) destination ∧
          router.route? destination = some port := by
  have hk : operation.isSetting = false → (router.step operation).2.route? destination =
      router.route? destination := fun h => (step_alike h).route? destination
  cases operation with
  | install other chosen =>
    have hr : (router.step (.install other chosen)).2.route? destination =
        if other = destination ∧ router.isActive chosen then some chosen
        else router.route? destination := route?_install router hd other chosen
    have hl : (Operation.install other chosen).Leads (min ports.toNat maxPorts) destination ↔
        other = destination ∧ router.isActive chosen := by
      rw [isActive_iff, hs.activePorts]
      rfl
    rw [hr, hl]
    by_cases hc : other = destination ∧ router.isActive chosen
    · simp [hc, eq_comm]
    · simp [hc]
  | setState other state =>
    have hr : (router.step (.setState other state)).2.route? destination =
        router.route? destination := by
      rw [step, setState, updatePort]
      cases router.port? other <;> rfl
    simp [hr, Operation.Leads]
  | _ =>
    rw [hk rfl]
    simp [Operation.Leads]

/-- Setting a state is all that changes one. -/
theorem step_state (router : Router) (operation : Operation) {port : UInt8}
    (h : ¬ operation.Sets port) :
    ((router.step operation).2.port? port).map Port.state =
      (router.port? port).map Port.state := by
  have hk : operation.isSetting = false → ((router.step operation).2.port? port).map Port.state =
      (router.port? port).map Port.state := fun h => (step_alike h).state port
  cases operation with
  | install destination chosen => exact congrArg _ (port?_install router destination chosen port)
  | setState other state =>
    have hn : port ≠ other := Ne.symm h
    rw [step, setState, updatePort]
    cases hr : router.port? other with
    | none => rfl
    | some record =>
      rw [attempt, port?_setPort record hr, if_neg hn]
  | _ => exact hk rfl

private theorem port?_setState {port : UInt8} {state : LinkState} {record : Port}
    (h : (router.step (.setState port state)).2.port? port = some record) :
    record.state = state := by
  rw [step, setState, updatePort] at h
  cases hr : router.port? port with
  | none =>
    rw [hr] at h
    have hc := h.symm.trans hr
    cases hc
  | some old =>
    rw [hr, attempt, port?_setPort old hr, if_pos rfl] at h
    cases h
    rfl

theorem Follows.step {history : List Operation} (h : Follows (min ports.toNat maxPorts) history router)
    (hs : Sound device ports router) (operation : Operation) :
    Follows (min ports.toNat maxPorts) (history ++ [operation]) (router.step operation).2 := by
  constructor
  · intro destination hd port
    rw [latest_concat, step_route? hs operation hd, h.route destination hd]
  · intro port record hr state
    rw [latestState_concat]
    -- Either the state is set here, or the port had it before.
    by_cases ho : operation.Sets port
    · cases operation with
      | setState other said =>
        obtain rfl : other = port := ho
        rw [port?_setState hr]
        simp [Operation.Sets, eq_comm]
      | _ => cases ho
    · obtain ⟨old, hp, he⟩ : ∃ old, router.port? port = some old ∧ old.state = record.state := by
        have hkept := step_state router operation ho
        rw [hr, Option.map_some] at hkept
        exact Option.map_eq_some_iff.mp hkept.symm
      rw [← he, h.state port old hp]
      simp [ho]

/-- After a run the tables are those that the whole history tells of. -/
theorem Follows.run {history : List Operation} (h : Follows (min ports.toNat maxPorts) history router)
    (hs : Sound device ports router) (operations : List Operation) :
    Follows (min ports.toNat maxPorts) (history ++ operations) (router.run operations).2 := by
  induction operations generalizing history router with
  | nil => rwa [List.append_nil]
  | cons operation operations ih =>
    rw [List.append_cons]
    exact ih (h.step hs operation) (hs.change (step_change operation))

private theorem route?_eq_some_iff {destination port : UInt8} :
    router.route? destination = some port ↔ router.routes[destination.toNat]? = some (some port) :=
  Option.join_eq_some_iff

/-- The answer to a frame of another node to whose target a route leads. -/
theorem dispatch_of_route {frame : Frame} {port : UInt8} {record : Port}
    (hd : frame.target ≠ router.device) (hr : router.route? frame.target = some port)
    (hp : router.port? port = some record) :
    (router.dispatch frame).1 = if record.state = .connected then .ok (.forward port)
      else .error (.miss frame.target (.linkDown port record.state)) := by
  rw [dispatch, if_neg hd, egress, route?_eq_some_iff.mp hr]
  by_cases hc : record.state = .connected
  · simp [hp, Port.isConnected, hc]
  · simp [hp, Port.isConnected, hc]

/-- The answer to a frame of another node to whose target no route leads. -/
theorem dispatch_of_no_route {frame : Frame} (hd : frame.target ≠ router.device)
    (hr : router.route? frame.target = none) :
    (router.dispatch frame).1 = .error (.miss frame.target
      (if frame.target.toNat < maxPorts then .noRoute else .beyondTable)) := by
  rw [dispatch, if_neg hd, egress]
  by_cases ht : frame.target.toNat < maxPorts
  · have he : router.routes[frame.target.toNat]? = some none := by
      rw [route?, Vector.getElem?_eq_getElem ht] at hr
      rw [Vector.getElem?_eq_getElem ht]
      exact congrArg some hr
    rw [he, if_pos ht]
  · rw [Vector.getElem?_eq_none (Nat.not_lt.mp ht), if_neg ht]

variable {history : List Operation}

/-- What a router answers is what its history tells. -/
theorem Follows.outcome_dispatch (h : Follows (min ports.toNat maxPorts) history router)
    (hs : Sound device ports router) (frame : Frame) :
    Outcome device (min ports.toNat maxPorts) history frame.target (router.dispatch frame).1 := by
  by_cases hd : frame.target = router.device
  · rw [dispatch, if_pos hd]
    exact .stay (hd.trans hs.device)
  · have hn : frame.target ≠ device := hs.device ▸ hd
    cases hr : router.route? frame.target with
    | none =>
      rw [dispatch_of_no_route hd hr]
      by_cases ht : frame.target.toNat < maxPorts
      · rw [if_pos ht]
        refine .noRoute hn ht ?_
        intro operation hm hw
        obtain ⟨last, hl⟩ := exists_latest hm hw
        obtain ⟨port, rfl⟩ := exists_install_of_leads hl.1
        rw [(h.route _ ht port).mpr hl] at hr
        cases hr
      · rw [if_neg ht]
        exact .beyondTable hn (Nat.not_lt.mp ht)
    | some port =>
      obtain ⟨-, record, -, hp⟩ := hs.route_port? (route?_eq_some_iff.mp hr)
      have ht : frame.target.toNat < maxPorts :=
        (Vector.getElem?_eq_some_iff.mp (route?_eq_some_iff.mp hr)).1
      have hl := (h.route _ ht port).mp hr
      rw [dispatch_of_route hd hr hp]
      by_cases hc : record.state = .connected
      · rw [if_pos hc]
        exact .forward hn ht hl ((h.state port record hp _).mp hc)
      · rw [if_neg hc]
        exact .linkDown hn ht hl ((h.state port record hp _).mp rfl) hc

/-- A history tells of one answer only. -/
theorem Follows.dispatch_eq (h : Follows (min ports.toNat maxPorts) history router)
    (hs : Sound device ports router) {frame : Frame} {outcome : Except RouterRefusal Decision}
    (ho : Outcome device (min ports.toNat maxPorts) history frame.target outcome) :
    (router.dispatch frame).1 = outcome := by
  rw [← hs.device] at ho
  have hl {port : UInt8} (ht : frame.target.toNat < maxPorts) (hr : Latest
      (Operation.Leads (min ports.toNat maxPorts) frame.target) history
        (.install frame.target port)) :
      router.route? frame.target = some port ∧ ∃ record, router.port? port = some record := by
    have hr := (h.route _ ht port).mpr hr
    obtain ⟨-, record, -, hp⟩ := hs.route_port? (route?_eq_some_iff.mp hr)
    exact ⟨hr, record, hp⟩
  cases ho with
  | stay hd => rw [dispatch, if_pos hd]
  | beyondTable hd ht =>
    have hr : router.route? frame.target = none := by
      rw [route?, Vector.getElem?_eq_none ht]
      rfl
    rw [dispatch_of_no_route hd hr, if_neg (Nat.not_lt.mpr ht)]
  | noRoute hd ht hr =>
    have hr : router.route? frame.target = none := by
      rw [Option.eq_none_iff_forall_ne_some]
      intro port hp
      have hw := (h.route _ ht port).mp hp
      exact hr _ hw.mem hw.1
    rw [dispatch_of_no_route hd hr, if_pos ht]
  | @forward port hd ht hr hc =>
    obtain ⟨hr, record, hp⟩ := hl ht hr
    rw [dispatch_of_route hd hr hp, if_pos ((h.state port record hp _).mpr hc)]
  | @linkDown port state hd ht hr hc hn =>
    obtain ⟨hr, record, hp⟩ := hl ht hr
    obtain rfl : record.state = state := (h.state port record hp _).mpr hc
    rw [dispatch_of_route hd hr hp, if_neg hn]

/-- After whatever was done with a router, what becomes of a frame is what the history tells: by the
latest route to its target that could be installed and the latest state of the link there. Runs that
set the same routes and states in the same order decide alike, whatever else was done in them and
whatever the frame carries. -/
theorem dispatch_eq_iff_outcome (device ports : UInt8) (operations : List Operation)
    (frame : Frame) :
    (∀ outcome, (((create device ports).run operations).2.dispatch frame).1 = outcome ↔
      Outcome device (min ports.toNat 8) operations frame.target outcome) ∧
    ∀ (others : List Operation) (other : Frame), other.target = frame.target →
      others.filter Operation.isSetting = operations.filter Operation.isSetting →
        (((create device ports).run others).2.dispatch other).1 =
          (((create device ports).run operations).2.dispatch frame).1 := by
  have hs (history : List Operation) : Sound device ports ((create device ports).run history).2 :=
    (create_sound device ports).reaches (run_reaches history)
  have hf (history : List Operation) :
      Follows (min ports.toNat maxPorts) history ((create device ports).run history).2 :=
    (create_follows device ports _).run (create_sound device ports) history
  constructor
  · intro outcome
    constructor
    · rintro rfl
      exact (hf operations).outcome_dispatch (hs operations) frame
    · exact (hf operations).dispatch_eq (hs operations)
  · intro others other ht he
    -- Both runs are told by the settings alone.
    have ho := ((hf others).outcome_dispatch (hs others) other).filter
    have h := ((hf operations).outcome_dispatch (hs operations) frame).filter
    rw [he, ht] at ho
    rw [← (hf _).dispatch_eq (hs _) ho, ← (hf _).dispatch_eq (hs _) h]

/-- A route to destination four is replaced, then kept where an inactive port is asked for; its link
is down again. Traffic, channels and credits in between change nothing. -/
theorem dispatch_eq_iff_outcome_replaced :
    Outcome 9 3 [.install 4 2, .install 4 1, .install 4 5, .setState 1 .connected,
      .setState 1 .started] 4 (.error (.miss 4 (.linkDown 1 .started))) ∧
    (((create 9 3).run [.install 4 2, .setActive 0 true, .install 4 1, .install 4 5,
      .spendCredit 0, .setState 1 .connected, .dispatch ⟨4, 1, []⟩, .countReceived 1,
      .setState 1 .started]).2.dispatch ⟨4, 2, [0xAA]⟩).1 =
        .error (.miss 4 (.linkDown 1 .started)) := by
  have h := dispatch_eq_iff_outcome 9 3 [.install 4 2, .install 4 1, .install 4 5,
    .setState 1 .connected, .setState 1 .started] ⟨4, 1, []⟩
  have ho := (h.1 (.error (.miss 4 (.linkDown 1 .started)))).mp rfl
  exact ⟨ho, (h.2 _ _ rfl rfl).trans ((h.1 _).mpr ho)⟩

end OnboardLink.Router
