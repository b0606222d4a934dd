import OnboardLink.Proofs.Router.Change

/-! The invariant of a router's tables, kept by whatever is done with it. Routes lead to active
ports only, so no frame ever meets an inactive port. -/
namespace OnboardLink.Router

/-- The tables fit the device and the number of ports that a router was asked for. -/
structure Sound (device ports : UInt8) (router : Router) : Prop where
  device : router.device = device
  activePorts : router.activePorts.toNat = min ports.toNat maxPorts
  route_active : ∀ destination (h : destination < maxPorts) (port : UInt8),
    router.routes[destination] = some port → port.toNat < router.activePorts.toNat
  port_number : ∀ index (h : index < maxPorts), router.ports[index].number.toNat = index
  channel_number : ∀ index (h : index < Channel.count),
    router.channels[index].number.toNat = index
  /-- Nothing happens on a port that is not active. -/
  inactive : ∀ index (h : index < maxPorts), router.activePorts.toNat ≤ index →
    router.ports[index].state = .uninitialized ∧ router.ports[index].sent = 0 ∧
      router.ports[index].received = 0 ∧ router.ports[index].errors = 0

/-- How a router comes about. -/
inductive Initial (device ports : UInt8) : Router → Prop where
  | create : Initial device ports (create device ports)
  | ofPlan {plan : RouterPlan} {router : Router} (hd : plan.device = device)
      (hp : plan.ports = ports) (h : ofPlan plan = .ok router) : Initial device ports router

/-- The choice of `egress` before the frame is counted, with the port's record taken at a bare
index. There is no result where the index is beyond the ports. -/
def lookup? (router : Router) (target : UInt8) : Option (Except Miss UInt8 × Router) :=
  match router.routes[target.toNat]? with
  | none => some (.error .beyondTable, router)
  | some none => some (.error .noRoute, router)
  | some (some port) =>
    if router.isActive port then
      router.ports[port.toNat]?.map fun record =>
        if record.isConnected then (.ok port, router)
        else (.error (.linkDown port record.state), router.setPort port record.countError)
    else some (.error (.inactivePort port), router)

/-- `dispatch` with both records of ports taken at bare indices. -/
def dispatch? (router : Router) (frame : Frame) :
    Option (Except RouterRefusal Decision × Router) :=
  if frame.target = router.device then some (.ok .stay, router)
  else
    match router.lookup? frame.target with
    | none => none
    | some (.ok port, router) =>
      router.ports[port.toNat]?.map fun record =>
        (.ok (.forward port), router.setPort port record.countSent)
    | some (.error reason, router) => some (.error (.miss frame.target reason), router)

variable {device ports : UInt8} {router changed : Router}

private theorem toNat_min_eight (ports : UInt8) :
    (min ports 8).toNat = min ports.toNat maxPorts := by
  change (if ports ≤ 8 then ports else 8).toNat = _
  split
  · rename_i h
    exact (Nat.min_eq_left (UInt8.le_iff_toNat_le.mp h)).symm
  · rename_i h
    exact (Nat.min_eq_right (Nat.le_of_not_le (mt UInt8.le_iff_toNat_le.mpr h))).symm

private theorem toNat_toUInt8 {index count : ℕ} (h : index < count) (hc : count ≤ 256) :
    index.toUInt8.toNat = index :=
  UInt8.toNat_ofNat_of_lt (Nat.lt_of_lt_of_le h hc)

theorem create_sound (device ports : UInt8) : Sound device ports (create device ports) := by
  refine ⟨rfl, toNat_min_eight ports, ?_, ?_, ?_, ?_⟩
  · intro destination h port hr
    simp [create] at hr
  · intro index h
    simp [create, toNat_toUInt8 h (by decide)]
  · intro index h
    simp [create, toNat_toUInt8 h (by decide)]
  · intro index h _
    simp [create]

/-- What holds of every record still does when the one that is put in its place satisfies it. -/
private theorem forall_setIfInBounds {α : Type} {n place : ℕ} {table : Vector α n} {changed : α}
    (p : ℕ → α → Prop) (ht : ∀ index (h : index < n), p index table[index]) (hp : p place changed)
    (index : ℕ) (h : index < n) : p index (table.setIfInBounds place changed)[index] := by
  rw [Vector.getElem_setIfInBounds h]
  split
  · rename_i he
    rwa [← he]
  · exact ht index h

/-- One change keeps the tables sound. -/
theorem Sound.change (hs : Sound device ports router) (hc : Change router changed) :
    Sound device ports changed := by
  obtain ⟨hd, ha, hr, hp, hv, hi⟩ := hs
  cases hc with
  | keep => exact ⟨hd, ha, hr, hp, hv, hi⟩
  | route hactive =>
    refine ⟨hd, ha, ?_, hp, hv, hi⟩
    refine forall_setIfInBounds (fun _ entry => ∀ port : UInt8, entry = some port →
      port.toNat < router.activePorts.toNat) hr ?_
    intro port hport
    cases hport
    exact isActive_iff.mp hactive
  | channel hrecord hn =>
    obtain ⟨hc, rfl⟩ := Vector.getElem?_eq_some_iff.mp hrecord
    refine ⟨hd, ha, hr, hp, ?_, hi⟩
    refine forall_setIfInBounds (fun index (record : Channel) => record.number.toNat = index) hv ?_
    rw [hn, hv]
  | port hrecord hn =>
    obtain ⟨hactive, hrecord⟩ := port?_eq_some_iff.mp hrecord
    obtain ⟨hc, rfl⟩ := Vector.getElem?_eq_some_iff.mp hrecord
    refine ⟨hd, ha, hr, ?_, hv, ?_⟩
    · refine forall_setIfInBounds (fun index (record : Port) => record.number.toNat = index) hp ?_
      rw [hn, hp]
    · -- The port is active, so no other is asked about.
      refine forall_setIfInBounds (fun index (record : Port) => router.activePorts.toNat ≤ index →
        record.state = .uninitialized ∧ record.sent = 0 ∧ record.received = 0 ∧
          record.errors = 0) hi ?_
      intro hle
      exact absurd (isActive_iff.mp hactive) (Nat.not_lt.mpr hle)

theorem Sound.reaches (hs : Sound device ports router) (hr : router.Reaches changed) :
    Sound device ports changed := by
  induction hr with
  | refl => exact hs
  | tail _ hc ih => exact ih.change hc

theorem Initial.sound (h : Initial device ports router) : Sound device ports router := by
  cases h with
  | create => exact create_sound device ports
  | ofPlan hd hp h =>
    subst hd hp
    exact (create_sound _ _).reaches (ofPlan_reaches h)

theorem Sound.port_lt (hs : Sound device ports router) {port : UInt8}
    (h : router.isActive port = true) : port.toNat < maxPorts := by
  have hlt := isActive_iff.mp h
  rw [hs.activePorts] at hlt
  exact Nat.lt_of_lt_of_le hlt (Nat.min_le_right _ _)

/-- The record that a route leads to is there, and active. -/
theorem Sound.route_port? (hs : Sound device ports router) {target port : UInt8}
    (h : router.routes[target.toNat]? = some (some port)) :
    router.isActive port = true ∧ ∃ record, router.ports[port.toNat]? = some record ∧
      router.port? port = some record := by
  obtain ⟨ht, hr⟩ := Vector.getElem?_eq_some_iff.mp h
  have ha : router.isActive port = true := isActive_iff.mpr (hs.route_active _ ht port hr)
  have hl : port.toNat < maxPorts := hs.port_lt ha
  have hp : router.ports[port.toNat]? = some router.ports[port.toNat] :=
    Vector.getElem?_eq_getElem hl
  exact ⟨ha, _, hp, port?_eq_some_iff.mpr ⟨ha, hp⟩⟩

/-- In sound tables no frame meets an inactive port. -/
theorem Sound.egress_ne (hs : Sound device ports router) (target port : UInt8) :
    (router.egress target).1 ≠ .error (.inactivePort port) := by
  rw [egress]
  split
  · intro hc
    cases hc
  · intro hc
    cases hc
  · rename_i chosen h
    obtain ⟨-, record, -, hp⟩ := hs.route_port? h
    rw [hp]
    dsimp only
    split
    · intro hc
      cases hc
    · intro hc
      cases hc

theorem Sound.dispatch_ne (hs : Sound device ports router) (frame : Frame) (target port : UInt8) :
    (router.dispatch frame).1 ≠ .error (.miss target (.inactivePort port)) := by
  have he := hs.egress_ne frame.target port
  rw [dispatch]
  split
  · intro hc
    cases hc
  · split
    · intro hc
      cases hc
    · rename_i hm
      rw [hm] at he
      intro hc
      cases hc
      exact he rfl

/-- No record that `dispatch` takes at a bare index is missing from sound tables. -/
theorem Sound.dispatch?_eq (hs : Sound device ports router) (frame : Frame) :
    router.dispatch? frame = some (router.dispatch frame) := by
  rw [dispatch?, dispatch, lookup?, egress]
  split
  · rfl
  · cases h : router.routes[frame.target.toNat]? with
    | none => rfl
    | some entry =>
      cases entry with
      | none => rfl
      | some port =>
        obtain ⟨ha, record, hi, hp⟩ := hs.route_port? h
        simp only [ha, hi, hp]
        by_cases hc : record.isConnected
        · simp [hc, hi]
        · simp [hc]

private theorem setActive_ne_miss (router : Router) (channel target : UInt8) (active : Bool)
    (reason : Miss) : router.setActive channel active ≠ .error (.miss target reason) := by
  rw [setActive]
  split
  · intro hc
    cases hc
  · intro hc
    cases hc

private theorem updatePort_ne_miss (router : Router) (port target : UInt8) (update : Port → Port)
    (reason : Miss) : router.updatePort port update ≠ .error (.miss target reason) := by
  rw [updatePort]
  split
  · intro hc
    cases hc
  · intro hc
    cases hc

private theorem attempt_ne_refused {result : Except RouterRefusal Router} {error : RouterRefusal}
    (h : result ≠ .error error) : (router.attempt result).1 ≠ .refused error := by
  cases result with
  | ok changed =>
    intro hc
    cases hc
  | error other =>
    intro hc
    cases hc
    exact h rfl

private theorem Sound.step_answer_ne (hs : Sound device ports router) (operation : Operation)
    (target port : UInt8) :
    (router.step operation).1 ≠ .refused (.miss target (.inactivePort port)) := by
  cases operation with
  | install destination port =>
    intro hc
    cases hc
  | setActive channel active =>
    exact attempt_ne_refused (setActive_ne_miss router channel target active _)
  | setState chosen state => exact attempt_ne_refused (updatePort_ne_miss router chosen target _ _)
  | countReceived chosen => exact attempt_ne_refused (updatePort_ne_miss router chosen target _ _)
  | spendCredit channel =>
    intro hc
    cases hc
  | returnCredits channel credits =>
    intro hc
    cases hc
  | dispatch frame =>
    have hd := hs.dispatch_ne frame target port
    rw [step]
    split
    · intro hc
      cases hc
    · rename_i he
      rw [he] at hd
      intro hc
      cases hc
      exact hd rfl

private theorem Sound.run_answer_ne (hs : Sound device ports router) (operations : List Operation)
    (target port : UInt8) :
    .refused (.miss target (.inactivePort port)) ∉ (router.run operations).1 := by
  induction operations generalizing router with
  | nil =>
    intro hc
    cases hc
  | cons operation operations ih =>
    rw [run, List.mem_cons, not_or]
    refine ⟨?_, ?_⟩
    · exact (hs.step_answer_ne operation target port).symm
    · exact ih (hs.change (step_change operation))

/-- Whatever is done with a router, its tables stay sound: no frame ever meets an inactive port, in
the run or after it, and no frame leads to a record beyond the ports. -/
theorem Initial.run_sound (h : Initial device ports router) (operations : List Operation) :
    Sound device ports (router.run operations).2 ∧
    (∀ target port, .refused (.miss target (.inactivePort port)) ∉ (router.run operations).1) ∧
    (∀ frame target port, ((router.run operations).2.dispatch frame).1 ≠
      .error (.miss target (.inactivePort port))) ∧
    ∀ frame, (router.run operations).2.dispatch? frame =
      some ((router.run operations).2.dispatch frame) := by
  have hs : Sound device ports (router.run operations).2 :=
    h.sound.reaches (run_reaches operations)
  exact ⟨hs, h.sound.run_answer_ne operations, hs.dispatch_ne, hs.dispatch?_eq⟩

/-- A router of three ports, set up with one route that fits and one that does not. -/
theorem run_sound_planned :
    ∃ start, ofPlan ⟨1, 3, [⟨4, 2⟩, ⟨5, 6⟩], [2], [0]⟩ = .ok start ∧
      (start.run [.install 6 7, .setState 5 .ready, .dispatch ⟨4, 0, []⟩, .dispatch ⟨5, 0, []⟩]).1 =
        [.installed false, .refused (.noSuchPort 5 3), .decided (.forward 2),
          .refused (.miss 5 .noRoute)] ∧
      Sound 1 3 (start.run
        [.install 6 7, .setState 5 .ready, .dispatch ⟨4, 0, []⟩, .dispatch ⟨5, 0, []⟩]).2 := by
  obtain ⟨start, hp⟩ : ∃ start, ofPlan ⟨1, 3, [⟨4, 2⟩, ⟨5, 6⟩], [2], [0]⟩ = .ok start := ⟨_, rfl⟩
  have hi : Initial 1 3 start := .ofPlan rfl rfl hp
  refine ⟨start, hp, ?_, (hi.run_sound _).1⟩
  have ha : (ofPlan ⟨1, 3, [⟨4, 2⟩, ⟨5, 6⟩], [2], [0]⟩).map (fun start => (start.run
      [.install 6 7, .setState 5 .ready, .dispatch ⟨4, 0, []⟩, .dispatch ⟨5, 0, []⟩]).1) =
        .ok [.installed false, .refused (.noSuchPort 5 3), .decided (.forward 2),
          .refused (.miss 5 .noRoute)] := rfl
  rw [hp] at ha
  exact Except.ok.inj ha

end OnboardLink.Router
