import OnboardLink.Proofs.Router.SetUp

/-! The router that a plan describes. Every cell of its tables follows from the plan alone: a route
from the last entry that could be installed, a link and a channel from whether they are listed. So the
order and the repetition of what is listed leave no trace, and of the routes only the order of those
to the same destination does. -/
namespace OnboardLink

namespace RouterPlan

/-- The port of the last route to a destination that can be installed. -/
def lastPort? (ports : UInt8) (routes : List Route) (destination : UInt8) : Option UInt8 :=
  ((routes.filter fun route => route.destination = destination ∧
    route.port.toNat < min ports.toNat 8).getLast?).map Route.port

/-- The routing table that is left when the routes were installed one after the other. -/
def routeTable (ports : UInt8) (routes : List Route) : Vector (Option UInt8) Router.maxPorts :=
  .ofFn fun index => lastPort? ports routes index.val.toUInt8

/-- The router that the plan describes, if nothing in it is out of range. -/
def described (plan : RouterPlan) : Router where
  device := plan.device
  activePorts := min plan.ports 8
  ports := .ofFn fun index =>
    { number := index.val.toUInt8
      state := if index.val.toUInt8 ∈ plan.connected then .connected else .uninitialized
      sent := 0
      received := 0
      errors := 0 }
  channels := .ofFn fun index =>
    { number := index.val.toUInt8
      active := index.val.toUInt8 ∈ plan.channels
      credits := 64 }
  routes := routeTable plan.ports plan.routes

/-- Another plan lists the same, in any order and any number of times; only routes to the same
destination are in the same order. -/
structure Rearranges (plan other : RouterPlan) : Prop where
  device : other.device = plan.device
  ports : other.ports = plan.ports
  channels : ∀ channel, channel ∈ other.channels ↔ channel ∈ plan.channels
  connected : ∀ port, port ∈ other.connected ↔ port ∈ plan.connected
  routes : ∀ destination, other.routes.filter (·.destination = destination) =
    plan.routes.filter (·.destination = destination)

variable {plan other : RouterPlan}

theorem Rearranges.refusal? (h : plan.Rearranges other) (hn : plan.refusal? = none) :
    other.refusal? = none := by
  rw [refusal?_eq_none_iff] at hn ⊢
  simpa only [h.channels, h.connected, h.ports] using hn

private theorem Rearranges.lastPort? (h : plan.Rearranges other) (destination : UInt8) :
    lastPort? plan.ports other.routes destination =
      lastPort? plan.ports plan.routes destination := by
  have hf (routes : List Route) : routes.filter (fun route => route.destination = destination ∧
      route.port.toNat < min plan.ports.toNat 8) =
        (routes.filter (·.destination = destination)).filter fun route =>
          route.port.toNat < min plan.ports.toNat 8 := by
    simp only [List.filter_filter, Bool.decide_and, Bool.and_comm]
  rw [RouterPlan.lastPort?, RouterPlan.lastPort?, hf, hf, h.routes]

/-- What is described does not depend on the arrangement. -/
theorem Rearranges.described_eq (h : plan.Rearranges other) : other.described = plan.described := by
  simp only [described, h.device, h.ports, h.channels, h.connected, routeTable, h.lastPort?]

/-- Routes to different destinations can be put in any order. -/
theorem filter_destination_eq {routes others : List Route} (h : routes.Perm others)
    (hd : (routes.map Route.destination).Nodup) (destination : UInt8) :
    others.filter (·.destination = destination) = routes.filter (·.destination = destination) := by
  induction h with
  | nil => rfl
  | cons route _ ih =>
    rw [List.map_cons, List.nodup_cons] at hd
    rw [List.filter_cons, List.filter_cons, ih hd.2]
  | swap route next routes =>
    have hn : next.destination ≠ route.destination := by
      simp only [List.map_cons, List.nodup_cons, List.mem_cons, not_or] at hd
      exact hd.1.1
    by_cases hr : route.destination = destination
    · simp [hr, hr ▸ hn]
    · simp [List.filter_cons, hr]
  | trans h _ ih₁ ih₂ => rw [ih₂ ((h.map _).nodup_iff.mp hd), ih₁ hd]

end RouterPlan

def Channel.opened (channel : Channel) : Channel := { channel with active := true }

theorem Channel.opened_opened (channel : Channel) : channel.opened.opened = channel.opened := rfl

def Port.connected (port : Port) : Port := { port with state := .connected }

theorem Port.connected_connected (port : Port) : port.connected.connected = port.connected := rfl

namespace Router
open RouterPlan

section Marking

variable {α : Type} {n : ℕ}

/-- The table with the entries of the listed numbers marked. -/
def marked (mark : α → α) (table : Vector α n) (numbers : List UInt8) : Vector α n :=
  .ofFn fun index => if index.val.toUInt8 ∈ numbers then mark table[index] else table[index]

private theorem marked_nil (mark : α → α) (table : Vector α n) : marked mark table [] = table := by
  apply Vector.ext
  intro index h
  simp [marked]

private theorem toUInt8_eq_iff {index : ℕ} (h : index < 256) (number : UInt8) :
    index.toUInt8 = number ↔ number.toNat = index := by
  rw [← UInt8.toNat_inj, UInt8.toNat_ofNat_of_lt' h, eq_comm]

/-- An entry that was marked before is marked all the same. -/
theorem marked_setIfInBounds {mark : α → α} (hm : ∀ entry, mark (mark entry) = mark entry)
    (hn : n ≤ 256) {table : Vector α n} {number : UInt8} {entry : α}
    (he : table[number.toNat]? = some entry) (numbers : List UInt8) :
    marked mark (table.setIfInBounds number.toNat (mark entry)) numbers =
      marked mark table (number :: numbers) := by
  obtain ⟨hl, rfl⟩ := Vector.getElem?_eq_some_iff.mp he
  apply Vector.ext
  intro index h
  have hi := toUInt8_eq_iff (h.trans_le hn) number
  simp only [marked, Vector.getElem_ofFn, Fin.getElem_fin, Vector.getElem_setIfInBounds h,
    List.mem_cons, hi]
  by_cases hc : number.toNat = index
  · subst hc
    simp [hm]
  · simp [hc]

end Marking

variable {router : Router} {device ports : UInt8}

private theorem open_eq_marked {channels : List UInt8}
    (h : ∀ channel ∈ channels, channel.toNat < Channel.count) (router : Router) :
    channels.foldlM (setActive · · true) router =
      .ok { router with channels := marked Channel.opened router.channels channels } := by
  induction channels generalizing router with
  | nil =>
    rw [marked_nil]
    rfl
  | cons channel channels ih =>
    obtain ⟨hc, h⟩ := List.forall_mem_cons.mp h
    have hr : router.channels[channel.toNat]? = some router.channels[channel.toNat] :=
      Vector.getElem?_eq_getElem hc
    have hs : router.setActive channel true =
        .ok (router.setChannel channel router.channels[channel.toNat].opened) := by
      rw [setActive, channel?, hr]
      rfl
    rw [List.foldlM_cons, hs, ← marked_setIfInBounds Channel.opened_opened (by decide) hr]
    exact ih h _

private theorem connect_eq_marked {connected : List UInt8}
    (hb : router.activePorts.toNat ≤ maxPorts)
    (h : ∀ port ∈ connected, port.toNat < router.activePorts.toNat) :
    connected.foldlM (setState · · .connected) router =
      .ok { router with ports := marked Port.connected router.ports connected } := by
  induction connected generalizing router with
  | nil =>
    rw [marked_nil]
    rfl
  | cons port connected ih =>
    obtain ⟨hp, h⟩ := List.forall_mem_cons.mp h
    obtain ⟨record, hr⟩ : ∃ record, router.ports[port.toNat]? = some record :=
      ⟨_, Vector.getElem?_eq_getElem (hp.trans_le hb)⟩
    have hc : router.setState port .connected = .ok (router.setPort port record.connected) := by
      rw [setState, updatePort, port?_eq_some_iff.mpr ⟨isActive_iff.mpr hp, hr⟩]
      rfl
    rw [List.foldlM_cons, hc, ← marked_setIfInBounds Port.connected_connected (by decide) hr]
    exact ih hb h

private theorem routeTable_nil (ports : UInt8) :
    routeTable ports [] = .replicate maxPorts none := by
  apply Vector.ext
  intro index h
  simp [routeTable, lastPort?]

private theorem lastPort?_concat (ports : UInt8) (routes : List Route) (route : Route)
    (destination : UInt8) : lastPort? ports (routes ++ [route]) destination =
      if route.destination = destination ∧ route.port.toNat < min ports.toNat 8 then some route.port
      else lastPort? ports routes destination := by
  rw [lastPort?, List.filter_append, List.filter_singleton]
  by_cases h : route.destination = destination ∧ route.port.toNat < min ports.toNat 8
  · rw [if_pos h, decide_eq_true h, cond_true, List.getLast?_concat]
    rfl
  · rw [if_neg h, decide_eq_false h, cond_false, List.append_nil]
    rfl

/-- One more route takes the place of those before it, if it can be installed. -/
theorem routeTable_concat (ports : UInt8) (routes : List Route) (route : Route) :
    routeTable ports (routes ++ [route]) = if route.port.toNat < min ports.toNat 8 then
        (routeTable ports routes).setIfInBounds route.destination.toNat (some route.port)
      else routeTable ports routes := by
  apply Vector.ext
  intro index h
  have hi : route.destination = index.toUInt8 ↔ route.destination.toNat = index :=
    eq_comm.trans (toUInt8_eq_iff (h.trans_le (by decide)) _)
  by_cases hp : route.port.toNat < min ports.toNat 8
  · simp only [routeTable, Vector.getElem_ofFn, lastPort?_concat, hi, hp, and_true, if_true,
      Vector.getElem_setIfInBounds h]
  · simp only [routeTable, Vector.getElem_ofFn, lastPort?_concat, hp, and_false, if_false]

private theorem install_routeTable (device ports : UInt8) (routes : List Route) (route : Route) :
    (install { create device ports with routes := routeTable ports routes }
        route.destination route.port).2 =
      { create device ports with routes := routeTable ports (routes ++ [route]) } := by
  have ha : isActive { create device ports with routes := routeTable ports routes } route.port = true ↔
      route.port.toNat < min ports.toNat 8 := by
    rw [isActive_iff]
    exact iff_of_eq (congrArg _ (create_sound device ports).activePorts)
  rw [routeTable_concat, install]
  by_cases hp : route.port.toNat < min ports.toNat 8
  · rw [if_pos hp, ha.mpr hp, Bool.and_true]
    by_cases hd : route.destination.toNat < maxPorts
    · rw [if_pos (decide_eq_true hd)]
    · have hn : (routeTable ports routes).setIfInBounds route.destination.toNat (some route.port) =
          routeTable ports routes := Vector.setIfInBounds_eq_of_size_le (Nat.not_lt.mp hd)
      rw [if_neg (by simpa using hd), hn]
  · rw [if_neg hp, if_neg (by simp [ha, hp])]

/-- Of the routes to a destination the last that can be installed stays. -/
theorem install_eq_routeTable (device ports : UInt8) (routes : List Route) :
    routes.foldl (fun router route => (router.install route.destination route.port).2)
        (create device ports) =
      { create device ports with routes := routeTable ports routes } := by
  induction routes using List.reverseRecOn with
  | nil =>
    rw [routeTable_nil]
    rfl
  | append_singleton routes route ih =>
    rw [List.foldl_append, ih, List.foldl_cons, List.foldl_nil, install_routeTable]

private theorem marked_create_ports (device ports : UInt8) (connected : List UInt8) :
    marked Port.connected (create device ports).ports connected = .ofFn fun index =>
      { number := index.val.toUInt8
        state := if index.val.toUInt8 ∈ connected then .connected else .uninitialized
        sent := 0
        received := 0
        errors := 0 } := by
  apply Vector.ext
  intro index h
  simp only [marked, create, Vector.getElem_ofFn, Fin.getElem_fin]
  split <;> rfl

private theorem marked_create_channels (device ports : UInt8) (channels : List UInt8) :
    marked Channel.opened (create device ports).channels channels = .ofFn fun index =>
      { number := index.val.toUInt8
        active := index.val.toUInt8 ∈ channels
        credits := 64 } := by
  apply Vector.ext
  intro index h
  simp only [marked, create, Vector.getElem_ofFn, Fin.getElem_fin]
  split <;> simp [*, Channel.opened, Channel.initialCredits]

private theorem described_eq (plan : RouterPlan) : plan.described =
    { create plan.device plan.ports with
      ports := marked Port.connected (create plan.device plan.ports).ports plan.connected
      channels := marked Channel.opened (create plan.device plan.ports).channels plan.channels
      routes := routeTable plan.ports plan.routes } := by
  rw [marked_create_ports, marked_create_channels]
  rfl

/-- A plan with nothing out of range sets up the router that it describes. -/
theorem ofPlan_of_accepted {plan : RouterPlan} (h : plan.refusal? = none) :
    ofPlan plan = .ok plan.described := by
  obtain ⟨hc, hp⟩ := refusal?_eq_none_iff.mp h
  let opened : Router := { create plan.device plan.ports with
    channels := marked Channel.opened (create plan.device plan.ports).channels plan.channels
    routes := routeTable plan.ports plan.routes }
  have ho : ofPlan plan = plan.connected.foldlM (setState · · .connected) opened := by
    rw [ofPlan, install_eq_routeTable, open_eq_marked hc]
    rfl
  have hn : opened.activePorts.toNat = min plan.ports.toNat maxPorts :=
    (create_sound plan.device plan.ports).activePorts
  have hb : opened.activePorts.toNat ≤ maxPorts := hn.trans_le (Nat.min_le_right _ _)
  have ha : ∀ port ∈ plan.connected, port.toNat < opened.activePorts.toNat := hn ▸ hp
  rw [ho, connect_eq_marked hb ha, described_eq]

/-- A plan sets up the router that it describes, or is refused. -/
theorem ofPlan_eq_described (plan : RouterPlan) : ofPlan plan = match plan.refusal? with
    | some error => .error error
    | none => .ok plan.described := by
  cases h : plan.refusal? with
  | some error => exact (ofPlan_eq plan).1 error h
  | none => exact ofPlan_of_accepted h

private theorem refusal?_of_ofPlan {plan : RouterPlan} (h : ofPlan plan = .ok router) :
    plan.refusal? = none ∧ router = plan.described := by
  rw [ofPlan_eq_described] at h
  cases hr : plan.refusal? with
  | some error =>
    rw [hr] at h
    cases h
  | none =>
    rw [hr] at h
    cases h
    exact ⟨rfl, rfl⟩

/-- A plan is refused for its first channel that no router has, then for its first port that is not
active, and otherwise sets up the router that it describes. So the order and the repetition of
channels and of connected ports do not matter, nor does the order of routes to different
destinations. -/
theorem ofPlan_closed_form (plan : RouterPlan) :
    ofPlan plan =
      (match plan.channels.find? (16 ≤ ·.toNat),
          plan.connected.find? (min plan.ports.toNat 8 ≤ ·.toNat) with
        | some channel, _ => .error (.noSuchChannel channel)
        | none, some port => .error (.noSuchPort port (min plan.ports 8))
        | none, none => .ok plan.described) ∧
    (∀ router, ofPlan plan = .ok router →
      ∀ other, plan.Rearranges other → ofPlan other = .ok router) ∧
    ∀ routes, plan.routes.Perm routes → (plan.routes.map Route.destination).Nodup →
      ofPlan { plan with routes } = ofPlan plan := by
  refine ⟨?_, ?_, ?_⟩
  · have hr : plan.refusal? = ((plan.channels.find? (16 ≤ ·.toNat)).map .noSuchChannel).or
        ((plan.connected.find? (min plan.ports.toNat 8 ≤ ·.toNat)).map
          (.noSuchPort · (min plan.ports 8))) := rfl
    rw [ofPlan_eq_described, hr]
    cases plan.channels.find? (16 ≤ ·.toNat) with
    | some channel => rfl
    | none => cases plan.connected.find? (min plan.ports.toNat 8 ≤ ·.toNat) <;> rfl
  · intro router h other ha
    obtain ⟨hn, rfl⟩ := refusal?_of_ofPlan h
    rw [ofPlan_of_accepted (ha.refusal? hn), ha.described_eq]
  · intro routes hp hd
    have ha : plan.Rearranges { plan with routes } :=
      ⟨rfl, rfl, fun _ => Iff.rfl, fun _ => Iff.rfl, filter_destination_eq hp hd⟩
    have hr : RouterPlan.refusal? { plan with routes } = plan.refusal? := rfl
    rw [ofPlan_eq_described, ofPlan_eq_described, hr, ha.described_eq]

/-- A plan with two routes to one destination, and the same with all else in another order and listed
twice; plans in which something is out of range. -/
theorem ofPlan_closed_form_rearranged :
    let plan : RouterPlan := ⟨1, 3, [⟨4, 2⟩, ⟨5, 1⟩, ⟨4, 1⟩, ⟨4, 3⟩], [2, 0], [0, 7]⟩
    let other : RouterPlan := ⟨1, 3, [⟨5, 1⟩, ⟨4, 2⟩, ⟨4, 1⟩, ⟨4, 3⟩], [0, 2, 2], [7, 0, 7]⟩
    let distinct : RouterPlan := { plan with routes := [⟨4, 2⟩, ⟨5, 1⟩] }
    (∃ router, ofPlan plan = .ok router ∧ plan.Rearranges other ∧ ofPlan other = .ok router ∧
      router.route? 4 = some 1) ∧
    (distinct.routes.Perm [⟨5, 1⟩, ⟨4, 2⟩] ∧ (distinct.routes.map Route.destination).Nodup ∧
      ofPlan { distinct with routes := [⟨5, 1⟩, ⟨4, 2⟩] } = ofPlan distinct) ∧
    ofPlan { plan with channels := [0, 17, 16], connected := [3] } = .error (.noSuchChannel 17) ∧
    ofPlan { plan with connected := [2, 3, 9] } = .error (.noSuchPort 3 3) := by
  intro plan other distinct
  have ha : plan.Rearranges other := by
    refine ⟨rfl, rfl, ?_, ?_, ?_⟩
    · intro channel
      simp only [plan, other, List.mem_cons, List.not_mem_nil]
      tauto
    · intro port
      simp only [plan, other, List.mem_cons, List.not_mem_nil]
      tauto
    · intro destination
      by_cases h : (5 : UInt8) = destination
      · subst h
        rfl
      · simp [plan, other, List.filter_cons, h]
  have hp : distinct.routes.Perm [⟨5, 1⟩, ⟨4, 2⟩] := by decide
  have hd : (distinct.routes.map Route.destination).Nodup := by decide
  obtain ⟨he, hr, -⟩ := ofPlan_closed_form plan
  refine ⟨⟨plan.described, he, ha, hr _ he other ha, rfl⟩,
    ⟨hp, hd, (ofPlan_closed_form distinct).2.2 _ hp hd⟩, (ofPlan_closed_form _).1,
    (ofPlan_closed_form _).1⟩

end Router
end OnboardLink
