import OnboardLink.Proofs.Router.Soundness

/-! Which plans a router can be set up by. Routes never stand in the way. The first channel that no
router has is reported, and otherwise the first port that is not active. -/
namespace OnboardLink

/-- The channel is one that no router has. -/
def RouterPlan.isBeyondChannels (channel : UInt8) : Bool := Channel.count ≤ channel.toNat

/-- The port is not among the first so many that there are. -/
def RouterPlan.isBeyondPorts (ports port : UInt8) : Bool :=
  min ports.toNat Router.maxPorts ≤ port.toNat

/-- What a router refuses in a plan. -/
def RouterPlan.refusal? (plan : RouterPlan) : Option RouterRefusal :=
  ((plan.channels.find? isBeyondChannels).map .noSuchChannel).or
    ((plan.connected.find? (isBeyondPorts plan.ports)).map (.noSuchPort · (min plan.ports 8)))

theorem RouterPlan.refusal?_eq_none_iff {plan : RouterPlan} : plan.refusal? = none ↔
    (∀ channel ∈ plan.channels, channel.toNat < Channel.count) ∧
      ∀ port ∈ plan.connected, port.toNat < min plan.ports.toNat Router.maxPorts := by
  simp [refusal?, isBeyondChannels, isBeyondPorts]

namespace Router
open RouterPlan

variable {router : Router} {device ports : UInt8}

private theorem setActive_of_beyond {channel : UInt8} (h : isBeyondChannels channel = true)
    (active : Bool) : router.setActive channel active = .error (.noSuchChannel channel) := by
  rw [setActive, channel?, Vector.getElem?_eq_none (of_decide_eq_true h)]

private theorem exists_setActive_eq {channel : UInt8} (h : isBeyondChannels channel = false)
    (active : Bool) : ∃ changed, router.setActive channel active = .ok changed := by
  rw [setActive, channel?, Vector.getElem?_eq_getElem (Nat.not_le.mp (of_decide_eq_false h))]
  exact ⟨_, rfl⟩

private theorem Sound.setState_of_beyond (hs : Sound device ports router) {port : UInt8}
    (h : isBeyondPorts ports port = true) (state : LinkState) :
    router.setState port state = .error (.noSuchPort port (min ports 8)) := by
  have hn : router.activePorts = min ports 8 :=
    UInt8.toNat_inj.mp (hs.activePorts.trans (create_sound device ports).activePorts.symm)
  have ha : router.port? port = none := by
    refine if_neg (mt isActive_iff.mp ?_)
    rw [hs.activePorts]
    exact Nat.not_lt.mpr (of_decide_eq_true h)
  rw [setState, updatePort, ha, hn]

private theorem Sound.exists_setState_eq (hs : Sound device ports router) {port : UInt8}
    (h : isBeyondPorts ports port = false) (state : LinkState) :
    ∃ changed, router.setState port state = .ok changed := by
  have ha : router.isActive port = true := by
    rw [isActive_iff, hs.activePorts]
    exact Nat.not_le.mp (of_decide_eq_false h)
  have hl : port.toNat < maxPorts := hs.port_lt ha
  have hp : router.port? port = some router.ports[port.toNat] :=
    port?_eq_some_iff.mpr ⟨ha, Vector.getElem?_eq_getElem hl⟩
  rw [setState, updatePort, hp]
  exact ⟨_, rfl⟩

/-- Updates one after the other end at the first element that is refused. -/
private theorem foldlM_eq {f : Router → UInt8 → Except RouterRefusal Router}
    {refused : UInt8 → Bool} {error : UInt8 → RouterRefusal}
    (hr : ∀ {router a}, Sound device ports router → refused a = true →
      f router a = .error (error a))
    (ho : ∀ {router a}, Sound device ports router → refused a = false →
      ∃ changed, f router a = .ok changed ∧ Sound device ports changed)
    (hs : Sound device ports router) (l : List UInt8) :
    (∀ a, l.find? refused = some a → l.foldlM f router = .error (error a)) ∧
    (l.find? refused = none →
      ∃ changed, l.foldlM f router = .ok changed ∧ Sound device ports changed) := by
  induction l generalizing router with
  | nil => exact ⟨nofun, fun _ => ⟨router, rfl, hs⟩⟩
  | cons a l ih =>
    rw [List.foldlM_cons]
    cases hc : refused a with
    | true =>
      rw [List.find?_cons_of_pos hc, hr hs hc]
      refine ⟨?_, nofun⟩
      rintro found ⟨⟩
      rfl
    | false =>
      obtain ⟨changed, he, hs⟩ := ho hs hc
      rw [List.find?_cons_of_neg (by simp [hc]), he]
      exact ih hs

private theorem Sound.open_eq (hs : Sound device ports router) (channels : List UInt8) :
    (∀ channel, channels.find? isBeyondChannels = some channel →
      channels.foldlM (setActive · · true) router = .error (.noSuchChannel channel)) ∧
    (channels.find? isBeyondChannels = none → ∃ changed,
      channels.foldlM (setActive · · true) router = .ok changed ∧ Sound device ports changed) := by
  refine foldlM_eq (fun _ hc => setActive_of_beyond hc true) (fun hs hc => ?_) hs channels
  obtain ⟨changed, he⟩ := exists_setActive_eq hc true
  exact ⟨changed, he, hs.change (setActive_change he)⟩

private theorem Sound.connect_eq (hs : Sound device ports router) (connected : List UInt8) :
    (∀ port, connected.find? (isBeyondPorts ports) = some port →
      connected.foldlM (setState · · .connected) router =
        .error (.noSuchPort port (min ports 8))) ∧
    (connected.find? (isBeyondPorts ports) = none → ∃ changed,
      connected.foldlM (setState · · .connected) router = .ok changed ∧
        Sound device ports changed) := by
  refine foldlM_eq (fun hs hc => hs.setState_of_beyond hc .connected) (fun hs hc => ?_) hs connected
  obtain ⟨changed, he⟩ := hs.exists_setState_eq hc .connected
  exact ⟨changed, he, hs.change (setState_change he)⟩

/-- A plan sets a router up, or the first thing in it that is out of range is refused. -/
theorem ofPlan_eq (plan : RouterPlan) :
    (∀ error, plan.refusal? = some error → ofPlan plan = .error error) ∧
    (plan.refusal? = none → ∃ router, ofPlan plan = .ok router) := by
  have hs := (create_sound plan.device plan.ports).reaches (foldl_reaches
    (fun _ (route : Route) => install_change route.destination route.port) _ plan.routes)
  obtain ⟨hce, hco⟩ := hs.open_eq plan.channels
  cases hc : plan.channels.find? isBeyondChannels with
  | some channel =>
    rw [refusal?, hc, ofPlan, hce channel hc]
    refine ⟨?_, nofun⟩
    rintro error ⟨⟩
    rfl
  | none =>
    obtain ⟨opened, ho, hs⟩ := hco hc
    obtain ⟨hpe, hpo⟩ := hs.connect_eq plan.connected
    rw [refusal?, hc, ofPlan, ho]
    cases hp : plan.connected.find? (isBeyondPorts plan.ports) with
    | some port =>
      refine ⟨?_, nofun⟩
      rintro error ⟨⟩
      exact hpe port hp
    | none =>
      obtain ⟨connected, hl, -⟩ := hpo hp
      exact ⟨nofun, fun _ => ⟨connected, hl⟩⟩

end Router
end OnboardLink
