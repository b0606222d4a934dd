import Mathlib
import OnboardLink.Router.Operation

/-! What an operation can do to a router: it changes at most one cell of one table, and no record
gets another number. -/
namespace OnboardLink.Router

/-- A change of at most one cell of a router's tables. -/
inductive Change (router : Router) : Router → Prop where
  | keep : Change router router
  | route {destination port : UInt8} (ha : router.isActive port = true) :
      Change router
        { router with routes := router.routes.setIfInBounds destination.toNat (some port) }
  | channel {channel : UInt8} {record changed : Channel}
      (hr : router.channel? channel = some record) (hn : changed.number = record.number) :
      Change router (router.setChannel channel changed)
  | port {port : UInt8} {record changed : Port}
      (hr : router.port? port = some record) (hn : changed.number = record.number) :
      Change router (router.setPort port changed)

/-- One router comes from another by changes. -/
abbrev Reaches : Router → Router → Prop := Relation.ReflTransGen Change

variable {router changed : Router}

theorem isActive_iff {port : UInt8} :
    router.isActive port = true ↔ port.toNat < router.activePorts.toNat :=
  decide_eq_true_iff.trans UInt8.lt_iff_toNat_lt

theorem port?_eq_some_iff {port : UInt8} {record : Port} :
    router.port? port = some record ↔
      router.isActive port = true ∧ router.ports[port.toNat]? = some record := by
  rw [port?]
  split
  · rename_i ha
    exact ⟨fun h => ⟨ha, h⟩, And.right⟩
  · rename_i ha
    refine ⟨?_, fun h => absurd h.1 ha⟩
    intro h
    cases h

/-- The entries of a table after that of one number was replaced. -/
theorem getElem?_setIfInBounds_toNat {α : Type} {n : ℕ} {table : Vector α n} {number : UInt8}
    {old : α} (h : table[number.toNat]? = some old) (entry : α) (other : UInt8) :
    (table.setIfInBounds number.toNat entry)[other.toNat]? =
      if other = number then some entry else table[other.toNat]? := by
  obtain ⟨hl, -⟩ := Vector.getElem?_eq_some_iff.mp h
  by_cases he : other = number
  · rw [if_pos he, he, Vector.getElem?_setIfInBounds_self_of_lt hl]
  · have hn : number.toNat ≠ other.toNat := fun hc => he (UInt8.toNat_inj.mp hc.symm)
    rw [if_neg he, Vector.getElem?_setIfInBounds_ne hn]

theorem install_change (destination port : UInt8) :
    Change router (router.install destination port).2 := by
  rw [install]
  split
  · rename_i h
    exact .route (Bool.and_eq_true_iff.mp h).2
  · exact .keep

theorem setActive_change {channel : UInt8} {active : Bool}
    (h : router.setActive channel active = .ok changed) : Change router changed := by
  rw [setActive] at h
  split at h
  · rename_i record hr
    cases h
    exact .channel hr rfl
  · cases h

private theorem updatePort_change {port : UInt8} (update : Port → Port)
    (hu : ∀ record, (update record).number = record.number)
    (h : router.updatePort port update = .ok changed) : Change router changed := by
  rw [updatePort] at h
  split at h
  · rename_i record hr
    cases h
    exact .port hr (hu record)
  · cases h

theorem setState_change {port : UInt8} {state : LinkState}
    (h : router.setState port state = .ok changed) : Change router changed :=
  updatePort_change ({ · with state }) (fun _ => rfl) h

private theorem countReceived_change {port : UInt8}
    (h : router.countReceived port = .ok changed) : Change router changed :=
  updatePort_change Port.countReceived (fun _ => rfl) h

private theorem spend_number (record : Channel) : record.spend.2.number = record.number := by
  rw [Channel.spend]
  split <;> rfl

private theorem spendCredit_change (channel : UInt8) :
    Change router (router.spendCredit channel).2 := by
  rw [spendCredit]
  split
  · rename_i record hr
    exact .channel hr (spend_number record)
  · exact .keep

private theorem returnCredits_change (channel : UInt8) (credits : UInt16) :
    Change router (router.returnCredits channel credits).2 := by
  rw [returnCredits]
  split
  · rename_i record hr
    exact .channel hr rfl
  · exact .keep

private theorem egress_change (target : UInt8) : Change router (router.egress target).2 := by
  rw [egress]
  split
  · exact .keep
  · exact .keep
  · split
    · exact .keep
    · rename_i record hr
      split
      · exact .port hr rfl
      · exact .port hr rfl

/-- All that `dispatch` does with a frame: where it goes, and what becomes of the router. -/
inductive Dispatched (router : Router) (frame : Frame) :
    Except RouterRefusal Decision × Router → Prop where
  | stay (h : frame.target = router.device) : Dispatched router frame (.ok .stay, router)
  | beyondTable : Dispatched router frame (.error (.miss frame.target .beyondTable), router)
  | noRoute : Dispatched router frame (.error (.miss frame.target .noRoute), router)
  | inactivePort {port : UInt8} (hp : router.port? port = none) :
      Dispatched router frame (.error (.miss frame.target (.inactivePort port)), router)
  | forward {port : UInt8} {record : Port} (hp : router.port? port = some record)
      (hc : record.state = .connected) :
      Dispatched router frame (.ok (.forward port), router.setPort port record.countSent)
  | linkDown {port : UInt8} {record : Port} (hp : router.port? port = some record)
      (hc : record.state ≠ .connected) :
      Dispatched router frame (.error (.miss frame.target (.linkDown port record.state)),
        router.setPort port record.countError)

theorem dispatched (router : Router) (frame : Frame) :
    Dispatched router frame (router.dispatch frame) := by
  rw [dispatch, egress]
  split
  · exact .stay ‹_›
  · cases router.routes[frame.target.toNat]? with
    | none => exact .beyondTable
    | some entry =>
      cases entry with
      | none => exact .noRoute
      | some port =>
        cases hp : router.port? port with
        | none =>
          simp only [hp]
          exact .inactivePort hp
        | some record =>
          by_cases hc : record.state = .connected
          · simp only [hp, Port.isConnected, hc, decide_true, if_true]
            exact .forward hp hc
          · simp only [hp, Port.isConnected, hc, decide_false, Bool.false_eq_true, if_false]
            exact .linkDown hp hc

theorem dispatch_snd (frame : Frame) :
    (router.dispatch frame).2 =
      if frame.target = router.device then router else (router.egress frame.target).2 := by
  rw [dispatch]
  split
  · rfl
  · split <;> simp [*]

private theorem dispatch_change (frame : Frame) : Change router (router.dispatch frame).2 := by
  rw [dispatch_snd]
  split
  · exact .keep
  · exact egress_change frame.target

private theorem attempt_change {result : Except RouterRefusal Router}
    (h : ∀ changed, result = .ok changed → Change router changed) :
    Change router (router.attempt result).2 := by
  cases result with
  | ok changed => exact h changed rfl
  | error _ => exact .keep

theorem step_dispatch_snd (router : Router) (frame : Frame) :
    (router.step (.dispatch frame)).2 = (router.dispatch frame).2 := by
  rw [step]
  split <;> simp [*]

/-- No operation does more than one change, and a refused one does none. -/
theorem step_change (operation : Operation) : Change router (router.step operation).2 := by
  cases operation with
  | install destination port => exact install_change destination port
  | setActive channel active => exact attempt_change fun _ => setActive_change
  | setState port state => exact attempt_change fun _ => setState_change
  | countReceived port => exact attempt_change fun _ => countReceived_change
  | spendCredit channel => exact spendCredit_change channel
  | returnCredits channel credits => exact returnCredits_change channel credits
  | dispatch frame =>
    rw [step_dispatch_snd]
    exact dispatch_change frame

theorem run_reaches (operations : List Operation) : Reaches router (router.run operations).2 := by
  induction operations generalizing router with
  | nil => exact .refl
  | cons operation operations ih => exact .head (step_change operation) ih

theorem foldl_reaches {α : Type} {f : Router → α → Router}
    (hf : ∀ router a, Change router (f router a)) (router : Router) (l : List α) :
    Reaches router (l.foldl f router) := by
  induction l generalizing router with
  | nil => exact .refl
  | cons a l ih => exact .head (hf router a) (ih (f router a))

theorem bind_eq_ok {ε α β : Type} {result : Except ε α} {f : α → Except ε β} {b : β}
    (h : result >>= f = .ok b) : ∃ a, result = .ok a ∧ f a = .ok b := by
  cases result with
  | error _ => cases h
  | ok a => exact ⟨a, rfl, h⟩

private theorem foldlM_reaches {α : Type} {f : Router → α → Except RouterRefusal Router}
    (hf : ∀ {router a changed}, f router a = .ok changed → Change router changed) {l : List α}
    (h : l.foldlM f router = .ok changed) : Reaches router changed := by
  induction l generalizing router with
  | nil =>
    cases h
    exact .refl
  | cons a l ih =>
    rw [List.foldlM_cons] at h
    obtain ⟨next, ha, hl⟩ := bind_eq_ok h
    exact .head (hf ha) (ih hl)

/-- A router set up by a plan comes from a new one by changes. -/
theorem ofPlan_reaches {plan : RouterPlan} (h : ofPlan plan = .ok changed) :
    Reaches (create plan.device plan.ports) changed := by
  obtain ⟨next, hc, hl⟩ := bind_eq_ok h
  have hi := foldl_reaches (fun _ (route : Route) => install_change route.destination route.port)
    (create plan.device plan.ports) plan.routes
  have ho := foldlM_reaches setActive_change hc
  exact (hi.trans ho).trans (foldlM_reaches setState_change hl)

end OnboardLink.Router
