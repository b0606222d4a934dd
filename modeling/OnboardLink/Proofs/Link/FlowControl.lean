import Mathlib
import OnboardLink.Link

/-! Flow control at one end of a link. Only grants and spending move the credits to send with: a grant
adds what fits below the limit and spending takes one, so at every moment of a run the credits granted
are those spent, those left and those that did not fit. States come and go beside them. -/
namespace OnboardLink.Endpoint

/-- The credits that an operation grants. -/
def Operation.granted : Operation → ℕ
  | .grant credits => credits.toNat
  | _ => 0

/-- The state that an operation sets. -/
def Operation.state? : Operation → Option LinkState
  | .setState state => some state
  | _ => none

/-- How often a credit was spent in the course of a run. -/
def spent (endpoint : Endpoint) (operations : List Operation) : ℕ :=
  (operations.zip (endpoint.run operations).1).count (.spend, true)

/-- The most credits that an endpoint holds. -/
def capacity : ℕ := 255

/-- What a grant is beyond the most credits. -/
def excess (endpoint : Endpoint) : Operation → ℕ
  | .grant credits => endpoint.sendCredits.toNat + credits.toNat - capacity
  | _ => 0

/-- What grants were beyond the most credits in the course of a run, each with the credits that were
left when it came. -/
def clipped (endpoint : Endpoint) : List Operation → ℕ
  | [] => 0
  | operation :: operations =>
    endpoint.excess operation + (endpoint.step operation).2.clipped operations

variable (endpoint : Endpoint) (operation : Operation) (operations : List Operation)

theorem run_cons : endpoint.run (operation :: operations) =
    ((endpoint.step operation).1 :: ((endpoint.step operation).2.run operations).1,
      ((endpoint.step operation).2.run operations).2) := rfl

theorem run_append (front back : List Operation) :
    endpoint.run (front ++ back) =
      ((endpoint.run front).1 ++ ((endpoint.run front).2.run back).1,
        ((endpoint.run front).2.run back).2) := by
  induction front generalizing endpoint with
  | nil => rfl
  | cons operation front ih => rw [List.cons_append, run_cons, ih, run_cons, List.cons_append]

theorem length_run : (endpoint.run operations).1.length = operations.length := by
  induction operations generalizing endpoint with
  | nil => rfl
  | cons operation operations ih => rw [run_cons, List.length_cons, ih, List.length_cons]

/-- The answers to the first operations do not depend on those that follow. -/
theorem run_take (count : ℕ) :
    (endpoint.run (operations.take count)).1 = (endpoint.run operations).1.take count := by
  by_cases h : count ≤ operations.length
  · have hl : (endpoint.run (operations.take count)).1.length = count := by
      rw [length_run, List.length_take_of_le h]
    conv_rhs => rw [← List.take_append_drop count operations, run_append]
    exact (List.take_left' hl).symm
  · have hl : operations.length ≤ count := Nat.le_of_not_le h
    have ha : (endpoint.run operations).1.length ≤ count := by rwa [length_run]
    rw [List.take_of_length_le hl, List.take_of_length_le ha]

/-- A credit is spent where one is left, and otherwise nothing happens. -/
theorem spend_cases :
    0 < endpoint.sendCredits.toNat ∧
        endpoint.spend = (true, { endpoint with sendCredits := endpoint.sendCredits - 1 }) ∨
      endpoint.sendCredits.toNat = 0 ∧ endpoint.spend = (false, endpoint) := by
  have hz : endpoint.sendCredits = 0 ↔ endpoint.sendCredits.toNat = 0 := UInt8.toNat_inj.symm
  rw [spend]
  by_cases h : endpoint.sendCredits = 0
  · exact .inr ⟨hz.mp h, if_pos h⟩
  · exact .inl ⟨Nat.pos_of_ne_zero (mt hz.mpr h), if_neg h⟩

/-- An attempt to spend fails exactly where no credit is left. -/
theorem spend_fst_eq_false_iff : endpoint.spend.1 = false ↔ endpoint.sendCredits = 0 := by
  rw [← UInt8.toNat_inj]
  rcases endpoint.spend_cases with ⟨hp, hs⟩ | ⟨hz, hs⟩
  · rw [hs]
    exact iff_of_false nofun (Nat.ne_of_gt hp)
  · rw [hs]
    exact iff_of_true rfl hz

theorem toNat_sendCredits_grant (credits : UInt8) :
    (endpoint.grant credits).sendCredits.toNat =
      min capacity (endpoint.sendCredits.toNat + credits.toNat) := by
  rw [grant]
  exact UInt8.toNat_ofNat_of_lt' (Nat.lt_succ_of_le (Nat.min_le_left _ _))

/-- What was left and is granted is what is left, what is spent and what does not fit. -/
theorem balance_step :
    endpoint.sendCredits.toNat + operation.granted =
      (endpoint.step operation).2.sendCredits.toNat +
        (if operation = .spend ∧ (endpoint.step operation).1 = true then 1 else 0) +
        endpoint.excess operation := by
  cases operation with
  | setState state =>
    rw [if_neg (by simp)]
    rfl
  | grant credits =>
    have hg : (endpoint.step (.grant credits)).2.sendCredits.toNat = _ :=
      endpoint.toNat_sendCredits_grant credits
    rw [if_neg (by simp), hg, Operation.granted, excess]
    omega
  | spend =>
    change endpoint.sendCredits.toNat + 0 = endpoint.spend.2.sendCredits.toNat + _ + 0
    rw [step]
    rcases endpoint.spend_cases with ⟨hp, hs⟩ | ⟨-, hs⟩
    · have h1 : (1 : UInt8) ≤ endpoint.sendCredits := UInt8.le_iff_toNat_le.mpr hp
      have hm := UInt8.toNat_sub_of_le _ _ h1
      rw [hs, if_pos ⟨rfl, rfl⟩, hm]
      exact (Nat.sub_add_cancel hp).symm
    · rw [hs, if_neg (by simp)]

/-- A run keeps the balance of the credits. -/
theorem balance_run :
    endpoint.sendCredits.toNat + (operations.map Operation.granted).sum =
      (endpoint.run operations).2.sendCredits.toNat + endpoint.spent operations +
        endpoint.clipped operations := by
  induction operations generalizing endpoint with
  | nil => rfl
  | cons operation operations ih =>
    have hs := endpoint.balance_step operation
    have hr := ih (endpoint.step operation).2
    rw [List.map_cons, List.sum_cons, spent, run_cons, List.zip_cons_cons, List.count_cons, clipped]
    simp only [spent, beq_iff_eq, Prod.mk.injEq] at hr ⊢
    omega

/-- What an endpoint was created with stays. -/
theorem step_kept : (endpoint.step operation).2.settings = endpoint.settings ∧
    (endpoint.step operation).2.receiveCredits = endpoint.receiveCredits := by
  cases operation with
  | spend =>
    rw [step]
    rcases endpoint.spend_cases with ⟨-, hs⟩ | ⟨-, hs⟩ <;> rw [hs] <;> exact ⟨rfl, rfl⟩
  | _ => exact ⟨rfl, rfl⟩

private theorem run_kept : (endpoint.run operations).2.settings = endpoint.settings ∧
    (endpoint.run operations).2.receiveCredits = endpoint.receiveCredits := by
  induction operations generalizing endpoint with
  | nil => exact ⟨rfl, rfl⟩
  | cons operation operations ih =>
    obtain ⟨hs, hc⟩ := endpoint.step_kept operation
    obtain ⟨hr, hd⟩ := ih (endpoint.step operation).2
    exact ⟨hr.trans hs, hd.trans hc⟩

theorem step_state :
    (endpoint.step operation).2.state = operation.state?.getD endpoint.state := by
  cases operation with
  | spend =>
    rw [step]
    rcases endpoint.spend_cases with ⟨-, hs⟩ | ⟨-, hs⟩ <;> rw [hs] <;> rfl
  | _ => rfl

/-- A run leaves the state that was set last. -/
theorem run_state : (endpoint.run operations).2.state =
    (operations.filterMap Operation.state?).getLastD endpoint.state := by
  induction operations generalizing endpoint with
  | nil => rfl
  | cons operation operations ih =>
    rw [run_cons, ih, step_state, List.filterMap_cons]
    cases operation.state? with
    | none => rfl
    | some state => rw [Option.getD_some, List.getLastD_cons]

/-- Spending does not look at the state. -/
theorem spend_setState (state : LinkState) :
    (endpoint.setState state).spend.2 = endpoint.spend.2.setState state := by
  change (ite (endpoint.sendCredits = 0) _ _ : Bool × Endpoint).2 = endpoint.spend.2.setState state
  rw [spend]
  split <;> rfl

/-- A run without its changes of state leaves the same but for the state. -/
theorem run_filter_state? (state : LinkState) :
    ((endpoint.setState state).run (operations.filter (·.state?.isNone))).2 =
      (endpoint.run operations).2.setState state := by
  induction operations generalizing endpoint with
  | nil => rfl
  | cons operation operations ih =>
    cases operation with
    | setState new => exact ih (endpoint.setState new)
    | grant credits => exact ih (endpoint.grant credits)
    | spend =>
      have hs := ih endpoint.spend.2
      rw [← spend_setState] at hs
      exact hs

/-- At every moment of a run the credits that were granted are those that were spent, those that are
left and those that did not fit, so no more was sent to the peer than it granted. An attempt to spend
fails exactly where none is left. What the endpoint was created with stays, its state is the one that
was set last, and the credits are those of the run without its changes of state. -/
theorem flow_controlled (settings : EndpointSettings) (operations : List Operation) (count : ℕ) :
    let start := create settings
    let front := operations.take count
    let endpoint := (start.run front).2
    (start.run front).1 = (start.run operations).1.take count ∧
    start.spent front + endpoint.sendCredits.toNat + start.clipped front =
      (front.map Operation.granted).sum ∧
    start.spent front ≤ (front.map Operation.granted).sum ∧
    ((endpoint.step .spend).1 = false ↔ endpoint.sendCredits = 0) ∧
    endpoint.settings = settings ∧ endpoint.receiveCredits = settings.receiveCredits ∧
    endpoint.state = (front.filterMap Operation.state?).getLastD .uninitialized ∧
    (start.run (front.filter (·.state?.isNone))).2.sendCredits = endpoint.sendCredits ∧
    ∀ state, (endpoint.step (.setState state)).2 = { endpoint with state } := by
  intro start front endpoint
  have hb : start.sendCredits.toNat + (front.map Operation.granted).sum =
      endpoint.sendCredits.toNat + start.spent front + start.clipped front :=
    start.balance_run front
  have hz : start.sendCredits.toNat = 0 := rfl
  obtain ⟨hs, hc⟩ := start.run_kept front
  refine ⟨start.run_take operations count, ?_, ?_, endpoint.spend_fst_eq_false_iff, hs, hc,
    start.run_state front, ?_, fun _ => rfl⟩
  · omega
  · omega
  · have hf := congrArg sendCredits (start.run_filter_state? front .uninitialized)
    exact hf

/-- Of the second grant 244 credits do not fit. -/
example : (create {}).clipped [.grant 250, .setState .connected, .spend, .grant 250] = 244 := by
  decide

end OnboardLink.Endpoint
