import OnboardLink.Proofs.Router.Accounting

/-! The credits of a virtual channel. Only grants and spending move them: a grant adds what fits below
the limit and spending takes one, so what a channel had and was granted is what it has, what was spent
and what did not fit. -/
namespace OnboardLink.Router

/-- The operation opens or closes the channel. -/
def Operation.Switches (channel : UInt8) : Operation → Prop
  | .setActive other _ => other = channel
  | _ => False

/-- What becomes of the record of a channel. -/
def Operation.onChannel (channel : UInt8) (record : Channel) : Operation → Channel
  | .setActive other active => if other = channel then { record with active } else record
  | .spendCredit other => if other = channel then record.spend.2 else record
  | .returnCredits other credits => if other = channel then record.grant credits else record
  | _ => record

namespace Call

/-- The credits that were granted to the channel. -/
def granted (channel : UInt8) : Call → ℕ
  | ⟨.returnCredits other credits, _⟩ => if other = channel then credits.toNat else 0
  | _ => 0

/-- A credit of the channel was spent. -/
def isSpent (channel : UInt8) (call : Call) : Bool :=
  call.operation = .spendCredit channel && call.answer = .spent (some true)

end Call

/-- What a grant to the channel is beyond the limit of its credits. -/
def excess (channel : UInt8) (record : Channel) : Operation → ℕ
  | .returnCredits other credits =>
    if other = channel then record.credits.toNat + credits.toNat - 65535 else 0
  | _ => 0

/-- What grants to the channel were beyond the limit in the course of a run, each with the credits that
the channel had when it came. -/
def clipped (router : Router) (channel : UInt8) : List Operation → ℕ
  | [] => 0
  | operation :: operations =>
    ((router.channel? channel).map fun record => excess channel record operation).getD 0 +
      (router.step operation).2.clipped channel operations

variable {router : Router} {channel : UInt8} {record : Channel}

/-- A channel's record after another's was replaced, or its own. -/
theorem channel?_setChannel_update (hr : router.channel? channel = some record) {other : UInt8}
    {old : Channel} (ho : router.channel? other = some old) (update : Channel → Channel) :
    (router.setChannel other (update old)).channel? channel =
      some (if other = channel then update record else record) := by
  rw [channel?, setChannel, getElem?_setIfInBounds_toNat ho]
  by_cases he : other = channel
  · subst he
    rw [if_pos rfl, if_pos rfl, Option.some.inj (hr.symm.trans ho)]
  · rw [if_neg he, if_neg (Ne.symm he)]
    exact hr

/-- Every operation leaves a channel in place. -/
theorem step_channel? (hr : router.channel? channel = some record) (operation : Operation) :
    (router.step operation).2.channel? channel = some (operation.onChannel channel record) := by
  have hn {other : UInt8} (ho : router.channel? other = none) : other ≠ channel := by
    rintro rfl
    cases ho.symm.trans hr
  cases operation with
  | install destination port =>
    change (router.install destination port).2.channel? channel = some record
    rw [install]
    split <;> exact hr
  | setActive other active =>
    rw [step, setActive, Operation.onChannel]
    cases ho : router.channel? other with
    | none =>
      rw [if_neg (hn ho)]
      exact hr
    | some old => exact channel?_setChannel_update hr ho ({ · with active })
  | setState port state =>
    rw [step, setState, updatePort]
    cases router.port? port <;> exact hr
  | countReceived port =>
    rw [step, countReceived, updatePort]
    cases router.port? port <;> exact hr
  | spendCredit other =>
    rw [step, spendCredit, Operation.onChannel]
    cases ho : router.channel? other with
    | none =>
      rw [if_neg (hn ho)]
      exact hr
    | some old => exact channel?_setChannel_update hr ho fun record => record.spend.2
  | returnCredits other credits =>
    rw [step, returnCredits, Operation.onChannel]
    cases ho : router.channel? other with
    | none =>
      rw [if_neg (hn ho)]
      exact hr
    | some old => exact channel?_setChannel_update hr ho (·.grant credits)
  | dispatch frame =>
    have hd := dispatched router frame
    rw [step_dispatch_snd]
    generalize router.dispatch frame = result at hd ⊢
    cases hd <;> exact hr

private theorem step_spendCredit_answer (hr : router.channel? channel = some record) :
    (router.step (.spendCredit channel)).1 = .spent (some record.spend.1) := by
  rw [step, spendCredit, hr]

/-- A credit is spent where the channel is open and has one, and otherwise nothing happens. -/
theorem spend_cases (record : Channel) :
    (record.active = true ∧ 0 < record.credits.toNat) ∧
      record.spend = (true, { record with credits := record.credits - 1 }) ∨
    ¬ (record.active = true ∧ 0 < record.credits.toNat) ∧ record.spend = (false, record) := by
  have hz : record.credits ≠ 0 ↔ 0 < record.credits.toNat := by
    rw [Nat.pos_iff_ne_zero, ne_eq, ne_eq, ← UInt16.toNat_inj]
    rfl
  have hc : (record.active && decide (record.credits ≠ 0)) = true ↔
      record.active = true ∧ 0 < record.credits.toNat := by
    rw [Bool.and_eq_true, decide_eq_true_iff, hz]
  rw [Channel.spend]
  by_cases h : record.active = true ∧ 0 < record.credits.toNat
  · exact .inl ⟨h, if_pos (hc.mpr h)⟩
  · exact .inr ⟨h, if_neg (mt hc.mp h)⟩

private theorem toNat_sub_one {credits : UInt16} (h : 0 < credits.toNat) :
    (credits - 1).toNat + 1 = credits.toNat := by
  have h1 : (1 : UInt16) ≤ credits := UInt16.le_iff_toNat_le.mpr h
  rw [UInt16.toNat_sub_of_le _ _ h1]
  exact Nat.sub_add_cancel h

theorem toNat_credits_grant (record : Channel) (credits : UInt16) :
    (record.grant credits).credits.toNat = min 65535 (record.credits.toNat + credits.toNat) := by
  rw [Channel.grant]
  exact UInt16.toNat_ofNat_of_lt' (Nat.lt_succ_of_le (Nat.min_le_left _ _))

/-- What a channel had and was granted is what it has, what was spent and what did not fit. -/
theorem balance_step (hr : router.channel? channel = some record) (operation : Operation) :
    record.credits.toNat + Call.granted channel ⟨operation, (router.step operation).1⟩ =
      (operation.onChannel channel record).credits.toNat +
        (if Call.isSpent channel ⟨operation, (router.step operation).1⟩ then 1 else 0) +
        excess channel record operation := by
  cases operation with
  | setActive other active =>
    rw [Operation.onChannel]
    split <;> rfl
  | spendCredit other =>
    rw [Operation.onChannel]
    by_cases he : other = channel
    · subst he
      rw [if_pos rfl, step_spendCredit_answer hr]
      rcases spend_cases record with ⟨⟨-, hp⟩, hs⟩ | ⟨-, hs⟩
      · have := toNat_sub_one hp
        simp only [hs, Call.granted, Call.isSpent, excess, decide_true, Bool.and_self, if_true]
        omega
      · simp [hs, Call.granted, Call.isSpent, excess]
    · simp [Call.granted, Call.isSpent, excess, he]
  | returnCredits other credits =>
    rw [Operation.onChannel]
    by_cases he : other = channel
    · have hg := toNat_credits_grant record credits
      simp only [Call.granted, Call.isSpent, excess, if_pos he, hg, reduceCtorEq, decide_false,
        Bool.false_and, Bool.false_eq_true, if_false]
      omega
    · simp [Call.granted, Call.isSpent, excess, he]
  | _ => rfl

/-- A run keeps the balance of a channel. -/
theorem balance_run (hr : router.channel? channel = some record) (operations : List Operation) :
    ∃ after, (router.run operations).2.channel? channel = some after ∧
      record.credits.toNat + ((router.calls operations).map (Call.granted channel)).sum =
        after.credits.toNat + (router.calls operations).countP (Call.isSpent channel) +
          router.clipped channel operations := by
  induction operations generalizing router record with
  | nil => exact ⟨record, hr, rfl⟩
  | cons operation operations ih =>
    obtain ⟨after, ha, hb⟩ := ih (step_channel? hr operation)
    refine ⟨after, ha, ?_⟩
    have hs := balance_step hr operation
    have hc : router.calls (operation :: operations) =
        ⟨operation, (router.step operation).1⟩ :: (router.step operation).2.calls operations := rfl
    rw [hc, List.map_cons, List.sum_cons, List.countP_cons, clipped, hr, Option.map_some,
      Option.getD_some]
    omega

private theorem onChannel_active {operation : Operation} (h : ¬ operation.Switches channel) :
    (operation.onChannel channel record).active = record.active := by
  cases operation with
  | setActive other active =>
    have hn : other ≠ channel := h
    rw [Operation.onChannel, if_neg hn]
  | spendCredit other =>
    rw [Operation.onChannel]
    split
    · rcases spend_cases record with ⟨-, hs⟩ | ⟨-, hs⟩ <;> rw [hs]
    · rfl
  | returnCredits other credits =>
    rw [Operation.onChannel]
    split <;> rfl
  | _ => rfl

private theorem create_channel? (device ports : UInt8) (h : channel.toNat < Channel.count) :
    (create device ports).channel? channel = some ⟨channel, false, 64⟩ := by
  rw [channel?, Vector.getElem?_eq_getElem h]
  simp [create, Channel.initialCredits]

/-- A channel is open after a run if it was opened last. -/
theorem active_run (device ports : UInt8) (h : channel.toNat < Channel.count)
    (operations : List Operation) :
    ∃ record, ((create device ports).run operations).2.channel? channel = some record ∧
      (record.active = true ↔
        Latest (Operation.Switches channel) operations (.setActive channel true)) := by
  induction operations using List.reverseRecOn with
  | nil =>
    exact ⟨_, create_channel? device ports h, iff_of_false Bool.false_ne_true not_latest_nil⟩
  | append_singleton operations operation ih =>
    obtain ⟨record, hr, ha⟩ := ih
    refine ⟨operation.onChannel channel record, ?_, ?_⟩
    · rw [run_append]
      exact step_channel? hr operation
    · rw [latest_concat]
      by_cases hs : operation.Switches channel
      · cases operation with
        | setActive other active =>
          obtain rfl : other = channel := hs
          simp [Operation.onChannel, Operation.Switches, eq_comm]
        | _ => cases hs
      · rw [onChannel_active hs, ha]
        simp [hs]

/-- Nothing but a grant and a credit that is spent moves the credits of a channel. -/
theorem credits_kept (hr : router.channel? channel = some record) {operation : Operation}
    (hg : ∀ credits, operation ≠ .returnCredits channel credits)
    (hs : ¬ (operation = .spendCredit channel ∧
      (router.step operation).1 = .spent (some true))) :
    (operation.onChannel channel record).credits = record.credits := by
  have hb := balance_step hr operation
  have hspent : Call.isSpent channel ⟨operation, (router.step operation).1⟩ = false := by
    rw [Call.isSpent, Bool.eq_false_iff]
    simpa using hs
  obtain ⟨hgranted, hexcess⟩ :
      Call.granted channel ⟨operation, (router.step operation).1⟩ = 0 ∧
        excess channel record operation = 0 := by
    cases operation with
    | returnCredits other credits =>
      have hn : other ≠ channel := by
        rintro rfl
        exact hg credits rfl
      exact ⟨if_neg hn, if_neg hn⟩
    | _ => exact ⟨rfl, rfl⟩
  rw [hgranted, hspent, hexcess] at hb
  exact (UInt16.toNat_inj.mp hb).symm

/-- As many credits can be spent as an open channel has. -/
theorem count_spent (hr : router.channel? channel = some record) (ha : record.active = true)
    (k : ℕ) : (router.run (List.replicate k (.spendCredit channel))).1.count (.spent (some true)) =
      min k record.credits.toNat := by
  induction k generalizing router record with
  | zero => simp [run]
  | succ k ih =>
    have hs := step_channel? hr (.spendCredit channel)
    rw [Operation.onChannel, if_pos rfl] at hs
    have hrun : (router.run (List.replicate (k + 1) (.spendCredit channel))).1 =
        .spent (some record.spend.1) ::
          ((router.step (.spendCredit channel)).2.run
            (List.replicate k (.spendCredit channel))).1 := by
      rw [← step_spendCredit_answer hr]
      rfl
    rw [hrun, List.count_cons]
    rcases spend_cases record with ⟨⟨-, hp⟩, he⟩ | ⟨hn, he⟩
    · have h1 := toNat_sub_one hp
      rw [he] at hs ⊢
      rw [ih hs ha]
      simp
      omega
    · have hz : record.credits.toNat = 0 := by
        by_contra hc
        exact hn ⟨ha, Nat.pos_of_ne_zero hc⟩
      rw [he] at hs ⊢
      rw [ih hs ha, hz]
      simp

/-- No credit of a channel is lost or made. Those it began with and those it was granted are those it
has, those that were spent and those that did not fit. A credit is spent exactly where the channel was
opened last and has one; so an open channel spends as many as it has, however often it is asked to.
Nothing else moves its credits. -/
theorem credits_conserved (device ports : UInt8) (operations : List Operation) {channel : UInt8}
    (h : channel.toNat < 16) :
    let start := create device ports
    let router := (start.run operations).2
    let calls := start.calls operations
    ∃ record, router.channel? channel = some record ∧
      64 + (calls.map (Call.granted channel)).sum =
        record.credits.toNat + calls.countP (Call.isSpent channel) +
          start.clipped channel operations ∧
      ((router.step (.spendCredit channel)).1 = .spent (some true) ↔
        Latest (Operation.Switches channel) operations (.setActive channel true) ∧
          0 < record.credits.toNat) ∧
      (record.active = true → ∀ k : ℕ,
        (router.run (List.replicate k (.spendCredit channel))).1.count (.spent (some true)) =
          min k record.credits.toNat) ∧
      ∀ operation, (∀ credits, operation ≠ .returnCredits channel credits) →
        ¬ (operation = .spendCredit channel ∧
          (router.step operation).1 = .spent (some true)) →
        ((router.step operation).2.channel? channel).map Channel.credits =
          some record.credits := by
  intro start router calls
  obtain ⟨record, hr, hb⟩ := balance_run (create_channel? device ports h) operations
  obtain ⟨same, hsame, ha⟩ := active_run device ports h operations
  obtain rfl : record = same := Option.some.inj (hr.symm.trans hsame)
  refine ⟨record, hr, hb, ?_, count_spent hr, ?_⟩
  · rw [← ha, step_spendCredit_answer hr]
    rcases spend_cases record with ⟨hc, hs⟩ | ⟨hc, hs⟩
    · exact iff_of_true (by rw [hs]) hc
    · exact iff_of_false (by simp [hs]) hc
  · intro operation hg hs
    rw [step_channel? hr, Option.map_some, credits_kept hr hg hs]

/-- A grant of which 29 credits do not fit, one credit spent, and attempts on a closed channel and on
another one. -/
theorem credits_conserved_clipped :
    let operations : List Operation := [.setActive 2 true, .returnCredits 2 65500, .spendCredit 2,
      .setActive 2 false, .spendCredit 2, .spendCredit 5, .setActive 2 true]
    let start := create 9 3
    let router := (start.run operations).2
    (2 : UInt8).toNat < 16 ∧ router.channel? 2 = some ⟨2, true, 65534⟩ ∧
    64 + 65500 = 65534 + 1 + start.clipped 2 operations ∧
    Latest (Operation.Switches 2) operations (.setActive 2 true) ∧
    (router.run (List.replicate 3 (.spendCredit 2))).1.count (.spent (some true)) = 3 ∧
    ((router.step (.setActive 2 false)).2.channel? 2).map Channel.credits = some 65534 := by
  intro operations start router
  have hl : (2 : UInt8).toNat < 16 := by decide
  have hc : router.channel? 2 = some ⟨2, true, 65534⟩ := by decide
  obtain ⟨record, hr, hb, hs, hk, hu⟩ := credits_conserved 9 3 operations hl
  obtain rfl : ⟨2, true, 65534⟩ = record := Option.some.inj (hc.symm.trans hr)
  have hg : ((start.calls operations).map (Call.granted 2)).sum = 65500 := by decide
  have hn : (start.calls operations).countP (Call.isSpent 2) = 1 := by decide
  have hm : min 3 (65534 : UInt16).toNat = 3 := by decide
  rw [hg, hn] at hb
  exact ⟨hl, hc, hb, (hs.mp rfl).1, (hk rfl 3).trans hm, hu (.setActive 2 false) nofun nofun⟩

end OnboardLink.Router
