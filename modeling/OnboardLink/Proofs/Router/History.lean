import Mathlib
import OnboardLink.Router.Operation

/-! What a router's history says of a frame. Of all that was done with the router only two things
bear on where a frame goes: the latest route to its target that could be installed, and the latest
state of the link on that route's port. -/
namespace OnboardLink.Router

/-- Whether an operation bears on where frames go. -/
def Operation.isSetting : Operation → Bool
  | .install .. | .setState .. => true
  | _ => false

/-- The operation leads frames to a destination through one of so many active ports. -/
def Operation.Leads (active : ℕ) (destination : UInt8) : Operation → Prop
  | .install other port => other = destination ∧ port.toNat < active
  | _ => False

/-- The operation says in which state the link on a port is. -/
def Operation.Sets (port : UInt8) : Operation → Prop
  | .setState other _ => other = port
  | _ => False

/-- The operation is of the wanted kind, and in the history no later one is. -/
def Latest (wanted : Operation → Prop) (history : List Operation) (operation : Operation) : Prop :=
  wanted operation ∧ ∃ earlier later,
    history = earlier ++ operation :: later ∧ ∀ other ∈ later, ¬ wanted other

/-- The state that a history leaves the link on a port in. -/
def LatestState (history : List Operation) (port : UInt8) (state : LinkState) : Prop :=
  Latest (Operation.Sets port) history (.setState port state) ∨
    state = .uninitialized ∧ ∀ operation ∈ history, ¬ operation.Sets port

/-- What becomes of a frame to a target, as a history tells it. -/
inductive Outcome (device : UInt8) (active : ℕ) (history : List Operation) (target : UInt8) :
    Except RouterRefusal Decision → Prop where
  | stay (h : target = device) : Outcome device active history target (.ok .stay)
  | beyondTable (hd : target ≠ device) (ht : maxPorts ≤ target.toNat) :
      Outcome device active history target (.error (.miss target .beyondTable))
  | noRoute (hd : target ≠ device) (ht : target.toNat < maxPorts)
      (hr : ∀ operation ∈ history, ¬ operation.Leads active target) :
      Outcome device active history target (.error (.miss target .noRoute))
  | forward {port : UInt8} (hd : target ≠ device) (ht : target.toNat < maxPorts)
      (hr : Latest (Operation.Leads active target) history (.install target port))
      (hs : LatestState history port .connected) :
      Outcome device active history target (.ok (.forward port))
  | linkDown {port : UInt8} {state : LinkState} (hd : target ≠ device)
      (ht : target.toNat < maxPorts)
      (hr : Latest (Operation.Leads active target) history (.install target port))
      (hs : LatestState history port state) (hc : state ≠ .connected) :
      Outcome device active history target (.error (.miss target (.linkDown port state)))

variable {wanted : Operation → Prop} {history : List Operation} {operation last : Operation}

theorem not_latest_nil : ¬ Latest wanted [] operation := by
  rintro ⟨-, earlier, later, he, -⟩
  simp at he

/-- One more operation is the latest if it is wanted, and otherwise changes nothing. -/
theorem latest_concat : Latest wanted (history ++ [last]) operation ↔
    wanted last ∧ operation = last ∨ ¬ wanted last ∧ Latest wanted history operation := by
  constructor
  · rintro ⟨hw, earlier, later, he, hl⟩
    obtain rfl | ⟨later, final, rfl⟩ := later.eq_nil_or_concat'
    · obtain ⟨-, he⟩ := List.append_inj' he rfl
      obtain rfl : last = operation := List.singleton_inj.mp he
      exact .inl ⟨hw, rfl⟩
    · rw [← List.cons_append, ← List.append_assoc] at he
      obtain ⟨rfl, hf⟩ := List.append_inj' he rfl
      obtain rfl : last = final := List.singleton_inj.mp hf
      refine .inr ⟨hl _ (by simp), hw, earlier, later, rfl, ?_⟩
      intro other ho
      exact hl other (List.mem_append_left _ ho)
  · rintro (⟨hw, rfl⟩ | ⟨hn, hw, earlier, later, rfl, hl⟩)
    · exact ⟨hw, history, [], rfl, by simp⟩
    · refine ⟨hw, earlier, later ++ [last], by simp, ?_⟩
      intro other ho
      rcases List.mem_append.mp ho with ho | ho
      · exact hl other ho
      · rwa [List.mem_singleton.mp ho]

theorem Latest.mem (h : Latest wanted history operation) : operation ∈ history := by
  obtain ⟨-, earlier, later, rfl, -⟩ := h
  exact List.mem_append_right _ List.mem_cons_self

theorem exists_latest (hm : operation ∈ history) (hw : wanted operation) :
    ∃ last, Latest wanted history last := by
  induction history using List.reverseRecOn with
  | nil => cases hm
  | append_singleton history last ih =>
    by_cases hl : wanted last
    · exact ⟨last, latest_concat.mpr (.inl ⟨hl, rfl⟩)⟩
    · have hh : operation ∈ history := by
        refine (List.mem_append.mp hm).resolve_right fun hc => hl ?_
        rwa [← List.mem_singleton.mp hc]
      obtain ⟨found, hf⟩ := ih hh
      exact ⟨found, latest_concat.mpr (.inr ⟨hl, hf⟩)⟩

/-- Operations that are never wanted can be left out of a history. -/
theorem latest_filter {keep : Operation → Bool} (hk : ∀ {other}, wanted other → keep other = true) :
    Latest wanted (history.filter keep) operation ↔ Latest wanted history operation := by
  induction history using List.reverseRecOn with
  | nil => rfl
  | append_singleton history last ih =>
    by_cases hl : keep last
    · rw [List.filter_append, List.filter_cons_of_pos hl, List.filter_nil, latest_concat,
        latest_concat, ih]
    · have hn : ¬ wanted last := mt hk hl
      rw [List.filter_append, List.filter_cons_of_neg hl, List.filter_nil, List.append_nil, ih,
        latest_concat]
      simp [hn]

theorem latestState_concat {port : UInt8} {state : LinkState} :
    LatestState (history ++ [last]) port state ↔
      last.Sets port ∧ .setState port state = last ∨
        ¬ last.Sets port ∧ LatestState history port state := by
  rw [LatestState, LatestState, latest_concat]
  by_cases hs : last.Sets port
  · simp [hs]
  · simp [hs, or_imp, forall_and]

theorem exists_install_of_leads {active : ℕ} {destination : UInt8}
    (h : operation.Leads active destination) : ∃ port, operation = .install destination port := by
  cases operation with
  | install other port =>
    obtain rfl : other = destination := h.1
    exact ⟨port, rfl⟩
  | _ => cases h

private theorem isSetting_of_leads {active : ℕ} {destination : UInt8}
    (h : operation.Leads active destination) : operation.isSetting = true := by
  obtain ⟨port, rfl⟩ := exists_install_of_leads h
  rfl

private theorem isSetting_of_sets {port : UInt8} (h : operation.Sets port) :
    operation.isSetting = true := by
  cases operation with
  | setState => rfl
  | _ => cases h

private theorem latestState_filter {port : UInt8} {state : LinkState} :
    LatestState (history.filter Operation.isSetting) port state ↔ LatestState history port state := by
  rw [LatestState, LatestState, latest_filter isSetting_of_sets]
  refine or_congr_right (and_congr_right fun _ => ?_)
  constructor
  · intro hn operation hm hs
    exact hn operation (List.mem_filter.mpr ⟨hm, isSetting_of_sets hs⟩) hs
  · intro hn operation hm
    exact hn operation (List.mem_of_mem_filter hm)

/-- Only settings count. -/
theorem Outcome.filter {device target : UInt8} {active : ℕ}
    {outcome : Except RouterRefusal Decision} (h : Outcome device active history target outcome) :
    Outcome device active (history.filter Operation.isSetting) target outcome := by
  cases h with
  | stay h => exact .stay h
  | beyondTable hd ht => exact .beyondTable hd ht
  | noRoute hd ht hr =>
    exact .noRoute hd ht fun operation hm => hr operation (List.mem_of_mem_filter hm)
  | forward hd ht hr hs =>
    exact .forward hd ht ((latest_filter isSetting_of_leads).mpr hr) (latestState_filter.mpr hs)
  | linkDown hd ht hr hs hc =>
    exact .linkDown hd ht ((latest_filter isSetting_of_leads).mpr hr) (latestState_filter.mpr hs) hc

end OnboardLink.Router
