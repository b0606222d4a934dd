/-! Faults that are looked for one after the other. Something that has several is refused for the
first of them, and something that has none is accepted. -/
namespace OnboardLink

variable {α β ε : Type}

/-- The outcome for something that may have the listed faults, each given with whether it is there:
the refusal for the first that is there, or the acceptance. -/
def judge : List (Bool × ε) → α → (ε → α) → α
  | [], accepted, _ => accepted
  | (present, fault) :: faults, accepted, refused =>
    if present then refused fault else judge faults accepted refused

/-- Nothing of what is looked for is there. -/
def faultless (faults : List (Bool × ε)) : Bool := judge faults true fun _ => false

section Outcome

variable (faults : List (Bool × ε)) (accepted : α) (refused : ε → α)

@[simp] theorem judge_nil : judge [] accepted refused = accepted := rfl

theorem judge_cons (present : Bool) (fault : ε) :
    judge ((present, fault) :: faults) accepted refused =
      if present then refused fault else judge faults accepted refused :=
  rfl

/-- Further faults are looked for where the first ones are not there. -/
theorem judge_append (more : List (Bool × ε)) :
    judge (faults ++ more) accepted refused =
      judge faults (judge more accepted refused) refused := by
  induction faults with
  | nil => rfl
  | cons fault faults ih => rw [List.cons_append, judge_cons, judge_cons, ih]

/-- What is made of the outcome can be made of acceptance and refusal. -/
theorem apply_judge (f : α → β) :
    f (judge faults accepted refused) = judge faults (f accepted) (f ∘ refused) := by
  induction faults with
  | nil => rfl
  | cons fault faults ih => rw [judge_cons, judge_cons, apply_ite f, ih, Function.comp]

/-- Nothing is decided but whether there is a fault and which is the first. -/
theorem judge_cases :
    (faultless faults = true ∧ ∀ (α : Type) (accepted : α) (refused : ε → α),
      judge faults accepted refused = accepted) ∨
    faultless faults = false ∧ ∃ fault, (true, fault) ∈ faults ∧
      ∀ (α : Type) (accepted : α) (refused : ε → α),
        judge faults accepted refused = refused fault := by
  induction faults with
  | nil => exact .inl ⟨rfl, fun _ _ _ => rfl⟩
  | cons head faults ih =>
    obtain ⟨present, fault⟩ := head
    cases present with
    | true => exact .inr ⟨rfl, fault, List.mem_cons_self, fun _ _ _ => rfl⟩
    | false =>
      rcases ih with hn | ⟨hl, first, hm, hf⟩
      · exact .inl hn
      · exact .inr ⟨hl, first, List.mem_cons_of_mem _ hm, hf⟩

end Outcome

section Faultless

variable (faults more : List (Bool × ε))

@[simp] theorem faultless_nil : faultless ([] : List (Bool × ε)) = true := rfl

@[simp] theorem faultless_cons (present : Bool) (fault : ε) :
    faultless ((present, fault) :: faults) = (!present && faultless faults) := by
  cases present <;> rfl

@[simp] theorem faultless_append :
    faultless (faults ++ more) = (faultless faults && faultless more) := by
  rw [faultless, judge_append]
  rcases judge_cases faults with ⟨hl, hn⟩ | ⟨hl, fault, -, hf⟩
  · rw [hn, hl, Bool.true_and, faultless]
  · rw [hf, hl, Bool.false_and]

end Faultless

variable {faults : List (Bool × ε)} {accepted : α}

theorem judge_eq_ok_iff {found : α} :
    judge faults (Except.ok accepted) Except.error = .ok found ↔
      faultless faults = true ∧ found = accepted := by
  rcases judge_cases faults with ⟨hl, hn⟩ | ⟨hl, fault, -, hf⟩
  · rw [hn, hl, Except.ok.injEq, eq_comm]
    exact (and_iff_right rfl).symm
  · rw [hf, hl]
    exact iff_of_false nofun fun h => nomatch h.1

theorem mem_of_judge_eq_error {fault : ε}
    (h : judge faults (Except.ok accepted) Except.error = .error fault) :
    (true, fault) ∈ faults := by
  rcases judge_cases faults with ⟨-, hn⟩ | ⟨-, first, hm, hf⟩
  · rw [hn] at h
    cases h
  · rw [hf] at h
    cases h
    exact hm

end OnboardLink
