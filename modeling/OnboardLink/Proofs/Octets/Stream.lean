import Mathlib.Data.List.SplitLengths
import OnboardLink.Octets
import OnboardLink.Proofs.Judgement

/-! Values appended to a stream one behind the other. What is refused leaves no octet in the stream,
so it grows by the octets of the others, and cut at the sizes answered it falls into these again. -/
namespace OnboardLink

/-- Pieces laid one behind the other are found again by their lengths. -/
theorem splitLengths_flatten (pieces : List Octets) :
    (pieces.map List.length).splitLengths pieces.flatten = pieces := by
  induction pieces with
  | nil => rfl
  | cons piece pieces ih =>
    rw [List.map_cons, List.splitLengths_cons, List.flatten_cons, List.take_left, List.drop_left, ih]

variable {β ε : Type}

/-- Appends values in their order, and answers for each of them. -/
def appendAll (append : β → Octets → Except ε ℕ × Octets) (stream : Octets) :
    List β → List (Except ε ℕ) × Octets
  | [] => ([], stream)
  | value :: values =>
    let (answer, stream) := append value stream
    let (answers, stream) := appendAll append stream values
    (answer :: answers, stream)

/-- The values that were answered a size. -/
def appended (values : List β) (answers : List (Except ε ℕ)) : List β :=
  ((values.zip answers).filter (·.2.isOk)).map Prod.fst

/-- What a stream has grown by, cut at the sizes answered. -/
def pieces (answers : List (Except ε ℕ)) (growth : Octets) : List Octets :=
  (answers.filterMap Except.toOption).splitLengths growth

section Judged

variable {append : β → Octets → Except ε ℕ × Octets} {faults : β → List (Bool × ε)}
  {octets : β → Octets}

/-- By a writer that judges the value alone the stream grows by the octets of the values without a
fault, and a value is answered the same wherever the stream stands. -/
theorem appendAll_eq (h : ∀ value stream, append value stream =
      judge (faults value) (.ok (octets value).length, stream ++ octets value)
        fun fault => (.error fault, stream))
    (values : List β) (stream : Octets) :
    appendAll append stream values =
      (values.map fun value => judge (faults value) (.ok (octets value).length) .error,
        stream ++ ((values.filter fun value => faultless (faults value)).map octets).flatten) := by
  induction values generalizing stream with
  | nil => simp [appendAll]
  | cons value values ih =>
    rw [appendAll, h value stream]
    rcases judge_cases (faults value) with ⟨hl, hn⟩ | ⟨hl, fault, -, hf⟩
    · simp [hn, ih, hl]
    · simp [hf, ih, hl]

variable (values : List β) (answer : β → ℕ)

theorem appended_eq :
    appended values (values.map fun value => judge (faults value) (.ok (answer value)) .error) =
      values.filter fun value => faultless (faults value) := by
  have hok (value : β) : (judge (faults value) (Except.ok (answer value)) .error).isOk =
      faultless (faults value) := apply_judge _ _ _ Except.isOk
  rw [appended, ← List.map_prod_left_eq_zip, List.filter_map, List.map_map]
  simp [Function.comp_def, hok]

theorem pieces_eq :
    let kept := values.filter fun value => faultless (faults value)
    pieces (values.map fun value => judge (faults value) (.ok (octets value).length) .error)
      (kept.map octets).flatten = kept.map octets := by
  intro kept
  have hsizes : (values.map fun value =>
      judge (faults value) (Except.ok (octets value).length) .error).filterMap Except.toOption =
        (kept.map octets).map List.length := by
    simp only [kept]
    induction values with
    | nil => rfl
    | cons value values ih =>
      rw [List.map_cons, List.filterMap_cons, ih]
      rcases judge_cases (faults value) with ⟨hl, hn⟩ | ⟨hl, fault, -, hf⟩
      · simp [hn, hl, Except.toOption]
      · simp [hf, hl, Except.toOption]
  rw [pieces, hsizes, splitLengths_flatten]

end Judged

end OnboardLink
