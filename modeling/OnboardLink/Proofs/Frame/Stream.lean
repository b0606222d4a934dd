import OnboardLink.Proofs.Frame.RoundTrip
import OnboardLink.Proofs.Octets.Stream

/-! Frames one behind the other along a stream. Both writers judge a frame alike and make the same
octets of it, whether the checksum is taken over the buffer or piece by piece. A frame that is too
long leaves no octet in the stream, and each of the others is read from its piece. -/
namespace OnboardLink.Frame

/-- What can be wrong with a frame, apart from the room for it. -/
def faults (frame : Frame) : List (Bool × Error) :=
  [(65535 < frame.payload.length, .payloadTooLong frame.payload.length 65535)]

private theorem faultless_faults (frame : Frame) :
    faultless frame.faults = decide (frame.payload.length ≤ 65535) := by
  rw [faultless, faults, judge_cons, judge_nil]
  by_cases h : 65535 < frame.payload.length
  · simp [h]
  · simp [h, Nat.not_lt.mp h]

private theorem appendTo_eq_judge (frame : Frame) (stream : Octets) : frame.appendTo stream =
    judge frame.faults (.ok frame.wire.length, stream ++ frame.wire)
      fun fault => (.error fault, stream) := by
  rw [faults, judge_cons, judge_nil, length_wire]
  by_cases h : 65535 < frame.payload.length
  · rw [if_pos (decide_eq_true h)]
    exact appendTo_of_long h stream
  · rw [if_neg (by simpa using h)]
    exact appendTo_of_fits (Nat.not_lt.mp h) stream

/-- Both writers make the same octets of a frame, or both refuse it for its length. Of frames along a
stream exactly those that are not refused are in it, one behind the other, and cut at the sizes
answered it is read as these frames. -/
theorem frames_concatenate :
    (∀ (frame : Frame) (buffer stream : Octets),
      (frame.payload.length ≤ 65535 → frame.payload.length + 4 ≤ buffer.length →
        frame.writeInto buffer = (.ok (frame.payload.length + 4),
          frame.wire ++ buffer.drop (frame.payload.length + 4)) ∧
        frame.appendTo stream = (.ok (frame.payload.length + 4), stream ++ frame.wire)) ∧
      (65535 < frame.payload.length →
        frame.writeInto buffer =
          (.error (.payloadTooLong frame.payload.length 65535), buffer) ∧
        frame.appendTo stream =
          (.error (.payloadTooLong frame.payload.length 65535), stream))) ∧
    ∀ (stream : Octets) (frames : List Frame),
      let answers := (appendAll appendTo stream frames).1
      let after := (appendAll appendTo stream frames).2
      let kept := appended frames answers
      answers = frames.map (fun frame => (frame.appendTo []).1) ∧
      kept = frames.filter (·.payload.length ≤ 65535) ∧
      after = stream ++ (kept.map wire).flatten ∧
      pieces answers (after.drop stream.length) = kept.map wire ∧
      (pieces answers (after.drop stream.length)).map read = kept.map .ok := by
  constructor
  · intro frame buffer stream
    have hs : frame.payload.length + 4 = frame.size := (size_eq frame).symm
    rw [hs]
    exact ⟨fun hp hr => ⟨writeInto_of_room hp hr, appendTo_of_fits hp stream⟩,
      fun hp => ⟨writeInto_of_long hp buffer, appendTo_of_long hp stream⟩⟩
  · intro stream frames answers after kept
    have he := appendAll_eq appendTo_eq_judge frames stream
    obtain ⟨hanswers, hafter⟩ := Prod.mk.inj he
    change answers = _ at hanswers
    change after = _ at hafter
    have hkept : kept = frames.filter fun frame => faultless frame.faults := by
      simp only [kept, hanswers]
      exact appended_eq frames fun frame => frame.wire.length
    have hgrowth : after.drop stream.length = (kept.map wire).flatten := by
      rw [hafter, List.drop_left, hkept]
    have hpieces : pieces answers (after.drop stream.length) = kept.map wire := by
      rw [hgrowth, hanswers, hkept]
      exact pieces_eq frames
    have hfilter : kept = frames.filter (·.payload.length ≤ 65535) := by
      simp only [hkept, faultless_faults]
    refine ⟨?_, hfilter, ?_, hpieces, ?_⟩
    · rw [hanswers]
      refine List.map_congr_left fun frame _ => ?_
      rw [appendTo_eq_judge, apply_judge (f := Prod.fst)]
      rfl
    · rw [hafter, hkept]
    · rw [hpieces, List.map_map]
      refine List.map_congr_left fun frame hm => ?_
      rw [hfilter] at hm
      exact read_wire (of_decide_eq_true (List.mem_filter.mp hm).2)

/-- Two frames with one between them that is an octet too long. -/
theorem frames_concatenate_past_long :
    let first : Frame := ⟨5, 1, [0xAA]⟩
    let long : Frame := ⟨5, 1, List.replicate 65536 0⟩
    let last : Frame := ⟨6, 2, []⟩
    let run := appendAll appendTo [0x07] [first, long, last]
    (first.payload.length ≤ 65535 ∧ first.payload.length + 4 ≤ 6 ∧
      first.writeInto (List.replicate 6 0xEE) = (.ok 5, first.wire ++ [0xEE])) ∧
    (65535 < long.payload.length ∧
      long.appendTo [0x07] = (.error (.payloadTooLong 65536 65535), [0x07])) ∧
    run.2 = [0x07] ++ (first.wire ++ last.wire) ∧
      (pieces run.1 (run.2.drop 1)).map read = [.ok first, .ok last] := by
  intro first long last run
  have hp : first.payload.length ≤ 65535 := by decide
  have hr : first.payload.length + 4 ≤ (List.replicate 6 (0xEE : UInt8)).length := by decide
  have hn : long.payload.length = 65536 := List.length_replicate
  clear_value long
  have hl : 65535 < long.payload.length := by omega
  obtain ⟨hframes, hstream⟩ := frames_concatenate
  obtain ⟨-, hkept, hafter, -, hread⟩ := hstream [0x07] [first, long, last]
  have hk : [first, long, last].filter (·.payload.length ≤ 65535) = [first, last] := by
    simp [first, last, hn]
  rw [hkept, hk] at hafter hread
  have hlong := ((hframes long [] [0x07]).2 hl).2
  rw [hn] at hlong
  refine ⟨⟨hp, hr, ((hframes first (List.replicate 6 0xEE) []).1 hp hr).1⟩, ⟨hl, hlong⟩, ?_, hread⟩
  rw [hafter]
  simp

end OnboardLink.Frame
