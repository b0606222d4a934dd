import OnboardLink.Proofs.CommandLine.Answers
import OnboardLink.Proofs.Text.HexLanguage
import OnboardLink.Proofs.Text.Number
import OnboardLink.Proofs.Text.NumberLanguage

/-! What the texts of single arguments are taken for, and what is answered to those that are refused:
octets in hexadecimal, numbers of so many bits, and routes. -/
namespace OnboardLink

/-- Another error in place of one makes no difference to a success. -/
theorem mapError_eq_ok_iff {ε δ α : Type} (f : ε → δ) {result : Except ε α} {a : α} :
    result.mapError f = .ok a ↔ result = .ok a := by
  cases result with
  | ok found =>
    constructor
    · intro h
      exact congrArg Except.ok (Except.ok.inj h)
    · intro h
      exact congrArg Except.ok (Except.ok.inj h)
  | error error => exact iff_of_false nofun nofun

section Octets

open HexInput

variable {octets : Octets} {text : String}

end Octets

section Numbers

/-- How a text, shown with the blanks around it and without, is answered where a number of so many bits
is asked for. -/
structure ReadAsNumber {α : Type} (bits : ℕ) (number : α → ℕ) (text : String)
    (trimmed : List Char) (answer : Except Refusal α) : Prop where
  ok_iff : ∀ a, answer = .ok a ↔ Denotes trimmed (number a)
  invalid_iff : answer = .error (.unreadableValue ("invalid number: " ++ String.ofList trimmed)) ↔
    ∀ value, Denotes trimmed value → 2 ^ 64 ≤ value
  tooWide_iff : answer =
      .error (.unreadableValue (text ++ " does not fit in " ++ toString bits ++ " bits")) ↔
    ∃ value, Denotes trimmed value ∧ 2 ^ bits ≤ value ∧ value < 2 ^ 64

private theorem numeric_eq_ok_iff {α : Type} {read : String → Except NumberError α}
    {text : String} {a : α} :
    numeric read text = .ok a ↔ read text = .ok a :=
  mapError_eq_ok_iff _

section Reader

variable {α : Type} {bits : ℕ} {number : α → ℕ} {make : ℕ → α}
  {read : String → Except NumberError α} (hr : ∀ text, read text = (readWidth bits text).map make)
include hr

/-- The words of a refusal tell its reason. -/
theorem numeric_eq_error_iff {text : String} {error : NumberError}
    (he : error = .invalid (String.ofList (trimBlanks text.toList)) ∨ error = .tooWide text bits) :
    numeric read text = .error (.unreadableValue error.message) ↔
      readWidth bits text = .error error := by
  rw [numeric, hr]
  cases hw : readWidth bits text with
  | ok value => exact iff_of_false (by simp [Except.map, Except.mapError]) (by simp)
  | error found =>
    constructor
    · intro h
      have hm : found.message = error.message := Refusal.unreadableValue.inj (Except.error.inj h)
      rw [message_inj (readWidth_error_cases hw) he hm]
    · intro h
      cases h
      rfl

/-- A reader of numbers answers exactly, whatever it makes of the numbers of its width. -/
theorem readAsNumber (hb : bits ≤ 64) (hl : ∀ a, number a < 2 ^ bits)
    (hn : ∀ value < 2 ^ bits, number (make value) = value) (hm : ∀ a, make (number a) = a)
    (text : String) :
    ReadAsNumber bits number text (trimBlanks text.toList) (numeric read text) where
  ok_iff a := by
    rw [numeric_eq_ok_iff, hr]
    constructor
    · intro h
      cases hw : readWidth bits text with
      | error error =>
        rw [hw] at h
        cases h
      | ok value =>
        rw [hw] at h
        cases h
        obtain ⟨hd, hv⟩ := (readWidth_eq_ok_iff hb).mp hw
        rwa [hn value hv]
    · intro hd
      rw [(readWidth_eq_ok_iff hb).mpr ⟨hd, hl a⟩]
      exact congrArg Except.ok (hm a)
  invalid_iff := (numeric_eq_error_iff hr (.inl rfl)).trans readWidth_eq_invalid_iff
  tooWide_iff := (numeric_eq_error_iff hr (.inr rfl)).trans readWidth_eq_tooWide_iff

end Reader

private theorem readAsNumber_octet (text : String) :
    ReadAsNumber 8 UInt8.toNat text (trimBlanks text.toList) (numeric readOctet text) :=
  readAsNumber (fun _ => rfl) (by decide) UInt8.toNat_lt (fun _ => UInt8.toNat_ofNat_of_lt')
    (fun _ => UInt8.ofNat_toNat) text

private theorem readAsNumber_word (text : String) :
    ReadAsNumber 16 UInt16.toNat text (trimBlanks text.toList) (numeric readWord text) :=
  readAsNumber (fun _ => rfl) (by decide) UInt16.toNat_lt (fun _ => UInt16.toNat_ofNat_of_lt')
    (fun _ => UInt16.ofNat_toNat) text

/-- Neither a number nor the blanks around it hold a colon. -/
theorem colon_not_mem {text : String} {octet : UInt8} (h : numeric readOctet text = .ok octet) :
    ':' ∉ text.toList :=
  not_mem_of_readOctet (numeric_eq_ok_iff.mp h) rfl rfl (by decide)

/-- A route is two numbers with a colon between them. -/
theorem readRoute_eq_ok_iff {text : String} {route : Route} :
    readRoute text = .ok route ↔ ∃ destination port, text = destination ++ ":" ++ port ∧
      numeric readOctet destination = .ok route.destination ∧
      numeric readOctet port = .ok route.port := by
  constructor
  · intro h
    rw [readRoute] at h
    split at h
    · cases h
    · rename_i c port hd
      obtain ⟨address, ha, h⟩ := Router.bind_eq_ok h
      obtain ⟨number, hn, h⟩ := Router.bind_eq_ok h
      cases h
      have hc : c = ':' := by
        have := List.head?_dropWhile_not (fun c => decide (c ≠ ':')) text.toList
        rw [hd] at this
        exact not_not.mp (of_decide_eq_false this)
      refine ⟨_, _, String.toList_inj.mp ?_, ha, hn⟩
      rw [hc] at hd
      rw [toList_append_colon, String.toList_ofList, String.toList_ofList, ← hd,
        List.takeWhile_append_dropWhile]
  · rintro ⟨destination, port, rfl, hd, hp⟩
    rw [readRoute_append (colon_not_mem hd), hd, hp]
    rfl

/-- Texts of numbers hold no colon, so that of a route holds one. -/
theorem existsUnique_parts {text : String} {route : Route} (h : readRoute text = .ok route) :
    ∃! parts : String × String, text = parts.1 ++ ":" ++ parts.2 := by
  obtain ⟨destination, port, rfl, hd, hp⟩ := readRoute_eq_ok_iff.mp h
  refine ⟨(destination, port), rfl, ?_⟩
  rintro ⟨first, second⟩ he
  have hl := congrArg String.toList he
  rw [toList_append_colon, toList_append_colon] at hl
  obtain ⟨hf, -, hs⟩ := (List.append_cons_inj_of_notMem (colon_not_mem hd)
    (colon_not_mem hp)).mp hl
  rw [String.toList_inj.mp hf, String.toList_inj.mp hs]

/-- Numbers are taken at their value, however they are written, and refused for not fitting or for
being none. Routes are taken at the numbers around their only colon. -/
theorem number_arguments_exact (text : String) :
    (∃ trimmed, (∀ inner, Trimmed text.toList inner ↔ inner = trimmed) ∧
      ReadAsNumber 8 UInt8.toNat text trimmed (numeric readOctet text) ∧
      ReadAsNumber 16 UInt16.toNat text trimmed (numeric readWord text)) ∧
    ∀ route, (readRoute text = .ok route ↔ ∃ destination port,
        text = destination ++ ":" ++ port ∧
        numeric readOctet destination = .ok route.destination ∧
        numeric readOctet port = .ok route.port) ∧
      (readRoute text = .ok route →
        ∃! parts : String × String, text = parts.1 ++ ":" ++ parts.2) :=
  ⟨⟨_, fun _ => trimmed_iff, readAsNumber_octet text, readAsNumber_word text⟩,
    fun _ => ⟨readRoute_eq_ok_iff, existsUnique_parts⟩⟩

/-- Leading zeros take no room, however many they are, and a word without room is shown with its blank. -/
theorem number_arguments_exact_padded :
    numeric readOctet "0x+0000000000000000000000fF\t" = .ok 255 ∧
    numeric readWord " 65536" = .error (.unreadableValue " 65536 does not fit in 16 bits") ∧
    readRoute "0X+02: 007" = .ok ⟨2, 7⟩ ∧
    ∃! parts : String × String, "0X+02: 007" = parts.1 ++ ":" ++ parts.2 := by
  refine ⟨?_, ?_, ?_⟩
  · obtain ⟨⟨trimmed, ht, ho, -⟩, -⟩ :=
      number_arguments_exact "0x+0000000000000000000000fF\t"
    obtain rfl : "0x+0000000000000000000000fF".toList = trimmed :=
      (ht _).mp (trimmed_iff.mpr rfl)
    exact (ho.ok_iff 255).mpr (@Denotes.hexadecimal "0x" "+" "0000000000000000000000fF".toList 255
      (.inl rfl) (.inr rfl) ⟨by decide, List.replicate 22 0 ++ [15, 15], rfl, rfl⟩)
  · obtain ⟨⟨trimmed, ht, -, hw⟩, -⟩ := number_arguments_exact " 65536"
    obtain rfl : "65536".toList = trimmed := (ht _).mp (trimmed_iff.mpr rfl)
    exact hw.tooWide_iff.mpr ⟨65536, @Denotes.decimal "" "65536".toList 65536 (.inl rfl)
      ⟨by decide, [6, 5, 5, 3, 6], rfl, rfl⟩, by decide, by decide⟩
  · have hr : readRoute "0X+02: 007" = .ok ⟨2, 7⟩ := rfl
    exact ⟨hr, ((number_arguments_exact "0X+02: 007").2 ⟨2, 7⟩).2 hr⟩

end Numbers
end OnboardLink
