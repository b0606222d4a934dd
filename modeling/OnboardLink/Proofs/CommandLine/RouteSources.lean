import OnboardLink.Proofs.CommandLine.Answers
import OnboardLink.Proofs.CommandLine.RouteArguments
import OnboardLink.Proofs.Json.Settings
import OnboardLink.Proofs.Router.SetUp

/-! Routing by a plan from a file and by one from options. Each way of giving a plan is understood
as that plan, and nothing that comes afterwards asks where it came from. -/
namespace OnboardLink

theorem PlanSource.plan_file {files : Files} {path : String} {plan : RouterPlan}
    (h : files path = .ok plan.toJson.compact) : (PlanSource.file path).plan files = .ok plan := by
  rw [PlanSource.plan, RouterPlan.ofFile, h]
  simp only [RouterPlan.ofText_compact, Except.mapError]

/-- Routing asks for the plan alone. -/
theorem perform_route_congr {files : Files} {one other : PlanSource}
    (h : one.plan files = other.plan files) (address : UInt8) :
    (Command.route address one).perform files = (Command.route address other).perform files := by
  change describeRoute files address one = describeRoute files address other
  rw [describeRoute, describeRoute, h]

/-- What routing answers where it succeeds: frames stay, or leave through a port that the plan makes
active, and whose link is connected. -/
theorem perform_route_eq_ok {files : Files} {address : UInt8} {source : PlanSource}
    {plan : RouterPlan} {report : Report} (hp : source.plan files = .ok plan)
    (h : (Command.route address source).perform files = .ok report) :
    report = .record [
      ("device_addr", .octet plan.device), ("target_addr", .octet address),
      ("decision", .string "local"), ("port", .null), ("link_state", .null)] ∨
    ∃ port : UInt8, port.toNat < min plan.ports.toNat 8 ∧ report = .record [
      ("device_addr", .octet plan.device), ("target_addr", .octet address),
      ("decision", .string "forward"), ("port", .octet port),
      ("link_state", .string "connected")] := by
  change describeRoute files address source = _ at h
  cases hr : Router.ofPlan plan with
  | error error =>
    rw [describeRoute_of_refused hp hr] at h
    cases h
  | ok router =>
    have hs := (Router.Initial.ofPlan rfl rfl hr).sound
    cases hd : (router.dispatch (probe address)).1 with
    | error error =>
      rw [describeRoute_of_missed hp hr hd] at h
      cases h
    | ok decision =>
      cases decision with
      | stay =>
        rw [describeRoute_of_stay hp hr hd, hs.device] at h
        cases h
        exact .inl rfl
      | forward port =>
        obtain ⟨ha, he⟩ := describeRoute_of_forward hp hr hd
        rw [he, hs.device] at h
        cases h
        have hl := Router.isActive_iff.mp ha
        rw [hs.activePorts] at hl
        exact .inr ⟨port, hl, rfl⟩

/-- A plan can be given in a file that holds its text, or by options that spell it; every plan has
such options. Routing shows the same for both, and of a frame that leaves through a port, an active
port with a connected link. -/
theorem route_sources_agree (files : Files) (atTerminal : Bool) (environment : Option String)
    (plan : RouterPlan) (shared : SharedOptions) {target : String} {address : UInt8}
    (ht : readOctet target = .ok address) (path : Spelled readPath)
    (hf : files path.meaning = .ok plan.toJson.compact) :
    (∃ options : PlanOptions, options.plan = plan) ∧
    ∀ options : PlanOptions, options.plan = plan →
      let shown (given : List GivenOption) := shownFor files atTerminal environment
        ("route" :: target :: (shared.given ++ given).flatMap (·.arguments))
      shown [fileOption path] = shown options.given ∧
      ((∀ name ∈ environment, (LogLevel.ofName? name).isSome = true) →
        shown options.given = .ok (Invocation.run files atTerminal
          { command := .route address (.given plan)
            format := shared.format.map (·.meaning) }).shown) ∧
      ∀ source ∈ [PlanSource.file path.meaning, .given plan], ∀ report,
        (Command.route address source).perform files = .ok report →
        report = .record [
          ("device_addr", .octet plan.device), ("target_addr", .octet address),
          ("decision", .string "local"), ("port", .null), ("link_state", .null)] ∨
        ∃ port : UInt8, port.toNat < min plan.ports.toNat 8 ∧ report = .record [
          ("device_addr", .octet plan.device), ("target_addr", .octet address),
          ("decision", .string "forward"), ("port", .octet port),
          ("link_state", .string "connected")] := by
  have hfile : (PlanSource.file path.meaning).plan files = .ok plan := PlanSource.plan_file hf
  refine ⟨⟨_, PlanOptions.plan_decimal plan⟩, ?_⟩
  rintro options rfl shown
  have hgiven : shown options.given = _ := shown_options shared ht options
  refine ⟨?_, ?_, ?_⟩
  · have hr : (Command.route address (.file path.meaning)).perform files =
        (Command.route address (.given options.plan)).perform files :=
      perform_route_congr hfile address
    rw [hgiven]
    refine (shown_file shared ht path).trans ?_
    exact congrArg (fun shown => (environmentLevel environment).map fun _ => shown)
      (shown_run hr rfl)
  · intro he
    obtain ⟨level, hl⟩ := exists_environmentLevel_eq he
    rw [hgiven, hl]
    rfl
  · intro source hs report h
    rcases List.mem_pair.mp hs with rfl | rfl
    · exact perform_route_eq_ok hfile h
    · exact perform_route_eq_ok rfl h

/-- A file named in an argument of its own, and options of which one is attached and two are in
hexadecimal. Both forward the frame. -/
theorem route_sources_agree_written :
    let plan : RouterPlan := ⟨1, 4, [⟨5, 1⟩], [1, 2], []⟩
    let files : Files := fun _ => .ok plan.toJson.compact
    let fromFile := shownFor files false none ["route", " 0x05", "--config", "plan.json"]
    let fromOptions := shownFor files false none ["route", " 0x05", "--device", "0x1", "--ports", "4",
      "--route", "5:0X01", "--connected=1,2"]
    readOctet " 0x05" = .ok 5 ∧ files "plan.json" = .ok plan.toJson.compact ∧
    fromFile = fromOptions ∧
    fromOptions = .ok (0, "\x7b\"device_addr\":1,\"target_addr\":5,\"decision\":\"forward\"," ++
      "\"port\":1,\"link_state\":\"connected\"\x7d\n", none) := by
  intro plan files fromFile fromOptions
  have ht : readOctet " 0x05" = .ok 5 := rfl
  let path : Spelled readPath := ⟨⟨"plan.json", false, by decide⟩, "plan.json", rfl⟩
  let options : PlanOptions := {
    device := ⟨⟨"0x1", false, by decide⟩, 1, rfl⟩
    ports := ⟨⟨"4", false, by decide⟩, 4, rfl⟩
    routes := [⟨⟨"5:0X01", false, by decide⟩, ⟨5, 1⟩, rfl⟩]
    connected := [.attach "1,2" [1, 2] rfl]
    channels := [] }
  obtain ⟨ha, hs, -⟩ := (route_sources_agree files false none plan {} ht path rfl).2 options rfl
  have hr : (Command.route 5 (.given plan)).perform files = .ok (.record [
      ("device_addr", .octet 1), ("target_addr", .octet 5), ("decision", .string "forward"),
      ("port", .octet 1), ("link_state", .string "connected")]) := rfl
  refine ⟨ht, rfl, ha, (hs nofun).trans ?_⟩
  rw [Invocation.run, hr]
  rfl

end OnboardLink
