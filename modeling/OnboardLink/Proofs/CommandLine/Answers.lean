import OnboardLink.CommandLine.Report
import OnboardLink.Proofs.Router.Routing
import OnboardLink.Proofs.Transfer.Lossless

/-! What each command answers, as equations: the first thing that fails ends it, and otherwise its
record is made of the wire form of what it was asked for. -/
namespace OnboardLink
open Json

/-- The octets of a payload, or why it has none. -/
def PayloadInput.content : PayloadInput → Except HexInput.Error Octets
  | .hex digits => HexInput.read digits
  | .text words => .ok (encodeText words)

section Frames

variable {target protocol : UInt8} {payload : PayloadInput} {octets : Octets} {digits : String}

end Frames

section Packets

variable {device target : UInt8} {application : UInt16} {payload : PayloadInput} {user : Octets}

variable {digits : String} {octets : Octets} {secondaryLength : ℕ}

end Packets

section Routes

variable {files : Files} {target : UInt8} {source : PlanSource} {error : RouterRefusal}

variable {plan : RouterPlan} {router : Router}

theorem describeRoute_of_refused (h : source.plan files = .ok plan)
    (hr : Router.ofPlan plan = .error error) :
    describeRoute files target source = .error (.ofRouter "config" error) := by
  rw [describeRoute, h]
  simp only [bind, Except.bind, hr]
  rfl

theorem describeRoute_of_missed (h : source.plan files = .ok plan)
    (hr : Router.ofPlan plan = .ok router)
    (hm : (router.dispatch (probe target)).1 = .error error) :
    describeRoute files target source = .error (.ofRouter "route" error) := by
  rw [describeRoute, h]
  simp only [bind, Except.bind, hr, Except.mapError]
  generalize router.dispatch (probe target) = result at hm
  obtain ⟨answer, after⟩ := result
  obtain rfl : answer = .error error := hm
  rfl

theorem describeRoute_of_stay (h : source.plan files = .ok plan)
    (hr : Router.ofPlan plan = .ok router) (hd : (router.dispatch (probe target)).1 = .ok .stay) :
    describeRoute files target source = .ok (.record [
      ("device_addr", .octet router.device), ("target_addr", .octet target),
      ("decision", .string "local"), ("port", .null), ("link_state", .null)]) := by
  have hw := Router.dispatched router (probe target)
  rw [describeRoute, h]
  simp only [bind, Except.bind, hr, Except.mapError]
  generalize router.dispatch (probe target) = result at hd hw
  cases hw with
  | stay _ => rfl
  | _ => cases hd

/-- A frame leaves through active ports with connected links alone. -/
theorem describeRoute_of_forward {port : UInt8} (h : source.plan files = .ok plan)
    (hr : Router.ofPlan plan = .ok router)
    (hd : (router.dispatch (probe target)).1 = .ok (.forward port)) :
    router.isActive port = true ∧ describeRoute files target source = .ok (.record [
      ("device_addr", .octet router.device), ("target_addr", .octet target),
      ("decision", .string "forward"), ("port", .octet port),
      ("link_state", .string "connected")]) := by
  have hw := Router.dispatched router (probe target)
  rw [describeRoute, h]
  simp only [bind, Except.bind, hr, Except.mapError]
  generalize router.dispatch (probe target) = result at hd hw
  cases hw with
  | @forward chosen record hp hc =>
    cases hd
    have ha : (router.setPort port record.countSent).port? port = some record.countSent := by
      rw [Router.port?_setPort record hp, if_pos rfl]
    have hs : record.countSent.state.toJson = .string "connected" := by
      rw [Port.countSent, hc]
      rfl
    refine ⟨(Router.port?_eq_some_iff.mp hp).1, ?_⟩
    simp only [ha, Option.elim_some, hs]
    rfl
  | _ => cases hd

end Routes

end OnboardLink
