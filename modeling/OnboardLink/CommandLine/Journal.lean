import OnboardLink.CommandLine.Event
import OnboardLink.Router.Operation

/-! What is logged while a command runs. Set-ups, misses and refused frames are of the level debug,
and what happens to each frame or packet is of the level trace. -/
namespace OnboardLink

namespace Journal

open Json

def frameEncoded (frame : Frame) (checksum : UInt16) : Event :=
  ⟨.trace, "swlink_frame::codec", "frame encoded",
    [("target_addr", .octet frame.target), ("protocol_id", .octet frame.protocol),
      ("len", .natural frame.size), ("crc", .natural checksum.toNat)]⟩

def ofFrameDecoding (wire : Octets) : Except Frame.Error Frame → List Event
  | .error (.wrongChecksum received computed) =>
    [⟨.debug, "swlink_frame::codec", "frame checksum mismatch",
      [("len", .natural wire.length), ("received", .natural received.toNat),
        ("computed", .natural computed.toNat)]⟩]
  | _ => []

def ofFrameEncoding (frame : Frame) (destination : Octets) : List Event :=
  match frame.writeInto destination with
  | (.ok size, buffer) => [frameEncoded frame (buffer.wordAt (size - Frame.trailerSize))]
  | (.error _, _) => []

def ofSending (device : UInt8) (packet : AddressedPacket) (destination : Octets) : List Event :=
  let origin := "swlink_packet::integration"
  let application := Value.natural packet.packet.header.application.toNat
  ⟨.trace, origin, "creating packet",
    [("device_addr", .octet device), ("target_addr", .octet packet.target),
      ("apid", application)]⟩ ::
  match packet.payload with
  | .error _ => []
  | .ok payload =>
    ofFrameEncoding ⟨packet.target, packet.protocol, payload⟩ destination ++
    match (packet.sendInto destination {}).result with
    | .error _ => []
    | .ok size =>
      [⟨.trace, origin, "packet encoded",
        [("target_addr", .octet packet.target), ("apid", application), ("len", .natural size)]⟩]

def countersLine (counters : Counters) : String :=
  "StatisticsSnapshot \x7b " ++ s!"packets_sent: {counters.packetsSent.toNat}, " ++
  s!"packets_received: {counters.packetsReceived.toNat}, " ++
  s!"crc_errors: {counters.checksumErrors.toNat}, " ++
  s!"frame_errors: {counters.frameErrors.toNat}, " ++
  s!"link_errors: {counters.linkErrors.toNat}, " ++
  s!"bytes_sent: {counters.octetsSent.toNat}, " ++
  s!"bytes_received: {counters.octetsReceived.toNat}" ++ " \x7d"

/-- What receiving a packet logs: a wrong checksum, a payload that is no packet, and the counters
after either. -/
def ofReceiving (wire : Octets) (secondaryLength : Nat) : List Event :=
  let decoded := Frame.read wire
  let refused := match decoded with
    | .error _ => []
    | .ok frame =>
      match SpacePacket.read frame.payload secondaryLength with
      | .ok _ => []
      | .error error =>
        [⟨.debug, "swlink_packet::integration", "frame payload is not a space packet",
          [("target_addr", .octet frame.target), ("len", .natural frame.payload.length),
            ("error", .string error.message)]⟩]
  let counted := match AddressedPacket.receive wire secondaryLength {} with
    | (.ok _, _) => []
    | (.error _, counters) =>
      [⟨.debug, "swlink::cmd::packet", "packet decode failed",
        [("statistics", .string (countersLine counters))]⟩]
  ofFrameDecoding wire decoded ++ refused ++ counted

def routerEvent (message : String) (fields : List (String × Value)) : Event :=
  ⟨.debug, "swlink_router::router", message, fields⟩

/-- What an operation on a router logs. Setting a link to the state it is in logs nothing. -/
def ofOperation (router : Router) (operation : Router.Operation) : List Event :=
  match operation, (router.step operation).1 with
  | .install destination port, .installed done =>
    [routerEvent (if done then "route installed" else "route rejected")
      [("dest_addr", .octet destination), ("output_port", .octet port)]]
  | .setActive channel active, .done =>
    [routerEvent (if active then "virtual channel opened" else "virtual channel closed")
      [("channel_id", .octet channel)]]
  | .setState port state, .done =>
    match router.port? port with
    | some record =>
      if record.state = state then []
      else [routerEvent "port link state change"
        [("port", .octet port), ("from", record.state.toJson), ("to", state.toJson)]]
    | none => []
  | .dispatch frame, .refused (.miss _ reason) =>
    [routerEvent "routing miss"
      [("target_addr", .octet frame.target), ("reason", .string reason.message)]]
  | .dispatch frame, .decided (.forward port) =>
    [{ routerEvent "frame routed" [("target_addr", .octet frame.target), ("port", .octet port)] with
      level := .trace }]
  | _, _ => []

/-- What operations on a router log, up to the first that fails. -/
def ofOperations (router : Router) : List Router.Operation → List Event
  | [] => []
  | operation :: operations =>
    let (answer, next) := router.step operation
    ofOperation router operation ++ match answer with
    | .refused _ => []
    | _ => ofOperations next operations

def setUp (plan : RouterPlan) : List Router.Operation :=
  plan.routes.map (fun route => .install route.destination route.port) ++
    plan.channels.map (.setActive · true) ++ plan.connected.map (.setState · .connected)

def ofRouting (plan : RouterPlan) (target : UInt8) : List Event :=
  let router := Router.create plan.device plan.ports
  routerEvent "router initialized"
    [("device_addr", .octet router.device), ("num_ports", .octet router.activePorts)] ::
  ofOperations router (setUp plan ++ [.dispatch (probe target)])

def ofPlanSource (files : Files) : PlanSource → List Event
  | .given _ => []
  | .file path =>
    match files path with
    | .ok _ => [⟨.debug, "swlink_router::config", "loading router config",
        [("path", .string path)]⟩]
    | .error _ => []

end Journal

open Journal in
/-- What a command logs before it ends. -/
def Command.journal (files : Files) : Command → List Event
  | .character .. | .checksum .. | .version _ => []
  | .encodeFrame target protocol payload =>
    match payload.octets with
    | .error _ => []
    | .ok octets =>
      let frame : Frame := ⟨target, protocol, octets⟩
      ofFrameEncoding frame (zeros frame.size)
  | .decodeFrame digits =>
    match readHex digits with
    | .error _ => []
    | .ok octets => ofFrameDecoding octets (Frame.read octets)
  | .createPacket device target application payload =>
    match payload.octets with
    | .error _ => []
    | .ok user => ofSending device (.telemetry device target application user) (packetBuffer user)
  | .decodePacket digits secondaryLength =>
    match readHex digits with
    | .error _ => []
    | .ok octets => ofReceiving octets secondaryLength
  | .route target source =>
    ofPlanSource files source ++
    match source.plan files with
    | .error _ => []
    | .ok plan => ofRouting plan target

def Failure.event (failure : Failure) : Event :=
  ⟨.debug, "swlink", "command failed", [("code", .natural failure.code)]⟩

end OnboardLink
