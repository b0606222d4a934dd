import OnboardLink.Json.Shape
import OnboardLink.Json.Value
import OnboardLink.Router
import OnboardLink.Transfer

/-! The JSON forms of settings: what each text says, and the text of each value. -/
namespace OnboardLink

open Json

def Json.Value.octet (value : UInt8) : Value := .natural value.toNat

namespace LinkState

def read : Reader LinkState := readChoice ofName?

def toJson (state : LinkState) : Value := .string state.name

def ofText (text : String) : Except Fault LinkState := readWhole read text

end LinkState

namespace Route

/-- Both ends of a route have to be given. -/
def shape : Shape (Option UInt8 × Option UInt8) Route where
  start := (none, none)
  fields := [
    .of "dest_addr" readUInt8 fun draft value => (some value, draft.2),
    .of "output_port" readUInt8 fun draft value => (draft.1, some value)]
  finish
    | (some destination, some port) => some ⟨destination, port⟩
    | _ => none

def toJson (route : Route) : Value :=
  .object [("dest_addr", .octet route.destination), ("output_port", .octet route.port)]

def ofText (text : String) : Except Fault Route := readWhole shape.read text

end Route

namespace RouterPlan

def shape : Shape RouterPlan RouterPlan := .withDefaults {} [
  .of "device_addr" readUInt8 fun plan device => { plan with device },
  .of "num_ports" readUInt8 fun plan ports => { plan with ports },
  .of "routes" (readList Route.shape.read) fun plan routes => { plan with routes },
  .of "connected_ports" (readList readUInt8) fun plan connected => { plan with connected },
  .of "channels" (readList readUInt8) fun plan channels => { plan with channels }]

def toJson (plan : RouterPlan) : Value := .object [
  ("device_addr", .octet plan.device),
  ("num_ports", .octet plan.ports),
  ("routes", .list (plan.routes.map Route.toJson)),
  ("connected_ports", .list (plan.connected.map .octet)),
  ("channels", .list (plan.channels.map .octet))]

def ofText (text : String) : Except Fault RouterPlan := readWhole shape.read text

end RouterPlan

namespace EndpointSettings

def shape : Shape EndpointSettings EndpointSettings := .withDefaults {} [
  .of "bit_rate" readUInt32 fun settings bitRate => { settings with bitRate },
  .of "disconnect_timeout_us" readUInt32 fun settings disconnectTimeout =>
    { settings with disconnectTimeout },
  .of "rx_credit_max" readUInt8 fun settings receiveCredits => { settings with receiveCredits },
  .of "enable_crc" readBool fun settings checksum => { settings with checksum }]

def toJson (settings : EndpointSettings) : Value := .object [
  ("bit_rate", .natural settings.bitRate.toNat),
  ("disconnect_timeout_us", .natural settings.disconnectTimeout.toNat),
  ("rx_credit_max", .octet settings.receiveCredits),
  ("enable_crc", .bool settings.checksum)]

def ofText (text : String) : Except Fault EndpointSettings := readWhole shape.read text

end EndpointSettings

namespace Addressing

def shape : Shape Addressing Addressing := .withDefaults {} [
  .of "device_addr" readUInt8 fun addressing device => { addressing with device },
  .of "target_addr" readUInt8 fun addressing target => { addressing with target },
  .of "protocol_id" readUInt8 fun addressing protocol => { addressing with protocol },
  .of "enable_crc" readBool fun addressing checksum => { addressing with checksum }]

def toJson (addressing : Addressing) : Value := .object [
  ("device_addr", .octet addressing.device),
  ("target_addr", .octet addressing.target),
  ("protocol_id", .octet addressing.protocol),
  ("enable_crc", .bool addressing.checksum)]

def ofText (text : String) : Except Fault Addressing := readWhole shape.read text

end Addressing
end OnboardLink
