/-! Links as the nodes at their ends keep them: the state a link is in, which is a stored value, so that
every state may follow every other; one end of a link, to which a peer grants credits; a router's
record of the link on one of its ports, which counts modulo `2^32`; and the virtual channels that
share links, each with credits of its own. -/
namespace OnboardLink

inductive LinkState where
  | uninitialized
  | ready
  | started
  | connected
  | error
  deriving DecidableEq, Repr

namespace LinkState

def name : LinkState → String
  | uninitialized => "uninitialized"
  | ready => "ready"
  | started => "started"
  | connected => "connected"
  | error => "error"

def all : List LinkState := [uninitialized, ready, started, connected, error]

def ofName? (name : String) : Option LinkState := all.find? (·.name == name)

@[simp] theorem ofName?_name (state : LinkState) : ofName? state.name = some state := by
  cases state <;> rfl

end LinkState

structure EndpointSettings where
  bitRate : UInt32 := 10000000
  /-- Microseconds of silence after which a link counts as broken. Only kept. -/
  disconnectTimeout : UInt32 := 850
  receiveCredits : UInt8 := 7
  /-- Whether frames on the link carry a checksum. Only kept. -/
  checksum : Bool := true
  deriving DecidableEq, Repr

structure Endpoint where
  settings : EndpointSettings
  state : LinkState
  receiveCredits : UInt8
  sendCredits : UInt8
  deriving DecidableEq, Repr

namespace Endpoint

/-- An endpoint as it is created: uninitialized, its receive window full, nothing granted yet. -/
def create (settings : EndpointSettings) : Endpoint :=
  ⟨settings, .uninitialized, settings.receiveCredits, 0⟩

def setState (endpoint : Endpoint) (state : LinkState) : Endpoint := { endpoint with state }

def isConnected (endpoint : Endpoint) : Bool := endpoint.state = .connected

def grant (endpoint : Endpoint) (credits : UInt8) : Endpoint :=
  { endpoint with
    sendCredits := .ofNat (min 255 (endpoint.sendCredits.toNat + credits.toNat)) }

def spend (endpoint : Endpoint) : Bool × Endpoint :=
  if endpoint.sendCredits = 0 then (false, endpoint)
  else (true, { endpoint with sendCredits := endpoint.sendCredits - 1 })

inductive Operation where
  | setState (state : LinkState)
  | grant (credits : UInt8)
  | spend
  deriving DecidableEq, Repr

/-- Does one operation. The answer is whether a credit was spent. -/
def step (endpoint : Endpoint) : Operation → Bool × Endpoint
  | .setState state => (false, endpoint.setState state)
  | .grant credits => (false, endpoint.grant credits)
  | .spend => endpoint.spend

def run (endpoint : Endpoint) : List Operation → List Bool × Endpoint
  | [] => ([], endpoint)
  | operation :: operations =>
    let (answer, endpoint) := endpoint.step operation
    let (answers, endpoint) := endpoint.run operations
    (answer :: answers, endpoint)

end Endpoint

structure Port where
  number : UInt8
  state : LinkState := .uninitialized
  sent : UInt32 := 0
  received : UInt32 := 0
  /-- Frames that found the link not connected. -/
  errors : UInt32 := 0
  deriving DecidableEq, Repr

namespace Port

def isConnected (port : Port) : Bool := port.state = .connected

def countSent (port : Port) : Port := { port with sent := port.sent + 1 }

def countReceived (port : Port) : Port := { port with received := port.received + 1 }

def countError (port : Port) : Port := { port with errors := port.errors + 1 }

end Port

def Channel.initialCredits : UInt16 := 64

structure Channel where
  number : UInt8
  active : Bool := false
  credits : UInt16 := Channel.initialCredits
  deriving DecidableEq, Repr

namespace Channel

def count : Nat := 16

def spend (channel : Channel) : Bool × Channel :=
  if channel.active && channel.credits ≠ 0 then
    (true, { channel with credits := channel.credits - 1 })
  else (false, channel)

/-- Returns credits to the channel, as many as fit. -/
def grant (channel : Channel) (credits : UInt16) : Channel :=
  { channel with credits := .ofNat (min 65535 (channel.credits.toNat + credits.toNat)) }

end Channel

end OnboardLink
