import OnboardLink.Frame
import OnboardLink.Router.Refusal

/-! The router of a node: which port a frame leaves through. A router has tables for eight ports, of
which the first few are active, for eight destinations and for sixteen virtual channels. -/
namespace OnboardLink

structure Route where
  destination : UInt8
  port : UInt8
  deriving DecidableEq, Repr

structure RouterPlan where
  device : UInt8 := 0
  /-- Ports asked for; a router has eight at most. -/
  ports : UInt8 := 0
  routes : List Route := []
  connected : List UInt8 := []
  channels : List UInt8 := []
  deriving DecidableEq, Repr

/-- Ports of a router, and destinations of its routing table. -/
def Router.maxPorts : Nat := 8

structure Router where
  device : UInt8
  activePorts : UInt8
  ports : Vector Port Router.maxPorts
  channels : Vector Channel Channel.count
  /-- For each destination the port a route to it leads through. -/
  routes : Vector (Option UInt8) Router.maxPorts
  deriving DecidableEq, Repr

inductive Decision where
  | stay
  | forward (port : UInt8)
  deriving DecidableEq, Repr

namespace Router

/-- A router with no routes, all links down and all channels closed. More ports than there are
count as all of them. -/
def create (device ports : UInt8) : Router where
  device
  activePorts := min ports 8
  ports := .ofFn fun index => { number := index.val.toUInt8 }
  channels := .ofFn fun index => { number := index.val.toUInt8 }
  routes := .replicate maxPorts none

def isActive (router : Router) (port : UInt8) : Bool := port < router.activePorts

def port? (router : Router) (port : UInt8) : Option Port :=
  if router.isActive port then router.ports[port.toNat]? else none

def activePortList (router : Router) : List Port :=
  router.ports.toList.take router.activePorts.toNat

def channel? (router : Router) (channel : UInt8) : Option Channel :=
  router.channels[channel.toNat]?

def route? (router : Router) (destination : UInt8) : Option UInt8 :=
  router.routes[destination.toNat]?.join

def setPort (router : Router) (port : UInt8) (record : Port) : Router :=
  { router with ports := router.ports.setIfInBounds port.toNat record }

def setChannel (router : Router) (channel : UInt8) (record : Channel) : Router :=
  { router with channels := router.channels.setIfInBounds channel.toNat record }

/-- Installs a route in place of any other to the destination, and answers whether it did. A
destination beyond the table and a port that is not active are passed over. -/
def install (router : Router) (destination port : UInt8) : Bool × Router :=
  if destination.toNat < maxPorts && router.isActive port then
    (true, { router with
      routes := router.routes.setIfInBounds destination.toNat (some port) })
  else (false, router)

/-- Opens or closes a virtual channel. Its credits stay. -/
def setActive (router : Router) (channel : UInt8) (active : Bool) : Except RouterRefusal Router :=
  match router.channel? channel with
  | some record => .ok (router.setChannel channel { record with active })
  | none => .error (.noSuchChannel channel)

def updatePort (router : Router) (port : UInt8) (update : Port → Port) :
    Except RouterRefusal Router :=
  match router.port? port with
  | some record => .ok (router.setPort port (update record))
  | none => .error (.noSuchPort port router.activePorts)

def setState (router : Router) (port : UInt8) (state : LinkState) :
    Except RouterRefusal Router :=
  router.updatePort port ({ · with state })

def countReceived (router : Router) (port : UInt8) : Except RouterRefusal Router :=
  router.updatePort port Port.countReceived

/-- Spends a credit of a virtual channel and answers whether one was left; there is no answer for a
channel that the router does not have. -/
def spendCredit (router : Router) (channel : UInt8) : Option Bool × Router :=
  match router.channel? channel with
  | some record => (some record.spend.1, router.setChannel channel record.spend.2)
  | none => (none, router)

def returnCredits (router : Router) (channel : UInt8) (credits : UInt16) :
    Option UInt16 × Router :=
  match router.channel? channel with
  | some record =>
    (some (record.grant credits).credits, router.setChannel channel (record.grant credits))
  | none => (none, router)

/-- Chooses the port through which frames to a target leave. An unconnected link costs it an
error. -/
def egress (router : Router) (target : UInt8) : Except Miss UInt8 × Router :=
  match router.routes[target.toNat]? with
  | none => (.error .beyondTable, router)
  | some none => (.error .noRoute, router)
  | some (some port) =>
    match router.port? port with
    | none => (.error (.inactivePort port), router)
    | some record =>
      if record.isConnected then (.ok port, router.setPort port record.countSent)
      else (.error (.linkDown port record.state), router.setPort port record.countError)

/-- Decides where a frame goes. A frame to this node stays; any other needs a route to an active
port with a connected link, which counts it. Only the frame's target matters. -/
def dispatch (router : Router) (frame : Frame) : Except RouterRefusal Decision × Router :=
  if frame.target = router.device then (.ok .stay, router)
  else
    match router.egress frame.target with
    | (.ok port, router) => (.ok (.forward port), router)
    | (.error reason, router) => (.error (.miss frame.target reason), router)

/-- Sets a router up by a plan. Routes that cannot be installed are passed over, then channels are
opened and links connected; the first that is out of range is refused. -/
def ofPlan (plan : RouterPlan) : Except RouterRefusal Router := do
  let router := plan.routes.foldl (fun router route =>
    (router.install route.destination route.port).2) (create plan.device plan.ports)
  let router ← plan.channels.foldlM (setActive · · true) router
  plan.connected.foldlM (setState · · .connected) router

end Router
end OnboardLink
