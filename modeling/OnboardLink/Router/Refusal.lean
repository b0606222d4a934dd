import OnboardLink.Files
import OnboardLink.Json.Scan
import OnboardLink.Link

/-! What can go wrong with a router. -/
namespace OnboardLink

inductive Miss where
  | beyondTable
  | noRoute
  | inactivePort (port : UInt8)
  | linkDown (port : UInt8) (state : LinkState)
  deriving DecidableEq, Repr

def Miss.message : Miss → String
  | beyondTable => "address outside routing table"
  | noRoute => "no route installed"
  | inactivePort port => s!"route points to inactive port {port.toNat}"
  | linkDown port state => s!"link on port {port.toNat} is {state.name}"

inductive RouterRefusal where
  | miss (target : UInt8) (reason : Miss)
  | noSuchPort (port active : UInt8)
  | noSuchChannel (channel : UInt8)
  | unreadable (path : String) (reason : ReadFailure)
  | invalidPlan (fault : Json.Fault)
  deriving DecidableEq, Repr

namespace RouterRefusal

def message : RouterRefusal → String
  | miss target reason => s!"no route to {Octets.markedOctet target}: {reason.message}"
  | noSuchPort port active =>
    s!"port {port.toNat} out of range ({active.toNat} active ports)"
  | noSuchChannel channel => s!"virtual channel {channel.toNat} out of range"
  | unreadable path reason => s!"failed to load router config from {path}: {reason.message}"
  | invalidPlan fault => s!"invalid router config: {fault.message}"

/-- Whether a frame just found no way out, which happens in ordinary service. -/
def isMiss : RouterRefusal → Bool
  | miss .. => true
  | noSuchPort .. | noSuchChannel _ | unreadable .. | invalidPlan _ => false

end RouterRefusal
end OnboardLink
