import OnboardLink.Transfer

/-! A node's exchange of packets with its peers: one set of counters for all of it, and the stream
that frames are sent along. -/
namespace OnboardLink

structure Exchange where
  counters : Counters := {}
  stream : Octets := []
  deriving DecidableEq, Repr

namespace Exchange

inductive Operation where
  | sendInto (packet : AddressedPacket) (buffer : Octets)
  | send (packet : AddressedPacket)
  | receive (wire : Octets) (secondaryLength : Nat)
  | linkFault
  | clear
  /-- The node goes on with another stream. -/
  | redirect (stream : Octets)
  deriving DecidableEq, Repr

inductive Answer where
  | sent (result : Except AddressedPacket.Error Nat) (destination : Octets)
  | received (result : Except AddressedPacket.Error AddressedPacket)
  | noted

def step (exchange : Exchange) : Operation → Answer × Exchange
  | .sendInto packet buffer =>
    let sent := packet.sendInto buffer exchange.counters
    (.sent sent.result sent.destination, { exchange with counters := sent.counters })
  | .send packet =>
    let sent := packet.sendTo exchange.stream exchange.counters
    (.sent sent.result sent.destination, ⟨sent.counters, sent.destination⟩)
  | .receive wire secondaryLength =>
    let (result, counters) := AddressedPacket.receive wire secondaryLength exchange.counters
    (.received result, { exchange with counters })
  | .linkFault => (.noted, { exchange with counters := exchange.counters.countLinkError })
  | .clear => (.noted, { exchange with counters := {} })
  | .redirect stream => (.noted, { exchange with stream })

def run (exchange : Exchange) : List Operation → List Answer × Exchange
  | [] => ([], exchange)
  | operation :: operations =>
    let (answer, exchange) := exchange.step operation
    let (answers, exchange) := exchange.run operations
    (answer :: answers, exchange)

end Exchange
end OnboardLink
