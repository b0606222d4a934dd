import OnboardLink.Router

/-! Everything that can be done with a router, as data, and runs of such operations. -/
namespace OnboardLink.Router

inductive Operation where
  | install (destination port : UInt8)
  | setActive (channel : UInt8) (active : Bool)
  | setState (port : UInt8) (state : LinkState)
  | countReceived (port : UInt8)
  | spendCredit (channel : UInt8)
  | returnCredits (channel : UInt8) (credits : UInt16)
  | dispatch (frame : Frame)
  deriving DecidableEq, Repr

inductive Answer where
  | installed (done : Bool)
  | done
  | refused (error : RouterRefusal)
  | spent (done : Option Bool)
  | granted (credits : Option UInt16)
  | decided (decision : Decision)
  deriving DecidableEq, Repr

/-- An update that may be refused, and then changes nothing. -/
def attempt (router : Router) : Except RouterRefusal Router → Answer × Router
  | .ok router => (.done, router)
  | .error error => (.refused error, router)

def step (router : Router) : Operation → Answer × Router
  | .install destination port =>
    let (done, router) := router.install destination port
    (.installed done, router)
  | .setActive channel active => router.attempt (router.setActive channel active)
  | .setState port state => router.attempt (router.setState port state)
  | .countReceived port => router.attempt (router.countReceived port)
  | .spendCredit channel =>
    let (done, router) := router.spendCredit channel
    (.spent done, router)
  | .returnCredits channel credits =>
    let (credits, router) := router.returnCredits channel credits
    (.granted credits, router)
  | .dispatch frame =>
    match router.dispatch frame with
    | (.ok decision, router) => (.decided decision, router)
    | (.error error, router) => (.refused error, router)

def run (router : Router) : List Operation → List Answer × Router
  | [] => ([], router)
  | operation :: operations =>
    let (answer, router) := router.step operation
    let (answers, router) := router.run operations
    (answer :: answers, router)

theorem run_append (router : Router) (front back : List Operation) :
    (router.run (front ++ back)).2 = ((router.run front).2.run back).2 := by
  induction front generalizing router with
  | nil => rfl
  | cons operation front ih => exact ih _

end OnboardLink.Router
