import OnboardLink.Proofs.Router.Soundness

/-! Where operations write. A router is what stands in its cells, and an operation that is accepted
writes one of them, by the content that this cell had and no other; one that is refused writes none.
So operations on different cells can change places. -/
namespace OnboardLink

inductive Port.Field where
  | number
  | state
  | sent
  | received
  | errors
  deriving DecidableEq

inductive Channel.Field where
  | number
  | active
  | credits
  deriving DecidableEq

def Port.Field.Content : Field → Type
  | number => UInt8
  | state => LinkState
  | sent | received | errors => UInt32

def Channel.Field.Content : Field → Type
  | number => UInt8
  | active => Bool
  | credits => UInt16

def Port.get (port : Port) : (field : Field) → field.Content
  | .number => port.number
  | .state => port.state
  | .sent => port.sent
  | .received => port.received
  | .errors => port.errors

def Channel.get (channel : Channel) : (field : Field) → field.Content
  | .number => channel.number
  | .active => channel.active
  | .credits => channel.credits

/-- The record with another content of a field. -/
def Port.put (port : Port) : (field : Field) → field.Content → Port
  | .number, number => { port with number }
  | .state, state => { port with state }
  | .sent, sent => { port with sent }
  | .received, received => { port with received }
  | .errors, errors => { port with errors }

@[simp] theorem Port.get_put_self (port : Port) (field : Field) (content : field.Content) :
    (port.put field content).get field = content := by
  cases field <;> rfl

theorem Port.get_put_of_ne {field other : Field} (h : other ≠ field) (port : Port)
    (content : field.Content) : (port.put field content).get other = port.get other := by
  cases field <;> cases other <;> first | rfl | exact absurd rfl h

private theorem Port.eq_of_get {port other : Port} (h : ∀ field, port.get field = other.get field) :
    port = other := by
  cases port
  cases other
  rw [Port.mk.injEq]
  exact ⟨h .number, h .state, h .sent, h .received, h .errors⟩

/-- The record with another content of a field. -/
def Channel.put (channel : Channel) : (field : Field) → field.Content → Channel
  | .number, number => { channel with number }
  | .active, active => { channel with active }
  | .credits, credits => { channel with credits }

@[simp] theorem Channel.get_put_self (channel : Channel) (field : Field)
    (content : field.Content) : (channel.put field content).get field = content := by
  cases field <;> rfl

theorem Channel.get_put_of_ne {field other : Field} (h : other ≠ field) (channel : Channel)
    (content : field.Content) : (channel.put field content).get other = channel.get other := by
  cases field <;> cases other <;> first | rfl | exact absurd rfl h

private theorem Channel.eq_of_get {channel other : Channel}
    (h : ∀ field, channel.get field = other.get field) : channel = other := by
  cases channel
  cases other
  rw [Channel.mk.injEq]
  exact ⟨h .number, h .active, h .credits⟩

namespace Router

/-- The places of a router in which something stands. -/
inductive Cell where
  | device
  | activePorts
  | route (destination : UInt8)
  | port (port : UInt8) (field : Port.Field)
  | channel (channel : UInt8) (field : Channel.Field)
  deriving DecidableEq

/-- What stands in a cell. In cells beyond the tables there is nothing. -/
def Cell.Content : Cell → Type
  | device | activePorts => UInt8
  | route _ => Option (Option UInt8)
  | port _ field => Option field.Content
  | channel _ field => Option field.Content

def content (router : Router) : (cell : Cell) → cell.Content
  | .device => router.device
  | .activePorts => router.activePorts
  | .route destination => router.routes[destination.toNat]?
  | .port port field => router.ports[port.toNat]?.map (·.get field)
  | .channel channel field => router.channels[channel.toNat]?.map (·.get field)

/-- A cell, and what is made of its content. -/
structure Edit where
  cell : Cell
  change : cell.Content → cell.Content

/-- The edit was made, and nothing else was. -/
structure Edited (edit : Edit) (router changed : Router) : Prop where
  own : changed.content edit.cell = edit.change (router.content edit.cell)
  others : ∀ cell, cell ≠ edit.cell → changed.content cell = router.content cell

/-- What an operation is to change. Frames and credits are left out. -/
def Operation.edit? : Operation → Option Edit
  | .install destination port => some ⟨.route destination, Option.map fun _ => some port⟩
  | .setActive channel active => some ⟨.channel channel .active, Option.map fun _ => active⟩
  | .setState port state => some ⟨.port port .state, Option.map fun _ => state⟩
  | .countReceived port => some ⟨.port port .received, Option.map fun count : UInt32 => count + 1⟩
  | .spendCredit _ | .returnCredits .. | .dispatch _ => none

/-- The operation was done. -/
def Answer.isAccepted : Answer → Bool
  | .installed accepted => accepted
  | .done => true
  | _ => false

/-- What becomes of a frame, and of the router with it. -/
inductive Settled (router : Router) (frame : Frame) :
    Except RouterRefusal Decision × Router → Prop where
  | stay : Settled router frame (.ok .stay, router)
  | beyondTable : Settled router frame (.error (.miss frame.target .beyondTable), router)
  | noRoute : Settled router frame (.error (.miss frame.target .noRoute), router)
  | forward {port : UInt8} {changed : Router}
      (hs : router.content (.port port .state) = some LinkState.connected)
      (hc : Edited ⟨.port port .sent, Option.map fun count : UInt32 => count + 1⟩ router changed) :
      Settled router frame (.ok (.forward port), changed)
  | linkDown {port : UInt8} {state : LinkState} {changed : Router}
      (hs : router.content (.port port .state) = some state) (hn : state ≠ .connected)
      (hc : Edited ⟨.port port .errors, Option.map fun count : UInt32 => count + 1⟩ router
        changed) :
      Settled router frame (.error (.miss frame.target (.linkDown port state)), changed)

variable {router changed : Router} {edit : Edit}

/-- Entries of tables are told apart by what is read from them at numbers. -/
private theorem vector_ext {α : Type} {n : ℕ} (hn : n ≤ 256) {table other : Vector α n}
    (h : ∀ number : UInt8, table[number.toNat]? = other[number.toNat]?) : table = other := by
  apply Vector.ext
  intro index hi
  have he := h index.toUInt8
  rwa [UInt8.toNat_ofNat_of_lt' (hi.trans_le hn), Vector.getElem?_eq_getElem hi,
    Vector.getElem?_eq_getElem hi, Option.some.injEq] at he

/-- A record that may be missing, from its fields. -/
private theorem option_ext {α ι : Type} {fieldContent : ι → Type}
    (get : α → (i : ι) → fieldContent i)
    (hg : ∀ a b, (∀ i, get a i = get b i) → a = b) (hi : Nonempty ι) {a b : Option α}
    (h : ∀ i, (a.map (get · i)) = b.map (get · i)) : a = b := by
  cases a with
  | none =>
    have hn := h hi.some
    rw [Option.map_none, eq_comm, Option.map_eq_none_iff] at hn
    exact hn.symm
  | some a =>
    obtain ⟨other, rfl, -⟩ := Option.map_eq_some_iff.mp (h hi.some).symm
    exact congrArg some (hg a other fun i => Option.some.inj (h i))

/-- A router is what stands in its cells. -/
theorem eq_of_content (h : ∀ cell, changed.content cell = router.content cell) :
    changed = router := by
  have hr : changed.routes = router.routes :=
    vector_ext (by decide) fun destination => h (.route destination)
  have hp : changed.ports = router.ports := vector_ext (by decide) fun port =>
    option_ext Port.get (fun _ _ => Port.eq_of_get) ⟨.number⟩ fun field => h (.port port field)
  have hc : changed.channels = router.channels := vector_ext (by decide) fun channel =>
    option_ext Channel.get (fun _ _ => Channel.eq_of_get) ⟨.number⟩ fun field =>
      h (.channel channel field)
  cases changed
  cases router
  rw [Router.mk.injEq]
  exact ⟨h .device, h .activePorts, hp, hc, hr⟩

/-- Edits of different cells lead to the same router in either order. -/
theorem Edited.comm {one other : Edit} {first second both reverse : Router}
    (hn : one.cell ≠ other.cell) (h1 : Edited one router first) (h2 : Edited other first both)
    (h3 : Edited other router second) (h4 : Edited one second reverse) : both = reverse := by
  apply eq_of_content
  intro cell
  by_cases ho : cell = one.cell
  · subst ho
    rw [h2.others _ hn, h1.own, h4.own, h3.others _ hn]
  · by_cases ht : cell = other.cell
    · subst ht
      rw [h2.own, h1.others _ ho, h4.others _ ho, h3.own]
    · rw [h2.others _ ht, h1.others _ ho, h4.others _ ho, h3.others _ ht]

private theorem content_of_port? {port : UInt8} {record : Port}
    (hr : router.port? port = some record) (field : Port.Field) :
    router.content (.port port field) = some (record.get field) :=
  congrArg (Option.map fun record : Port => record.get field) (port?_eq_some_iff.mp hr).2

private theorem content_of_channel? {channel : UInt8} {record : Channel}
    (hr : router.channel? channel = some record) (field : Channel.Field) :
    router.content (.channel channel field) = some (record.get field) :=
  congrArg (Option.map fun record : Channel => record.get field) hr

private theorem content_setPort {port : UInt8} {record : Port}
    (hr : router.port? port = some record) (update : Port) (field : Port.Field) :
    (router.setPort port update).content (.port port field) = some (update.get field) ∧
    ∀ other, other ≠ port →
      (router.setPort port update).content (.port other field) =
        router.content (.port other field) := by
  have hs := getElem?_setIfInBounds_toNat (port?_eq_some_iff.mp hr).2 update
  constructor
  · exact congrArg (Option.map fun record : Port => record.get field) ((hs port).trans (if_pos rfl))
  · intro other hn
    exact congrArg (Option.map fun record : Port => record.get field) ((hs other).trans (if_neg hn))

private theorem content_setChannel {channel : UInt8} {record : Channel}
    (hr : router.channel? channel = some record) (update : Channel) (field : Channel.Field) :
    (router.setChannel channel update).content (.channel channel field) =
      some (update.get field) ∧
    ∀ other, other ≠ channel →
      (router.setChannel channel update).content (.channel other field) =
        router.content (.channel other field) := by
  have hs := getElem?_setIfInBounds_toNat hr update
  constructor
  · exact congrArg (Option.map fun record : Channel => record.get field)
      ((hs channel).trans (if_pos rfl))
  · intro other hn
    exact congrArg (Option.map fun record : Channel => record.get field)
      ((hs other).trans (if_neg hn))

private theorem edited_setPort {port : UInt8} {record : Port} (hr : router.port? port = some record)
    (field : Port.Field) (change : field.Content → field.Content) :
    Edited ⟨.port port field, Option.map change⟩ router
      (router.setPort port (record.put field (change (record.get field)))) := by
  have hs := content_setPort hr (record.put field (change (record.get field)))
  constructor
  · change content _ (.port port field) = Option.map change (router.content (.port port field))
    rw [(hs field).1, content_of_port? hr, Port.get_put_self, Option.map_some]
  · intro cell hn
    cases cell with
    | port other which =>
      by_cases he : other = port
      · subst he
        have hw : which ≠ field := fun hc => hn (congrArg _ hc)
        rw [(hs which).1, content_of_port? hr, Port.get_put_of_ne hw]
      · exact (hs which).2 other he
    | _ => rfl

private theorem edited_setChannel {channel : UInt8} {record : Channel}
    (hr : router.channel? channel = some record) (field : Channel.Field)
    (change : field.Content → field.Content) :
    Edited ⟨.channel channel field, Option.map change⟩ router
      (router.setChannel channel (record.put field (change (record.get field)))) := by
  have hs := content_setChannel hr (record.put field (change (record.get field)))
  constructor
  · change content _ (.channel channel field) =
      Option.map change (router.content (.channel channel field))
    rw [(hs field).1, content_of_channel? hr, Channel.get_put_self, Option.map_some]
  · intro cell hn
    cases cell with
    | channel other which =>
      by_cases he : other = channel
      · subst he
        have hw : which ≠ field := fun hc => hn (congrArg _ hc)
        rw [(hs which).1, content_of_channel? hr, Channel.get_put_of_ne hw]
      · exact (hs which).2 other he
    | _ => rfl

private theorem edited_routes {destination port : UInt8} (hd : destination.toNat < maxPorts) :
    Edited ⟨.route destination, Option.map fun _ => some port⟩ router
      { router with routes := router.routes.setIfInBounds destination.toNat (some port) } := by
  have hi : router.routes[destination.toNat]? = some router.routes[destination.toNat] :=
    Vector.getElem?_eq_getElem hd
  have hs := getElem?_setIfInBounds_toNat hi (some port)
  constructor
  · change _ = Option.map _ router.routes[destination.toNat]?
    rw [hi]
    exact (hs destination).trans (if_pos rfl)
  · intro cell hn
    cases cell with
    | route other => exact (hs other).trans (if_neg fun hc => hn (congrArg _ hc))
    | _ => rfl

/-- An operation that was done has made its edit, and one that was not has made none. -/
theorem step_of_edit (router : Router) {operation : Operation}
    (he : operation.edit? = some edit) :
    (router.step operation).1.isAccepted = false ∧ (router.step operation).2 = router ∨
      (router.step operation).1.isAccepted = true ∧
        Edited edit router (router.step operation).2 := by
  cases operation with
  | install destination port =>
    cases he
    rw [step, install]
    by_cases h : decide (destination.toNat < maxPorts) && router.isActive port
    · rw [if_pos h]
      exact .inr ⟨rfl, edited_routes (of_decide_eq_true (Bool.and_eq_true_iff.mp h).1)⟩
    · rw [if_neg h]
      exact .inl ⟨rfl, rfl⟩
  | setActive channel active =>
    cases he
    rw [step, setActive]
    cases hr : router.channel? channel with
    | none => exact .inl ⟨rfl, rfl⟩
    | some record => exact .inr ⟨rfl, edited_setChannel hr .active fun _ => active⟩
  | setState port state =>
    cases he
    rw [step, setState, updatePort]
    cases hr : router.port? port with
    | none => exact .inl ⟨rfl, rfl⟩
    | some record => exact .inr ⟨rfl, edited_setPort hr .state fun _ => state⟩
  | countReceived port =>
    cases he
    rw [step, countReceived, updatePort]
    cases hr : router.port? port with
    | none => exact .inl ⟨rfl, rfl⟩
    | some record =>
      exact .inr ⟨rfl, edited_setPort hr .received fun count : UInt32 => count + 1⟩
  | _ => cases he

private theorem setActive_answer (router : Router) (channel : UInt8) (active : Bool) :
    (router.attempt (router.setActive channel active)).1 =
      if channel.toNat < Channel.count then .done else .refused (.noSuchChannel channel) := by
  rw [setActive, channel?]
  by_cases h : channel.toNat < Channel.count
  · rw [Vector.getElem?_eq_getElem h, if_pos h]
    rfl
  · rw [Vector.getElem?_eq_none (Nat.not_lt.mp h), if_neg h]
    rfl

private theorem updatePort_answer (router : Router) (port : UInt8) (update : Port → Port) :
    (router.attempt (router.updatePort port update)).1 =
      if router.isActive port ∧ port.toNat < maxPorts then .done
      else .refused (.noSuchPort port router.activePorts) := by
  rw [updatePort, port?]
  by_cases ha : router.isActive port
  · by_cases h : port.toNat < maxPorts
    · rw [if_pos ha, Vector.getElem?_eq_getElem h, if_pos ⟨ha, h⟩]
      rfl
    · rw [if_pos ha, Vector.getElem?_eq_none (Nat.not_lt.mp h), if_neg fun hc => h hc.2]
      rfl
  · rw [if_neg ha, if_neg fun hc => ha hc.1]
    rfl

/-- Whether an operation is done is decided by its numbers and that of the active ports. -/
theorem step_answer_congr {operation : Operation} (he : operation.edit? = some edit)
    (hn : changed.activePorts = router.activePorts) :
    (changed.step operation).1 = (router.step operation).1 := by
  have ha (port : UInt8) : changed.isActive port = router.isActive port := by
    rw [isActive, isActive, hn]
  cases operation with
  | install destination port =>
    rw [step, step, install, install, ha]
    by_cases h : decide (destination.toNat < maxPorts) && router.isActive port
    · rw [if_pos h, if_pos h]
    · rw [if_neg h, if_neg h]
  | setActive channel active => exact (setActive_answer _ _ _).trans (setActive_answer _ _ _).symm
  | setState port state =>
    refine (updatePort_answer _ _ _).trans (Eq.trans ?_ (updatePort_answer _ _ _).symm)
    rw [ha, hn]
  | countReceived port =>
    refine (updatePort_answer _ _ _).trans (Eq.trans ?_ (updatePort_answer _ _ _).symm)
    rw [ha, hn]
  | _ => cases he

private theorem edit_cell_ne_activePorts {operation : Operation}
    (he : operation.edit? = some edit) :
    .activePorts ≠ edit.cell := by
  cases operation <;> cases he <;> exact nofun

private theorem Sound.settled {device ports : UInt8} (hs : Sound device ports router)
    (frame : Frame) :
    Settled router frame (router.dispatch frame) := by
  have hd := dispatched router frame
  have hn := hs.dispatch_ne frame frame.target
  generalize router.dispatch frame = result at hd hn
  cases hd with
  | stay => exact .stay
  | beyondTable => exact .beyondTable
  | noRoute => exact .noRoute
  | inactivePort => exact absurd rfl (hn _)
  | forward hp hc =>
    exact .forward ((content_of_port? hp .state).trans (congrArg some hc))
      (edited_setPort hp .sent fun count : UInt32 => count + 1)
  | linkDown hp hc =>
    exact .linkDown (content_of_port? hp .state) hc
      (edited_setPort hp .errors fun count : UInt32 => count + 1)

/-- Two operations that were done, one after the other and the other way round. -/
theorem run_comm {one other : Operation} {first second : Edit} (h1 : one.edit? = some first)
    (h2 : other.edit? = some second) (hn : first.cell ≠ second.cell)
    (ha1 : (router.step one).1.isAccepted) (ha2 : (router.step other).1.isAccepted) :
    router.run [one, other] = ([(router.step one).1, (router.step other).1],
      (router.run [other, one]).2) := by
  have hdone {operation : Operation} {edit : Edit} {router : Router}
      (he : operation.edit? = some edit) (ha : (router.step operation).1.isAccepted) :
      Edited edit router (router.step operation).2 := by
    rcases step_of_edit router he with ⟨hr, -⟩ | ⟨-, hd⟩
    · rw [hr] at ha
      cases ha
    · exact hd
  have hd1 := hdone h1 ha1
  have hd2 := hdone h2 ha2
  have hs1 := step_answer_congr h2 (hd1.others _ (edit_cell_ne_activePorts h1))
  have hs2 := step_answer_congr h1 (hd2.others _ (edit_cell_ne_activePorts h2))
  have hd12 := hdone h2 (hs1 ▸ ha2)
  have hd21 := hdone h1 (hs2 ▸ ha1)
  have hr := hd1.comm hn hd12 hd2 hd21
  simp only [run, hs1, hr]

/-- What can be done with a router touches one cell at most. A refusal leaves the router as it was,
and an operation that is done makes its edit and nothing else. A frame that stays or finds no route
leaves the router as it was, and any other is counted on one port. So two operations that are done on
different cells are answered alike in either order, and lead to the same router. -/
theorem operations_local {device ports : UInt8} {start : Router}
    (h : Initial device ports start) (history : List Operation) :
    let router := (start.run history).2
    (∀ (operation : Operation) (edit : Edit), operation.edit? = some edit →
      ((router.step operation).1.isAccepted = false → (router.step operation).2 = router) ∧
      ((router.step operation).1.isAccepted = true →
        Edited edit router (router.step operation).2)) ∧
    (∀ frame, Settled router frame (router.dispatch frame)) ∧
    ∀ (one other : Operation) (first second : Edit),
      one.edit? = some first → other.edit? = some second → first.cell ≠ second.cell →
      (router.step one).1.isAccepted → (router.step other).1.isAccepted →
        router.run [one, other] =
          ([(router.step one).1, (router.step other).1], (router.run [other, one]).2) ∧
        router.run [other, one] =
          ([(router.step other).1, (router.step one).1], (router.run [one, other]).2) := by
  intro router
  have hs : Sound device ports router := h.sound.reaches (run_reaches history)
  refine ⟨?_, hs.settled, ?_⟩
  · intro operation edit he
    rcases step_of_edit router he with ⟨ha, hr⟩ | ⟨ha, hd⟩
    · exact ⟨fun _ => hr, fun hc => absurd (ha.symm.trans hc) nofun⟩
    · exact ⟨fun hc => absurd (ha.symm.trans hc) nofun, fun _ => hd⟩
  · intro one other first second h1 h2 hn ha1 ha2
    exact ⟨run_comm h1 h2 hn ha1 ha2, run_comm h2 h1 hn.symm ha2 ha1⟩

/-- A port that is not active, a frame that is forwarded, and two fields of one record. -/
theorem operations_local_connected :
    let router := ((create 9 3).run [.install 4 1, .setState 1 .connected]).2
    let received : Edit := ⟨.port 1 .received, Option.map fun count : UInt32 => count + 1⟩
    let failed : Edit := ⟨.port 1 .state, Option.map fun _ => LinkState.error⟩
    Initial 9 3 (create 9 3) ∧
    ((router.step (.countReceived 7)).1 = .refused (.noSuchPort 7 3) ∧
      (router.step (.countReceived 7)).2 = router) ∧
    Settled router ⟨4, 0, []⟩ (router.dispatch ⟨4, 0, []⟩) ∧
    (router.step (.countReceived 1)).1.isAccepted ∧ (router.step (.setState 1 .error)).1.isAccepted ∧
    received.cell ≠ failed.cell ∧
    Edited received router (router.step (.countReceived 1)).2 ∧
    router.run [.countReceived 1, .setState 1 .error] =
      ([.done, .done], (router.run [.setState 1 .error, .countReceived 1]).2) := by
  intro router received failed
  have hi : Initial 9 3 (create 9 3) := .create
  obtain ⟨hone, hframe, hboth⟩ := operations_local hi [.install 4 1, .setState 1 .connected]
  have hr : (router.step (.countReceived 1)).1.isAccepted := rfl
  have hf : (router.step (.setState 1 .error)).1.isAccepted := rfl
  have hn : received.cell ≠ failed.cell := by decide
  exact ⟨hi, ⟨rfl, (hone _ _ rfl).1 rfl⟩, hframe _, hr, hf, hn, (hone _ received rfl).2 hr,
    (hboth _ _ received failed rfl rfl hn hr hf).1⟩

end Router
end OnboardLink
