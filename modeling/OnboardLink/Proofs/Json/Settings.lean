import OnboardLink.Proofs.Json.RoundTrip
import OnboardLink.Settings

/-! Settings and their JSON texts. A text is read as the values that it gives, with the defaults where
it gives none, in whatever notation and order; and the compact text of a value gives it whole. -/
namespace OnboardLink

open Json

/-- Whole numbers are written in one way only. -/
def OctetText (octet : UInt8) (text : List Char) : Prop := text = Nat.toDigits 10 octet.toNat

def WordText (word : UInt32) (text : List Char) : Prop := text = Nat.toDigits 10 word.toNat

theorem OctetText.reads {octet : UInt8} {text : List Char} (h : OctetText octet text) :
    Reads readUInt8 octet text := by
  rw [h]
  exact reads_octet octet

theorem WordText.reads {word : UInt32} {text : List Char} (h : WordText word text) :
    Reads readUInt32 word text := by
  rw [h]
  exact reads_word word

private theorem octetText_toJson (octet : UInt8) : OctetText octet (Value.octet octet).chars := rfl

/-- A name of no field makes no difference to which fields are named. -/
theorem mem_append_unknown {α : Type} {forms : List (Form α)} {name : String}
    (hn : name ∉ forms.map Form.name) (names : List String) :
    ∀ field ∈ forms.map Form.name, (field ∈ names ++ [name]) = (field ∈ names) := by
  intro field hf
  rw [List.mem_append, List.mem_singleton]
  exact propext (or_iff_left fun he => hn (he ▸ hf))

namespace Route

def forms : List (Form Route) := [
  ⟨"dest_addr", fun route => OctetText route.destination⟩,
  ⟨"output_port", fun route => OctetText route.port⟩]

/-- The ends of a route that are given. -/
def ends (route : Route) (names : List String) : Option UInt8 × Option UInt8 :=
  (if "dest_addr" ∈ names then some route.destination else none,
    if "output_port" ∈ names then some route.port else none)

/-- The texts of a route give both its ends, as members of an object or in a list. -/
inductive Text (route : Route) (text : List Char) : Prop where
  | object {names : List String} (ht : ObjectText forms route names text)
      (hd : (known forms names).Nodup) (hm : ∀ form ∈ forms, form.name ∈ names)
  | list (ht : ListText (fun form => form.Text route) forms text)

theorem fits : shape.Fits forms ends where
  start _ := rfl
  fields :=
    .cons (Form.fits_of "dest_addr" OctetText.reads fun _ _ => by simp [ends])
    (.cons (Form.fits_of "output_port" OctetText.reads fun _ _ => by simp [ends]) .nil)
  distinct := by decide
  unknown route names name hn := by
    have hm := mem_append_unknown hn names
    simp only [forms, List.map_cons, List.map_nil, List.forall_mem_cons] at hm
    simp only [ends, hm]

private theorem finish_ends {route : Route} {names : List String}
    (h : ∀ form ∈ forms, form.name ∈ names) :
    shape.finish (route.ends names) = some route := by
  simp only [forms, List.forall_mem_cons] at h
  rw [ends, if_pos h.1, if_pos h.2.1]
  rfl

theorem Text.reads {route : Route} {text : List Char} (h : route.Text text) :
    Reads shape.read route text := by
  cases h with
  | object ht hd hm => exact fits.reads_object ht hd (finish_ends hm)
  | list ht =>
    rw [← List.take_length (l := forms)] at ht
    exact fits.reads_list ht (finish_ends fun form hm => List.mem_map_of_mem hm)

private theorem text_toJson (route : Route) : route.Text route.toJson.chars :=
  .object (objectText_compact (.cons ⟨rfl, rfl⟩ (.cons ⟨rfl, rfl⟩ .nil))) (by decide)
    fun _ hm => List.mem_map_of_mem hm

theorem ofText_compact (route : Route) : ofText route.toJson.compact = .ok route :=
  readWhole_padded (padded_compact route.text_toJson) Text.reads

end Route

namespace RouterPlan

def forms : List (Form RouterPlan) := [
  ⟨"device_addr", fun plan => OctetText plan.device⟩,
  ⟨"num_ports", fun plan => OctetText plan.ports⟩,
  ⟨"routes", fun plan => ListText Route.Text plan.routes⟩,
  ⟨"connected_ports", fun plan => ListText OctetText plan.connected⟩,
  ⟨"channels", fun plan => ListText OctetText plan.channels⟩]

/-- The parts of a plan that are named, and the defaults of the others. -/
def only (plan : RouterPlan) (names : List String) : RouterPlan :=
  let default : RouterPlan := {}
  { device := if "device_addr" ∈ names then plan.device else default.device
    ports := if "num_ports" ∈ names then plan.ports else default.ports
    routes := if "routes" ∈ names then plan.routes else default.routes
    connected := if "connected_ports" ∈ names then plan.connected else default.connected
    channels := if "channels" ∈ names then plan.channels else default.channels }

theorem fits : shape.Fits forms only where
  start _ := rfl
  fields :=
    .cons (Form.fits_of "device_addr" OctetText.reads fun _ _ => by simp [only])
    (.cons (Form.fits_of "num_ports" OctetText.reads fun _ _ => by simp [only])
    (.cons (Form.fits_of "routes" (ListText.reads Route.Text.reads) fun _ _ => by simp [only])
    (.cons (Form.fits_of "connected_ports" (ListText.reads OctetText.reads) fun _ _ => by simp [only])
    (.cons (Form.fits_of "channels" (ListText.reads OctetText.reads) fun _ _ => by simp [only])
      .nil))))
  distinct := by decide
  unknown plan names name hn := by
    have hm := mem_append_unknown hn names
    simp only [forms, List.map_cons, List.map_nil, List.forall_mem_cons] at hm
    simp only [only, hm]

theorem readByFields : ReadByFields ofText forms only := fits.readByFields

theorem objectText_toJson (plan : RouterPlan) :
    ObjectText forms plan (forms.map Form.name) plan.toJson.chars :=
  objectText_compact (.cons ⟨rfl, rfl⟩ (.cons ⟨rfl, rfl⟩
    (.cons ⟨rfl, listText_compact Route.text_toJson plan.routes⟩
    (.cons ⟨rfl, listText_compact octetText_toJson plan.connected⟩
    (.cons ⟨rfl, listText_compact octetText_toJson plan.channels⟩ .nil)))))

/-- A plan is read back from its text. -/
theorem ofText_compact (plan : RouterPlan) : ofText plan.toJson.compact = .ok plan :=
  readByFields.object (padded_compact plan.objectText_toJson) (by decide)

end RouterPlan

namespace EndpointSettings

def forms : List (Form EndpointSettings) := [
  ⟨"bit_rate", fun settings => WordText settings.bitRate⟩,
  ⟨"disconnect_timeout_us", fun settings => WordText settings.disconnectTimeout⟩,
  ⟨"rx_credit_max", fun settings => OctetText settings.receiveCredits⟩,
  ⟨"enable_crc", fun settings => BoolText settings.checksum⟩]

/-- The settings that are named, and the defaults of the others. -/
def only (settings : EndpointSettings) (names : List String) : EndpointSettings :=
  let default : EndpointSettings := {}
  { bitRate := if "bit_rate" ∈ names then settings.bitRate else default.bitRate
    disconnectTimeout :=
      if "disconnect_timeout_us" ∈ names then settings.disconnectTimeout
      else default.disconnectTimeout
    receiveCredits :=
      if "rx_credit_max" ∈ names then settings.receiveCredits else default.receiveCredits
    checksum := if "enable_crc" ∈ names then settings.checksum else default.checksum }

theorem fits : shape.Fits forms only where
  start _ := rfl
  fields :=
    .cons (Form.fits_of "bit_rate" WordText.reads fun _ _ => by simp [only])
    (.cons (Form.fits_of "disconnect_timeout_us" WordText.reads fun _ _ => by simp [only])
    (.cons (Form.fits_of "rx_credit_max" OctetText.reads fun _ _ => by simp [only])
    (.cons (Form.fits_of "enable_crc" BoolText.reads fun _ _ => by simp [only]) .nil)))
  distinct := by decide
  unknown settings names name hn := by
    have hm := mem_append_unknown hn names
    simp only [forms, List.map_cons, List.map_nil, List.forall_mem_cons] at hm
    simp only [only, hm]

theorem readByFields : ReadByFields ofText forms only := fits.readByFields

theorem objectText_toJson (settings : EndpointSettings) :
    ObjectText forms settings (forms.map Form.name) settings.toJson.chars :=
  objectText_compact (.cons ⟨rfl, rfl⟩ (.cons ⟨rfl, rfl⟩ (.cons ⟨rfl, rfl⟩
    (.cons ⟨rfl, boolText_compact settings.checksum⟩ .nil))))

theorem ofText_compact (settings : EndpointSettings) :
    ofText settings.toJson.compact = .ok settings :=
  readByFields.object (padded_compact settings.objectText_toJson) (by decide)

end EndpointSettings

namespace Addressing

def forms : List (Form Addressing) := [
  ⟨"device_addr", fun addressing => OctetText addressing.device⟩,
  ⟨"target_addr", fun addressing => OctetText addressing.target⟩,
  ⟨"protocol_id", fun addressing => OctetText addressing.protocol⟩,
  ⟨"enable_crc", fun addressing => BoolText addressing.checksum⟩]

/-- The parts of an addressing that are named, and the defaults of the others. -/
def only (addressing : Addressing) (names : List String) : Addressing :=
  let default : Addressing := {}
  { device := if "device_addr" ∈ names then addressing.device else default.device
    target := if "target_addr" ∈ names then addressing.target else default.target
    protocol := if "protocol_id" ∈ names then addressing.protocol else default.protocol
    checksum := if "enable_crc" ∈ names then addressing.checksum else default.checksum }

theorem fits : shape.Fits forms only where
  start _ := rfl
  fields :=
    .cons (Form.fits_of "device_addr" OctetText.reads fun _ _ => by simp [only])
    (.cons (Form.fits_of "target_addr" OctetText.reads fun _ _ => by simp [only])
    (.cons (Form.fits_of "protocol_id" OctetText.reads fun _ _ => by simp [only])
    (.cons (Form.fits_of "enable_crc" BoolText.reads fun _ _ => by simp [only]) .nil)))
  distinct := by decide
  unknown addressing names name hn := by
    have hm := mem_append_unknown hn names
    simp only [forms, List.map_cons, List.map_nil, List.forall_mem_cons] at hm
    simp only [only, hm]

theorem readByFields : ReadByFields ofText forms only := fits.readByFields

theorem objectText_toJson (addressing : Addressing) :
    ObjectText forms addressing (forms.map Form.name) addressing.toJson.chars :=
  objectText_compact (.cons ⟨rfl, rfl⟩ (.cons ⟨rfl, rfl⟩ (.cons ⟨rfl, rfl⟩
    (.cons ⟨rfl, boolText_compact addressing.checksum⟩ .nil))))

theorem ofText_compact (addressing : Addressing) :
    ofText addressing.toJson.compact = .ok addressing :=
  readByFields.object (padded_compact addressing.objectText_toJson) (by decide)

end Addressing

theorem LinkState.ofText_compact (state : LinkState) : ofText state.toJson.compact = .ok state := by
  have hq : state.toJson.chars = '"' :: (state.name.toList.flatMap escape ++ ['"']) := rfl
  refine readWhole_padded (@padded_compact (· = state.toJson.chars) _ rfl) ?_
  rintro _ rfl
  rw [hq]
  exact reads_choice (stringText_escape state.name) (ofName?_name state)

/-- Texts that are read back are told apart. -/
theorem injective_of_read {α : Type} {toJson : α → Value} {ofText : String → Except Fault α}
    (h : ∀ value, ofText (toJson value).compact = .ok value) :
    Function.Injective fun value => (toJson value).compact := by
  intro a b he
  have hr : ofText (toJson a).compact = ofText (toJson b).compact := congrArg ofText he
  rw [h, h] at hr
  exact Except.ok.inj hr

/-- Every plan, endpoint's settings, addressing, route and state is read back from its compact text, so
no two have the same. -/
theorem settings_read_back :
    (∀ plan : RouterPlan, RouterPlan.ofText plan.toJson.compact = .ok plan) ∧
    (∀ settings : EndpointSettings, EndpointSettings.ofText settings.toJson.compact = .ok settings) ∧
    (∀ addressing : Addressing, Addressing.ofText addressing.toJson.compact = .ok addressing) ∧
    (∀ route : Route, Route.ofText route.toJson.compact = .ok route) ∧
    (∀ state : LinkState, LinkState.ofText state.toJson.compact = .ok state) ∧
    (Function.Injective fun plan : RouterPlan => plan.toJson.compact) ∧
    (Function.Injective fun settings : EndpointSettings => settings.toJson.compact) ∧
    (Function.Injective fun addressing : Addressing => addressing.toJson.compact) ∧
    (Function.Injective fun route : Route => route.toJson.compact) ∧
    Function.Injective fun state : LinkState => state.toJson.compact :=
  ⟨RouterPlan.ofText_compact, EndpointSettings.ofText_compact, Addressing.ofText_compact,
    Route.ofText_compact, LinkState.ofText_compact, injective_of_read RouterPlan.ofText_compact,
    injective_of_read EndpointSettings.ofText_compact, injective_of_read Addressing.ofText_compact,
    injective_of_read Route.ofText_compact, injective_of_read LinkState.ofText_compact⟩

example : (RouterPlan.toJson ⟨1, 3, [⟨2, 0⟩], [0], []⟩).compact =
    "\x7b\"device_addr\":1,\"num_ports\":3," ++
    "\"routes\":[\x7b\"dest_addr\":2,\"output_port\":0\x7d]," ++
    "\"connected_ports\":[0],\"channels\":[]\x7d" := by
  decide

end OnboardLink
