import Mathlib.Data.List.GetD
import Sctl.Json
import Sctl.JournalSeed
import Sctl.Runs
import Sctl.Tables
import Sctl.Utf8

/-!
Who reaches a device (`server/src/auth.rs`, `server/src/ws/mod.rs`, and the checks of
`server/src/tunnel/relay.rs`). Keys are compared byte by byte without an early end. The
relay checks the key of a proxied request against the device that is registered, gives
up its lock, and looks the device up again when it sends the request: another
registration may stand there by then. A client that is let in keeps the queue of the
device that let it in.
-/
namespace Sctl.ApiKeys
open Runs

abbrev Bytes := List UInt8

/-- `as_bytes` of a string. -/
def asBytes (s : String) : Bytes := Utf8.encode s.toList

def constantTimeEq (expected provided : Bytes) : Bool :=
  let diff : UInt8 := if expected.length ≠ provided.length then 1 else 0
  -- the loop runs over the expected key, whatever was provided
  let diff := (List.range expected.length).foldl (fun diff i => diff ||| (expected.getD i 0 ^^^ provided.getD i 0xff)) diff
  diff == 0

structure Response where
  status : Nat
  code : Option String
  message : String
deriving DecidableEq

/-- `HeaderValue::to_str` accepts these bytes. -/
def isVisibleAscii (b : UInt8) : Bool := (32 ≤ b && b < 127) || b == 9

def bearer : Bytes := asBytes "Bearer "

/-- The key in an `Authorization` header. -/
def providedKey (header : Option Bytes) : Option Bytes :=
  match header with
  | some h => if h.all isVisibleAscii && bearer.isPrefixOf h then some (h.drop 7) else none
  | none => none

/-! ### The device -/

/-- `require_api_key`, up to the handler that is next. -/
def requireApiKey (apiKey : Option String) (header : Option Bytes) : Except Response Unit :=
  match apiKey with
  | none => .error ⟨500,some "SERVER_CONFIG_ERROR","Server configuration error"⟩
  | some key =>
    match providedKey header with
    | none => .error ⟨401,some "AUTH_MISSING_TOKEN","Missing or invalid Authorization header"⟩
    | some provided =>
      if !constantTimeEq (asBytes key) provided then .error ⟨403,some "AUTH_INVALID_TOKEN","Invalid API key"⟩ else .ok ()

def wsUpgrade (apiKey token : String) : Except Response Unit :=
  if !constantTimeEq (asBytes apiKey) (asBytes token) then .error ⟨403,none,"Forbidden"⟩ else .ok ()

/-! ### The relay -/

/-- What matters here of a `ConnectedDevice`. -/
structure Device where
  connectionId : Nat
  apiKey : String
deriving DecidableEq

def deviceRegisterWs (tunnelKey token serial : String) : Except Response Unit :=
  if !constantTimeEq (asBytes tunnelKey) (asBytes token) then .error ⟨403,none,"Invalid tunnel key"⟩
  else if !JournalSeed.isValidSerial serial then .error ⟨400,none,"Invalid serial format"⟩
  else .ok ()

/-- The key in the first message of a device; without one there is no registration. -/
def registrationKey (message : Option Json) : Option String :=
  match message with
  | some msg =>
    if msg.str "type" = some "tunnel.register" then
      let apiKey := (msg.str "api_key").getD ""
      if apiKey = "" then none else some apiKey
    else none
  | none => none

def validateDeviceAuth (devices : Table String Device) (serial : String) (header : Option Bytes) : Except Response Device :=
  match devices.lookup serial with
  | none => .error ⟨404,some "DEVICE_NOT_FOUND","Device '" ++ serial ++ "' not connected"⟩
  | some device =>
    match providedKey header with
    | none => .error ⟨401,none,"Missing or invalid Authorization header"⟩
    | some provided =>
      if !constantTimeEq (asBytes device.apiKey) provided then .error ⟨403,none,"Invalid API key"⟩ else .ok device

/-- `proxy_ws`, up to the upgrade; `full` says that the device has as many clients as it may have. -/
def proxyWs (devices : Table String Device) (serial token : String) (full : Bool) : Except Response Device :=
  match devices.lookup serial with
  | none => .error ⟨404,none,"Device not connected"⟩
  | some device =>
    if !constantTimeEq (asBytes device.apiKey) (asBytes token) then .error ⟨403,none,"Invalid API key"⟩
    else if full then .error ⟨429,none,"Too many clients for this device"⟩
    else .ok device

/-- A registration, with the tunnel key that opened its socket. -/
structure Registration where
  token : String
  serial : String
  device : Device

structure Request where
  serial : String
  /-- The key that came with it. -/
  provided : Bytes

structure Client where
  serial : String
  token : String
  /-- The device whose queue the client was given. -/
  device : Device

structure State where
  devices : Table String Device
  nextConnectionId : Nat
  /-- Devices that are about to go into the map. -/
  connecting : List Registration
  /-- Requests that passed the check and are not sent yet. -/
  checked : List Request
  clients : List Client
  /-- All that were about to go into the map so far. -/
  registered : List Registration
  /-- What was put into the queues of devices. -/
  sent : List (Device × Request)
  heard : List (Device × Client)

def start : State := ⟨∅,0,[],[],[],[],[],[]⟩

inductive Action
  | announce (token serial : String) (message : Option Json)
  /-- The n-th of the devices that connect goes into the map. -/
  | insert (n : Nat)
  /-- The device goes out of the map, for whatever reason. -/
  | leave (serial : String)
  | request (serial : String) (header : Option Bytes)
  /-- The n-th request is sent to the device that is registered now, or to none. -/
  | forward (n : Nat)
  | join (serial token : String) (full : Bool)
  /-- The n-th client sends a message. -/
  | speak (n : Nat)

def step (tunnelKey : String) (s : State) : Action → Option State
  | .announce token serial message =>
    match deviceRegisterWs tunnelKey token serial with
    | .error _ => some s
    | .ok () =>
      match registrationKey message with
      | none => some s
      | some apiKey =>
        let registration : Registration := ⟨token,serial,⟨s.nextConnectionId,apiKey⟩⟩
        some { s with
          nextConnectionId := s.nextConnectionId + 1
          connecting := s.connecting ++ [registration]
          registered := s.registered ++ [registration] }
  | .insert n =>
    s.connecting[n]?.map fun r => { s with devices := s.devices.insert r.serial r.device, connecting := s.connecting.eraseIdx n }
  | .leave serial => some { s with devices := s.devices.erase serial }
  | .request serial header =>
    match validateDeviceAuth s.devices serial header with
    | .error _ => some s
    | .ok _ => some { s with checked := s.checked ++ [⟨serial,(providedKey header).getD []⟩] }
  | .forward n =>
    s.checked[n]?.map fun r =>
      let rest := s.checked.eraseIdx n
      match s.devices.lookup r.serial with
      | none => { s with checked := rest }
      | some device => { s with checked := rest, sent := s.sent ++ [(device,r)] }
  | .join serial token full =>
    match proxyWs s.devices serial token full with
    | .error _ => some s
    | .ok device => some { s with clients := s.clients ++ [⟨serial,token,device⟩] }
  | .speak n => s.clients[n]?.map fun c => { s with heard := s.heard ++ [(c.device,c)] }

/-- The device was registered under the serial. -/
def State.Registered (s : State) (serial : String) (device : Device) : Prop :=
  ∃ r ∈ s.registered, r.serial = serial ∧ r.device = device

section
variable {tunnelKey token serial : String} {expected provided : Bytes} {header : Option Bytes} {s t : State}

theorem foldl_or_eq_zero (f : Nat → UInt8) (is : List Nat) (diff : UInt8) :
    is.foldl (fun diff i => diff ||| f i) diff = 0 ↔ diff = 0 ∧ ∀ i ∈ is, f i = 0 := by
  induction is generalizing diff with
  | nil => simp
  | cons i rest ih => simp [ih,and_assoc]

/-- The comparison without an early end is equality. -/
theorem constantTimeEq_iff : constantTimeEq expected provided = true ↔ expected = provided := by
  simp only [constantTimeEq,beq_iff_eq,foldl_or_eq_zero,List.mem_range,UInt8.xor_eq_zero_iff]
  constructor
  · rintro ⟨length,same⟩
    have length : expected.length = provided.length := by
      by_contra other
      rw [if_pos other] at length
      exact absurd length (by decide)
    refine List.ext_getElem length fun i low low' => ?_
    have here := same i low
    rwa [List.getD_eq_getElem _ _ low,List.getD_eq_getElem _ _ low'] at here
  · rintro rfl
    refine ⟨if_neg (by simp),fun i low => ?_⟩
    rw [List.getD_eq_getElem _ _ low,List.getD_eq_getElem _ _ low]

theorem asBytes_injective {first second : String} (same : asBytes first = asBytes second) : first = second := by
  have decoded := congrArg (Utf8.decodeFrom none) same
  rw [asBytes,asBytes,Utf8.decodeFrom_encode,Utf8.decodeFrom_encode] at decoded
  exact String.toList_inj.mp decoded

theorem tokens_iff {first second : String} : constantTimeEq (asBytes first) (asBytes second) = true ↔ first = second := by
  rw [constantTimeEq_iff]
  exact ⟨asBytes_injective,congrArg asBytes⟩

theorem providedKey_iff : providedKey header = some provided ↔
    header = some (bearer ++ provided) ∧ provided.all isVisibleAscii = true := by
  have visible : bearer.all isVisibleAscii = true := by decide
  cases header with
  | none => simp [providedKey]
  | some h =>
    simp only [providedKey,Option.ite_none_right_eq_some,Bool.and_eq_true,List.isPrefixOf_iff_prefix,Option.some.injEq]
    constructor
    · rintro ⟨⟨all,⟨rest,rfl⟩⟩,rfl⟩
      rw [List.all_append,Bool.and_eq_true] at all
      exact ⟨rfl,all.2⟩
    · rintro ⟨rfl,all⟩
      refine ⟨⟨?_,provided,rfl⟩,rfl⟩
      rw [List.all_append,visible,all]
      rfl

/-- The device lets a request in exactly when the header shows its key, and the key can be written in a header. -/
theorem requireApiKey_iff {apiKey : Option String} : requireApiKey apiKey header = .ok () ↔
    ∃ key, apiKey = some key ∧ header = some (asBytes ("Bearer " ++ key)) ∧ (asBytes key).all isVisibleAscii = true := by
  have shown : ∀ key : String, asBytes ("Bearer " ++ key) = bearer ++ asBytes key := by
    intro key
    rw [asBytes,String.toList_append,Utf8.encode_append]
    rfl
  cases apiKey with
  | none => simp [requireApiKey]
  | some key =>
    simp only [requireApiKey,Option.some.injEq,exists_eq_left',shown]
    cases found : providedKey header with
    | none =>
      simp only [reduceCtorEq,false_iff]
      intro written
      cases found.symm.trans (providedKey_iff.mpr written)
    | some provided =>
      dsimp only
      by_cases same : constantTimeEq (asBytes key) provided = true
      · rw [same]
        obtain rfl := constantTimeEq_iff.mp same
        simpa using providedKey_iff.mp found
      · rw [Bool.not_eq_true] at same
        rw [same]
        simp only [Bool.not_false,if_true,reduceCtorEq,false_iff]
        intro written
        cases found.symm.trans (providedKey_iff.mpr written)
        rw [constantTimeEq_iff.mpr rfl] at same
        cases same

theorem wsUpgrade_iff {apiKey : String} : wsUpgrade apiKey token = .ok () ↔ token = apiKey := by
  simp only [wsUpgrade,ite_eq_right_iff,reduceCtorEq,imp_false,Bool.not_eq_true',Bool.not_eq_false,tokens_iff]
  exact eq_comm

/-- Over HTTP and over WebSocket, exactly the key opens the device. -/
theorem device_opens_iff (apiKey token : String) (header : Option Bytes) :
    (requireApiKey (some apiKey) header = .ok () ↔
      header = some (asBytes ("Bearer " ++ apiKey)) ∧ (asBytes apiKey).all isVisibleAscii = true) ∧
    (wsUpgrade apiKey token = .ok () ↔ token = apiKey) := by
  refine ⟨?_,wsUpgrade_iff⟩
  rw [requireApiKey_iff]
  simp

theorem validateDeviceAuth_ok {devices : Table String Device} {device : Device}
    (valid : validateDeviceAuth devices serial header = .ok device) :
    devices.lookup serial = some device ∧ providedKey header = some (asBytes device.apiKey) := by
  unfold validateDeviceAuth at valid
  cases found : devices.lookup serial with
  | none => rw [found] at valid; cases valid
  | some d =>
    rw [found] at valid
    dsimp only at valid
    cases key : providedKey header with
    | none => rw [key] at valid; cases valid
    | some provided =>
      rw [key] at valid
      dsimp only at valid
      split at valid
      · cases valid
      next same =>
        cases valid
        have equal : asBytes device.apiKey = provided := constantTimeEq_iff.mp (by simpa using same)
        exact ⟨rfl,by rw [equal]⟩

theorem proxyWs_ok {devices : Table String Device} {full : Bool} {device : Device}
    (valid : proxyWs devices serial token full = .ok device) : devices.lookup serial = some device ∧ token = device.apiKey := by
  unfold proxyWs at valid
  cases found : devices.lookup serial with
  | none => rw [found] at valid; cases valid
  | some d =>
    rw [found] at valid
    dsimp only at valid
    split_ifs at valid with other
    cases valid
    exact ⟨rfl,(tokens_iff.mp (by simpa using other)).symm⟩

theorem deviceRegisterWs_ok (valid : deviceRegisterWs tunnelKey token serial = .ok ()) :
    token = tunnelKey ∧ JournalSeed.isValidSerial serial = true := by
  unfold deviceRegisterWs at valid
  split_ifs at valid with other invalid
  exact ⟨(tokens_iff.mp (by simpa using other)).symm,by simpa using invalid⟩

theorem registrationKey_some {message : Option Json} {apiKey : String} (registers : registrationKey message = some apiKey) :
    apiKey ≠ "" := by
  unfold registrationKey at registers
  cases message with
  | none => cases registers
  | some msg =>
    dsimp only at registers
    split_ifs at registers with type empty
    cases registers
    exact empty

/-! ### What every run keeps -/

/-- What was registered stays registered. -/
theorem Registered.mono {device : Device} (more : ∀ r ∈ s.registered, r ∈ t.registered) (here : s.Registered serial device) :
    t.Registered serial device := by
  obtain ⟨r,member,same⟩ := here
  exact ⟨r,more r member,same⟩

structure Sound (tunnelKey : String) (s : State) : Prop where
  registered : ∀ r ∈ s.registered, r.token = tunnelKey ∧ JournalSeed.isValidSerial r.serial = true ∧ r.device.apiKey ≠ ""
  connecting : ∀ r ∈ s.connecting, r ∈ s.registered
  devices : ∀ serial device, s.devices.lookup serial = some device → s.Registered serial device
  checked : ∀ r ∈ s.checked, ∃ device, s.Registered r.serial device ∧ r.provided = asBytes device.apiKey
  sent : ∀ sent ∈ s.sent, s.Registered sent.2.serial sent.1 ∧
    ∃ device, s.Registered sent.2.serial device ∧ sent.2.provided = asBytes device.apiKey
  clients : ∀ c ∈ s.clients, s.Registered c.serial c.device ∧ c.token = c.device.apiKey
  heard : ∀ heard ∈ s.heard, s.Registered heard.2.serial heard.1 ∧ heard.2.token = heard.1.apiKey

theorem step_sound (s : State) (a : Action) (t : State) (sound : Sound tunnelKey s) (stepped : step tunnelKey s a = some t) :
    Sound tunnelKey t := by
  cases a with
  | announce token serial message =>
    simp only [step] at stepped
    cases opened : deviceRegisterWs tunnelKey token serial with
    | error e => rw [opened] at stepped; cases stepped; exact sound
    | ok _ =>
      rw [opened] at stepped
      dsimp only at stepped
      cases key : registrationKey message with
      | none => rw [key] at stepped; cases stepped; exact sound
      | some apiKey =>
        rw [key] at stepped
        cases stepped
        obtain ⟨token_,valid⟩ := deviceRegisterWs_ok opened
        have more : ∀ r ∈ s.registered, r ∈ s.registered ++ [⟨token,serial,⟨s.nextConnectionId,apiKey⟩⟩] :=
          fun r member => List.mem_append_left _ member
        refine ⟨?_,?_,?_,?_,?_,?_,?_⟩
        · exact List.forall_mem_append.mpr ⟨sound.registered,List.forall_mem_singleton.mpr ⟨token_,valid,registrationKey_some key⟩⟩
        · refine List.forall_mem_append.mpr ⟨fun r member => more r (sound.connecting r member),List.forall_mem_singleton.mpr ?_⟩
          exact List.mem_append_right _ (List.mem_singleton.mpr rfl)
        · exact fun serial device found => Registered.mono more (sound.devices serial device found)
        · intro r member
          obtain ⟨device,here,same⟩ := sound.checked r member
          exact ⟨device,Registered.mono more here,same⟩
        · intro sent member
          obtain ⟨here,device,there,same⟩ := sound.sent sent member
          exact ⟨Registered.mono more here,device,Registered.mono more there,same⟩
        · exact fun c member => ⟨Registered.mono more (sound.clients c member).1,(sound.clients c member).2⟩
        · exact fun heard member => ⟨Registered.mono more (sound.heard heard member).1,(sound.heard heard member).2⟩
  | insert n =>
    simp only [step,Option.map_eq_some_iff] at stepped
    obtain ⟨r,found,rfl⟩ := stepped
    refine { sound with connecting := fun r member => sound.connecting r (List.mem_of_mem_eraseIdx member), devices := ?_ }
    intro serial device there
    rw [Table.lookup_insert_eq] at there
    by_cases same : serial = r.serial
    · subst same
      rw [if_pos rfl] at there
      cases there
      exact ⟨r,sound.connecting r (List.mem_of_getElem? found),rfl,rfl⟩
    · rw [if_neg same] at there
      exact sound.devices serial device there
  | leave serial =>
    cases stepped
    refine { sound with devices := ?_ }
    intro other device there
    rw [Table.lookup_erase_eq] at there
    by_cases same : other = serial
    · rw [if_pos same] at there
      cases there
    · rw [if_neg same] at there
      exact sound.devices other device there
  | request serial header =>
    simp only [step] at stepped
    cases valid : validateDeviceAuth s.devices serial header with
    | error e => rw [valid] at stepped; cases stepped; exact sound
    | ok device =>
      rw [valid] at stepped
      cases stepped
      obtain ⟨found,key⟩ := validateDeviceAuth_ok valid
      refine { sound with checked := List.forall_mem_append.mpr ⟨sound.checked,List.forall_mem_singleton.mpr ?_⟩ }
      exact ⟨device,sound.devices serial device found,by rw [key]; rfl⟩
  | forward n =>
    simp only [step,Option.map_eq_some_iff] at stepped
    obtain ⟨r,there,rfl⟩ := stepped
    cases found : s.devices.lookup r.serial with
    | none => exact { sound with checked := fun r member => sound.checked r (List.mem_of_mem_eraseIdx member) }
    | some device =>
      refine { sound with checked := fun r member => sound.checked r (List.mem_of_mem_eraseIdx member), sent := ?_ }
      refine List.forall_mem_append.mpr ⟨sound.sent,List.forall_mem_singleton.mpr ?_⟩
      exact ⟨sound.devices r.serial device found,sound.checked r (List.mem_of_getElem? there)⟩
  | join serial token full =>
    simp only [step] at stepped
    cases valid : proxyWs s.devices serial token full with
    | error e => rw [valid] at stepped; cases stepped; exact sound
    | ok device =>
      rw [valid] at stepped
      cases stepped
      obtain ⟨found,key⟩ := proxyWs_ok valid
      refine { sound with clients := List.forall_mem_append.mpr ⟨sound.clients,List.forall_mem_singleton.mpr ?_⟩ }
      exact ⟨sound.devices serial device found,key⟩
  | speak n =>
    simp only [step,Option.map_eq_some_iff] at stepped
    obtain ⟨c,there,rfl⟩ := stepped
    refine { sound with heard := List.forall_mem_append.mpr ⟨sound.heard,List.forall_mem_singleton.mpr ?_⟩ }
    exact sound.clients c (List.mem_of_getElem? there)

theorem start_sound (tunnelKey : String) : Sound tunnelKey start :=
  ⟨nofun,nofun,nofun,nofun,nofun,nofun,nofun⟩

end
end Sctl.ApiKeys
