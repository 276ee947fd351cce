import Sctl.RelayClients
import Sctl.RelayRouting

/-!
What clients send to the relay. A proxied request writes its type and a request id
into the body that it was sent; a client's text frame gets its tagged request id
the same way. Both are assignments to fields of a JSON value that the client chose.
A panic ends the handler where it stands, before its cleanup (and the whole relay
where it is built to abort).
-/
namespace Sctl.RelayInput
open Sctl.Runs Sctl.RelayRouting
open Sctl.RelaySubscriptions (ClientMsg Subscriptions members)

/-! ### Proxied requests -/

/-- What `to_bytes` and `from_slice` make of a body. -/
inductive Body
  | unreadable
  | notJson
  | json (v : Json)

structure Request where
  serial : String
  authorization : Option String
  /-- The header `x-sctl-client`. -/
  sctlClient : Option String
  body : Body
  /-- The UUID that is drawn for it. -/
  requestId : String

inductive Outcome
  | error (status : Nat) (error : String) (code : Option String)
  /-- Sent to the device, with the time to wait for the answer. -/
  | forward (msg : Json) (timeoutSecs : Nat)
  | panics

structure Relay where
  devices : Table String RelayRegistry.Device
  tunnelProxyTimeoutSecs : Nat

def bearer : List Char := "Bearer ".toList

/-- What is wrong with the request's key, if anything. -/
def validateDeviceAuth (relay : Relay) (serial : String) (authorization : Option String) : Option Outcome :=
  match relay.devices.lookup serial with
  | none => some (.error 404 ("Device '" ++ serial ++ "' not connected") (some "DEVICE_NOT_FOUND"))
  | some device =>
    match authorization with
    | some header =>
      if bearer.isPrefixOf header.toList then
        if device.apiKey = String.ofList (header.toList.drop bearer.length) then none
        else some (.error 403 "Invalid API key" none)
      else some (.error 401 "Missing or invalid Authorization header" none)
    | none => some (.error 401 "Missing or invalid Authorization header" none)

/-- One assignment after another. -/
def assign (msg : Json) (fields : List (String × Json)) : Option Json := fields.foldlM (fun msg e => msg.set e.1 e.2) msg

/-- The body is read, then the key is checked, then the fields are written. -/
def proxied (relay : Relay) (request : Request) (fields : List (String × Json)) (timeoutSecs : Json → Nat) : Outcome :=
  match request.body with
  | .unreadable => .error 400 "Failed to read request body" none
  | .notJson => .error 400 "Invalid JSON" none
  | .json payload =>
    match validateDeviceAuth relay request.serial request.authorization with
    | some refused => refused
    | none =>
      match assign payload fields with
      | some msg => .forward msg (timeoutSecs payload)
      | none => .panics

def typed (request : Request) (type : String) : List (String × Json) :=
  [("type",.string type),("request_id",.string request.requestId)]

def source (request : Request) : List (String × Json) :=
  (request.sctlClient.map fun client => ("_source",Json.string client)).toList

/-- `as_u64` of a number as it was written. -/
def asU64 : Json → Option Nat
  | .number text =>
    if text.toList ≠ [] ∧ text.toList.all Char.isDigit then
      let n := text.toList.foldl (fun n c => 10 * n + (c.toNat - '0'.toNat)) 0
      if n < 2 ^ 64 then some n else none
    else none
  | _ => none

def proxyExec (relay : Relay) (request : Request) : Outcome :=
  proxied relay request (typed request "tunnel.exec" ++ source request) fun payload =>
    ((asU64 (payload.index "timeout_ms")).map fun ms => ms / 1000 + 5).getD relay.tunnelProxyTimeoutSecs

/-- The sum wraps as the release build's does. -/
def proxyExecBatch (relay : Relay) (request : Request) : Outcome :=
  proxied relay request (typed request "tunnel.exec_batch" ++ source request) fun payload =>
    match payload.index "commands" with
    | .array cmds =>
      let totalMs := cmds.foldl (fun total c => (total + (asU64 (c.index "timeout_ms")).getD 30000) % 2 ^ 64) 0
      (totalMs / 1000 + 5 * cmds.length) % 2 ^ 64
    | _ => relay.tunnelProxyTimeoutSecs

def proxyFileWrite (relay : Relay) (request : Request) : Outcome :=
  proxied relay request (typed request "tunnel.file.write" ++ source request) fun _ => relay.tunnelProxyTimeoutSecs

def proxySessionPatch (relay : Relay) (request : Request) (id : String) : Outcome :=
  proxied relay request (typed request "tunnel.session.patch" ++ [("session_id",.string id)]) fun _ =>
    relay.tunnelProxyTimeoutSecs

def proxyLteBands (relay : Relay) (request : Request) : Outcome :=
  proxied relay request (typed request "tunnel.lte.bands") fun _ => 45

def proxyLteScan (relay : Relay) (request : Request) : Outcome :=
  proxied relay request (typed request "tunnel.lte.scan") fun _ => relay.tunnelProxyTimeoutSecs

def proxyInfraDiscover (relay : Relay) (request : Request) : Outcome :=
  proxied relay request (typed request "tunnel.infra.discover") fun _ => 120

def proxyInfraConfigPush (relay : Relay) (request : Request) : Outcome :=
  proxied relay request (typed request "tunnel.infra.config") fun _ => relay.tunnelProxyTimeoutSecs

def proxyStpUploadInit (relay : Relay) (request : Request) : Outcome :=
  proxied relay request (typed request "gx.upload.init") fun _ => 30

/-- The requests that write their type and id into the body. -/
inductive Endpoint
  | exec
  | execBatch
  | fileWrite
  | sessionPatch (id : String)
  | lteBands
  | lteScan
  | infraDiscover
  | infraConfigPush
  | stpUploadInit

def proxy (relay : Relay) (request : Request) : Endpoint → Outcome
  | .exec => proxyExec relay request
  | .execBatch => proxyExecBatch relay request
  | .fileWrite => proxyFileWrite relay request
  | .sessionPatch id => proxySessionPatch relay request id
  | .lteBands => proxyLteBands relay request
  | .lteScan => proxyLteScan relay request
  | .infraDiscover => proxyInfraDiscover relay request
  | .infraConfigPush => proxyInfraConfigPush relay request
  | .stpUploadInit => proxyStpUploadInit relay request

/-! ### A client's frames -/

structure State where
  relay : RelaySubscriptions.State
  /-- Clients whose handler has panicked. -/
  panicked : List String

def start : State := ⟨RelaySubscriptions.start,[]⟩

inductive Action
  /-- A text frame that is read; `none` when it is not JSON. -/
  | text (client : String) (v : Option Json)
  /-- Any other step of the relay's clients. -/
  | relay (a : RelaySubscriptions.Action)

/-- What the message does to the subscriptions; that it starts a session matters to the device's answer. -/
def classify (v : Json) : ClientMsg :=
  match typeOf v,v.str "session_id" with
  | "session.attach",some id => .attach id
  | "session.kill",some id => .kill id
  | "session.start",_ => .start
  | "job.start",_ => .start
  | _,_ => .other

def isReceive : RelaySubscriptions.Action → Bool
  | .receive _ _ => true
  | _ => false

def step (s : State) : Action → Option State
  | .text client v =>
    if client ∈ s.panicked ∨ s.relay.handlers.lookup client ≠ some .reading then none
    else
      match v with
      | none => some s
      | some v =>
        match tagRequest client v with
        | some msg => (RelaySubscriptions.step s.relay (.receive client (classify msg))).map fun r => { s with relay := r }
        | none => some { s with panicked := client :: s.panicked }
  | .relay a =>
    if isReceive a ∨ (RelayClients.clientOf a).any (· ∈ s.panicked) then none
    else (RelaySubscriptions.step s.relay a).map fun r => { s with relay := r }

/-! ### Safety -/

/-- The handler has taken its client out of the subscriptions. -/
def left : RelaySubscriptions.Pc → Bool
  | .detaching _ => true
  | .sending _ _ => true
  | .gone => true
  | _ => false

/-- No handler has panicked, and a client whose handler has cleaned up is neither
    in `clients` nor in `session_subscriptions`. -/
structure Safe (s : State) : Prop where
  calm : s.panicked = []
  removed : ∀ client pc, s.relay.handlers.lookup client = some pc → left pc = true →
    client ∉ s.relay.clients ∧ ∀ id, client ∉ members s.relay.subs id

def takesFields : Json → Bool
  | .object _ => true
  | .null => true
  | _ => false

/-- The request is refused before anything is written, or its body takes fields. -/
def harmless (relay : Relay) (request : Request) : Bool :=
  match request.body with
  | .json v => takesFields v || (validateDeviceAuth relay request.serial request.authorization).isSome
  | _ => true

/-- A frame takes fields, and no `session.started` answers a client whose handler has cleaned up. -/
def harmlessStep (s : State) : Action → Bool
  | .text _ v => v.all takesFields
  | .relay (.started client _) => (s.relay.handlers.lookup client).all fun pc => !left pc
  | _ => true

/-! ### Assignments -/

theorem set_eq_none (v : Json) (key : String) (w : Json) : v.set key w = none ↔ takesFields v = false := by
  cases v <;> simp [Json.set,takesFields]

theorem takesFields_set {v v' w : Json} {key : String} (written : v.set key w = some v') : takesFields v' = true := by
  cases v with
  | object fields => cases written; rfl
  | null => cases written; rfl
  | bool => cases written
  | number => cases written
  | string => cases written
  | array => cases written

theorem assign_isSome {fields : List (String × Json)} {v : Json} (takes : takesFields v = true) :
    ∃ msg, assign v fields = some msg := by
  induction fields generalizing v with
  | nil => exact ⟨v,rfl⟩
  | cons e rest ih =>
    cases written : v.set e.1 e.2 with
    | none =>
      rw [(set_eq_none v e.1 e.2).mp written] at takes
      cases takes
    | some v' =>
      obtain ⟨msg,assigned⟩ := ih (takesFields_set written)
      refine ⟨msg,?_⟩
      rw [assign,List.foldlM_cons,written]
      exact assigned

/-- The first assignment decides. -/
theorem assign_eq_none {e : String × Json} {rest : List (String × Json)} {v : Json} :
    assign v (e :: rest) = none ↔ takesFields v = false := by
  constructor
  · intro fails
    by_contra takes
    obtain ⟨msg,assigned⟩ := @assign_isSome (e :: rest) v (by simpa using takes)
    cases fails.symm.trans assigned
  · intro refuses
    rw [assign,List.foldlM_cons,(set_eq_none v e.1 e.2).mpr refuses]
    rfl

theorem validateDeviceAuth_error {relay : Relay} {serial : String} {authorization : Option String} {refused : Outcome}
    (found : validateDeviceAuth relay serial authorization = some refused) : refused ≠ .panics := by
  unfold validateDeviceAuth at found
  rintro rfl
  split at found
  · cases found
  · split at found
    · split_ifs at found <;> cases found
    · cases found

theorem proxied_panics_iff {relay : Relay} {request : Request} {e : String × Json} {rest : List (String × Json)}
    {timeoutSecs : Json → Nat} :
    proxied relay request (e :: rest) timeoutSecs ≠ .panics ↔ harmless relay request = true := by
  unfold proxied harmless
  cases request.body with
  | unreadable => simp
  | notJson => simp
  | json v =>
    cases refused : validateDeviceAuth relay request.serial request.authorization with
    | some outcome => simpa using validateDeviceAuth_error refused
    | none =>
      by_cases takes : takesFields v = true
      · obtain ⟨msg,assigned⟩ := @assign_isSome (e :: rest) v takes
        simp [assigned,takes]
      · have fails : assign v (e :: rest) = none := assign_eq_none.mpr (by simpa using takes)
        simp [fails,takes]

/-- Whichever of the requests it is. -/
theorem proxy_panics_iff (relay : Relay) (request : Request) (endpoint : Endpoint) :
    proxy relay request endpoint ≠ .panics ↔ harmless relay request = true := by
  cases endpoint <;> exact proxied_panics_iff

/-! ### One step -/

theorem members_erase_sub {subs : Subscriptions} {id id' client : String} (member : client ∈ members (subs.erase id) id') :
    client ∈ members subs id' := by
  rw [members,Table.lookup_erase_eq] at member
  split_ifs at member
  · cases member
  · exact member

theorem not_listed_of_left {pc : RelaySubscriptions.Pc} (gone : left pc = true) : pc.listed = false := by
  cases pc with
  | detaching => rfl
  | sending => rfl
  | gone => rfl
  | _ => cases gone

theorem delisted {r : RelaySubscriptions.State} (listed : RelaySubscriptions.Listed r) {client : String}
    {pc : RelaySubscriptions.Pc} (found : r.handlers.lookup client = some pc) (gone : left pc = true) :
    client ∉ r.clients := by
  intro member
  obtain ⟨pc',found',on⟩ := (listed client).mp member
  cases found.symm.trans found'
  rw [not_listed_of_left gone] at on
  cases on

/-- A client whose handler has cleaned up subscribes to nothing. -/
def Cleared (r : RelaySubscriptions.State) : Prop :=
  ∀ client pc, r.handlers.lookup client = some pc → left pc = true → ∀ id, client ∉ members r.subs id

/-- One handler moves on and may subscribe its own client. -/
theorem cleared_setPc {r t : RelaySubscriptions.State} {client : String} {pc : RelaySubscriptions.Pc} (cleared : Cleared r)
    (handlers : t.handlers = r.handlers.insert client pc)
    (own : ∀ id other, other ∈ members t.subs id → other ∈ members r.subs id ∨ other = client)
    (here : left pc = true → ∀ id, client ∉ members t.subs id) : Cleared t := by
  intro other pc' found gone id member
  rw [handlers,Table.lookup_insert_eq] at found
  split_ifs at found with same
  · cases found
    subst same
    exact here gone id member
  · rcases own id other member with before | mine
    · exact cleared other pc' found gone id before
    · exact same mine

theorem cleared_step {r t : RelaySubscriptions.State} {a : RelaySubscriptions.Action} (cleared : Cleared r)
    (stepped : RelaySubscriptions.step r a = some t) (other : ∀ client id, a ≠ .started client id) : Cleared t := by
  have busy : ∀ {pc : RelaySubscriptions.Pc} {client : String}, left pc = false →
      ∀ subs : Subscriptions, left pc = true → ∀ id, client ∉ members subs id := by
    intro pc client on _ gone
    rw [on] at gone
    cases gone
  cases RelaySubscriptions.step_move stepped with
  | connect => exact cleared_setPc cleared rfl (fun id other member => .inl member) (busy rfl _)
  | receive => exact cleared_setPc cleared rfl (fun id other => RelaySubscriptions.mem_track) (busy rfl _)
  | forward => exact cleared_setPc cleared rfl (fun id other member => .inl member) (busy rfl _)
  | forwardFails => exact cleared_setPc cleared rfl (fun id other member => .inl member) (busy rfl _)
  | disconnect => exact cleared_setPc cleared rfl (fun id other member => .inl member) (busy rfl _)
  | unlist => exact cleared_setPc cleared rfl (fun id other member => .inl member) (busy rfl _)
  | @leave client found =>
    refine cleared_setPc cleared rfl ?_ ?_
    · intro id other member
      change other ∈ members (RelaySubscriptions.dropClient r.subs client) id at member
      rw [RelaySubscriptions.members_dropClient] at member
      exact .inl (RelaySubscriptions.mem_without.mp member).1
    · intro _ id member
      change client ∈ members (RelaySubscriptions.dropClient r.subs client) id at member
      rw [RelaySubscriptions.members_dropClient] at member
      exact (RelaySubscriptions.mem_without.mp member).2 rfl
  | @checkEmpty client id sessions found =>
    exact cleared_setPc cleared rfl (fun id other member => .inl member) fun _ => cleared client _ found rfl
  | @checkWatched client id sessions found =>
    exact cleared_setPc cleared rfl (fun id other member => .inl member) fun _ => cleared client _ found rfl
  | @sendDetach client id sessions found =>
    exact cleared_setPc cleared rfl (fun id other member => .inl member) fun _ => cleared client _ found rfl
  | @detachLost client id sessions found =>
    exact cleared_setPc cleared rfl (fun id other member => .inl member) fun _ => cleared client _ found rfl
  | @finish client found =>
    exact cleared_setPc cleared rfl (fun id other member => .inl member) fun _ => cleared client _ found rfl
  | take => exact cleared
  | @started client id => exact absurd rfl (other client id)
  | closed =>
    intro client pc found gone id member
    exact cleared client pc found gone id (members_erase_sub member)

/-- A `session.started` brings back a client whose handler has cleaned up. -/
theorem cleared_started {r t : RelaySubscriptions.State} {client id : String} (cleared : Cleared r)
    (stepped : RelaySubscriptions.step r (.started client id) = some t) :
    Cleared t ↔ (r.handlers.lookup client).all (fun pc => !left pc) = true := by
  cases RelaySubscriptions.step_move stepped with
  | started asked =>
    constructor
    · intro after
      cases found : r.handlers.lookup client with
      | none => rfl
      | some pc =>
        by_contra gone
        simp only [Option.all_some,Bool.not_eq_true',Bool.not_eq_false] at gone
        exact after client pc found gone id (RelaySubscriptions.mem_subscribe.mpr (.inr ⟨rfl,rfl⟩))
    · intro on other pc found gone id' member
      rcases RelaySubscriptions.mem_subscribe.mp member with before | ⟨-,rfl⟩
      · exact cleared other pc found gone id' before
      · rw [show r.handlers.lookup other = some pc from found] at on
        simp [gone] at on

theorem safe_iff {s : State} (listed : RelaySubscriptions.Listed s.relay) :
    Safe s ↔ s.panicked = [] ∧ Cleared s.relay := by
  constructor
  · intro safe
    exact ⟨safe.calm,fun client pc found gone => (safe.removed client pc found gone).2⟩
  · rintro ⟨calm,cleared⟩
    exact ⟨calm,fun client pc found gone => ⟨delisted listed found gone,cleared client pc found gone⟩⟩

theorem listed_text {s t : State} {a : Action} (listed : RelaySubscriptions.Listed s.relay) (stepped : step s a = some t) :
    RelaySubscriptions.Listed t.relay := by
  cases a with
  | text client v =>
    simp only [step] at stepped
    split_ifs at stepped
    cases v with
    | none => cases stepped; exact listed
    | some v =>
      dsimp only at stepped
      split at stepped
      · obtain ⟨r,moved,rfl⟩ := Option.map_eq_some_iff.mp stepped
        exact RelaySubscriptions.listed_step listed moved
      · cases stepped; exact listed
  | relay a =>
    simp only [step] at stepped
    split_ifs at stepped
    obtain ⟨r,moved,rfl⟩ := Option.map_eq_some_iff.mp stepped
    exact RelaySubscriptions.listed_step listed moved

theorem tagRequest_eq_none (client : String) (v : Json) : tagRequest client v = none ↔ takesFields v = false :=
  set_eq_none v _ _

theorem safe_step {s t : State} {a : Action} (listed : RelaySubscriptions.Listed s.relay) (safe : Safe s)
    (stepped : step s a = some t) : Safe t ↔ harmlessStep s a = true := by
  obtain ⟨calm,cleared⟩ := (safe_iff listed).mp safe
  rw [safe_iff (listed_text listed stepped)]
  cases a with
  | text client v =>
    simp only [step] at stepped
    split_ifs at stepped
    cases v with
    | none =>
      cases stepped
      exact iff_of_true ⟨calm,cleared⟩ rfl
    | some v =>
      dsimp only at stepped
      split at stepped
      case h_1 msg tagged =>
        obtain ⟨r,moved,rfl⟩ := Option.map_eq_some_iff.mp stepped
        have takes : takesFields v = true := by
          by_contra refuses
          cases tagged.symm.trans ((tagRequest_eq_none client v).mpr (by simpa using refuses))
        exact iff_of_true ⟨calm,cleared_step cleared moved fun _ _ => (by intro same; cases same)⟩ takes
      case h_2 panics =>
        cases stepped
        refine iff_of_false (fun both => ?_) ?_
        · cases both.1
        · rw [harmlessStep,Option.all_some,(tagRequest_eq_none client v).mp panics]
          exact Bool.false_ne_true
  | relay a =>
    simp only [step] at stepped
    split_ifs at stepped
    obtain ⟨r,moved,rfl⟩ := Option.map_eq_some_iff.mp stepped
    cases a with
    | started client id =>
      rw [and_iff_right (show ({ s with relay := r } : State).panicked = [] from calm)]
      exact cleared_started cleared moved
    | _ => exact iff_of_true ⟨calm,cleared_step cleared moved fun _ _ => (by intro same; cases same)⟩ rfl

/-! ### Every input -/

theorem safe_start : Safe start := by
  refine ⟨rfl,?_⟩
  intro client pc found
  cases found

/-- A proxied request panics exactly when it is authorised and its body is neither
    an object nor `null`; no handler of a client panics and each takes its client
    out of both maps exactly when every frame is an object or `null` and no
    `session.started` answers a client that has been taken out. -/
theorem client_input_safe_iff (relay : Relay) (request : Request) (endpoint : Endpoint) (as : List Action) :
    (proxy relay request endpoint ≠ .panics ↔ harmless relay request = true) ∧
    (Always step Safe start as ↔ Along step (fun s a => harmlessStep s a = true) start as) := by
  refine ⟨proxy_panics_iff relay request endpoint,?_⟩
  exact always_iff_along (fun s a t listed stepped => listed_text listed stepped)
    (fun s a t listed safe stepped => safe_step listed safe stepped) RelaySubscriptions.listed_start safe_start

/-- One device with the key `key`. -/
def relay : Relay := ⟨(∅ : Table String RelayRegistry.Device).insert "d" ⟨1,"key",0,0,0⟩,60⟩

def posted (v : Json) : Request := ⟨"d",some "Bearer key",none,.json v,"r"⟩

/-- A JSON array as the body of an exec, and a JSON string as a client's frame,
    after which the client stays in the map for good. -/
theorem client_input_panics :
    proxy relay (posted (.array [])) .exec = .panics ∧
    (run step start [.relay (.connect "c"),.text "c" (some (.string "hi"))]).map
      (fun s => (s.panicked,s.relay.clients)) = some (["c"],["c"]) ∧
    ∀ s, run step start [.relay (.connect "c"),.text "c" (some (.string "hi"))] = some s →
      ∀ a t, RelayClients.clientOf a = some "c" → step s (.relay a) ≠ some t := by
  refine ⟨rfl,by decide +kernel,?_⟩
  intro s ran a t mine stepped
  have panicked : s.panicked = ["c"] := by cases ran; rfl
  simp [step,mine,panicked] at stepped

end Sctl.RelayInput
