import Mathlib.Data.List.DropRight
import Sctl.Runs
import Sctl.Tables

/-!
The devices of the MCP server (`mcp/src/devices.rs`) and the session tools that
use them. The registry holds a client for each configured device, a pool of
WebSocket connections by device name and the device name of each session. Before
a device is looked up the configuration is loaded again if its file has another
modification time; connections of devices that are gone or have another URL are
dropped then, and the table of sessions stays as it is. Tool calls come one
after another.
-/
namespace Sctl.DeviceRegistry
open Sctl.Runs

/-! ### The configuration file -/

structure DeviceEntry where
  url : String
  apiKey : String
deriving DecidableEq

structure DevicesConfig where
  devices : Table String DeviceEntry
  defaultDevice : Option String

structure ResolvedConfig where
  devices : Table String DeviceEntry
  defaultDevice : String

/-- The first entry with an empty field. -/
def entryError : List (Σ _ : String, DeviceEntry) → Option String
  | [] => none
  | e :: rest =>
    if e.2.url = "" then some ("Device '" ++ e.1 ++ "' has empty url")
    else if e.2.apiKey = "" then some ("Device '" ++ e.1 ++ "' has empty api_key")
    else entryError rest

/-- `load_from_file`, after the file is parsed. -/
def loadFromFile (config : DevicesConfig) : Except String ResolvedConfig :=
  if config.devices.entries = [] then .error "Config file contains no devices"
  else match entryError config.devices.entries with
    | some error => .error error
    | none =>
      match config.defaultDevice with
      | some d =>
        if (config.devices.lookup d).isSome then .ok ⟨config.devices,d⟩
        else .error ("default_device '" ++ d ++ "' not found in devices")
      | none =>
        match config.devices.keys with
        | [d] => .ok ⟨config.devices,d⟩
        | _ => .error "Multiple devices configured but no default_device specified"

/-- A file that loads. -/
structure ConfigFile where
  parsed : DevicesConfig
  resolved : ResolvedConfig
  loads : loadFromFile parsed = .ok resolved

/-! ### Clients and connections -/

structure SctlClient where
  baseUrl : String
  apiKey : String
deriving DecidableEq

/-- `SctlClient::new` strips the slashes at the end of the URL. -/
def SctlClient.new (entry : DeviceEntry) : SctlClient :=
  ⟨String.ofList (entry.url.toList.rdropWhile (· = '/')),entry.apiKey⟩

def buildClients (devices : Table String DeviceEntry) : Table String SctlClient := Table.mapValues SctlClient.new devices

/-- A connection with what it was opened with; it reconnects with the same. -/
structure Connection where
  opened : SctlClient
  connected : Bool
deriving DecidableEq

/-- `WsPool::get_or_connect`; `connect` is the new connection, if it can be made. -/
def getOrConnect {Conn : Type} (isConnected : Conn → Bool) (connections : Table String Conn) (name : String)
    (connect : Option Conn) : Table String Conn × Option Conn :=
  match connections.lookup name with
  | some conn =>
    if isConnected conn then (connections,some conn)
    else match connect with
      | some new => ((connections.erase name).insert name new,some new)
      | none => (connections.erase name,none)
  | none =>
    match connect with
    | some new => (connections.insert name new,some new)
    | none => (connections,none)

/-- What `get_ws_connection` returned, and what the file gave for the device then. -/
structure Returned where
  connection : Connection
  configured : Option SctlClient
deriving DecidableEq

/-- Where a call for a session was sent. -/
structure Sent where
  session : String
  url : String
deriving DecidableEq

structure State where
  file : ConfigFile
  mtime : Nat
  clients : Table String SctlClient
  defaultDevice : String
  connections : Table String Connection
  sessionDevices : Table String String
  lastMtime : Option Nat
  /-- The URL that each session was started on. -/
  startedOn : Table String String
  returned : List Returned
  /-- Calls that name no device, each with the URL its session was started on. -/
  sent : List (Sent × String)

/-- `from_config_file`. -/
def start (file : ConfigFile) (mtime : Nat) : State :=
  ⟨file,mtime,buildClients file.resolved.devices,file.resolved.defaultDevice,∅,∅,some mtime,∅,[],[]⟩

/-- The device of the name is gone or has another URL. -/
def moved (old new : Table String SctlClient) (name : String) : Bool :=
  (old.lookup name).any fun before => (new.lookup name).all fun after => after.baseUrl ≠ before.baseUrl

def maybeReload (s : State) : State :=
  if s.lastMtime = some s.mtime then s
  else match loadFromFile s.file.parsed with
    | .error _ => s
    | .ok config =>
      let clients := buildClients config.devices
      { s with
        clients
        defaultDevice := config.defaultDevice
        connections := Table.keep (fun name _ => !moved s.clients clients name) s.connections
        lastMtime := some s.mtime }

def registerSession (s : State) (session device : String) : State :=
  { s with sessionDevices := s.sessionDevices.insert session device }

/-- The device a call is for: the one it names, or that of its session. -/
def deviceOf (s : State) (device session : Option String) : Option String :=
  device.or (session.bind s.sessionDevices.lookup)

/-- The pool's part, with the state. -/
def connectTo (s : State) (name : String) (client : SctlClient) (connects : Bool) : State × Option Connection :=
  let got := getOrConnect Connection.connected s.connections name (if connects then some ⟨client,true⟩ else none)
  ({ s with connections := got.1 },got.2)

/-- The connection to a device by name, and what the file gave for it. -/
def connectNamed (s : State) (name : String) (connects : Bool) : State × Option Connection :=
  match s.clients.lookup name with
  | none => (s,none)
  | some client =>
    let got := connectTo s name client connects
    match got.2 with
    | none => (got.1,none)
    | some conn =>
      ({ got.1 with returned := ⟨conn,(buildClients s.file.resolved.devices).lookup name⟩ :: s.returned },some conn)

def getWsConnection (s : State) (device session : Option String) (connects : Bool) : State × Option Connection :=
  let device := deviceOf s device session
  let s := maybeReload s
  connectNamed s (device.getD s.defaultDevice) connects

/-- The listing of each device in turn; those that could not be asked have none. -/
def listEach (s : State) : List (String × Option (List String)) → State × List (String × String)
  | [] => (s,[])
  | (name,answer) :: rest =>
    match s.clients.lookup name with
    | none => listEach s rest
    | some client =>
      let got := connectTo s name client answer.isSome
      let listed := listEach got.1 rest
      (listed.1,((answer.getD []).filter fun _ => got.2.isSome).map (·,name) ++ listed.2)

def registerAll (s : State) (sessions : List (String × String)) : State :=
  sessions.foldl (fun s e => registerSession s e.1 e.2) s

inductive Action
  /-- The file gets another content and another modification time. -/
  | edit (file : ConfigFile) (mtime : Nat)
  /-- A connection of the pool is lost, or made again by itself. -/
  | link (name : String) (connected : Bool)
  /-- A tool that looks a device up without a connection. -/
  | resolve
  /-- `session_start`, with the id in the reply. -/
  | start (device session : Option String) (connects : Bool) (started : Option String)
  /-- Any other tool for a session. -/
  | tool (device session : Option String) (connects : Bool)
  /-- `session_list` of a device. -/
  | list (device : String) (session : Option String) (connects : Bool) (sessions : List String)
  /-- `session_list` of all devices, each with its answer. -/
  | listAll (answers : List (String × Option (List String)))

def step (s : State) : Action → Option State
  | .edit file mtime =>
    if mtime ≠ s.mtime ∧ s.lastMtime ≠ some mtime then some { s with file, mtime } else none
  | .link name connected =>
    some { s with connections := Table.modify name (fun c => { c with connected }) s.connections }
  | .resolve => some (maybeReload s)
  | .start device session connects started =>
    let got := getWsConnection s device session connects
    match got.2, started with
    | some conn, some id =>
      let s := registerSession got.1 id (device.getD got.1.defaultDevice)
      some { s with startedOn := s.startedOn.insert id conn.opened.baseUrl }
    | _, _ => some got.1
  | .tool device session connects =>
    let got := getWsConnection s device session connects
    let home := (if device = none then session else none).bind fun id => (s.startedOn.lookup id).map (id,·)
    match got.2, home with
    | some conn, some (id,url) => some { got.1 with sent := (⟨id,conn.opened.baseUrl⟩,url) :: got.1.sent }
    | _, _ => some got.1
  | .list device session connects sessions =>
    let got := getWsConnection s (some device) session connects
    some (if got.2.isSome then registerAll got.1 (sessions.map (·,device)) else got.1)
  | .listAll answers =>
    if (answers.map Prod.fst).Perm s.clients.keys then
      let listed := listEach s answers
      some (registerAll listed.1 listed.2)
    else none

/-- Every connection that was returned was opened with what the file gave for its device, and
    every call that names no device went where its session was started. -/
structure UsesConfiguration (s : State) : Prop where
  returned : ∀ r ∈ s.returned, r.configured = some r.connection.opened
  sent : ∀ e ∈ s.sent, e.1.url = e.2

/-! ### Looking a device up -/

/-- What the file gives for the devices. -/
def State.configured (s : State) : Table String SctlClient := buildClients s.file.resolved.devices

/-- The device that a call is for once the file is loaded. -/
def nameFor (s : State) (device session : Option String) : String :=
  (deviceOf s device session).getD s.file.resolved.defaultDevice

/-- A connection of the pool that would be returned was opened with the API key that the file gives. -/
def keyCurrent (s : State) (name : String) : Prop :=
  ∀ client, s.configured.lookup name = some client → ∀ conn, s.connections.lookup name = some conn →
    conn.connected = true → conn.opened.baseUrl = client.baseUrl → conn.opened.apiKey = client.apiKey

/-- A connection is returned: one can be made, or the pool has one to the URL that the file gives. -/
def reaches (s : State) (name : String) (client : SctlClient) (connects : Bool) : Bool :=
  connects || (s.connections.lookup name).any fun conn => conn.connected && conn.opened.baseUrl = client.baseUrl

/-- A call for a session that names no device, and gets a connection, finds the URL that the
    session was started on under the name that the session is kept under. -/
def routedHome (s : State) (session : Option String) (connects : Bool) : Prop :=
  ∀ id url, session = some id → s.startedOn.lookup id = some url →
    ∀ client, s.configured.lookup (nameFor s none session) = some client →
      reaches s (nameFor s none session) client connects = true → client.baseUrl = url

def FollowsFile (s : State) : Action → Prop
  | .start device session _ _ => keyCurrent s (nameFor s device session)
  | .tool device session connects =>
    keyCurrent s (nameFor s device session) ∧ (device = none → routedHome s session connects)
  | .list device session _ _ => keyCurrent s (nameFor s (some device) session)
  | _ => True

/-- Unless the file has another modification time, the registry has what is in it; a pooled
    connection leads to the URL of its device. -/
structure Current (s : State) : Prop where
  loaded : s.lastMtime = some s.mtime → s.clients = s.configured ∧ s.defaultDevice = s.file.resolved.defaultDevice
  pooled : ∀ name conn, s.connections.lookup name = some conn →
    ∃ client, s.clients.lookup name = some client ∧ conn.opened.baseUrl = client.baseUrl

/-- What stays as it is when a device is looked up. -/
structure Kept (s t : State) : Prop where
  file : t.file = s.file
  mtime : t.mtime = s.mtime
  sessionDevices : t.sessionDevices = s.sessionDevices
  startedOn : t.startedOn = s.startedOn
  sent : t.sent = s.sent

theorem Kept.rfl {s : State} : Kept s s := ⟨Eq.refl _,Eq.refl _,Eq.refl _,Eq.refl _,Eq.refl _⟩

/-- The registry after the file was looked at. -/
structure Reloaded (s t : State) : Prop extends Kept s t where
  clients : t.clients = s.configured
  defaultDevice : t.defaultDevice = s.file.resolved.defaultDevice
  lastMtime : t.lastMtime = some s.mtime
  returned : t.returned = s.returned
  connections : ∀ name, t.connections.lookup name =
    (s.connections.lookup name).filter fun conn => (s.configured.lookup name).any (·.baseUrl = conn.opened.baseUrl)

theorem reloaded (s : State) (current : Current s) : Reloaded s (maybeReload s) := by
  unfold maybeReload
  split
  · next same =>
    have loaded := current.loaded same
    refine { Kept.rfl with clients := loaded.1, defaultDevice := loaded.2, lastMtime := same, returned := rfl, connections := ?_ }
    intro name
    cases there : s.connections.lookup name with
    | none => rfl
    | some conn =>
      obtain ⟨client,found,url⟩ := current.pooled name conn there
      rw [loaded.1] at found
      simp [found,url,Option.filter]
  · rw [s.file.loads]
    refine { Kept.rfl with clients := rfl, defaultDevice := rfl, lastMtime := rfl, returned := rfl, connections := ?_ }
    intro name
    change (Table.keep _ s.connections).lookup name = _
    rw [Table.lookup_keep]
    cases there : s.connections.lookup name with
    | none => rfl
    | some conn =>
      obtain ⟨client,found,url⟩ := current.pooled name conn there
      have clear : (!moved s.clients s.configured name) = (s.configured.lookup name).any (·.baseUrl = conn.opened.baseUrl) := by
        rw [moved,found,Option.any_some,url]
        cases s.configured.lookup name with
        | none => rfl
        | some after => simp
      exact congrArg (fun b => if b = true then some conn else none) clear

theorem current_reloaded {s t : State} (again : Reloaded s t) : Current t where
  loaded := fun _ => by
    rw [State.configured,again.file]
    exact ⟨again.clients,again.defaultDevice⟩
  pooled := by
    intro name conn there
    rw [again.connections,Option.filter_eq_some_iff] at there
    obtain ⟨-,passes⟩ := there
    obtain ⟨client,found,url⟩ := (Option.any_eq_true _ _).mp passes
    rw [again.clients]
    exact ⟨client,found,(of_decide_eq_true url).symm⟩

section
variable {Conn : Type} {isConnected : Conn → Bool} {connections : Table String Conn} {name : String} {connect : Option Conn}

/-- What is returned is the pooled connection, if that is connected, or else the new one; it is in
    the pool then. -/
inductive Pooling (isConnected : Conn → Bool) (connections : Table String Conn) (name : String) (connect : Option Conn) :
    Table String Conn × Option Conn → Prop
  | pooled {conn} (there : connections.lookup name = some conn) (connected : isConnected conn = true) :
    Pooling isConnected connections name connect (connections,some conn)
  | made {new after} (free : ∀ old, connections.lookup name = some old → isConnected old = false) (opened : connect = some new)
    (pool : ∀ other, after.lookup other = if other = name then some new else connections.lookup other) :
    Pooling isConnected connections name connect (after,some new)
  | failed {after} (free : ∀ old, connections.lookup name = some old → isConnected old = false) (closed : connect = none)
    (pool : ∀ other, after.lookup other = if other = name then none else connections.lookup other) :
    Pooling isConnected connections name connect (after,none)

theorem getOrConnect_pooling : Pooling isConnected connections name connect (getOrConnect isConnected connections name connect) := by
  unfold getOrConnect
  cases there : connections.lookup name with
  | some conn =>
    dsimp only
    split
    · next connected => exact .pooled there connected
    · next dead =>
      have free : ∀ old, connections.lookup name = some old → isConnected old = false := by
        intro old found
        cases there.symm.trans found
        simpa using dead
      cases connect with
      | some new =>
        refine .made free rfl fun other => ?_
        rw [Table.lookup_insert_eq,Table.lookup_erase_eq]
        split <;> rfl
      | none => exact .failed free rfl fun other => Table.lookup_erase_eq _ _ _
  | none =>
    have free : ∀ old, connections.lookup name = some old → isConnected old = false := by
      intro old found
      cases there.symm.trans found
    cases connect with
    | some new => exact .made free rfl fun other => Table.lookup_insert_eq _ _ _ _
    | none =>
      refine .failed free rfl fun other => ?_
      split
      · next same => rw [same,there]
      · rfl

end

/-- What `connect_to` does to a registry that has what the file gives. -/
structure Connecting (s : State) (name : String) (client : SctlClient) (connects : Bool) (t : State)
    (conn : Option Connection) : Prop extends Kept s t where
  clients : t.clients = s.clients
  defaultDevice : t.defaultDevice = s.defaultDevice
  lastMtime : t.lastMtime = s.lastMtime
  returned : t.returned = s.returned
  current : Current t
  got : ∀ c, conn = some c → c.opened.baseUrl = client.baseUrl ∧
    ((s.connections.lookup name = some c ∧ c.connected = true) ∨
      (c.opened = client ∧ ∀ old, s.connections.lookup name = some old → old.connected = false))
  none_ : conn = none ↔ connects = false ∧ ∀ old, s.connections.lookup name = some old → old.connected = false

theorem connecting {s : State} {name : String} {client : SctlClient} (current : Current s)
    (found : s.clients.lookup name = some client) (connects : Bool) :
    Connecting s name client connects (connectTo s name client connects).1 (connectTo s name client connects).2 := by
  have pooling : Pooling Connection.connected s.connections name (if connects then some ⟨client,true⟩ else none) _ :=
    getOrConnect_pooling
  unfold connectTo
  generalize getOrConnect Connection.connected s.connections name (if connects then some ⟨client,true⟩ else none) = got at pooling
  cases pooling with
  | @pooled conn there connected =>
    obtain ⟨before,same,url⟩ := current.pooled name conn there
    cases found.symm.trans same
    refine { Kept.rfl with
      clients := rfl, defaultDevice := rfl, lastMtime := rfl, returned := rfl, current := ?_, got := ?_, none_ := ?_ }
    · exact ⟨current.loaded,current.pooled⟩
    · intro c same
      cases same
      exact ⟨url,.inl ⟨there,connected⟩⟩
    · refine iff_of_false (fun never => by cases never) ?_
      rintro ⟨-,free⟩
      rw [free conn there] at connected
      cases connected
  | @made new after free opened pool =>
    cases connects with
    | false => cases opened
    | true =>
      cases opened
      refine { Kept.rfl with
        clients := rfl, defaultDevice := rfl, lastMtime := rfl, returned := rfl, current := ⟨current.loaded,?_⟩, got := ?_, none_ := ?_ }
      · intro other conn there
        change after.lookup other = some conn at there
        rw [pool] at there
        split at there
        · next same =>
          cases there
          exact ⟨client,by rw [same]; exact found,rfl⟩
        · exact current.pooled other conn there
      · intro c same
        cases same
        exact ⟨rfl,.inr ⟨rfl,free⟩⟩
      · exact iff_of_false (fun never => by cases never) fun both => by cases both.1
  | @failed after free closed pool =>
    cases connects with
    | true => cases closed
    | false =>
      refine { Kept.rfl with
        clients := rfl, defaultDevice := rfl, lastMtime := rfl, returned := rfl, current := ⟨current.loaded,?_⟩, got := ?_, none_ := ?_ }
      · intro other conn there
        change after.lookup other = some conn at there
        rw [pool] at there
        split at there
        · cases there
        · exact current.pooled other conn there
      · intro c never
        cases never
      · exact iff_of_true rfl ⟨rfl,free⟩

/-- What `get_ws_connection` returns, and when. -/
structure Getting (s : State) (name : String) (connects : Bool) (t : State) (conn : Option Connection) :
    Prop extends Kept s t where
  defaultDevice : t.defaultDevice = s.file.resolved.defaultDevice
  current : Current t
  none_ : conn = none → t.returned = s.returned ∧ keyCurrent s name ∧
    ∀ client, s.configured.lookup name = some client → reaches s name client connects = false
  some_ : ∀ c, conn = some c → ∃ client, s.configured.lookup name = some client ∧
    reaches s name client connects = true ∧ t.returned = ⟨c,some client⟩ :: s.returned ∧
    c.opened.baseUrl = client.baseUrl ∧ (c.opened = client ↔ keyCurrent s name)

theorem connectNamed_getting {s r : State} (again : Reloaded s r) (name : String) (connects : Bool) :
    Getting s name connects (connectNamed r name connects).1 (connectNamed r name connects).2 := by
  have current' := current_reloaded again
  unfold connectNamed
  cases found : r.clients.lookup name with
  | none =>
    rw [again.clients] at found
    refine { again.toKept with
      defaultDevice := again.defaultDevice, current := current', none_ := fun _ => ⟨again.returned,?_,?_⟩, some_ := ?_ }
    · intro client there
      cases found.symm.trans there
    · intro client there
      cases found.symm.trans there
    · intro c never
      cases never
  | some client =>
    have con := connecting current' found connects
    rw [again.clients] at found
    have pool : ∀ c, r.connections.lookup name = some c ↔
        s.connections.lookup name = some c ∧ c.opened.baseUrl = client.baseUrl := by
      intro c
      rw [again.connections,Option.filter_eq_some_iff,found,Option.any_some,decide_eq_true_eq]
      exact and_congr_right fun _ => eq_comm
    have kept : ∀ {t : State}, Kept r t → Kept s t := fun kept =>
      ⟨kept.file.trans again.file,kept.mtime.trans again.mtime,kept.sessionDevices.trans again.sessionDevices,
        kept.startedOn.trans again.startedOn,kept.sent.trans again.sent⟩
    dsimp only
    generalize connectTo r name client connects = got at con
    obtain ⟨t,conn⟩ := got
    cases conn with
    | none =>
      obtain ⟨closed,free⟩ := con.none_.mp rfl
      refine { kept con.toKept with
        defaultDevice := con.defaultDevice.trans again.defaultDevice, current := con.current,
        none_ := fun _ => ⟨con.returned.trans again.returned,?_,?_⟩, some_ := ?_ }
      · intro client' there c pooled connected url
        cases found.symm.trans there
        rw [free c ((pool c).mpr ⟨pooled,url⟩)] at connected
        cases connected
      · intro client' there
        cases found.symm.trans there
        rw [reaches,closed,Bool.false_or,Option.any_eq_false]
        intro c pooled
        by_cases url : c.opened.baseUrl = client.baseUrl
        · simp [free c ((pool c).mpr ⟨pooled,url⟩)]
        · simp [url]
      · intro c never
        cases never
    | some conn =>
      obtain ⟨url,which⟩ := con.got conn rfl
      refine { kept con.toKept with
        defaultDevice := con.defaultDevice.trans again.defaultDevice, current := ⟨con.current.loaded,con.current.pooled⟩,
        none_ := (nomatch ·), some_ := ?_ }
      intro c same
      cases same
      refine ⟨client,found,?_,?_,url,?_⟩
      · rcases which with ⟨there,connected⟩ | ⟨-,free⟩
        · rw [reaches,((pool conn).mp there).1,Option.any_some,connected,url]
          simp
        · have open_ : connects = true := by
            by_contra closed
            have missing := con.none_.mpr ⟨by simpa using closed,free⟩
            cases missing
          rw [reaches,open_,Bool.true_or]
      · rw [again.returned,again.file]
        exact congrArg (⟨conn,·⟩ :: s.returned) found
      · rcases which with ⟨there,connected⟩ | ⟨opened,free⟩
        · constructor
          · intro opened client' found' c pooled connected' url'
            cases found.symm.trans found'
            cases ((pool conn).mp there).1.symm.trans pooled
            rw [opened]
          · intro current
            have key := current client found conn ((pool conn).mp there).1 connected url
            generalize conn.opened = opened at url key
            cases opened
            cases url
            cases key
            rfl
        · refine iff_of_true opened ?_
          intro client' found' c pooled connected url'
          cases found.symm.trans found'
          rw [free c ((pool c).mpr ⟨pooled,url'⟩)] at connected
          cases connected

theorem getting {s : State} (current : Current s) (device session : Option String) (connects : Bool) :
    Getting s (nameFor s device session) connects (getWsConnection s device session connects).1
      (getWsConnection s device session connects).2 := by
  have again := reloaded s current
  have named : getWsConnection s device session connects =
      connectNamed (maybeReload s) (nameFor s device session) connects := by
    rw [getWsConnection,nameFor,again.defaultDevice]
  rw [named]
  exact connectNamed_getting again _ _

/-! ### Runs -/

theorem registerAll_eq (s : State) (sessions : List (String × String)) :
    registerAll s sessions = { s with sessionDevices := (registerAll s sessions).sessionDevices } := by
  induction sessions generalizing s with
  | nil => rfl
  | cons e rest ih => exact ih (registerSession s e.1 e.2)

theorem listEach_spec {s : State} (current : Current s) (answers : List (String × Option (List String))) :
    Current (listEach s answers).1 ∧ (listEach s answers).1.returned = s.returned ∧ (listEach s answers).1.sent = s.sent := by
  induction answers generalizing s with
  | nil => exact ⟨current,rfl,rfl⟩
  | cons answer rest ih =>
    obtain ⟨name,sessions⟩ := answer
    rw [listEach]
    split
    · exact ih current
    · next client found =>
      have con := connecting current found sessions.isSome
      obtain ⟨current',returned,sent⟩ := ih con.current
      exact ⟨current',returned.trans con.returned,sent.trans con.sent⟩

/-- The invariant is about the file and the clients, and what connections were opened with. -/
theorem current_frame {s t : State} (current : Current s) (file : t.file = s.file) (mtime : t.mtime = s.mtime)
    (lastMtime : t.lastMtime = s.lastMtime) (clients : t.clients = s.clients) (defaultDevice : t.defaultDevice = s.defaultDevice)
    (connections : ∀ name conn, t.connections.lookup name = some conn →
      ∃ before, s.connections.lookup name = some before ∧ before.opened = conn.opened) : Current t where
  loaded := by
    rw [lastMtime,mtime,clients,defaultDevice,State.configured,file]
    exact current.loaded
  pooled := by
    intro name conn there
    obtain ⟨before,found,same⟩ := connections name conn there
    rw [clients,← same]
    exact current.pooled name before found

theorem current_step {s t : State} {a : Action} (current : Current s) (stepped : step s a = some t) : Current t := by
  have stays : ∀ {s t : State}, t.connections = s.connections → ∀ name conn, t.connections.lookup name = some conn →
      ∃ before, s.connections.lookup name = some before ∧ before.opened = conn.opened := by
    intro s t same name conn there
    exact ⟨conn,by rw [← same]; exact there,rfl⟩
  cases a with
  | edit file mtime =>
    simp only [step,Option.ite_none_right_eq_some] at stepped
    obtain ⟨⟨-,other⟩,moved⟩ := stepped
    cases moved
    exact ⟨fun same => absurd same other,current.pooled⟩
  | link name connected =>
    cases stepped
    refine current_frame current rfl rfl rfl rfl rfl ?_
    intro other conn there
    change (Table.modify name _ s.connections).lookup other = _ at there
    rw [Table.lookup_modify] at there
    split at there
    · next same =>
      obtain ⟨before,found,rfl⟩ := Option.map_eq_some_iff.mp there
      exact ⟨before,by rw [same]; exact found,rfl⟩
    · exact ⟨conn,there,rfl⟩
  | resolve =>
    cases stepped
    exact current_reloaded (reloaded s current)
  | start device session connects started =>
    have got := getting current device session connects
    simp only [step] at stepped
    split at stepped
    · cases stepped
      exact current_frame got.current rfl rfl rfl rfl rfl (stays rfl)
    · cases stepped
      exact got.current
  | tool device session connects =>
    have got := getting current device session connects
    simp only [step] at stepped
    split at stepped
    · cases stepped
      exact current_frame got.current rfl rfl rfl rfl rfl (stays rfl)
    · cases stepped
      exact got.current
  | list device session connects sessions =>
    have got := getting current (some device) session connects
    simp only [step] at stepped
    split at stepped
    · cases stepped
      rw [registerAll_eq]
      exact current_frame got.current rfl rfl rfl rfl rfl (stays rfl)
    · cases stepped
      exact got.current
  | listAll answers =>
    simp only [step,Option.ite_none_right_eq_some] at stepped
    obtain ⟨-,moved⟩ := stepped
    cases moved
    rw [registerAll_eq]
    exact current_frame (listEach_spec current answers).1 rfl rfl rfl rfl rfl (stays rfl)

/-- Nothing is returned and nothing sent that counts. -/
theorem uses_frame {s t : State} (uses : UsesConfiguration s) (returned : t.returned = s.returned) (sent : t.sent = s.sent) :
    UsesConfiguration t where
  returned := by rw [returned]; exact uses.returned
  sent := by rw [sent]; exact uses.sent

/-- What a call returns was opened with what the file gives, exactly if the pool had nothing else. -/
theorem uses_got {s t : State} {name : String} {connects : Bool} {conn : Option Connection} (uses : UsesConfiguration s)
    (got : Getting s name connects t conn) : UsesConfiguration t ↔ keyCurrent s name := by
  cases conn with
  | none =>
    obtain ⟨returned,key,-⟩ := got.none_ rfl
    exact iff_of_true (uses_frame uses returned got.sent) key
  | some c =>
    obtain ⟨client,-,-,returned,-,same⟩ := got.some_ c rfl
    rw [← same]
    constructor
    · intro after
      have mine := after.returned ⟨c,some client⟩ (by rw [returned]; exact List.mem_cons_self)
      exact (Option.some.inj mine).symm
    · intro opened
      constructor
      · rw [returned]
        exact List.forall_mem_cons.mpr ⟨congrArg some opened.symm,uses.returned⟩
      · rw [got.sent]
        exact uses.sent

theorem uses_step {s t : State} {a : Action} (current : Current s) (uses : UsesConfiguration s) (stepped : step s a = some t) :
    UsesConfiguration t ↔ FollowsFile s a := by
  cases a with
  | edit file mtime =>
    simp only [step,Option.ite_none_right_eq_some] at stepped
    obtain ⟨-,moved⟩ := stepped
    cases moved
    exact iff_of_true (uses_frame uses rfl rfl) trivial
  | link name connected =>
    cases stepped
    exact iff_of_true (uses_frame uses rfl rfl) trivial
  | resolve =>
    cases stepped
    have again := reloaded s current
    exact iff_of_true (uses_frame uses again.returned again.sent) trivial
  | start device session connects started =>
    have got := uses_got uses (getting current device session connects)
    simp only [step] at stepped
    split at stepped
    · cases stepped
      rw [FollowsFile,← got]
      exact ⟨fun after => uses_frame after rfl rfl,fun after => uses_frame after rfl rfl⟩
    · cases stepped
      exact got
  | tool device session connects =>
    have got := getting current device session connects
    have returns := uses_got uses got
    simp only [step] at stepped
    split at stepped
    · next conn id url found home =>
      cases stepped
      obtain ⟨id',there,paired⟩ := Option.bind_eq_some_iff.mp home
      obtain ⟨url',started,same⟩ := Option.map_eq_some_iff.mp paired
      cases same
      rw [Option.ite_none_right_eq_some] at there
      obtain ⟨rfl,rfl⟩ := there
      obtain ⟨client,configured,reached,-,address,-⟩ := got.some_ conn found
      have went : conn.opened.baseUrl = url ↔ ((none : Option String) = none → routedHome s (some id) connects) := by
        rw [address]
        constructor
        · intro same _ id' url' named started' client' configured' _
          cases named
          cases started.symm.trans started'
          cases configured.symm.trans configured'
          exact same
        · intro home
          exact home rfl id url rfl started client configured reached
      refine Iff.trans ?_ (and_congr returns went)
      constructor
      · intro after
        refine ⟨⟨after.returned,fun e member => after.sent e (List.mem_cons_of_mem _ member)⟩,?_⟩
        exact after.sent _ List.mem_cons_self
      · rintro ⟨before,home⟩
        exact ⟨before.returned,List.forall_mem_cons.mpr ⟨home,before.sent⟩⟩
    · next neither =>
      cases stepped
      rw [FollowsFile,returns]
      refine (and_iff_left ?_).symm
      rintro rfl id url rfl started client configured reached
      cases found : (getWsConnection s none (some id) connects).2 with
      | none =>
        rw [(got.none_ found).2.2 client configured] at reached
        cases reached
      | some conn => exact (neither conn id url found (by simp [started])).elim
  | list device session connects sessions =>
    have got := uses_got uses (getting current (some device) session connects)
    simp only [step] at stepped
    split at stepped
    · cases stepped
      rw [FollowsFile,← got,registerAll_eq]
      exact ⟨fun after => uses_frame after rfl rfl,fun after => uses_frame after rfl rfl⟩
    · cases stepped
      exact got
  | listAll answers =>
    simp only [step,Option.ite_none_right_eq_some] at stepped
    obtain ⟨-,moved⟩ := stepped
    cases moved
    obtain ⟨-,returned,sent⟩ := listEach_spec current answers
    rw [registerAll_eq]
    exact iff_of_true (uses_frame uses returned sent) trivial

/-- In every run, what is returned and where calls go follow the file, exactly if no call finds
    a pooled connection with another API key than the file gives, and no call for a session that
    names no device finds another URL under the session's device name than it was started on. -/
theorem configuration_used_iff (file : ConfigFile) (mtime : Nat) (actions : List Action) :
    Always step UsesConfiguration (start file mtime) actions ↔ Along step FollowsFile (start file mtime) actions := by
  refine always_iff_along (fun s a t => current_step) (fun s a t => uses_step) ?_ ?_
  · constructor
    · exact fun _ => ⟨rfl,rfl⟩
    · intro name conn never
      cases never
  · constructor
    · intro r member
      cases member
    · intro e member
      cases member

/-- A file with one device. -/
def oneDevice (url apiKey : String) (some_ : url ≠ "" ∧ apiKey ≠ "") : ConfigFile where
  parsed := ⟨(∅ : Table String DeviceEntry).insert "router" ⟨url,apiKey⟩,none⟩
  resolved := ⟨(∅ : Table String DeviceEntry).insert "router" ⟨url,apiKey⟩,"router"⟩
  loads := by
    have entries : ((∅ : Table String DeviceEntry).insert "router" ⟨url,apiKey⟩).entries = [⟨"router",⟨url,apiKey⟩⟩] := rfl
    have keys : ((∅ : Table String DeviceEntry).insert "router" ⟨url,apiKey⟩).keys = ["router"] := rfl
    simp only [loadFromFile,entries,keys,entryError,some_,if_false]
    rfl

def before : ConfigFile := oneDevice "http://10.0.0.1:1337" "old" (by decide)

def after : ConfigFile := oneDevice "http://10.0.0.1:1337" "new" (by decide)

/-- The API key of the device is changed after a session was started. -/
def keyChanged : List Action := [.start none none true (some "s"),.edit after 2,.tool none (some "s") true]

theorem old_key_used : ¬ ∀ (file : ConfigFile) (mtime : Nat) (actions : List Action),
    Always step UsesConfiguration (start file mtime) actions := by
  intro claim
  have stale : (run step (start before 1) keyChanged).map (fun s => s.returned.head?) =
      some (some ⟨⟨⟨"http://10.0.0.1:1337","old"⟩,true⟩,some ⟨"http://10.0.0.1:1337","new"⟩⟩) := by decide +kernel
  obtain ⟨s,ran,last⟩ := Option.map_eq_some_iff.mp stale
  have uses := (always_last (claim before 1 keyChanged) ran).returned _ (List.mem_of_mem_head? last)
  revert uses
  decide

end Sctl.DeviceRegistry
