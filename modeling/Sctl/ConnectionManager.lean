import Sctl.Tables
import Sctl.ActivityPolling

/-!
The connection manager of the web client. It keeps one connection for each server
id and writes what its requests bring to the connection that made them, but its
logs, its events and its tables of requests in flight are found by the id. Every
value carries the number of the connection whose client or relay URL it came from.
-/
namespace Sctl.ConnectionManager
open Runs
open ActivityPolling (ActivityEntry)

/-- A value and the connection whose request brought it. -/
structure From (Value : Type) where
  source : Nat
  value : Value

/-! ### What the requests bring -/

/-- Signal fields as a template prints them. -/
structure Lte where
  operator : Option String := none
  technology : Option String := none
  signalBars : Option String := none
  rsrp : Option String := none
  sinr : Option String := none
  band : Option String := none
  freqBand : Option String := none
  pci : Option String := none
  model : Option String := none

/-- The position is printed with four decimals. -/
structure Gps where
  status : String
  satellites : Option String := none
  position : Option (String × String) := none
  hasFix : Bool := false

structure Tunnel where
  connected : Bool
  relayUrl : Option String := none
  url : Option String := none

structure DeviceInfo where
  serial : String
  hostname : String
  kernel : String
  systemUptimeSecs : Nat
  lte : Option Lte := none
  gps : Option Gps := none
  tunnel : Option Tunnel := none

structure RelayLiveDevice where
  serial : String
  connected : Bool
  pendingRequestsCount : Nat
  droppedMessages : Nat

structure RelayHealthInfo where
  status : String
  version : String
  uptimeSecs : Nat
  sessions : Nat
  tunnelConnected : Bool
  tunnelReconnects : Nat
  liveDevices : List RelayLiveDevice := []
  lte : Option Lte := none
  gps : Option Gps := none

structure DeviceProbeResult where
  reachable : Bool
  status : Option Nat
  errorCode : Option String
  errorMessage : Option String

/-! ### Texts -/

def formatDuration (secs : Nat) : String :=
  if secs < 60 then s!"{secs}s"
  else if secs < 3600 then s!"{secs / 60}m {secs % 60}s"
  else s!"{secs / 3600}h {secs % 3600 / 60}m"

/-- A text that is there and not empty. -/
def truthy (text : Option String) : Option String := text.filter (· ≠ "")

def joined (parts : List (Option String)) : String := " | ".intercalate parts.reduceOption

def deviceLte (lte : Lte) : String :=
  joined [truthy lte.operator,truthy lte.technology,lte.signalBars.map (· ++ "/5 bars"),lte.rsrp.map ("RSRP " ++ ·),
    lte.sinr.map ("SINR " ++ ·),truthy lte.band,lte.freqBand.map ("B" ++ ·),lte.pci.map ("PCI " ++ ·),truthy lte.model]

def deviceGps (gps : Gps) : String :=
  joined [some gps.status,gps.satellites.map (· ++ " sats"),gps.position.map fun p => p.1 ++ ", " ++ p.2]

def deviceTunnel (tunnel : Tunnel) : String :=
  (if tunnel.connected then "connected" else "disconnected") ++
    ((truthy (tunnel.relayUrl <|> tunnel.url)).map (" → " ++ ·)).getD ""

/-- The lines for the telemetry log of the device's own report. -/
def DeviceInfo.telemetry (info : DeviceInfo) : List (String × String) :=
  (info.lte.map fun lte => ("lte signal",deviceLte lte)).toList ++ (info.gps.map fun gps => ("gps",deviceGps gps)).toList ++
    (info.tunnel.map fun tunnel => ("tunnel",deviceTunnel tunnel)).toList

def relayLte (lte : Lte) : List (Option String) :=
  [truthy lte.operator,lte.signalBars.map (· ++ "/5 bars"),lte.rsrp.map ("RSRP " ++ ·),lte.sinr.map ("SINR " ++ ·),truthy lte.band]

def relayGps (gps : Gps) : String :=
  joined [some gps.status,gps.satellites.map (· ++ " sats"),if gps.hasFix then some "fix" else none]

/-- The lines for the telemetry log of the relay's report; a signal without any part gives none. -/
def RelayHealthInfo.telemetry (health : RelayHealthInfo) : List (String × String) :=
  ((health.lte.filter fun lte => (relayLte lte).reduceOption ≠ []).map fun lte => ("lte signal",joined (relayLte lte))).toList ++
    (health.gps.map fun gps => ("gps",relayGps gps)).toList

def RelayHealthInfo.detail (health : RelayHealthInfo) : String :=
  let liveCount := health.liveDevices.length
  let tunnelDetail :=
    if 0 < liveCount then
      s!"tunnel: {liveCount} device" ++ (if liveCount = 1 then "" else "s") ++ s!" live, {health.sessions} session(s)"
    else s!"tunnel: no device, {health.tunnelReconnects} reconnect(s)"
  s!"v{health.version}, up {formatDuration health.uptimeSecs}, {tunnelDetail}"

/-- `String` of an optional field. -/
def printed (field : Option String) : String := field.getD "undefined"

def relayHealthFingerprint (h : RelayHealthInfo) : String :=
  "|".intercalate
    ([h.status,toString h.sessions,toString h.tunnelConnected,toString h.tunnelReconnects,toString h.liveDevices.length] ++
      h.liveDevices.flatMap (fun dev =>
        [dev.serial,toString dev.connected,toString dev.pendingRequestsCount,toString dev.droppedMessages]) ++
      (h.lte.map fun lte => [printed lte.signalBars,printed lte.rsrp,printed lte.sinr,printed lte.band,printed lte.operator]).getD [] ++
      (h.gps.map fun gps => [gps.status,printed gps.satellites,toString gps.hasFix]).getD [])

/-! ### Connections -/

inductive ConnectionEventLevel
  | info
  | warn
  | error
  | success

/-- A line of a log, with the connections whose requests brought its text. -/
structure ConnectionEvent where
  id : Nat
  level : ConnectionEventLevel
  message : String
  detail : Option String
  sources : List Nat

structure ServerConfig where
  id : String
  wsUrl : String
  apiKey : String

/-- The part of a relay URL after the scheme: a host, `d`, a serial, `api` and `ws`. -/
def getRelayBaseUrl (wsUrl : String) : Option String :=
  match wsUrl.toList.splitOn '/' with
  | scheme :: [] :: host :: ['d'] :: serial :: ['a','p','i'] :: ('w' :: 's' :: _) :: _ =>
    if host = [] ∨ serial = [] then none
    else if scheme = "wss:".toList then some ("https://" ++ String.ofList host)
    else if scheme = "ws:".toList then some ("http://" ++ String.ofList host)
    else none
  | _ => none

def serialIn : List (List Char) → Option String
  | [] => none
  | part :: rest =>
    match part, rest with
    | ['d'], serial :: ['a','p','i'] :: ('w' :: 's' :: _) :: _ =>
      if serial = [] then serialIn rest else some (String.ofList serial)
    | _, _ => serialIn rest

/-- The first `d`, serial, `api` and `ws` that stand behind a slash. -/
def getRelaySerial (wsUrl : String) : Option String := serialIn (wsUrl.toList.splitOn '/').tail

structure ServerConnection where
  config : ServerConfig
  deviceInfo : Option (From DeviceInfo) := none
  activity : From (List ActivityEntry)
  relayHealth : Option (From RelayHealthInfo) := none
  deviceProbe : Option (From DeviceProbeResult) := none
  connectionLog : List ConnectionEvent := []
  telemetryLog : List ConnectionEvent := []

namespace ServerConnection

def relayBaseUrl (conn : ServerConnection) : Option String := getRelayBaseUrl conn.config.wsUrl
def relaySerial (conn : ServerConnection) : Option String := getRelaySerial conn.config.wsUrl

/-- Where the log of a connection says that it goes. -/
def target (conn : ServerConnection) : String :=
  if conn.relayBaseUrl.isSome then "relay → " ++ conn.relaySerial.getD "null" else conn.config.wsUrl

end ServerConnection

def logSources (log : List ConnectionEvent) : List Nat := log.flatMap ConnectionEvent.sources

/-- Where everything that is written to a connection came from. -/
def ServerConnection.sources (conn : ServerConnection) : List Nat :=
  (conn.deviceInfo.map From.source).toList ++ conn.activity.source :: (conn.relayHealth.map From.source).toList ++
    (conn.deviceProbe.map From.source).toList ++ logSources conn.connectionLog ++ logSources conn.telemetryLog

/-! ### The manager -/

/-- An event as it is handed to the callbacks. -/
inductive Event
  | deviceInfo (info : From (Option DeviceInfo))
  | activity (entries : From (List ActivityEntry))
  | relayHealth (health : From (Option RelayHealthInfo))
  | deviceProbe (result : From DeviceProbeResult)
  | connectionLog (events : List ConnectionEvent)
  | telemetryLog (events : List ConnectionEvent)
  | error (message : From String)

def Event.sources : Event → List Nat
  | .deviceInfo info => [info.source]
  | .activity entries => [entries.source]
  | .relayHealth health => [health.source]
  | .deviceProbe result => [result.source]
  | .connectionLog events | .telemetryLog events => logSources events
  | .error message => [message.source]

/-- An event, and the connection that its id had when it was emitted. -/
structure Emission where
  serverId : String
  about : Option Nat
  event : Event

inductive Kind
  | deviceInfo
  | activity (sinceId : Nat)
  | relayHealth
  | deviceProbe

/-- What the promise of a request gives. -/
inductive Result
  | deviceInfo (info : Option DeviceInfo)
  | activity (entries : List ActivityEntry)
  | relayHealth (health : Option RelayHealthInfo)
  | deviceProbe (result : DeviceProbeResult)

/-- A request of a connection and, for every call that waits for it, the connection that the
    id had at the call. The result is there once the answer was handled. -/
structure Request where
  kind : Kind
  serverId : String
  conn : Nat
  callers : List (Option Nat)
  result : Option (From Result) := none
  returned : Bool := false

/-- What a call gave, and the connection that its id had when it was made. -/
structure Returned where
  about : Option Nat
  value : From Result

/-- The connections are numbered as they are made; `connections` has the current one of an id. -/
structure Manager where
  connections : Table String Nat
  conns : List ServerConnection
  deviceInfoInflight : Table String Nat
  activityInflight : Table String Nat
  eventIdCounter : Nat
  relayHealthFingerprints : Table String String
  relayHealthLogIds : Table String (List Nat)
  requests : List Request
  emitted : List Emission
  returned : List Returned

def start : Manager := ⟨∅,[],∅,∅,0,∅,∅,[],[],[]⟩

/-- `slice(-200)` -/
def sliceLast (log : List ConnectionEvent) : List ConnectionEvent := log.drop (log.length - 200)

namespace Manager

def emit (m : Manager) (serverId : String) (event : Event) : Manager :=
  { m with emitted := m.emitted ++ [⟨serverId,m.connections.lookup serverId,event⟩] }

/-- A write to a connection, which need not be the current one of its id. -/
def write (m : Manager) (k : Nat) (f : ServerConnection → ServerConnection) : Manager :=
  { m with conns := m.conns.modify k f }

/-- The two logs of a connection. -/
inductive Log
  | connection
  | telemetry

def Log.of (conn : ServerConnection) : Log → List ConnectionEvent
  | .connection => conn.connectionLog
  | .telemetry => conn.telemetryLog

def Log.set (log : List ConnectionEvent) (conn : ServerConnection) : Log → ServerConnection
  | .connection => { conn with connectionLog := log }
  | .telemetry => { conn with telemetryLog := log }

def Log.event (log : List ConnectionEvent) : Log → Event
  | .connection => .connectionLog log
  | .telemetry => .telemetryLog log

/-- A line pushed to a log of the current connection of an id. -/
def push (which : Log) (m : Manager) (serverId : String) (level : ConnectionEventLevel) (message : String)
    (detail : Option String) (sources : List Nat) : Manager :=
  match m.connections.lookup serverId with
  | none => m
  | some k =>
    match m.conns[k]? with
    | none => m
    | some conn =>
      let log := sliceLast (which.of conn ++ [⟨m.eventIdCounter + 1,level,message,detail,sources⟩])
      emit { write m k fun conn => which.set log conn with eventIdCounter := m.eventIdCounter + 1 } serverId (which.event log)

def logEvent : Manager → String → ConnectionEventLevel → String → Option String → List Nat → Manager := push .connection
def logTelemetry : Manager → String → ConnectionEventLevel → String → Option String → List Nat → Manager := push .telemetry

def logTelemetries (m : Manager) (serverId : String) (source : Nat) (lines : List (String × String)) : Manager :=
  lines.foldl (fun m line => logTelemetry m serverId .info line.1 (some line.2) [source]) m

def connect (m : Manager) (server : ServerConfig) : Manager :=
  match m.connections.lookup server.id with
  | some _ => m
  | none =>
    let conn : ServerConnection := { config := server, activity := ⟨m.conns.length,[]⟩ }
    logEvent { m with conns := m.conns ++ [conn], connections := m.connections.insert server.id m.conns.length }
      server.id .info "connecting..." (some conn.target) []

def disconnect (m : Manager) (serverId : String) : Manager :=
  match m.connections.lookup serverId with
  | none => m
  | some _ =>
    { m with
      connections := m.connections.erase serverId
      relayHealthFingerprints := m.relayHealthFingerprints.erase serverId
      relayHealthLogIds := m.relayHealthLogIds.erase serverId }

/-- A call waits for a request that is in flight. -/
def join (m : Manager) (serverId : String) (n : Nat) : Manager :=
  { m with requests := m.requests.modify n fun r => { r with callers := r.callers ++ [m.connections.lookup serverId] } }

def request (m : Manager) (kind : Kind) (serverId : String) (k : Nat) : Manager :=
  { m with requests := m.requests ++ [{ kind, serverId, conn := k, callers := [some k] }] }

def fetchDeviceInfo (m : Manager) (serverId : String) : Manager :=
  match m.deviceInfoInflight.lookup serverId with
  | some n => m.join serverId n
  | none =>
    match m.connections.lookup serverId with
    | none => m
    | some k => { request m .deviceInfo serverId k with deviceInfoInflight := m.deviceInfoInflight.insert serverId m.requests.length }

def fetchActivity (m : Manager) (serverId : String) (sinceId : Nat) : Manager :=
  match if sinceId = 0 then m.activityInflight.lookup serverId else none with
  | some n => m.join serverId n
  | none =>
    match m.connections.lookup serverId with
    | none => m
    | some k =>
      let m' := request m (.activity sinceId) serverId k
      if sinceId = 0 then { m' with activityInflight := m.activityInflight.insert serverId m.requests.length } else m'

def fetchRelayHealth (m : Manager) (serverId : String) : Manager :=
  match m.connections.lookup serverId with
  | none => m
  | some k =>
    match (m.conns[k]?).bind ServerConnection.relayBaseUrl with
    | none => m
    | some _ => request m .relayHealth serverId k

def probeRelayDevice (m : Manager) (serverId : String) : Manager :=
  match m.connections.lookup serverId with
  | none => m
  | some k =>
    match (m.conns[k]?).bind ServerConnection.relayBaseUrl, (m.conns[k]?).bind ServerConnection.relaySerial with
    | some _, some serial =>
      request (m.logEvent serverId .info ("probing device " ++ serial ++ " through relay...") none []) .deviceProbe serverId k
    | _, _ => m

end Manager

/-- How the wait for an answer ends. -/
inductive Outcome
  | deviceInfo (info : DeviceInfo)
  | activity (entries : List ActivityEntry)
  | relayHealth (health : RelayHealthInfo)
  /-- The status, and the code and message of a body that is JSON. -/
  | probe (ok : Bool) (status : Nat) (body : Option String × Option String)
  | fails (message : String)

/-! ### Answers -/

namespace Manager

def gotDeviceInfo (m : Manager) (r : Request) (info : DeviceInfo) : Manager :=
  let m := m.write r.conn fun conn => { conn with deviceInfo := some ⟨r.conn,info⟩ }
  let m := m.emit r.serverId (.deviceInfo ⟨r.conn,some info⟩)
  let m := m.logEvent r.serverId .info ("device: " ++ info.hostname)
    (some s!"{info.serial}, up {formatDuration info.systemUptimeSecs}, {info.kernel}") [r.conn]
  m.logTelemetries r.serverId r.conn info.telemetry

def knownDeviceInfo (m : Manager) (r : Request) : Option (From DeviceInfo) := (m.conns[r.conn]?).bind ServerConnection.deviceInfo

/-- Information that is there stays. -/
def failedDeviceInfo (m : Manager) (r : Request) (message : String) : Manager :=
  let m := if (m.knownDeviceInfo r).isNone then m.emit r.serverId (.deviceInfo ⟨r.conn,none⟩) else m
  let m := m.emit r.serverId (.error ⟨r.conn,message⟩)
  m.logEvent r.serverId .error "failed to fetch device info" (some message) [r.conn]

def gotActivity (m : Manager) (r : Request) (entries : List ActivityEntry) : Manager :=
  let m := m.write r.conn fun conn => { conn with activity := ⟨r.conn,entries⟩ }
  m.emit r.serverId (.activity ⟨r.conn,entries⟩)

def failedActivity (m : Manager) (r : Request) (message : String) : Manager :=
  m.emit r.serverId (.error ⟨r.conn,message⟩)

/-- The line of an unchanged report, with the uptime of now. -/
def refreshed (source : Nat) (health : RelayHealthInfo) (entry : ConnectionEvent) : ConnectionEvent :=
  if "relay health:".toList <+: entry.message.toList then
    { entry with detail := some health.detail, sources := source :: entry.sources }
  else entry

/-- The lines of an unchanged report move to the end of the log. -/
def refresh (m : Manager) (r : Request) (health : RelayHealthInfo) (ids : List Nat) : Manager :=
  if ids = [] then m
  else
    match m.conns[r.conn]? with
    | none => m
    | some conn =>
      let rest := conn.connectionLog.filter fun entry => entry.id ∉ ids
      let updated := (conn.connectionLog.filter fun entry => entry.id ∈ ids).map (refreshed r.conn health)
      let log := sliceLast (rest ++ updated)
      (m.write r.conn fun conn => { conn with connectionLog := log }).emit r.serverId (.connectionLog log)

/-- A changed report is logged, and the numbers of its lines are kept. -/
def logHealth (m : Manager) (r : Request) (health : RelayHealthInfo) : Manager :=
  let startId := m.eventIdCounter + 1
  let m := m.logEvent r.serverId .info ("relay health: " ++ health.status) (some health.detail) [r.conn]
  let m := m.logTelemetries r.serverId r.conn health.telemetry
  { m with
    relayHealthLogIds := m.relayHealthLogIds.insert r.serverId (List.range' startId (m.eventIdCounter + 1 - startId))
    relayHealthFingerprints := m.relayHealthFingerprints.insert r.serverId (relayHealthFingerprint health) }

def gotRelayHealth (m : Manager) (r : Request) (health : RelayHealthInfo) : Manager :=
  let m := m.write r.conn fun conn => { conn with relayHealth := some ⟨r.conn,health⟩ }
  let m := m.emit r.serverId (.relayHealth ⟨r.conn,some health⟩)
  if m.relayHealthFingerprints.lookup r.serverId = some (relayHealthFingerprint health) then
    m.refresh r health ((m.relayHealthLogIds.lookup r.serverId).getD [])
  else m.logHealth r health

def failedRelayHealth (m : Manager) (r : Request) (message : String) : Manager :=
  let m := m.write r.conn fun conn => { conn with relayHealth := none }
  let m := m.emit r.serverId (.relayHealth ⟨r.conn,none⟩)
  let m := m.emit r.serverId (.error ⟨r.conn,message⟩)
  let m := m.logEvent r.serverId .error "relay health check failed" (some message) [r.conn]
  { m with
    relayHealthFingerprints := m.relayHealthFingerprints.erase r.serverId
    relayHealthLogIds := m.relayHealthLogIds.erase r.serverId }

def probed (m : Manager) (r : Request) (result : DeviceProbeResult) (level : ConnectionEventLevel) (message : String)
    (detail : Option String) : Manager :=
  let m := m.write r.conn fun conn => { conn with deviceProbe := some ⟨r.conn,result⟩ }
  let m := m.emit r.serverId (.deviceProbe ⟨r.conn,result⟩)
  m.logEvent r.serverId level message detail [r.conn]

def gotProbe (m : Manager) (r : Request) (result : DeviceProbeResult) (status : Nat) : Manager :=
  if result.reachable then m.probed r result .success "device reachable through relay" none
  else m.probed r result .warn ("device probe: " ++ result.errorCode.getD s!"HTTP {status}") result.errorMessage

def failedProbe (m : Manager) (r : Request) (result : DeviceProbeResult) (message : String) : Manager :=
  m.probed r result .error "device probe failed" (some message)

end Manager

/-- The result of a probe; an answer that is fine has no code. -/
def probeResult (ok : Bool) (status : Nat) (body : Option String × Option String) : DeviceProbeResult :=
  ⟨ok,some status,if ok then none else body.1,if ok then none else body.2⟩

def networkError (message : String) : DeviceProbeResult := ⟨false,none,some "NETWORK_ERROR",some message⟩

/-- What follows the wait for the answer to a request, and what its promise gives. -/
def answer (m : Manager) (r : Request) : Outcome → Option (Manager × From Result)
  | .deviceInfo info =>
    match r.kind with
    | .deviceInfo => some (m.gotDeviceInfo r info,⟨r.conn,.deviceInfo (some info)⟩)
    | .activity _ | .relayHealth | .deviceProbe => none
  | .activity entries =>
    match r.kind with
    | .activity _ => some (m.gotActivity r entries,⟨r.conn,.activity entries⟩)
    | .deviceInfo | .relayHealth | .deviceProbe => none
  | .relayHealth health =>
    match r.kind with
    | .relayHealth => some (m.gotRelayHealth r health,⟨r.conn,.relayHealth (some health)⟩)
    | .deviceInfo | .activity _ | .deviceProbe => none
  | .probe ok status body =>
    match r.kind with
    | .deviceProbe =>
      let result := probeResult ok status body
      some (m.gotProbe r result status,⟨r.conn,.deviceProbe result⟩)
    | .deviceInfo | .activity _ | .relayHealth => none
  | .fails message =>
    match r.kind with
    | .deviceInfo =>
      let given : From Result :=
        match m.knownDeviceInfo r with
        | some info => ⟨info.source,.deviceInfo (some info.value)⟩
        | none => ⟨r.conn,.deviceInfo none⟩
      some (m.failedDeviceInfo r message,given)
    | .activity _ => some (m.failedActivity r message,⟨r.conn,.activity []⟩)
    | .relayHealth => some (m.failedRelayHealth r message,⟨r.conn,.relayHealth none⟩)
    | .deviceProbe => some (m.failedProbe r (networkError message) message,⟨r.conn,.deviceProbe (networkError message)⟩)

/-- The promise leaves the table of its kind, if it is still there. -/
def Manager.forget (m : Manager) (n : Nat) (r : Request) : Manager :=
  match r.kind with
  | .deviceInfo =>
    if m.deviceInfoInflight.lookup r.serverId = some n then
      { m with deviceInfoInflight := m.deviceInfoInflight.erase r.serverId }
    else m
  | .activity sinceId =>
    if sinceId = 0 ∧ m.activityInflight.lookup r.serverId = some n then
      { m with activityInflight := m.activityInflight.erase r.serverId }
    else m
  | .relayHealth | .deviceProbe => m

inductive Action
  | connect (server : ServerConfig)
  | disconnect (serverId : String)
  | fetchDeviceInfo (serverId : String)
  | fetchActivity (serverId : String) (sinceId : Nat)
  | fetchRelayHealth (serverId : String)
  | probeRelayDevice (serverId : String)
  /-- A request is answered or fails, and what follows its wait runs. -/
  | settles (n : Nat) (outcome : Outcome)
  /-- The promise is forgotten and gives its result to the calls that wait for it. -/
  | returns (n : Nat)

def step (m : Manager) : Action → Option Manager
  | .connect server => some (m.connect server)
  | .disconnect serverId => some (m.disconnect serverId)
  | .fetchDeviceInfo serverId => some (m.fetchDeviceInfo serverId)
  | .fetchActivity serverId sinceId => some (m.fetchActivity serverId sinceId)
  | .fetchRelayHealth serverId => some (m.fetchRelayHealth serverId)
  | .probeRelayDevice serverId => some (m.probeRelayDevice serverId)
  | .settles n outcome =>
    match m.requests[n]? with
    | none => none
    | some r =>
      if r.result.isSome then none
      else (answer m r outcome).map fun handled =>
        { handled.1 with requests := handled.1.requests.modify n fun r => { r with result := some handled.2 } }
  | .returns n =>
    match m.requests[n]? with
    | none => none
    | some r =>
      match r.result with
      | none => none
      | some value =>
        if r.returned then none
        else some { m.forget n r with
          requests := m.requests.modify n fun r => { r with returned := true }
          returned := m.returned ++ r.callers.map fun caller => ⟨caller,value⟩ }

/-! ### Separation -/

/-- All that is written to the current connection of an id came from its own requests, and
    so did all that was emitted or returned about it. -/
structure Separate (m : Manager) : Prop where
  written : ∀ id k, m.connections.lookup id = some k → ∀ conn, m.conns[k]? = some conn → ∀ source ∈ conn.sources, source = k
  emitted : ∀ e ∈ m.emitted, ∀ k, e.about = some k → ∀ source ∈ e.event.sources, source = k
  returned : ∀ r ∈ m.returned, ∀ k, r.about = some k → r.value.source = k

/-- A request is handled while the connection that made it is the current one of its id, or
    there is none; and all who wait for its promise called it then. -/
def Keeps (m : Manager) : Action → Prop
  | .settles n _ => ∀ r, m.requests[n]? = some r → ∀ k, m.connections.lookup r.serverId = some k → k = r.conn
  | .returns n => ∀ r, m.requests[n]? = some r → ∀ k, some k ∈ r.callers → k = r.conn
  | _ => True

/-! ### What handling an answer can do -/

/-- Device information is only ever written by the connection's own requests. -/
def Own (m : Manager) : Prop :=
  ∀ (k : Nat) (conn : ServerConnection), m.conns[k]? = some conn → ∀ info, conn.deviceInfo = some info → info.source = k

/-- The effect of the code behind a wait: it writes, logs and emits what came from connection `k`,
    under an id. -/
structure Handles (k : Nat) (id : String) (m m' : Manager) : Prop where
  connections : m'.connections = m.connections
  requests : m'.requests = m.requests
  returned : m'.returned = m.returned
  emitted : m.emitted <+: m'.emitted
  own : Own m → Own m'
  separate : (∀ current, m.connections.lookup id = some current → current = k) → Separate m → Separate m'

section
variable {k : Nat} {id : String} {m m' m'' : Manager}

theorem Handles.refl (k : Nat) (id : String) (m : Manager) : Handles k id m m :=
  ⟨rfl,rfl,rfl,List.prefix_refl _,fun own => own,fun _ separate => separate⟩

theorem Handles.trans (first : Handles k id m m') (second : Handles k id m' m'') : Handles k id m m'' where
  connections := second.connections.trans first.connections
  requests := second.requests.trans first.requests
  returned := second.returned.trans first.returned
  emitted := first.emitted.trans second.emitted
  own held := second.own (first.own held)
  separate current held := by
    refine second.separate ?_ (first.separate current held)
    rwa [first.connections]

/-- Tables of the manager that hold no values are of no account. -/
theorem Handles.tables (handles : Handles k id m m') (counter : Nat) (fingerprints : Table String String)
    (logIds : Table String (List Nat)) :
    Handles k id m { m' with eventIdCounter := counter, relayHealthFingerprints := fingerprints, relayHealthLogIds := logIds } where
  connections := handles.connections
  requests := handles.requests
  returned := handles.returned
  emitted := handles.emitted
  own held := handles.own held
  separate current held := by
    have kept := handles.separate current held
    exact ⟨kept.written,kept.emitted,kept.returned⟩

theorem emit_handles (event : Event) (from_ : Separate m → m.connections.lookup id = some k → ∀ source ∈ event.sources, source = k) :
    Handles k id m (m.emit id event) where
  connections := rfl
  requests := rfl
  returned := rfl
  emitted := List.prefix_append _ _
  own held := held
  separate current separate := by
    refine ⟨separate.written,?_,separate.returned⟩
    intro e member j about source here
    rcases List.mem_append.mp member with old | new
    · exact separate.emitted e old j about source here
    · cases List.mem_singleton.mp new
      have here_ : m.connections.lookup id = some j := about
      have same := current j here_
      subst same
      exact from_ separate here_ source here

theorem conns_write (m : Manager) (f : ServerConnection → ServerConnection) (j : Nat) :
    (m.write k f).conns[j]? = if k = j then (m.conns[j]?).map f else m.conns[j]? := by
  show (m.conns.modify k f)[j]? = _
  rw [List.getElem?_modify]
  split
  · next same => simp
  · simp

theorem own_write {f : ServerConnection → ServerConnection}
    (from_ : ∀ conn, m.conns[k]? = some conn → ∀ info, (f conn).deviceInfo = some info → conn.deviceInfo = some info ∨ info.source = k)
    (held : Own m) : Own (m.write k f) := by
  intro j conn found info known
  rw [conns_write] at found
  split at found
  · next same =>
    subst same
    obtain ⟨old,there,rfl⟩ := Option.map_eq_some_iff.mp found
    rcases from_ old there info known with before | now
    · exact held k old there info before
    · exact now
  · exact held j conn found info known

theorem write_handles {f : ServerConnection → ServerConnection} (id : String)
    (from_ : ∀ conn, m.conns[k]? = some conn →
      (∀ source ∈ (f conn).sources, source ∈ conn.sources ∨ source = k) ∧
        ∀ info, (f conn).deviceInfo = some info → conn.deviceInfo = some info ∨ info.source = k) :
    Handles k id m (m.write k f) where
  connections := rfl
  requests := rfl
  returned := rfl
  emitted := List.prefix_refl _
  own := own_write fun conn found => (from_ conn found).2
  separate _ separate := by
    refine ⟨?_,separate.emitted,separate.returned⟩
    intro id' j current conn found source member
    rw [conns_write] at found
    split at found
    · next same =>
      subst same
      obtain ⟨old,there,rfl⟩ := Option.map_eq_some_iff.mp found
      rcases (from_ old there).1 source member with before | now
      · exact separate.written id' k current old there source before
      · exact now
    · exact separate.written id' j current conn found source member

/-! ### Logs -/

theorem mem_logSources {log : List ConnectionEvent} {source : Nat} :
    source ∈ logSources log ↔ ∃ entry ∈ log, source ∈ entry.sources :=
  List.mem_flatMap

theorem sliceLast_subset (log : List ConnectionEvent) : logSources (sliceLast log) ⊆ logSources log := by
  intro source here
  obtain ⟨entry,member,brought⟩ := mem_logSources.mp here
  exact mem_logSources.mpr ⟨entry,List.mem_of_mem_drop member,brought⟩

theorem mem_sources {conn : ServerConnection} {source : Nat} :
    source ∈ conn.sources ↔
      (∃ info, conn.deviceInfo = some info ∧ info.source = source) ∨ source = conn.activity.source ∨
        (∃ health, conn.relayHealth = some health ∧ health.source = source) ∨
          (∃ result, conn.deviceProbe = some result ∧ result.source = source) ∨
            source ∈ logSources conn.connectionLog ∨ source ∈ logSources conn.telemetryLog := by
  simp [ServerConnection.sources]

open Manager (Log)

theorem of_subset (which : Log) (conn : ServerConnection) : logSources (which.of conn) ⊆ conn.sources := by
  intro source here
  cases which with
  | connection => exact mem_sources.mpr (.inr (.inr (.inr (.inr (.inl here)))))
  | telemetry => exact mem_sources.mpr (.inr (.inr (.inr (.inr (.inr here)))))

theorem set_sources {which : Log} {log : List ConnectionEvent} {conn : ServerConnection} {source : Nat}
    (here : source ∈ (which.set log conn).sources) : source ∈ conn.sources ∨ source ∈ logSources log := by
  rw [mem_sources] at here ⊢
  cases which with
  | connection =>
    rcases here with h | h | h | h | h | h
    all_goals simp_all [Log.set]
  | telemetry =>
    rcases here with h | h | h | h | h | h
    all_goals simp_all [Log.set]

theorem set_deviceInfo (which : Log) (log : List ConnectionEvent) (conn : ServerConnection) :
    (which.set log conn).deviceInfo = conn.deviceInfo := by
  cases which <;> rfl

theorem event_sources (which : Log) (log : List ConnectionEvent) : (which.event log).sources = logSources log := by
  cases which <;> rfl

theorem of_set (which : Log) (log : List ConnectionEvent) (conn : ServerConnection) : which.of (which.set log conn) = log := by
  cases which <;> rfl

/-- A log of the connection itself is written and emitted. -/
theorem relog_handles {conn : ServerConnection} {log : List ConnectionEvent} (which : Log) (id : String)
    (found : m.conns[k]? = some conn) (from_ : ∀ source ∈ logSources log, source ∈ conn.sources ∨ source = k) :
    Handles k id m ((m.write k fun conn => which.set log conn).emit id (which.event log)) := by
  have wrote : Handles k id m (m.write k fun conn => which.set log conn) := by
    refine write_handles id fun conn' found' => ?_
    cases found.symm.trans found'
    refine ⟨fun source here => ?_,fun info known => .inl (set_deviceInfo .. ▸ known)⟩
    rcases set_sources here with old | new
    · exact .inl old
    · exact from_ source new
  refine wrote.trans (emit_handles _ fun separate current source here => ?_)
  have now : (m.write k fun conn => which.set log conn).conns[k]? = some (which.set log conn) := by
    rw [conns_write,if_pos rfl,found,Option.map_some]
  refine separate.written id k current _ now source (of_subset which _ ?_)
  rwa [of_set,← event_sources which]

theorem push_handles (which : Log) (m : Manager) (id : String) (level : ConnectionEventLevel) (message : String) (detail : Option String)
    (sources : List Nat) (from_ : ∀ source ∈ sources, source = k) :
    Handles k id m (Manager.push which m id level message detail sources) := by
  unfold Manager.push
  split
  · exact .refl k id m
  · next j current =>
    split
    · exact .refl k id m
    · next conn found =>
      by_cases same : j = k
      · subst same
        refine (relog_handles which id found fun source here => ?_).tables (m.eventIdCounter + 1) m.relayHealthFingerprints m.relayHealthLogIds
        obtain ⟨entry,member,brought⟩ := mem_logSources.mp (sliceLast_subset _ here)
        rcases List.mem_append.mp member with old | new
        · exact .inl (of_subset which conn (mem_logSources.mpr ⟨entry,old,brought⟩))
        · cases List.mem_singleton.mp new
          exact .inr (from_ source brought)
      · -- the id has another connection by now, and its log gets the line
        refine ⟨rfl,rfl,rfl,List.prefix_append _ _,?_,fun own => absurd (own j current) same⟩
        intro held
        exact own_write (fun _ _ info known => .inl (set_deviceInfo which _ _ ▸ known)) held

theorem logTelemetries_handles (m : Manager) (id : String) (lines : List (String × String)) :
    Handles k id m (m.logTelemetries id k lines) := by
  induction lines generalizing m with
  | nil => exact .refl k id m
  | cons line rest ih =>
    exact (push_handles .telemetry m id .info line.1 (some line.2) [k] fun source here => List.mem_singleton.mp here).trans (ih _)

end

/-! ### The answers -/

/-- The code behind a wait, which emits something under the id first or after a write. -/
structure Reports (r : Request) (m m' : Manager) : Prop where
  handles : Handles r.conn r.serverId m m'
  loud : ∃ e ∈ m'.emitted, e.about = m.connections.lookup r.serverId ∧ r.conn ∈ e.event.sources

section
variable {r : Request} {m m' m'' : Manager}

theorem Reports.of_emit (event : Event) (before : Handles r.conn r.serverId m m') (from_ : event.sources = [r.conn])
    (after : Handles r.conn r.serverId (m'.emit r.serverId event) m'') : Reports r m m'' where
  handles := by
    refine (before.trans (emit_handles event fun _ _ source here => ?_)).trans after
    rwa [from_,List.mem_singleton] at here
  loud := by
    refine ⟨⟨r.serverId,m'.connections.lookup r.serverId,event⟩,after.emitted.subset ?_,?_,?_⟩
    · exact List.mem_append_right _ (List.mem_singleton_self _)
    · rw [before.connections]
    · rw [from_]; exact List.mem_singleton_self _

theorem log_handles (m : Manager) (id : String) (k : Nat) (level : ConnectionEventLevel) (message : String) (detail : Option String) :
    Handles k id m (m.logEvent id level message detail [k]) :=
  push_handles .connection m id level message detail [k] fun _ here => List.mem_singleton.mp here

/-! A connection's own field is written. -/

theorem writeDeviceInfo_handles (m : Manager) (id : String) (k : Nat) (info : DeviceInfo) :
    Handles k id m (m.write k fun conn => { conn with deviceInfo := some ⟨k,info⟩ }) := by
  refine write_handles id fun conn _ => ⟨fun source here => ?_,fun info' known => ?_⟩
  · rw [mem_sources] at here ⊢
    simp only [Option.some.injEq,exists_eq_left'] at here
    grind
  · cases known
    exact .inr rfl

theorem writeActivity_handles (m : Manager) (id : String) (k : Nat) (entries : List ActivityEntry) :
    Handles k id m (m.write k fun conn => { conn with activity := ⟨k,entries⟩ }) := by
  refine write_handles id fun conn _ => ⟨fun source here => ?_,fun info' known => .inl known⟩
  rw [mem_sources] at here ⊢
  grind

theorem writeRelayHealth_handles (m : Manager) (id : String) (k : Nat) (health : Option RelayHealthInfo) :
    Handles k id m (m.write k fun conn => { conn with relayHealth := health.map fun h => ⟨k,h⟩ }) := by
  refine write_handles id fun conn _ => ⟨fun source here => ?_,fun info' known => .inl known⟩
  rw [mem_sources] at here ⊢
  simp only [Option.map_eq_some_iff] at here
  grind

theorem writeDeviceProbe_handles (m : Manager) (id : String) (k : Nat) (result : DeviceProbeResult) :
    Handles k id m (m.write k fun conn => { conn with deviceProbe := some ⟨k,result⟩ }) := by
  refine write_handles id fun conn _ => ⟨fun source here => ?_,fun info' known => .inl known⟩
  rw [mem_sources] at here ⊢
  simp only [Option.some.injEq,exists_eq_left'] at here
  grind

theorem gotDeviceInfo_reports (m : Manager) (r : Request) (info : DeviceInfo) : Reports r m (m.gotDeviceInfo r info) :=
  .of_emit _ (writeDeviceInfo_handles m r.serverId r.conn info) rfl
    ((log_handles _ _ _ _ _ _).trans (logTelemetries_handles _ _ _))

theorem failedDeviceInfo_reports (m : Manager) (r : Request) (message : String) : Reports r m (m.failedDeviceInfo r message) := by
  refine .of_emit _ ?_ rfl (log_handles _ _ _ _ _ _)
  split
  · exact emit_handles _ fun _ _ source here => List.mem_singleton.mp here
  · exact .refl _ _ m

theorem gotActivity_reports (m : Manager) (r : Request) (entries : List ActivityEntry) : Reports r m (m.gotActivity r entries) :=
  .of_emit _ (writeActivity_handles m r.serverId r.conn entries) rfl (.refl _ _ _)

theorem failedActivity_reports (m : Manager) (r : Request) (message : String) : Reports r m (m.failedActivity r message) :=
  .of_emit _ (.refl _ _ m) rfl (.refl _ _ _)

theorem refreshed_sources {source : Nat} {health : RelayHealthInfo} {entry : ConnectionEvent} {k : Nat}
    (here : source ∈ (Manager.refreshed k health entry).sources) : source ∈ entry.sources ∨ source = k := by
  unfold Manager.refreshed at here
  split at here
  · exact (List.mem_cons.mp here).symm
  · exact .inl here

theorem refresh_handles (m : Manager) (r : Request) (health : RelayHealthInfo) (ids : List Nat) :
    Handles r.conn r.serverId m (m.refresh r health ids) := by
  unfold Manager.refresh
  split
  · exact .refl _ _ m
  · split
    · exact .refl _ _ m
    · next conn found =>
      refine relog_handles .connection r.serverId found fun source here => ?_
      obtain ⟨entry,member,brought⟩ := mem_logSources.mp (sliceLast_subset _ here)
      have logged : ∀ old ∈ conn.connectionLog, source ∈ old.sources → source ∈ conn.sources :=
        fun old there brought => of_subset .connection conn (mem_logSources.mpr ⟨old,there,brought⟩)
      rcases List.mem_append.mp member with kept | moved
      · exact .inl (logged entry (List.mem_filter.mp kept).1 brought)
      · obtain ⟨old,there,rfl⟩ := List.mem_map.mp moved
        rcases refreshed_sources brought with before | now
        · exact .inl (logged old (List.mem_filter.mp there).1 before)
        · exact .inr now

theorem logHealth_handles (m : Manager) (r : Request) (health : RelayHealthInfo) :
    Handles r.conn r.serverId m (m.logHealth r health) :=
  ((log_handles m _ _ _ _ _).trans (logTelemetries_handles _ _ _)).tables _ _ _

theorem gotRelayHealth_reports (m : Manager) (r : Request) (health : RelayHealthInfo) : Reports r m (m.gotRelayHealth r health) := by
  unfold Manager.gotRelayHealth
  refine .of_emit (.relayHealth ⟨r.conn,some health⟩) (writeRelayHealth_handles m r.serverId r.conn (some health)) rfl ?_
  dsimp only
  split
  · exact refresh_handles _ r health _
  · exact logHealth_handles _ r health

theorem failedRelayHealth_reports (m : Manager) (r : Request) (message : String) : Reports r m (m.failedRelayHealth r message) := by
  refine .of_emit (.relayHealth ⟨r.conn,none⟩) (writeRelayHealth_handles m r.serverId r.conn none) rfl
    (.tables (.trans (emit_handles (.error ⟨r.conn,message⟩) fun _ _ source here => ?_) (log_handles _ _ _ _ _ _)) _ _ _)
  exact List.mem_singleton.mp here

theorem probed_reports (m : Manager) (r : Request) (result : DeviceProbeResult) (level : ConnectionEventLevel) (message : String)
    (detail : Option String) : Reports r m (m.probed r result level message detail) :=
  .of_emit _ (writeDeviceProbe_handles m r.serverId r.conn result) rfl (log_handles _ _ _ _ _ _)

theorem gotProbe_reports (m : Manager) (r : Request) (result : DeviceProbeResult) (status : Nat) :
    Reports r m (m.gotProbe r result status) := by
  unfold Manager.gotProbe
  split
  · exact probed_reports m r result _ _ _
  · exact probed_reports m r result _ _ _

end

/-- What a promise gives came from the connection that asked. -/
theorem answer_spec {m : Manager} {r : Request} {outcome : Outcome} {handled : Manager × From Result}
    (answered : answer m r outcome = some handled) : Reports r m handled.1 ∧ (Own m → handled.2.source = r.conn) := by
  unfold answer at answered
  cases outcome with
  | deviceInfo info =>
    cases kind : r.kind <;> simp only [kind,reduceCtorEq,Option.some.injEq] at answered
    subst answered
    exact ⟨gotDeviceInfo_reports m r info,fun _ => rfl⟩
  | activity entries =>
    cases kind : r.kind <;> simp only [kind,reduceCtorEq,Option.some.injEq] at answered
    subst answered
    exact ⟨gotActivity_reports m r entries,fun _ => rfl⟩
  | relayHealth health =>
    cases kind : r.kind <;> simp only [kind,reduceCtorEq,Option.some.injEq] at answered
    subst answered
    exact ⟨gotRelayHealth_reports m r health,fun _ => rfl⟩
  | probe ok status body =>
    cases kind : r.kind <;> simp only [kind,reduceCtorEq,Option.some.injEq] at answered
    subst answered
    exact ⟨gotProbe_reports m r _ status,fun _ => rfl⟩
  | fails message =>
    cases kind : r.kind <;> simp only [kind,Option.some.injEq] at answered
    case deviceInfo =>
      subst answered
      refine ⟨failedDeviceInfo_reports m r message,fun own => ?_⟩
      cases known : m.knownDeviceInfo r with
      | none => rfl
      | some info =>
        obtain ⟨conn,found,known⟩ := Option.bind_eq_some_iff.mp known
        exact own r.conn conn found info known
    case activity => subst answered; exact ⟨failedActivity_reports m r message,fun _ => rfl⟩
    case relayHealth => subst answered; exact ⟨failedRelayHealth_reports m r message,fun _ => rfl⟩
    case deviceProbe => subst answered; exact ⟨probed_reports m r _ _ _ _,fun _ => rfl⟩

/-! ### One step -/

/-- What every run keeps: the device information of a connection and the results of its
    requests are its own. -/
structure Sound (m : Manager) : Prop where
  own : Own m
  results : ∀ (n : Nat) (r : Request), m.requests[n]? = some r → ∀ value, r.result = some value → value.source = r.conn

section
variable {m m' : Manager} {a : Action}

theorem start_sound : Sound start := ⟨fun _ _ found => by simp [start] at found,fun _ _ found => by simp [start] at found⟩

theorem start_separate : Separate start :=
  ⟨fun _ _ current => by simp [start] at current,fun _ member => by simp [start] at member,fun _ member => by simp [start] at member⟩

theorem results_modify {n : Nat} {f : Request → Request} {requests : List Request}
    (results : ∀ (n : Nat) (r : Request), requests[n]? = some r → ∀ value, r.result = some value → value.source = r.conn)
    (kept : ∀ r, requests[n]? = some r → ∀ value, (f r).result = some value → value.source = (f r).conn) (j : Nat) (r : Request)
    (found : (requests.modify n f)[j]? = some r) (value : From Result) (given : r.result = some value) : value.source = r.conn := by
  rw [List.getElem?_modify] at found
  obtain ⟨old,there,rfl⟩ := Option.map_eq_some_iff.mp found
  split at given
  · next same =>
    subst same
    rw [if_pos rfl]
    exact kept old there value given
  · next other =>
    rw [if_neg other]
    exact results j old there value given

/-- Nothing is written to a new connection but a line of its own. -/
theorem connect_spec (m : Manager) (server : ServerConfig) :
    (Sound m → Sound (m.connect server)) ∧ (Separate m → Separate (m.connect server)) := by
  unfold Manager.connect
  split
  · exact ⟨fun sound => sound,fun separate => separate⟩
  · let conn : ServerConnection := { config := server, activity := ⟨m.conns.length,[]⟩ }
    let made : Manager := { m with conns := m.conns ++ [conn], connections := m.connections.insert server.id m.conns.length }
    have logged : Handles m.conns.length server.id made (made.logEvent server.id .info "connecting..." (some conn.target) []) :=
      push_handles .connection made server.id .info "connecting..." (some conn.target) [] fun _ member => absurd member List.not_mem_nil
    have split : ∀ (k : Nat) (found : ServerConnection), made.conns[k]? = some found →
        m.conns[k]? = some found ∨ k = m.conns.length ∧ found = conn := by
      intro k found there
      have there : (m.conns ++ [conn])[k]? = some found := there
      rw [List.getElem?_append] at there
      split at there
      · exact .inl there
      · rw [List.getElem?_singleton] at there
        split at there
        · cases there
          exact .inr ⟨by omega,rfl⟩
        · cases there
    constructor
    · intro sound
      have own : Own made := by
        intro k found there info known
        rcases split k found there with old | ⟨_,rfl⟩
        · exact sound.own k found old info known
        · cases known
      refine ⟨logged.own own,?_⟩
      rw [logged.requests]
      exact sound.results
    · intro separate
      have apart : Separate made := by
        refine ⟨?_,separate.emitted,separate.returned⟩
        intro id k current found there source member
        rcases split k found there with old | ⟨rfl,rfl⟩
        · by_cases same : id = server.id
          · have number : (m.connections.insert server.id m.conns.length).lookup id = some k := current
            rw [Table.lookup_insert_eq,if_pos same] at number
            cases number
            simp at old
          · have number : (m.connections.insert server.id m.conns.length).lookup id = some k := current
            rw [Table.lookup_insert_eq,if_neg same] at number
            exact separate.written id k number found old source member
        · simpa [mem_sources,logSources,conn] using member
      refine logged.separate (fun current number => ?_) apart
      have number : (m.connections.insert server.id m.conns.length).lookup server.id = some current := number
      rw [Table.lookup_insert_eq,if_pos rfl] at number
      exact (Option.some.inj number).symm

theorem disconnect_spec (m : Manager) (serverId : String) :
    (Sound m → Sound (m.disconnect serverId)) ∧ (Separate m → Separate (m.disconnect serverId)) := by
  unfold Manager.disconnect
  split
  · exact ⟨fun sound => sound,fun separate => separate⟩
  · refine ⟨fun sound => ⟨sound.own,sound.results⟩,fun separate => ⟨?_,separate.emitted,separate.returned⟩⟩
    intro id k current
    have current : (m.connections.erase serverId).lookup id = some k := current
    rw [Table.lookup_erase_eq] at current
    split at current
    · cases current
    · exact separate.written id k current

theorem request_spec (m : Manager) (kind : Kind) (serverId : String) (k : Nat) :
    (Sound m → Sound (m.request kind serverId k)) ∧ (Separate m → Separate (m.request kind serverId k)) := by
  refine ⟨fun sound => ⟨sound.own,?_⟩,fun separate => ⟨separate.written,separate.emitted,separate.returned⟩⟩
  intro n r found value given
  have found : (m.requests ++ [_])[n]? = some r := found
  rw [List.getElem?_append] at found
  split at found
  · exact sound.results n r found value given
  · rw [List.getElem?_singleton] at found
    split at found
    · cases found
      cases given
    · cases found

theorem join_spec (m : Manager) (serverId : String) (n : Nat) :
    (Sound m → Sound (m.join serverId n)) ∧ (Separate m → Separate (m.join serverId n)) := by
  refine ⟨fun sound => ⟨sound.own,?_⟩,fun separate => ⟨separate.written,separate.emitted,separate.returned⟩⟩
  exact results_modify sound.results fun r found value given => sound.results n r found value given

theorem fetchDeviceInfo_spec (m : Manager) (serverId : String) :
    (Sound m → Sound (m.fetchDeviceInfo serverId)) ∧ (Separate m → Separate (m.fetchDeviceInfo serverId)) := by
  unfold Manager.fetchDeviceInfo
  split
  · exact join_spec m serverId _
  · split
    · exact ⟨fun sound => sound,fun separate => separate⟩
    · next k _ =>
      have asked := request_spec m .deviceInfo serverId k
      refine ⟨fun sound => ⟨(asked.1 sound).own,(asked.1 sound).results⟩,fun separate => ?_⟩
      exact ⟨(asked.2 separate).written,(asked.2 separate).emitted,(asked.2 separate).returned⟩

theorem fetchActivity_spec (m : Manager) (serverId : String) (sinceId : Nat) :
    (Sound m → Sound (m.fetchActivity serverId sinceId)) ∧ (Separate m → Separate (m.fetchActivity serverId sinceId)) := by
  unfold Manager.fetchActivity
  split
  · exact join_spec m serverId _
  · split
    · exact ⟨fun sound => sound,fun separate => separate⟩
    · next k _ =>
      have asked := request_spec m (.activity sinceId) serverId k
      dsimp only
      split
      · refine ⟨fun sound => ⟨(asked.1 sound).own,(asked.1 sound).results⟩,fun separate => ?_⟩
        exact ⟨(asked.2 separate).written,(asked.2 separate).emitted,(asked.2 separate).returned⟩
      · exact asked

theorem fetchRelayHealth_spec (m : Manager) (serverId : String) :
    (Sound m → Sound (m.fetchRelayHealth serverId)) ∧ (Separate m → Separate (m.fetchRelayHealth serverId)) := by
  unfold Manager.fetchRelayHealth
  split
  · exact ⟨fun sound => sound,fun separate => separate⟩
  · split
    · exact ⟨fun sound => sound,fun separate => separate⟩
    · exact request_spec m .relayHealth serverId _

theorem probeRelayDevice_spec (m : Manager) (serverId : String) :
    (Sound m → Sound (m.probeRelayDevice serverId)) ∧ (Separate m → Separate (m.probeRelayDevice serverId)) := by
  unfold Manager.probeRelayDevice
  split
  · exact ⟨fun sound => sound,fun separate => separate⟩
  · next k current =>
    split
    · next _ serial _ _ =>
      -- the line about the probe is the manager's own
      have logged : Handles k serverId m (m.logEvent serverId .info ("probing device " ++ serial ++ " through relay...") none []) :=
        push_handles .connection m serverId .info _ none [] fun _ member => absurd member List.not_mem_nil
      have asked := request_spec (m.logEvent serverId .info ("probing device " ++ serial ++ " through relay...") none []) .deviceProbe serverId k
      refine ⟨fun sound => asked.1 ⟨logged.own sound.own,?_⟩,fun separate => asked.2 (logged.separate ?_ separate)⟩
      · rw [logged.requests]
        exact sound.results
      · intro j number
        exact Option.some.inj (number.symm.trans current)
    · exact ⟨fun sound => sound,fun separate => separate⟩

theorem forget_fields (m : Manager) (n : Nat) (r : Request) :
    (m.forget n r).connections = m.connections ∧ (m.forget n r).conns = m.conns ∧ (m.forget n r).emitted = m.emitted := by
  unfold Manager.forget
  split
  · split <;> exact ⟨rfl,rfl,rfl⟩
  · split <;> exact ⟨rfl,rfl,rfl⟩
  · exact ⟨rfl,rfl,rfl⟩
  · exact ⟨rfl,rfl,rfl⟩

theorem settles_cases {n : Nat} {outcome : Outcome} (stepped : step m (.settles n outcome) = some m') :
    ∃ r handled, m.requests[n]? = some r ∧ answer m r outcome = some handled ∧
      m' = { handled.1 with requests := handled.1.requests.modify n fun r => { r with result := some handled.2 } } := by
  simp only [step] at stepped
  split at stepped
  · cases stepped
  · next r found =>
    split at stepped
    · cases stepped
    · obtain ⟨handled,answered,rfl⟩ := Option.map_eq_some_iff.mp stepped
      exact ⟨r,handled,found,answered,rfl⟩

theorem returns_cases {n : Nat} (stepped : step m (.returns n) = some m') :
    ∃ r value, m.requests[n]? = some r ∧ r.result = some value ∧
      m' = { m.forget n r with
        requests := m.requests.modify n fun r => { r with returned := true }
        returned := m.returned ++ r.callers.map fun caller => ⟨caller,value⟩ } := by
  simp only [step] at stepped
  split at stepped
  · cases stepped
  · next r found =>
    split at stepped
    · cases stepped
    · next value given =>
      split at stepped
      · cases stepped
      · exact ⟨r,value,found,given,(Option.some.inj stepped).symm⟩

theorem sound_step (sound : Sound m) (stepped : step m a = some m') : Sound m' := by
  cases a with
  | connect server => cases stepped; exact (connect_spec m server).1 sound
  | disconnect serverId => cases stepped; exact (disconnect_spec m serverId).1 sound
  | fetchDeviceInfo serverId => cases stepped; exact (fetchDeviceInfo_spec m serverId).1 sound
  | fetchActivity serverId sinceId => cases stepped; exact (fetchActivity_spec m serverId sinceId).1 sound
  | fetchRelayHealth serverId => cases stepped; exact (fetchRelayHealth_spec m serverId).1 sound
  | probeRelayDevice serverId => cases stepped; exact (probeRelayDevice_spec m serverId).1 sound
  | settles n outcome =>
    obtain ⟨r,handled,found,answered,rfl⟩ := settles_cases stepped
    obtain ⟨reports,given⟩ := answer_spec answered
    refine ⟨reports.handles.own sound.own,?_⟩
    have results := sound.results
    rw [← reports.handles.requests] at results found
    refine results_modify results fun r' found' value here => ?_
    cases found.symm.trans found'
    cases here
    exact given sound.own
  | returns n =>
    obtain ⟨r,value,found,given,rfl⟩ := returns_cases stepped
    obtain ⟨_,conns,_⟩ := forget_fields m n r
    refine ⟨?_,results_modify sound.results fun r found value given => sound.results n r found value given⟩
    have own := sound.own
    unfold Own at own ⊢
    rwa [← conns] at own

theorem separate_iff (sound : Sound m) (separate : Separate m) (stepped : step m a = some m') : Separate m' ↔ Keeps m a := by
  cases a with
  | connect server => cases stepped; exact iff_of_true ((connect_spec m server).2 separate) trivial
  | disconnect serverId => cases stepped; exact iff_of_true ((disconnect_spec m serverId).2 separate) trivial
  | fetchDeviceInfo serverId => cases stepped; exact iff_of_true ((fetchDeviceInfo_spec m serverId).2 separate) trivial
  | fetchActivity serverId sinceId => cases stepped; exact iff_of_true ((fetchActivity_spec m serverId sinceId).2 separate) trivial
  | fetchRelayHealth serverId => cases stepped; exact iff_of_true ((fetchRelayHealth_spec m serverId).2 separate) trivial
  | probeRelayDevice serverId => cases stepped; exact iff_of_true ((probeRelayDevice_spec m serverId).2 separate) trivial
  | settles n outcome =>
    obtain ⟨r,handled,found,answered,rfl⟩ := settles_cases stepped
    obtain ⟨reports,_⟩ := answer_spec answered
    constructor
    · intro after r' found' k current
      cases found.symm.trans found'
      -- what was emitted about the current connection came from the one that asked
      obtain ⟨e,member,about,brought⟩ := reports.loud
      exact (after.emitted e member k (about.trans current) r.conn brought).symm
    · intro kept
      have after := reports.handles.separate (kept r found) separate
      exact ⟨after.written,after.emitted,after.returned⟩
  | returns n =>
    obtain ⟨r,value,found,given,rfl⟩ := returns_cases stepped
    obtain ⟨connections,conns,emitted⟩ := forget_fields m n r
    have source : value.source = r.conn := sound.results n r found value given
    constructor
    · intro after r' found' k waits
      cases found.symm.trans found'
      have here := after.returned ⟨some k,value⟩ (List.mem_append_right _ (List.mem_map.mpr ⟨some k,waits,rfl⟩)) k rfl
      exact here.symm.trans source
    · intro kept
      refine ⟨?_,?_,?_⟩
      · show ∀ id k, (m.forget n r).connections.lookup id = some k → ∀ conn, (m.forget n r).conns[k]? = some conn → _
        rw [connections,conns]
        exact separate.written
      · show ∀ e ∈ (m.forget n r).emitted, _
        rw [emitted]
        exact separate.emitted
      · intro given' member k about
        rcases List.mem_append.mp member with old | new
        · exact separate.returned given' old k about
        · obtain ⟨caller,waits,rfl⟩ := List.mem_map.mp new
          have about : caller = some k := about
          subst about
          exact source.trans (kept r found k waits).symm

end

/-- Every value written to, logged on, emitted about or returned for the current connection of an
    id came from its own requests, exactly in the runs in which no request is handled, and no
    promise is joined, under another connection of the id than the one that asked. -/
theorem separate_iff_along (as : List Action) : Always step Separate start as ↔ Along step Keeps start as :=
  always_iff_along (fun _ _ _ sound stepped => sound_step sound stepped)
    (fun _ _ _ sound separate stepped => separate_iff sound separate stepped) start_sound start_separate

/-- An answer to the first connection is logged on the second. -/
theorem report_leaks : ¬ ∀ as, Always step Separate start as := by
  intro all
  let first : ServerConfig := ⟨"a","ws://one","k"⟩
  let second : ServerConfig := ⟨"a","ws://two","k"⟩
  let info : DeviceInfo := { serial := "S", hostname := "one", kernel := "6", systemUptimeSecs := 5 }
  let as : List Action :=
    [.connect first,.fetchDeviceInfo "a",.disconnect "a",.connect second,.settles 0 (.deviceInfo info)]
  have leaked : (run step start as).any (fun m => m.emitted.any fun e => e.about == some 1 && e.event.sources.contains 0) = true := by
    decide +kernel
  cases ran : run step start as with
  | none => rw [ran] at leaked; cases leaked
  | some m =>
    rw [ran,Option.any_some,List.any_eq_true] at leaked
    obtain ⟨e,member,both⟩ := leaked
    obtain ⟨about,brought⟩ := Bool.and_eq_true_iff.mp both
    have separate : Separate m := always_last (all as) ran
    have same := separate.emitted e member 1 (by simpa using about) 0 (by simpa using brought)
    omega

end Sctl.ConnectionManager
