import Sctl.DeviceRegistry
import Sctl.McpClient

/-!
The sessions that this process started or attached (`mcp/src/websocket.rs`)
against the pool that hands out the connections to their devices
(`mcp/src/devices.rs`). A connection that is lost makes itself again and attaches
the sessions of its buffers; a tool call that meets a lost connection drops it
with its buffers and makes a new one. Tool calls come one after another, the I/O
loop of a connection works in between. Connections that the pool dropped are seen
by no later call.
-/
namespace Sctl.SessionPool
open Sctl.DeviceRegistry (getOrConnect getOrConnect_pooling)
open Sctl.McpClient Sctl.Runs Sctl.SessionBuffer

structure Connection where
  client : McpClient.Connection
  connected : Bool
  /-- Requests to attach that are not written yet. -/
  queue : List String
  /-- The sessions that the device sends on the present link. -/
  subscribed : List String

def Connection.new : Connection := ⟨⟨∅,fun _ => none⟩,true,[],[]⟩

def Connection.sessions (conn : Connection) : Table String McpClient.SessionBuffer := conn.client.sessions

def Connection.setSessions (conn : Connection) (sessions : Table String McpClient.SessionBuffer) : Connection :=
  { conn with client := { conn.client with sessions } }

/-- The tool call in progress, with the device whose connection it got. -/
inductive Call
  | idle
  | holding (name : String)
  | starting (name : String)
  | attaching (name sessionId : String) (notified : Bool)
deriving DecidableEq

structure State where
  connections : Table String Connection
  call : Call
  /-- The sessions that live on the devices. -/
  alive : List (String × String)
  /-- The sessions that this process started or attached, each with what came for it and was not
      returned since. -/
  known : Table (String × String) (List OutputEntry)

def State.start : State := ⟨∅,.idle,[],∅⟩

def State.setConnection (s : State) (name : String) (conn : Connection) : State :=
  { s with connections := s.connections.insert name conn }

/-! ### The parts of a call -/

/-- `read_output` under the lock, when there is something to return or the wait is over. -/
def readOutput (conn : Connection) (sessionId : String) (since : Nat) : Except String (List OutputEntry) :=
  match conn.sessions.lookup sessionId with
  | some buf => .ok (buf.readOutput since)
  | none => .error ("Session " ++ sessionId ++ " not found locally")

/-- `attach_session` up to its request. -/
def prepareAttach (conn : Connection) (sessionId : String) : Connection :=
  { conn.setSessions (conn.sessions.insert sessionId
      { (conn.sessions.lookup sessionId).getD .new with attached := false }) with
    queue := conn.queue ++ [sessionId] }

/-- The buffer for a session that was started. -/
def bufferFor (pty : Option Bool) : McpClient.SessionBuffer := { McpClient.SessionBuffer.new with isPty := pty.getD false }

/-- The message wakes a call that attaches the session. -/
def wakesAttach (m : Message) (sessionId : String) : Bool :=
  m.session? = some sessionId && match m with
    | .attached _ _ _ _ _ => true
    | .error _ _ _ => true
    | _ => false

def Call.hear (m : Message) (from_ : String) : Call → Call
  | .attaching name sessionId notified => .attaching name sessionId (notified || (name = from_ && wakesAttach m sessionId))
  | call => call

/-- The sessions that `reconnect_loop` attaches again: the device has them and their buffers say that they run. -/
def reattached (s : State) (name : String) (conn : Connection) (missed : List String) : List String :=
  (Table.keep (fun sessionId buf => buf.status = .running && (name,sessionId) ∈ s.alive && sessionId ∉ missed) conn.sessions).keys

/-- What came for a session is noted if this process started or attached it. -/
def note (s : State) (name : String) (conn : Connection) (m : Message) : Table (String × String) (List OutputEntry) :=
  match m.session? with
  | none => s.known
  | some sessionId =>
    match conn.sessions.lookup sessionId with
    | none => s.known
    | some buf => Table.modify (name,sessionId) (· ++ buf.pushes m) s.known

inductive Action
  /-- A tool call gets the connection to a device; `connects` is whether a new one can be made. -/
  | get (name : String) (connects : Bool)
  /-- The call returns, or gives up. -/
  | finish
  /-- `session_start` clears the slot and sends its request. -/
  | start
  /-- The device starts a session on request of this process. -/
  | deviceStarts (name sessionId : String)
  /-- `session_start` was woken and takes the reply. -/
  | started
  | attach (sessionId : String)
  /-- A request to attach is written. -/
  | write (name : String)
  /-- `attach_session` was woken. -/
  | attached (since : Nat)
  | read (sessionId : String) (since : Nat)
  | receive (name : String) (m : Message)
  /-- The link is lost; a request that could not be written is gone. -/
  | down (name : String) (unwritten : Bool)
  /-- The connection is up again. `missed` are the sessions whose request could not be written or
      whose buffer came after the loop over the buffers. -/
  | up (name : String) (missed : List String)
  /-- A session of another client. -/
  | create (name sessionId : String)
  | die (name sessionId : String)

def step (s : State) : Action → Option State
  | .get name connects =>
    if s.call = .idle then
      let got := getOrConnect Connection.connected s.connections name (if connects then some .new else none)
      some { s with connections := got.1, call := if got.2.isSome then .holding name else .idle }
    else none
  | .finish => some { s with call := .idle }
  | .start =>
    match s.call with
    | .holding name =>
      (s.connections.lookup name).map fun conn =>
        { s.setConnection name { conn with client := conn.client.setResult .start none } with call := .starting name }
    | _ => none
  | .deviceStarts name sessionId =>
    if (name,sessionId) ∉ s.alive ∧ s.known.lookup (name,sessionId) = none then
      (s.connections.lookup name).map fun conn =>
        { s.setConnection name { conn with subscribed := sessionId :: conn.subscribed } with
          alive := (name,sessionId) :: s.alive }
    else none
  | .started =>
    match s.call with
    | .starting name =>
      (s.connections.lookup name).bind fun conn =>
        match conn.client.results .start with
        | none => none
        | some (.started (some sessionId) pty _) =>
          let taken := conn.client.setResult .start none
          some { s.setConnection name { conn with
                  client := { taken with sessions := taken.sessions.insert sessionId (bufferFor pty) } } with
            call := .holding name
            known := s.known.insert (name,sessionId) ((s.known.lookup (name,sessionId)).getD []) }
        | some _ =>
          some { s.setConnection name { conn with client := conn.client.setResult .start none } with call := .holding name }
    | _ => none
  | .attach sessionId =>
    match s.call with
    | .holding name =>
      (s.connections.lookup name).map fun conn =>
        { s.setConnection name (prepareAttach conn sessionId) with call := .attaching name sessionId false }
    | _ => none
  | .write name =>
    (s.connections.lookup name).bind fun conn =>
      match conn.connected, conn.queue with
      | true, sessionId :: rest =>
        some (s.setConnection name { conn with
          queue := rest
          subscribed := if (name,sessionId) ∈ s.alive then sessionId :: conn.subscribed else conn.subscribed })
      | _, _ => none
  | .attached since =>
    match s.call with
    | .attaching name sessionId true =>
      (s.connections.lookup name).map fun conn =>
        match conn.sessions.lookup sessionId with
        | none => { s with call := .holding name }
        | some buf =>
          { s with
            call := .holding name
            known := s.known.insert (name,sessionId)
              (((s.known.lookup (name,sessionId)).getD buf.entries).filter (· ∉ buf.readOutput since)) }
    | _ => none
  | .read sessionId since =>
    match s.call with
    | .holding name =>
      (s.connections.lookup name).map fun conn =>
        match readOutput conn sessionId since with
        | .error _ => s
        | .ok returned => { s with known := Table.modify (name,sessionId) (·.filter (· ∉ returned)) s.known }
    | _ => none
  | .receive name m =>
    (s.connections.lookup name).bind fun conn =>
      if conn.connected then
        some { s.setConnection name { conn with client := (dispatchMessage conn.client m).1 } with
          call := s.call.hear m name
          known := note s name conn m }
      else none
  | .down name unwritten =>
    (s.connections.lookup name).bind fun conn =>
      if conn.connected then
        some (s.setConnection name { conn with
          connected := false
          queue := if unwritten then conn.queue.drop 1 else conn.queue
          subscribed := [] })
      else none
  | .up name missed =>
    (s.connections.lookup name).bind fun conn =>
      if conn.connected then none
      else some (s.setConnection name { conn with connected := true, subscribed := reattached s name conn missed })
  | .create name sessionId =>
    if (name,sessionId) ∉ s.alive ∧ s.known.lookup (name,sessionId) = none then
      some { s with alive := (name,sessionId) :: s.alive }
    else none
  | .die name sessionId => some { s with alive := s.alive.filter (· ≠ (name,sessionId)) }

/-! ### What a session keeps -/

/-- The connection has a buffer for the session with what was not returned yet, and the device
    sends the session's output on it. -/
structure Serves (conn : Connection) (sessionId : String) (unread : List OutputEntry) : Prop where
  buffer : ∃ buf, conn.sessions.lookup sessionId = some buf ∧ ∀ e ∈ unread, e ∈ buf.entries
  subscribed : conn.connected = true → sessionId ∈ conn.subscribed

/-- The session lives on its device, and this process started or attached it. -/
structure Kept (s : State) (name sessionId : String) (unread : List OutputEntry) : Prop where
  known : s.known.lookup (name,sessionId) = some unread
  alive : (name,sessionId) ∈ s.alive

/-- Every such session is served by the connection in the pool. -/
def Survive (s : State) : Prop :=
  ∀ name sessionId unread, Kept s name sessionId unread →
    ∃ conn, s.connections.lookup name = some conn ∧ Serves conn sessionId unread

/-- The sessions of a step survive it:
    no call meets a lost connection while a session that was started or attached there lives;
    a start or an attach that is completed on a link finds the session on that link, and the id of a
    started session is new;
    what is pushed out of a full buffer was returned;
    a reconnect finds every such session's buffer running and writes its request. -/
def KeepsSessions (s : State) : Action → Prop
  | .get name _ =>
    ∀ conn, s.connections.lookup name = some conn → conn.connected = false → ∀ sessionId unread, ¬ Kept s name sessionId unread
  | .started =>
    ∀ name conn sessionId pty request, s.call = .starting name → s.connections.lookup name = some conn →
      conn.client.results .start = some (.started (some sessionId) pty request) → (name,sessionId) ∈ s.alive →
      (s.known.lookup (name,sessionId)).getD [] = [] ∧ (conn.connected = true → sessionId ∈ conn.subscribed)
  | .attached _ =>
    ∀ name conn sessionId buf, s.call = .attaching name sessionId true → s.connections.lookup name = some conn →
      conn.sessions.lookup sessionId = some buf → (name,sessionId) ∈ s.alive →
      conn.connected = true → sessionId ∈ conn.subscribed
  | .receive name m =>
    ∀ conn sessionId unread buf, s.connections.lookup name = some conn → m.session? = some sessionId →
      Kept s name sessionId unread → conn.sessions.lookup sessionId = some buf →
      ∀ e ∈ unread ++ buf.pushes m, e ∈ (buf.entries ++ buf.pushes m).rtake maxBufferEntries
  | .up name missed =>
    ∀ conn sessionId unread buf, s.connections.lookup name = some conn → Kept s name sessionId unread →
      conn.sessions.lookup sessionId = some buf → buf.status = .running ∧ sessionId ∉ missed
  | _ => True

/-- No buffer holds more than its limit. -/
def Bounded (s : State) : Prop :=
  Table.All (fun conn => Table.All (fun buf => buf.entries.length ≤ maxBufferEntries) conn.sessions) s.connections

section
variable {s t : State} {name : String}

theorem bounded_setConnection {conn : Connection} (bounded : Bounded s)
    (own : Table.All (fun buf => buf.entries.length ≤ maxBufferEntries) conn.sessions) : Bounded (s.setConnection name conn) :=
  Table.all_insert bounded own

theorem bounded_dispatch {c : McpClient.Connection} (m : Message)
    (bounded : Table.All (fun buf => buf.entries.length ≤ maxBufferEntries) c.sessions) :
    Table.All (fun buf => buf.entries.length ≤ maxBufferEntries) (dispatchMessage c m).1.sessions := by
  intro sessionId buf found
  rw [lookup_dispatch] at found
  split at found
  · obtain ⟨before,there,rfl⟩ := Option.map_eq_some_iff.mp found
    rw [(before.receive_output m).entries]
    exact McpClient.SessionBuffer.foldl_push_length (bounded sessionId before there) _
  · exact bounded sessionId buf found

theorem bounded_step {a : Action} (bounded : Bounded s) (stepped : step s a = some t) : Bounded t := by
  cases a with
  | get name connects =>
    simp only [step,Option.ite_none_right_eq_some] at stepped
    obtain ⟨-,moved⟩ := stepped
    cases moved
    show Table.All _ (getOrConnect Connection.connected s.connections name (if connects then some .new else none)).1
    have pooling := @getOrConnect_pooling _ Connection.connected s.connections name (if connects then some .new else none)
    generalize getOrConnect Connection.connected s.connections name (if connects then some .new else none) = got at pooling
    cases pooling with
    | pooled there connected => exact bounded
    | @made new after free opened pool =>
      intro other conn found
      rw [pool] at found
      split at found
      · cases found
        obtain ⟨-,fresh⟩ := Option.ite_none_right_eq_some.mp opened
        cases fresh
        exact Table.all_empty
      · exact bounded other conn found
    | failed free closed pool =>
      intro other conn found
      rw [pool] at found
      split at found
      · cases found
      · exact bounded other conn found
  | finish | die name sessionId =>
    cases stepped
    exact bounded
  | start =>
    simp only [step] at stepped
    split at stepped
    · obtain ⟨conn,there,rfl⟩ := Option.map_eq_some_iff.mp stepped
      exact bounded_setConnection bounded (bounded _ conn there)
    · cases stepped
  | deviceStarts name sessionId =>
    simp only [step,Option.ite_none_right_eq_some] at stepped
    obtain ⟨-,moved⟩ := stepped
    obtain ⟨conn,there,rfl⟩ := Option.map_eq_some_iff.mp moved
    exact bounded_setConnection bounded (bounded _ conn there)
  | started =>
    simp only [step] at stepped
    split at stepped
    · obtain ⟨conn,there,moved⟩ := Option.bind_eq_some_iff.mp stepped
      split at moved
      · cases moved
      · cases moved
        exact bounded_setConnection bounded (Table.all_insert (bounded _ conn there) (Nat.zero_le _))
      · cases moved
        exact bounded_setConnection bounded (bounded _ conn there)
    · cases stepped
  | attach sessionId =>
    simp only [step] at stepped
    split at stepped
    · obtain ⟨conn,there,rfl⟩ := Option.map_eq_some_iff.mp stepped
      refine bounded_setConnection bounded (Table.all_insert (bounded _ conn there) ?_)
      cases found : conn.sessions.lookup sessionId with
      | none => exact Nat.zero_le _
      | some buf => exact bounded _ conn there sessionId buf found
    · cases stepped
  | write name =>
    obtain ⟨conn,there,moved⟩ := Option.bind_eq_some_iff.mp stepped
    split at moved
    · cases moved
      exact bounded_setConnection bounded (bounded _ conn there)
    · cases moved
  | attached since =>
    simp only [step] at stepped
    split at stepped
    · obtain ⟨conn,there,moved⟩ := Option.map_eq_some_iff.mp stepped
      split at moved <;> cases moved <;> exact bounded
    · cases stepped
  | read sessionId since =>
    simp only [step] at stepped
    split at stepped
    · obtain ⟨conn,there,moved⟩ := Option.map_eq_some_iff.mp stepped
      split at moved <;> cases moved <;> exact bounded
    · cases stepped
  | receive name m =>
    obtain ⟨conn,there,moved⟩ := Option.bind_eq_some_iff.mp stepped
    rw [Option.ite_none_right_eq_some] at moved
    obtain ⟨-,moved⟩ := moved
    cases moved
    exact bounded_setConnection bounded (bounded_dispatch m (bounded _ conn there))
  | down name unwritten =>
    obtain ⟨conn,there,moved⟩ := Option.bind_eq_some_iff.mp stepped
    rw [Option.ite_none_right_eq_some] at moved
    obtain ⟨-,moved⟩ := moved
    cases moved
    exact bounded_setConnection bounded (bounded _ conn there)
  | up name missed =>
    obtain ⟨conn,there,moved⟩ := Option.bind_eq_some_iff.mp stepped
    rw [Option.ite_none_left_eq_some] at moved
    obtain ⟨-,moved⟩ := moved
    cases moved
    exact bounded_setConnection bounded (bounded _ conn there)
  | create name sessionId =>
    simp only [step,Option.ite_none_right_eq_some] at stepped
    obtain ⟨-,moved⟩ := stepped
    cases moved
    exact bounded

/-! ### One device at a time -/

/-- A step that changes the connection of one device keeps the sessions of the others. -/
theorem survive_at {pooled : Option Connection} (survive : Survive s)
    (pool : ∀ other, t.connections.lookup other = if other = name then pooled else s.connections.lookup other)
    (others : ∀ other sessionId unread, other ≠ name → Kept t other sessionId unread → Kept s other sessionId unread) :
    Survive t ↔ ∀ sessionId unread, Kept t name sessionId unread → ∃ conn, pooled = some conn ∧ Serves conn sessionId unread := by
  constructor
  · intro after sessionId unread kept
    have served := after name sessionId unread kept
    rwa [pool,if_pos rfl] at served
  · intro here other sessionId unread kept
    rw [pool]
    by_cases same : other = name
    · subst same
      rw [if_pos rfl]
      exact here sessionId unread kept
    · rw [if_neg same]
      exact survive other sessionId unread (others other sessionId unread same kept)

/-- The same with the new connection of the device. -/
theorem survive_set {conn : Connection} (survive : Survive s) (connections : t.connections = s.connections.insert name conn)
    (others : ∀ other sessionId unread, other ≠ name → Kept t other sessionId unread → Kept s other sessionId unread) :
    Survive t ↔ ∀ sessionId unread, Kept t name sessionId unread → Serves conn sessionId unread := by
  have pool : ∀ other, t.connections.lookup other = if other = name then some conn else s.connections.lookup other := by
    rw [connections]
    exact fun other => Table.lookup_insert_eq _ _ _ _
  rw [survive_at survive pool others]
  simp

theorem Survive.serves {conn : Connection} {sessionId : String} {unread : List OutputEntry} (survive : Survive s)
    (there : s.connections.lookup name = some conn) (kept : Kept s name sessionId unread) : Serves conn sessionId unread := by
  obtain ⟨conn',there',serves⟩ := survive name sessionId unread kept
  cases there.symm.trans there'
  exact serves

/-! ### Steps -/

/-- The buffers and the subscriptions that a session has stay. -/
theorem serves_congr {conn conn' : Connection} {sessionId : String} {unread : List OutputEntry}
    (serves : Serves conn sessionId unread) (sessions : conn'.sessions = conn.sessions)
    (subscribed : conn'.connected = true → conn.connected = true ∧ (sessionId ∈ conn.subscribed → sessionId ∈ conn'.subscribed)) :
    Serves conn' sessionId unread where
  buffer := by rw [sessions]; exact serves.buffer
  subscribed := fun up => (subscribed up).2 (serves.subscribed (subscribed up).1)

theorem survive_get {connects : Bool} (survive : Survive s) (stepped : step s (.get name connects) = some t) :
    Survive t ↔ KeepsSessions s (.get name connects) := by
  simp only [step,Option.ite_none_right_eq_some] at stepped
  obtain ⟨-,moved⟩ := stepped
  cases moved
  have pooling := @getOrConnect_pooling _ Connection.connected s.connections name (if connects then some .new else none)
  generalize getOrConnect Connection.connected s.connections name (if connects then some .new else none) = got at pooling
  cases pooling with
  | @pooled conn there connected =>
    refine iff_of_true (fun name sessionId unread kept => survive name sessionId unread ⟨kept.known,kept.alive⟩) ?_
    intro conn' there' lost
    cases there.symm.trans there'
    cases connected.symm.trans lost
  | @made new after free opened pool =>
    obtain ⟨-,fresh⟩ := Option.ite_none_right_eq_some.mp opened
    cases fresh
    refine Iff.trans (survive_at survive pool fun other sessionId unread _ kept => ⟨kept.known,kept.alive⟩) ?_
    constructor
    · intro served conn there lost sessionId unread kept
      obtain ⟨conn',same,serves⟩ := served sessionId unread ⟨kept.known,kept.alive⟩
      cases same
      obtain ⟨buf,found,-⟩ := serves.buffer
      cases found
    · intro none_ sessionId unread kept
      obtain ⟨conn,there,-⟩ := survive name sessionId unread ⟨kept.known,kept.alive⟩
      exact (none_ conn there (free conn there) sessionId unread ⟨kept.known,kept.alive⟩).elim
  | failed free closed pool =>
    refine Iff.trans (survive_at survive pool fun other sessionId unread _ kept => ⟨kept.known,kept.alive⟩) ?_
    constructor
    · intro served conn there lost sessionId unread kept
      obtain ⟨conn',never,-⟩ := served sessionId unread ⟨kept.known,kept.alive⟩
      cases never
    · intro none_ sessionId unread kept
      obtain ⟨conn,there,-⟩ := survive name sessionId unread ⟨kept.known,kept.alive⟩
      exact (none_ conn there (free conn there) sessionId unread ⟨kept.known,kept.alive⟩).elim

theorem survive_started (survive : Survive s) (stepped : step s .started = some t) :
    Survive t ↔ KeepsSessions s .started := by
  simp only [step] at stepped
  split at stepped
  · next name calling =>
    obtain ⟨conn,there,moved⟩ := Option.bind_eq_some_iff.mp stepped
    split at moved
    · cases moved
    · next sessionId pty request reply =>
      cases moved
      refine Iff.trans (survive_set survive rfl ?others) ?_
      case others =>
        intro other sessionId' unread differs kept
        have known := kept.known
        rw [Table.lookup_insert_eq,if_neg fun same => differs (congrArg Prod.fst same)] at known
        exact ⟨known,kept.alive⟩
      constructor
      · intro served name' conn' sessionId' pty' request' calling' there' reply' alive
        cases calling.symm.trans calling'
        cases there.symm.trans there'
        cases reply.symm.trans reply'
        have serves := served sessionId _ ⟨AList.lookup_insert _,alive⟩
        refine ⟨List.eq_nil_iff_forall_not_mem.mpr fun e member => ?_,serves.subscribed⟩
        obtain ⟨buf,found,holds⟩ := serves.buffer
        cases (AList.lookup_insert _).symm.trans found
        cases holds e member
      · intro new sessionId' unread kept
        obtain ⟨known,alive⟩ := kept
        change (AList.insert _ _ _).lookup _ = _ at known
        rw [Table.lookup_insert_eq] at known
        split at known
        · next same =>
          cases same
          cases known
          obtain ⟨empty,subscribed⟩ := new name conn sessionId pty request calling there reply alive
          rw [empty]
          exact ⟨⟨bufferFor pty,AList.lookup_insert _,nofun⟩,subscribed⟩
        · next differs =>
          obtain ⟨⟨buf,found,holds⟩,subscribed⟩ := survive.serves there ⟨known,alive⟩
          refine ⟨⟨buf,?_,holds⟩,subscribed⟩
          exact (AList.lookup_insert_ne fun same => differs (congrArg (Prod.mk name) same)).trans found
    · next taken other reply =>
      cases moved
      refine Iff.trans (survive_set survive rfl fun _ _ _ _ kept => ⟨kept.known,kept.alive⟩) (iff_of_true ?_ ?_)
      · intro sessionId unread kept
        exact serves_congr (survive.serves there ⟨kept.known,kept.alive⟩) rfl fun up => ⟨up,id⟩
      · intro name' conn' sessionId pty request calling' there' reply'
        cases calling.symm.trans calling'
        cases there.symm.trans there'
        exact (other sessionId pty request (Option.some.inj (reply.symm.trans reply'))).elim
  · cases stepped

theorem survive_attached {since : Nat} (survive : Survive s) (stepped : step s (.attached since) = some t) :
    Survive t ↔ KeepsSessions s (.attached since) := by
  simp only [step] at stepped
  split at stepped
  · next name sessionId calling =>
    obtain ⟨conn,there,moved⟩ := Option.map_eq_some_iff.mp stepped
    split at moved
    · next missing =>
      cases moved
      refine iff_of_true (fun name sessionId unread kept => survive name sessionId unread ⟨kept.known,kept.alive⟩) ?_
      intro name' conn' sessionId' buf calling' there' found
      cases calling.symm.trans calling'
      cases there.symm.trans there'
      cases missing.symm.trans found
    · next buf found =>
      cases moved
      have others : ∀ other sessionId' unread,
          (s.known.insert (name,sessionId) (((s.known.lookup (name,sessionId)).getD buf.entries).filter
            (· ∉ buf.readOutput since))).lookup (other,sessionId') = some unread → (other,sessionId') ∈ s.alive →
          (other,sessionId') ≠ (name,sessionId) → Kept s other sessionId' unread := by
        intro other sessionId' unread known alive differs
        rw [Table.lookup_insert_eq,if_neg differs] at known
        exact ⟨known,alive⟩
      constructor
      · intro served name' conn' sessionId' buf' calling' there' found' alive
        cases calling.symm.trans calling'
        cases there.symm.trans there'
        obtain ⟨conn',there',serves⟩ := served name sessionId _ ⟨AList.lookup_insert _,alive⟩
        cases there.symm.trans there'
        exact serves.subscribed
      · intro linked other sessionId' unread kept
        by_cases same : (other,sessionId') = (name,sessionId)
        · cases same
          have known := kept.known
          rw [Table.lookup_insert_eq,if_pos rfl] at known
          cases known
          refine ⟨conn,there,⟨buf,found,?_⟩,linked name conn sessionId buf calling there found kept.alive⟩
          intro e member
          have before := (List.mem_filter.mp member).1
          cases known : s.known.lookup (name,sessionId) with
          | none =>
            rw [known] at before
            exact before
          | some unread =>
            rw [known] at before
            obtain ⟨buf',found',holds⟩ := (survive.serves there ⟨known,kept.alive⟩).buffer
            cases found.symm.trans found'
            exact holds e before
        · exact survive other sessionId' unread (others other sessionId' unread kept.known kept.alive same)
  · cases stepped

section
variable {conn : Connection} {m : Message} {sessionId : String} {buf : McpClient.SessionBuffer} {unread : List OutputEntry}

theorem entries_receive (within : buf.entries.length ≤ maxBufferEntries) :
    (buf.receive m).entries = (buf.entries ++ buf.pushes m).rtake maxBufferEntries := by
  rw [(buf.receive_output m).entries]
  exact McpClient.SessionBuffer.foldl_push_entries within _

theorem received (own : m.session? = some sessionId) (found : conn.sessions.lookup sessionId = some buf) :
    (dispatchMessage conn.client m).1.sessions.lookup sessionId = some (buf.receive m) := by
  rw [lookup_dispatch,if_pos own]
  exact congrArg (Option.map fun b => b.receive m) found

theorem note_own (own : m.session? = some sessionId) (found : conn.sessions.lookup sessionId = some buf)
    (known : s.known.lookup (name,sessionId) = some unread) :
    (note s name conn m).lookup (name,sessionId) = some (unread ++ buf.pushes m) := by
  simp only [note,own,found]
  rw [Table.lookup_modify,if_pos rfl,known]
  rfl

theorem note_missing (own : m.session? = some sessionId) (missing : conn.sessions.lookup sessionId = none) :
    note s name conn m = s.known := by
  simp only [note,own,missing]

theorem note_other {other : String} (differs : ¬(other = name ∧ m.session? = some sessionId)) :
    (note s name conn m).lookup (other,sessionId) = s.known.lookup (other,sessionId) := by
  unfold note
  split
  · rfl
  · next own =>
    split
    · rfl
    · rw [Table.lookup_modify,if_neg]
      intro same
      cases same
      exact differs ⟨rfl,own⟩

theorem note_unknown {key : String × String} (unknown : s.known.lookup key = none) :
    (note s name conn m).lookup key = none := by
  unfold note
  split
  · exact unknown
  · split
    · exact unknown
    · rw [Table.lookup_modify]
      split
      · next same => rw [← same,unknown]; rfl
      · exact unknown

end

theorem survive_receive {m : Message} (bounded : Bounded s) (survive : Survive s) (stepped : step s (.receive name m) = some t) :
    Survive t ↔ KeepsSessions s (.receive name m) := by
  obtain ⟨conn,there,moved⟩ := Option.bind_eq_some_iff.mp stepped
  rw [Option.ite_none_right_eq_some] at moved
  obtain ⟨-,moved⟩ := moved
  cases moved
  refine Iff.trans (survive_set survive rfl fun other sessionId unread differs kept => ?others) ?_
  case others =>
    have known := kept.known
    change (note s name conn m).lookup _ = _ at known
    rw [note_other fun same => differs same.1] at known
    exact ⟨known,kept.alive⟩
  constructor
  · intro served conn' sessionId unread buf there' own kept found
    cases there.symm.trans there'
    obtain ⟨buf',found',holds⟩ := (served sessionId _ ⟨note_own own found kept.known,kept.alive⟩).buffer
    cases (received own found).symm.trans found'
    rw [← entries_receive (bounded name conn there sessionId buf found)]
    exact holds
  · intro keeps sessionId unread kept
    obtain ⟨known,alive⟩ := kept
    change (note s name conn m).lookup _ = _ at known
    by_cases own : m.session? = some sessionId
    · cases found : conn.sessions.lookup sessionId with
      | none =>
        rw [note_missing own found] at known
        obtain ⟨buf,found',-⟩ := (survive.serves there ⟨known,alive⟩).buffer
        cases found.symm.trans found'
      | some buf =>
        cases before : s.known.lookup (name,sessionId) with
        | none =>
          rw [note_unknown before] at known
          cases known
        | some unread =>
          rw [note_own own found before] at known
          cases known
          refine ⟨⟨buf.receive m,received own found,?_⟩,(survive.serves there ⟨before,alive⟩).subscribed⟩
          rw [entries_receive (bounded name conn there sessionId buf found)]
          exact keeps conn sessionId unread buf there own ⟨before,alive⟩ found
    · rw [note_other fun same => own same.2] at known
      obtain ⟨⟨buf,found,holds⟩,subscribed⟩ := survive.serves there ⟨known,alive⟩
      refine ⟨⟨buf,?_,holds⟩,subscribed⟩
      exact ((lookup_dispatch conn.client m sessionId).trans (if_neg own)).trans found

theorem survive_up {missed : List String} (survive : Survive s) (stepped : step s (.up name missed) = some t) :
    Survive t ↔ KeepsSessions s (.up name missed) := by
  obtain ⟨conn,there,moved⟩ := Option.bind_eq_some_iff.mp stepped
  rw [Option.ite_none_left_eq_some] at moved
  obtain ⟨-,moved⟩ := moved
  cases moved
  have again : ∀ sessionId, sessionId ∈ reattached s name conn missed ↔
      ∃ buf, conn.sessions.lookup sessionId = some buf ∧ buf.status = .running ∧ (name,sessionId) ∈ s.alive ∧ sessionId ∉ missed := by
    intro sessionId
    rw [reattached,← AList.mem_keys,← AList.lookup_isSome,Option.isSome_iff_exists]
    simp [Table.lookup_keep_iff,and_assoc]
  refine Iff.trans (survive_set survive rfl fun _ _ _ _ kept => ⟨kept.known,kept.alive⟩) ?_
  constructor
  · intro served conn' sessionId unread buf there' kept found
    cases there.symm.trans there'
    obtain ⟨buf',found',running,-,written⟩ := (again sessionId).mp ((served sessionId unread ⟨kept.known,kept.alive⟩).subscribed rfl)
    cases found.symm.trans found'
    exact ⟨running,written⟩
  · intro attaches sessionId unread kept
    have serves := survive.serves there ⟨kept.known,kept.alive⟩
    obtain ⟨buf,found,-⟩ := serves.buffer
    obtain ⟨running,written⟩ := attaches conn sessionId unread buf there ⟨kept.known,kept.alive⟩ found
    exact ⟨serves.buffer,fun _ => (again sessionId).mpr ⟨buf,found,running,kept.alive,written⟩⟩

/-- Nothing is known anew, and nothing comes to life that is known. -/
theorem survive_frame {conn conn' : Connection} (survive : Survive s) (there : s.connections.lookup name = some conn)
    (connections : t.connections = s.connections.insert name conn')
    (kept : ∀ other sessionId unread, Kept t other sessionId unread → Kept s other sessionId unread)
    (serves : ∀ sessionId unread, Kept s name sessionId unread → Serves conn sessionId unread → Serves conn' sessionId unread) :
    Survive t := by
  refine (survive_set survive connections fun other sessionId unread _ => kept other sessionId unread).mpr ?_
  intro sessionId unread here
  have before := kept name sessionId unread here
  exact serves sessionId unread before (survive.serves there before)

theorem survive_attach {conn : Connection} {sessionId : String} (survive : Survive s)
    (there : s.connections.lookup name = some conn) :
    Survive { s.setConnection name (prepareAttach conn sessionId) with call := .attaching name sessionId false } := by
  refine survive_frame survive there rfl (fun _ _ _ kept => ⟨kept.known,kept.alive⟩) ?_
  intro other unread kept serves
  obtain ⟨⟨buf,found,holds⟩,subscribed⟩ := serves
  by_cases same : other = sessionId
  · subst same
    refine ⟨⟨{ buf with attached := false },?_,holds⟩,subscribed⟩
    have mine : (prepareAttach conn other).sessions.lookup other = some { ((some buf).getD .new) with attached := false } := by
      rw [← found]
      exact AList.lookup_insert _
    exact mine
  · exact ⟨⟨buf,(AList.lookup_insert_ne same).trans found,holds⟩,subscribed⟩

theorem survive_step {a : Action} (bounded : Bounded s) (survive : Survive s) (stepped : step s a = some t) :
    Survive t ↔ KeepsSessions s a := by
  have same : ∀ {t : State}, t.connections = s.connections → (∀ name sessionId unread, Kept t name sessionId unread →
      ∃ before, Kept s name sessionId before ∧ unread ⊆ before) → Survive t := by
    intro t connections kept name sessionId unread here
    obtain ⟨before,was,fewer⟩ := kept name sessionId unread here
    obtain ⟨conn,there,⟨buf,found,holds⟩,subscribed⟩ := survive name sessionId before was
    rw [connections]
    exact ⟨conn,there,⟨buf,found,fun e member => holds e (fewer member)⟩,subscribed⟩
  cases a with
  | get name connects => exact survive_get survive stepped
  | started => exact survive_started survive stepped
  | attached since => exact survive_attached survive stepped
  | receive name m => exact survive_receive bounded survive stepped
  | up name missed => exact survive_up survive stepped
  | finish =>
    cases stepped
    exact iff_of_true (same rfl fun _ _ unread kept => ⟨unread,⟨kept.known,kept.alive⟩,List.Subset.refl _⟩) trivial
  | die name sessionId =>
    cases stepped
    refine iff_of_true (same rfl fun _ _ unread kept => ?_) trivial
    exact ⟨unread,⟨kept.known,(List.mem_filter.mp kept.alive).1⟩,List.Subset.refl _⟩
  | create name sessionId =>
    simp only [step,Option.ite_none_right_eq_some] at stepped
    obtain ⟨⟨-,unknown⟩,moved⟩ := stepped
    cases moved
    refine iff_of_true (same rfl fun _ _ unread kept => ⟨unread,⟨kept.known,?_⟩,List.Subset.refl _⟩) trivial
    rcases List.mem_cons.mp kept.alive with new | before
    · cases new
      cases unknown.symm.trans kept.known
    · exact before
  | start =>
    simp only [step] at stepped
    split at stepped
    · obtain ⟨conn,there,rfl⟩ := Option.map_eq_some_iff.mp stepped
      refine iff_of_true ?_ trivial
      refine survive_frame survive there rfl (fun _ _ _ kept => ⟨kept.known,kept.alive⟩) ?_
      exact fun _ _ _ serves => serves_congr serves rfl fun up => ⟨up,id⟩
    · cases stepped
  | deviceStarts name sessionId =>
    simp only [step,Option.ite_none_right_eq_some] at stepped
    obtain ⟨⟨-,unknown⟩,moved⟩ := stepped
    obtain ⟨conn,there,rfl⟩ := Option.map_eq_some_iff.mp moved
    refine iff_of_true (survive_frame survive there rfl (fun _ _ _ kept => ⟨kept.known,?_⟩) ?_) trivial
    · rcases List.mem_cons.mp kept.alive with new | before
      · cases new
        cases unknown.symm.trans kept.known
      · exact before
    · exact fun _ _ _ serves => serves_congr serves rfl fun up => ⟨up,List.mem_cons_of_mem _⟩
  | attach sessionId =>
    simp only [step] at stepped
    split at stepped
    · obtain ⟨conn,there,rfl⟩ := Option.map_eq_some_iff.mp stepped
      exact iff_of_true (survive_attach survive there) trivial
    · cases stepped
  | write name =>
    obtain ⟨conn,there,moved⟩ := Option.bind_eq_some_iff.mp stepped
    split at moved
    · next sessionId rest up queue =>
      cases moved
      refine iff_of_true (survive_frame survive there rfl (fun _ _ _ kept => ⟨kept.known,kept.alive⟩) ?_) trivial
      refine fun _ _ _ serves => serves_congr serves rfl fun _ => ⟨up,fun member => ?_⟩
      show _ ∈ if _ then _ else _
      split
      · exact List.mem_cons_of_mem _ member
      · exact member
    · cases moved
  | read sessionId since =>
    simp only [step] at stepped
    split at stepped
    · next name calling =>
      obtain ⟨conn,there,moved⟩ := Option.map_eq_some_iff.mp stepped
      split at moved
      · cases moved
        exact iff_of_true survive trivial
      · next returned got =>
        cases moved
        refine iff_of_true (same rfl fun other other' unread kept => ?_) trivial
        have known := kept.known
        rw [Table.lookup_modify] at known
        split at known
        · next here =>
          obtain ⟨before,was,rfl⟩ := Option.map_eq_some_iff.mp known
          exact ⟨before,⟨by rw [here]; exact was,kept.alive⟩,fun e member => (List.mem_filter.mp member).1⟩
        · exact ⟨unread,⟨known,kept.alive⟩,List.Subset.refl _⟩
    · cases stepped
  | down name unwritten =>
    obtain ⟨conn,there,moved⟩ := Option.bind_eq_some_iff.mp stepped
    rw [Option.ite_none_right_eq_some] at moved
    obtain ⟨-,moved⟩ := moved
    cases moved
    refine iff_of_true (survive_frame survive there rfl (fun _ _ _ kept => ⟨kept.known,kept.alive⟩) ?_) trivial
    exact fun _ _ _ serves => serves_congr serves rfl nofun

/-- In every run the sessions that were started or attached survive, exactly if every step is one
    that keeps them. -/
theorem sessions_survive_iff (actions : List Action) :
    Always step Survive State.start actions ↔ Along step KeepsSessions State.start actions :=
  always_iff_along (fun _ _ _ => bounded_step) (fun _ _ _ => survive_step) Table.all_empty
    (fun _ _ _ kept => nomatch kept.known)

end

/-- A session is started, the link is lost, and the next call comes before the connection made
    itself again. -/
def callWhileDown : List Action :=
  [.get "router" true,.start,.deviceStarts "router" "s",.receive "router" (.started (some "s") none 0),.started,.finish,
    .down "router" false,.get "router" true]

theorem session_dropped : ¬ ∀ actions, Always step Survive State.start actions := by
  intro claim
  have lost : (run step State.start callWhileDown).map (fun s =>
      ((s.connections.lookup "router").map fun conn => (conn.sessions.lookup "s").isSome,
        s.known.lookup ("router","s"),decide (("router","s") ∈ s.alive))) =
      some (some false,some [],true) := by decide +kernel
  obtain ⟨s,ran,last⟩ := Option.map_eq_some_iff.mp lost
  simp only [Prod.mk.injEq,decide_eq_true_eq] at last
  obtain ⟨pooled,known,alive⟩ := last
  obtain ⟨conn,there,serves⟩ := always_last (claim callWhileDown) ran "router" "s" [] ⟨known,alive⟩
  obtain ⟨buf,found,-⟩ := serves.buffer
  rw [there,Option.map_some,found] at pooled
  cases pooled

end Sctl.SessionPool
