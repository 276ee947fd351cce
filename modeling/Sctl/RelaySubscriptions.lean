import Sctl.Runs
import Sctl.Tables

/-!
Who gets a session's output at the relay (`tunnel/relay.rs`). Each client of a
device has a handler that registers it, enters and leaves the subscriber sets of
sessions as its messages pass, and cleans up when it goes: out of `clients`, out
of the subscriber sets, and then a `session.detach` for every session that
nobody watches any more, each under a lock of its own. The device's frames change
the sets as well.
-/
namespace Sctl.RelaySubscriptions
open Sctl.Runs

/-- A client's message, as far as the relay looks at it. -/
inductive ClientMsg
  | attach (id : String)
  | kill (id : String)
  /-- `session.start` or `job.start`. -/
  | start
  | other
deriving DecidableEq

/-- What the relay queues for the device. -/
inductive DeviceMsg
  | request (client : String) (msg : ClientMsg)
  | detach (id : String)
deriving DecidableEq

/-- Where `handle_client_ws` stands. -/
inductive Pc
  | reading
  /-- The subscriptions are up to date, the message waits for room in the queue. -/
  | forwarding (msg : ClientMsg)
  | leaving
  | unlisted
  | detaching (sessions : List String)
  /-- Nobody watched the session when it looked. -/
  | sending (id : String) (sessions : List String)
  | gone
deriving DecidableEq

abbrev Subscriptions := Table String (List String)

structure State where
  clients : List String
  subs : Subscriptions
  handlers : Table String Pc
  queue : List DeviceMsg
  /-- Clients whose start of a session is not answered yet, one entry for each. -/
  requested : List String
  /-- Sessions whose last subscriber left, until somebody subscribes again or
      their detach is queued. -/
  owed : List String

def start : State := ⟨[],∅,∅,[],[],[]⟩

def members (subs : Subscriptions) (id : String) : List String := (subs.lookup id).getD []

def subscribe (subs : Subscriptions) (id client : String) : Subscriptions :=
  subs.insert id (List.insert client (members subs id))

/-- A client that kills a session leaves its set, which may stay behind empty. -/
def unsubscribe (subs : Subscriptions) (id client : String) : Subscriptions :=
  subs.insert id ((members subs id).filter (· ≠ client))

/-- The client leaves all sets, and sets without subscribers go. -/
def dropClient (subs : Subscriptions) (client : String) : Subscriptions :=
  Table.keep (fun _ ids => ids ≠ []) (Table.mapValues (List.filter (· ≠ client)) subs)

def sessionsOf (subs : Subscriptions) (client : String) : List String :=
  (subs.entries.filter fun e => client ∈ e.2).map Sigma.fst

def track (subs : Subscriptions) (client : String) : ClientMsg → Subscriptions
  | .attach id => subscribe subs id client
  | .kill id => unsubscribe subs id client
  | _ => subs

inductive Action
  | connect (client : String)
  | receive (client : String) (msg : ClientMsg)
  | forward (client : String)
  /-- The queue stayed full too long, or the device is gone. -/
  | forwardFails (client : String)
  | disconnect (client : String)
  | unlist (client : String)
  | leave (client : String)
  | check (client id : String)
  | sendDetach (client : String) (delivered : Bool)
  | finish (client : String)
  /-- The device's connection takes the next message. -/
  | take
  /-- A `session.started` that answers a client. -/
  | started (client id : String)
  /-- A `session.destroyed` or `session.closed`. -/
  | closed (id : String)

def without (id : String) (ids : List String) : List String := ids.filter (· ≠ id)

def State.setPc (s : State) (client : String) (pc : Pc) : State := { s with handlers := s.handlers.insert client pc }

def step (s : State) : Action → Option State
  | .connect client =>
    if s.handlers.lookup client = none then some ({ s with clients := client :: s.clients }.setPc client .reading) else none
  | .receive client msg =>
    match s.handlers.lookup client with
    | some .reading =>
      some ({ s with
        subs := track s.subs client msg
        owed := match msg with | .attach id => without id s.owed | _ => s.owed }.setPc client (.forwarding msg))
    | _ => none
  | .forward client =>
    match s.handlers.lookup client with
    | some (.forwarding msg) =>
      some ({ s with
        queue := s.queue ++ [DeviceMsg.request client msg]
        requested := if msg = ClientMsg.start then client :: s.requested else s.requested }.setPc client .reading)
    | _ => none
  | .forwardFails client =>
    match s.handlers.lookup client with
    | some (.forwarding _) => some (s.setPc client .leaving)
    | _ => none
  | .disconnect client =>
    match s.handlers.lookup client with
    | some .reading => some (s.setPc client .leaving)
    | _ => none
  | .unlist client =>
    match s.handlers.lookup client with
    | some .leaving => some ({ s with clients := without client s.clients }.setPc client .unlisted)
    | _ => none
  | .leave client =>
    match s.handlers.lookup client with
    | some .unlisted =>
      some ({ s with
        subs := dropClient s.subs client
        owed := (sessionsOf s.subs client).filter (fun id => members (dropClient s.subs client) id = []) ++ s.owed }.setPc
          client (.detaching (sessionsOf s.subs client)))
    | _ => none
  | .check client id =>
    match s.handlers.lookup client with
    | some (.detaching sessions) =>
      if id ∈ sessions then
        some (s.setPc client (if members s.subs id = [] then .sending id (without id sessions) else .detaching (without id sessions)))
      else none
    | _ => none
  | .sendDetach client delivered =>
    match s.handlers.lookup client with
    | some (.sending id sessions) =>
      some ({ s with
        queue := if delivered then s.queue ++ [DeviceMsg.detach id] else s.queue
        owed := if delivered then without id s.owed else s.owed }.setPc client (.detaching sessions))
    | _ => none
  | .finish client =>
    match s.handlers.lookup client with
    | some (.detaching []) => some (s.setPc client .gone)
    | _ => none
  | .take => some { s with queue := s.queue.tail }
  | .started client id =>
    if client ∈ s.requested then
      some { s with
        subs := subscribe s.subs id client, requested := s.requested.erase client, owed := without id s.owed }
    else none
  | .closed id => some { s with subs := s.subs.erase id }

/-! ### Subscribers and clients -/

/-- Every subscriber is a client that is connected. -/
def SubscribersConnected (s : State) : Prop := ∀ id, ∀ client ∈ members s.subs id, client ∈ s.clients

/-- A client is taken off `clients` only when it subscribes to nothing, and a
    `session.started` names a client that is still there. -/
def namesConnected (s : State) : Action → Bool
  | .unlist client => (sessionsOf s.subs client).isEmpty
  | .started client _ => s.clients.contains client
  | _ => true

/-- Sessions that the handler has still to look at. -/
def Pc.pending : Pc → List String
  | .detaching sessions => sessions
  | .sending id sessions => id :: sessions
  | _ => []

/-- Only a client that is just leaving can subscribe without being there, and
    whatever its last subscriber left is detached when everybody is done. -/
structure LeavesNothing (s : State) : Prop where
  member : ∀ id, ∀ client ∈ members s.subs id, client ∈ s.clients ∨ s.handlers.lookup client = some .unlisted
  detached : (∀ client pc, s.handlers.lookup client = some pc → pc.pending = []) → s.owed = []

/-- A `session.started` names a client that is still there, and no detach is lost. -/
def answersConnected (s : State) : Action → Bool
  | .started client _ => s.clients.contains client
  | .sendDetach _ delivered => delivered
  | _ => true

/-! ### One step -/

theorem mem_without {id other : String} {ids : List String} : other ∈ without id ids ↔ other ∈ ids ∧ other ≠ id := by
  simp [without]

theorem members_insert (subs : Subscriptions) (id other : String) (ids : List String) :
    members (subs.insert id ids) other = if other = id then ids else members subs other := by
  rw [members,Table.lookup_insert_eq]
  split_ifs <;> rfl

theorem mem_subscribe {subs : Subscriptions} {id other client client' : String} :
    client' ∈ members (subscribe subs id client) other ↔ client' ∈ members subs other ∨ (other = id ∧ client' = client) := by
  rw [subscribe,members_insert]
  by_cases same : other = id
  · subst same; simp [or_comm]
  · simp [same]

theorem mem_unsubscribe {subs : Subscriptions} {id other client client' : String}
    (member : client' ∈ members (unsubscribe subs id client) other) : client' ∈ members subs other := by
  rw [unsubscribe,members_insert] at member
  split_ifs at member with same
  · subst same; exact (List.mem_filter.mp member).1
  · exact member

theorem members_dropClient (subs : Subscriptions) (client id : String) :
    members (dropClient subs client) id = without client (members subs id) := by
  simp only [members,dropClient,without,Table.lookup_keep,Table.lookup_mapValues]
  cases subs.lookup id with
  | none => rfl
  | some ids =>
    by_cases empty : ids.filter (· ≠ client) = []
    · simp only [Option.map_some,Option.filter_some,Option.getD_some,empty]; rfl
    · simp only [Option.map_some,Option.filter_some,decide_eq_true empty,if_true]; rfl

theorem mem_sessionsOf {subs : Subscriptions} {client id : String} :
    id ∈ sessionsOf subs client ↔ client ∈ members subs id := by
  simp only [sessionsOf,List.mem_map,List.mem_filter,decide_eq_true_eq,members]
  constructor
  · rintro ⟨⟨id',ids⟩,⟨there,member⟩,rfl⟩
    rw [Table.lookup_eq_some_iff.mpr there]
    exact member
  · intro member
    cases found : subs.lookup id with
    | none => rw [found] at member; cases member
    | some ids =>
      rw [found] at member
      exact ⟨⟨id,ids⟩,⟨Table.lookup_eq_some_iff.mp found,member⟩,rfl⟩

/-- What a step can do. -/
inductive Move (s : State) : Action → State → Prop
  | connect {client} (new : s.handlers.lookup client = none) :
    Move s (.connect client) ({ s with clients := client :: s.clients }.setPc client .reading)
  | receive {client msg} (found : s.handlers.lookup client = some .reading) :
    Move s (.receive client msg) ({ s with
      subs := track s.subs client msg
      owed := match msg with | .attach id => without id s.owed | _ => s.owed }.setPc client (.forwarding msg))
  | forward {client msg} (found : s.handlers.lookup client = some (.forwarding msg)) :
    Move s (.forward client) ({ s with
      queue := s.queue ++ [DeviceMsg.request client msg]
      requested := if msg = ClientMsg.start then client :: s.requested else s.requested }.setPc client .reading)
  | forwardFails {client msg} (found : s.handlers.lookup client = some (.forwarding msg)) :
    Move s (.forwardFails client) (s.setPc client .leaving)
  | disconnect {client} (found : s.handlers.lookup client = some .reading) :
    Move s (.disconnect client) (s.setPc client .leaving)
  | unlist {client} (found : s.handlers.lookup client = some .leaving) :
    Move s (.unlist client) ({ s with clients := without client s.clients }.setPc client .unlisted)
  | leave {client} (found : s.handlers.lookup client = some .unlisted) :
    Move s (.leave client) ({ s with
      subs := dropClient s.subs client
      owed := (sessionsOf s.subs client).filter (fun id => members (dropClient s.subs client) id = []) ++ s.owed }.setPc
        client (.detaching (sessionsOf s.subs client)))
  | checkEmpty {client id sessions} (found : s.handlers.lookup client = some (.detaching sessions))
    (listed : id ∈ sessions) (empty : members s.subs id = []) :
    Move s (.check client id) (s.setPc client (.sending id (without id sessions)))
  | checkWatched {client id sessions} (found : s.handlers.lookup client = some (.detaching sessions))
    (listed : id ∈ sessions) (watched : members s.subs id ≠ []) :
    Move s (.check client id) (s.setPc client (.detaching (without id sessions)))
  | sendDetach {client id sessions} (found : s.handlers.lookup client = some (.sending id sessions)) :
    Move s (.sendDetach client true) ({ s with
      queue := s.queue ++ [DeviceMsg.detach id], owed := without id s.owed }.setPc client (.detaching sessions))
  | detachLost {client id sessions} (found : s.handlers.lookup client = some (.sending id sessions)) :
    Move s (.sendDetach client false) (s.setPc client (.detaching sessions))
  | finish {client} (found : s.handlers.lookup client = some (.detaching [])) :
    Move s (.finish client) (s.setPc client .gone)
  | take : Move s .take { s with queue := s.queue.tail }
  | started {client id} (asked : client ∈ s.requested) :
    Move s (.started client id) { s with
      subs := subscribe s.subs id client, requested := s.requested.erase client, owed := without id s.owed }
  | closed {id} : Move s (.closed id) { s with subs := s.subs.erase id }

theorem step_move {s t : State} {a : Action} (stepped : step s a = some t) : Move s a t := by
  cases a with
  | connect client =>
    simp only [step,Option.ite_none_right_eq_some,Option.some.injEq] at stepped
    obtain ⟨new,rfl⟩ := stepped
    exact .connect new
  | receive client msg =>
    simp only [step] at stepped
    split at stepped
    · next found => cases stepped; exact .receive found
    · cases stepped
  | forward client =>
    simp only [step] at stepped
    split at stepped
    · next found => cases stepped; exact .forward found
    · cases stepped
  | forwardFails client =>
    simp only [step] at stepped
    split at stepped
    · next found => cases stepped; exact .forwardFails found
    · cases stepped
  | disconnect client =>
    simp only [step] at stepped
    split at stepped
    · next found => cases stepped; exact .disconnect found
    · cases stepped
  | unlist client =>
    simp only [step] at stepped
    split at stepped
    · next found => cases stepped; exact .unlist found
    · cases stepped
  | leave client =>
    simp only [step] at stepped
    split at stepped
    · next found => cases stepped; exact .leave found
    · cases stepped
  | check client id =>
    simp only [step] at stepped
    split at stepped
    · next found =>
      simp only [Option.ite_none_right_eq_some,Option.some.injEq] at stepped
      obtain ⟨listed,rfl⟩ := stepped
      by_cases empty : members s.subs id = []
      · rw [if_pos empty]; exact .checkEmpty found listed empty
      · rw [if_neg empty]; exact .checkWatched found listed empty
    · cases stepped
  | sendDetach client delivered =>
    simp only [step] at stepped
    split at stepped
    · next found =>
      cases stepped
      cases delivered with
      | true => exact .sendDetach found
      | false => exact .detachLost found
    · cases stepped
  | finish client =>
    simp only [step] at stepped
    split at stepped
    · next found => cases stepped; exact .finish found
    · cases stepped
  | take => cases stepped; exact .take
  | started client id =>
    simp only [step,Option.ite_none_right_eq_some,Option.some.injEq] at stepped
    obtain ⟨asked,rfl⟩ := stepped
    exact .started asked
  | closed id => cases stepped; exact .closed

/-- A handler that has not unlisted its client. -/
def Pc.listed : Pc → Bool
  | .reading => true
  | .forwarding _ => true
  | .leaving => true
  | _ => false

/-- `clients` has the clients whose handlers have not taken them off. -/
def Listed (s : State) : Prop :=
  ∀ client, client ∈ s.clients ↔ ∃ pc, s.handlers.lookup client = some pc ∧ pc.listed = true

theorem handlers_setPc (s : State) (client other : String) (pc : Pc) :
    (s.setPc client pc).handlers.lookup other = if other = client then some pc else s.handlers.lookup other :=
  Table.lookup_insert_eq _ _ _ _

theorem listed_setPc {s t : State} {client : String} {old new : Pc} (listed : Listed s)
    (found : s.handlers.lookup client = some old) (handlers : t.handlers = s.handlers.insert client new)
    (clients : t.clients = s.clients) (same : new.listed = old.listed) : Listed t := by
  intro other
  rw [clients,listed other,handlers,Table.lookup_insert_eq]
  by_cases this : other = client
  · subst this
    simp only [if_true,found,Option.some.injEq,exists_eq_left',same]
  · simp only [if_neg this]

theorem listed_step {s t : State} {a : Action} (listed : Listed s) (stepped : step s a = some t) : Listed t := by
  cases step_move stepped with
  | @connect client new =>
    intro other
    rw [handlers_setPc]
    by_cases this : other = client
    · subst this
      simp [State.setPc,Pc.listed]
    · simp only [State.setPc,List.mem_cons,this,false_or,if_false]
      exact listed other
  | receive found => exact listed_setPc listed found rfl rfl rfl
  | forward found => exact listed_setPc listed found rfl rfl rfl
  | forwardFails found => exact listed_setPc listed found rfl rfl rfl
  | disconnect found => exact listed_setPc listed found rfl rfl rfl
  | @unlist client found =>
    intro other
    rw [handlers_setPc]
    by_cases this : other = client
    · subst this
      simp [State.setPc,Pc.listed,without]
    · simp only [State.setPc,mem_without,this,if_false]
      simpa [this] using listed other
  | leave found => exact listed_setPc listed found rfl rfl rfl
  | checkEmpty found => exact listed_setPc listed found rfl rfl rfl
  | checkWatched found => exact listed_setPc listed found rfl rfl rfl
  | sendDetach found => exact listed_setPc listed found rfl rfl rfl
  | detachLost found => exact listed_setPc listed found rfl rfl rfl
  | finish found => exact listed_setPc listed found rfl rfl rfl
  | take => exact listed
  | started asked => exact listed
  | closed => exact listed

theorem listed_reading {s : State} {client : String} {pc : Pc} (listed : Listed s)
    (found : s.handlers.lookup client = some pc) (on : pc.listed = true) : client ∈ s.clients :=
  (listed client).mpr ⟨pc,found,on⟩

theorem mem_track {s : State} {client id client' : String} {msg : ClientMsg}
    (member : client' ∈ members (track s.subs client msg) id) : client' ∈ members s.subs id ∨ client' = client := by
  cases msg with
  | attach id' => exact (mem_subscribe.mp member).imp_right And.right
  | kill id' => exact .inl (mem_unsubscribe member)
  | start => exact .inl member
  | other => exact .inl member

theorem mem_dropClient {subs : Subscriptions} {client id client' : String} :
    client' ∈ members (dropClient subs client) id ↔ client' ∈ members subs id ∧ client' ≠ client := by
  rw [members_dropClient,mem_without]

theorem mem_erase {subs : Subscriptions} {id other client : String} (member : client ∈ members (subs.erase id) other) :
    client ∈ members subs other := by
  rw [members,Table.lookup_erase_eq] at member
  split_ifs at member
  · cases member
  · exact member

/-- One step keeps subscribers connected exactly under the condition. -/
theorem connected_step {s t : State} {a : Action} (listed : Listed s) (connected : SubscribersConnected s)
    (stepped : step s a = some t) : SubscribersConnected t ↔ namesConnected s a = true := by
  have easy : namesConnected s a = true → SubscribersConnected t → (SubscribersConnected t ↔ namesConnected s a = true) :=
    fun met after => ⟨fun _ => met,fun _ => after⟩
  cases step_move stepped with
  | connect new => exact easy rfl fun id client member => List.mem_cons_of_mem _ (connected id client member)
  | @receive client msg found =>
    have there : client ∈ s.clients := listed_reading listed found rfl
    refine easy rfl ?_
    intro id client' member
    rcases mem_track member with old | rfl
    · exact connected id client' old
    · exact there
  | forward found => exact easy rfl connected
  | forwardFails found => exact easy rfl connected
  | disconnect found => exact easy rfl connected
  | @unlist client found =>
    simp only [namesConnected,List.isEmpty_iff,List.eq_nil_iff_forall_not_mem,mem_sessionsOf]
    constructor
    · intro after id member
      exact (mem_without.mp (after id client member)).2 rfl
    · intro none_ id client' member
      refine mem_without.mpr ⟨connected id client' member,?_⟩
      rintro rfl; exact none_ id member
  | leave found => exact easy rfl fun id client' member => connected id client' (mem_dropClient.mp member).1
  | checkEmpty found => exact easy rfl connected
  | checkWatched found => exact easy rfl connected
  | sendDetach found => exact easy rfl connected
  | detachLost found => exact easy rfl connected
  | finish found => exact easy rfl connected
  | take => exact easy rfl connected
  | @started client id asked =>
    simp only [namesConnected,List.contains_iff_mem]
    constructor
    · intro after; exact after id client (mem_subscribe.mpr (.inr ⟨rfl,rfl⟩))
    · intro there id' client' member
      rcases mem_subscribe.mp member with old | ⟨-,rfl⟩
      · exact connected id' client' old
      · exact there
  | closed => exact easy rfl fun id client member => connected id client (mem_erase member)

/-! ### What the last subscriber leaves -/

structure Tidy (s : State) : Prop where
  listed : Listed s
  member : ∀ id, ∀ client ∈ members s.subs id, client ∈ s.clients ∨ s.handlers.lookup client = some .unlisted
  owed : ∀ id ∈ s.owed, members s.subs id = [] ∧ ∃ client pc, s.handlers.lookup client = some pc ∧ id ∈ pc.pending

/-- A handler moves on and keeps what it has to look at; sets and debts shrink. -/
theorem tidy_setPc {s t : State} {client : String} {old new : Pc} (tidy : Tidy s) (listed : Listed t)
    (found : s.handlers.lookup client = some old) (handlers : t.handlers = s.handlers.insert client new)
    (still : old ≠ .unlisted) (clients : t.clients = s.clients)
    (subs : ∀ id, ∀ c ∈ members t.subs id, c ∈ members s.subs id) (owed : ∀ id ∈ t.owed, id ∈ s.owed)
    (pending : ∀ id ∈ t.owed, id ∈ old.pending → id ∈ new.pending) : Tidy t := by
  refine ⟨listed,?_,?_⟩
  · intro id c member
    rw [clients,handlers,Table.lookup_insert_eq]
    rcases tidy.member id c (subs id c member) with there | unlisted
    · exact .inl there
    · by_cases this : c = client
      · subst this
        cases found.symm.trans unlisted
        exact absurd rfl still
      · rw [if_neg this]; exact .inr unlisted
  · intro id debt
    obtain ⟨empty,c,pc,at_,listed⟩ := tidy.owed id (owed id debt)
    refine ⟨List.eq_nil_iff_forall_not_mem.mpr fun c member => ?_,?_⟩
    · have old := subs id c member
      rw [empty] at old
      cases old
    · rw [handlers]
      by_cases this : c = client
      · subst this
        cases found.symm.trans at_
        exact ⟨c,new,by rw [Table.lookup_insert_eq,if_pos rfl],pending id debt listed⟩
      · exact ⟨c,pc,by rw [Table.lookup_insert_eq,if_neg this]; exact at_,listed⟩

/-- A handler that has no session to look at moves on, and the sets stay. -/
theorem tidy_idle {s t : State} {client : String} {old new : Pc} (tidy : Tidy s) (listed : Listed t)
    (found : s.handlers.lookup client = some old) (handlers : t.handlers = s.handlers.insert client new)
    (still : old ≠ .unlisted) (clients : t.clients = s.clients) (subs : t.subs = s.subs) (owed : t.owed = s.owed)
    (idle : old.pending = []) : Tidy t := by
  refine tidy_setPc tidy listed found handlers still clients ?_ ?_ ?_
  · intro id c member
    rwa [subs] at member
  · intro id debt
    rwa [owed] at debt
  · intro id _ pending
    rw [idle] at pending
    cases pending

theorem tidy_subscribe {s t : State} {client id : String} (tidy : Tidy s) (listed : Listed t)
    (clients : t.clients = s.clients) (subs : t.subs = subscribe s.subs id client) (owed : t.owed = without id s.owed)
    (there : client ∈ s.clients) (unlisted : ∀ c, s.handlers.lookup c = some .unlisted → t.handlers.lookup c = some .unlisted)
    (pending : ∀ id c pc, s.handlers.lookup c = some pc → id ∈ pc.pending →
      ∃ c' pc', t.handlers.lookup c' = some pc' ∧ id ∈ pc'.pending) : Tidy t := by
  refine ⟨listed,?_,?_⟩
  · intro id' c member
    rw [subs] at member
    rw [clients]
    rcases mem_subscribe.mp member with old | ⟨-,rfl⟩
    · exact (tidy.member id' c old).imp_right (unlisted c)
    · exact .inl there
  · intro id' debt
    rw [owed] at debt
    obtain ⟨old,differs⟩ := mem_without.mp debt
    obtain ⟨empty,c,pc,at_,listed⟩ := tidy.owed id' old
    refine ⟨?_,pending id' c pc at_ listed⟩
    rw [subs,subscribe,members_insert,if_neg differs]
    exact empty

theorem tidy_leave {s t : State} {client : String} (tidy : Tidy s) (listed : Listed t)
    (found : s.handlers.lookup client = some .unlisted) (clients : t.clients = s.clients)
    (handlers : t.handlers = s.handlers.insert client (.detaching (sessionsOf s.subs client)))
    (subs : t.subs = dropClient s.subs client)
    (owed : t.owed = (sessionsOf s.subs client).filter (fun id => members (dropClient s.subs client) id = []) ++ s.owed) :
    Tidy t := by
  refine ⟨listed,?_,?_⟩
  · intro id c member
    rw [subs] at member
    obtain ⟨old,differs⟩ := mem_dropClient.mp member
    rw [clients,handlers,Table.lookup_insert_eq,if_neg differs]
    exact tidy.member id c old
  · intro id debt
    rw [subs,handlers]
    rw [owed] at debt
    rcases List.mem_append.mp debt with new | old
    · obtain ⟨watched,empty⟩ := List.mem_filter.mp new
      exact ⟨by simpa using empty,client,.detaching (sessionsOf s.subs client),by rw [Table.lookup_insert_eq,if_pos rfl],watched⟩
    · obtain ⟨empty,c,pc,at_,listed⟩ := tidy.owed id old
      refine ⟨by rw [members_dropClient,empty]; rfl,c,pc,?_,listed⟩
      rw [Table.lookup_insert_eq,if_neg]
      · exact at_
      · rintro rfl
        cases found.symm.trans at_
        cases listed

theorem tidy_step {s t : State} {a : Action} (tidy : Tidy s) (met : answersConnected s a = true)
    (stepped : step s a = some t) : Tidy t := by
  have listed := listed_step tidy.listed stepped
  cases step_move stepped with
  | @connect client new =>
    have others : ∀ c pc, s.handlers.lookup c = some pc → c ≠ client := by
      rintro c pc at_ rfl; rw [new] at at_; cases at_
    refine ⟨listed,?_,?_⟩
    · intro id c member
      rw [handlers_setPc]
      rcases tidy.member id c member with there | unlisted
      · exact .inl (List.mem_cons_of_mem _ there)
      · right
        rw [if_neg (others c _ unlisted)]; exact unlisted
    · intro id debt
      obtain ⟨empty,c,pc,at_,listed⟩ := tidy.owed id debt
      exact ⟨empty,c,pc,by rw [handlers_setPc,if_neg (others c pc at_)]; exact at_,listed⟩
  | @receive client msg found =>
    cases msg with
    | attach id =>
      refine tidy_subscribe tidy listed rfl rfl rfl (listed_reading tidy.listed found rfl) ?_ ?_
      · intro c unlisted
        rw [handlers_setPc,if_neg]
        · exact unlisted
        · rintro rfl; cases found.symm.trans unlisted
      · intro id' c pc at_ pending
        refine ⟨c,pc,?_,pending⟩
        rw [handlers_setPc,if_neg]
        · exact at_
        · rintro rfl; cases found.symm.trans at_; cases pending
    | kill id =>
      exact tidy_setPc tidy listed found rfl (by simp) rfl (fun _ _ => mem_unsubscribe) (fun _ h => h) (by simp [Pc.pending])
    | start => exact tidy_idle tidy listed found rfl (by simp) rfl rfl rfl rfl
    | other => exact tidy_idle tidy listed found rfl (by simp) rfl rfl rfl rfl
  | forward found => exact tidy_idle tidy listed found rfl (by simp) rfl rfl rfl rfl
  | forwardFails found => exact tidy_idle tidy listed found rfl (by simp) rfl rfl rfl rfl
  | disconnect found => exact tidy_idle tidy listed found rfl (by simp) rfl rfl rfl rfl
  | @unlist client found =>
    refine ⟨listed,?_,?_⟩
    · intro id c member
      rw [handlers_setPc]
      by_cases this : c = client
      · exact .inr (if_pos this)
      · rw [if_neg this]
        exact (tidy.member id c member).imp_left fun there => mem_without.mpr ⟨there,this⟩
    · intro id debt
      obtain ⟨empty,c,pc,at_,listed⟩ := tidy.owed id debt
      refine ⟨empty,c,pc,?_,listed⟩
      rw [handlers_setPc,if_neg]
      · exact at_
      · rintro rfl; cases found.symm.trans at_; cases listed
  | leave found => exact tidy_leave tidy listed found rfl rfl rfl rfl
  | @checkEmpty client id sessions found there empty =>
    refine tidy_setPc tidy listed found rfl (by simp) rfl (fun _ _ h => h) (fun _ h => h) ?_
    intro id' _ pending
    by_cases this : id' = id
    · subst this; exact List.mem_cons_self
    · exact List.mem_cons_of_mem _ (mem_without.mpr ⟨pending,this⟩)
  | @checkWatched client id sessions found there watched =>
    refine tidy_setPc tidy listed found rfl (by simp) rfl (fun _ _ h => h) (fun _ h => h) ?_
    intro id' debt pending
    refine mem_without.mpr ⟨pending,?_⟩
    rintro rfl; exact watched (tidy.owed id' debt).1
  | @sendDetach client id sessions found =>
    refine tidy_setPc tidy listed found rfl (by simp) rfl (fun _ _ h => h) (fun _ debt => (mem_without.mp debt).1) ?_
    intro id' debt pending
    rcases List.mem_cons.mp pending with rfl | later
    · exact absurd rfl (mem_without.mp debt).2
    · exact later
  | detachLost found => cases met
  | finish found => exact tidy_idle tidy listed found rfl (by simp) rfl rfl rfl rfl
  | take => exact ⟨listed,tidy.member,tidy.owed⟩
  | @started client id asked =>
    refine tidy_subscribe tidy listed rfl rfl rfl ?_ (fun _ h => h) (fun _ c pc at_ pending => ⟨c,pc,at_,pending⟩)
    simpa [answersConnected] using met
  | closed =>
    refine ⟨listed,fun id c member => tidy.member id c (mem_erase member),?_⟩
    intro id debt
    obtain ⟨empty,rest⟩ := tidy.owed id debt
    refine ⟨List.eq_nil_iff_forall_not_mem.mpr fun c member => ?_,rest⟩
    have old := mem_erase member
    rw [empty] at old
    cases old

theorem listed_start : Listed start := by
  intro client
  constructor
  · intro there; cases there
  · rintro ⟨pc,at_,-⟩; cases at_

theorem tidy_start : Tidy start := by
  refine ⟨listed_start,?_,?_⟩
  · intro id client member; cases member
  · intro id debt; cases debt

theorem tidy_leavesNothing {s : State} (tidy : Tidy s) : LeavesNothing s where
  member := tidy.member
  detached done := by
    refine List.eq_nil_iff_forall_not_mem.mpr ?_
    intro id debt
    obtain ⟨-,client,pc,at_,pending⟩ := tidy.owed id debt
    rw [done client pc at_] at pending
    cases pending

/-- Subscribers are connected in every state exactly when no subscriber is taken
    off first and no answer comes for a client that left. Where only the latter
    holds, subscribers are gone when their handlers are done, and detached. -/
theorem subscribers_connected_iff (as : List Action) :
    (Always step SubscribersConnected start as ↔ Along step (fun s a => namesConnected s a = true) start as) ∧
    (Along step (fun s a => answersConnected s a = true) start as → Always step LeavesNothing start as) := by
  constructor
  · refine always_iff_along (fun _ _ _ => listed_step) (fun _ _ _ => connected_step) listed_start ?_
    intro id client member
    cases member
  · exact always_of_keeps (fun _ _ _ => tidy_step) (fun _ => tidy_leavesNothing) tidy_start

/-- A client starts a session, another one attaches to it, and both leave. -/
def bothLeave : List Action :=
  [.connect "a",.receive "a" .start,.forward "a",.take,.started "a" "s",.connect "b",.receive "b" (.attach "s"),.forward "b",
    .disconnect "a",.unlist "a",.leave "a",.check "a" "s",.disconnect "b",.unlist "b",.leave "b",.check "b" "s",
    .sendDetach "b" true,.finish "a",.finish "b"]

theorem subscribers_connected_bothLeave :
    Along step (fun s a => answersConnected s a = true) start bothLeave ∧ Always step LeavesNothing start bothLeave ∧
      (run step start bothLeave).map (fun s => (s.owed,s.queue.getLast?)) = some ([],some (.detach "s")) :=
  ⟨by decide +kernel,(subscribers_connected_iff bothLeave).2 (by decide +kernel),by decide +kernel⟩

/-- A client asks for a session and leaves before the answer comes. -/
def answeredLate : List Action :=
  [.connect "a",.receive "a" .start,.forward "a",.take,.disconnect "a",.unlist "a",.leave "a",.finish "a",.started "a" "s"]

theorem subscriber_stays :
    ∃ t, run step start answeredLate = some t ∧ t.clients = [] ∧ t.handlers.lookup "a" = some .gone ∧
      members t.subs "s" = ["a"] ∧ t.queue = [] ∧ ¬ Always step SubscribersConnected start answeredLate := by
  have known : (run step start answeredLate).map (fun t => (t.clients,t.handlers.lookup "a",members t.subs "s",t.queue)) =
      some ([],some .gone,["a"],[]) := by decide +kernel
  obtain ⟨t,ran,facts⟩ := Option.map_eq_some_iff.mp known
  simp only [Prod.mk.injEq] at facts
  obtain ⟨clients,handler,subscribers,queue⟩ := facts
  refine ⟨t,ran,clients,handler,subscribers,queue,?_⟩
  intro all
  have there := always_last all ran "s" "a" (by rw [subscribers]; simp)
  rw [clients] at there
  cases there

end Sctl.RelaySubscriptions
