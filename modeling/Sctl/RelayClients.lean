import Sctl.RelayRegistry
import Sctl.RelaySubscriptions

/-!
Clients of the relay and the connections of their device. A client is given the
device's queue and its maps when it connects (`proxy_ws`), and its handler keeps
both to the end (`handle_client_ws`). The maps are shared by all connections of
the device that take over from one another, the queue belongs to one of them.
-/
namespace Sctl.RelayClients
open Sctl.Runs
open Sctl.RelaySubscriptions (DeviceMsg)

abbrev Registry := RelayRegistry.State
abbrev Maps := RelaySubscriptions.State

/-- What `proxy_ws` hands to `handle_client_ws`. -/
structure Client where
  /-- `device_tx`, by the handler that reads from it. -/
  deviceTx : Nat
  maps : Nat

structure State where
  registry : Registry
  maps : Table Nat Maps
  /-- What clients queued for the device, by the connection's handler. -/
  queues : Table Nat (List DeviceMsg)
  clients : Table String Client
  /-- The clients that were in the maps when a handler took over an entry together
      with its maps, each with that handler, the last one first. -/
  carried : List (String × Nat)

def start (heartbeatTimeoutSecs : Nat) : State := ⟨RelayRegistry.start heartbeatTimeoutSecs,∅,∅,∅,[]⟩

inductive Action
  | registry (a : RelayRegistry.Action)
  | proxyWs (client serial token : String)
  /-- A step of the client's own handler. -/
  | client (client : String) (a : RelaySubscriptions.Action)
  /-- A frame of the device, read by the connection's handler. -/
  | frame (n : Nat) (a : RelaySubscriptions.Action)
  /-- The connection's writer takes the next message. -/
  | take (n : Nat)

def maxClientsPerDevice : Nat := 32

def mapsOf (s : State) (m : Nat) : Maps := (s.maps.lookup m).getD RelaySubscriptions.start

def queueOf (s : State) (n : Nat) : List DeviceMsg := (s.queues.lookup n).getD []

def carriedBy (s : State) (client : String) : Option Nat := s.carried.lookup client

/-- The client whose handler takes the step. -/
def clientOf : RelaySubscriptions.Action → Option String
  | .connect client => some client
  | .receive client _ => some client
  | .forward client => some client
  | .forwardFails client => some client
  | .disconnect client => some client
  | .unlist client => some client
  | .leave client => some client
  | .check client _ => some client
  | .sendDetach client _ => some client
  | .finish client => some client
  | _ => none

def isFrame : RelaySubscriptions.Action → Bool
  | .started _ _ => true
  | .closed _ => true
  | _ => false

/-- The step puts its message into the queue. -/
def delivers : RelaySubscriptions.Action → Bool
  | .forward _ => true
  | .sendDetach _ delivered => delivered
  | _ => false

/-- The clients that go over to the handler's connection when it enters its device. -/
def carriedOver (r : Registry) (maps : Table Nat Maps) : RelayRegistry.Action → List (String × Nat)
  | .insert n =>
    match r.handlers[n]? with
    | some ⟨serial,_,_,.drawn _ m⟩ =>
      if (r.devices.lookup serial).any (·.maps = m) then
        ((maps.lookup m).getD RelaySubscriptions.start).clients.map fun client => (client,n)
      else []
    | _ => []
  | _ => []

def step (s : State) : Action → Option State
  | .registry a =>
    (RelayRegistry.step s.registry a).map fun r =>
      { s with registry := r, carried := carriedOver s.registry s.maps a ++ s.carried }
  | .proxyWs client serial token =>
    match s.registry.devices.lookup serial with
    | some d =>
      if d.apiKey = token ∧ (mapsOf s d.maps).clients.length < maxClientsPerDevice ∧ s.clients.lookup client = none then
        some { s with clients := s.clients.insert client ⟨d.handler,d.maps⟩ }
      else none
    | none => none
  | .client client a =>
    match s.clients.lookup client with
    | some c =>
      if clientOf a = some client ∧ (delivers a → c.deviceTx ∉ s.registry.closed) then
        (RelaySubscriptions.step { mapsOf s c.maps with queue := queueOf s c.deviceTx } a).map fun m =>
          { s with maps := s.maps.insert c.maps { m with queue := [] }, queues := s.queues.insert c.deviceTx m.queue }
      else none
    | none => none
  | .frame n a =>
    match s.registry.handlers[n]? with
    | some h =>
      match h.pc with
      | .serving _ m =>
        if isFrame a then (RelaySubscriptions.step (mapsOf s m) a).map fun m' => { s with maps := s.maps.insert m m' }
        else none
      | _ => none
    | none => none
  | .take n => if n ∈ s.registry.closed then none else some { s with queues := s.queues.insert n (queueOf s n).tail }

/-! ### Where messages go -/

/-- The message that a step of a client's handler sends, or tries to. -/
def sentBy (m : Maps) : RelaySubscriptions.Action → Option DeviceMsg
  | .forward client =>
    match m.handlers.lookup client with
    | some (.forwarding msg) => some (.request client msg)
    | _ => none
  | .forwardFails client =>
    match m.handlers.lookup client with
    | some (.forwarding msg) => some (.request client msg)
    | _ => none
  | .sendDetach client _ =>
    match m.handlers.lookup client with
    | some (.sending id _) => some (.detach id)
    | _ => none
  | _ => none

def sent (s : State) : Action → Option (String × DeviceMsg)
  | .client client a => ((s.clients.lookup client).bind fun c => sentBy (mapsOf s c.maps) a).map fun msg => (client,msg)
  | _ => none

/-- What a client sends after its device came back goes to the queue of the new
    connection, and nothing goes to the queue of a replaced one. -/
structure SurvivesStep (s t : State) (client : String) (msg : DeviceMsg) : Prop where
  forwarded : ∀ n, carriedBy s client = some n → queueOf t n = queueOf s n ++ [msg]
  spared : ∀ n ∈ s.registry.replaced, queueOf t n = queueOf s n

def Survives (s : State) (a : Action) : Prop :=
  ∀ t, step s a = some t → ∀ client msg, sent s a = some (client,msg) → SurvivesStep s t client msg

/-- Only a client that was not carried over sends, and what it sends is accepted
    only by a connection that was not replaced. -/
def sendsBeforeReconnect (s : State) : Action → Bool
  | .client client a =>
    match (s.clients.lookup client).bind fun c => sentBy (mapsOf s c.maps) a with
    | some _ =>
      (carriedBy s client).isNone &&
        (!delivers a || (s.clients.lookup client).all fun c => c.deviceTx ∉ s.registry.replaced)
    | none => true
  | _ => true

/-! ### One step -/

theorem queue_step {m m' : Maps} {a : RelaySubscriptions.Action} {client : String} (mine : clientOf a = some client)
    (stepped : RelaySubscriptions.step m a = some m') :
    m'.queue = m.queue ++ if delivers a then (sentBy m a).toList else [] := by
  cases RelaySubscriptions.step_move stepped with
  | forward found => simp [RelaySubscriptions.State.setPc,delivers,sentBy,found]
  | sendDetach found => simp [RelaySubscriptions.State.setPc,delivers,sentBy,found]
  | take => cases mine
  | started => cases mine
  | closed => cases mine
  | _ => simp [RelaySubscriptions.State.setPc,delivers]

/-- Only its own handler brings a client into the maps. -/
theorem clients_step {m m' : Maps} {a : RelaySubscriptions.Action} (stepped : RelaySubscriptions.step m a = some m')
    {client : String} (member : client ∈ m'.clients) : client ∈ m.clients ∨ a = .connect client := by
  cases RelaySubscriptions.step_move stepped with
  | connect =>
    rcases List.mem_cons.mp member with rfl | earlier
    · exact .inr rfl
    · exact .inl earlier
  | unlist => exact .inl (RelaySubscriptions.mem_without.mp member).1
  | _ => exact .inl member

theorem queueOf_insert (s : State) (n k : Nat) (queue : List DeviceMsg) :
    ((s.queues.insert n queue).lookup k).getD [] = if k = n then queue else queueOf s k := by
  rw [Table.lookup_insert_eq]
  split_ifs <;> rfl

theorem mapsOf_insert (s : State) (m k : Nat) (maps : Maps) :
    ((s.maps.insert m maps).lookup k).getD RelaySubscriptions.start = if k = m then maps else mapsOf s k := by
  rw [Table.lookup_insert_eq]
  split_ifs <;> rfl

/-- What a step can do. -/
inductive Move (s : State) : Action → State → Prop
  | registry {a r} (stepped : RelayRegistry.step s.registry a = some r) :
    Move s (.registry a) { s with registry := r, carried := carriedOver s.registry s.maps a ++ s.carried }
  | proxyWs {client serial token d} (there : s.registry.devices.lookup serial = some d)
    (new : s.clients.lookup client = none) :
    Move s (.proxyWs client serial token) { s with clients := s.clients.insert client ⟨d.handler,d.maps⟩ }
  | client {client a c m} (known : s.clients.lookup client = some c) (mine : clientOf a = some client)
    (stepped : RelaySubscriptions.step { mapsOf s c.maps with queue := queueOf s c.deviceTx } a = some m) :
    Move s (.client client a) { s with
      maps := s.maps.insert c.maps { m with queue := [] }, queues := s.queues.insert c.deviceTx m.queue }
  | frame {n a m m'} (frame : isFrame a = true) (stepped : RelaySubscriptions.step (mapsOf s m) a = some m') :
    Move s (.frame n a) { s with maps := s.maps.insert m m' }
  | take {n} : Move s (.take n) { s with queues := s.queues.insert n (queueOf s n).tail }

theorem step_move {s t : State} {a : Action} (stepped : step s a = some t) : Move s a t := by
  cases a with
  | registry a =>
    obtain ⟨r,moved,rfl⟩ := Option.map_eq_some_iff.mp stepped
    exact .registry moved
  | proxyWs client serial token =>
    simp only [step] at stepped
    split at stepped
    · next there =>
      simp only [Option.ite_none_right_eq_some,Option.some.injEq] at stepped
      obtain ⟨⟨-,-,new⟩,rfl⟩ := stepped
      exact .proxyWs there new
    · cases stepped
  | client client a =>
    simp only [step] at stepped
    split at stepped
    · next known =>
      simp only [Option.ite_none_right_eq_some] at stepped
      obtain ⟨⟨mine,-⟩,stepped⟩ := stepped
      obtain ⟨m,moved,rfl⟩ := Option.map_eq_some_iff.mp stepped
      exact .client known mine moved
    · cases stepped
  | frame n a =>
    simp only [step] at stepped
    split at stepped
    · split at stepped
      · simp only [Option.ite_none_right_eq_some] at stepped
        obtain ⟨frame,stepped⟩ := stepped
        obtain ⟨m',moved,rfl⟩ := Option.map_eq_some_iff.mp stepped
        exact .frame frame moved
      · cases stepped
    · cases stepped
  | take n =>
    simp only [step,Option.ite_none_left_eq_some,Option.some.injEq] at stepped
    obtain ⟨-,rfl⟩ := stepped
    exact .take

/-- A client holds the queue of a connection that was entered before, and never
    that of a connection it was carried over to. -/
structure Placed (s : State) : Prop where
  entered : RelayRegistry.Entered s.registry
  deviceTx : ∀ client c, s.clients.lookup client = some c →
    ∃ h, s.registry.handlers[c.deviceTx]? = some h ∧ h.pc.entered = true
  member : ∀ m, ∀ client ∈ (mapsOf s m).clients, ∃ c, s.clients.lookup client = some c
  carried : ∀ client n, (client,n) ∈ s.carried → ∃ c, s.clients.lookup client = some c ∧ c.deviceTx ≠ n

theorem placed_start (heartbeatTimeoutSecs : Nat) : Placed (start heartbeatTimeoutSecs) := by
  refine ⟨RelayRegistry.entered_start _,?_,?_,?_⟩
  · intro client c known; cases known
  · intro m client member; cases member
  · intro client n member; cases member

/-- The clients that are carried over to a connection hold the queue of an earlier one. -/
theorem carriedOver_placed {s : State} (placed : Placed s) {a : RelayRegistry.Action} {client : String} {n : Nat}
    (member : (client,n) ∈ carriedOver s.registry s.maps a) :
    ∃ c, s.clients.lookup client = some c ∧ c.deviceTx ≠ n := by
  cases a with
  | insert k =>
    simp only [carriedOver] at member
    split at member
    · next at_ =>
      split_ifs at member
      · obtain ⟨client,listed,same⟩ := List.mem_map.mp member
        cases same
        obtain ⟨c,known⟩ := placed.member _ client listed
        obtain ⟨h,there,entered⟩ := placed.deviceTx client c known
        refine ⟨c,known,?_⟩
        -- the handler that enters its device has not entered one before
        rintro rfl
        cases at_.symm.trans there
        cases entered
      · cases member
    · cases member
  | _ => cases member

theorem placed_step {s t : State} {a : Action} (placed : Placed s) (stepped : step s a = some t) : Placed t := by
  cases step_move stepped with
  | @registry a r moved =>
    refine ⟨RelayRegistry.entered_step placed.entered moved,?_,placed.member,?_⟩
    · intro client c known
      obtain ⟨h,there,entered⟩ := placed.deviceTx client c known
      obtain ⟨pc,after,stays⟩ := RelayRegistry.handler_after moved there
      exact ⟨_,after,stays entered⟩
    · intro client n member
      rcases List.mem_append.mp member with new | earlier
      · exact carriedOver_placed placed new
      · exact placed.carried client n earlier
  | @proxyWs client serial token d there new =>
    have kept : ∀ client' c, s.clients.lookup client' = some c →
        (s.clients.insert client ⟨d.handler,d.maps⟩).lookup client' = some c := by
      intro client' c known
      rw [Table.lookup_insert_eq,if_neg]
      · exact known
      · rintro rfl; cases new.symm.trans known
    refine ⟨placed.entered,?_,?_,?_⟩
    · intro client' c known
      change (s.clients.insert client ⟨d.handler,d.maps⟩).lookup client' = some c at known
      rw [Table.lookup_insert_eq] at known
      split_ifs at known
      · cases known
        obtain ⟨h,at_,-,entered⟩ := placed.entered.entry serial d there
        exact ⟨h,at_,entered⟩
      · exact placed.deviceTx client' c known
    · intro m client' member
      obtain ⟨c,known⟩ := placed.member m client' member
      exact ⟨c,kept client' c known⟩
    · intro client' n member
      obtain ⟨c,known,other⟩ := placed.carried client' n member
      exact ⟨c,kept client' c known,other⟩
  | @client client a c m known mine moved =>
    refine ⟨placed.entered,placed.deviceTx,?_,placed.carried⟩
    intro k client' member
    change client' ∈ (((s.maps.insert c.maps { m with queue := [] }).lookup k).getD RelaySubscriptions.start).clients at member
    rw [mapsOf_insert] at member
    split_ifs at member with same
    · rcases clients_step moved member with earlier | rfl
      · exact placed.member c.maps client' earlier
      · cases mine; exact ⟨c,known⟩
    · exact placed.member k client' member
  | @frame n a m m' frame moved =>
    refine ⟨placed.entered,placed.deviceTx,?_,placed.carried⟩
    intro k client' member
    change client' ∈ (((s.maps.insert m m').lookup k).getD RelaySubscriptions.start).clients at member
    rw [mapsOf_insert] at member
    split_ifs at member with same
    · rcases clients_step moved member with earlier | rfl
      · exact placed.member m client' earlier
      · cases frame
    · exact placed.member k client' member
  | take => exact ⟨placed.entered,placed.deviceTx,placed.member,placed.carried⟩

/-! ### Runs -/

/-- A step of a client's handler sends to the queue that it was given and to no other. -/
theorem survives_iff {s t : State} {a : Action} (placed : Placed s) (stepped : step s a = some t) :
    Survives s a ↔ sendsBeforeReconnect s a = true := by
  cases step_move stepped with
  | @client client a c m known mine moved =>
    cases message : sentBy (mapsOf s c.maps) a with
    | none => simp [Survives,sent,sendsBeforeReconnect,known,message]
    | some msg =>
      have queue : m.queue = queueOf s c.deviceTx ++ if delivers a then [msg] else [] := by
        have there : sentBy { mapsOf s c.maps with queue := queueOf s c.deviceTx } a = some msg := message
        have after := queue_step mine moved
        rw [there] at after
        exact after
      have after : ∀ n, queueOf { s with
          maps := s.maps.insert c.maps { m with queue := [] }, queues := s.queues.insert c.deviceTx m.queue } n =
          if n = c.deviceTx then m.queue else queueOf s n := fun n => queueOf_insert s c.deviceTx n m.queue
      have here : sendsBeforeReconnect s (.client client a) = true ↔
          carriedBy s client = none ∧ (delivers a = true → c.deviceTx ∉ s.registry.replaced) := by
        simp only [sendsBeforeReconnect,known,Option.bind_some,message,Bool.and_eq_true,Option.isNone_iff_eq_none,
          Option.all_some,Bool.or_eq_true,Bool.not_eq_true',decide_eq_true_eq]
        cases delivers a <;> simp
      rw [here]
      constructor
      · intro survives
        have step_ := survives _ stepped client msg (by simp [sent,known,message])
        constructor
        · cases carried : carriedBy s client with
          | none => rfl
          | some n =>
            obtain ⟨c',known',other⟩ := placed.carried client n (Table.mem_of_lookup carried)
            cases known.symm.trans known'
            have forwarded := step_.forwarded n carried
            rw [after,if_neg (Ne.symm other)] at forwarded
            have length := congrArg List.length forwarded
            simp at length
        · intro delivered replaced
          have spared := step_.spared c.deviceTx replaced
          rw [after,if_pos rfl,queue,if_pos delivered] at spared
          have length := congrArg List.length spared
          simp at length
      · rintro ⟨free,unreplaced⟩ t' stepped' client' msg' sent_
        cases stepped.symm.trans stepped'
        simp only [sent,known,Option.bind_some,message,Option.map_some,Option.some.injEq,Prod.mk.injEq] at sent_
        obtain ⟨rfl,rfl⟩ := sent_
        refine ⟨?_,?_⟩
        · intro n carried
          cases free.symm.trans carried
        · intro n replaced
          rw [after]
          split_ifs with same
          · subst same
            rw [queue,if_neg fun delivered => unreplaced delivered replaced,List.append_nil]
          · rfl
  | _ =>
    refine iff_of_true ?_ rfl
    intro t stepped client msg sent_
    cases sent_

/-- Clients survive a reconnect exactly as far as those that are carried over send
    nothing more, and nothing is accepted by a connection that was replaced. -/
theorem clients_survive_iff (heartbeatTimeoutSecs : Nat) (as : List Action) :
    Along step Survives (start heartbeatTimeoutSecs) as ↔
      Along step (fun s a => sendsBeforeReconnect s a = true) (start heartbeatTimeoutSecs) as :=
  along_congr (fun _ _ _ => placed_step) (fun _ _ _ => survives_iff) (placed_start heartbeatTimeoutSecs)

/-- A client connects; the device reconnects; the client starts a session. -/
def sendsAfterReconnect : List Action :=
  [.registry (.connect "d" "key"),.registry (.share 0),.registry (.draw 0),.registry (.insert 0),.proxyWs "c" "d" "key",
    .client "c" (.connect "c"),.registry (.connect "d" "key"),.registry (.share 1),.registry (.draw 1),.registry (.insert 1),
    .client "c" (.receive "c" .start),.client "c" (.forward "c")]

theorem client_left_behind :
    ∃ t, run step (start 20) sendsAfterReconnect = some t ∧ t.registry.replaced = [0] ∧ carriedBy t "c" = some 1 ∧
      queueOf t 0 = [.request "c" .start] ∧ queueOf t 1 = [] ∧ ¬ Along step Survives (start 20) sendsAfterReconnect := by
  have known : (run step (start 20) sendsAfterReconnect).map (fun t =>
      (t.registry.replaced,carriedBy t "c",queueOf t 0,queueOf t 1)) =
      some ([0],some 1,[.request "c" .start],[]) := by decide +kernel
  obtain ⟨t,ran,facts⟩ := Option.map_eq_some_iff.mp known
  simp only [Prod.mk.injEq] at facts
  obtain ⟨replaced,carried,old,new⟩ := facts
  refine ⟨t,ran,replaced,carried,old,new,?_⟩
  have late : ¬ Along step (fun s a => sendsBeforeReconnect s a = true) (start 20) sendsAfterReconnect := by decide +kernel
  intro survives
  exact late ((along_congr (fun _ _ _ => placed_step) (fun _ _ _ => survives_iff) (placed_start 20)).mp survives)

/-! ### The limit -/

/-- No device has more clients than it may have. -/
def ClientsLimited (s : State) : Prop :=
  ∀ serial d, s.registry.devices.lookup serial = some d → (mapsOf s d.maps).clients.length ≤ maxClientsPerDevice

/-- Whoever joins the clients of a device finds room, and so does a device that is
    entered with the clients of another one. -/
def joinsBelowLimit (s : State) : Action → Bool
  | .client client (.connect _) =>
    (s.clients.lookup client).all fun c =>
      (RelayRegistry.devicesOf s.registry).all (fun d => d.maps ≠ c.maps) ||
        decide ((mapsOf s c.maps).clients.length < maxClientsPerDevice)
  | .registry (.insert n) =>
    match s.registry.handlers[n]? with
    | some ⟨_,_,_,.drawn _ m⟩ => (mapsOf s m).clients.length ≤ maxClientsPerDevice
    | _ => true
  | _ => true

theorem mem_devicesOf {r : Registry} {d : RelayRegistry.Device} :
    d ∈ RelayRegistry.devicesOf r ↔ ∃ serial, r.devices.lookup serial = some d := by
  simp only [RelayRegistry.devicesOf,List.mem_map]
  constructor
  · rintro ⟨⟨serial,d⟩,member,rfl⟩
    exact ⟨serial,Table.lookup_eq_some_iff.mpr member⟩
  · rintro ⟨serial,there⟩
    exact ⟨⟨serial,d⟩,Table.lookup_eq_some_iff.mp there,rfl⟩

/-- Only a client that registers makes the map larger. -/
theorem clients_length {m m' : Maps} {a : RelaySubscriptions.Action} (stepped : RelaySubscriptions.step m a = some m') :
    (∃ client, a = .connect client ∧ m'.clients.length = m.clients.length + 1) ∨
      (∀ client, a ≠ .connect client) ∧ m'.clients.length ≤ m.clients.length := by
  cases RelaySubscriptions.step_move stepped with
  | @connect client => exact .inl ⟨client,rfl,rfl⟩
  | unlist => exact .inr ⟨fun _ => (by intro same; cases same),List.length_filter_le _ _⟩
  | _ => exact .inr ⟨fun _ => (by intro same; cases same),Nat.le_refl _⟩

/-- One of the maps changes. -/
theorem limited_insert {s : State} {m : Nat} {maps : Maps} {queues : Table Nat (List DeviceMsg)} (limited : ClientsLimited s) :
    ClientsLimited { s with maps := s.maps.insert m maps, queues := queues } ↔
      (∀ d ∈ RelayRegistry.devicesOf s.registry, d.maps = m → maps.clients.length ≤ maxClientsPerDevice) := by
  constructor
  · intro after d member mine
    obtain ⟨serial,there⟩ := mem_devicesOf.mp member
    have here := after serial d there
    rw [mapsOf,mapsOf_insert,if_pos mine] at here
    exact here
  · intro here serial d there
    rw [mapsOf,mapsOf_insert]
    split_ifs with mine
    · exact here d (mem_devicesOf.mpr ⟨serial,there⟩) mine
    · exact limited serial d there

theorem limited_registry {s : State} {a : RelayRegistry.Action} {r : Registry} (limited : ClientsLimited s)
    (moved : RelayRegistry.step s.registry a = some r) :
    (∀ serial d, r.devices.lookup serial = some d → (mapsOf s d.maps).clients.length ≤ maxClientsPerDevice) ↔
      joinsBelowLimit s (.registry a) = true := by
  constructor
  · intro after
    cases RelayRegistry.step_move moved with
    | @insert n h id maps at_ pc =>
      obtain ⟨serial,apiKey,since,pc'⟩ := h
      cases pc
      have here := after serial _ (AList.lookup_insert _)
      simpa [joinsBelowLimit,at_,RelayRegistry.Handler.device] using here
    | _ => rfl
  · intro below serial d there
    rcases RelayRegistry.device_after moved there with
      ⟨old,ms,before,rfl⟩ | ⟨n,⟨_,apiKey,since,pc⟩,id,maps,rfl,at_,drawn,rfl,rfl⟩
    · exact limited serial old before
    · cases drawn
      simpa [joinsBelowLimit,at_,RelayRegistry.Handler.device] using below

/-- A map of a device that is not full takes one client more. -/
theorem limited_connect {s : State} {client client' : String} {c : Client} {m : Maps}
    (known : s.clients.lookup client = some c) (grown : m.clients.length = (mapsOf s c.maps).clients.length + 1) :
    (∀ d ∈ RelayRegistry.devicesOf s.registry, d.maps = c.maps → m.clients.length ≤ maxClientsPerDevice) ↔
      joinsBelowLimit s (.client client (.connect client')) = true := by
  simp only [joinsBelowLimit,known,Option.all_some,Bool.or_eq_true,List.all_eq_true,decide_eq_true_eq,grown]
  constructor
  · intro here
    by_cases used : ∃ d ∈ RelayRegistry.devicesOf s.registry, d.maps = c.maps
    · obtain ⟨d,member,mine⟩ := used
      exact .inr (by have := here d member mine; omega)
    · exact .inl fun d member mine => used ⟨d,member,mine⟩
  · rintro (unused | room) d member mine
    · exact absurd mine (unused d member)
    · omega

theorem limited_step {s t : State} {a : Action} (limited : ClientsLimited s) (stepped : step s a = some t) :
    ClientsLimited t ↔ joinsBelowLimit s a = true := by
  -- the maps of a device do not grow
  have shrinks : ∀ {m : Nat} {maps : Maps}, maps.clients.length ≤ (mapsOf s m).clients.length →
      ∀ d ∈ RelayRegistry.devicesOf s.registry, d.maps = m → maps.clients.length ≤ maxClientsPerDevice := by
    intro m maps smaller d member mine
    obtain ⟨serial,there⟩ := mem_devicesOf.mp member
    have before := limited serial d there
    rw [mine] at before
    exact Nat.le_trans smaller before
  cases step_move stepped with
  | registry moved => exact limited_registry limited moved
  | proxyWs => exact iff_of_true limited rfl
  | @client client a c m known mine moved =>
    rw [limited_insert limited]
    rcases clients_length moved with ⟨client',rfl,grown⟩ | ⟨other,smaller⟩
    · exact limited_connect known grown
    · refine iff_of_true (shrinks smaller) ?_
      cases a with
      | connect client' => exact absurd rfl (other client')
      | _ => rfl
  | @frame n a m m' frame moved =>
    refine iff_of_true ((limited_insert limited).mpr (shrinks ?_)) rfl
    rcases clients_length moved with ⟨client',rfl,-⟩ | ⟨-,smaller⟩
    · cases frame
    · exact smaller
  | take => exact iff_of_true limited rfl

/-- No device ever has too many clients exactly when every client that registers
    finds room and no device takes over too many. -/
theorem clients_limited_iff (heartbeatTimeoutSecs : Nat) (as : List Action) :
    Always step ClientsLimited (start heartbeatTimeoutSecs) as ↔
      Along step (fun s a => joinsBelowLimit s a = true) (start heartbeatTimeoutSecs) as := by
  have empty : ClientsLimited (start heartbeatTimeoutSecs) := by
    intro serial d there
    cases there
  have kept : ∀ s a t, True → step s a = some t → True := fun _ _ _ _ _ => trivial
  exact always_iff_along kept (fun _ _ _ _ => limited_step) trivial empty

/-- The names of 33 clients. -/
def crowd : List String := (List.range 33).map fun i => String.ofList (List.replicate i 'c')

/-- All of them are admitted before the first one registers. -/
def admittedTogether : List Action :=
  [.registry (.connect "d" "key"),.registry (.share 0),.registry (.draw 0),.registry (.insert 0)] ++
    crowd.map (fun client => Action.proxyWs client "d" "key") ++ crowd.map (fun client => Action.client client (.connect client))

theorem clients_unlimited :
    ∃ t, run step (start 20) admittedTogether = some t ∧
      (t.registry.devices.lookup "d").map (fun d => (mapsOf t d.maps).clients.length) = some 33 ∧
      ¬ Always step ClientsLimited (start 20) admittedTogether := by
  have known : (run step (start 20) admittedTogether).map (fun t =>
      (t.registry.devices.lookup "d").map fun d => (mapsOf t d.maps).clients.length) = some (some 33) := by decide +kernel
  obtain ⟨t,ran,fact⟩ := Option.map_eq_some_iff.mp known
  refine ⟨t,ran,fact,?_⟩
  intro all
  obtain ⟨d,there,many⟩ := Option.map_eq_some_iff.mp fact
  have few := always_last all ran "d" d there
  rw [many] at few
  exact absurd few (by decide)

end Sctl.RelayClients
