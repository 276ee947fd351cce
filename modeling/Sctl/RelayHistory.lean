import Sctl.RelayRegistry

/-!
The relay's history of connections (`RelayConnectionHistory`), a ring of the last
100 sessions. A handler opens a session after it has entered its device and closes
one after its loop has ended, each under the lock of the history only; the sweep,
a broadcast's eviction and the shutdown close one for every serial that they
remove, while they hold the lock of the devices. What is closed is the most recent
session of the serial that is open, whoever opened it.
-/
namespace Sctl.RelayHistory
open Sctl.Runs Sctl.RelayRegistry

inductive Reason
  | wsClose
  | replaced
  | writerFailed
  | writePathDead
  | heartbeatTimeout
  | sendFailed
  | relayShutdown
deriving DecidableEq

/-- `ConnectionSession`, with the handler that opened it. -/
structure Session where
  serial : String
  connectedAt : Nat
  disconnectedAt : Option Nat
  reason : Option Reason
  lastHeartbeatAgeMs : Option Nat
  connection : Nat
deriving DecidableEq

def maxConnectionHistory : Nat := 100

def isOpen (serial : String) (session : Session) : Bool := session.serial = serial && session.disconnectedAt.isNone

def Session.close (session : Session) (reason : Reason) (age : Option Nat) (now : Nat) : Session :=
  { session with disconnectedAt := some now, reason := some reason, lastHeartbeatAgeMs := age }

/-- The first session that passes the test rewritten. -/
def modifyFirst (p : Session → Bool) (f : Session → Session) : List Session → List Session
  | [] => []
  | session :: rest => if p session then f session :: rest else session :: modifyFirst p f rest

/-- `record_connect`. -/
def recordConnect (sessions : List Session) (serial : String) (connection now : Nat) : List Session :=
  (if sessions.length ≥ maxConnectionHistory then sessions.tail else sessions) ++
    [⟨serial,now,none,none,none,connection⟩]

/-- `record_disconnect`; it searches from the back. -/
def recordDisconnect (sessions : List Session) (serial : String) (reason : Reason) (age : Option Nat) (now : Nat) :
    List Session :=
  (modifyFirst (isOpen serial) (·.close reason age now) sessions.reverse).reverse

/-- What `record_disconnect` closes. -/
def mostRecent (sessions : List Session) (serial : String) : Option Session := sessions.reverse.find? (isOpen serial)

structure State where
  registry : RelayRegistry.State
  sessions : List Session
  /-- Handlers that have entered their device and not yet recorded it. -/
  connecting : List Nat
  /-- Handlers that have recorded their connection and not yet its end. -/
  recorded : List Nat
  /-- Handlers whose session was pushed out of the ring. -/
  pushedOut : List Nat
  /-- What is still to be recorded under the lock of the devices. -/
  owed : List (String × Reason × Option Nat)

def start (heartbeatTimeoutSecs : Nat) : State := ⟨RelayRegistry.start heartbeatTimeoutSecs,[],[],[],[],[]⟩

inductive Action
  | registry (a : RelayRegistry.Action)
  | recordConnect (n now : Nat)
  /-- The handler's own, when its loop has ended and its entry is dealt with. -/
  | recordDisconnect (n : Nat) (reason : Reason) (age : Option Nat) (now : Nat)
  /-- The next of a sweep, an eviction or the shutdown. -/
  | recordOwed (now : Nat)

/-- The step takes the lock of the devices. -/
def locksDevices : RelayRegistry.Action → Bool
  | .share _ => true
  | .insert _ => true
  | .look _ _ => true
  | .cleanup _ => true
  | .sweep _ => true
  | .broadcast _ => true
  | .evict _ => true
  | .drainAll => true
  | _ => false

/-- The handler has something to record first. -/
def waits (s : State) : RelayRegistry.Action → Bool
  | .heartbeat n => n ∈ s.connecting
  | .writerExits n => n ∈ s.connecting
  | .leave n => n ∈ s.connecting
  | .stop n => n ∈ s.recorded
  | _ => false

/-- What the step has to record before it gives the lock back. -/
def owes (r : RelayRegistry.State) : RelayRegistry.Action → List (String × Reason × Option Nat)
  | .sweep now =>
    (r.devices.entries.filter fun e => stale r now e.2).map fun e =>
      (e.1,.heartbeatTimeout,some (now - e.2.lastHeartbeat))
  | .evict k => (r.broadcasts[k]?.getD []).map fun e => (e.1,.sendFailed,none)
  | .drainAll => r.devices.entries.map fun e => (e.1,.relayShutdown,none)
  | _ => []

def entering : RelayRegistry.Action → List Nat
  | .insert n => [n]
  | _ => []

def step (s : State) : Action → Option State
  | .registry a =>
    if (s.owed ≠ [] ∧ locksDevices a) ∨ waits s a then none
    else (RelayRegistry.step s.registry a).map fun r =>
      { s with registry := r, connecting := entering a ++ s.connecting, owed := owes s.registry a ++ s.owed }
  | .recordConnect n now =>
    match s.registry.handlers[n]? with
    | some h =>
      if n ∈ s.connecting then
        some { s with
          sessions := recordConnect s.sessions h.serial n now
          connecting := s.connecting.erase n
          recorded := n :: s.recorded
          pushedOut :=
            (if s.sessions.length ≥ maxConnectionHistory then (s.sessions.head?.map Session.connection).toList else []) ++
              s.pushedOut }
      else none
    | none => none
  | .recordDisconnect n reason age now =>
    match s.registry.handlers[n]? with
    | some h =>
      if h.pc = .stopping ∧ n ∈ s.recorded then
        some { s with
          sessions := recordDisconnect s.sessions h.serial reason age now, recorded := s.recorded.erase n }
      else none
    | none => none
  | .recordOwed now =>
    match s.owed with
    | [] => none
    | (serial,reason,age) :: rest =>
      some { s with sessions := recordDisconnect s.sessions serial reason age now, owed := rest }

/-! ### The history and the devices -/

def current (s : State) (serial : String) : Option Nat := (s.registry.devices.lookup serial).map Device.handler

/-- All handlers that are not those of devices in the map have ended, and nothing
    is left to be recorded. -/
structure Settled (s : State) : Prop where
  owed : s.owed = []
  connecting : s.connecting = []
  handlers : ∀ n h, s.registry.handlers[n]? = some h → h.pc.entered = true →
    h.pc = .ended ∨ (∃ id maps, h.pc = .serving id maps) ∧ current s h.serial = some n

def openOf (s : State) (serial : String) : List Session := s.sessions.filter (isOpen serial)

/-- A serial without a device has no open session; a device has one, which is its
    own, unless that was pushed out. -/
def Matches (s : State) (serial : String) : Prop :=
  match current s serial with
  | none => openOf s serial = []
  | some n => (∃ session, openOf s serial = [session] ∧ session.connection = n) ∨ (openOf s serial = [] ∧ n ∈ s.pushedOut)

def HistoryMatches (s : State) : Prop := Settled s → ∀ serial, Matches s serial

/-- What is closed is not the session of the connection that is in the map. -/
def sparesCurrent (s : State) (serial : String) : Bool :=
  (mostRecent s.sessions serial).all fun session => current s serial ≠ some session.connection

/-- No end of a connection is recorded while the session of the connection in the
    map is the most recent one that is open. -/
def closesStray (s : State) : Action → Bool
  | .recordDisconnect n _ _ _ => (s.registry.handlers[n]?).all fun h => sparesCurrent s h.serial
  | .recordOwed _ => s.owed.head?.all fun e => sparesCurrent s e.1
  | _ => true

/-! ### The ring -/

theorem modifyFirst_spec (p : Session → Bool) (f : Session → Session) (sessions : List Session) :
    (sessions.find? p = none ∧ modifyFirst p f sessions = sessions) ∨
      ∃ before session after, sessions = before ++ session :: after ∧ sessions.find? p = some session ∧
        p session = true ∧ modifyFirst p f sessions = before ++ f session :: after := by
  induction sessions with
  | nil => exact .inl ⟨rfl,rfl⟩
  | cons first rest ih =>
    by_cases passes : p first = true
    · refine .inr ⟨[],first,rest,rfl,?_,passes,?_⟩
      · rw [List.find?_cons_of_pos passes]
      · rw [modifyFirst,if_pos passes]
        rfl
    · rw [List.find?_cons_of_neg passes,modifyFirst,if_neg passes]
      rcases ih with ⟨none_,same⟩ | ⟨before,session,after,split,found,passes',same⟩
      · exact .inl ⟨none_,by rw [same]⟩
      · exact .inr ⟨first :: before,session,after,by rw [split]; rfl,found,passes',by rw [same]; rfl⟩

/-- One session at most is closed, and that is the most recent of those that are open. -/
theorem recordDisconnect_spec (sessions : List Session) (serial : String) (reason : Reason) (age : Option Nat) (now : Nat) :
    (mostRecent sessions serial = none ∧ recordDisconnect sessions serial reason age now = sessions) ∨
      ∃ before session after, sessions = before ++ session :: after ∧ mostRecent sessions serial = some session ∧
        isOpen serial session = true ∧
        recordDisconnect sessions serial reason age now = before ++ session.close reason age now :: after := by
  rcases modifyFirst_spec (isOpen serial) (·.close reason age now) sessions.reverse with
    ⟨none_,same⟩ | ⟨before,session,after,split,found,passes,same⟩
  · exact .inl ⟨none_,by rw [recordDisconnect,same,List.reverse_reverse]⟩
  · refine .inr ⟨after.reverse,session,before.reverse,?_,found,passes,?_⟩
    · rw [← List.reverse_reverse sessions,split]
      simp
    · rw [recordDisconnect,same]
      simp

/-- What is pushed out was at the front. -/
theorem recordConnect_spec (sessions : List Session) (serial : String) (connection now : Nat) :
    ∃ popped kept, sessions = popped ++ kept ∧
      recordConnect sessions serial connection now = kept ++ [⟨serial,now,none,none,none,connection⟩] ∧
      (if sessions.length ≥ maxConnectionHistory then (sessions.head?.map Session.connection).toList else []) =
        popped.map Session.connection := by
  unfold recordConnect
  split_ifs with full
  · cases sessions with
    | nil => exact ⟨[],[],rfl,rfl,rfl⟩
    | cons first rest => exact ⟨[first],rest,rfl,rfl,rfl⟩
  · exact ⟨[],sessions,rfl,rfl,rfl⟩

theorem isOpen_close (serial : String) (session : Session) (reason : Reason) (age : Option Nat) (now : Nat) :
    isOpen serial (session.close reason age now) = false := by
  simp [isOpen,Session.close]

theorem mostRecent_eq_none {sessions : List Session} {serial : String} (none_ : mostRecent sessions serial = none) :
    sessions.countP (isOpen serial) = 0 := by
  rw [List.countP_eq_zero]
  intro session member
  have closed := List.find?_eq_none.mp none_ session (List.mem_reverse.mpr member)
  exact closed

/-! ### Entries and their handlers -/

/-- The connection id that the handler's entry has while it is there. -/
def Pc.Holds : Pc → Nat → Prop
  | .serving id _, i => i = id
  | .leaving id, i => i = id
  | .cleaning id, i => i = id
  | _, _ => False

/-- An entry belongs to a handler of its serial that has not removed it yet. -/
def Held (r : RelayRegistry.State) : Prop :=
  ∀ serial d, r.devices.lookup serial = some d →
    ∃ h, r.handlers[d.handler]? = some h ∧ h.serial = serial ∧ Pc.Holds h.pc d.connectionId

/-- A handler that says it was replaced has no entry any more. -/
theorem look_gone {r t : RelayRegistry.State} {n : Nat} {noticed : Bool} {h : Handler} {id : Nat} {d : Device}
    (at_ : r.handlers[n]? = some h) (pc : h.pc = .leaving id) (there : r.devices.lookup h.serial = some d)
    (mine : d.handler = n) (same : d.connectionId = id) (stepped : RelayRegistry.step r (.look n noticed) = some t) :
    t = r.setPc n h (.cleaning id) := by
  simp only [RelayRegistry.step,at_,pc,there,Option.any_some,mine,same] at stepped
  cases noticed with
  | true => simp at stepped
  | false => simpa using stepped.symm

theorem held_step {r t : RelayRegistry.State} {a : RelayRegistry.Action} (held : Held r)
    (stepped : RelayRegistry.step r a = some t) : Held t := by
  intro serial d there
  rcases device_after stepped there with ⟨old,ms,before,rfl⟩ | ⟨n,h,id,maps,rfl,at_,drawn,rfl,rfl⟩
  · obtain ⟨h,at_,same,holds⟩ := held serial old before
    have kept : ∃ h, r.handlers[old.handler]? = some h ∧ h.serial = serial ∧ Pc.Holds h.pc old.connectionId :=
      ⟨h,at_,same,holds⟩
    -- the entry's own handler either stays as it is or still holds the entry
    have moved : ∀ {n : Nat} {g : Handler} (pc : Pc), r.handlers[n]? = some g →
        (n = old.handler → g = h → Pc.Holds pc old.connectionId) →
        ∃ h, (r.handlers.set n { g with pc := pc })[old.handler]? = some h ∧ h.serial = serial ∧
          Pc.Holds h.pc old.connectionId := by
      intro n g pc found still
      rw [Tasks.getElem?_set_eq found]
      split_ifs with mine
      · cases mine
        cases found.symm.trans at_
        exact ⟨_,rfl,same,still rfl rfl⟩
      · exact kept
    cases step_move stepped with
    | connect =>
      have bound := (List.getElem?_eq_some_iff.mp at_).1
      exact ⟨h,by rw [List.getElem?_append_left bound]; exact at_,same,holds⟩
    | share found pc => exact moved _ found (by rintro rfl rfl; rw [pc] at holds; cases holds)
    | shareNew found pc => exact moved _ found (by rintro rfl rfl; rw [pc] at holds; cases holds)
    | draw found pc => exact moved _ found (by rintro rfl rfl; rw [pc] at holds; cases holds)
    | insert found pc => exact moved _ found (by rintro rfl rfl; rw [pc] at holds; cases holds)
    | leave found pc => exact moved _ found (by rintro rfl rfl; rw [pc] at holds; exact holds)
    | look found pc => exact moved _ found (by rintro rfl rfl; rw [pc] at holds; exact holds)
    | @lookReplaced n g id noticed found pc =>
      refine moved _ found ?_
      rintro rfl rfl
      rw [pc] at holds
      have cleaned := look_gone found pc (by rw [same]; exact before) rfl holds stepped
      have here : (r.handlers.set old.handler { g with pc := Pc.stopping })[old.handler]? =
          (r.handlers.set old.handler { g with pc := Pc.cleaning id })[old.handler]? :=
        congrArg (fun t : RelayRegistry.State => t.handlers[old.handler]?) cleaned
      rw [Tasks.getElem?_set_eq found,Tasks.getElem?_set_eq found,if_pos rfl,if_pos rfl] at here
      cases here
    | @cleanup n g d found pc removed =>
      refine moved _ found ?_
      rintro rfl rfl
      change (r.devices.erase g.serial).lookup serial = _ at there
      rw [Table.lookup_erase_eq,if_pos same.symm] at there
      cases there
    | cleanupOther found pc other =>
      refine moved _ found ?_
      rintro rfl rfl
      rw [pc] at holds
      exact absurd holds (other old (by rw [same]; exact before))
    | drain found pc => exact moved _ found (by rintro rfl rfl; rw [pc] at holds; cases holds)
    | stop found pc => exact moved _ found (by rintro rfl rfl; rw [pc] at holds; cases holds)
    | _ => exact kept
  · cases step_move stepped with
    | insert found pc =>
      cases at_.symm.trans found
      cases drawn.symm.trans pc
      refine ⟨{ h with pc := .serving id maps },?_,rfl,rfl⟩
      change (r.handlers.set n _)[n]? = _
      rw [Tasks.getElem?_set_eq found,if_pos rfl]

/-! ### What is recorded -/

/-- The handler is one of the serial. -/
def serves (s : State) (serial : String) (n : Nat) : Bool := (s.registry.handlers[n]?).any (·.serial = serial)

/-- The session of the connection in the map was pushed out. -/
def lost (s : State) (serial : String) : Nat :=
  if (current s serial).any (fun n => n ∈ s.recorded && n ∈ s.pushedOut) then 1 else 0

/-- Its connection is recorded or will be, and not yet its end. -/
def Pc.unended : Pc → Bool
  | .serving _ _ => true
  | .leaving _ => true
  | .cleaning _ => true
  | .removed _ _ => true
  | _ => false

structure Kept (s : State) : Prop where
  held : Held s.registry
  connecting : ∀ n ∈ s.connecting, ∃ h, s.registry.handlers[n]? = some h ∧ ∃ id maps, h.pc = .serving id maps
  recorded : ∀ n ∈ s.recorded, ∃ h, s.registry.handlers[n]? = some h ∧ h.pc.entered = true ∧ h.pc ≠ .ended
  once : (s.connecting ++ s.recorded).Nodup
  noted : ∀ n h, s.registry.handlers[n]? = some h → Pc.unended h.pc = true → n ∈ s.connecting ∨ n ∈ s.recorded
  /-- Sessions are those of handlers that have recorded their connection. -/
  known : ∀ session ∈ s.sessions, session.connection ∉ s.connecting ∧
    ∃ h, s.registry.handlers[session.connection]? = some h ∧ h.serial = session.serial ∧ h.pc.entered = true
  pushed : ∀ n ∈ s.pushedOut, n ∉ s.connecting ∧ ∃ h, s.registry.handlers[n]? = some h ∧ h.pc.entered = true
  /-- There are no more open sessions than handlers that will close one. -/
  count : ∀ serial, s.sessions.countP (isOpen serial) + lost s serial ≤ s.recorded.countP (serves s serial)
  /-- The session of the connection in the map is open. -/
  spared : ∀ session ∈ s.sessions, current s session.serial = some session.connection → session.disconnectedAt = none
  there : ∀ serial n, current s serial = some n → n ∈ s.connecting ∨ n ∈ s.pushedOut ∨
    ∃ session ∈ s.sessions, isOpen serial session = true ∧ session.connection = n

theorem kept_start (heartbeatTimeoutSecs : Nat) : Kept (start heartbeatTimeoutSecs) where
  held := by intro serial d there; cases there
  connecting := by intro n member; cases member
  recorded := by intro n member; cases member
  once := List.nodup_nil
  noted := by intro n h at_; cases at_
  known := by intro session member; cases member
  pushed := by intro n member; cases member
  count := by intro serial; exact Nat.le_refl 0
  spared := by intro session member; cases member
  there := by intro serial n here; cases here

theorem current_eq_some {s : State} {serial : String} {n : Nat} :
    current s serial = some n ↔ ∃ d, s.registry.devices.lookup serial = some d ∧ d.handler = n :=
  Option.map_eq_some_iff

theorem serves_current {s : State} (held : Held s.registry) {serial : String} {n : Nat}
    (here : current s serial = some n) : serves s serial n = true := by
  obtain ⟨d,found,rfl⟩ := current_eq_some.mp here
  obtain ⟨h,at_,same,-⟩ := held serial d found
  simp [serves,at_,same]

/-! ### A step of the registry -/

/-- Where a handler can go. -/
inductive Goes (m : Nat) : RelayRegistry.Action → Pc → Pc → Prop
  | share {maps} : Goes m (.share m) .registering (.sharing maps)
  | draw {id maps} : Goes m (.draw m) (.sharing maps) (.drawn id maps)
  | insert {id maps} : Goes m (.insert m) (.drawn id maps) (.serving id maps)
  | leave {id maps} : Goes m (.leave m) (.serving id maps) (.leaving id)
  | lookReplaced {noticed id} : Goes m (.look m noticed) (.leaving id) .stopping
  | look {noticed id} : Goes m (.look m noticed) (.leaving id) (.cleaning id)
  | cleanup {id d} : Goes m (.cleanup m) (.cleaning id) (.removed id d)
  | cleanupOther {id} : Goes m (.cleanup m) (.cleaning id) .stopping
  | drain {id d} : Goes m (.drain m) (.removed id d) .stopping
  | stop : Goes m (.stop m) .stopping .ended

/-- A handler is new, stays where it is or goes on. -/
theorem handler_before {r t : RelayRegistry.State} {a : RelayRegistry.Action} (moved : RelayRegistry.step r a = some t)
    {m : Nat} {h' : Handler} (after : t.handlers[m]? = some h') :
    (r.handlers[m]? = none ∧ h'.pc = .registering) ∨
      ∃ h, r.handlers[m]? = some h ∧ h.serial = h'.serial ∧ (h.pc = h'.pc ∨ Goes m a h.pc h'.pc) := by
  have stays : r.handlers[m]? = some h' →
      ∃ h, r.handlers[m]? = some h ∧ h.serial = h'.serial ∧ (h.pc = h'.pc ∨ Goes m a h.pc h'.pc) :=
    fun at_ => ⟨h',at_,rfl,.inl rfl⟩
  have goes : ∀ {n : Nat} {g : Handler} (pc : Pc), r.handlers[n]? = some g → (m = n → Goes m a g.pc pc) →
      (r.handlers.set n { g with pc := pc })[m]? = some h' →
      ∃ h, r.handlers[m]? = some h ∧ h.serial = h'.serial ∧ (h.pc = h'.pc ∨ Goes m a h.pc h'.pc) := by
    intro n g pc found on set
    rw [Tasks.getElem?_set_eq found] at set
    split_ifs at set with same
    · cases set
      exact ⟨g,by rw [same]; exact found,rfl,.inr (on same)⟩
    · exact stays set
  cases step_move moved with
  | connect =>
    rcases Nat.lt_or_ge m r.handlers.length with old | new
    · refine .inr (stays ?_)
      rw [← List.getElem?_append_left old]
      exact after
    · refine .inl ⟨List.getElem?_eq_none new,?_⟩
      have member : h' ∈ _ := List.mem_of_getElem? ((List.getElem?_append_right new).symm.trans after)
      rw [List.mem_singleton.mp member]
  | share found pc => exact .inr (goes _ found (by rintro rfl; rw [pc]; exact .share) after)
  | shareNew found pc => exact .inr (goes _ found (by rintro rfl; rw [pc]; exact .share) after)
  | draw found pc => exact .inr (goes _ found (by rintro rfl; rw [pc]; exact .draw) after)
  | insert found pc => exact .inr (goes _ found (by rintro rfl; rw [pc]; exact .insert) after)
  | leave found pc => exact .inr (goes _ found (by rintro rfl; rw [pc]; exact .leave) after)
  | lookReplaced found pc => exact .inr (goes _ found (by rintro rfl; rw [pc]; exact .lookReplaced) after)
  | look found pc => exact .inr (goes _ found (by rintro rfl; rw [pc]; exact .look) after)
  | cleanup found pc => exact .inr (goes _ found (by rintro rfl; rw [pc]; exact .cleanup) after)
  | cleanupOther found pc => exact .inr (goes _ found (by rintro rfl; rw [pc]; exact .cleanupOther) after)
  | drain found pc => exact .inr (goes _ found (by rintro rfl; rw [pc]; exact .drain) after)
  | stop found pc => exact .inr (goes _ found (by rintro rfl; rw [pc]; exact .stop) after)
  | _ => exact .inr (stays after)

/-- A handler that enters its device has not done so before. -/
theorem not_entering {r t : RelayRegistry.State} {a : RelayRegistry.Action} (moved : RelayRegistry.step r a = some t)
    {m : Nat} {h : Handler} (at_ : r.handlers[m]? = some h) (entered : h.pc.entered = true) : m ∉ entering a := by
  cases step_move moved with
  | insert found pc =>
    intro member
    cases List.mem_singleton.mp member
    cases at_.symm.trans found
    rw [pc] at entered
    cases entered
  | _ => simp [entering]

theorem handler_goes {r t : RelayRegistry.State} {a : RelayRegistry.Action} (moved : RelayRegistry.step r a = some t)
    {m : Nat} {h : Handler} (at_ : r.handlers[m]? = some h) :
    ∃ h', t.handlers[m]? = some h' ∧ h'.serial = h.serial ∧ (h.pc = h'.pc ∨ Goes m a h.pc h'.pc) := by
  obtain ⟨pc,after,-⟩ := handler_after moved at_
  rcases handler_before moved after with ⟨missing,-⟩ | ⟨g,at',-,goes⟩
  · cases missing.symm.trans at_
  · cases at_.symm.trans at'
    exact ⟨_,after,rfl,goes⟩

theorem entered_after {r t : RelayRegistry.State} {a : RelayRegistry.Action} (moved : RelayRegistry.step r a = some t)
    {m : Nat} {h : Handler} (at_ : r.handlers[m]? = some h) (entered : h.pc.entered = true) :
    ∃ h', t.handlers[m]? = some h' ∧ h'.serial = h.serial ∧ h'.pc.entered = true := by
  obtain ⟨pc,after,stays⟩ := handler_after moved at_
  exact ⟨_,after,rfl,stays entered⟩

/-- A connection that is in the map afterwards was there before, or has just been entered. -/
theorem current_before {s : State} {r : RelayRegistry.State} {a : RelayRegistry.Action}
    (moved : RelayRegistry.step s.registry a = some r) {serial : String} {d : Device}
    (found : r.devices.lookup serial = some d) : current s serial = some d.handler ∨ d.handler ∈ entering a := by
  rcases device_after moved found with ⟨old,ms,before,rfl⟩ | ⟨n,h,id,maps,rfl,at_,drawn,rfl,rfl⟩
  · exact .inl (current_eq_some.mpr ⟨old,before,rfl⟩)
  · exact .inr (List.mem_singleton.mpr rfl)

section registry
variable {s : State} {r : RelayRegistry.State} {a : RelayRegistry.Action}

/-- The state after the registry's step. -/
def registered (s : State) (r : RelayRegistry.State) (a : RelayRegistry.Action) : State :=
  { s with registry := r, connecting := entering a ++ s.connecting, owed := owes s.registry a ++ s.owed }

theorem count_registered (kept : Kept s) (moved : RelayRegistry.step s.registry a = some r) (serial : String) :
    (registered s r a).sessions.countP (isOpen serial) + lost (registered s r a) serial ≤
      (registered s r a).recorded.countP (serves (registered s r a) serial) := by
  have same : s.recorded.countP (serves (registered s r a) serial) = s.recorded.countP (serves s serial) := by
    refine List.countP_congr ?_
    intro n member
    obtain ⟨h,at_,entered,-⟩ := kept.recorded n member
    obtain ⟨h',after,serial',-⟩ := entered_after moved at_ entered
    simp [serves,registered,at_,after,serial']
  have fewer : lost (registered s r a) serial ≤ lost s serial := by
    unfold lost
    split_ifs with after before
    · exact Nat.le_refl 1
    · exfalso
      obtain ⟨n,here,both⟩ := (Option.any_eq_true _ _).mp after
      obtain ⟨d,found,rfl⟩ := current_eq_some.mp here
      rcases current_before moved found with here' | entering_
      · exact before ((Option.any_eq_true _ _).mpr ⟨d.handler,here',both⟩)
      · simp only [Bool.and_eq_true,decide_eq_true_eq] at both
        obtain ⟨h,at_,entered,-⟩ := kept.recorded _ both.1
        exact not_entering moved at_ entered entering_
    · exact Nat.zero_le _
    · exact Nat.le_refl 0
  have before := kept.count serial
  change s.sessions.countP (isOpen serial) + _ ≤ s.recorded.countP _
  omega

theorem kept_registered (kept : Kept s) (free : waits s a = false) (moved : RelayRegistry.step s.registry a = some r) :
    Kept (registered s r a) where
  held := held_step kept.held moved
  connecting := by
    intro n member
    rcases List.mem_append.mp member with new | old
    · cases step_move moved with
      | @insert n' h id maps found pc =>
        cases List.mem_singleton.mp new
        refine ⟨{ h with pc := .serving id maps },?_,id,maps,rfl⟩
        change (s.registry.handlers.set n _)[n]? = _
        rw [Tasks.getElem?_set_eq found,if_pos rfl]
      | _ => cases new
    · obtain ⟨h,at_,id,maps,pc⟩ := kept.connecting n old
      obtain ⟨h',after,-,same | goes⟩ := handler_goes moved at_
      · exact ⟨h',after,id,maps,same.symm.trans pc⟩
      · rw [pc] at goes
        generalize h'.pc = pc' at goes
        cases goes
        simp [waits,old] at free
  recorded := by
    intro n member
    obtain ⟨h,at_,entered,on⟩ := kept.recorded n member
    obtain ⟨h',after,-,goes⟩ := handler_goes moved at_
    obtain ⟨h'',after',-,entered'⟩ := entered_after moved at_ entered
    cases after.symm.trans after'
    refine ⟨h',after,entered',?_⟩
    intro ended
    rcases goes with same | goes
    · exact on (same.trans ended)
    · rw [ended] at goes
      generalize h.pc = pc at goes
      cases goes
      simp only [waits,decide_eq_false_iff_not] at free
      exact free member
  once := by
    change ((entering a ++ s.connecting) ++ s.recorded).Nodup
    rw [List.append_assoc]
    refine List.nodup_append.mpr ⟨?_,kept.once,?_⟩
    · cases a with
      | insert n => exact List.nodup_singleton n
      | _ => exact List.nodup_nil
    · rintro n new m old rfl
      rcases List.mem_append.mp old with connecting | recorded
      · obtain ⟨h,at_,id,maps,pc⟩ := kept.connecting n connecting
        exact not_entering moved at_ (by rw [pc]; rfl) new
      · obtain ⟨h,at_,entered,-⟩ := kept.recorded n recorded
        exact not_entering moved at_ entered new
  noted := by
    intro n h' after unended
    rcases handler_before moved after with ⟨-,new⟩ | ⟨h,at_,-,same | goes⟩
    · rw [new] at unended
      cases unended
    · rw [← same] at unended
      exact (kept.noted n h at_ unended).imp_left (List.mem_append_right _)
    · have before : Pc.unended h.pc = true → n ∈ entering a ++ s.connecting ∨ n ∈ s.recorded := fun unended' =>
        (kept.noted n h at_ unended').imp_left (List.mem_append_right _)
      generalize h.pc = pc at goes before
      generalize h'.pc = pc' at goes unended
      cases goes with
      | insert => exact .inl (List.mem_append_left _ (List.mem_singleton.mpr rfl))
      | leave => exact before rfl
      | look => exact before rfl
      | cleanup => exact before rfl
      | _ => cases unended
  known := by
    intro session member
    obtain ⟨out,h,at_,same,entered⟩ := kept.known session member
    obtain ⟨h',after,same',entered'⟩ := entered_after moved at_ entered
    refine ⟨?_,h',after,same'.trans same,entered'⟩
    intro member'
    rcases List.mem_append.mp member' with new | old
    · exact not_entering moved at_ entered new
    · exact out old
  pushed := by
    intro n member
    obtain ⟨out,h,at_,entered⟩ := kept.pushed n member
    obtain ⟨h',after,-,entered'⟩ := entered_after moved at_ entered
    refine ⟨?_,h',after,entered'⟩
    intro member'
    rcases List.mem_append.mp member' with new | old
    · exact not_entering moved at_ entered new
    · exact out old
  count := count_registered kept moved
  spared := by
    intro session member here
    obtain ⟨d,found,same⟩ := current_eq_some.mp here
    obtain ⟨-,h,at_,-,entered⟩ := kept.known session member
    rcases current_before moved found with before | new
    · exact kept.spared session member (by rw [before,same])
    · rw [same] at new
      exact absurd new (not_entering moved at_ entered)
  there := by
    intro serial n here
    obtain ⟨d,found,rfl⟩ := current_eq_some.mp here
    rcases current_before moved found with before | new
    · exact (kept.there serial _ before).imp_left (List.mem_append_right _)
    · exact .inl (List.mem_append_left _ new)

end registry

/-! ### A record -/

section record
variable {s : State}

theorem lost_le_one (s : State) (serial : String) : lost s serial ≤ 1 := by
  unfold lost
  split_ifs <;> omega

/-- The session that a connection opens when it is recorded, with those that are
    left in the ring. -/
def connected (s : State) (n now : Nat) (h : Handler) (popped left : List Session) : State :=
  { s with
    sessions := left ++ [⟨h.serial,now,none,none,none,n⟩]
    connecting := s.connecting.erase n
    recorded := n :: s.recorded
    pushedOut := popped.map Session.connection ++ s.pushedOut }

theorem lost_connected {n now : Nat} {h : Handler} {popped left : List Session} (kept : Kept s)
    (split : s.sessions = popped ++ left) (member : n ∈ s.connecting) (serial : String) :
    lost (connected s n now h popped left) serial ≤ lost s serial + popped.countP (isOpen serial) := by
  by_cases lost_ : lost (connected s n now h popped left) serial = 0
  · omega
  have after : (current s serial).any (fun m => m ∈ n :: s.recorded && m ∈ popped.map Session.connection ++ s.pushedOut) =
      true := by
    by_contra none_
    exact lost_ (if_neg none_)
  obtain ⟨m,here,both⟩ := (Option.any_eq_true _ _).mp after
  simp only [Bool.and_eq_true,decide_eq_true_eq] at both
  have bound := lost_le_one (connected s n now h popped left) serial
  -- the session of the handler that connects was not there before
  have other : m ≠ n := by
    rintro rfl
    rcases List.mem_append.mp both.2 with new | old
    · obtain ⟨session,there,rfl⟩ := List.mem_map.mp new
      exact (kept.known session (by rw [split]; exact List.mem_append_left _ there)).1 member
    · exact (kept.pushed m old).1 member
  have recorded : m ∈ s.recorded := (List.mem_cons.mp both.1).resolve_left other
  rcases List.mem_append.mp both.2 with new | old
  · obtain ⟨session,there,rfl⟩ := List.mem_map.mp new
    have before : session ∈ s.sessions := by rw [split]; exact List.mem_append_left _ there
    obtain ⟨d,found,same⟩ := current_eq_some.mp here
    obtain ⟨g,at_,serial_,-⟩ := kept.held serial d found
    obtain ⟨-,g',at',serial',-⟩ := kept.known session before
    rw [same] at at_
    cases at_.symm.trans at'
    have named : session.serial = serial := serial'.symm.trans serial_
    have open_ : isOpen serial session = true := by
      have spared := kept.spared session before (by rw [named]; exact here)
      simp [isOpen,named,spared]
    have one : 0 < popped.countP (isOpen serial) := List.countP_pos_iff.mpr ⟨session,there,open_⟩
    omega
  · have before : lost s serial = 1 :=
      if_pos ((Option.any_eq_true _ _).mpr ⟨m,here,by simp [recorded,old]⟩)
    omega

theorem kept_connected {n now : Nat} {h : Handler} {popped left : List Session} (kept : Kept s)
    (at_ : s.registry.handlers[n]? = some h) (split : s.sessions = popped ++ left) (member : n ∈ s.connecting) :
    Kept (connected s n now h popped left) where
  held := kept.held
  connecting := by
    intro m member'
    exact kept.connecting m (List.mem_of_mem_erase member')
  recorded := by
    intro m member'
    rcases List.mem_cons.mp member' with rfl | old
    · obtain ⟨g,at',id,maps,pc⟩ := kept.connecting m member
      refine ⟨g,at',by rw [pc]; rfl,?_⟩
      rw [pc]
      intro ended
      cases ended
    · exact kept.recorded m old
  once := by
    have perm : (s.connecting.erase n ++ n :: s.recorded).Perm (s.connecting ++ s.recorded) := by
      refine List.perm_middle.trans ?_
      rw [← List.cons_append]
      exact (List.perm_cons_erase member).symm.append_right _
    exact perm.symm.nodup kept.once
  noted := by
    intro m g at' unended
    by_cases same : m = n
    · exact .inr (List.mem_cons.mpr (.inl same))
    · rcases kept.noted m g at' unended with connecting | recorded
      · exact .inl ((List.mem_erase_of_ne same).mpr connecting)
      · exact .inr (List.mem_cons_of_mem n recorded)
  known := by
    intro session member'
    rcases List.mem_append.mp member' with old | new
    · obtain ⟨out,known⟩ := kept.known session (by rw [split]; exact List.mem_append_right _ old)
      exact ⟨fun still => out (List.mem_of_mem_erase still),known⟩
    · cases List.mem_singleton.mp new
      obtain ⟨g,at',id,maps,pc⟩ := kept.connecting n member
      cases at_.symm.trans at'
      refine ⟨?_,h,at_,rfl,by rw [pc]; rfl⟩
      exact (List.Nodup.mem_erase_iff (List.nodup_append.mp kept.once).1).not.mpr fun still => still.1 rfl
  pushed := by
    intro m member'
    rcases List.mem_append.mp member' with new | old
    · obtain ⟨session,there,rfl⟩ := List.mem_map.mp new
      obtain ⟨out,g,at',-,entered⟩ := kept.known session (by rw [split]; exact List.mem_append_left _ there)
      exact ⟨fun still => out (List.mem_of_mem_erase still),g,at',entered⟩
    · obtain ⟨out,known⟩ := kept.pushed m old
      exact ⟨fun still => out (List.mem_of_mem_erase still),known⟩
  count := by
    intro serial
    have before := kept.count serial
    have more := @lost_connected s n now h popped left kept split member serial
    have opens : isOpen serial ⟨h.serial,now,none,none,none,n⟩ = serves s serial n := by
      simp [isOpen,serves,at_]
    rw [split,List.countP_append] at before
    change (left ++ [_]).countP (isOpen serial) + _ ≤ (n :: s.recorded).countP (serves s serial)
    rw [List.countP_append,List.countP_singleton,List.countP_cons,opens]
    omega
  spared := by
    intro session member' here
    rcases List.mem_append.mp member' with old | new
    · exact kept.spared session (by rw [split]; exact List.mem_append_right _ old) here
    · cases List.mem_singleton.mp new
      rfl
  there := by
    intro serial m here
    by_cases same : m = n
    · subst same
      obtain ⟨d,found,mine⟩ := current_eq_some.mp here
      obtain ⟨g,at',serial_,-⟩ := kept.held serial d found
      rw [mine] at at'
      cases at_.symm.trans at'
      refine .inr (.inr ⟨⟨h.serial,now,none,none,none,m⟩,List.mem_append_right _ (List.mem_singleton.mpr rfl),?_,rfl⟩)
      simp [isOpen,serial_]
    · rcases kept.there serial m here with connecting | pushed | ⟨session,there,open_,rfl⟩
      · exact .inl ((List.mem_erase_of_ne same).mpr connecting)
      · exact .inr (.inl (List.mem_append_right _ pushed))
      · rw [split] at there
        rcases List.mem_append.mp there with out | still
        · exact .inr (.inl (List.mem_append_left _ (List.mem_map.mpr ⟨session,out,rfl⟩)))
        · exact .inr (.inr ⟨session,List.mem_append_left _ still,open_,rfl⟩)

variable {serial : String} {reason : Reason} {age : Option Nat} {now : Nat}

theorem mostRecent_isOpen {sessions : List Session} {session : Session} (found : mostRecent sessions serial = some session) :
    isOpen serial session = true :=
  List.find?_some found

theorem serial_of_isOpen {session : Session} (open_ : isOpen serial session = true) : session.serial = serial := by
  simp only [isOpen,Bool.and_eq_true,decide_eq_true_eq] at open_
  exact open_.1

theorem recordDisconnect_mem {sessions : List Session} {session : Session}
    (member : session ∈ recordDisconnect sessions serial reason age now) :
    ∃ old ∈ sessions, old.connection = session.connection ∧ old.serial = session.serial ∧
      (old = session ∨ mostRecent sessions serial = some old) := by
  rcases recordDisconnect_spec sessions serial reason age now with ⟨-,same⟩ | ⟨before,closed,after,split,found,-,same⟩
  · rw [same] at member
    exact ⟨session,member,rfl,rfl,.inl rfl⟩
  · rw [same] at member
    rcases List.mem_append.mp member with first | rest
    · exact ⟨session,by rw [split]; exact List.mem_append_left _ first,rfl,rfl,.inl rfl⟩
    · rcases List.mem_cons.mp rest with rfl | last
      · exact ⟨closed,by rw [split]; simp,rfl,rfl,.inr found⟩
      · exact ⟨session,by rw [split]; simp [last],rfl,rfl,.inl rfl⟩

theorem mem_recordDisconnect {sessions : List Session} {old : Session} (member : old ∈ sessions)
    (other : mostRecent sessions serial ≠ some old) : old ∈ recordDisconnect sessions serial reason age now := by
  rcases recordDisconnect_spec sessions serial reason age now with ⟨-,same⟩ | ⟨before,closed,after,split,found,-,same⟩
  · rw [same]
    exact member
  · rw [same]
    rw [split] at member
    rcases List.mem_append.mp member with first | rest
    · exact List.mem_append_left _ first
    · rcases List.mem_cons.mp rest with rfl | last
      · exact absurd found other
      · exact List.mem_append_right _ (List.mem_cons_of_mem _ last)

theorem countP_recordDisconnect (sessions : List Session) (serial serial' : String) (reason : Reason) (age : Option Nat)
    (now : Nat) : (recordDisconnect sessions serial reason age now).countP (isOpen serial') =
      sessions.countP (isOpen serial') - if serial' = serial then 1 else 0 := by
  rcases recordDisconnect_spec sessions serial reason age now with ⟨none_,same⟩ | ⟨before,closed,after,split,-,open_,same⟩
  · rw [same]
    split_ifs with named
    · rw [named,mostRecent_eq_none none_]
    · rfl
  · have one : isOpen serial' closed = decide (serial' = serial) := by
      simp only [isOpen,Bool.and_eq_true,decide_eq_true_eq] at open_
      simp [isOpen,open_.1,open_.2,eq_comm]
    rw [same,split,List.countP_append,List.countP_append,List.countP_cons,List.countP_cons,isOpen_close,one]
    by_cases named : serial' = serial <;> simp [named]

/-- A session is closed and perhaps a handler is done with. -/
def disconnected (s : State) (serial : String) (reason : Reason) (age : Option Nat) (now : Nat) (recorded : List Nat)
    (owed : List (String × Reason × Option Nat)) : State :=
  { s with sessions := recordDisconnect s.sessions serial reason age now, recorded := recorded, owed := owed }

theorem kept_disconnected {recorded : List Nat} {owed : List (String × Reason × Option Nat)} (kept : Kept s)
    (spares : sparesCurrent s serial = true) (fewer : recorded.Sublist s.recorded)
    (noted : ∀ n h, s.registry.handlers[n]? = some h → Pc.unended h.pc = true → n ∈ s.connecting ∨ n ∈ recorded)
    (count : ∀ serial', (recordDisconnect s.sessions serial reason age now).countP (isOpen serial') +
      lost (disconnected s serial reason age now recorded owed) serial' ≤ recorded.countP (serves s serial')) :
    Kept (disconnected s serial reason age now recorded owed) where
  held := kept.held
  connecting := kept.connecting
  recorded := fun n member => kept.recorded n (fewer.subset member)
  once := kept.once.sublist ((List.Sublist.refl _).append fewer)
  noted := noted
  known := by
    intro session member
    obtain ⟨old,there,connection,named,-⟩ := recordDisconnect_mem member
    rw [← connection,← named]
    exact kept.known old there
  pushed := kept.pushed
  count := count
  spared := by
    intro session member here
    obtain ⟨old,there,connection,named,rfl | closed⟩ := recordDisconnect_mem member
    · exact kept.spared old there here
    · rw [sparesCurrent,closed,Option.all_some,decide_eq_true_eq] at spares
      rw [← connection,← named,serial_of_isOpen (mostRecent_isOpen closed)] at here
      exact absurd here spares
  there := by
    intro serial' n here
    rcases kept.there serial' n here with connecting | pushed | ⟨session,there,open_,rfl⟩
    · exact .inl connecting
    · exact .inr (.inl pushed)
    · refine .inr (.inr ⟨session,mem_recordDisconnect there ?_,open_,rfl⟩)
      intro closed
      rw [sparesCurrent,closed,Option.all_some,decide_eq_true_eq] at spares
      rw [← serial_of_isOpen open_,serial_of_isOpen (mostRecent_isOpen closed)] at here
      exact spares here

theorem lost_disconnected {recorded : List Nat} {owed : List (String × Reason × Option Nat)}
    (fewer : recorded.Sublist s.recorded) (serial' : String) :
    lost (disconnected s serial reason age now recorded owed) serial' ≤ lost s serial' := by
  unfold lost
  split_ifs with after before
  · exact Nat.le_refl 1
  · obtain ⟨n,here,both⟩ := (Option.any_eq_true _ _).mp after
    simp only [Bool.and_eq_true,decide_eq_true_eq] at both
    refine absurd ((Option.any_eq_true _ _).mpr ⟨n,here,?_⟩) before
    rw [Bool.and_eq_true,decide_eq_true_eq,decide_eq_true_eq]
    exact ⟨fewer.subset both.1,both.2⟩
  · exact Nat.zero_le _
  · exact Nat.le_refl 0

/-- A handler that is done with closes a session, or there is none to be closed. -/
theorem count_done {n : Nat} {h : Handler} {owed : List (String × Reason × Option Nat)} (kept : Kept s)
    (at_ : s.registry.handlers[n]? = some h) (member : n ∈ s.recorded) (serial' : String) :
    (recordDisconnect s.sessions h.serial reason age now).countP (isOpen serial') +
      lost (disconnected s h.serial reason age now (s.recorded.erase n) owed) serial' ≤
        (s.recorded.erase n).countP (serves s serial') := by
  have before := kept.count serial'
  have less := @lost_disconnected s h.serial reason age now _ owed (List.erase_sublist (a := n)) serial'
  have mine : serves s serial' n = decide (serial' = h.serial) := by simp [serves,at_,eq_comm]
  have without_ : s.recorded.countP (serves s serial') =
      (s.recorded.erase n).countP (serves s serial') + if serial' = h.serial then 1 else 0 := by
    rw [(List.perm_cons_erase member).countP_eq,List.countP_cons,mine]
    simp
  rw [countP_recordDisconnect]
  by_cases named : serial' = h.serial
  · rw [if_pos named] at without_ ⊢
    by_cases zero : s.sessions.countP (isOpen serial') = 0
    · -- nothing was open: the handler of the entry, if there is one, is another one that is still counted
      by_cases lost_ : lost (disconnected s h.serial reason age now (s.recorded.erase n) owed) serial' = 0
      · omega
      · have after : (current s serial').any (fun m => m ∈ s.recorded.erase n && m ∈ s.pushedOut) = true := by
          by_contra none_
          exact lost_ (if_neg none_)
        obtain ⟨m,here,both⟩ := (Option.any_eq_true _ _).mp after
        simp only [Bool.and_eq_true,decide_eq_true_eq] at both
        have one : 0 < (s.recorded.erase n).countP (serves s serial') :=
          List.countP_pos_iff.mpr ⟨m,both.1,serves_current kept.held here⟩
        have bound := lost_le_one (disconnected s h.serial reason age now (s.recorded.erase n) owed) serial'
        omega
    · omega
  · rw [if_neg named] at without_ ⊢
    omega

end record

/-! ### Runs -/

theorem step_kept {s t : State} {a : Action} (kept : Kept s) (met : closesStray s a = true) (stepped : step s a = some t) :
    Kept t := by
  cases a with
  | registry a =>
    simp only [step] at stepped
    split_ifs at stepped with blocked
    obtain ⟨r,moved,rfl⟩ := Option.map_eq_some_iff.mp stepped
    refine kept_registered kept ?_ moved
    rw [← Bool.not_eq_true]
    exact fun waiting => blocked (.inr waiting)
  | recordConnect n now =>
    simp only [step] at stepped
    split at stepped
    case h_1 h at_ =>
      by_cases member : n ∈ s.connecting
      · rw [if_pos member] at stepped
        cases stepped
        obtain ⟨popped,left,split,ring,out⟩ := recordConnect_spec s.sessions h.serial n now
        rw [ring,out]
        exact kept_connected kept at_ split member
      · rw [if_neg member] at stepped
        cases stepped
    case h_2 => cases stepped
  | recordDisconnect n reason age now =>
    simp only [step] at stepped
    split at stepped
    case h_1 h at_ =>
      split_ifs at stepped with ready
      cases stepped
      simp only [closesStray,at_,Option.all_some] at met
      refine kept_disconnected kept met List.erase_sublist ?_ (count_done kept at_ ready.2)
      intro m g at' unended
      rcases kept.noted m g at' unended with connecting | recorded
      · exact .inl connecting
      · refine .inr ((List.mem_erase_of_ne ?_).mpr recorded)
        rintro rfl
        cases at_.symm.trans at'
        rw [ready.1] at unended
        cases unended
    case h_2 => cases stepped
  | recordOwed now =>
    simp only [step] at stepped
    split at stepped
    case h_1 => cases stepped
    case h_2 serial reason age rest owed =>
      cases stepped
      simp only [closesStray,owed,List.head?_cons,Option.all_some] at met
      refine kept_disconnected kept met (List.Sublist.refl _) kept.noted ?_
      intro serial'
      have before := kept.count serial'
      have less := @lost_disconnected s serial reason age now _ rest (List.Sublist.refl _) serial'
      rw [countP_recordDisconnect]
      omega

/-- Handlers that will still close a session are those of the devices in the map. -/
theorem settled_recorded {s : State} (kept : Kept s) (settled : Settled s) {n : Nat} {serial : String}
    (member : n ∈ s.recorded) (mine : serves s serial n = true) : current s serial = some n := by
  obtain ⟨h,at_,entered,on⟩ := kept.recorded n member
  have named : h.serial = serial := by simpa [serves,at_] using mine
  rw [← named]
  exact ((settled.handlers n h at_ entered).resolve_left on).2

theorem matches_of_kept {s : State} (kept : Kept s) : HistoryMatches s := by
  intro settled serial
  have bound := kept.count serial
  have opens : s.sessions.countP (isOpen serial) = (openOf s serial).length := List.countP_eq_length_filter
  unfold Matches
  split
  case h_1 missing =>
    have none_ : s.recorded.countP (serves s serial) = 0 := by
      refine List.countP_eq_zero.mpr ?_
      intro n member mine
      cases missing.symm.trans (settled_recorded kept settled member mine)
    exact List.eq_nil_of_length_eq_zero (by omega)
  case h_2 n here =>
    have one : s.recorded.countP (serves s serial) ≤ 1 := by
      refine Nat.le_trans (List.countP_mono_left (q := (· == n)) ?_) ?_
      · intro m member mine
        cases here.symm.trans (settled_recorded kept settled member mine)
        exact beq_self_eq_true n
      · exact List.nodup_iff_count_le_one.mp (List.nodup_append.mp kept.once).2.1 n
    rcases kept.there serial n here with connecting | pushed | ⟨session,there,open_,mine⟩
    · rw [settled.connecting] at connecting
      cases connecting
    · refine .inr ⟨?_,pushed⟩
      -- its handler will still close a session, and there is none of its own
      obtain ⟨d,found,rfl⟩ := current_eq_some.mp here
      obtain ⟨h,at_,-,holds⟩ := kept.held serial d found
      have unended : Pc.unended h.pc = true := by
        generalize h.pc = pc at holds
        cases pc with
        | serving => rfl
        | leaving => rfl
        | cleaning => rfl
        | _ => cases holds
      have recorded : d.handler ∈ s.recorded := by
        refine (kept.noted d.handler h at_ unended).resolve_left ?_
        rw [settled.connecting]
        exact List.not_mem_nil
      have gone : lost s serial = 1 := if_pos ((Option.any_eq_true _ _).mpr ⟨_,here,by simp [recorded,pushed]⟩)
      exact List.eq_nil_of_length_eq_zero (by omega)
    · have member : session ∈ openOf s serial := List.mem_filter.mpr ⟨there,open_⟩
      have positive := List.length_pos_of_mem member
      obtain ⟨only,whole⟩ := List.length_eq_one_iff.mp (show (openOf s serial).length = 1 by omega)
      rw [whole] at member
      cases List.mem_singleton.mp member
      exact .inl ⟨session,whole,mine⟩

/-- In every run in which no end of a connection is recorded while the most recent
    open session of its serial is that of the connection in the map, the history
    matches the devices whenever all handlers that are leaving have left. -/
theorem history_matches (heartbeatTimeoutSecs : Nat) (as : List Action)
    (met : Along step (fun s a => closesStray s a = true) (start heartbeatTimeoutSecs) as) :
    Always step HistoryMatches (start heartbeatTimeoutSecs) as :=
  always_of_keeps (fun _ _ _ kept met stepped => step_kept kept met stepped) (fun _ => matches_of_kept)
    (kept_start heartbeatTimeoutSecs) met

/-- A device connects and connects again. -/
def reconnects : List Action :=
  [.registry (.connect "d" "key"),.registry (.share 0),.registry (.draw 0),.registry (.insert 0),.recordConnect 0 10,
    .registry (.connect "d" "key"),.registry (.share 1),.registry (.draw 1),.registry (.insert 1)]

/-- The replaced handler leaves. -/
def replacedLeaves : List Action :=
  [.registry (.leave 0),.registry (.look 0 true),.recordDisconnect 0 .replaced none 20,.registry (.stop 0)]

def recordedFirst : List Action := reconnects ++ replacedLeaves ++ [.recordConnect 1 30]

def recordedLast : List Action := reconnects ++ [.recordConnect 1 15] ++ replacedLeaves

/-- The handlers of `reconnects` when the replaced one has ended. -/
def afterReconnect : List Handler := [⟨"d","key",0,.ended⟩,⟨"d","key",0,.serving 2 0⟩]

theorem settled_reconnect {s : State} (owed : s.owed = []) (connecting : s.connecting = [])
    (handlers : s.registry.handlers = afterReconnect) (here : current s "d" = some 1) : Settled s where
  owed := owed
  connecting := connecting
  handlers := by
    intro n h at_ _
    rw [handlers] at at_
    match n with
    | 0 => cases at_; exact .inl rfl
    | 1 => cases at_; exact .inr ⟨⟨2,0,rfl⟩,here⟩
    | n + 2 => cases at_

/-- When the replaced handler is done before the new one records its connection,
    the one open session is the new one's. -/
theorem history_matches_reconnect :
    ∃ t, run step (start 20) recordedFirst = some t ∧ Settled t ∧ current t "d" = some 1 ∧
      openOf t "d" = [⟨"d",30,none,none,none,1⟩] ∧ Always step HistoryMatches (start 20) recordedFirst := by
  have known : (run step (start 20) recordedFirst).map (fun t => (t.owed,t.connecting,t.registry.handlers)) =
      some ([],[],afterReconnect) := by decide +kernel
  have known' : (run step (start 20) recordedFirst).map (fun t => (current t "d",openOf t "d")) =
      some (some 1,[⟨"d",30,none,none,none,1⟩]) := by decide +kernel
  obtain ⟨t,ran,facts⟩ := Option.map_eq_some_iff.mp known
  rw [ran] at known'
  obtain ⟨owed,rest⟩ := Prod.mk.inj facts
  obtain ⟨connecting,handlers⟩ := Prod.mk.inj rest
  obtain ⟨here,opens⟩ := Prod.mk.inj (Option.some.inj known')
  exact ⟨t,ran,settled_reconnect owed connecting handlers here,here,opens,history_matches 20 recordedFirst (by decide +kernel)⟩

/-- When the new handler records its connection first, the replaced one closes the
    new one's session and its own stays open. -/
theorem history_mismatch :
    ∃ t, run step (start 20) recordedLast = some t ∧ Settled t ∧ current t "d" = some 1 ∧
      t.sessions = [⟨"d",10,none,none,none,0⟩,⟨"d",15,some 20,some .replaced,none,1⟩] ∧
      ¬ Always step HistoryMatches (start 20) recordedLast := by
  have known : (run step (start 20) recordedLast).map (fun t => (t.owed,t.connecting,t.registry.handlers)) =
      some ([],[],afterReconnect) := by decide +kernel
  have known' : (run step (start 20) recordedLast).map (fun t => (current t "d",t.sessions)) =
      some (some 1,[⟨"d",10,none,none,none,0⟩,⟨"d",15,some 20,some .replaced,none,1⟩]) := by decide +kernel
  obtain ⟨t,ran,facts⟩ := Option.map_eq_some_iff.mp known
  rw [ran] at known'
  obtain ⟨owed,rest⟩ := Prod.mk.inj facts
  obtain ⟨connecting,handlers⟩ := Prod.mk.inj rest
  obtain ⟨here,sessions⟩ := Prod.mk.inj (Option.some.inj known')
  have settled := settled_reconnect owed connecting handlers here
  refine ⟨t,ran,settled,here,sessions,?_⟩
  intro all
  have opens : openOf t "d" = [⟨"d",10,none,none,none,0⟩] := by rw [openOf,sessions]; rfl
  have matched := always_last all ran settled "d"
  rw [Matches,here,opens] at matched
  rcases matched with ⟨session,only,mine⟩ | ⟨none_,-⟩
  · cases only
    cases mine
  · cases none_

end Sctl.RelayHistory
