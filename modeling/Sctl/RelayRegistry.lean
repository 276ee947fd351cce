import Sctl.Runs
import Sctl.Tables

/-!
The relay's registry of devices (`tunnel/relay.rs`), one entry for each serial.
The handler of a device's connection picks up the client maps of the entry that
it is going to replace, draws a connection id and enters its own device, each in
a step of its own; when it ends it removes the entry if the entry has its id.
The sweep evicts devices whose heartbeat is too old. A broadcast evicts those it
could not send to: it collects serials under one lock and removes what it finds
at these serials under another.
-/
namespace Sctl.RelayRegistry
open Sctl.Runs

/-- `ConnectedDevice`. The queue to the device and its pending requests are those
    of the handler that made the entry. -/
structure Device where
  connectionId : Nat
  apiKey : String
  handler : Nat
  /-- Which `clients` and `session_subscriptions` it has; the two are handed on together. -/
  maps : Nat
  lastHeartbeat : Nat
deriving DecidableEq

/-- Where `handle_device_ws` stands. -/
inductive Pc
  /-- The device sent its `api_key`. -/
  | registering
  | sharing (maps : Nat)
  | drawn (id maps : Nat)
  | serving (id maps : Nat)
  | leaving (id : Nat)
  /-- It did not look replaced. -/
  | cleaning (id : Nat)
  | removed (id : Nat) (device : Device)
  /-- The writer is still to be aborted. -/
  | stopping
  | ended
deriving DecidableEq

structure Handler where
  serial : String
  apiKey : String
  /-- `now_ms` of the registration. -/
  since : Nat
  pc : Pc
deriving DecidableEq

/-- An entry with the connection id `entry` was removed or drained because of the
    connection `behalf`: its handler ended, a send to it failed, or its heartbeat was old. -/
structure Eviction where
  behalf : Nat
  entry : Nat
deriving DecidableEq

structure State where
  devices : Table String Device
  nextConnectionId : Nat
  nextMaps : Nat
  handlers : List Handler
  /-- Handlers that were told to shut down because another one took the entry. -/
  replaced : List Nat
  /-- Handlers whose writer is gone, so that their queue refuses messages. -/
  closed : List Nat
  /-- `epoch.elapsed()` in milliseconds. -/
  clock : Nat
  heartbeatTimeoutSecs : Nat
  /-- What a broadcast is about to evict: the serials, each with the connection
      that its send failed on, which the source does not keep. -/
  broadcasts : List (List (String × Nat))
  evictions : List Eviction

def start (heartbeatTimeoutSecs : Nat) : State := ⟨∅,1,0,[],[],[],0,heartbeatTimeoutSecs,[],[]⟩

inductive Action
  | connect (serial apiKey : String)
  | share (n : Nat)
  | draw (n : Nat)
  | insert (n : Nat)
  /-- A `tunnel.ping` or `tunnel.pong`. -/
  | heartbeat (n : Nat)
  | writerExits (n : Nat)
  /-- The loop ends, for whatever reason. -/
  | leave (n : Nat)
  | look (n : Nat) (noticed : Bool)
  | cleanup (n : Nat)
  | drain (n : Nat)
  | stop (n : Nat)
  /-- `sweep_dead_devices`; it reads the time before it has the lock. -/
  | sweep (now : Nat)
  /-- The sends of `broadcast_to_devices`, with the serials where they failed. -/
  | broadcast (dead : List String)
  | evict (k : Nat)
  | drainAll
  | tick (ms : Nat)

def State.setPc (s : State) (n : Nat) (h : Handler) (pc : Pc) : State :=
  { s with handlers := s.handlers.set n { h with pc := pc } }

/-- The writer runs from the registration to the end. -/
def Pc.writes : Pc → Bool
  | .registering => false
  | .sharing _ => false
  | .drawn _ _ => false
  | .ended => false
  | _ => true

def stale (s : State) (now : Nat) (d : Device) : Bool := now - d.lastHeartbeat > s.heartbeatTimeoutSecs * 1000

def devicesOf (s : State) : List Device := s.devices.entries.map Sigma.snd

/-- The device that the handler enters. -/
def Handler.device (h : Handler) (n id maps : Nat) : Device := ⟨id,h.apiKey,n,maps,h.since⟩

def beat (n now : Nat) (d : Device) : Device := if d.handler = n then { d with lastHeartbeat := now } else d

/-- The entries found at the serials that a broadcast failed on. -/
def found (s : State) (dead : List (String × Nat)) : List (Nat × Device) :=
  dead.filterMap fun e => (s.devices.lookup e.1).map fun d => (e.2,d)

/-- The send to the device at the serial failed. -/
def unreachable (s : State) (serial : String) : Bool := (s.devices.lookup serial).any (·.handler ∈ s.closed)

def failedOn (s : State) (dead : List String) : List (String × Nat) :=
  dead.filterMap fun serial => (s.devices.lookup serial).map fun d => (serial,d.connectionId)

def step (s : State) : Action → Option State
  | .connect serial apiKey =>
    if apiKey ≠ "" then some { s with handlers := s.handlers ++ [⟨serial,apiKey,s.clock,.registering⟩] } else none
  | .share n =>
    match s.handlers[n]? with
    | some h =>
      match h.pc with
      | .registering =>
        match s.devices.lookup h.serial with
        | some old => some (s.setPc n h (.sharing old.maps))
        | none => some ({ s with nextMaps := s.nextMaps + 1 }.setPc n h (.sharing s.nextMaps))
      | _ => none
    | none => none
  | .draw n =>
    match s.handlers[n]? with
    | some h =>
      match h.pc with
      | .sharing maps =>
        some ({ s with nextConnectionId := (s.nextConnectionId + 1) % 2 ^ 64 }.setPc n h (.drawn s.nextConnectionId maps))
      | _ => none
    | none => none
  | .insert n =>
    match s.handlers[n]? with
    | some h =>
      match h.pc with
      | .drawn id maps =>
        some ({ s with
          devices := s.devices.insert h.serial (h.device n id maps)
          replaced := ((s.devices.lookup h.serial).map Device.handler).toList ++ s.replaced }.setPc n h (.serving id maps))
      | _ => none
    | none => none
  | .heartbeat n =>
    match s.handlers[n]? with
    | some h =>
      match h.pc with
      | .serving _ _ => some { s with devices := Table.modify h.serial (beat n s.clock) s.devices }
      | _ => none
    | none => none
  | .writerExits n =>
    match s.handlers[n]? with
    | some h => if h.pc.writes then some { s with closed := n :: s.closed } else none
    | none => none
  | .leave n =>
    match s.handlers[n]? with
    | some h =>
      match h.pc with
      | .serving id _ => some (s.setPc n h (.leaving id))
      | _ => none
    | none => none
  | .look n noticed =>
    match s.handlers[n]? with
    | some h =>
      match h.pc with
      | .leaving id =>
        -- its `shutdown_tx` lives in the entry: only without its entry can it notice
        if noticed && (s.devices.lookup h.serial).any (·.handler = n) then none
        else if noticed || (s.devices.lookup h.serial).any (·.connectionId ≠ id) then some (s.setPc n h .stopping)
        else some (s.setPc n h (.cleaning id))
      | _ => none
    | none => none
  | .cleanup n =>
    match s.handlers[n]? with
    | some h =>
      match h.pc with
      | .cleaning id =>
        match s.devices.lookup h.serial with
        | some d =>
          if d.connectionId = id then
            some ({ s with
              devices := s.devices.erase h.serial
              evictions := ⟨id,d.connectionId⟩ :: s.evictions }.setPc n h (.removed id d))
          else some (s.setPc n h .stopping)
        | none => some (s.setPc n h .stopping)
      | _ => none
    | none => none
  | .drain n =>
    match s.handlers[n]? with
    | some h =>
      match h.pc with
      | .removed id d => some ({ s with evictions := ⟨id,d.connectionId⟩ :: s.evictions }.setPc n h .stopping)
      | _ => none
    | none => none
  | .stop n =>
    match s.handlers[n]? with
    | some h =>
      match h.pc with
      | .stopping => some ({ s with closed := n :: s.closed }.setPc n h .ended)
      | _ => none
    | none => none
  | .sweep now =>
    if now ≤ s.clock then
      some { s with
        devices := Table.keep (fun _ d => !stale s now d) s.devices
        evictions := ((devicesOf s).filter (stale s now)).map (fun d => ⟨d.connectionId,d.connectionId⟩) ++ s.evictions }
    else none
  | .broadcast dead =>
    if dead.all (unreachable s) then some { s with broadcasts := s.broadcasts ++ [failedOn s dead] } else none
  | .evict k =>
    match s.broadcasts[k]? with
    | some dead =>
      some { s with
        devices := Table.keep (fun serial _ => serial ∉ dead.map Prod.fst) s.devices
        evictions := (found s dead).map (fun e => ⟨e.1,e.2.connectionId⟩) ++ s.evictions
        broadcasts := s.broadcasts.set k [] }
    | none => none
  | .drainAll => some { s with devices := ∅ }
  | .tick ms => some { s with clock := s.clock + ms }

/-- The handlers whose pending requests the step drains. -/
def drains (s : State) : Action → List Nat
  | .insert n => ((s.handlers[n]?.bind fun h => s.devices.lookup h.serial).map Device.handler).toList
  | .drain n =>
    match s.handlers[n]?.map Handler.pc with
    | some (.removed _ d) => [d.handler]
    | _ => []
  | .sweep now => ((devicesOf s).filter (stale s now)).map Device.handler
  | .evict k => (found s (s.broadcasts[k]?.getD [])).map fun e => e.2.handler
  | .drainAll => (devicesOf s).map Device.handler
  | _ => []

/-! ### Fencing -/

def present (serial : String) (s : State) : Prop := (s.devices.lookup serial).isSome

/-- The connection id at the serial does not go down. -/
def NotBelow (serial : String) (s t : State) : Prop :=
  ∀ d ∈ s.devices.lookup serial, ∀ d' ∈ t.devices.lookup serial, d.connectionId ≤ d'.connectionId

/-- Nobody's entry is removed or drained but the one of the connection it is done for. -/
def Fenced (s : State) : Prop := ∀ e ∈ s.evictions, e.entry = e.behalf

/-- A device is entered only over an entry with a smaller id. -/
def entersInOrder (s : State) : Action → Bool
  | .insert n =>
    match s.handlers[n]? with
    | some ⟨serial,_,_,.drawn id _⟩ => (s.devices.lookup serial).all (·.connectionId ≤ id)
    | _ => true
  | _ => true

/-- A broadcast finds the connection that its send failed on, or nothing. -/
def evictsSame (s : State) : Action → Bool
  | .evict k => (found s (s.broadcasts[k]?.getD [])).all fun e => e.2.connectionId = e.1
  | _ => true

/-! ### One step -/

/-- What a step can do. -/
inductive Move (s : State) : Action → State → Prop
  | connect {serial apiKey} (named : apiKey ≠ "") :
    Move s (.connect serial apiKey) { s with handlers := s.handlers ++ [⟨serial,apiKey,s.clock,.registering⟩] }
  | share {n h old} (at_ : s.handlers[n]? = some h) (pc : h.pc = .registering)
    (there : s.devices.lookup h.serial = some old) : Move s (.share n) (s.setPc n h (.sharing old.maps))
  | shareNew {n h} (at_ : s.handlers[n]? = some h) (pc : h.pc = .registering)
    (missing : s.devices.lookup h.serial = none) :
    Move s (.share n) ({ s with nextMaps := s.nextMaps + 1 }.setPc n h (.sharing s.nextMaps))
  | draw {n h maps} (at_ : s.handlers[n]? = some h) (pc : h.pc = .sharing maps) :
    Move s (.draw n) ({ s with
      nextConnectionId := (s.nextConnectionId + 1) % 2 ^ 64 }.setPc n h (.drawn s.nextConnectionId maps))
  | insert {n h id maps} (at_ : s.handlers[n]? = some h) (pc : h.pc = .drawn id maps) :
    Move s (.insert n) ({ s with
      devices := s.devices.insert h.serial (h.device n id maps)
      replaced := ((s.devices.lookup h.serial).map Device.handler).toList ++ s.replaced }.setPc n h (.serving id maps))
  | heartbeat {n h id maps} (at_ : s.handlers[n]? = some h) (pc : h.pc = .serving id maps) :
    Move s (.heartbeat n) { s with devices := Table.modify h.serial (beat n s.clock) s.devices }
  | writerExits {n h} (at_ : s.handlers[n]? = some h) (writes : h.pc.writes = true) :
    Move s (.writerExits n) { s with closed := n :: s.closed }
  | leave {n h id maps} (at_ : s.handlers[n]? = some h) (pc : h.pc = .serving id maps) :
    Move s (.leave n) (s.setPc n h (.leaving id))
  | lookReplaced {n h id noticed} (at_ : s.handlers[n]? = some h) (pc : h.pc = .leaving id) :
    Move s (.look n noticed) (s.setPc n h .stopping)
  | look {n h id noticed} (at_ : s.handlers[n]? = some h) (pc : h.pc = .leaving id) :
    Move s (.look n noticed) (s.setPc n h (.cleaning id))
  | cleanup {n h d} (at_ : s.handlers[n]? = some h) (pc : h.pc = .cleaning d.connectionId)
    (there : s.devices.lookup h.serial = some d) :
    Move s (.cleanup n) ({ s with
      devices := s.devices.erase h.serial
      evictions := ⟨d.connectionId,d.connectionId⟩ :: s.evictions }.setPc n h (.removed d.connectionId d))
  | cleanupOther {n h id} (at_ : s.handlers[n]? = some h) (pc : h.pc = .cleaning id)
    (other : ∀ d, s.devices.lookup h.serial = some d → d.connectionId ≠ id) :
    Move s (.cleanup n) (s.setPc n h .stopping)
  | drain {n h id d} (at_ : s.handlers[n]? = some h) (pc : h.pc = .removed id d) :
    Move s (.drain n) ({ s with evictions := ⟨id,d.connectionId⟩ :: s.evictions }.setPc n h .stopping)
  | stop {n h} (at_ : s.handlers[n]? = some h) (pc : h.pc = .stopping) :
    Move s (.stop n) ({ s with closed := n :: s.closed }.setPc n h .ended)
  | sweep {now} (past : now ≤ s.clock) :
    Move s (.sweep now) { s with
      devices := Table.keep (fun _ d => !stale s now d) s.devices
      evictions := ((devicesOf s).filter (stale s now)).map (fun d => ⟨d.connectionId,d.connectionId⟩) ++ s.evictions }
  | broadcast {dead} (failed : ∀ serial ∈ dead, unreachable s serial = true) :
    Move s (.broadcast dead) { s with broadcasts := s.broadcasts ++ [failedOn s dead] }
  | evict {k dead} (decided : s.broadcasts[k]? = some dead) :
    Move s (.evict k) { s with
      devices := Table.keep (fun serial _ => serial ∉ dead.map Prod.fst) s.devices
      evictions := (found s dead).map (fun e => ⟨e.1,e.2.connectionId⟩) ++ s.evictions
      broadcasts := s.broadcasts.set k [] }
  | drainAll : Move s .drainAll { s with devices := ∅ }
  | tick {ms} : Move s (.tick ms) { s with clock := s.clock + ms }

theorem step_move {s t : State} {a : Action} (stepped : step s a = some t) : Move s a t := by
  cases a with
  | connect serial apiKey =>
    simp only [step,Option.ite_none_right_eq_some,Option.some.injEq] at stepped
    obtain ⟨named,rfl⟩ := stepped
    exact .connect named
  | share n =>
    simp only [step] at stepped
    split at stepped
    · next h at_ =>
      split at stepped
      · next pc =>
        split at stepped
        · next there => cases stepped; exact .share at_ pc there
        · next missing => cases stepped; exact .shareNew at_ pc missing
      · cases stepped
    · cases stepped
  | draw n =>
    simp only [step] at stepped
    split at stepped
    · next h at_ =>
      split at stepped
      · next pc => cases stepped; exact .draw at_ pc
      · cases stepped
    · cases stepped
  | insert n =>
    simp only [step] at stepped
    split at stepped
    · next h at_ =>
      split at stepped
      · next pc => cases stepped; exact .insert at_ pc
      · cases stepped
    · cases stepped
  | heartbeat n =>
    simp only [step] at stepped
    split at stepped
    · next h at_ =>
      split at stepped
      · next pc => cases stepped; exact .heartbeat at_ pc
      · cases stepped
    · cases stepped
  | writerExits n =>
    simp only [step] at stepped
    split at stepped
    · next h at_ =>
      simp only [Option.ite_none_right_eq_some,Option.some.injEq] at stepped
      obtain ⟨writes,rfl⟩ := stepped
      exact .writerExits at_ writes
    · cases stepped
  | leave n =>
    simp only [step] at stepped
    split at stepped
    · next h at_ =>
      split at stepped
      · next pc => cases stepped; exact .leave at_ pc
      · cases stepped
    · cases stepped
  | look n noticed =>
    simp only [step] at stepped
    split at stepped
    · next h at_ =>
      split at stepped
      · next pc =>
        split at stepped
        · cases stepped
        · split at stepped
          · cases stepped; exact .lookReplaced at_ pc
          · cases stepped; exact .look at_ pc
      · cases stepped
    · cases stepped
  | cleanup n =>
    simp only [step] at stepped
    split at stepped
    · next h at_ =>
      split at stepped
      · next id pc =>
        split at stepped
        · next d there =>
          split at stepped
          · next same => cases stepped; subst same; exact .cleanup at_ pc there
          · next other =>
            cases stepped
            refine .cleanupOther at_ pc ?_
            intro d' there'
            cases there.symm.trans there'
            exact other
        · next missing =>
          cases stepped
          refine .cleanupOther at_ pc ?_
          intro d there
          cases missing.symm.trans there
      · cases stepped
    · cases stepped
  | drain n =>
    simp only [step] at stepped
    split at stepped
    · next h at_ =>
      split at stepped
      · next pc => cases stepped; exact .drain at_ pc
      · cases stepped
    · cases stepped
  | stop n =>
    simp only [step] at stepped
    split at stepped
    · next h at_ =>
      split at stepped
      · next pc => cases stepped; exact .stop at_ pc
      · cases stepped
    · cases stepped
  | sweep now =>
    simp only [step,Option.ite_none_right_eq_some,Option.some.injEq] at stepped
    obtain ⟨past,rfl⟩ := stepped
    exact .sweep past
  | broadcast dead =>
    simp only [step,Option.ite_none_right_eq_some,Option.some.injEq,List.all_eq_true] at stepped
    obtain ⟨failed,rfl⟩ := stepped
    exact .broadcast failed
  | evict k =>
    simp only [step] at stepped
    split at stepped
    · next decided => cases stepped; exact .evict decided
    · cases stepped
  | drainAll => cases stepped; exact .drainAll
  | tick ms => cases stepped; exact .tick

theorem beat_eq (n now : Nat) (d : Device) : ∃ ms, beat n now d = { d with lastHeartbeat := ms } := by
  unfold beat
  split_ifs
  · exact ⟨now,rfl⟩
  · exact ⟨d.lastHeartbeat,rfl⟩

/-- An entry was there before the step, up to its heartbeat, or its handler has
    just entered it. -/
theorem device_after {s t : State} {a : Action} (stepped : step s a = some t) {serial : String} {d : Device}
    (there : t.devices.lookup serial = some d) :
    (∃ old ms, s.devices.lookup serial = some old ∧ d = { old with lastHeartbeat := ms }) ∨
      ∃ n h id maps, a = .insert n ∧ s.handlers[n]? = some h ∧ h.pc = .drawn id maps ∧ h.serial = serial ∧
        d = h.device n id maps := by
  have before : s.devices.lookup serial = some d →
      ∃ old ms, s.devices.lookup serial = some old ∧ d = { old with lastHeartbeat := ms } :=
    fun found => ⟨d,d.lastHeartbeat,found,rfl⟩
  cases step_move stepped with
  | connect => exact .inl (before there)
  | share => exact .inl (before there)
  | shareNew => exact .inl (before there)
  | draw => exact .inl (before there)
  | @insert n h id maps at_ pc =>
    change (s.devices.insert h.serial (h.device n id maps)).lookup serial = some d at there
    rw [Table.lookup_insert_eq] at there
    split_ifs at there with same
    · cases there; exact .inr ⟨n,h,id,maps,rfl,at_,pc,same.symm,rfl⟩
    · exact .inl (before there)
  | @heartbeat n h id maps at_ pc =>
    rw [Table.lookup_modify] at there
    split_ifs at there with same
    · obtain ⟨old,found,rfl⟩ := Option.map_eq_some_iff.mp there
      obtain ⟨ms,beaten⟩ := beat_eq n s.clock old
      exact .inl ⟨old,ms,by rw [same,found],beaten⟩
    · exact .inl (before there)
  | writerExits => exact .inl (before there)
  | leave => exact .inl (before there)
  | lookReplaced => exact .inl (before there)
  | look => exact .inl (before there)
  | @cleanup n h d at_ pc =>
    change (s.devices.erase h.serial).lookup serial = _ at there
    rw [Table.lookup_erase_eq] at there
    split_ifs at there
    exact .inl (before there)
  | cleanupOther => exact .inl (before there)
  | drain => exact .inl (before there)
  | stop => exact .inl (before there)
  | sweep => exact .inl (before (Table.lookup_keep_iff.mp there).1)
  | broadcast => exact .inl (before there)
  | evict => exact .inl (before (Table.lookup_keep_iff.mp there).1)
  | drainAll => cases there
  | tick => exact .inl (before there)

/-- The ids at the serials do not go down in a step exactly when a device that
    is entered has the larger one. -/
theorem notBelow_step {s t : State} {a : Action} (stepped : step s a = some t) :
    (∀ serial, present serial s → present serial t → NotBelow serial s t) ↔ entersInOrder s a = true := by
  constructor
  · intro up
    cases step_move stepped with
    | @insert n h id maps at_ pc =>
      obtain ⟨serial,apiKey,since,pc'⟩ := h
      cases pc
      simp only [entersInOrder,at_]
      cases found : s.devices.lookup serial with
      | none => rfl
      | some d =>
        have entered : (s.devices.insert serial (Handler.device ⟨serial,apiKey,since,.drawn id maps⟩ n id maps)).lookup
            serial = some (Handler.device ⟨serial,apiKey,since,.drawn id maps⟩ n id maps) := AList.lookup_insert _
        have here := up serial (by simp [present,found]) (by rw [present]; exact Option.isSome_iff_exists.mpr ⟨_,entered⟩)
          d found _ entered
        simpa [Handler.device] using here
    | _ => rfl
  · intro ordered serial _ _ d before d' after
    rcases device_after stepped after with ⟨old,ms,there,rfl⟩ | ⟨n,⟨_,apiKey,since,pc⟩,id,maps,rfl,at_,drawn,rfl,rfl⟩
    · cases before.symm.trans there
      exact Nat.le_refl _
    · cases drawn
      simp only [entersInOrder,at_] at ordered
      rw [before] at ordered
      simpa [Handler.device] using ordered

/-! ### Handlers and entries -/

/-- Its device was entered. -/
def Pc.entered : Pc → Bool
  | .registering => false
  | .sharing _ => false
  | .drawn _ _ => false
  | _ => true

/-- A handler keeps its serial, and what it entered it has entered. -/
theorem handler_after {s t : State} {a : Action} (stepped : step s a = some t) {m : Nat} {h : Handler}
    (at_ : s.handlers[m]? = some h) :
    ∃ pc, t.handlers[m]? = some { h with pc := pc } ∧ (h.pc.entered = true → pc.entered = true) := by
  have kept : s.handlers[m]? = some { h with pc := h.pc } ∧ (h.pc.entered = true → h.pc.entered = true) := ⟨at_,id⟩
  have moved : ∀ {n : Nat} {g : Handler} (pc : Pc), s.handlers[n]? = some g → (g.pc.entered = true → pc.entered = true) →
      ∃ pc', (s.handlers.set n { g with pc := pc })[m]? = some { h with pc := pc' } ∧
        (h.pc.entered = true → pc'.entered = true) := by
    intro n g pc found entered
    rw [Tasks.getElem?_set_eq found]
    split_ifs with same
    · subst same
      cases found.symm.trans at_
      exact ⟨pc,rfl,entered⟩
    · exact ⟨h.pc,kept⟩
  cases step_move stepped with
  | connect =>
    have bound := (List.getElem?_eq_some_iff.mp at_).1
    exact ⟨h.pc,by rw [List.getElem?_append_left bound]; exact at_,id⟩
  | share found pc => exact moved _ found (by rw [pc]; intro entered; cases entered)
  | shareNew found pc => exact moved _ found (by rw [pc]; intro entered; cases entered)
  | draw found pc => exact moved _ found (by rw [pc]; intro entered; cases entered)
  | insert found => exact moved _ found fun _ => rfl
  | leave found => exact moved _ found fun _ => rfl
  | lookReplaced found => exact moved _ found fun _ => rfl
  | look found => exact moved _ found fun _ => rfl
  | cleanup found => exact moved _ found fun _ => rfl
  | cleanupOther found => exact moved _ found fun _ => rfl
  | drain found => exact moved _ found fun _ => rfl
  | stop found => exact moved _ found fun _ => rfl
  | _ => exact ⟨h.pc,kept⟩

/-- An entry belongs to a handler of its serial that entered it, and a handler
    that removed an entry removed its own. -/
structure Entered (s : State) : Prop where
  entry : ∀ serial d, s.devices.lookup serial = some d →
    ∃ h, s.handlers[d.handler]? = some h ∧ h.serial = serial ∧ h.pc.entered = true
  held : ∀ h ∈ s.handlers, ∀ id d, h.pc = .removed id d → d.connectionId = id

theorem held_set {s : State} (entered : Entered s) {n : Nat} {h : Handler} {pc : Pc}
    (here : ∀ id d, pc = .removed id d → d.connectionId = id) :
    ∀ g ∈ s.handlers.set n { h with pc := pc }, ∀ id d, g.pc = .removed id d → d.connectionId = id := by
  intro g member id d removed
  rcases List.mem_or_eq_of_mem_set member with earlier | rfl
  · exact entered.held g earlier id d removed
  · exact here id d removed

theorem entered_step {s t : State} {a : Action} (entered : Entered s) (stepped : step s a = some t) : Entered t := by
  refine ⟨?_,?_⟩
  · intro serial d there
    rcases device_after stepped there with ⟨old,ms,before,rfl⟩ | ⟨n,h,id,maps,rfl,at_,drawn,rfl,rfl⟩
    · obtain ⟨h,at_,same,entered_⟩ := entered.entry serial old before
      obtain ⟨pc,after,stays⟩ := handler_after stepped at_
      exact ⟨_,after,same,stays entered_⟩
    · cases step_move stepped with
      | insert found pc =>
        cases at_.symm.trans found
        have after : (s.handlers.set n { h with pc := .serving id maps })[n]? = some { h with pc := .serving id maps } := by
          rw [Tasks.getElem?_set_eq found,if_pos rfl]
        cases drawn.symm.trans pc
        exact ⟨_,after,rfl,rfl⟩
  · cases step_move stepped with
    | connect =>
      intro h member id d removed
      rcases List.mem_append.mp member with earlier | new
      · exact entered.held h earlier id d removed
      · cases List.mem_singleton.mp new; cases removed
    | cleanup => exact held_set entered (by rintro id d ⟨⟩; rfl)
    | share => exact held_set entered (by rintro id d ⟨⟩)
    | shareNew => exact held_set entered (by rintro id d ⟨⟩)
    | draw => exact held_set entered (by rintro id d ⟨⟩)
    | insert => exact held_set entered (by rintro id d ⟨⟩)
    | leave => exact held_set entered (by rintro id d ⟨⟩)
    | lookReplaced => exact held_set entered (by rintro id d ⟨⟩)
    | look => exact held_set entered (by rintro id d ⟨⟩)
    | cleanupOther => exact held_set entered (by rintro id d ⟨⟩)
    | drain => exact held_set entered (by rintro id d ⟨⟩)
    | stop => exact held_set entered (by rintro id d ⟨⟩)
    | _ => exact entered.held

theorem entered_start (heartbeatTimeoutSecs : Nat) : Entered (start heartbeatTimeoutSecs) :=
  ⟨fun serial d there => (by cases there),fun h member => (by cases member)⟩

/-! ### Runs -/

/-- An eviction finds what it was decided for exactly when no other connection
    has come to a serial that a broadcast failed on. -/
theorem fenced_step {s t : State} {a : Action} (entered : Entered s) (fenced : Fenced s) (stepped : step s a = some t) :
    Fenced t ↔ evictsSame s a = true := by
  cases step_move stepped with
  | cleanup => simpa [Fenced,State.setPc,evictsSame] using fenced
  | @drain n h id d at_ pc =>
    have same := entered.held h (List.mem_of_getElem? at_) id d pc
    simpa [Fenced,State.setPc,evictsSame,same] using fenced
  | sweep =>
    simp only [Fenced,evictsSame,iff_true]
    intro e member
    rcases List.mem_append.mp member with evicted | earlier
    · obtain ⟨d,-,rfl⟩ := List.mem_map.mp evicted
      rfl
    · exact fenced e earlier
  | @evict k dead decided =>
    simp only [Fenced,evictsSame,decided,Option.getD_some,List.all_eq_true,decide_eq_true_eq]
    constructor
    · intro all e member
      exact all ⟨e.1,e.2.connectionId⟩ (List.mem_append_left _ (List.mem_map.mpr ⟨e,member,rfl⟩))
    · intro same e member
      rcases List.mem_append.mp member with evicted | earlier
      · obtain ⟨pair,decided,rfl⟩ := List.mem_map.mp evicted
        exact same pair decided
      · exact fenced e earlier
  | _ => exact iff_of_true fenced rfl

/-- The id at a serial only goes up while the serial is there, and every eviction
    hits the connection that it is for, exactly when devices are entered in the
    order of their ids and no other connection comes to a serial between a failed
    broadcast and its eviction. -/
theorem connections_fenced_iff (heartbeatTimeoutSecs : Nat) (as : List Action) :
    ((∀ serial, While step (present serial) (NotBelow serial) (start heartbeatTimeoutSecs) as) ∧
      Always step Fenced (start heartbeatTimeoutSecs) as) ↔
      Along step (fun s a => entersInOrder s a = true ∧ evictsSame s a = true) (start heartbeatTimeoutSecs) as := by
  rw [along_and]
  refine and_congr ?_ ?_
  · refine while_iff_along ?_ ?_ fun s a t stepped => notBelow_step stepped
    · intro serial s d before d' after
      cases before.symm.trans after
      exact Nat.le_refl _
    · intro serial s t u here first second d before d' after
      obtain ⟨m,between⟩ := Option.isSome_iff_exists.mp here
      exact Nat.le_trans (first d before m between) (second m between d' after)
  · refine always_iff_along (fun s a t => entered_step) (fun s a t => fenced_step) (entered_start _) ?_
    intro e member
    cases member

/-- A connection registers; its writer fails and a broadcast finds that out; the
    device reconnects before the broadcast evicts it. -/
def reconnectsBeforeEviction : List Action :=
  [.connect "d" "key",.share 0,.draw 0,.insert 0,.writerExits 0,.broadcast ["d"],.connect "d" "key",.share 1,.draw 1,.insert 1,
    .evict 0]

/-- Two connections of a device draw their ids in one order and enter in the other. -/
def entersLate : List Action :=
  [.connect "d" "key",.connect "d" "key",.share 0,.share 1,.draw 0,.draw 1,.insert 1,.insert 0]

theorem connection_unfenced :
    (∃ t, run step (start 20) reconnectsBeforeEviction = some t ∧ ⟨1,2⟩ ∈ t.evictions ∧
      t.devices.lookup "d" = none ∧ ¬ Always step Fenced (start 20) reconnectsBeforeEviction) ∧
    ∃ t u, run step (start 20) (entersLate.take 7) = some t ∧ run step t [.insert 0] = some u ∧
      (t.devices.lookup "d").map Device.connectionId = some 2 ∧ (u.devices.lookup "d").map Device.connectionId = some 1 ∧
      ¬ While step (present "d") (NotBelow "d") (start 20) entersLate := by
  refine ⟨?_,?_⟩
  · have known : (run step (start 20) reconnectsBeforeEviction).map (fun t => (t.evictions,t.devices.lookup "d")) =
        some ([⟨1,2⟩],none) := by decide +kernel
    obtain ⟨t,ran,facts⟩ := Option.map_eq_some_iff.mp known
    obtain ⟨evicted,missing⟩ := Prod.mk.inj facts
    have member : (⟨1,2⟩ : Eviction) ∈ t.evictions := by rw [evicted]; simp
    refine ⟨t,ran,member,missing,?_⟩
    intro all
    cases always_last all ran _ member
  · have known : (run step (start 20) (entersLate.take 7)).map (fun t => t.devices.lookup "d") =
        some (some ⟨2,"key",1,1,0⟩) := by decide +kernel
    have after : ((run step (start 20) (entersLate.take 7)).bind (run step · [.insert 0])).map (fun t => t.devices.lookup "d") =
        some (some ⟨1,"key",0,0,0⟩) := by decide +kernel
    obtain ⟨t,ran,higher⟩ := Option.map_eq_some_iff.mp known
    rw [ran,Option.bind_some] at after
    obtain ⟨u,entered,lower⟩ := Option.map_eq_some_iff.mp after
    refine ⟨t,u,ran,entered,by rw [higher]; rfl,by rw [lower]; rfl,?_⟩
    intro up
    have still : Always step (present "d") t [.insert 0] := by
      refine ⟨by simp [present,higher],?_⟩
      intro u' stepped
      cases (run_singleton.mp entered).symm.trans stepped
      simp [Always,present,lower]
    have below := up (entersLate.take 7) [.insert 0] [] rfl t ran u entered still _ higher _ lower
    exact absurd below (by decide)

end Sctl.RelayRegistry
