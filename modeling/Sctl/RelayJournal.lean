import Sctl.JournalSeed
import Sctl.RelayHistory

/-!
The lines that the relay logs while devices come and go, next to its map of
devices. A handler logs after it has given the lock of the map back, so lines of
different handlers can change places; the sweep, a broadcast's eviction and the
shutdown log while they have the lock. A registration that fails logs a line
though the map stays as it is, and the shutdown says that it begins before it
empties the map.
-/
namespace Sctl.RelayJournal
open Sctl.Runs Sctl.JournalSeed

/-- What a handler has to log. -/
inductive Kind
  | registered
  | exiting
  | disconnected
deriving DecidableEq

def Kind.message (reason : DisconnectReason) : Kind → Message
  | .registered => .registered
  | .exiting => .handlerExiting
  | .disconnected => .disconnected reason

structure Due where
  handler : Nat
  kind : Kind
  /-- The handler has changed the map. -/
  updated : Bool
deriving DecidableEq

inductive Shutdown
  | running
  /-- `Shutting down...` is logged and the map is not emptied yet. -/
  | closing
  | drained
deriving DecidableEq

structure State where
  registry : RelayRegistry.State
  /-- The lines with their times, the latest first. -/
  log : List (Nat × Line)
  due : List Due
  /-- What is still to be logged under the lock of the devices. -/
  owed : List (Message × String)
  shutdown : Shutdown
  /-- The changes of the map, the latest first: a serial is entered or removed. -/
  updates : List (String × Bool)

def start (heartbeatTimeoutSecs : Nat) : State := ⟨RelayRegistry.start heartbeatTimeoutSecs,[],[],[],.running,[]⟩

inductive Action
  | registry (a : RelayRegistry.Action)
  /-- A line that goes with no change of the map, such as that of a registration that fails. -/
  | note (message : Message) (serial : String) (now : Nat)
  | log (n : Nat) (reason : DisconnectReason) (now : Nat)
  | logOwed (now : Nat)
  | beginShutdown (now : Nat)

/-- The lines that are logged without a change of the map. -/
def notes : Message → Bool
  | .registered | .handlerExiting | .disconnected _ | .heartbeatTimeout | .sendFailed | .drained => false
  | _ => true

/-- The serial that the step enters. -/
def entered (r : RelayRegistry.State) : RelayRegistry.Action → Option String
  | .insert n => r.handlers[n]?.map RelayRegistry.Handler.serial
  | _ => none

/-- The handler's entry is there, and it is about to remove it. -/
def removes (r : RelayRegistry.State) (h : RelayRegistry.Handler) : Bool :=
  (r.devices.lookup h.serial).any fun d => h.pc = .cleaning d.connectionId

/-- The serials that the step removes. -/
def removed (r : RelayRegistry.State) : RelayRegistry.Action → List String
  | .cleanup n => ((r.handlers[n]?.filter (removes r)).map RelayRegistry.Handler.serial).toList
  | .sweep now => (r.devices.entries.filter fun e => RelayRegistry.stale r now e.2).map Sigma.fst
  | .evict k => (r.broadcasts[k]?.getD []).map Prod.fst
  | .drainAll => r.devices.keys
  | _ => []

/-- What the step has to log before it gives the lock back. -/
def owes (r : RelayRegistry.State) (a : RelayRegistry.Action) : List (Message × String) :=
  match a with
  | .sweep _ => (removed r a).map fun serial => (.heartbeatTimeout,serial)
  | .evict _ => (removed r a).map fun serial => (.sendFailed,serial)
  | .drainAll => (removed r a).map fun serial => (.drained,serial)
  | _ => []

/-- What the handler has to log after the step. -/
def dues (r t : RelayRegistry.State) : RelayRegistry.Action → List Due
  | .insert n => [⟨n,.registered,true⟩]
  | .look n _ => if (t.handlers[n]?).any (·.pc = .stopping) then [⟨n,.exiting,false⟩] else []
  | .cleanup n => [⟨n,.disconnected,(r.handlers[n]?).any (removes r)⟩]
  | _ => []

/-- The handler has something to log first. -/
def waits (s : State) : RelayRegistry.Action → Bool
  | .heartbeat n | .writerExits n | .leave n => s.due.any fun d => d.handler = n && d.kind = .registered
  | .stop n => s.due.any (·.handler = n)
  | _ => false

/-- A serial is checked before its handler starts, and `drain_all` is part of the shutdown. -/
def admits (s : State) : RelayRegistry.Action → Bool
  | .connect serial _ => isValidSerial serial
  | .drainAll => s.shutdown = .closing
  | _ => true

def afterwards (s : State) : RelayRegistry.Action → Shutdown
  | .drainAll => .drained
  | _ => s.shutdown

def updatesOf (r : RelayRegistry.State) (a : RelayRegistry.Action) : List (String × Bool) :=
  (entered r a).toList.map (·,true) ++ (removed r a).map (·,false)

def State.say (s : State) (now : Nat) (line : Line) : State := { s with log := (now,line) :: s.log }

def step (s : State) : Action → Option State
  | .registry a =>
    if (s.owed ≠ [] ∧ RelayHistory.locksDevices a) ∨ waits s a ∨ !admits s a then none
    else (RelayRegistry.step s.registry a).map fun r =>
      { s with
        registry := r
        due := dues s.registry r a ++ s.due
        owed := owes s.registry a ++ s.owed
        shutdown := afterwards s a
        updates := updatesOf s.registry a ++ s.updates }
  | .note message serial now =>
    if notes message && isValidSerial serial then some (s.say now (.device message serial)) else none
  | .log n reason now =>
    match s.due.find? (·.handler = n), s.registry.handlers[n]? with
    | some d, some h =>
      if d.kind = .registered ∨ h.pc = .stopping then
        some { s.say now (.device (d.kind.message reason) h.serial) with due := s.due.erase d }
      else none
    | _, _ => none
  | .logOwed now =>
    match s.owed with
    | [] => none
    | (message,serial) :: rest => some { s.say now (.device message serial) with owed := rest }
  | .beginShutdown now =>
    if s.shutdown = .running then some { s.say now .shuttingDown with shutdown := .closing } else none

/-- Nobody who changed the map has a line of it to log; where the shutdown counts, it is not
    between its line and its change of the map either. -/
structure Settled (counts : Bool) (s : State) : Prop where
  owed : s.owed = []
  due : ∀ d ∈ s.due, d.updated = false
  shutdown : counts = true → s.shutdown ≠ .closing

/-- A restart would find an open session for exactly the serials in the map. -/
def Recovers (logger : Logger) (counts : Bool) (s : State) : Prop :=
  Settled counts s → ∀ serial,
    (replay (entries logger s.log)).isOpen serial ↔ (s.registry.devices.lookup serial).isSome = true

/-- The last line about a serial says what the last change of the map at the serial did. -/
def InOrder (counts : Bool) (s : State) : Prop :=
  Settled counts s → ∀ serial, lastSaid serial s.log = some true ↔ s.updates.lookup serial = some true

/-! ### The changes of the map -/

theorem lookup_removed (serials : List String) (updates : List (String × Bool)) (serial : String) :
    (serials.map (·,false) ++ updates).lookup serial = if serial ∈ serials then some false else updates.lookup serial := by
  induction serials with
  | nil => simp
  | cons first rest ih =>
    rw [List.map_cons,List.cons_append,List.lookup_cons,ih]
    by_cases same : serial = first
    · simp [same]
    · simp [same,beq_eq_false_iff_ne.mpr same]

/-- What a step does to the serials of the map. -/
theorem step_present {r t : RelayRegistry.State} {a : RelayRegistry.Action} (stepped : RelayRegistry.step r a = some t)
    (serial : String) : (t.devices.lookup serial).isSome =
      (entered r a = some serial || ((r.devices.lookup serial).isSome && serial ∉ removed r a)) := by
  cases RelayRegistry.step_move stepped with
  | @insert n h id maps at_ pc =>
    change ((r.devices.insert _ _).lookup serial).isSome = _
    rw [Table.lookup_insert_eq]
    by_cases same : serial = h.serial
    · subst same
      simp [entered,at_]
    · simp [entered,removed,at_,same,Ne.symm same]
  | @heartbeat n h id maps at_ pc =>
    change ((Table.modify _ _ r.devices).lookup serial).isSome = _
    rw [Table.lookup_modify]
    by_cases same : serial = h.serial
    · subst same
      simp [entered,removed]
    · simp [entered,removed,same]
  | @cleanup n h d at_ pc there =>
    change ((r.devices.erase h.serial).lookup serial).isSome = _
    rw [Table.lookup_erase_eq]
    have mine : removed r (.cleanup n) = [h.serial] := by
      have found : removes r h = true := by simp [removes,there,pc]
      simp [removed,at_,found,Option.filter]
    by_cases same : serial = h.serial
    · simp [entered,mine,same]
    · simp [entered,mine,same]
  | @cleanupOther n h id at_ pc other =>
    have mine : removed r (.cleanup n) = [] := by
      have missing : removes r h = false := by
        rw [removes,pc,Option.any_eq_false]
        intro d there
        have differs : d.connectionId ≠ id := other d there
        simp [Ne.symm differs]
      simp [removed,at_,missing,Option.filter]
    simp [entered,mine,RelayRegistry.State.setPc]
  | @sweep now past =>
    change ((Table.keep _ r.devices).lookup serial).isSome = _
    rw [Table.lookup_keep]
    have gone : serial ∈ removed r (.sweep now) ↔ ∃ d, r.devices.lookup serial = some d ∧ RelayRegistry.stale r now d = true := by
      simp only [removed,List.mem_map,List.mem_filter,Table.lookup_eq_some_iff]
      constructor
      · rintro ⟨⟨_,d⟩,⟨member,old⟩,rfl⟩
        exact ⟨d,member,old⟩
      · rintro ⟨d,member,old⟩
        exact ⟨⟨serial,d⟩,⟨member,old⟩,rfl⟩
    cases there : r.devices.lookup serial with
    | none => rfl
    | some d =>
      cases old : RelayRegistry.stale r now d <;> simp [entered,gone,there,old,Option.filter]
  | @evict k dead decided =>
    change ((Table.keep _ r.devices).lookup serial).isSome = _
    rw [Table.lookup_keep]
    have gone : removed r (.evict k) = dead.map Prod.fst := by rw [removed,decided]; rfl
    cases there : r.devices.lookup serial with
    | none => rfl
    | some d =>
      by_cases member : serial ∈ dead.map Prod.fst <;> simp only [entered,gone,member,Option.filter] <;> rfl
  | drainAll =>
    change ((∅ : Table String RelayRegistry.Device).lookup serial).isSome = _
    rw [AList.lookup_empty]
    cases there : r.devices.lookup serial with
    | none => rfl
    | some d =>
      have member : serial ∈ r.devices.keys := AList.lookup_isSome.mp (by rw [there]; rfl)
      simp [entered,removed,member]
  | _ => simp [entered,removed,RelayRegistry.State.setPc]

/-- Only a serial that was checked is ever in use. -/
structure Checked (s : State) : Prop where
  handlers : ∀ h ∈ s.registry.handlers, isValidSerial h.serial = true
  devices : ∀ serial, (s.registry.devices.lookup serial).isSome = true → isValidSerial serial = true
  broadcasts : ∀ dead ∈ s.registry.broadcasts, ∀ e ∈ dead, isValidSerial e.1 = true
  owed : ∀ e ∈ s.owed, isValidSerial e.2 = true
  log : ∀ e ∈ s.log, e.2.valid = true

/-- The serials are checked, and the changes say what is in the map. -/
structure Kept (s : State) : Prop extends Checked s where
  present : ∀ serial, (s.registry.devices.lookup serial).isSome = true ↔ s.updates.lookup serial = some true

theorem kept_say {s t : State} {now : Nat} (line : Line) (kept : Kept s) (valid : line.valid = true)
    (registry : t.registry = s.registry) (updates : t.updates = s.updates) (log : t.log = (now,line) :: s.log)
    (owed : ∀ e ∈ t.owed, e ∈ s.owed) : Kept t where
  handlers := by rw [registry]; exact kept.handlers
  devices := by rw [registry]; exact kept.devices
  broadcasts := by rw [registry]; exact kept.broadcasts
  owed := fun e member => kept.owed e (owed e member)
  log := by
    rw [log]
    exact List.forall_mem_cons.mpr ⟨valid,kept.log⟩
  present := by rw [registry,updates]; exact kept.present

theorem lookup_updatesOf (r : RelayRegistry.State) (a : RelayRegistry.Action) (updates : List (String × Bool))
    (serial : String) : (updatesOf r a ++ updates).lookup serial =
      if entered r a = some serial then some true
      else if serial ∈ removed r a then some false
      else updates.lookup serial := by
  rw [updatesOf,List.append_assoc]
  cases entered r a with
  | none =>
    rw [if_neg (by simp)]
    exact lookup_removed (removed r a) updates serial
  | some other =>
    simp only [Option.toList_some,List.map_cons,List.map_nil,List.singleton_append,List.lookup_cons,lookup_removed]
    by_cases same : serial = other
    · simp [same]
    · simp [beq_eq_false_iff_ne.mpr same,Ne.symm same]

/-- A handler keeps its serial, and only a connection brings a new one. -/
theorem handlers_after {r t : RelayRegistry.State} {a : RelayRegistry.Action} (stepped : RelayRegistry.step r a = some t)
    {h : RelayRegistry.Handler} (member : h ∈ t.handlers) :
    (∃ g ∈ r.handlers, g.serial = h.serial) ∨ ∃ apiKey, a = .connect h.serial apiKey := by
  have moved : ∀ {n : Nat} {g : RelayRegistry.Handler} (pc : RelayRegistry.Pc), r.handlers[n]? = some g →
      h ∈ r.handlers.set n { g with pc := pc } → ∃ g ∈ r.handlers, g.serial = h.serial := by
    intro n g pc at_ there
    rcases List.mem_or_eq_of_mem_set there with before | rfl
    · exact ⟨h,before,rfl⟩
    · exact ⟨g,List.mem_of_getElem? at_,rfl⟩
  cases RelayRegistry.step_move stepped with
  | @connect serial apiKey named =>
    rcases List.mem_append.mp member with before | new
    · exact .inl ⟨h,before,rfl⟩
    · cases List.mem_singleton.mp new
      exact .inr ⟨apiKey,rfl⟩
  | share at_ => exact .inl (moved _ at_ member)
  | shareNew at_ => exact .inl (moved _ at_ member)
  | draw at_ => exact .inl (moved _ at_ member)
  | insert at_ => exact .inl (moved _ at_ member)
  | leave at_ => exact .inl (moved _ at_ member)
  | look at_ => exact .inl (moved _ at_ member)
  | lookReplaced at_ => exact .inl (moved _ at_ member)
  | cleanup at_ => exact .inl (moved _ at_ member)
  | cleanupOther at_ => exact .inl (moved _ at_ member)
  | drain at_ => exact .inl (moved _ at_ member)
  | stop at_ => exact .inl (moved _ at_ member)
  | _ => exact .inl ⟨h,member,rfl⟩

theorem broadcasts_after {r t : RelayRegistry.State} {a : RelayRegistry.Action} (stepped : RelayRegistry.step r a = some t)
    {dead : List (String × Nat)} (member : dead ∈ t.broadcasts) {e : String × Nat} (there : e ∈ dead) :
    (∃ dead ∈ r.broadcasts, e ∈ dead) ∨ (r.devices.lookup e.1).isSome = true := by
  cases RelayRegistry.step_move stepped with
  | @broadcast serials failed =>
    rcases List.mem_append.mp member with before | new
    · exact .inl ⟨dead,before,there⟩
    · cases List.mem_singleton.mp new
      obtain ⟨serial,-,found⟩ := List.mem_filterMap.mp there
      obtain ⟨d,here,rfl⟩ := Option.map_eq_some_iff.mp found
      exact .inr (by rw [here]; rfl)
  | @evict k before decided =>
    rcases List.mem_or_eq_of_mem_set member with before | rfl
    · exact .inl ⟨dead,before,there⟩
    · cases there
  | _ => exact .inl ⟨dead,member,there⟩

/-- What a step removes was in the map or on a broadcast's list. -/
theorem removed_checked {s : State} (kept : Kept s) (a : RelayRegistry.Action) :
    ∀ serial ∈ removed s.registry a, isValidSerial serial = true := by
  intro serial member
  cases a with
  | cleanup n =>
    simp only [removed,Option.mem_toList,Option.map_eq_some_iff,Option.filter_eq_some_iff] at member
    obtain ⟨h,⟨at_,-⟩,rfl⟩ := member
    exact kept.handlers h (List.mem_of_getElem? at_)
  | sweep now =>
    obtain ⟨e,old,rfl⟩ := List.mem_map.mp member
    refine kept.devices e.1 ?_
    have there := Table.lookup_eq_some_iff.mpr (List.mem_filter.mp old).1
    rw [there]
    rfl
  | evict k =>
    obtain ⟨e,listed,rfl⟩ := List.mem_map.mp member
    cases decided : s.registry.broadcasts[k]? with
    | none => rw [decided] at listed; cases listed
    | some dead =>
      rw [decided] at listed
      exact kept.broadcasts dead (List.mem_of_getElem? decided) e listed
  | drainAll => exact kept.devices serial (AList.lookup_isSome.mpr member)
  | connect | share | draw | insert | heartbeat | writerExits | leave | look | drain | stop | broadcast | tick => cases member

theorem kept_registry {s t : State} {a : RelayRegistry.Action} (kept : Kept s)
    (stepped : step s (.registry a) = some t) : Kept t := by
  simp only [step,Option.ite_none_left_eq_some,Option.map_eq_some_iff] at stepped
  obtain ⟨free,r,ran,rfl⟩ := stepped
  simp only [not_or] at free
  have handlers : ∀ h ∈ r.handlers, isValidSerial h.serial = true := by
    intro h member
    rcases handlers_after ran member with ⟨g,before,same⟩ | ⟨apiKey,rfl⟩
    · rw [← same]
      exact kept.handlers g before
    · simpa [admits] using free.2.2
  constructor
  · constructor
    · exact handlers
    · intro serial there
      change (r.devices.lookup serial).isSome = true at there
      rw [step_present ran,Bool.or_eq_true] at there
      rcases there with new | before
      · cases a with
        | insert n =>
          obtain ⟨h,at_,rfl⟩ := Option.map_eq_some_iff.mp (of_decide_eq_true new)
          exact kept.handlers h (List.mem_of_getElem? at_)
        | _ => cases of_decide_eq_true new
      · exact kept.devices serial (Bool.and_eq_true_iff.mp before).1
    · intro dead member e there
      rcases broadcasts_after ran member there with ⟨dead,before,there⟩ | here
      · exact kept.broadcasts dead before e there
      · exact kept.devices e.1 here
    · intro e member
      rcases List.mem_append.mp member with new | before
      · have named : e.2 ∈ removed s.registry a := by
          cases a with
          | sweep | evict | drainAll =>
            obtain ⟨serial,gone,rfl⟩ := List.mem_map.mp new
            exact gone
          | _ => cases new
        exact removed_checked kept a e.2 named
      · exact kept.owed e before
    · exact kept.log
  · intro serial
    change (r.devices.lookup serial).isSome = true ↔ (updatesOf s.registry a ++ s.updates).lookup serial = some true
    rw [step_present ran,lookup_updatesOf]
    by_cases new : entered s.registry a = some serial
    · simp [new]
    · by_cases gone : serial ∈ removed s.registry a
      · simp [new,gone]
      · simpa [new,gone] using kept.present serial

theorem kept_step {s t : State} {a : Action} (kept : Kept s) (stepped : step s a = some t) : Kept t := by
  cases a with
  | registry a => exact kept_registry kept stepped
  | note message serial now =>
    simp only [step,Option.ite_none_right_eq_some,Bool.and_eq_true] at stepped
    obtain ⟨⟨-,valid⟩,said⟩ := stepped
    cases said
    exact kept_say (.device message serial) kept valid rfl rfl rfl fun _ member => member
  | log n reason now =>
    simp only [step] at stepped
    split at stepped
    · next d h found at_ =>
      rw [Option.ite_none_right_eq_some] at stepped
      obtain ⟨-,said⟩ := stepped
      cases said
      exact kept_say (.device _ h.serial) kept (kept.handlers h (List.mem_of_getElem? at_)) rfl rfl rfl fun _ member => member
    · cases stepped
  | logOwed now =>
    simp only [step] at stepped
    split at stepped
    · cases stepped
    · next message serial rest owed =>
      cases stepped
      have valid := kept.owed (message,serial) (by rw [owed]; exact List.mem_cons_self)
      exact kept_say (.device message serial) kept valid rfl rfl rfl fun e member => by rw [owed]; exact List.mem_cons_of_mem _ member
  | beginShutdown now =>
    simp only [step,Option.ite_none_right_eq_some] at stepped
    obtain ⟨-,said⟩ := stepped
    cases said
    exact kept_say .shuttingDown kept rfl rfl rfl rfl fun _ member => member

theorem kept_start (heartbeatTimeoutSecs : Nat) : Kept (start heartbeatTimeoutSecs) where
  handlers := fun _ member => by cases member
  devices := fun _ there => by cases there
  broadcasts := fun _ member => by cases member
  owed := fun _ member => by cases member
  log := fun _ member => by cases member
  present := fun serial => by simp [start,RelayRegistry.start]

end Sctl.RelayJournal
