import Sctl.RelayRegistry

/-!
REST requests that the relay carries to a device and back (`tunnel_request` and
`tunnel_request_binary`). A call enters its request id into the pending requests
of the device's connection, queues the message under the registry's read lock and
then waits. The connection's handler takes an id out when it reads the response;
whoever evicts or replaces the connection drains all of them; and a call that
gives up takes its own id out, unless it is cancelled.
-/
namespace Sctl.RelayRequests
open Sctl.Runs

abbrev Registry := RelayRegistry.State

inductive Kind
  | text
  | binary
deriving DecidableEq

inductive Response
  | json (requestId : String)
  | binary (requestId : String)
  /-- The error that a drained request is answered with. -/
  | drained
deriving DecidableEq

def Response.carries (id : String) : Response → Bool
  | .json requestId => requestId = id
  | .binary requestId => requestId = id
  | .drained => false

inductive Failure
  | notFound
  | overloaded
  | sendFailed
  | queueStalled
  | connectionLost
  | timeout
deriving DecidableEq

def Failure.status : Failure → Nat
  | .notFound => 404
  | .overloaded => 503
  | .sendFailed => 502
  | .queueStalled => 502
  | .connectionLost => 502
  | .timeout => 504

def Failure.error (serial : String) : Failure → String
  | .notFound => "Device '" ++ serial ++ "' not connected"
  | .overloaded => "Device has too many pending requests"
  | .sendFailed => "Failed to send to device"
  | .queueStalled => "Device request queue stalled"
  | .connectionLost => "Device connection lost"
  | .timeout => "Device did not respond in time"

def Failure.code : Failure → String
  | .notFound => "DEVICE_NOT_FOUND"
  | .overloaded => "OVERLOADED"
  | .sendFailed => "DEVICE_SEND_FAILED"
  | .queueStalled => "DEVICE_QUEUE_STALLED"
  | .connectionLost => "DEVICE_DISCONNECTED"
  | .timeout => "TIMEOUT"

/-- Where a call stands. -/
inductive Pc
  | starting
  | sending
  | failed (why : Failure)
  | waiting
  | timedOut
  | answered (response : Response)
  | refused (why : Failure)
  /-- The HTTP request went away and the call with it. -/
  | cancelled
deriving DecidableEq

/-- The call has returned or was cancelled. -/
def Pc.finished : Pc → Bool
  | .answered _ => true
  | .refused _ => true
  | .cancelled => true
  | _ => false

/-- The registry's read lock is released when the message is queued. -/
def Pc.holdsLock : Pc → Bool
  | .sending => true
  | .failed _ => true
  | _ => false

/-- What the call returns: a response, or the status, the text and the code of an error. -/
def Pc.result (serial : String) : Pc → Option (Except (Nat × String × String) Response)
  | .answered response => some (.ok response)
  | .refused why => some (.error (why.status,why.error serial,why.code))
  | _ => none

structure Call where
  kind : Kind
  id : String
  serial : String
  /-- The connection whose pending requests it entered. -/
  device : Option Nat
  pc : Pc
deriving DecidableEq

structure State where
  registry : Registry
  /-- `pending_requests` by connection: the call that waits for an id. -/
  pending : Table Nat (Table String Nat)
  calls : List Call
  /-- What was sent to the calls, the last one first. -/
  answers : List (Nat × Response)

def start (heartbeatTimeoutSecs : Nat) : State := ⟨RelayRegistry.start heartbeatTimeoutSecs,∅,[],[]⟩

inductive Action
  | registry (a : RelayRegistry.Action)
  | call (kind : Kind) (id serial : String)
  | enlist (c : Nat)
  | queued (c : Nat)
  | sendFails (c : Nat) (stalled : Bool)
  | giveUp (c : Nat)
  | receive (c : Nat)
  /-- The sender is gone without an answer. -/
  | lose (c : Nat)
  | timeout (c : Nat)
  | cleanUp (c : Nat)
  | cancel (c : Nat)
  /-- A `.result` or `.ack` without a client's tag, or a binary frame. -/
  | respond (n : Nat) (kind : Kind) (id : String)

def maxPending : Nat := 256

def pendingOf (s : State) (n : Nat) : Table String Nat := (s.pending.lookup n).getD ∅

def remove (s : State) (n : Nat) (id : String) : State :=
  { s with pending := s.pending.insert n ((pendingOf s n).erase id) }

def State.setPc (s : State) (c : Nat) (call : Call) (pc : Pc) : State :=
  { s with calls := s.calls.set c { call with pc := pc } }

/-- Steps that take the registry's write lock. -/
def writes : RelayRegistry.Action → Bool
  | .insert _ => true
  | .cleanup _ => true
  | .sweep _ => true
  | .evict _ => true
  | .drainAll => true
  | _ => false

def drainPending (s : State) (n : Nat) : State :=
  { s with
    pending := s.pending.insert n ∅
    answers := ((pendingOf s n).entries.map fun e => (e.2,Response.drained)) ++ s.answers }

def response (kind : Kind) (id : String) : Response :=
  match kind with
  | .text => .json id
  | .binary => .binary id

def serves : RelayRegistry.Pc → Bool
  | .serving _ _ => true
  | _ => false

/-- Where a call that waited too long looks for its id: in the map that it kept,
    or in that of the device as it is registered now. -/
def giveUpAt (s : State) (call : Call) : Option Nat :=
  match call.kind with
  | .text => call.device
  | .binary => (s.registry.devices.lookup call.serial).map RelayRegistry.Device.handler

def removeAt (s : State) (n : Option Nat) (id : String) : State :=
  match n with
  | some n => remove s n id
  | none => s

def step (s : State) : Action → Option State
  | .registry a =>
    if writes a && s.calls.any (·.pc.holdsLock) then none
    else
      (RelayRegistry.step s.registry a).map fun r =>
        (RelayRegistry.drains s.registry a).foldl drainPending { s with registry := r }
  | .call kind id serial =>
    -- request ids are UUIDs
    if ∀ call ∈ s.calls, call.id ≠ id then some { s with calls := s.calls ++ [⟨kind,id,serial,none,.starting⟩] } else none
  | .enlist c =>
    match s.calls[c]? with
    | some call =>
      if call.pc = .starting then
        match s.registry.devices.lookup call.serial with
        | some d =>
          if (pendingOf s d.handler).entries.length < maxPending then
            some { s with
              pending := s.pending.insert d.handler ((pendingOf s d.handler).insert call.id c)
              calls := s.calls.set c { call with device := some d.handler, pc := .sending } }
          else some (s.setPc c call (.refused .overloaded))
        | none => some (s.setPc c call (.refused .notFound))
      else none
    | none => none
  | .queued c =>
    match s.calls[c]? with
    | some call =>
      if call.pc = .sending ∧ call.device.all (· ∉ s.registry.closed) then some (s.setPc c call .waiting) else none
    | none => none
  | .sendFails c stalled =>
    match s.calls[c]? with
    | some call =>
      if call.pc = .sending ∧ (stalled ∨ call.device.any (· ∈ s.registry.closed)) then
        some (s.setPc c call (.failed (if stalled then .queueStalled else .sendFailed)))
      else none
    | none => none
  | .giveUp c =>
    match s.calls[c]? with
    | some call =>
      match call.pc with
      | .failed why => some ((removeAt s call.device call.id).setPc c call (.refused why))
      | _ => none
    | none => none
  | .receive c =>
    match s.calls[c]? with
    | some call =>
      match s.answers.lookup c with
      | some r => if call.pc = .waiting then some (s.setPc c call (.answered r)) else none
      | none => none
    | none => none
  | .lose c =>
    match s.calls[c]? with
    | some call =>
      if call.pc = .waiting ∧ s.answers.lookup c = none ∧ call.device.all (fun n => (pendingOf s n).lookup call.id = none) then
        some (s.setPc c call (.refused .connectionLost))
      else none
    | none => none
  | .timeout c =>
    match s.calls[c]? with
    | some call =>
      if call.pc = .waiting ∧ s.answers.lookup c = none then some (s.setPc c call .timedOut) else none
    | none => none
  | .cleanUp c =>
    match s.calls[c]? with
    | some call =>
      if call.pc = .timedOut then
        some ((removeAt s (giveUpAt s call) call.id).setPc c call (.refused .timeout))
      else none
    | none => none
  | .cancel c =>
    match s.calls[c]? with
    | some call => if call.pc.finished then none else some (s.setPc c call .cancelled)
    | none => none
  | .respond n kind id =>
    match s.registry.handlers[n]? with
    | some h =>
      -- a text frame with a colon in its id is for a client
      if serves h.pc ∧ (kind = .text → ':' ∉ id.toList) then
        match (pendingOf s n).lookup id with
        | some c => some { remove s n id with answers := (c,response kind id) :: s.answers }
        | none => some s
      else none
    | none => none

/-! ### Exactly once -/

/-- Every call is answered at most once and by its own response or an error, and
    the live connections' pending requests are those of calls that still wait. -/
structure Resolved (s : State) : Prop where
  once : (s.answers.map Prod.fst).Nodup
  own : ∀ c r, (c,r) ∈ s.answers → ∃ call, s.calls[c]? = some call ∧ (r = .drained ∨ r.carries call.id = true)
  result : ∀ (c : Nat) (call : Call) r, s.calls[c]? = some call → call.pc.result call.serial = some (.ok r) → (c,r) ∈ s.answers
  gone : ∀ (c : Nat) (call : Call), s.calls[c]? = some call → call.pc.finished = true →
    ∀ serial d, s.registry.devices.lookup serial = some d → (pendingOf s d.handler).lookup call.id = none
  waits : ∀ serial d id c, s.registry.devices.lookup serial = some d → (pendingOf s d.handler).lookup id = some c →
    ∃ call, s.calls[c]? = some call ∧ call.id = id ∧ call.pc.finished = false

/-- What a call returned it has returned. -/
def Settled (s t : State) : Prop :=
  ∀ (c : Nat) (call : Call), s.calls[c]? = some call → call.pc.finished = true → t.calls[c]? = some call

/-- A call is cancelled only when its id is not in the pending requests of the
    device that is registered. -/
def cancelsUnlisted (s : State) : Action → Bool
  | .cancel c =>
    match s.calls[c]? with
    | some call => (s.registry.devices.lookup call.serial).all fun d => (pendingOf s d.handler).lookup call.id = none
    | none => true
  | _ => true

/-! ### One step -/

/-- What a step can do. -/
inductive Move (s : State) : Action → State → Prop
  | registry {a r} (moved : RelayRegistry.step s.registry a = some r) :
    Move s (.registry a) ((RelayRegistry.drains s.registry a).foldl drainPending { s with registry := r })
  | call {kind id serial} (new : ∀ call ∈ s.calls, call.id ≠ id) :
    Move s (.call kind id serial) { s with calls := s.calls ++ [⟨kind,id,serial,none,.starting⟩] }
  | enlist {c call d} (at_ : s.calls[c]? = some call) (pc : call.pc = .starting)
    (there : s.registry.devices.lookup call.serial = some d) :
    Move s (.enlist c) { s with
      pending := s.pending.insert d.handler ((pendingOf s d.handler).insert call.id c)
      calls := s.calls.set c { call with device := some d.handler, pc := .sending } }
  | refuse {c call why} (at_ : s.calls[c]? = some call) (pc : call.pc = .starting) :
    Move s (.enlist c) (s.setPc c call (.refused why))
  | queued {c call} (at_ : s.calls[c]? = some call) (pc : call.pc = .sending) :
    Move s (.queued c) (s.setPc c call .waiting)
  | sendFails {c call stalled why} (at_ : s.calls[c]? = some call) (pc : call.pc = .sending) :
    Move s (.sendFails c stalled) (s.setPc c call (.failed why))
  | giveUp {c call why} (at_ : s.calls[c]? = some call) (pc : call.pc = .failed why) :
    Move s (.giveUp c) ((removeAt s call.device call.id).setPc c call (.refused why))
  | receive {c call r} (at_ : s.calls[c]? = some call) (answer : s.answers.lookup c = some r) (pc : call.pc = .waiting) :
    Move s (.receive c) (s.setPc c call (.answered r))
  | lose {c call} (at_ : s.calls[c]? = some call) (pc : call.pc = .waiting)
    (unlisted : ∀ n, call.device = some n → (pendingOf s n).lookup call.id = none) :
    Move s (.lose c) (s.setPc c call (.refused .connectionLost))
  | timeout {c call} (at_ : s.calls[c]? = some call) (pc : call.pc = .waiting) :
    Move s (.timeout c) (s.setPc c call .timedOut)
  | cleanUp {c call} (at_ : s.calls[c]? = some call) (pc : call.pc = .timedOut) :
    Move s (.cleanUp c) ((removeAt s (giveUpAt s call) call.id).setPc c call (.refused .timeout))
  | cancel {c call} (at_ : s.calls[c]? = some call) (active : call.pc.finished = false) :
    Move s (.cancel c) (s.setPc c call .cancelled)
  | respond {n kind id c} (listed : (pendingOf s n).lookup id = some c) :
    Move s (.respond n kind id) { remove s n id with answers := (c,response kind id) :: s.answers }
  | ignore {n kind id} : Move s (.respond n kind id) s

theorem step_move {s t : State} {a : Action} (stepped : step s a = some t) : Move s a t := by
  cases a with
  | registry a =>
    simp only [step,Option.ite_none_left_eq_some] at stepped
    obtain ⟨r,moved,rfl⟩ := Option.map_eq_some_iff.mp stepped.2
    exact .registry moved
  | call kind id serial =>
    simp only [step,Option.ite_none_right_eq_some,Option.some.injEq] at stepped
    obtain ⟨new,rfl⟩ := stepped
    exact .call new
  | enlist c =>
    simp only [step] at stepped
    split at stepped
    · next call at_ =>
      rw [Option.ite_none_right_eq_some] at stepped
      obtain ⟨pc,stepped⟩ := stepped
      split at stepped
      · next d there =>
        split at stepped
        · cases stepped; exact .enlist at_ pc there
        · cases stepped; exact .refuse at_ pc
      · cases stepped; exact .refuse at_ pc
    · cases stepped
  | queued c =>
    simp only [step] at stepped
    split at stepped
    · next call at_ =>
      simp only [Option.ite_none_right_eq_some,Option.some.injEq] at stepped
      obtain ⟨⟨pc,-⟩,rfl⟩ := stepped
      exact .queued at_ pc
    · cases stepped
  | sendFails c stalled =>
    simp only [step] at stepped
    split at stepped
    · next call at_ =>
      simp only [Option.ite_none_right_eq_some,Option.some.injEq] at stepped
      obtain ⟨⟨pc,-⟩,rfl⟩ := stepped
      exact .sendFails at_ pc
    · cases stepped
  | giveUp c =>
    simp only [step] at stepped
    split at stepped
    · next call at_ =>
      split at stepped
      · next why pc => cases stepped; exact .giveUp at_ pc
      · cases stepped
    · cases stepped
  | receive c =>
    simp only [step] at stepped
    split at stepped
    · next call at_ =>
      split at stepped
      · next r answer =>
        simp only [Option.ite_none_right_eq_some,Option.some.injEq] at stepped
        obtain ⟨pc,rfl⟩ := stepped
        exact .receive at_ answer pc
      · cases stepped
    · cases stepped
  | lose c =>
    simp only [step] at stepped
    split at stepped
    · next call at_ =>
      simp only [Option.ite_none_right_eq_some,Option.some.injEq] at stepped
      obtain ⟨⟨pc,-,unlisted⟩,rfl⟩ := stepped
      refine .lose at_ pc ?_
      intro n device
      simpa [device] using unlisted
    · cases stepped
  | timeout c =>
    simp only [step] at stepped
    split at stepped
    · next call at_ =>
      simp only [Option.ite_none_right_eq_some,Option.some.injEq] at stepped
      obtain ⟨⟨pc,-⟩,rfl⟩ := stepped
      exact .timeout at_ pc
    · cases stepped
  | cleanUp c =>
    simp only [step] at stepped
    split at stepped
    · next call at_ =>
      simp only [Option.ite_none_right_eq_some,Option.some.injEq] at stepped
      obtain ⟨pc,rfl⟩ := stepped
      exact .cleanUp at_ pc
    · cases stepped
  | cancel c =>
    simp only [step] at stepped
    split at stepped
    · next call at_ =>
      simp only [Option.ite_none_left_eq_some,Option.some.injEq,Bool.not_eq_true] at stepped
      obtain ⟨active,rfl⟩ := stepped
      exact .cancel at_ active
    · cases stepped
  | respond n kind id =>
    simp only [step] at stepped
    split at stepped
    · rw [Option.ite_none_right_eq_some] at stepped
      obtain ⟨-,stepped⟩ := stepped
      split at stepped
      · next c listed => cases stepped; exact .respond listed
      · cases stepped; exact .ignore
    · cases stepped

/-! ### Pending requests -/

theorem pendingOf_insert (s : State) (n k : Nat) (ids : Table String Nat) :
    ((s.pending.insert n ids).lookup k).getD ∅ = if k = n then ids else pendingOf s k := by
  rw [Table.lookup_insert_eq]
  split_ifs <;> rfl

theorem pending_remove {s : State} {n k c : Nat} {id id' : String}
    (listed : (pendingOf (remove s n id) k).lookup id' = some c) :
    (pendingOf s k).lookup id' = some c ∧ ¬ (k = n ∧ id' = id) := by
  rw [pendingOf,remove,pendingOf_insert] at listed
  split_ifs at listed with same
  · subst same
    rw [Table.lookup_erase_eq] at listed
    split_ifs at listed with mine
    exact ⟨listed,fun both => mine both.2⟩
  · exact ⟨listed,fun both => same both.1⟩

theorem pending_removeAt {s : State} {n : Option Nat} {k c : Nat} {id id' : String}
    (listed : (pendingOf (removeAt s n id) k).lookup id' = some c) :
    (pendingOf s k).lookup id' = some c ∧ ¬ (n = some k ∧ id' = id) := by
  cases n with
  | none => exact ⟨listed,fun both => by cases both.1⟩
  | some n =>
    obtain ⟨before,other⟩ := pending_remove listed
    refine ⟨before,?_⟩
    rintro ⟨same,mine⟩
    cases same
    exact other ⟨rfl,mine⟩

theorem pending_drain {s : State} {n k c : Nat} {id : String}
    (listed : (pendingOf (drainPending s n) k).lookup id = some c) : (pendingOf s k).lookup id = some c ∧ k ≠ n := by
  rw [pendingOf,drainPending,pendingOf_insert] at listed
  split_ifs at listed with same
  · cases listed
  · exact ⟨listed,same⟩

/-- What one drained connection keeps, all of them keep. -/
theorem drains_keep {P : State → Prop} (keeps : ∀ u n, P u → P (drainPending u n)) (ns : List Nat) {u : State}
    (here : P u) : P (ns.foldl drainPending u) := by
  induction ns generalizing u with
  | nil => exact here
  | cons n rest ih => exact ih (keeps u n here)

@[simp] theorem removeAt_calls (s : State) (n : Option Nat) (id : String) : (removeAt s n id).calls = s.calls := by
  cases n <;> rfl

@[simp] theorem removeAt_registry (s : State) (n : Option Nat) (id : String) :
    (removeAt s n id).registry = s.registry := by
  cases n <;> rfl

/-- What holds of calls, pending requests and answers whatever happens. -/
structure Kept (s : State) : Prop where
  entered : RelayRegistry.Entered s.registry
  distinct : ∀ (c c' : Nat) (call call' : Call), s.calls[c]? = some call → s.calls[c']? = some call' →
    call.id = call'.id → c = c'
  listed : ∀ n id c, (pendingOf s n).lookup id = some c →
    c ∉ s.answers.map Prod.fst ∧ ∃ call, s.calls[c]? = some call ∧ call.id = id ∧ call.device = some n
  device : ∀ (c : Nat) (call : Call) n, s.calls[c]? = some call → call.device = some n →
    ∃ h, s.registry.handlers[n]? = some h ∧ h.serial = call.serial ∧ h.pc.entered = true
  starting : ∀ (c : Nat) (call : Call), s.calls[c]? = some call → call.pc = .starting → call.device = none
  once : (s.answers.map Prod.fst).Nodup
  own : ∀ c r, (c,r) ∈ s.answers →
    ∃ call, s.calls[c]? = some call ∧ call.device ≠ none ∧ (r = .drained ∨ r.carries call.id = true)
  result : ∀ (c : Nat) (call : Call) r, s.calls[c]? = some call → call.pc.result call.serial = some (.ok r) → (c,r) ∈ s.answers

theorem kept_start (heartbeatTimeoutSecs : Nat) : Kept (start heartbeatTimeoutSecs) := by
  refine ⟨RelayRegistry.entered_start _,?_,?_,?_,?_,List.nodup_nil,?_,?_⟩
  · intro c c' call call' there; simp [start] at there
  · intro n id c listed; cases listed
  · intro c call n there; simp [start] at there
  · intro c call there; simp [start] at there
  · intro c r member; cases member
  · intro c call r there; simp [start] at there

/-- The calls that a connection's pending requests wait for are different ones. -/
theorem drained_nodup {s : State} (kept : Kept s) (n : Nat) : ((pendingOf s n).entries.map fun e => e.2).Nodup := by
  refine List.Nodup.map_on ?_ (pendingOf s n).nodupKeys.nodup
  rintro ⟨id,c⟩ first ⟨id',c'⟩ second same
  cases same
  obtain ⟨-,call,at_,rfl,-⟩ := kept.listed n id c (Table.lookup_eq_some_iff.mpr first)
  obtain ⟨-,call',at_',rfl,-⟩ := kept.listed n id' c (Table.lookup_eq_some_iff.mpr second)
  cases at_.symm.trans at_'
  rfl

theorem kept_drain {s : State} (kept : Kept s) (n : Nat) : Kept (drainPending s n) := by
  have drained : (drainPending s n).answers.map Prod.fst =
      ((pendingOf s n).entries.map fun e => e.2) ++ s.answers.map Prod.fst := by
    simp [drainPending,Function.comp_def]
  refine ⟨kept.entered,kept.distinct,?_,kept.device,kept.starting,?_,?_,?_⟩
  · intro k id c listed
    obtain ⟨before,other⟩ := pending_drain listed
    obtain ⟨unanswered,call,at_,same,device⟩ := kept.listed k id c before
    refine ⟨?_,call,at_,same,device⟩
    rw [drained,List.mem_append]
    rintro (here | earlier)
    · obtain ⟨⟨id',c'⟩,member,rfl⟩ := List.mem_map.mp here
      obtain ⟨-,call',at_',-,device'⟩ := kept.listed n id' _ (Table.lookup_eq_some_iff.mpr member)
      cases at_.symm.trans at_'
      exact other (Option.some.inj (device.symm.trans device'))
    · exact unanswered earlier
  · rw [drained,List.nodup_append]
    refine ⟨drained_nodup kept n,kept.once,?_⟩
    rintro c here c' earlier rfl
    obtain ⟨⟨id,c'⟩,member,rfl⟩ := List.mem_map.mp here
    exact (kept.listed n id _ (Table.lookup_eq_some_iff.mpr member)).1 earlier
  · intro c r member
    rcases List.mem_append.mp member with here | earlier
    · obtain ⟨⟨id,c'⟩,entry,same⟩ := List.mem_map.mp here
      cases same
      obtain ⟨-,call,at_,-,device⟩ := kept.listed n id _ (Table.lookup_eq_some_iff.mpr entry)
      exact ⟨call,at_,by rw [device]; simp,.inl rfl⟩
    · exact kept.own c r earlier
  · intro c call r at_ returned
    exact List.mem_append_right _ (kept.result c call r at_ returned)

theorem kept_registry {s : State} (kept : Kept s) {a : RelayRegistry.Action} {r : Registry}
    (moved : RelayRegistry.step s.registry a = some r) : Kept { s with registry := r } := by
  refine ⟨RelayRegistry.entered_step kept.entered moved,kept.distinct,kept.listed,?_,kept.starting,kept.once,kept.own,
    kept.result⟩
  intro c call n at_ device
  obtain ⟨h,there,serial,entered⟩ := kept.device c call n at_ device
  obtain ⟨pc,after,stays⟩ := RelayRegistry.handler_after moved there
  exact ⟨_,after,serial,stays entered⟩

theorem kept_removeAt {s : State} (kept : Kept s) (n : Option Nat) (id : String) : Kept (removeAt s n id) := by
  cases n with
  | none => exact kept
  | some n =>
    refine ⟨kept.entered,kept.distinct,?_,kept.device,kept.starting,kept.once,kept.own,kept.result⟩
    intro k id' c listed
    exact kept.listed k id' c (pending_remove listed).1

/-! ### Calls -/

theorem call_before {s : State} {c c' : Nat} {call call' : Call} {pc : Pc} (at_ : s.calls[c]? = some call)
    (there : (s.setPc c call pc).calls[c']? = some call') :
    ∃ before, s.calls[c']? = some before ∧ call' = { before with pc := if c' = c then pc else before.pc } := by
  change (s.calls.set c { call with pc := pc })[c']? = some call' at there
  rw [Tasks.getElem?_set_eq at_] at there
  by_cases same : c' = c
  · subst same
    rw [if_pos rfl] at there
    cases there
    exact ⟨call,at_,by rw [if_pos rfl]⟩
  · rw [if_neg same] at there
    exact ⟨call',there,by rw [if_neg same]⟩

theorem call_after {s : State} {c c' : Nat} {call before : Call} {pc : Pc} (at_ : s.calls[c]? = some call)
    (there : s.calls[c']? = some before) :
    (s.setPc c call pc).calls[c']? = some { before with pc := if c' = c then pc else before.pc } := by
  change (s.calls.set c { call with pc := pc })[c']? = _
  rw [Tasks.getElem?_set_eq at_]
  by_cases same : c' = c
  · subst same
    cases at_.symm.trans there
    rw [if_pos rfl,if_pos rfl]
  · rw [if_neg same,if_neg same,there]

theorem kept_setPc {s : State} (kept : Kept s) {c : Nat} {call : Call} {pc : Pc} (at_ : s.calls[c]? = some call)
    (started : pc ≠ .starting) (result : ∀ r, pc.result call.serial = some (.ok r) → (c,r) ∈ s.answers) :
    Kept (s.setPc c call pc) := by
  refine ⟨kept.entered,?_,?_,?_,?_,kept.once,?_,?_⟩
  · intro c₁ c₂ call₁ call₂ first second same
    obtain ⟨before₁,at₁,rfl⟩ := call_before at_ first
    obtain ⟨before₂,at₂,rfl⟩ := call_before at_ second
    exact kept.distinct c₁ c₂ before₁ before₂ at₁ at₂ same
  · intro n id c' listed
    obtain ⟨unanswered,call',at',same,device⟩ := kept.listed n id c' listed
    exact ⟨unanswered,_,call_after at_ at',same,device⟩
  · intro c' call' n there device
    obtain ⟨before,at',rfl⟩ := call_before at_ there
    exact kept.device c' before n at' device
  · intro c' call' there starts
    obtain ⟨before,at',rfl⟩ := call_before at_ there
    by_cases same : c' = c
    · rw [if_pos same] at starts; exact absurd starts started
    · rw [if_neg same] at starts; exact kept.starting c' before at' starts
  · intro c' r member
    obtain ⟨call',at',own⟩ := kept.own c' r member
    exact ⟨_,call_after at_ at',own⟩
  · intro c' call' r there returned
    obtain ⟨before,at',rfl⟩ := call_before at_ there
    by_cases same : c' = c
    · subst same
      cases at_.symm.trans at'
      rw [if_pos rfl] at returned
      exact result r returned
    · rw [if_neg same] at returned; exact kept.result c' before r at' returned

theorem kept_call {s : State} (kept : Kept s) {kind : Kind} {id serial : String} (new : ∀ call ∈ s.calls, call.id ≠ id) :
    Kept { s with calls := s.calls ++ [⟨kind,id,serial,none,.starting⟩] } := by
  have before : ∀ {c : Nat} {call : Call}, (s.calls ++ [(⟨kind,id,serial,none,.starting⟩ : Call)])[c]? = some call →
      s.calls[c]? = some call ∨ c = s.calls.length ∧ call = ⟨kind,id,serial,none,.starting⟩ := by
    intro c call there
    by_cases bound : c < s.calls.length
    · rw [List.getElem?_append_left bound] at there
      exact .inl there
    · rw [List.getElem?_append_right (Nat.not_lt.mp bound),List.getElem?_singleton] at there
      split_ifs at there
      cases there
      exact .inr ⟨by omega,rfl⟩
  have after : ∀ {c : Nat} {call : Call}, s.calls[c]? = some call →
      (s.calls ++ [(⟨kind,id,serial,none,.starting⟩ : Call)])[c]? = some call := by
    intro c call there
    rw [List.getElem?_append_left (List.getElem?_eq_some_iff.mp there).1]
    exact there
  refine ⟨kept.entered,?_,?_,?_,?_,kept.once,?_,?_⟩
  · intro c c' call call' first second same
    rcases before first with at_ | ⟨rfl,rfl⟩ <;> rcases before second with at' | ⟨rfl,rfl⟩
    · exact kept.distinct c c' call call' at_ at' same
    · exact absurd same (new call (List.mem_of_getElem? at_))
    · exact absurd same.symm (new call' (List.mem_of_getElem? at'))
    · rfl
  · intro n id' c listed
    obtain ⟨unanswered,call,at_,same⟩ := kept.listed n id' c listed
    exact ⟨unanswered,call,after at_,same⟩
  · intro c call n there device
    rcases before there with at_ | ⟨rfl,rfl⟩
    · exact kept.device c call n at_ device
    · cases device
  · intro c call there starts
    rcases before there with at_ | ⟨rfl,rfl⟩
    · exact kept.starting c call at_ starts
    · rfl
  · intro c r member
    obtain ⟨call,at_,own⟩ := kept.own c r member
    exact ⟨call,after at_,own⟩
  · intro c call r there returned
    rcases before there with at_ | ⟨rfl,rfl⟩
    · exact kept.result c call r at_ returned
    · cases returned

/-- A call that starts is not listed anywhere and was not answered. -/
theorem kept_enlist {s : State} (kept : Kept s) {c : Nat} {call : Call} {d : RelayRegistry.Device}
    (at_ : s.calls[c]? = some call) (pc : call.pc = .starting)
    (there : s.registry.devices.lookup call.serial = some d) :
    Kept { s with
      pending := s.pending.insert d.handler ((pendingOf s d.handler).insert call.id c)
      calls := s.calls.set c { call with device := some d.handler, pc := .sending } } := by
  have homeless := kept.starting c call at_ pc
  have calls := Tasks.getElem?_set_eq at_ ({ call with device := some d.handler, pc := .sending } : Call)
  have unanswered : c ∉ s.answers.map Prod.fst := by
    intro member
    obtain ⟨⟨c',r⟩,answer,rfl⟩ := List.mem_map.mp member
    obtain ⟨call',at',housed,-⟩ := kept.own _ r answer
    cases at_.symm.trans at'
    exact housed homeless
  refine ⟨kept.entered,?_,?_,?_,?_,kept.once,?_,?_⟩
  · intro c₁ c₂ call₁ call₂ first second same
    simp only [calls] at first second
    split_ifs at first second with one two
    · exact one.trans two.symm
    · cases first
      exact one.trans (kept.distinct c c₂ call call₂ at_ second same)
    · cases second
      exact (kept.distinct c₁ c call₁ call first at_ same).trans (by assumption : c₂ = c).symm
    · exact kept.distinct c₁ c₂ call₁ call₂ first second same
  · intro n id c' listed
    rw [pendingOf,pendingOf_insert] at listed
    have earlier : (pendingOf s n).lookup id = some c' →
        c' ∉ s.answers.map Prod.fst ∧
          ∃ call', (s.calls.set c { call with device := some d.handler, pc := .sending })[c']? = some call' ∧
            call'.id = id ∧ call'.device = some n := by
      intro before
      obtain ⟨open_,call',at',same,device⟩ := kept.listed n id c' before
      refine ⟨open_,call',?_,same,device⟩
      rw [calls,if_neg]
      · exact at'
      · rintro rfl
        cases at_.symm.trans at'
        cases homeless.symm.trans device
    split_ifs at listed with here
    · subst here
      rw [Table.lookup_insert_eq] at listed
      split_ifs at listed with mine
      · cases listed
        have entered := calls c
        rw [if_pos rfl] at entered
        exact ⟨unanswered,_,entered,mine.symm,rfl⟩
      · exact earlier listed
    · exact earlier listed
  · intro c' call' n found device
    simp only [calls] at found
    split_ifs at found
    · cases found
      cases device
      obtain ⟨h,at',serial,entered⟩ := kept.entered.entry call.serial d there
      exact ⟨h,at',serial,entered⟩
    · exact kept.device c' call' n found device
  · intro c' call' found starts
    simp only [calls] at found
    split_ifs at found
    · cases found; cases starts
    · exact kept.starting c' call' found starts
  · intro c' r member
    obtain ⟨call',at',own⟩ := kept.own c' r member
    refine ⟨call',?_,own⟩
    rw [calls,if_neg]
    · exact at'
    · rintro rfl
      exact unanswered (List.mem_map_of_mem member)
  · intro c' call' r found returned
    simp only [calls] at found
    split_ifs at found
    · cases found; cases returned
    · exact kept.result c' call' r found returned

theorem kept_respond {s : State} (kept : Kept s) {n c : Nat} {kind : Kind} {id : String}
    (listed : (pendingOf s n).lookup id = some c) :
    Kept { remove s n id with answers := (c,response kind id) :: s.answers } := by
  obtain ⟨unanswered,call,at_,rfl,device⟩ := kept.listed n id c listed
  refine ⟨kept.entered,kept.distinct,?_,kept.device,kept.starting,?_,?_,?_⟩
  · intro k id' c' there
    obtain ⟨before,other⟩ := pending_remove there
    obtain ⟨open_,call',at',same,device'⟩ := kept.listed k id' c' before
    refine ⟨?_,call',at',same,device'⟩
    rintro (_ | ⟨_,member⟩)
    · cases at_.symm.trans at'
      cases device.symm.trans device'
      exact other ⟨rfl,same.symm⟩
    · exact open_ member
  · exact List.nodup_cons.mpr ⟨unanswered,kept.once⟩
  · intro c' r member
    rcases List.mem_cons.mp member with same | earlier
    · cases same
      refine ⟨call,at_,by rw [device]; simp,.inr ?_⟩
      cases kind <;> simp [response,Response.carries]
    · exact kept.own c' r earlier
  · intro c' call' r there returned
    exact List.mem_cons_of_mem _ (kept.result c' call' r there returned)

theorem kept_step {s t : State} {a : Action} (kept : Kept s) (stepped : step s a = some t) : Kept t := by
  cases step_move stepped with
  | @registry a r moved =>
    exact drains_keep (P := Kept) (fun u n here => kept_drain here n) _ (kept_registry kept moved)
  | call new => exact kept_call kept new
  | enlist at_ pc there => exact kept_enlist kept at_ pc there
  | refuse at_ => exact kept_setPc kept at_ (by simp) (by simp [Pc.result])
  | queued at_ => exact kept_setPc kept at_ (by simp) (by simp [Pc.result])
  | sendFails at_ => exact kept_setPc kept at_ (by simp) (by simp [Pc.result])
  | giveUp at_ => exact kept_setPc (kept_removeAt kept _ _) (by simpa using at_) (by simp) (by simp [Pc.result])
  | receive at_ answer =>
    refine kept_setPc kept at_ (by simp) ?_
    rintro r ⟨⟩
    exact Table.mem_of_lookup answer
  | lose at_ => exact kept_setPc kept at_ (by simp) (by simp [Pc.result])
  | timeout at_ => exact kept_setPc kept at_ (by simp) (by simp [Pc.result])
  | cleanUp at_ => exact kept_setPc (kept_removeAt kept _ _) (by simpa using at_) (by simp) (by simp [Pc.result])
  | cancel at_ => exact kept_setPc kept at_ (by simp) (by simp [Pc.result])
  | respond listed => exact kept_respond kept listed
  | ignore => exact kept

/-! ### Live connections -/

/-- The pending requests of live connections belong to calls that still wait. -/
def Waits (s : State) : Prop :=
  ∀ serial d id c call, s.registry.devices.lookup serial = some d → (pendingOf s d.handler).lookup id = some c →
    s.calls[c]? = some call → call.pc.finished = false

theorem resolved_iff {s : State} (kept : Kept s) : Resolved s ↔ Waits s := by
  constructor
  · intro resolved serial d id c call there listed at_
    obtain ⟨call',at',-,active⟩ := resolved.waits serial d id c there listed
    cases at_.symm.trans at'
    exact active
  · intro waits
    refine ⟨kept.once,?_,kept.result,?_,?_⟩
    · intro c r member
      obtain ⟨call,at_,-,own⟩ := kept.own c r member
      exact ⟨call,at_,own⟩
    · intro c call at_ finished serial d there
      cases listed : (pendingOf s d.handler).lookup call.id with
      | none => rfl
      | some c' =>
        obtain ⟨-,call',at',same,-⟩ := kept.listed _ _ _ listed
        cases kept.distinct c c' call call' at_ at' same.symm
        have active := waits serial d call.id c call there listed at_
        cases finished.symm.trans active
    · intro serial d id c there listed
      obtain ⟨-,call,at_,same,-⟩ := kept.listed _ _ _ listed
      exact ⟨call,at_,same,waits serial d id c call there listed at_⟩

theorem waits_setPc {s : State} (waits : Waits s) {c : Nat} {call : Call} {pc : Pc} (at_ : s.calls[c]? = some call)
    (unlisted : pc.finished = true → ∀ serial d id, s.registry.devices.lookup serial = some d →
      (pendingOf s d.handler).lookup id ≠ some c) : Waits (s.setPc c call pc) := by
  intro serial d id c' call' there listed found
  obtain ⟨before,at',rfl⟩ := call_before at_ found
  by_cases same : c' = c
  · subst same
    simp only [if_pos]
    cases finished : pc.finished with
    | false => rfl
    | true => exact absurd listed (unlisted finished serial d id there)
  · simp only [if_neg same]
    exact waits serial d id c' before there listed at'

theorem waits_removeAt {s : State} (waits : Waits s) (n : Option Nat) (id : String) : Waits (removeAt s n id) := by
  intro serial d id' c call there listed at_
  rw [removeAt_registry] at there
  rw [removeAt_calls] at at_
  exact waits serial d id' c call there (pending_removeAt listed).1 at_

theorem waits_drain {s : State} (waits : Waits s) (n : Nat) : Waits (drainPending s n) :=
  fun serial d id c call there listed at_ => waits serial d id c call there (pending_drain listed).1 at_

/-- A connection that has just been entered has no pending requests yet. -/
theorem waits_registry {s : State} (kept : Kept s) (waits : Waits s) {a : RelayRegistry.Action} {r : Registry}
    (moved : RelayRegistry.step s.registry a = some r) : Waits { s with registry := r } := by
  intro serial d id c call there listed at_
  rcases RelayRegistry.device_after moved there with ⟨old,ms,before,rfl⟩ | ⟨n,h,number,maps,rfl,at',drawn,rfl,rfl⟩
  · exact waits serial old id c call before listed at_
  · obtain ⟨-,call',at'',-,device⟩ := kept.listed _ _ _ listed
    obtain ⟨h',found,-,entered⟩ := kept.device c call' n at'' device
    cases at'.symm.trans found
    rw [drawn] at entered
    cases entered

/-- A listed call is listed where it was admitted, and that is the device of its
    serial if it is registered at all. -/
theorem listed_at {s : State} (kept : Kept s) {c : Nat} {call : Call} (at_ : s.calls[c]? = some call) {serial id : String}
    {d : RelayRegistry.Device} (there : s.registry.devices.lookup serial = some d)
    (listed : (pendingOf s d.handler).lookup id = some c) :
    call.id = id ∧ call.device = some d.handler ∧ call.serial = serial := by
  obtain ⟨-,call',at',same,device⟩ := kept.listed _ _ _ listed
  cases at_.symm.trans at'
  obtain ⟨h,found,serial',-⟩ := kept.device c call d.handler at_ device
  obtain ⟨h',found',serial'',-⟩ := kept.entered.entry serial d there
  cases found.symm.trans found'
  exact ⟨same,device,serial'.symm.trans serial''⟩

theorem resolved_step {s t : State} {a : Action} (kept : Kept s) (resolved : Resolved s) (stepped : step s a = some t) :
    Resolved t ↔ cancelsUnlisted s a = true := by
  rw [resolved_iff (kept_step kept stepped)]
  have waits := (resolved_iff kept).mp resolved
  cases step_move stepped with
  | @cancel c call at_ active =>
    constructor
    · intro after
      simp only [cancelsUnlisted,at_]
      cases there : s.registry.devices.lookup call.serial with
      | none => rfl
      | some d =>
        cases listed : (pendingOf s d.handler).lookup call.id with
        | none => simp [listed]
        | some c' =>
          obtain ⟨-,call',at',same,-⟩ := kept.listed _ _ _ listed
          cases kept.distinct c c' call call' at_ at' same.symm
          have open_ := after call.serial d call.id c _ there listed (call_after at_ at_)
          rw [if_pos rfl] at open_
          cases open_
    · intro unlisted
      refine waits_setPc waits at_ ?_
      intro _ serial d id there listed
      obtain ⟨rfl,-,rfl⟩ := listed_at kept at_ there listed
      simp only [cancelsUnlisted,at_,there,Option.all_some,decide_eq_true_eq] at unlisted
      cases unlisted.symm.trans listed
  | @registry a r moved =>
    exact iff_of_true (drains_keep (P := Waits) (fun u n here => waits_drain here n) _ (waits_registry kept waits moved)) rfl
  | @call kind id serial new =>
    refine iff_of_true ?_ rfl
    intro serial' d id' c call there listed at_
    obtain ⟨-,call',at',-⟩ := kept.listed _ _ _ listed
    rw [List.getElem?_append_left (List.getElem?_eq_some_iff.mp at').1] at at_
    exact waits serial' d id' c call there listed at_
  | @enlist c call d at_ pc there =>
    refine iff_of_true ?_ rfl
    intro serial' d' id c' call' there' listed found
    simp only [Tasks.getElem?_set_eq at_] at found
    split_ifs at found with same
    · cases found; rfl
    · rw [pendingOf,pendingOf_insert] at listed
      split_ifs at listed with here
      · rw [Table.lookup_insert_eq] at listed
        split_ifs at listed
        · exact absurd (Option.some.inj listed).symm same
        · rw [← here] at listed
          exact waits serial' d' id c' call' there' listed found
      · exact waits serial' d' id c' call' there' listed found
  | @refuse c call why at_ pc =>
    refine iff_of_true (waits_setPc waits at_ ?_) rfl
    intro _ serial d id there listed
    cases (kept.starting c call at_ pc).symm.trans (listed_at kept at_ there listed).2.1
  | queued at_ => exact iff_of_true (waits_setPc waits at_ (by simp [Pc.finished])) rfl
  | sendFails at_ => exact iff_of_true (waits_setPc waits at_ (by simp [Pc.finished])) rfl
  | @giveUp c call why at_ pc =>
    refine iff_of_true (waits_setPc (waits_removeAt waits _ _) (by simpa using at_) ?_) rfl
    intro _ serial d id there listed
    rw [removeAt_registry] at there
    obtain ⟨before,other⟩ := pending_removeAt listed
    obtain ⟨same,device,-⟩ := listed_at kept at_ there before
    exact other ⟨device,same.symm⟩
  | @receive c call r at_ answer pc =>
    refine iff_of_true (waits_setPc waits at_ ?_) rfl
    intro _ serial d id there listed
    exact (kept.listed _ _ _ listed).1 (List.mem_map_of_mem (Table.mem_of_lookup answer))
  | @lose c call at_ pc unlisted =>
    refine iff_of_true (waits_setPc waits at_ ?_) rfl
    intro _ serial d id there listed
    obtain ⟨rfl,device,-⟩ := listed_at kept at_ there listed
    cases (unlisted _ device).symm.trans listed
  | timeout at_ => exact iff_of_true (waits_setPc waits at_ (by simp [Pc.finished])) rfl
  | @cleanUp c call at_ pc =>
    refine iff_of_true (waits_setPc (waits_removeAt waits _ _) (by simpa using at_) ?_) rfl
    intro _ serial d id there listed
    rw [removeAt_registry] at there
    obtain ⟨before,other⟩ := pending_removeAt listed
    obtain ⟨same,device,rfl⟩ := listed_at kept at_ there before
    refine other ⟨?_,same.symm⟩
    unfold giveUpAt
    cases call.kind with
    | text => exact device
    | binary => rw [there]; rfl
  | @respond n kind id c listed =>
    refine iff_of_true ?_ rfl
    intro serial d id' c' call there found at_
    exact waits serial d id' c' call there (pending_remove found).1 at_
  | ignore => exact iff_of_true waits rfl

/-! ### Runs -/

theorem settled_setPc {s : State} {c : Nat} {call : Call} (at_ : s.calls[c]? = some call) (pc : Pc)
    (active : call.pc.finished = false) : Settled s (s.setPc c call pc) := by
  intro c' call' there finished
  rw [call_after at_ there,if_neg]
  rintro rfl
  cases at_.symm.trans there
  cases active.symm.trans finished

theorem settled_step {s t : State} {a : Action} (stepped : step s a = some t) : Settled s t := by
  cases step_move stepped with
  | @registry a r moved =>
    intro c call at_ _
    exact drains_keep (P := fun u => u.calls[c]? = some call) (fun u n here => here) _ at_
  | call new =>
    intro c call at_ _
    rw [List.getElem?_append_left (List.getElem?_eq_some_iff.mp at_).1]
    exact at_
  | @enlist c call d at_ pc there =>
    intro c' call' at' finished
    simp only [Tasks.getElem?_set_eq at_]
    rw [if_neg]
    · exact at'
    · rintro rfl
      cases at_.symm.trans at'
      rw [pc] at finished
      cases finished
  | refuse at_ pc => exact settled_setPc at_ _ (by rw [pc]; rfl)
  | queued at_ pc => exact settled_setPc at_ _ (by rw [pc]; rfl)
  | sendFails at_ pc => exact settled_setPc at_ _ (by rw [pc]; rfl)
  | @giveUp c call why at_ pc =>
    have settled := settled_setPc (s := removeAt s call.device call.id) (by simpa using at_) (.refused why) (by rw [pc]; rfl)
    rwa [Settled,removeAt_calls] at settled
  | receive at_ _ pc => exact settled_setPc at_ _ (by rw [pc]; rfl)
  | lose at_ pc => exact settled_setPc at_ _ (by rw [pc]; rfl)
  | timeout at_ pc => exact settled_setPc at_ _ (by rw [pc]; rfl)
  | @cleanUp c call at_ pc =>
    have settled := settled_setPc (s := removeAt s (giveUpAt s call) call.id) (by simpa using at_) (.refused .timeout)
      (by rw [pc]; rfl)
    rwa [Settled,removeAt_calls] at settled
  | cancel at_ active => exact settled_setPc at_ _ active
  | respond => exact fun c call at_ _ => at_
  | ignore => exact fun c call at_ _ => at_

theorem resolved_start (heartbeatTimeoutSecs : Nat) : Resolved (start heartbeatTimeoutSecs) := by
  rw [resolved_iff (kept_start heartbeatTimeoutSecs)]
  intro serial d id c call there
  cases there

/-- Calls are answered at most once, by their own response or an error, return
    once, and leave nothing behind with a live connection, exactly when a call is
    cancelled only while its id is not in the pending requests. -/
theorem requests_resolved_iff (heartbeatTimeoutSecs : Nat) (as : List Action) :
    (Always step Resolved (start heartbeatTimeoutSecs) as ∧ Between step Settled (start heartbeatTimeoutSecs) as) ↔
      Along step (fun s a => cancelsUnlisted s a = true) (start heartbeatTimeoutSecs) as := by
  have settled : Between step Settled (start heartbeatTimeoutSecs) as := by
    refine between_of_steps ?_ ?_ ?_ _ _
    · intro s c call at_ _
      exact at_
    · intro s t u first second c call at_ finished
      exact second c call (first c call at_ finished) finished
    · intro s a t stepped
      exact settled_step stepped
  rw [and_iff_left settled]
  exact always_iff_along (fun s a t => kept_step) (fun s a t => resolved_step) (kept_start _) (resolved_start _)

/-- A call waits for the device, and the HTTP request that made it goes away. -/
def goesAway : List Action :=
  [.registry (.connect "d" "key"),.registry (.share 0),.registry (.draw 0),.registry (.insert 0),.call .text "r" "d",.enlist 0,
    .queued 0,.cancel 0]

theorem request_leaks :
    ∃ t, run step (start 20) goesAway = some t ∧ t.calls = [⟨.text,"r","d",some 0,.cancelled⟩] ∧
      (t.registry.devices.lookup "d").map RelayRegistry.Device.handler = some 0 ∧
      (pendingOf t 0).lookup "r" = some 0 ∧ ¬ Always step Resolved (start 20) goesAway := by
  have known : (run step (start 20) goesAway).map (fun t =>
      (t.calls,t.registry.devices.lookup "d",(pendingOf t 0).lookup "r")) =
      some ([⟨.text,"r","d",some 0,.cancelled⟩],some ⟨1,"key",0,0,0⟩,some 0) := by decide +kernel
  obtain ⟨t,ran,facts⟩ := Option.map_eq_some_iff.mp known
  simp only [Prod.mk.injEq] at facts
  obtain ⟨calls,there,listed⟩ := facts
  refine ⟨t,ran,calls,by rw [there]; rfl,listed,?_⟩
  intro all
  have missing := (always_last all ran).gone 0 _ (by rw [calls]; rfl) rfl "d" _ there
  cases missing.symm.trans listed

end Sctl.RelayRequests
