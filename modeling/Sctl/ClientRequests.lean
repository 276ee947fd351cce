import Sctl.McpClient
import Sctl.Runs

/-!
The calls that wait for a reply: `start_session`, `list_sessions_remote` and
`set_ai_status`. A call clears the slot of its kind, registers with the slot's
waiters, sends and waits; when it is notified it takes what is in the slot, and
`start_session` then creates the buffer of the session. The device answers in
the order of the requests. The I/O loop dispatches one message after another:
it writes a slot first and notifies all its waiters after that. These are
separate steps, and those of any number of calls come in any order.
-/
namespace Sctl.ClientRequests
open Sctl.McpClient Sctl.Runs

inductive Phase
  | cleared
  | registered (notified : Bool)
  | waiting (notified : Bool)
  /-- `start_session` has a message and has yet to create the buffer. -/
  | took (m : Message)
  | returned (result : Option Message)
deriving DecidableEq

structure Call where
  kind : Slot
  phase : Phase
deriving DecidableEq

structure State where
  connection : Connection
  calls : List Call
  /-- The requests that the device has yet to answer, by kind and number of the call. -/
  requests : List (Slot × Nat)
  wire : List Message
  /-- The slot that was written and whose waiters have yet to be notified. -/
  notifying : Option Slot
  /-- The buffers as they were if the dispatcher created them. -/
  ideal : Table String SessionBuffer

inductive Action
  | call (kind : Slot)
  | register (i : Nat)
  | send (i : Nat)
  | sendFails (i : Nat)
  | timeout (i : Nat)
  | wake (i : Nat)
  | insert (i : Nat)
  /-- The device answers the oldest request. -/
  | answer (m : Message)
  /-- It sends what answers none of these requests. -/
  | tell (m : Message)
  | dispatch
  | notify

def start : State := ⟨⟨∅,fun _ => none⟩,[],[],[],none,∅⟩

/-- The request that a message answers. -/
def request? : Message → Option Nat
  | .started _ _ request => some request
  | .listed request => some request
  | .aiStatusAck _ request => some request
  | .error _ _ request => request
  | _ => none

/-- A message is a reply to this kind of request. -/
def answers : Slot → Message → Bool
  | .start, .started _ _ _ => true
  | .list, .listed _ => true
  | .aiStatus, .aiStatusAck _ _ => true
  | _, .error _ _ _ => true
  | _, _ => false

/-- `notified` completes also when it is notified before it is awaited. -/
def Call.notify (slot : Slot) (c : Call) : Call :=
  if c.kind = slot then
    match c.phase with
    | .registered _ => { c with phase := .registered true }
    | .waiting _ => { c with phase := .waiting true }
    | _ => c
  else c

/-- A call of this kind with what it took from the slot. -/
def takes : Slot → Option Message → Phase
  | .start, some m => .took m
  | .aiStatus, some (.error _ _ _) => .returned none
  | _, result => .returned result

def bufferFor (pty : Option Bool) : SessionBuffer := { SessionBuffer.new with isPty := pty.getD false }

/-- A reply that names a session gets it a buffer. -/
def insertBuffer (sessions : Table String SessionBuffer) : Message → Table String SessionBuffer
  | .started (some sessionId) pty _ => sessions.insert sessionId (bufferFor pty)
  | _ => sessions

/-- What a message does to the buffers when the first one of a session is created at once. -/
def receiveAll (ideal : Table String SessionBuffer) (m : Message) : Table String SessionBuffer :=
  match m, m.session? with
  | .started (some sessionId) pty _, _ =>
    if (ideal.lookup sessionId).isSome then ideal else ideal.insert sessionId (bufferFor pty)
  | _, some sessionId => Table.modify sessionId (fun b => b.receive m) ideal
  | _, none => ideal

def setPhase (s : State) (i : Nat) (kind : Slot) (phase : Phase) : State := { s with calls := s.calls.set i ⟨kind,phase⟩ }

def step (s : State) : Action → Option State
  | .call kind =>
    some { s with connection := s.connection.setResult kind none, calls := s.calls ++ [⟨kind,.cleared⟩] }
  | .register i =>
    match s.calls[i]? with
    | some ⟨kind,.cleared⟩ => some (setPhase s i kind (.registered false))
    | _ => none
  | .send i =>
    match s.calls[i]? with
    | some ⟨kind,.registered notified⟩ =>
      some { setPhase s i kind (.waiting notified) with requests := s.requests ++ [(kind,i)] }
    | _ => none
  | .sendFails i =>
    match s.calls[i]? with
    | some ⟨kind,.registered _⟩ => some (setPhase s i kind (.returned none))
    | _ => none
  | .timeout i =>
    match s.calls[i]? with
    | some ⟨kind,.waiting false⟩ => some (setPhase s i kind (.returned none))
    | _ => none
  | .wake i =>
    match s.calls[i]? with
    | some ⟨kind,.waiting true⟩ =>
      some { setPhase s i kind (takes kind (s.connection.results kind)) with connection := s.connection.setResult kind none }
    | _ => none
  | .insert i =>
    match s.calls[i]? with
    | some ⟨kind,.took m⟩ =>
      some { setPhase s i kind (.returned (some m)) with
        connection := { s.connection with sessions := insertBuffer s.connection.sessions m } }
    | _ => none
  | .answer m =>
    match s.requests with
    | (kind,i) :: rest =>
      if request? m = some i ∧ answers kind m = true then some { s with requests := rest, wire := s.wire ++ [m] } else none
    | [] => none
  | .tell m => if request? m = none then some { s with wire := s.wire ++ [m] } else none
  | .dispatch =>
    match s.notifying, s.wire with
    | none, m :: rest =>
      some { s with
        connection := (dispatchMessage s.connection m).1
        wire := rest
        notifying := (dispatchMessage s.connection m).2
        ideal := receiveAll s.ideal m }
    | _, _ => none
  | .notify =>
    match s.notifying with
    | some slot => some { s with notifying := none, calls := s.calls.map (Call.notify slot) }
    | none => none

end Sctl.ClientRequests
