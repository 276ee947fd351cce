import Sctl.Runs
import Sctl.Tables

/-!
The handlers of session messages on a tunnel connection (`tunnel/client.rs`).
Every message of the relay is handled in a task of its own. A handler that
starts or attaches to a session spawns the task that forwards the session's
output and then waits for the lock of `subscriber_tasks` to store its handle; an
attach takes the old handle out first, several waits earlier. A handle that is
overwritten is dropped, and its task runs on.
-/
namespace Sctl.TunnelHandlers
open Sctl.Runs

inductive Request
  /-- `session.start` or `job.start`. -/
  | start
  | attach (id : String)
  | detach (id : String)
  | kill (id : String)
deriving DecidableEq

/-- Where a handler stands, after the step it took last. -/
inductive Pc
  | waiting
  | created (id : String)
  | cleared
  | attached
  | killed
  /-- The subscriber runs and its handle is not stored yet. -/
  | holding (id : String) (task : Nat)
  | finished
deriving DecidableEq

structure Handler where
  request : Request
  pc : Pc
deriving DecidableEq

structure State where
  /-- The sessions that exist, with their `attached_count`. -/
  sessions : Table String Nat
  /-- Ids are drawn at random and never come twice. -/
  issued : List String
  /-- `subscriber_tasks`, by session. -/
  stored : Table String Nat
  /-- The subscriber tasks that run, with their session. -/
  live : Table Nat String
  nextTask : Nat
  handlers : List Handler
  closed : Bool

inductive Action
  | arrive (request : Request)
  | create (n : Nat) (id : String)
  | createFails (n : Nat)
  | clear (n : Nat)
  | attachShared (n : Nat)
  | spawn (n : Nat)
  | insert (n : Nat)
  | detach (n : Nat)
  | killSession (n : Nat)
  /-- A subscriber returns when the connection's writer is gone. -/
  | taskEnds (task : Nat)
  | reap
  /-- A session ends some other way. -/
  | sessionGone (id : String)
  /-- The connection is lost. -/
  | close

def start (sessions : Table String Nat) : State := ⟨sessions,sessions.keys,∅,∅,0,[],false⟩

def State.withPc (s : State) (n : Nat) (h : Handler) (pc : Pc) : State :=
  { s with handlers := s.handlers.set n { h with pc } }

/-- `subscriber_tasks.remove`, and the task is aborted. -/
def State.abortStored (s : State) (id : String) : State :=
  match s.stored.lookup id with
  | some task => { s with stored := s.stored.erase id, live := s.live.erase task }
  | none => s

/-- `tokio::spawn` of the subscriber. -/
def State.spawnTask (s : State) (id : String) : State :=
  { s with live := s.live.insert s.nextTask id, nextTask := s.nextTask + 1 }

def letGo (count : Nat) : Nat := count - 1

def isLive (live : Table Nat String) (task : Nat) : Bool := (live.lookup task).isSome

def abortAll (stored : Table String Nat) (live : Table Nat String) : Table Nat String :=
  Table.keep (fun task id => stored.lookup id ≠ some task) live

/-- The connection's cleanup aborts what is stored and detaches its sessions. -/
def State.cleanup (s : State) : State :=
  { s with
    live := abortAll s.stored s.live
    sessions := s.stored.keys.foldl (fun sessions id => Table.modify id letGo sessions) s.sessions
    closed := true }

def step (s : State) : Action → Option State
  | .arrive request => if s.closed then none else some { s with handlers := s.handlers ++ [⟨request,.waiting⟩] }
  | .create n id =>
    match s.handlers[n]? with
    | some h =>
      if h.request = .start ∧ h.pc = .waiting ∧ id ∉ s.issued then
        some { s with
          sessions := s.sessions.insert id 1, issued := id :: s.issued
          handlers := s.handlers.set n { h with pc := .created id } }
      else none
    | none => none
  | .createFails n =>
    match s.handlers[n]? with
    | some h => if h.request = .start ∧ h.pc = .waiting then some (s.withPc n h .finished) else none
    | none => none
  | .clear n =>
    match s.handlers[n]? with
    | some h =>
      match h.request, h.pc with
      | .attach id, .waiting => if id = "" then some (s.withPc n h .finished) else some ((s.abortStored id).withPc n h .cleared)
      | .detach id, .waiting => if id = "" then some (s.withPc n h .finished) else some ((s.abortStored id).withPc n h .cleared)
      | .kill id, .killed => some ((s.abortStored id).withPc n h .finished)
      | _, _ => none
    | none => none
  | .attachShared n =>
    match s.handlers[n]? with
    | some h =>
      match h.request, h.pc with
      | .attach id, .cleared =>
        match s.sessions.lookup id with
        | some _ => some ({ s with sessions := s.sessions.insert id 1 }.withPc n h .attached)
        | none => some (s.withPc n h .finished)
      | _, _ => none
    | none => none
  | .spawn n =>
    match s.handlers[n]? with
    | some h =>
      match h.request, h.pc with
      | .start, .created id =>
        match s.sessions.lookup id with
        | some _ => some ((s.spawnTask id).withPc n h (.holding id s.nextTask))
        | none => some (s.withPc n h .finished)
      | .attach id, .attached => some ((s.spawnTask id).withPc n h (.holding id s.nextTask))
      | _, _ => none
    | none => none
  | .insert n =>
    match s.handlers[n]? with
    | some h =>
      match h.pc with
      | .holding id task => some ({ s with stored := s.stored.insert id task }.withPc n h .finished)
      | _ => none
    | none => none
  | .detach n =>
    match s.handlers[n]? with
    | some h =>
      match h.request, h.pc with
      | .detach id, .cleared => some ({ s with sessions := Table.modify id letGo s.sessions }.withPc n h .finished)
      | _, _ => none
    | none => none
  | .killSession n =>
    match s.handlers[n]? with
    | some h =>
      match h.request, h.pc with
      | .kill id, .waiting =>
        if s.sessions.lookup id = none then some (s.withPc n h .finished)
        else some ({ s with sessions := s.sessions.erase id }.withPc n h .killed)
      | _, _ => none
    | none => none
  | .taskEnds task => some { s with live := s.live.erase task }
  | .reap => if s.closed then none else some { s with stored := Table.keep (fun _ task => isLive s.live task) s.stored }
  | .sessionGone id => some { s with sessions := s.sessions.erase id }
  | .close => if s.closed then none else some s.cleanup

/-! ### One subscriber a session -/

/-- The handler has spawned the task and is about to store it. -/
def Holds (s : State) (n : Nat) (id : String) (task : Nat) : Prop :=
  ∃ request, s.handlers[n]? = some ⟨request,.holding id task⟩

/-- No session has two subscribers, and every one is in `subscriber_tasks` as
    soon as the handler that spawned it is done. -/
structure OneSubscriber (s : State) : Prop where
  alone : ∀ task task' id, s.live.lookup task = some id → s.live.lookup task' = some id → task = task'
  stored : ∀ task id, s.live.lookup task = some id → s.stored.lookup id = some task ∨ ∃ n, Holds s n id task

def running (s : State) (id : String) : Bool := s.live.entries.any fun e => e.2 = id

/-- No subscriber of the session runs when a handler spawns one, and the handle
    that is overwritten when it is stored is not of a running one. -/
def spawnsAlone (s : State) : Action → Bool
  | .spawn n =>
    match s.handlers[n]? with
    | some h =>
      match h.request, h.pc with
      | .start, .created id => (s.sessions.lookup id).isNone || !running s id
      | .attach id, .attached => !running s id
      | _, _ => true
    | none => true
  | .insert n =>
    match s.handlers[n]? with
    | some h =>
      match h.pc with
      | .holding id _ => (s.stored.lookup id).all fun old => !isLive s.live old
      | _ => true
    | none => true
  | _ => true

/-! ### One step -/

/-- What a step can do: one case for each way through a handler. -/
inductive Move (s : State) : Action → State → Prop
  | arrive {request} (up : s.closed = false) :
    Move s (.arrive request) { s with handlers := s.handlers ++ [⟨request,.waiting⟩] }
  | create {n id} (found : s.handlers[n]? = some ⟨.start,.waiting⟩) (fresh : id ∉ s.issued) :
    Move s (.create n id) { s with
      sessions := s.sessions.insert id 1, issued := id :: s.issued
      handlers := s.handlers.set n ⟨.start,.created id⟩ }
  | createFails {n} (found : s.handlers[n]? = some ⟨.start,.waiting⟩) :
    Move s (.createFails n) (s.withPc n ⟨.start,.waiting⟩ .finished)
  | nameless {n request} (found : s.handlers[n]? = some ⟨request,.waiting⟩)
    (which : request = .attach "" ∨ request = .detach "") : Move s (.clear n) (s.withPc n ⟨request,.waiting⟩ .finished)
  | clear {n id request} (found : s.handlers[n]? = some ⟨request,.waiting⟩)
    (which : request = .attach id ∨ request = .detach id) (named : id ≠ "") :
    Move s (.clear n) ((s.abortStored id).withPc n ⟨request,.waiting⟩ .cleared)
  | clearKilled {n id} (found : s.handlers[n]? = some ⟨.kill id,.killed⟩) :
    Move s (.clear n) ((s.abortStored id).withPc n ⟨.kill id,.killed⟩ .finished)
  | attachShared {n id count} (found : s.handlers[n]? = some ⟨.attach id,.cleared⟩)
    (session : s.sessions.lookup id = some count) :
    Move s (.attachShared n) ({ s with sessions := s.sessions.insert id 1 }.withPc n ⟨.attach id,.cleared⟩ .attached)
  | attachMissing {n id} (found : s.handlers[n]? = some ⟨.attach id,.cleared⟩) (missing : s.sessions.lookup id = none) :
    Move s (.attachShared n) (s.withPc n ⟨.attach id,.cleared⟩ .finished)
  | spawn {n id h} (found : s.handlers[n]? = some h)
    (which : h = ⟨.start,.created id⟩ ∧ s.sessions.lookup id ≠ none ∨ h = ⟨.attach id,.attached⟩) :
    Move s (.spawn n) ((s.spawnTask id).withPc n h (.holding id s.nextTask))
  | startGone {n id} (found : s.handlers[n]? = some ⟨.start,.created id⟩) (missing : s.sessions.lookup id = none) :
    Move s (.spawn n) (s.withPc n ⟨.start,.created id⟩ .finished)
  | insert {n id task request} (found : s.handlers[n]? = some ⟨request,.holding id task⟩) :
    Move s (.insert n) ({ s with stored := s.stored.insert id task }.withPc n ⟨request,.holding id task⟩ .finished)
  | detach {n id} (found : s.handlers[n]? = some ⟨.detach id,.cleared⟩) :
    Move s (.detach n) ({ s with sessions := Table.modify id letGo s.sessions }.withPc n ⟨.detach id,.cleared⟩ .finished)
  | killMissing {n id} (found : s.handlers[n]? = some ⟨.kill id,.waiting⟩) (missing : s.sessions.lookup id = none) :
    Move s (.killSession n) (s.withPc n ⟨.kill id,.waiting⟩ .finished)
  | kill {n id} (found : s.handlers[n]? = some ⟨.kill id,.waiting⟩) :
    Move s (.killSession n) ({ s with sessions := s.sessions.erase id }.withPc n ⟨.kill id,.waiting⟩ .killed)
  | taskEnds {task} : Move s (.taskEnds task) { s with live := s.live.erase task }
  | reap (up : s.closed = false) :
    Move s .reap { s with stored := Table.keep (fun _ task => isLive s.live task) s.stored }
  | sessionGone {id} : Move s (.sessionGone id) { s with sessions := s.sessions.erase id }
  | close (up : s.closed = false) : Move s .close s.cleanup

theorem step_move {s t : State} {a : Action} (stepped : step s a = some t) : Move s a t := by
  cases a with
  | arrive request =>
    simp only [step] at stepped
    split_ifs at stepped with closed
    cases stepped
    exact .arrive (by simpa using closed)
  | create n id =>
    simp only [step] at stepped
    split at stepped
    · next h found =>
      simp only [Option.ite_none_right_eq_some,Option.some.injEq] at stepped
      obtain ⟨⟨request,pc,fresh⟩,rfl⟩ := stepped
      obtain ⟨_,_⟩ := h
      cases request; cases pc
      exact .create found fresh
    · cases stepped
  | createFails n =>
    simp only [step] at stepped
    split at stepped
    · next h found =>
      simp only [Option.ite_none_right_eq_some,Option.some.injEq] at stepped
      obtain ⟨⟨request,pc⟩,rfl⟩ := stepped
      obtain ⟨_,_⟩ := h
      cases request; cases pc
      exact .createFails found
    · cases stepped
  | clear n =>
    simp only [step] at stepped
    split at stepped
    · next h found =>
      obtain ⟨_,_⟩ := h
      split at stepped
      · next id request pc =>
        cases request; cases pc
        split_ifs at stepped with nameless
        · cases stepped; subst nameless; exact .nameless found (.inl rfl)
        · cases stepped; exact .clear found (.inl rfl) nameless
      · next id request pc =>
        cases request; cases pc
        split_ifs at stepped with nameless
        · cases stepped; subst nameless; exact .nameless found (.inr rfl)
        · cases stepped; exact .clear found (.inr rfl) nameless
      · next id request pc =>
        cases request; cases pc; cases stepped
        exact .clearKilled found
      · cases stepped
    · cases stepped
  | attachShared n =>
    simp only [step] at stepped
    split at stepped
    · next h found =>
      obtain ⟨_,_⟩ := h
      split at stepped
      · next id request pc =>
        cases request; cases pc
        split at stepped
        · next session => cases stepped; exact .attachShared found session
        · next missing => cases stepped; exact .attachMissing found missing
      · cases stepped
    · cases stepped
  | spawn n =>
    simp only [step] at stepped
    split at stepped
    · next h found =>
      obtain ⟨_,_⟩ := h
      split at stepped
      · next id request pc =>
        cases request; cases pc
        split at stepped
        · next session => cases stepped; exact .spawn found (.inl ⟨rfl,by simp [session]⟩)
        · next missing => cases stepped; exact .startGone found missing
      · next id request pc =>
        cases request; cases pc; cases stepped
        exact .spawn found (.inr rfl)
      · cases stepped
    · cases stepped
  | insert n =>
    simp only [step] at stepped
    split at stepped
    · next h found =>
      obtain ⟨_,_⟩ := h
      split at stepped
      · next id task pc =>
        cases pc; cases stepped
        exact .insert found
      · cases stepped
    · cases stepped
  | detach n =>
    simp only [step] at stepped
    split at stepped
    · next h found =>
      obtain ⟨_,_⟩ := h
      split at stepped
      · next id request pc =>
        cases request; cases pc; cases stepped
        exact .detach found
      · cases stepped
    · cases stepped
  | killSession n =>
    simp only [step] at stepped
    split at stepped
    · next h found =>
      obtain ⟨_,_⟩ := h
      split at stepped
      · next id request pc =>
        cases request; cases pc
        split_ifs at stepped with missing
        · cases stepped; exact .killMissing found missing
        · cases stepped; exact .kill found
      · cases stepped
    · cases stepped
  | taskEnds task => cases stepped; exact .taskEnds
  | reap =>
    simp only [step] at stepped
    split_ifs at stepped with closed
    cases stepped
    exact .reap (by simpa using closed)
  | sessionGone id => cases stepped; exact .sessionGone
  | close =>
    simp only [step] at stepped
    split_ifs at stepped with closed
    cases stepped
    exact .close (by simpa using closed)

/-- A step that spawns nothing and stores nothing: subscribers only end, and
    one that goes on keeps its place. -/
structure Quiet (s t : State) : Prop where
  nextTask : t.nextTask = s.nextTask
  live : ∀ task id, t.live.lookup task = some id → s.live.lookup task = some id
  stored : ∀ id task, t.stored.lookup id = some task → s.stored.lookup id = some task
  kept : ∀ id task, t.live.lookup task = some id → s.stored.lookup id = some task → t.stored.lookup id = some task
  holds : ∀ n id task, Holds t n id task ↔ Holds s n id task

/-- A handler moves between two places where it holds nothing. -/
theorem holds_set {s t : State} {n : Nat} {h h' : Handler} (found : s.handlers[n]? = some h)
    (handlers : t.handlers = s.handlers.set n h') (before : ∀ id task, h.pc ≠ .holding id task)
    (after : ∀ id task, h'.pc ≠ .holding id task) (m : Nat) (id : String) (task : Nat) :
    Holds t m id task ↔ Holds s m id task := by
  simp only [Holds,handlers,Tasks.getElem?_set_eq found]
  by_cases same : m = n
  · subst same
    simp only [if_true,found,Option.some.injEq]
    constructor
    · rintro ⟨_,rfl⟩; exact absurd rfl (after id task)
    · rintro ⟨_,rfl⟩; exact absurd rfl (before id task)
  · simp only [same,if_false]

theorem quiet_withPc {s t : State} {n : Nat} {h h' : Handler} (found : s.handlers[n]? = some h)
    (handlers : t.handlers = s.handlers.set n h') (before : ∀ id task, h.pc ≠ .holding id task)
    (after : ∀ id task, h'.pc ≠ .holding id task) (nextTask : t.nextTask = s.nextTask) (live : t.live = s.live)
    (stored : t.stored = s.stored) : Quiet s t where
  nextTask := nextTask
  live _ _ going := live ▸ going
  stored _ _ there := stored ▸ there
  kept _ _ _ there := stored ▸ there
  holds := holds_set found handlers before after

theorem quiet_abort {s t : State} {id : String} {n : Nat} {h h' : Handler} (found : s.handlers[n]? = some h)
    (handlers : t.handlers = s.handlers.set n h') (before : ∀ id task, h.pc ≠ .holding id task)
    (after : ∀ id task, h'.pc ≠ .holding id task) (nextTask : t.nextTask = (s.abortStored id).nextTask)
    (live : t.live = (s.abortStored id).live) (stored : t.stored = (s.abortStored id).stored) : Quiet s t := by
  unfold State.abortStored at nextTask live stored
  split at nextTask
  · next task there =>
    simp only [there] at live stored
    refine ⟨nextTask,?_,?_,?_,holds_set found handlers before after⟩
    · intro task' id' going
      rw [live,Table.lookup_erase_eq] at going
      split_ifs at going
      exact going
    · intro id' task' at_
      rw [stored,Table.lookup_erase_eq] at at_
      split_ifs at at_
      exact at_
    · intro id' task' going at_
      rw [live,Table.lookup_erase_eq] at going
      split_ifs at going with differs
      rw [stored,Table.lookup_erase_eq,if_neg]
      · exact at_
      · rintro rfl; exact differs (Option.some.inj (at_.symm.trans there))
  · next missing =>
    simp only [missing] at live stored
    exact quiet_withPc found handlers before after nextTask live stored

/-- All moves but two are quiet. -/
theorem move_cases {s t : State} {a : Action} (move : Move s a t) :
    (Quiet s t ∧ spawnsAlone s a = true) ∨
    (∃ n id h, a = .spawn n ∧ s.handlers[n]? = some h ∧ (∀ id task, h.pc ≠ .holding id task) ∧
      (spawnsAlone s a = true ↔ running s id = false) ∧
      t = (s.spawnTask id).withPc n h (.holding id s.nextTask)) ∨
    (∃ n id task request, a = .insert n ∧ s.handlers[n]? = some ⟨request,.holding id task⟩ ∧
      t = { s with stored := s.stored.insert id task }.withPc n ⟨request,.holding id task⟩ .finished) := by
  cases move with
  | arrive up =>
    refine .inl ⟨⟨rfl,fun _ _ => id,fun _ _ => id,fun _ _ _ => id,?_⟩,rfl⟩
    intro n id task
    simp only [Holds,List.getElem?_append]
    split_ifs with old
    · exact Iff.rfl
    · simp only [List.getElem?_eq_none (Nat.le_of_not_lt old)]
      constructor
      · rintro ⟨_,new⟩
        have member := List.mem_of_getElem? new
        simp at member
      · rintro ⟨_,there⟩; cases there
  | create found fresh => exact .inl ⟨quiet_withPc found rfl (by simp) (by simp) rfl rfl rfl,rfl⟩
  | createFails found => exact .inl ⟨quiet_withPc found rfl (by simp) (by simp) rfl rfl rfl,rfl⟩
  | nameless found which => exact .inl ⟨quiet_withPc found rfl (by simp) (by simp) rfl rfl rfl,rfl⟩
  | @clear n id request found which named =>
    refine .inl ⟨@quiet_abort s _ id n _ ⟨request,.cleared⟩ found ?_ (by simp) (by simp) rfl rfl rfl,rfl⟩
    unfold State.abortStored; split <;> rfl
  | @clearKilled n id found =>
    refine .inl ⟨@quiet_abort s _ id n _ ⟨.kill id,.finished⟩ found ?_ (by simp) (by simp) rfl rfl rfl,rfl⟩
    unfold State.abortStored; split <;> rfl
  | attachShared found session => exact .inl ⟨quiet_withPc found rfl (by simp) (by simp) rfl rfl rfl,rfl⟩
  | attachMissing found missing => exact .inl ⟨quiet_withPc found rfl (by simp) (by simp) rfl rfl rfl,rfl⟩
  | @spawn n id h found which =>
    right; left
    refine ⟨n,id,h,rfl,found,?_,?_,rfl⟩
    · obtain ⟨rfl,-⟩ | rfl := which <;> simp
    · obtain ⟨rfl,session⟩ | rfl := which
      · simp [spawnsAlone,found,session]
      · simp [spawnsAlone,found]
  | startGone found missing =>
    exact .inl ⟨quiet_withPc found rfl (by simp) (by simp) rfl rfl rfl,by simp [spawnsAlone,found,missing]⟩
  | @insert n id task request found => right; right; exact ⟨n,id,task,request,rfl,found,rfl⟩
  | detach found => exact .inl ⟨quiet_withPc found rfl (by simp) (by simp) rfl rfl rfl,rfl⟩
  | killMissing found missing => exact .inl ⟨quiet_withPc found rfl (by simp) (by simp) rfl rfl rfl,rfl⟩
  | kill found => exact .inl ⟨quiet_withPc found rfl (by simp) (by simp) rfl rfl rfl,rfl⟩
  | @taskEnds task =>
    refine .inl ⟨⟨rfl,?_,fun _ _ => id,fun _ _ _ => id,fun _ _ _ => Iff.rfl⟩,rfl⟩
    intro task' id going
    rw [Table.lookup_erase_eq] at going
    split_ifs at going
    exact going
  | reap up =>
    refine .inl ⟨⟨rfl,fun _ _ => id,fun _ _ at_ => (Table.lookup_keep_iff.mp at_).1,?_,fun _ _ _ => Iff.rfl⟩,rfl⟩
    intro id task going at_
    exact Table.lookup_keep_iff.mpr ⟨at_,by simp [isLive,going]⟩
  | sessionGone => exact .inl ⟨⟨rfl,fun _ _ => id,fun _ _ => id,fun _ _ _ => id,fun _ _ _ => Iff.rfl⟩,rfl⟩
  | close up =>
    exact .inl ⟨⟨rfl,fun _ _ going => (Table.lookup_keep_iff.mp going).1,fun _ _ => id,fun _ _ _ => id,fun _ _ _ => Iff.rfl⟩,rfl⟩

/-- Handles are numbered as they are made; one is held or stored, not both, and
    stands for a task of its own session. -/
structure Numbered (s : State) : Prop where
  live : ∀ task id, s.live.lookup task = some id → task < s.nextTask
  stored : ∀ id task, s.stored.lookup id = some task → task < s.nextTask ∧ ∀ id', s.live.lookup task = some id' → id' = id
  held : ∀ n id task, Holds s n id task → task < s.nextTask ∧ (∀ id', s.live.lookup task = some id' → id' = id) ∧
    ∀ id', s.stored.lookup id' ≠ some task
  once : ∀ n n' id id' task, Holds s n id task → Holds s n' id' task → n = n'

theorem numbered_quiet {s t : State} (numbered : Numbered s) (quiet : Quiet s t) : Numbered t where
  live task id going := by
    rw [quiet.nextTask]; exact numbered.live task id (quiet.live task id going)
  stored id task there := by
    obtain ⟨bound,own⟩ := numbered.stored id task (quiet.stored id task there)
    rw [quiet.nextTask]
    exact ⟨bound,fun id' going => own id' (quiet.live task id' going)⟩
  held n id task holds := by
    obtain ⟨bound,own,apart⟩ := numbered.held n id task ((quiet.holds n id task).mp holds)
    rw [quiet.nextTask]
    exact ⟨bound,fun id' going => own id' (quiet.live task id' going),fun id' there => apart id' (quiet.stored id' task there)⟩
  once n n' id id' task first second :=
    numbered.once n n' id id' task ((quiet.holds n id task).mp first) ((quiet.holds n' id' task).mp second)

theorem one_quiet {s t : State} (one : OneSubscriber s) (quiet : Quiet s t) : OneSubscriber t where
  alone task task' id first second := one.alone task task' id (quiet.live task id first) (quiet.live task' id second)
  stored task id going := by
    rcases one.stored task id (quiet.live task id going) with there | ⟨n,holds⟩
    · exact .inl (quiet.kept id task going there)
    · exact .inr ⟨n,(quiet.holds n id task).mpr holds⟩

theorem holds_spawn {s : State} {n : Nat} {id : String} {h : Handler} (found : s.handlers[n]? = some h) (m : Nat)
    (id' : String) (task : Nat) :
    Holds ((s.spawnTask id).withPc n h (.holding id s.nextTask)) m id' task ↔
      if m = n then id' = id ∧ task = s.nextTask else Holds s m id' task := by
  simp only [Holds,State.withPc,State.spawnTask,Tasks.getElem?_set_eq found]
  by_cases same : m = n
  · simp only [same,if_true,Option.some.injEq,Handler.mk.injEq,Pc.holding.injEq]
    constructor
    · rintro ⟨_,-,rfl,rfl⟩; exact ⟨rfl,rfl⟩
    · rintro ⟨rfl,rfl⟩; exact ⟨h.request,rfl,rfl,rfl⟩
  · simp only [same,if_false]

theorem live_spawn (s : State) (n : Nat) (id : String) (h : Handler) (pc : Pc) (task : Nat) :
    ((s.spawnTask id).withPc n h pc).live.lookup task =
      if task = s.nextTask then some id else s.live.lookup task := by
  show (s.live.insert s.nextTask id).lookup task = _
  rw [Table.lookup_insert_eq]

theorem numbered_spawn {s : State} {n : Nat} {id : String} {h : Handler} (numbered : Numbered s)
    (found : s.handlers[n]? = some h) : Numbered ((s.spawnTask id).withPc n h (.holding id s.nextTask)) := by
  have next : ((s.spawnTask id).withPc n h (.holding id s.nextTask)).nextTask = s.nextTask + 1 := rfl
  refine ⟨?_,?_,?_,?_⟩
  · intro task id' going
    rw [live_spawn] at going
    rw [next]
    split_ifs at going with new
    · omega
    · have bound := numbered.live task id' going
      omega
  · intro id' task there
    obtain ⟨bound,own⟩ := numbered.stored id' task there
    refine ⟨by rw [next]; omega,?_⟩
    intro id'' going
    rw [live_spawn,if_neg (by omega)] at going
    exact own id'' going
  · intro m id' task holds
    rw [holds_spawn found] at holds
    split_ifs at holds with same
    · obtain ⟨rfl,rfl⟩ := holds
      refine ⟨by rw [next]; omega,?_,?_⟩
      · intro id'' going
        rw [live_spawn,if_pos rfl] at going
        exact (Option.some.inj going).symm
      · intro id'' there
        have bound := (numbered.stored id'' s.nextTask there).1
        omega
    · obtain ⟨bound,own,apart⟩ := numbered.held m id' task holds
      refine ⟨by rw [next]; omega,?_,apart⟩
      intro id'' going
      rw [live_spawn,if_neg (by omega)] at going
      exact own id'' going
  · intro m m' id' id'' task first second
    rw [holds_spawn found] at first second
    split_ifs at first second with same same'
    · omega
    · have bound := (numbered.held m' id'' task second).1
      omega
    · have bound := (numbered.held m id' task first).1
      omega
    · exact numbered.once m m' id' id'' task first second

theorem running_iff {s : State} {id : String} : running s id = true ↔ ∃ task, s.live.lookup task = some id := by
  simp only [running,List.any_eq_true,decide_eq_true_eq]
  constructor
  · rintro ⟨⟨task,id'⟩,member,rfl⟩; exact ⟨task,Table.lookup_eq_some_iff.mpr member⟩
  · rintro ⟨task,going⟩; exact ⟨⟨task,id⟩,Table.lookup_eq_some_iff.mp going,rfl⟩

/-- A spawn leaves one subscriber exactly when none was running. -/
theorem one_spawn {s : State} {n : Nat} {id : String} {h : Handler} (numbered : Numbered s) (one : OneSubscriber s)
    (found : s.handlers[n]? = some h) (free : ∀ id task, h.pc ≠ .holding id task) :
    OneSubscriber ((s.spawnTask id).withPc n h (.holding id s.nextTask)) ↔ running s id = false := by
  rw [← Bool.not_eq_true,running_iff]
  constructor
  · rintro after ⟨task,going⟩
    have bound := numbered.live task id going
    have same := after.alone task s.nextTask id (by rw [live_spawn,if_neg (by omega)]; exact going) (by rw [live_spawn,if_pos rfl])
    omega
  · intro none_
    refine ⟨?_,?_⟩
    · intro task task' id' first second
      rw [live_spawn] at first second
      split_ifs at first second with new new' new'
      · omega
      · cases first; exact absurd ⟨task',second⟩ none_
      · cases second; exact absurd ⟨task,first⟩ none_
      · exact one.alone task task' id' first second
    · intro task id' going
      rw [live_spawn] at going
      split_ifs at going with new
      · cases going
        exact .inr ⟨n,(holds_spawn found n id task).mpr (by simp [new])⟩
      · rcases one.stored task id' going with there | ⟨m,holds⟩
        · exact .inl there
        · refine .inr ⟨m,(holds_spawn found m id' task).mpr ?_⟩
          rw [if_neg]
          · exact holds
          · rintro rfl
            obtain ⟨_,there⟩ := holds
            cases found.symm.trans there
            exact free id' task rfl

theorem holds_insert {s : State} {n : Nat} {id : String} {task : Nat} {request : Request}
    (found : s.handlers[n]? = some ⟨request,.holding id task⟩) (m : Nat) (id' : String) (task' : Nat) :
    Holds ({ s with stored := s.stored.insert id task }.withPc n ⟨request,.holding id task⟩ .finished) m id' task' ↔
      m ≠ n ∧ Holds s m id' task' := by
  simp only [Holds,State.withPc,Tasks.getElem?_set_eq found]
  by_cases same : m = n
  · simp [same]
  · simp [same]

theorem stored_insert (s : State) (n : Nat) (id id' : String) (task : Nat) (h : Handler) (pc : Pc) :
    ({ s with stored := s.stored.insert id task }.withPc n h pc).stored.lookup id' =
      if id' = id then some task else s.stored.lookup id' := by
  show (s.stored.insert id task).lookup id' = _
  rw [Table.lookup_insert_eq]

theorem numbered_insert {s : State} {n : Nat} {id : String} {task : Nat} {request : Request} (numbered : Numbered s)
    (found : s.handlers[n]? = some ⟨request,.holding id task⟩) :
    Numbered ({ s with stored := s.stored.insert id task }.withPc n ⟨request,.holding id task⟩ .finished) := by
  have mine : Holds s n id task := ⟨request,found⟩
  refine ⟨numbered.live,?_,?_,?_⟩
  · intro id' task' there
    rw [stored_insert] at there
    split_ifs at there with same
    · cases there; subst same
      have held := numbered.held n id' task mine
      exact ⟨held.1,held.2.1⟩
    · exact numbered.stored id' task' there
  · intro m id' task' holds
    obtain ⟨differs,old⟩ := (holds_insert found m id' task').mp holds
    obtain ⟨bound,own,apart⟩ := numbered.held m id' task' old
    refine ⟨bound,own,?_⟩
    intro id'' there
    rw [stored_insert] at there
    split_ifs at there
    · cases there; exact differs (numbered.once m n id' id task old mine)
    · exact apart id'' there
  · intro m m' id' id'' task' first second
    exact numbered.once m m' id' id'' task' ((holds_insert found m id' task').mp first).2
      ((holds_insert found m' id'' task').mp second).2

/-- Storing a handle keeps every subscriber in its place exactly when the handle
    it overwrites is not of a running one. -/
theorem one_insert {s : State} {n : Nat} {id : String} {task : Nat} {request : Request} (numbered : Numbered s)
    (one : OneSubscriber s) (found : s.handlers[n]? = some ⟨request,.holding id task⟩) :
    OneSubscriber ({ s with stored := s.stored.insert id task }.withPc n ⟨request,.holding id task⟩ .finished) ↔
      spawnsAlone s (.insert n) = true := by
  have mine : Holds s n id task := ⟨request,found⟩
  simp only [spawnsAlone,found,Option.all_eq_true,Bool.not_eq_true',isLive,Option.isSome_eq_false_iff,Option.isNone_iff_eq_none]
  constructor
  · intro after old there
    by_contra going
    obtain ⟨id',going⟩ := Option.ne_none_iff_exists'.mp going
    have own := (numbered.stored id old there).2 id' going
    subst own
    rcases after.stored old id' going with stored | ⟨m,holds⟩
    · rw [stored_insert,if_pos rfl] at stored
      cases stored
      exact (numbered.held n id' task mine).2.2 id' there
    · exact (numbered.held m id' old ((holds_insert found m id' old).mp holds).2).2.2 id' there
  · intro free
    refine ⟨one.alone,?_⟩
    intro task' id' going
    rw [stored_insert]
    rcases one.stored task' id' going with there | ⟨m,holds⟩
    · split_ifs with same
      · subst same; cases (free task' there).symm.trans going
      · exact .inl there
    · by_cases same : m = n
      · subst same
        obtain ⟨_,at_⟩ := holds
        cases found.symm.trans at_
        simp
      · exact .inr ⟨m,(holds_insert found m id' task').mpr ⟨same,holds⟩⟩

theorem numbered_step {s t : State} {a : Action} (numbered : Numbered s) (stepped : step s a = some t) : Numbered t := by
  rcases move_cases (step_move stepped) with ⟨quiet,-⟩ | ⟨n,id,h,-,found,-,-,rfl⟩ | ⟨n,id,task,request,-,found,rfl⟩
  · exact numbered_quiet numbered quiet
  · exact numbered_spawn numbered found
  · exact numbered_insert numbered found

theorem one_step {s t : State} {a : Action} (numbered : Numbered s) (one : OneSubscriber s) (stepped : step s a = some t) :
    OneSubscriber t ↔ spawnsAlone s a = true := by
  rcases move_cases (step_move stepped) with ⟨quiet,alone⟩ | ⟨n,id,h,rfl,found,free,alone,rfl⟩ | ⟨n,id,task,request,rfl,found,rfl⟩
  · exact ⟨fun _ => alone,fun _ => one_quiet one quiet⟩
  · rw [alone]; exact one_spawn numbered one found free
  · exact one_insert numbered one found

theorem numbered_start (sessions : Table String Nat) : Numbered (start sessions) := by
  refine ⟨?_,?_,?_,?_⟩
  · intro task id going; cases going
  · intro id task there; cases there
  · rintro n id task ⟨_,found⟩; simp [start] at found
  · rintro n n' id id' task ⟨_,found⟩; simp [start] at found

theorem one_start (sessions : Table String Nat) : OneSubscriber (start sessions) := by
  refine ⟨?_,?_⟩
  · intro task task' id going; cases going
  · intro task id going; cases going

/-- Every session has one subscriber at most, and every subscriber's handle is
    stored, exactly in the runs in which none is spawned beside a running one. -/
theorem one_subscriber_iff (sessions : Table String Nat) (as : List Action) :
    Always step OneSubscriber (start sessions) as ↔
      Along step (fun s a => spawnsAlone s a = true) (start sessions) as :=
  always_iff_along (fun _ _ _ => numbered_step) (fun _ _ _ => one_step) (numbered_start sessions) (one_start sessions)

/-- A session is attached to twice and detached from, one handler after another. -/
def attachedInTurn : List Action :=
  [.arrive (.attach "s"),.arrive (.attach "s"),.clear 0,.attachShared 0,.spawn 0,.insert 0,.clear 1,.attachShared 1,.spawn 1,
    .insert 1,.reap,.arrive (.detach "s"),.clear 2,.detach 2]

/-- Two attaches overlap; the detach that follows finds one of the two subscribers. -/
def attachedAtOnce : List Action :=
  [.arrive (.attach "s"),.arrive (.attach "s"),.clear 0,.clear 1,.attachShared 0,.attachShared 1,.spawn 0,.spawn 1,.insert 0,
    .insert 1,.arrive (.detach "s"),.clear 2,.detach 2]

example : Always step OneSubscriber (start (AList.insert "s" 0 ∅)) attachedInTurn :=
  (always_iff_along (fun _ _ _ => numbered_step) (fun _ _ _ => one_step) (numbered_start _) (one_start _)).mpr
    (by decide +kernel)

theorem subscriber_untracked :
    (run step (start (AList.insert "s" 0 ∅)) (attachedAtOnce.take 10)).map (fun t =>
      (t.handlers.map Handler.pc,t.live.lookup 0,t.live.lookup 1,t.stored.lookup "s")) =
      some ([.finished,.finished],some "s",some "s",some 1) ∧
    (run step (start (AList.insert "s" 0 ∅)) attachedAtOnce).map (fun t =>
      (t.handlers.map Handler.pc,t.live.lookup 0,t.stored.lookup "s")) =
      some ([.finished,.finished,.finished],some "s",none) ∧
    ¬ Always step OneSubscriber (start (AList.insert "s" 0 ∅)) attachedAtOnce := by
  refine ⟨by decide +kernel,by decide +kernel,?_⟩
  intro all
  have known : (run step (start (AList.insert "s" 0 ∅)) attachedAtOnce).map (fun t =>
      (t.handlers,t.live.lookup 0,t.stored.lookup "s")) =
      some ([⟨.attach "s",.finished⟩,⟨.attach "s",.finished⟩,⟨.detach "s",.finished⟩],some "s",none) := by decide +kernel
  obtain ⟨t,ran,facts⟩ := Option.map_eq_some_iff.mp known
  simp only [Prod.mk.injEq] at facts
  obtain ⟨handlers,going,missing⟩ := facts
  rcases (always_last all ran).stored 0 "s" going with there | ⟨n,request,found⟩
  · rw [missing] at there; cases there
  · rw [handlers] at found
    have member := List.mem_of_getElem? found
    simp at member

end Sctl.TunnelHandlers
