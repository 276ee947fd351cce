import Sctl.McpClient
import Sctl.SessionManager

/-!
What the device sends a client on a WebSocket (`ws/mod.rs`): the replies to the
client's own messages, from what the session manager answers, and the broadcasts
about what others do. A job tells that it exited; an interactive session only
adds a line to its output.
-/
namespace Sctl.DeviceReplies
open Sctl.McpClient Sctl.SessionBuffer Sctl.SessionManager Sctl.Subscribers
open Sctl.Readers (SessionStatus)

/-- `get_status`, without the exit code. -/
def statusOf (device : Sessions) (id : String) : Option SessionStatus := (device.lookup id).map fun e => e.session.status

/-- What is done to the process of a session, and can fail there. -/
inductive Operate
  | exec
  | stdin
  | signal
  | resize
deriving DecidableEq

inductive Request
  /-- `session.start` or `job.start`; the device chooses the id. -/
  | start (request : Nat) (id : String) (creation : Creation)
  | operate (operation : Operate) (id : String) (failed : Bool)
  | kill (id : String)
  | attach (id : String) (since : Nat)
  | rename (id name : String)
  | allowAi (id : String) (allowed : Bool)
  | aiStatus (request : Nat) (id : String) (working : Bool) (activity message : Option String)
  /-- Not JSON, of an unknown type, or without a field that is required. -/
  | invalid (code : String)

def sessionError (code id : String) : Message := .error code (some id) none

/-- Only a PTY can be resized. -/
def operateFails (operation : Operate) (failed : Bool) (e : SessionEntry) : Bool :=
  match operation with
  | .resize => e.session.io ≠ .pty || failed
  | _ => failed

def operateAck : Operate → List Message
  | .stdin => []
  | _ => [.other]

/-- A session that does not exist fails, too. -/
def operateReply (device : Sessions) (operation : Operate) (id : String) (failed : Bool) : List Message :=
  if (device.lookup id).all (operateFails operation failed) then [sessionError "SESSION_ERROR" id]
  else operateAck operation

def operateTouches (device : Sessions) (now : Nat) (id : String) : Operate → Sessions
  | .exec => touchAiActivity device now id
  | .stdin => touchAiActivity device now id
  | _ => device

def handle (maxSessions now : Nat) (device : Sessions) : Request → List Message × Sessions
  | .start request id creation =>
    match createSession maxSessions device now id creation with
    | (.ok id,device) => ([.started (some id) (some (creation.session.io = .pty)) request,.other],device)
    | (.error _,device) => ([.error "SESSION_LIMIT" none (some request)],device)
  | .operate operation id failed => (operateReply device operation id failed,operateTouches device now id operation)
  | .kill id =>
    ([if (killSession device id).1 then .closed id else sessionError "SESSION_NOT_FOUND" id,.other],(killSession device id).2)
  | .attach id since =>
    match attach device now id with
    | (some buffer,device) =>
      ([.attached id none none none (some ((buffer.readSince since).1.map fun e => entryToWsMessage id e))],device)
    | (none,device) => ([sessionError "SESSION_NOT_FOUND" id],device)
  | .rename id name =>
    match renameSession device id name with
    | (.ok _,device) => ([.other,.other],device)
    | (.error _,device) => ([sessionError "SESSION_NOT_FOUND" id],device)
  | .allowAi id allowed =>
    match setUserAllowsAi device id allowed with
    | (.ok _,device) => ([.other,.other],device)
    | (.error _,device) => ([sessionError "SESSION_NOT_FOUND" id],device)
  | .aiStatus request id working activity message =>
    match setAiStatus device now id working activity message with
    | (.ok _,device) => ([.aiStatusAck id request,.other],device)
    | (.error _,device) => ([.error "AI_NOT_ALLOWED" (some id) (some request)],device)
  | .invalid code => ([.error code none none],device)

/-- The session that a request names. -/
def named : Request → Option String
  | .start _ _ _ => none
  | .operate _ id _ => some id
  | .kill id => some id
  | .attach id _ => some id
  | .rename id _ => some id
  | .allowAi id _ => some id
  | .aiStatus _ id _ _ _ => some id
  | .invalid _ => none

def missingField : Request → List Message
  | .kill _ => []
  | .operate .stdin _ _ => []
  | _ => [.error "MISSING_FIELD" none none]

/-- An empty id counts as a missing field. -/
def handleMessage (maxSessions now : Nat) (device : Sessions) (r : Request) : List Message × Sessions :=
  if named r = some "" then (missingField r,device) else handle maxSessions now device r

def exitCodeOf : Except String (Option Int) → Int
  | .ok code => code.getD (-1)
  | .error _ => -1

/-- What every client gets when the operation is done. -/
def broadcast (device : Sessions) (a : SessionManager.Action) : List Message :=
  match a.operation with
  | .task id (.wait result _) =>
    if (device.lookup id).any fun e => e.kind = .job then [.exited id (some (exitCodeOf result))] else []
  | .sweep contested => (sweep device a.now contested).1.map fun _ => .other
  | .create _ _ => [.other]
  | .setUserAllowsAi _ _ => [.other]
  | .setAiStatus _ _ _ _ => [.other]
  | .renameSession _ _ => [.other]
  | .killSession _ => [.other]
  | _ => []

/-! ### Which sessions run -/

variable {device : Sessions} {id : String} {now : Nat}

theorem statusOf_insert (device : Sessions) (id other : String) (e : SessionEntry) :
    statusOf (device.insert id e) other = if other = id then some e.session.status else statusOf device other := by
  unfold statusOf
  rw [Table.lookup_insert_eq]
  split <;> rfl

theorem statusOf_erase (device : Sessions) (id other : String) :
    statusOf (device.erase id) other = if other = id then none else statusOf device other := by
  unfold statusOf
  rw [Table.lookup_erase_eq]
  split <;> rfl

theorem statusOf_modify {f : SessionEntry → SessionEntry} (same : ∀ e, (f e).session.status = e.session.status) :
    statusOf (Table.modify id f device) = statusOf device := by
  funext other
  unfold statusOf
  rw [Table.lookup_modify]
  split
  · next here =>
    subst here
    cases device.lookup other with
    | none => rfl
    | some e => simp [same]
  · rfl

/-- An entry put back with its status. -/
theorem statusOf_update {e e' : SessionEntry} (found : device.lookup id = some e)
    (same : e'.session.status = e.session.status) : statusOf (device.insert id e') = statusOf device := by
  funext other
  rw [statusOf_insert]
  split
  · next here => rw [here,statusOf,found,same]; rfl
  · rfl

theorem statusOf_touch : statusOf (touchAiActivity device now id) = statusOf device :=
  statusOf_modify fun e => by split <;> rfl

theorem statusOf_operateTouches (operation : Operate) : statusOf (operateTouches device now id operation) = statusOf device := by
  cases operation with
  | exec => exact statusOf_touch
  | stdin => exact statusOf_touch
  | signal => rfl
  | resize => rfl

theorem statusOf_attach : statusOf (attach device now id).2 = statusOf device := statusOf_modify fun _ => rfl

theorem statusOf_attachShared : statusOf (attachShared device now id).2 = statusOf device := statusOf_modify fun _ => rfl

theorem statusOf_detach : statusOf (detach device now id) = statusOf device := statusOf_modify fun _ => rfl

theorem statusOf_detachAll (ids : List String) : statusOf (detachAll device now ids) = statusOf device := by
  unfold detachAll
  induction ids generalizing device with
  | nil => rfl
  | cons id rest ih => rw [List.foldl_cons,ih,statusOf_detach]

theorem statusOf_rename (name : String) : statusOf (renameSession device id name).2 = statusOf device := by
  unfold renameSession
  split
  · next e found => exact statusOf_update found rfl
  · rfl

theorem statusOf_allowAi (allowed : Bool) : statusOf (setUserAllowsAi device id allowed).2 = statusOf device := by
  unfold setUserAllowsAi
  split
  · next e found => split <;> exact statusOf_update found rfl
  · rfl

theorem statusOf_aiStatus (working : Bool) (activity message : Option String) :
    statusOf (setAiStatus device now id working activity message).2 = statusOf device := by
  unfold setAiStatus
  split
  · next e found =>
    split
    · rfl
    · split <;> exact statusOf_update found rfl
  · rfl

theorem statusOf_create {maxSessions : Nat} {creation : Creation} {other : String} (apart : other ≠ id) :
    statusOf (createSession maxSessions device now id creation).2 other = statusOf device other := by
  unfold createSession
  split
  · rfl
  · rw [statusOf_insert,if_neg apart]

/-- A task of a session changes its status when it waits for the process. -/
theorem status_task {s t : Readers.ManagedSession} {a : Readers.Action} (stepped : Readers.ManagedSession.step s a = some t) :
    t.status = match a with
      | .wait _ _ => .exited
      | _ => s.status := by
  cases a with
  | read stream result now =>
    simp only [Readers.ManagedSession.step,Option.ite_none_right_eq_some,Option.some.injEq] at stepped
    obtain ⟨-,rfl⟩ := stepped
    unfold Readers.ManagedSession.readOutput
    split
    · cases stream <;> rfl
    · rfl
    · split
      · rfl
      · cases stream <;> rfl
  | wait result now =>
    simp only [Readers.ManagedSession.step,Option.ite_none_right_eq_some,Option.some.injEq] at stepped
    obtain ⟨-,rfl⟩ := stepped
    cases result <;> rfl
  | setJournal channel => cases stepped; rfl
  | abortTasks => cases stepped; rfl

/-- A sweep leaves the running sessions that are not idle for too long. -/
theorem statusOf_sweep (contested : List String) : statusOf (sweep device now contested).2 id = some .running ↔
    ∃ e, device.lookup id = some e ∧ e.session.status = .running ∧ idleExpired now e = false := by
  have cleared : ∀ e, (autoClear now e).session.status = e.session.status ∧ idleExpired now (autoClear now e) = idleExpired now e := by
    intro e
    unfold autoClear
    split <;> exact ⟨rfl,rfl⟩
  simp only [statusOf,sweep,Option.map_eq_some_iff,Table.lookup_keep_iff,Table.lookup_mapValues]
  constructor
  · rintro ⟨_,⟨⟨⟨e,found,rfl⟩,-⟩,stays⟩,running⟩
    rw [(cleared e).1] at running
    rw [(cleared e).2] at stays
    exact ⟨e,found,running,by simpa using stays⟩
  · rintro ⟨e,found,running,stays⟩
    refine ⟨autoClear now e,⟨⟨⟨e,found,rfl⟩,?_⟩,?_⟩,(cleared e).1.trans running⟩
    · simp [(cleared e).1,running]
    · simp [(cleared e).2,stays]

end Sctl.DeviceReplies
