import Sctl.ClientRequests
import Sctl.DeviceReplies

/-!
Whether a session is alive, on the device and at its client. The client takes a
session for dead when it is told that it exited or was closed, and at any error
that names it; it ignores the broadcast that a session was destroyed. The
device reports the end of a job as such and that of an interactive session not
at all, and it names the session also in errors about sessions that go on.
-/
namespace Sctl.ClientStatus
open Sctl.ClientRequests Sctl.DeviceReplies Sctl.McpClient Sctl.Runs Sctl.SessionManager
open Sctl.Readers (SessionStatus)

structure State where
  device : Sessions
  /-- The messages on the way to the client. -/
  wire : List Message
  connection : Connection

inductive Action
  /-- The device handles a message of the client. -/
  | request (now : Nat) (r : Request)
  /-- Other clients, the sweep or a task of a session. -/
  | others (a : SessionManager.Action)
  /-- `start_session` creates a buffer. -/
  | insert (id : String) (pty : Option Bool)
  /-- `attach_session` creates a buffer if there is none. -/
  | hold (id : String)
  | dispatch

/-- No session has an empty id. -/
def start (device : Sessions) : State := ⟨device.erase "",[],⟨∅,fun _ => none⟩⟩

def fresh (s : State) (id : String) : Bool :=
  id ≠ "" && (s.device.lookup id).isNone && (s.connection.sessions.lookup id).isNone

/-- Ids are never used again, and journals are read before there are clients. -/
def permitted (s : State) : SessionManager.Operation → Bool
  | .create id _ => fresh s id
  | .recover _ _ => false
  | _ => true

def requestPermitted (s : State) : Request → Bool
  | .start _ id _ => fresh s id
  | _ => true

def holdBuffer (id : String) (sessions : Table String McpClient.SessionBuffer) : Table String McpClient.SessionBuffer :=
  if (sessions.lookup id).isSome then Table.modify id (fun b => { b with attached := false }) sessions
  else sessions.insert id .new

def step (maxSessions bufferSize : Nat) (s : State) : Action → Option State
  | .request now r =>
    let handled := handleMessage maxSessions now s.device r
    if requestPermitted s r then some { s with device := handled.2, wire := s.wire ++ handled.1 } else none
  | .others a =>
    if permitted s a.operation then
      (SessionManager.step maxSessions bufferSize s.device a).map fun device =>
        { s with device, wire := s.wire ++ broadcast s.device a }
    else none
  | .insert id pty =>
    some { s with connection := { s.connection with sessions := s.connection.sessions.insert id (bufferFor pty) } }
  | .hold id => some { s with connection := { s.connection with sessions := holdBuffer id s.connection.sessions } }
  | .dispatch =>
    match s.wire with
    | m :: rest => some { s with wire := rest, connection := (dispatchMessage s.connection m).1 }
    | [] => none

/-- The client when all that the device has sent is dispatched. -/
def drained (s : State) : Connection := s.wire.foldl (fun c m => (dispatchMessage c m).1) s.connection

/-- The process of a session has not ended, and the session is on the device. -/
def Alive (s : State) (id : String) : Prop := statusOf s.device id = some .running

/-- Once everything is dispatched, the sessions that the client takes for dead are those that are. -/
def Agreed (s : State) : Prop :=
  ∀ id b, (drained s).sessions.lookup id = some b → (b.status = .exited ↔ ¬ Alive s id)

/-! ### When the client takes a session for dead -/

/-- The client takes the session for dead when it gets the message. -/
def ends (id : String) (m : Message) : Bool :=
  m.session? = some id &&
    match m with
    | .exited _ _ => true
    | .closed _ => true
    | .error _ _ _ => true
    | _ => false

def Held (s : State) (id : String) : Prop := (s.connection.sessions.lookup id).isSome

/-- The end of the session is on the way. -/
def Ending (s : State) (id : String) : Prop := ∃ m ∈ s.wire, ends id m = true

/-- The end of a session that the client holds is one that it is told of, and no error names a
    session that goes on. A buffer is created for a session that is alive, or whose end is on the way. -/
def announced (s : State) : Action → Prop
  | .request _ (.operate operation id failed) =>
    Held s id → Alive s id → ∀ e, s.device.lookup id = some e → operateFails operation failed e = false
  | .others a =>
    match a.operation with
    | .task id (.wait _ _) => Held s id → Alive s id → ∀ e, s.device.lookup id = some e → e.kind = .job
    | .killSession id => Held s id → ¬ Alive s id
    | .killAll => ∀ id, Held s id → ¬ Alive s id
    | .sweep _ => ∀ id e, Held s id → s.device.lookup id = some e → e.session.status = .running → idleExpired a.now e = false
    | _ => True
  | .insert id _ => Alive s id ↔ ¬ Ending s id
  | .hold id => Held s id ∨ (Alive s id ↔ ¬ Ending s id)
  | _ => True

/-- The replies to an attach do not tell the status. -/
def plain : Message → Bool
  | .attached _ (some _) _ _ _ => false
  | _ => true

theorem status_foldl_push (b : McpClient.SessionBuffer) (entries : List SessionBuffer.OutputEntry) :
    (entries.foldl McpClient.SessionBuffer.push b).status = b.status := by
  induction entries generalizing b with
  | nil => rfl
  | cons entry rest ih => rw [List.foldl_cons,ih]; rfl

theorem receive_status {b : McpClient.SessionBuffer} {m : Message} {id : String} (simple : plain m = true)
    (own : m.session? = some id) : (b.receive m).status = if ends id m then .exited else b.status := by
  cases m with
  | output o =>
    simp only [McpClient.SessionBuffer.receive,ends,Bool.and_false,Bool.false_eq_true,if_false]
    cases parseOutputEntry o <;> rfl
  | exited sessionId exitCode => simp [ends,own]; rfl
  | attached sessionId status exitCode pty entries =>
    cases status with
    | some told => cases simple
    | none =>
      cases entries with
      | none => cases own
      | some entries =>
        simp only [McpClient.SessionBuffer.receive,ends,Bool.and_false,Bool.false_eq_true,if_false]
        rw [McpClient.SessionBuffer.replay_eq,status_foldl_push]
        cases pty <;> rfl
  | closed sessionId => simp [ends,own]; rfl
  | error code sessionId request => simp [ends,own]; rfl
  | gap sessionId reason => simp [ends]; rfl
  | started sessionId pty request => cases own
  | listed request => cases own
  | aiStatusAck sessionId request => cases own
  | other => cases own

/-- What the client makes of the messages on the way. -/
theorem lookup_drained {wire : List Message} (simple : ∀ m ∈ wire, plain m = true) (c : Connection) (id : String) :
    ((wire.foldl (fun c m => (dispatchMessage c m).1) c).sessions.lookup id).map (fun b => b.status) =
      (c.sessions.lookup id).map fun b => if wire.any (ends id) then .exited else b.status := by
  induction wire generalizing c with
  | nil => simp
  | cons m rest ih =>
    rw [List.foldl_cons,ih (fun m' member => simple m' (List.mem_cons_of_mem m member)),lookup_dispatch]
    by_cases own : m.session? = some id
    · rw [if_pos own,Option.map_map]
      congr 1
      funext b
      simp only [Function.comp_apply,receive_status (simple m List.mem_cons_self) own,List.any_cons]
      by_cases here : ends id m = true
      · simp [here]
      · simp [here]
    · have silent : ends id m = false := by simp [ends,own]
      rw [if_neg own]
      simp only [List.any_cons,silent,Bool.false_or]

/-- What every run keeps: no session has an empty id, and no message tells a status. -/
structure Sound (s : State) : Prop where
  named : s.device.lookup "" = none
  simple : ∀ m ∈ s.wire, plain m = true

variable {maxSessions bufferSize : Nat} {s t : State} {a : Action}

theorem agreed_iff (sound : Sound s) : Agreed s ↔
    ∀ id b, s.connection.sessions.lookup id = some b → ((b.status = .exited ∨ Ending s id) ↔ ¬ Alive s id) := by
  refine forall_congr' fun id => ?_
  have drains := lookup_drained sound.simple s.connection id
  have told : ∀ b : McpClient.SessionBuffer,
      (if s.wire.any (ends id) then SessionStatus.exited else b.status) = .exited ↔ b.status = .exited ∨ Ending s id := by
    intro b
    rw [Ending,← List.any_eq_true]
    by_cases marked : s.wire.any (ends id) = true
    · simp [marked]
    · simp [marked]
  constructor
  · intro agreed b held
    rw [held,Option.map_some,Option.map_eq_some_iff] at drains
    obtain ⟨after,found,status⟩ := drains
    rw [← agreed after found,status]
    exact (told b).symm
  · intro agreed after found
    change (drained s).sessions.lookup id = some after at found
    unfold drained at found
    rw [found,Option.map_some] at drains
    obtain ⟨b,held,status⟩ := Option.map_eq_some_iff.mp drains.symm
    rw [← status,told b]
    exact agreed b held

/-- The device does something and sends messages about it. -/
theorem agreed_sends {sent : List Message} (sound : Sound s) (agreed : Agreed s) (sound' : Sound t)
    (connection : t.connection = s.connection) (wire : t.wire = s.wire ++ sent) :
    Agreed t ↔ ∀ id, Held s id → ((¬ Alive s id ∨ ∃ m ∈ sent, ends id m = true) ↔ ¬ Alive t id) := by
  rw [agreed_iff sound] at agreed
  rw [agreed_iff sound',connection]
  refine forall_congr' fun id => ?_
  have ending : Ending t id ↔ Ending s id ∨ ∃ m ∈ sent, ends id m = true := by
    simp only [Ending,wire,List.mem_append,or_and_right,exists_or]
  constructor
  · intro after held
    obtain ⟨b,found⟩ := Option.isSome_iff_exists.mp held
    rw [← after b found,ending,← or_assoc,agreed id b found]
  · intro after b found
    rw [ending,← or_assoc,agreed id b found]
    exact after (by rw [Held,found]; rfl)

/-- When the sessions that run stay the same, no message may end one of them. -/
theorem agreed_same {sent : List Message} (sound : Sound s) (agreed : Agreed s) (sound' : Sound t)
    (connection : t.connection = s.connection) (wire : t.wire = s.wire ++ sent) (same : statusOf t.device = statusOf s.device) :
    Agreed t ↔ ∀ id, Held s id → Alive s id → ∀ m ∈ sent, ends id m = false := by
  rw [agreed_sends sound agreed sound' connection wire]
  refine forall_congr' fun id => imp_congr_right fun held => ?_
  have alive : Alive t id ↔ Alive s id := by rw [Alive,same,Alive]
  rw [alive]
  constructor
  · intro exactly living m member
    rw [← Bool.not_eq_true]
    exact fun marked => exactly.mp (.inr ⟨m,member,marked⟩) living
  · intro silent
    constructor
    · rintro (dead | ⟨m,member,marked⟩)
      · exact dead
      · intro living
        rw [silent living m member] at marked
        cases marked
    · exact .inl

/-- When no message ends a session, the sessions that the client holds must stay as they are. -/
theorem agreed_silent {sent : List Message} (sound : Sound s) (agreed : Agreed s) (sound' : Sound t)
    (connection : t.connection = s.connection) (wire : t.wire = s.wire ++ sent)
    (silent : ∀ m ∈ sent, ∀ id, ends id m = false) : Agreed t ↔ ∀ id, Held s id → (Alive t id ↔ Alive s id) := by
  rw [agreed_sends sound agreed sound' connection wire]
  refine forall_congr' fun id => imp_congr_right fun held => ?_
  have none_ : ¬ ∃ m ∈ sent, ends id m = true := by
    rintro ⟨m,member,marked⟩
    rw [silent m member id] at marked
    cases marked
  rw [or_iff_left none_,not_iff_not]
  exact comm

theorem ends_error {code id other : String} {request : Option Nat} (marked : ends other (.error code (some id) request) = true) :
    id = other := by
  simp only [ends,Message.session?,Bool.and_true] at marked
  split at marked
  · cases of_decide_eq_true marked
  · exact Option.some.inj (of_decide_eq_true marked)

theorem alive_lookup {id : String} (alive : Alive s id) : ∃ e, s.device.lookup id = some e ∧ e.session.status = .running :=
  Option.map_eq_some_iff.mp alive

theorem not_alive_missing {id : String} (missing : s.device.lookup id = none) : ¬ Alive s id := by
  rw [Alive,statusOf,missing]
  simp

theorem lookup_none_iff {device : Sessions} {id : String} : device.lookup id = none ↔ statusOf device id = none := by
  rw [statusOf,Option.map_eq_none_iff]

/-! ### The client's own messages -/

theorem fresh_iff {id : String} : fresh s id = true ↔ id ≠ "" ∧ s.device.lookup id = none ∧ ¬ Held s id := by
  simp [fresh,Held,and_assoc]

/-- An answer that changes no status and ends no session that runs. -/
structure Harmless (device : Sessions) (handled : List Message × Sessions) : Prop where
  same : statusOf handled.2 = statusOf device
  simple : ∀ m ∈ handled.1, plain m = true
  living : ∀ id, statusOf device id = some .running → ∀ m ∈ handled.1, ends id m = false

section
variable {device after : Sessions} {id : String} {now : Nat}

/-- The answer ends no session at all. -/
theorem harmless_silent {sent : List Message} (same : statusOf after = statusOf device)
    (silent : ∀ m ∈ sent, plain m = true ∧ ∀ id, ends id m = false) : Harmless device (sent,after) :=
  ⟨same,fun m member => (silent m member).1,fun id _ m member => (silent m member).2 id⟩

/-- The answer is that the session does not exist. -/
theorem harmless_missing {code : String} (same : statusOf after = statusOf device) (missing : statusOf device id = none) :
    Harmless device ([sessionError code id],after) := by
  refine ⟨same,fun m member => ?_,fun other living m member => ?_⟩
  · rw [List.mem_singleton.mp member]
    rfl
  · rw [List.mem_singleton.mp member,← Bool.not_eq_true]
    intro marked
    rw [← ends_error marked,missing] at living
    cases living

theorem harmless_attach (since : Nat) : Harmless device (handle maxSessions now device (.attach id since)) := by
  have same : statusOf (attach device now id).2 = statusOf device := statusOf_attach
  unfold handle
  dsimp only
  split
  · next buffer after attached =>
    rw [attached] at same
    exact harmless_silent same (by simp [plain,ends])
  · next after attached =>
    rw [attached] at same
    have missing : device.lookup id = none := by
      have buffer := congrArg Prod.fst attached
      simpa [attach] using buffer
    exact harmless_missing same (lookup_none_iff.mp missing)

theorem harmless_rename (name : String) : Harmless device (handle maxSessions now device (.rename id name)) := by
  have same : statusOf (renameSession device id name).2 = statusOf device := statusOf_rename name
  unfold handle
  dsimp only
  split
  · next after renamed =>
    rw [renamed] at same
    exact harmless_silent same (by simp [plain,ends])
  · next error after renamed =>
    rw [renamed] at same
    have missing : device.lookup id = none := by
      unfold renameSession at renamed
      split at renamed
      · cases renamed
      · next missing => exact missing
    exact harmless_missing same (lookup_none_iff.mp missing)

theorem harmless_allowAi (allowed : Bool) : Harmless device (handle maxSessions now device (.allowAi id allowed)) := by
  have same : statusOf (setUserAllowsAi device id allowed).2 = statusOf device := statusOf_allowAi allowed
  unfold handle
  dsimp only
  split
  · next after set =>
    rw [set] at same
    exact harmless_silent same (by simp [plain,ends])
  · next error after set =>
    rw [set] at same
    have missing : device.lookup id = none := by
      unfold setUserAllowsAi at set
      split at set
      · split at set <;> cases set
      · next missing => exact missing
    exact harmless_missing same (lookup_none_iff.mp missing)

theorem harmless_aiStatus (request : Nat) (working : Bool) (activity message : Option String) :
    Harmless device (handle maxSessions now device (.aiStatus request id working activity message)) := by
  have same : statusOf (setAiStatus device now id working activity message).2 = statusOf device :=
    statusOf_aiStatus working activity message
  unfold handle
  dsimp only
  split
  · next after set =>
    rw [set] at same
    exact harmless_silent same (by simp [plain,ends])
  · next error after set =>
    rw [set] at same
    exact harmless_silent same (by simp [plain,ends,Message.session?])

theorem harmless_invalid (code : String) : Harmless device (handle maxSessions now device (.invalid code)) :=
  harmless_silent rfl (by simp [plain,ends,Message.session?])

theorem harmless_missingField (r : Request) : Harmless device (missingField r,device) := by
  refine harmless_silent rfl fun m member => ?_
  unfold missingField at member
  split at member
  · cases member
  · cases member
  · rw [List.mem_singleton.mp member]
    simp [plain,ends,Message.session?]

end

/-- The state after the device has done something and sent messages about it. -/
def after (s : State) (handled : List Message × Sessions) : State :=
  { s with device := handled.2, wire := s.wire ++ handled.1 }

theorem sound_after {handled : List Message × Sessions} (sound : Sound s) (named : handled.2.lookup "" = none)
    (simple : ∀ m ∈ handled.1, plain m = true) : Sound (after s handled) := by
  refine ⟨named,fun m member => ?_⟩
  rcases List.mem_append.mp member with before | new
  · exact sound.simple m before
  · exact simple m new

/-- The device has answered a message of the client. -/
theorem agreed_harmless {handled : List Message × Sessions} (sound : Sound s) (agreed : Agreed s)
    (harmless : Harmless s.device handled) : Sound (after s handled) ∧ Agreed (after s handled) := by
  have kept : Sound (after s handled) := by
    refine sound_after sound ?_ harmless.simple
    rw [lookup_none_iff,harmless.same,← lookup_none_iff]
    exact sound.named
  exact ⟨kept,(agreed_same sound agreed kept rfl rfl harmless.same).mpr fun id _ living => harmless.living id living⟩

theorem ends_sessionError (code id : String) (different : code ≠ "AI_NOT_ALLOWED") : ends id (sessionError code id) = true := by
  simp [ends,sessionError,Message.session?,different]

/-- An operation on a session that runs must not fail. -/
theorem agreed_operate {operation : Operate} {id : String} {failed : Bool} {now : Nat} (sound : Sound s) (agreed : Agreed s) :
    Sound (after s (handle maxSessions now s.device (.operate operation id failed))) ∧
      (Agreed (after s (handle maxSessions now s.device (.operate operation id failed))) ↔
        announced s (.request now (.operate operation id failed))) := by
  have same : statusOf (operateTouches s.device now id operation) = statusOf s.device := statusOf_operateTouches operation
  have simple : ∀ m ∈ operateReply s.device operation id failed, plain m = true := by
    intro m member
    unfold operateReply at member
    split at member
    · rw [List.mem_singleton.mp member]; rfl
    · cases operation <;> simp [operateAck] at member <;> rw [member] <;> rfl
  have kept : Sound (after s (handle maxSessions now s.device (.operate operation id failed))) := by
    refine sound_after sound ?_ simple
    change (operateTouches s.device now id operation).lookup "" = none
    rw [lookup_none_iff,same,← lookup_none_iff]
    exact sound.named
  refine ⟨kept,?_⟩
  rw [agreed_same sound agreed kept rfl rfl same]
  change (∀ other, Held s other → Alive s other → ∀ m ∈ operateReply s.device operation id failed, ends other m = false) ↔ _
  constructor
  · intro silent held alive e found
    rw [← Bool.not_eq_true]
    intro fails
    have reply : operateReply s.device operation id failed = [sessionError "SESSION_ERROR" id] := by
      simp [operateReply,found,fails]
    have marked := silent id held alive (sessionError "SESSION_ERROR" id) (by rw [reply]; exact List.mem_singleton_self _)
    rw [ends_sessionError _ _ (by decide)] at marked
    cases marked
  · intro works other held alive m member
    unfold operateReply at member
    split at member
    · next fails =>
      rw [List.mem_singleton.mp member,← Bool.not_eq_true]
      intro marked
      have here := ends_error marked
      subst here
      obtain ⟨e,found,-⟩ := alive_lookup alive
      rw [found,Option.all_some,works held alive e found] at fails
      cases fails
    · cases operation <;> simp [operateAck] at member <;> rw [member] <;> simp [ends]

/-- Who kills a session is told. -/
theorem agreed_kill {id : String} {now : Nat} (sound : Sound s) (agreed : Agreed s) (some_ : id ≠ "") :
    Sound (after s (handle maxSessions now s.device (.kill id))) ∧
      Agreed (after s (handle maxSessions now s.device (.kill id))) := by
  have gone : ∀ other, statusOf (s.device.erase id) other = if other = id then none else statusOf s.device other :=
    statusOf_erase s.device id
  have kept : Sound (after s (handle maxSessions now s.device (.kill id))) := by
    refine sound_after sound ?_ fun m member => ?_
    · change (s.device.erase id).lookup "" = none
      rw [lookup_none_iff,gone,if_neg (Ne.symm some_),← lookup_none_iff]
      exact sound.named
    · simp only [handle,List.mem_cons,List.not_mem_nil,or_false] at member
      rcases member with rfl | rfl
      · split <;> rfl
      · rfl
  refine ⟨kept,(agreed_sends sound agreed kept rfl rfl).mpr fun other held => ?_⟩
  have alive : Alive (after s (handle maxSessions now s.device (.kill id))) other ↔ other ≠ id ∧ Alive s other := by
    change statusOf (s.device.erase id) other = some .running ↔ _
    rw [gone]
    split
    · next here => simp [here]
    · next apart => simp [apart,Alive]
  rw [alive]
  by_cases here : other = id
  · subst here
    have told : ends other (if (killSession s.device other).1 then .closed other else sessionError "SESSION_NOT_FOUND" other) = true := by
      split
      · simp [ends,Message.session?,some_]
      · exact ends_sessionError _ _ (by decide)
    exact iff_of_true (.inr ⟨_,List.mem_cons_self,told⟩) (by simp)
  · have silent : ∀ m ∈ (handle maxSessions now s.device (.kill id)).1, ends other m = false := by
      intro m member
      simp only [handle,List.mem_cons,List.not_mem_nil,or_false] at member
      rcases member with rfl | rfl
      · split
        · simp [ends,Message.session?,some_,Ne.symm here]
        · rw [← Bool.not_eq_true]
          exact fun marked => here (ends_error marked).symm
      · simp [ends]
    have none_ : ¬ ∃ m ∈ (handle maxSessions now s.device (.kill id)).1, ends other m = true := by
      rintro ⟨m,member,marked⟩
      rw [silent m member] at marked
      cases marked
    simp only [ne_eq,here,not_false_eq_true,true_and]
    exact or_iff_left none_

/-- A new session is one that the client does not hold. -/
theorem agreed_start {id : String} {request now : Nat} {creation : Creation} (sound : Sound s) (agreed : Agreed s)
    (new : fresh s id = true) :
    Sound (after s (handle maxSessions now s.device (.start request id creation))) ∧
      Agreed (after s (handle maxSessions now s.device (.start request id creation))) := by
  obtain ⟨some_,-,unheld⟩ := fresh_iff.mp new
  have created : ∀ other, other ≠ id →
      statusOf (handle maxSessions now s.device (.start request id creation)).2 other = statusOf s.device other := by
    intro other apart
    have same := @statusOf_create s.device id now maxSessions creation other apart
    unfold handle
    dsimp only
    split <;> (next answer => rw [answer] at same; exact same)
  have silent : ∀ m ∈ (handle maxSessions now s.device (.start request id creation)).1,
      plain m = true ∧ ∀ other, ends other m = false := by
    unfold handle
    dsimp only
    split <;> simp [plain,ends,Message.session?]
  have kept : Sound (after s (handle maxSessions now s.device (.start request id creation))) := by
    refine sound_after sound ?_ fun m member => (silent m member).1
    rw [lookup_none_iff,created "" (Ne.symm some_),← lookup_none_iff]
    exact sound.named
  refine ⟨kept,(agreed_silent sound agreed kept rfl rfl fun m member => (silent m member).2).mpr fun other held => ?_⟩
  have apart : other ≠ id := by
    rintro rfl
    exact unheld held
  exact Eq.congr_left (created other apart)

theorem request_iff {now : Nat} {r : Request} (sound : Sound s) (agreed : Agreed s) (allowed : requestPermitted s r = true) :
    Sound (after s (handleMessage maxSessions now s.device r)) ∧
      (Agreed (after s (handleMessage maxSessions now s.device r)) ↔ announced s (.request now r)) := by
  unfold handleMessage
  by_cases empty : named r = some ""
  · rw [if_pos empty]
    obtain ⟨kept,same⟩ := agreed_harmless sound agreed (harmless_missingField r)
    refine ⟨kept,iff_of_true same ?_⟩
    cases r with
    | operate operation id failed =>
      cases empty
      exact fun _ alive => absurd alive (not_alive_missing sound.named)
    | _ => trivial
  · rw [if_neg empty]
    cases r with
    | operate operation id failed => exact agreed_operate sound agreed
    | start request id creation =>
      obtain ⟨kept,same⟩ := @agreed_start maxSessions s id request now creation sound agreed allowed
      exact ⟨kept,iff_of_true same trivial⟩
    | kill id =>
      obtain ⟨kept,same⟩ := @agreed_kill maxSessions s id now sound agreed (by simpa [named] using empty)
      exact ⟨kept,iff_of_true same trivial⟩
    | attach id since => exact (agreed_harmless sound agreed (harmless_attach since)).imp_right fun same => iff_of_true same trivial
    | rename id name => exact (agreed_harmless sound agreed (harmless_rename name)).imp_right fun same => iff_of_true same trivial
    | allowAi id allowed_ =>
      exact (agreed_harmless sound agreed (harmless_allowAi allowed_)).imp_right fun same => iff_of_true same trivial
    | aiStatus request id working activity message =>
      exact (agreed_harmless sound agreed (harmless_aiStatus request working activity message)).imp_right fun same =>
        iff_of_true same trivial
    | invalid code => exact (agreed_harmless sound agreed (harmless_invalid code)).imp_right fun same => iff_of_true same trivial

/-! ### What others do -/

/-- A session that others remove is not told of. -/
theorem agreed_removed {handled : List Message × Sessions} (sound : Sound s) (agreed : Agreed s)
    (silent : ∀ m ∈ handled.1, plain m = true ∧ ∀ id, ends id m = false)
    (fewer : ∀ id, statusOf handled.2 id = some .running → Alive s id) (named : handled.2.lookup "" = none) :
    Sound (after s handled) ∧
      (Agreed (after s handled) ↔ ∀ id, Held s id → Alive s id → statusOf handled.2 id = some .running) := by
  have kept : Sound (after s handled) := sound_after sound named fun m member => (silent m member).1
  refine ⟨kept,?_⟩
  rw [agreed_silent sound agreed kept rfl rfl fun m member => (silent m member).2]
  exact forall_congr' fun id => imp_congr_right fun _ => ⟨Iff.mpr,fun stays => ⟨fewer id,stays⟩⟩

theorem others_kill {id : String} {now : Nat} (sound : Sound s) (agreed : Agreed s) :
    Sound (after s ([.other],s.device.erase id)) ∧
      (Agreed (after s ([.other],s.device.erase id)) ↔ announced s (.others ⟨now,.killSession id⟩)) := by
  have gone := statusOf_erase s.device id
  have named : (s.device.erase id).lookup "" = none := by
    rw [Table.lookup_erase_eq]
    split
    · rfl
    · exact sound.named
  obtain ⟨kept,exactly⟩ := @agreed_removed s ([.other],s.device.erase id) sound agreed (by simp [plain,ends])
    (fun other running => by
      rw [gone] at running
      split at running
      · cases running
      · exact running) named
  refine ⟨kept,exactly.trans ?_⟩
  constructor
  · intro stays held alive
    have still := stays id held alive
    rw [gone,if_pos rfl] at still
    cases still
  · intro unheld other held alive
    rw [gone]
    split
    · next here => exact absurd alive (by rw [here] at held ⊢; exact unheld held)
    · exact alive

theorem others_killAll {now : Nat} (sound : Sound s) (agreed : Agreed s) :
    Sound (after s ([],∅)) ∧ (Agreed (after s ([],∅)) ↔ announced s (.others ⟨now,.killAll⟩)) := by
  have none_ : ∀ id, statusOf ∅ id = none := fun id => by rw [statusOf,AList.lookup_empty]; rfl
  obtain ⟨kept,exactly⟩ := @agreed_removed s ([],∅) sound agreed (by simp)
    (fun other running => by rw [none_] at running; cases running) (AList.lookup_empty "")
  refine ⟨kept,exactly.trans (forall_congr' fun id => imp_congr_right fun _ => ?_)⟩
  rw [none_]
  simp

theorem others_sweep {contested : List String} {now : Nat} (sound : Sound s) (agreed : Agreed s) :
    Sound (after s ((sweep s.device now contested).1.map fun _ => Message.other,(sweep s.device now contested).2)) ∧
      (Agreed (after s ((sweep s.device now contested).1.map fun _ => Message.other,(sweep s.device now contested).2)) ↔
        announced s (.others ⟨now,.sweep contested⟩)) := by
  have named : (sweep s.device now contested).2.lookup "" = none := by
    rw [sweep,Table.lookup_keep,Table.lookup_keep,Table.lookup_mapValues,sound.named]
    rfl
  obtain ⟨kept,exactly⟩ := @agreed_removed s
    ((sweep s.device now contested).1.map fun _ => Message.other,(sweep s.device now contested).2) sound agreed
    (fun m member => by
      obtain ⟨-,-,rfl⟩ := List.mem_map.mp member
      simp [plain,ends])
    (fun id running => by
      obtain ⟨e,found,status,-⟩ := (statusOf_sweep contested).mp running
      rw [Alive,statusOf,found,← status]
      rfl) named
  refine ⟨kept,exactly.trans ?_⟩
  constructor
  · intro stays id e held found running
    have alive : Alive s id := by rw [Alive,statusOf,found,← running]; rfl
    obtain ⟨e',found',-,idle⟩ := (statusOf_sweep contested).mp (stays id held alive)
    cases found.symm.trans found'
    exact idle
  · intro idle id held alive
    obtain ⟨e,found,running⟩ := alive_lookup alive
    exact (statusOf_sweep contested).mpr ⟨e,found,running,idle id e held found running⟩

theorem others_wait {id : String} {result : Except String (Option Int)} {now waited : Nat} {e : SessionEntry}
    {session : Readers.ManagedSession} (sound : Sound s) (agreed : Agreed s) (found : s.device.lookup id = some e)
    (stepped : e.session.step (.wait result waited) = some session) :
    let sent := broadcast s.device ⟨now,.task id (.wait result waited)⟩
    Sound (after s (sent,s.device.insert id { e with session })) ∧
      (Agreed (after s (sent,s.device.insert id { e with session })) ↔
        announced s (.others ⟨now,.task id (.wait result waited)⟩)) := by
  intro sent
  have exited : session.status = .exited := status_task stepped
  have some_ : id ≠ "" := by
    rintro rfl
    rw [sound.named] at found
    cases found
  have told : sent = if e.kind = .job then [.exited id (some (exitCodeOf result))] else [] := by
    simp only [sent,broadcast,found,Option.any_some,decide_eq_true_eq]
  have simple : ∀ m ∈ sent, plain m = true := by
    rw [told]
    split <;> simp [plain]
  have status : ∀ other, statusOf (s.device.insert id { e with session }) other =
      if other = id then some .exited else statusOf s.device other := fun other => by rw [statusOf_insert,exited]
  have kept : Sound (after s (sent,s.device.insert id { e with session })) := by
    refine sound_after sound ?_ simple
    rw [lookup_none_iff,status,if_neg (Ne.symm some_),← lookup_none_iff]
    exact sound.named
  refine ⟨kept,?_⟩
  rw [agreed_sends sound agreed kept rfl rfl]
  have ended : ∀ other, (∃ m ∈ sent, ends other m = true) ↔ other = id ∧ e.kind = .job := by
    intro other
    rw [told]
    have names : ends other (.exited id (some (exitCodeOf result))) = decide (id = other) := by
      simp [ends,Message.session?,some_]
    by_cases job : e.kind = .job
    · rw [if_pos job]
      simp only [List.mem_singleton,exists_eq_left,names,decide_eq_true_eq,job,and_true]
      exact eq_comm
    · simp [job]
  have alive : ∀ other, Alive (after s (sent,s.device.insert id { e with session })) other ↔ other ≠ id ∧ Alive s other := by
    intro other
    change statusOf (s.device.insert id { e with session }) other = some .running ↔ _
    rw [status]
    by_cases here : other = id
    · simp [here]
    · simp [here,Alive]
  constructor
  · intro exactly held living e' found'
    cases found.symm.trans found'
    have reported := (exactly id held).mpr (by rw [alive]; simp)
    exact ((ended id).mp (reported.resolve_left (not_not_intro living))).2
  · intro job other held
    rw [ended,alive]
    by_cases here : other = id
    · subst here
      refine iff_of_true ?_ (by simp)
      by_cases living : Alive s other
      · exact .inr ⟨rfl,job held living e found⟩
      · exact .inl living
    · simp [here]

theorem others_iff {a : SessionManager.Action} {device : Sessions} (sound : Sound s) (agreed : Agreed s)
    (allowed : permitted s a.operation = true) (stepped : SessionManager.step maxSessions bufferSize s.device a = some device) :
    Sound (after s (broadcast s.device a,device)) ∧
      (Agreed (after s (broadcast s.device a,device)) ↔ announced s (.others a)) := by
  obtain ⟨now,operation⟩ := a
  have quiet : ∀ {handled : List Message × Sessions} {P : Prop}, Harmless s.device handled → P →
      Sound (after s handled) ∧ (Agreed (after s handled) ↔ P) := fun harmless holds =>
    (agreed_harmless sound agreed harmless).imp_right fun same => iff_of_true same holds
  cases operation with
  | create id creation =>
    cases stepped
    obtain ⟨some_,-,unheld⟩ := fresh_iff.mp allowed
    have created : ∀ other, other ≠ id → statusOf (createSession maxSessions s.device now id creation).2 other =
        statusOf s.device other := fun other apart => statusOf_create apart
    have kept : Sound (after s ([.other],(createSession maxSessions s.device now id creation).2)) := by
      refine sound_after sound ?_ (by simp [plain])
      rw [lookup_none_iff,created "" (Ne.symm some_),← lookup_none_iff]
      exact sound.named
    refine ⟨kept,iff_of_true ((agreed_silent sound agreed kept rfl rfl (by simp [ends])).mpr fun other held => ?_) trivial⟩
    have apart : other ≠ id := by
      rintro rfl
      exact unheld held
    exact Eq.congr_left (created other apart)
  | recover order archived => cases allowed
  | setUserAllowsAi id allowed_ =>
    cases stepped
    exact quiet (harmless_silent (statusOf_allowAi allowed_) (by simp [broadcast,plain,ends])) trivial
  | setAiStatus id working activity message =>
    cases stepped
    exact quiet (harmless_silent (statusOf_aiStatus working activity message) (by simp [broadcast,plain,ends])) trivial
  | touchAiActivity id => cases stepped; exact quiet (harmless_silent statusOf_touch (by simp [broadcast])) trivial
  | attach id => cases stepped; exact quiet (harmless_silent statusOf_attach (by simp [broadcast])) trivial
  | attachShared id => cases stepped; exact quiet (harmless_silent statusOf_attachShared (by simp [broadcast])) trivial
  | detach id => cases stepped; exact quiet (harmless_silent statusOf_detach (by simp [broadcast])) trivial
  | detachAll ids => cases stepped; exact quiet (harmless_silent (statusOf_detachAll ids) (by simp [broadcast])) trivial
  | renameSession id name =>
    cases stepped
    exact quiet (harmless_silent (statusOf_rename name) (by simp [broadcast,plain,ends])) trivial
  | killSession id => cases stepped; exact others_kill sound agreed
  | killAll => cases stepped; exact others_killAll sound agreed
  | sweep contested => cases stepped; exact others_sweep sound agreed
  | task id taken =>
    obtain ⟨e,found,rest⟩ := Option.bind_eq_some_iff.mp stepped
    obtain ⟨session,did,eq⟩ := Option.bind_eq_some_iff.mp rest
    cases eq
    cases taken with
    | wait result waited => exact others_wait sound agreed found did
    | read stream result read_ => exact quiet (harmless_silent (statusOf_update found (status_task did)) (by simp [broadcast])) trivial
    | setJournal channel => exact quiet (harmless_silent (statusOf_update found (status_task did)) (by simp [broadcast])) trivial
    | abortTasks => exact quiet (harmless_silent (statusOf_update found (status_task did)) (by simp [broadcast])) trivial

/-! ### The client's buffers -/

/-- A new buffer is taken for alive until a message says otherwise. -/
theorem agreed_created {id : String} {b : McpClient.SessionBuffer} (sound : Sound s) (agreed : Agreed s) (new : b.status = .running)
    (sound' : Sound t) (device : t.device = s.device) (wire : t.wire = s.wire)
    (sessions : t.connection.sessions = s.connection.sessions.insert id b) :
    Agreed t ↔ (Alive s id ↔ ¬ Ending s id) := by
  rw [agreed_iff sound] at agreed
  rw [agreed_iff sound',sessions]
  simp only [Alive,Ending,device,wire] at agreed ⊢
  constructor
  · intro after
    have here := after id b (by simp)
    simp only [new,reduceCtorEq,false_or] at here
    exact iff_not_comm.mp here
  · intro exactly other c found
    rw [Table.lookup_insert_eq] at found
    split at found
    · next here =>
      cases found
      subst here
      simp only [new,reduceCtorEq,false_or]
      exact iff_not_comm.mp exactly
    · exact agreed other c found

theorem agreed_hold {id : String} (sound : Sound s) (agreed : Agreed s) :
    Agreed { s with connection := { s.connection with sessions := holdBuffer id s.connection.sessions } } ↔
      announced s (.hold id) := by
  have kept : Sound { s with connection := { s.connection with sessions := holdBuffer id s.connection.sessions } } :=
    ⟨sound.named,sound.simple⟩
  simp only [announced,Held]
  by_cases held : (s.connection.sessions.lookup id).isSome
  · refine iff_of_true ?_ (.inl held)
    rw [agreed_iff sound] at agreed
    rw [agreed_iff kept]
    intro other b found
    simp only [holdBuffer,held,if_true,Table.lookup_modify] at found
    split at found
    · next here =>
      obtain ⟨c,before,rfl⟩ := Option.map_eq_some_iff.mp found
      subst here
      exact agreed other c before
    · exact agreed other b found
  · rw [or_iff_right held]
    have new : holdBuffer id s.connection.sessions = s.connection.sessions.insert id .new := by simp [holdBuffer,held]
    exact agreed_created sound agreed rfl kept rfl rfl new

/-- Dispatching changes nothing about what will have been dispatched. -/
theorem drained_dispatch {m : Message} {rest : List Message} (wire : s.wire = m :: rest) :
    drained { s with wire := rest, connection := (dispatchMessage s.connection m).1 } = drained s := by
  simp [drained,wire]

theorem step_iff (sound : Sound s) (agreed : Agreed s) (stepped : step maxSessions bufferSize s a = some t) :
    Sound t ∧ (Agreed t ↔ announced s a) := by
  cases a with
  | request now r =>
    simp only [step,Option.ite_none_right_eq_some,Option.some.injEq] at stepped
    obtain ⟨allowed,rfl⟩ := stepped
    exact request_iff sound agreed allowed
  | others a =>
    simp only [step,Option.ite_none_right_eq_some,Option.map_eq_some_iff] at stepped
    obtain ⟨allowed,device,did,rfl⟩ := stepped
    exact others_iff sound agreed allowed did
  | insert id pty =>
    cases stepped
    have kept : Sound { s with connection := { s.connection with sessions := s.connection.sessions.insert id (bufferFor pty) } } :=
      ⟨sound.named,sound.simple⟩
    exact ⟨kept,agreed_created sound agreed rfl kept rfl rfl rfl⟩
  | hold id => cases stepped; exact ⟨⟨sound.named,sound.simple⟩,agreed_hold sound agreed⟩
  | dispatch =>
    simp only [step] at stepped
    split at stepped
    · next m rest wire =>
      cases stepped
      refine ⟨⟨sound.named,fun m' member => sound.simple m' (by rw [wire]; exact List.mem_cons_of_mem _ member)⟩,?_⟩
      refine iff_of_true ?_ trivial
      intro id b found
      rw [drained_dispatch wire] at found
      exact agreed id b found
    · cases stepped

/-- The client and the device agree exactly as long as every end is told and no error names a
    session that goes on. -/
theorem status_agrees_iff (maxSessions bufferSize : Nat) (device : Sessions) (actions : List Action) :
    Always (step maxSessions bufferSize) Agreed (start device) actions ↔
      Along (step maxSessions bufferSize) announced (start device) actions := by
  refine always_iff_along_with (fun _ _ _ sound agreed stepped => (step_iff sound agreed stepped).1)
    (fun _ _ _ sound agreed stepped => (step_iff sound agreed stepped).2) ?_ ?_
  · exact ⟨by simp [start],by simp [start]⟩
  · intro id b found
    simp [drained,start] at found

/-- A session on pipes that the client has started and then tries to resize. -/
def resized : List Action :=
  [.request 1 (.start 0 "s" ⟨.spawn 16,.terminal,false,0,none,1⟩),.dispatch,.dispatch,.insert "s" none,
   .request 2 (.operate .resize "s" false),.dispatch]

theorem resize_taken_for_dead : ¬ ∀ (maxSessions bufferSize : Nat) (device : Sessions) (actions : List Action),
    Always (step maxSessions bufferSize) Agreed (start device) actions := by
  intro claim
  have apart : (run (step 4 16) (start ∅) resized).map (fun s =>
      (((drained s).sessions.lookup "s").map fun b => b.status,statusOf s.device "s")) =
        some (some .exited,some .running) := by
    decide +kernel
  obtain ⟨s,ran,statuses⟩ := Option.map_eq_some_iff.mp apart
  obtain ⟨client,alive⟩ := Prod.mk.inj statuses
  obtain ⟨b,found,dead⟩ := Option.map_eq_some_iff.mp client
  exact ((always_last (claim 4 16 ∅ resized) ran) "s" b found).mp dead alive

end Sctl.ClientStatus
