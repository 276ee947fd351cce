import Mathlib.Data.List.Sort
import Sctl.Journals

/-!
The session manager (`sessions/mod.rs`): the sessions by their id, each with what
the user and the AI agreed on. Every operation holds the lock of the table, so it
is one step; the tasks of a session go on in between. An operation that can fail
returns its result beside the table.
-/
namespace Sctl.SessionManager
open Sctl.Journals Sctl.Readers Sctl.Runs Sctl.SessionBuffer

inductive SessionKind
  | terminal
  | job
deriving DecidableEq

structure SessionEntry where
  session : ManagedSession
  kind : SessionKind
  persistent : Bool
  lastActivity : Nat
  attachedCount : Nat
  /-- In seconds; 0 is never. -/
  idleTimeout : Nat
  name : Option String
  createdAt : Nat
  userAllowsAi : Bool
  aiIsWorking : Bool
  aiActivity : Option String
  aiStatusMessage : Option String
  aiLastActivity : Option Nat

abbrev Sessions := Table String SessionEntry

/-- What a new session is created with. -/
structure Creation where
  session : ManagedSession
  kind : SessionKind
  persistent : Bool
  idleTimeout : Nat
  name : Option String
  createdAt : Nat

def notFound (id : String) : String := s!"Session {id} not found"

def createSession (maxSessions : Nat) (sessions : Sessions) (now : Nat) (id : String) (c : Creation) :
    Except String String × Sessions :=
  if maxSessions ≤ sessions.entries.length then (.error s!"Session limit reached (max {maxSessions})",sessions)
  else (.ok id,sessions.insert id ⟨c.session,c.kind,c.persistent,now,1,c.idleTimeout,c.name,c.createdAt,true,false,none,none,none⟩)

def touchAiActivity (sessions : Sessions) (now : Nat) (id : String) : Sessions :=
  Table.modify id (fun e => if e.aiIsWorking then { e with aiLastActivity := some now } else e) sessions

def killSession (sessions : Sessions) (id : String) : Bool × Sessions :=
  ((sessions.lookup id).isSome,sessions.erase id)

def attach (sessions : Sessions) (now : Nat) (id : String) : Option OutputBuffer × Sessions :=
  ((sessions.lookup id).map fun e => e.session.buffer,
    Table.modify id (fun e => { e with attachedCount := min (e.attachedCount + 1) (2 ^ 32 - 1), lastActivity := now }) sessions)

def attachShared (sessions : Sessions) (now : Nat) (id : String) : Option OutputBuffer × Sessions :=
  ((sessions.lookup id).map fun e => e.session.buffer,
    Table.modify id (fun e => { e with attachedCount := 1, lastActivity := now }) sessions)

def detach (sessions : Sessions) (now : Nat) (id : String) : Sessions :=
  Table.modify id (fun e => { e with attachedCount := e.attachedCount - 1, lastActivity := now }) sessions

def detachAll (sessions : Sessions) (now : Nat) (ids : List String) : Sessions :=
  ids.foldl (fun sessions id => detach sessions now id) sessions

def renameSession (sessions : Sessions) (id name : String) : Except String Unit × Sessions :=
  match sessions.lookup id with
  | some e => (.ok (),sessions.insert id { e with name := some name })
  | none => (.error (notFound id),sessions)

/-- Whether the AI was at work and is stopped. -/
def setUserAllowsAi (sessions : Sessions) (id : String) (allowed : Bool) : Except String Bool × Sessions :=
  match sessions.lookup id with
  | some e =>
    if !allowed && e.aiIsWorking then
      (.ok true,sessions.insert id { e with
        userAllowsAi := allowed, aiIsWorking := false, aiActivity := none, aiStatusMessage := none })
    else (.ok false,sessions.insert id { e with userAllowsAi := allowed })
  | none => (.error (notFound id),sessions)

def setAiStatus (sessions : Sessions) (now : Nat) (id : String) (working : Bool) (activity message : Option String) :
    Except String Unit × Sessions :=
  match sessions.lookup id with
  | some e =>
    if working && !e.userAllowsAi then
      (.error "Cannot set working=true: user has not allowed AI for this session",sessions)
    else if working then
      (.ok (),sessions.insert id { e with
        aiIsWorking := true, aiActivity := activity, aiStatusMessage := message, aiLastActivity := some now })
    else
      (.ok (),sessions.insert id { e with
        aiIsWorking := false, aiActivity := none, aiStatusMessage := none, aiLastActivity := none })
  | none => (.error (notFound id),sessions)

/-! ### Recovery -/

/-- The buffer that takes the entries of a journal, which it numbers anew. -/
def rebuilt (bufferSize : Nat) (entries : List OutputEntry) (now : Nat) : OutputBuffer :=
  entries.foldl (fun buffer entry => buffer.push entry.stream entry.data now) (.new bufferSize)

/-- A recovered session has no process and no tasks, and counts as exited. -/
def archived (buffer : OutputBuffer) (exitCode : Option Int) : ManagedSession :=
  ⟨.pipes,buffer,.exited,exitCode,false,false,false,buffer.entries⟩

def archivedEntry (bufferSize now : Nat) (arch : ArchivedSession) : SessionEntry :=
  ⟨archived (rebuilt bufferSize arch.entries now) arch.exitCode,.terminal,arch.metadata.persistent,now,0,0,none,
    arch.metadata.created,true,false,none,none,none⟩

/-- Sessions with an exit code stay on disk. -/
def recoverEntry (bufferSize now : Nat) (sessions : Sessions) (arch : ArchivedSession) : Sessions :=
  if arch.exitCode.isSome then sessions else sessions.insert arch.sessionId (archivedEntry bufferSize now arch)

def loadArchived (bufferSize now : Nat) (sessions : Sessions) (archived : List ArchivedSession) : Sessions :=
  archived.foldl (recoverEntry bufferSize now) sessions

/-- The oldest sessions beyond the limit, where `order` is the order in which the hash map lists them. -/
def excess (maxSessions : Nat) (order : List (String × Nat) → List (String × Nat)) (sessions : Sessions) : List String :=
  let idsByCreated := (order (sessions.entries.map fun e => (e.1,e.2.createdAt))).insertionSort fun a b => a.2 ≤ b.2
  (idsByCreated.take (sessions.entries.length - maxSessions)).map Prod.fst

def recoverFromJournal (maxSessions bufferSize now : Nat) (order : List (String × Nat) → List (String × Nat))
    (sessions : Sessions) (archived : List ArchivedSession) : Sessions :=
  let loaded := loadArchived bufferSize now sessions archived
  (excess maxSessions order loaded).foldl (fun sessions id => sessions.erase id) loaded

section
variable {serde : Serde} {dir : Directory} {bufferSize now maxSessions : Nat} {sessions : Sessions}
  {archived : List ArchivedSession} {arch : ArchivedSession} {id : String}
  {order : List (String × Nat) → List (String × Nat)}

theorem recoverSingleJournal_id {text : List Char} (read : recoverSingleJournal serde id text = .ok arch) :
    arch.sessionId = id := by
  unfold recoverSingleJournal at read
  split at read
  · cases read
  · split at read
    · cases read
    · cases read
      rfl

theorem mem_recoverSessions : arch ∈ recoverSessions serde dir ↔
    ∃ text, dir.lookup arch.sessionId = some text ∧ recoverSingleJournal serde arch.sessionId text = .ok arch := by
  have toOption : ∀ (e : Except String ArchivedSession), e.toOption = some arch ↔ e = .ok arch := by
    intro e
    cases e <;> simp [Except.toOption]
  simp only [recoverSessions,List.mem_filterMap,toOption]
  constructor
  · rintro ⟨⟨id,text⟩,member,read⟩
    have same := recoverSingleJournal_id read
    subst same
    exact ⟨text,Table.lookup_eq_some_iff.mpr member,read⟩
  · rintro ⟨text,found,read⟩
    exact ⟨⟨arch.sessionId,text⟩,Table.lookup_eq_some_iff.mp found,read⟩

/-- Each session has one journal. -/
theorem recoverSessions_one {other : ArchivedSession} (member : arch ∈ recoverSessions serde dir)
    (also : other ∈ recoverSessions serde dir) (same : other.sessionId = arch.sessionId) : other = arch := by
  obtain ⟨text,found,read⟩ := mem_recoverSessions.mp member
  obtain ⟨text',found',read'⟩ := mem_recoverSessions.mp also
  rw [same] at found' read'
  cases found.symm.trans found'
  cases read.symm.trans read'
  rfl

theorem loadArchived_other (ended : ∀ other ∈ archived, other.sessionId = id → other.exitCode.isSome = true) :
    (loadArchived bufferSize now sessions archived).lookup id = sessions.lookup id := by
  unfold loadArchived
  induction archived generalizing sessions with
  | nil => rfl
  | cons first rest ih =>
    rw [List.foldl_cons,ih fun other member => ended other (List.mem_cons_of_mem first member),recoverEntry]
    split
    · rfl
    · next running =>
      have differs : id ≠ first.sessionId := fun same => running (ended first List.mem_cons_self same.symm)
      rw [Table.lookup_insert_eq,if_neg differs]

theorem loadArchived_running (running : arch.exitCode = none) (member : arch ∈ archived)
    (one : ∀ other ∈ archived, other.sessionId = arch.sessionId → other = arch) :
    (loadArchived bufferSize now sessions archived).lookup arch.sessionId = some (archivedEntry bufferSize now arch) := by
  unfold loadArchived
  induction archived generalizing sessions with
  | nil => cases member
  | cons first rest ih =>
    have later : ∀ other ∈ rest, other.sessionId = arch.sessionId → other = arch :=
      fun other within => one other (List.mem_cons_of_mem first within)
    rw [List.foldl_cons]
    by_cases within : arch ∈ rest
    · exact ih within later
    · have here : first = arch := by simpa [within,eq_comm] using member
      have rest_ := @loadArchived_other bufferSize now (recoverEntry bufferSize now sessions first) rest arch.sessionId
        fun other among same => absurd (later other among same ▸ among) within
      rw [← loadArchived,rest_,here,recoverEntry,running,Option.isSome_none,if_neg Bool.false_ne_true,Table.lookup_insert_eq,
        if_pos rfl]

theorem lookup_recoverFromJournal : (recoverFromJournal maxSessions bufferSize now order sessions archived).lookup id =
    if id ∈ excess maxSessions order (loadArchived bufferSize now sessions archived) then none
    else (loadArchived bufferSize now sessions archived).lookup id := by
  unfold recoverFromJournal
  dsimp only
  generalize excess maxSessions order _ = ids
  generalize loadArchived bufferSize now sessions archived = loaded
  induction ids generalizing loaded with
  | nil => simp
  | cons first rest ih =>
    rw [List.foldl_cons,ih,Table.lookup_erase_eq]
    by_cases here : id = first
    · simp [here]
    · simp [here]

end

/-! ### The sweep -/

inductive SweepEvent
  | destroyed (id reason : String)
  | aiAutoCleared (id : String)
deriving DecidableEq

/-- Times are nanoseconds. -/
def aiIdleTimeout : Nat := 60 * 10 ^ 9

/-- The AI is at work and was last heard of too long ago. -/
def aiIdle (now : Nat) (e : SessionEntry) : Bool := e.aiIsWorking && e.aiLastActivity.any fun last => aiIdleTimeout < now - last

def autoClear (now : Nat) (e : SessionEntry) : SessionEntry :=
  if aiIdle now e then
    { e with aiIsWorking := false, aiActivity := none, aiStatusMessage := none, aiLastActivity := none }
  else e

def idleExpired (now : Nat) (e : SessionEntry) : Bool :=
  0 < e.idleTimeout && e.attachedCount = 0 && e.idleTimeout * 10 ^ 9 < now - e.lastActivity

/-- The ids of the entries that pass a test, as the table lists them. -/
def idsWhere (p : String → SessionEntry → Bool) (sessions : Sessions) : List String :=
  (sessions.entries.filter fun e => p e.1 e.2).map fun e => e.1

/-- First the AI of each session, then the sessions that exited, unless the lock of
    the status is held, then those idle for too long. -/
def sweep (sessions : Sessions) (now : Nat) (contested : List String) : List SweepEvent × Sessions :=
  let cleared := Table.mapValues (autoClear now) sessions
  let dead := fun (id : String) (e : SessionEntry) => decide (id ∉ contested ∧ e.session.status = .exited)
  let living := Table.keep (fun id e => !dead id e) cleared
  let expired := fun (_ : String) (e : SessionEntry) => idleExpired now e
  ((idsWhere (fun _ e => aiIdle now e) sessions).map .aiAutoCleared ++
    (idsWhere dead cleared).map (fun id => .destroyed id "exited") ++
    (idsWhere expired living).map (fun id => .destroyed id "idle_timeout"),
    Table.keep (fun id e => !expired id e) living)

/-! ### Runs -/

inductive Operation
  | create (id : String) (creation : Creation)
  | recover (order : List (String × Nat) → List (String × Nat)) (archived : List ArchivedSession)
  | setUserAllowsAi (id : String) (allowed : Bool)
  | setAiStatus (id : String) (working : Bool) (activity message : Option String)
  | touchAiActivity (id : String)
  | attach (id : String)
  | attachShared (id : String)
  | detach (id : String)
  | detachAll (ids : List String)
  | renameSession (id name : String)
  | killSession (id : String)
  | killAll
  | sweep (contested : List String)
  /-- A task of the session reads or waits. -/
  | task (id : String) (a : Readers.Action)

structure Action where
  now : Nat
  operation : Operation

def step (maxSessions bufferSize : Nat) (sessions : Sessions) (a : Action) : Option Sessions :=
  match a.operation with
  | .create id creation => some (createSession maxSessions sessions a.now id creation).2
  | .recover order archived => some (recoverFromJournal maxSessions bufferSize a.now order sessions archived)
  | .setUserAllowsAi id allowed => some (setUserAllowsAi sessions id allowed).2
  | .setAiStatus id working activity message => some (setAiStatus sessions a.now id working activity message).2
  | .touchAiActivity id => some (touchAiActivity sessions a.now id)
  | .attach id => some (attach sessions a.now id).2
  | .attachShared id => some (attachShared sessions a.now id).2
  | .detach id => some (detach sessions a.now id)
  | .detachAll ids => some (detachAll sessions a.now ids)
  | .renameSession id name => some (renameSession sessions id name).2
  | .killSession id => some (killSession sessions id).2
  | .killAll => some ∅
  | .sweep contested => some (sweep sessions a.now contested).2
  | .task id taken => do
    let e ← sessions.lookup id
    let session ← ManagedSession.step e.session taken
    pure (sessions.insert id { e with session })

/-! ### Consent -/

/-- The AI is at work only where the user allows it and only with a time from which the
    idle clear counts, and it leaves nothing behind when it stops. -/
structure Consent (e : SessionEntry) : Prop where
  allowed : e.aiIsWorking = true → e.userAllowsAi = true
  timed : e.aiIsWorking = true → ∃ last, e.aiLastActivity = some last
  activity : e.aiIsWorking = false → e.aiActivity = none
  message : e.aiIsWorking = false → e.aiStatusMessage = none

/-- An entry whose AI is idle and said nothing. -/
theorem consent_idle {e : SessionEntry} (idle : e.aiIsWorking = false) (activity : e.aiActivity = none)
    (message : e.aiStatusMessage = none) : Consent e where
  allowed working := by rw [idle] at working; cases working
  timed working := by rw [idle] at working; cases working
  activity _ := activity
  message _ := message

/-- An entry whose AI is at work with leave. -/
theorem consent_working {e : SessionEntry} {last : Nat} (working : e.aiIsWorking = true) (allows : e.userAllowsAi = true)
    (heard : e.aiLastActivity = some last) : Consent e where
  allowed _ := allows
  timed _ := ⟨last,heard⟩
  activity idle := by rw [working] at idle; cases idle
  message idle := by rw [working] at idle; cases idle

/-- A change that leaves the fields of the AI alone. -/
theorem consent_other {e e' : SessionEntry} (consent : Consent e) (allows : e'.userAllowsAi = e.userAllowsAi)
    (working : e'.aiIsWorking = e.aiIsWorking) (activity : e'.aiActivity = e.aiActivity)
    (message : e'.aiStatusMessage = e.aiStatusMessage) (last : e'.aiLastActivity = e.aiLastActivity) : Consent e' where
  allowed := by rw [working,allows]; exact consent.allowed
  timed := by rw [working,last]; exact consent.timed
  activity := by rw [working,activity]; exact consent.activity
  message := by rw [working,message]; exact consent.message

section
variable {sessions : Sessions} {now : Nat} {id : String}

theorem consent_create {maxSessions : Nat} {creation : Creation} (all : Table.All Consent sessions) :
    Table.All Consent (createSession maxSessions sessions now id creation).2 := by
  unfold createSession
  split
  · exact all
  · exact Table.all_insert all (consent_idle rfl rfl rfl)

theorem consent_load {bufferSize : Nat} {archived : List ArchivedSession} (all : Table.All Consent sessions) :
    Table.All Consent (loadArchived bufferSize now sessions archived) := by
  unfold loadArchived
  induction archived generalizing sessions with
  | nil => exact all
  | cons arch rest ih =>
    refine ih ?_
    unfold recoverEntry
    split
    · exact all
    · exact Table.all_insert all (consent_idle rfl rfl rfl)

theorem consent_recover {maxSessions bufferSize : Nat} {order : List (String × Nat) → List (String × Nat)}
    {archived : List ArchivedSession} (all : Table.All Consent sessions) :
    Table.All Consent (recoverFromJournal maxSessions bufferSize now order sessions archived) := by
  have loaded : Table.All Consent (loadArchived bufferSize now sessions archived) := consent_load all
  unfold recoverFromJournal
  dsimp only
  generalize excess maxSessions order _ = ids
  generalize loadArchived bufferSize now sessions archived = sessions at loaded ⊢
  induction ids generalizing sessions with
  | nil => exact loaded
  | cons id rest ih => exact ih _ (Table.all_erase loaded)

theorem consent_setUserAllowsAi {allowed : Bool} (all : Table.All Consent sessions) :
    Table.All Consent (setUserAllowsAi sessions id allowed).2 := by
  unfold setUserAllowsAi
  cases found : sessions.lookup id with
  | none => exact all
  | some e =>
    have consent : Consent e := all id e found
    dsimp only
    split
    · exact Table.all_insert all (consent_idle rfl rfl rfl)
    · next stays =>
      refine Table.all_insert all ⟨fun working => ?_,consent.timed,consent.activity,consent.message⟩
      have atWork : e.aiIsWorking = true := working
      cases allowed with
      | true => rfl
      | false => simp [atWork] at stays

theorem consent_setAiStatus {working : Bool} {activity message : Option String} (all : Table.All Consent sessions) :
    Table.All Consent (setAiStatus sessions now id working activity message).2 := by
  unfold setAiStatus
  cases found : sessions.lookup id with
  | none => exact all
  | some e =>
    dsimp only
    split
    · exact all
    · next granted =>
      split
      · next working =>
        have allows : e.userAllowsAi = true := by simpa [working] using granted
        exact Table.all_insert all (consent_working rfl allows rfl)
      · exact Table.all_insert all (consent_idle rfl rfl rfl)

theorem consent_touch (all : Table.All Consent sessions) : Table.All Consent (touchAiActivity sessions now id) := by
  refine Table.all_modify all fun e consent => ?_
  by_cases working : e.aiIsWorking = true
  · rw [if_pos working]
    exact ⟨consent.allowed,fun _ => ⟨now,rfl⟩,consent.activity,consent.message⟩
  · rw [if_neg working]
    exact consent

theorem consent_rename {name : String} (all : Table.All Consent sessions) :
    Table.All Consent (renameSession sessions id name).2 := by
  unfold renameSession
  cases found : sessions.lookup id with
  | none => exact all
  | some e => exact Table.all_insert all (consent_other (all id e found) rfl rfl rfl rfl rfl)

theorem consent_detach (all : Table.All Consent sessions) : Table.All Consent (detach sessions now id) :=
  Table.all_modify all fun _ consent => consent_other consent rfl rfl rfl rfl rfl

theorem consent_detachAll {ids : List String} (all : Table.All Consent sessions) :
    Table.All Consent (detachAll sessions now ids) := by
  unfold detachAll
  induction ids generalizing sessions with
  | nil => exact all
  | cons id rest ih => exact ih (consent_detach all)

theorem consent_autoClear {e : SessionEntry} (consent : Consent e) : Consent (autoClear now e) := by
  unfold autoClear
  split
  · exact consent_idle rfl rfl rfl
  · exact consent

theorem consent_sweep {contested : List String} (all : Table.All Consent sessions) :
    Table.All Consent (sweep sessions now contested).2 :=
  Table.all_keep (Table.all_keep (Table.all_mapValues all fun _ consent => consent_autoClear consent))

end

theorem consent_step {maxSessions bufferSize : Nat} {s t : Sessions} {a : Action} (all : Table.All Consent s)
    (stepped : step maxSessions bufferSize s a = some t) : Table.All Consent t := by
  obtain ⟨now,operation⟩ := a
  cases operation with
  | create id creation => cases stepped; exact consent_create all
  | recover order archived => cases stepped; exact consent_recover all
  | setUserAllowsAi id allowed => cases stepped; exact consent_setUserAllowsAi all
  | setAiStatus id working activity message => cases stepped; exact consent_setAiStatus all
  | touchAiActivity id => cases stepped; exact consent_touch all
  | attach id => cases stepped; exact Table.all_modify all fun _ consent => consent_other consent rfl rfl rfl rfl rfl
  | attachShared id => cases stepped; exact Table.all_modify all fun _ consent => consent_other consent rfl rfl rfl rfl rfl
  | detach id => cases stepped; exact consent_detach all
  | detachAll ids => cases stepped; exact consent_detachAll all
  | renameSession id name => cases stepped; exact consent_rename all
  | killSession id => cases stepped; exact Table.all_erase all
  | killAll => cases stepped; exact Table.all_empty
  | sweep contested => cases stepped; exact consent_sweep all
  | task id taken =>
    simp only [step,Option.bind_eq_bind,Option.bind_eq_some_iff,Option.pure_def,Option.some.injEq] at stepped
    obtain ⟨e,found,session,-,rfl⟩ := stepped
    exact Table.all_insert all (consent_other (all id e found) rfl rfl rfl rfl rfl)

/-- A sweep leaves no AI at work that was last heard of more than a minute before it. -/
theorem sweep_clears {sessions : Sessions} {now last : Nat} {contested : List String} {id : String} {e : SessionEntry}
    (found : (sweep sessions now contested).2.lookup id = some e) (working : e.aiIsWorking = true)
    (heard : e.aiLastActivity = some last) : now - last ≤ aiIdleTimeout := by
  have kept := (Table.lookup_keep_iff.mp (Table.lookup_keep_iff.mp found).1).1
  rw [Table.lookup_mapValues] at kept
  obtain ⟨before,-,rfl⟩ := Option.map_eq_some_iff.mp kept
  unfold autoClear at working heard
  split at working
  · cases working
  · next awake =>
    rw [if_neg awake] at heard
    simp only [aiIdle,working,heard,Option.any_some,Bool.true_and,decide_eq_true_eq] at awake
    omega

theorem setAiStatus_rejected {sessions : Sessions} {now : Nat} {id error : String} {working : Bool}
    {activity message : Option String}
    (rejected : (setAiStatus sessions now id working activity message).1 = .error error) :
    (setAiStatus sessions now id working activity message).2 = sessions := by
  unfold setAiStatus at rejected ⊢
  cases found : sessions.lookup id with
  | none => rfl
  | some e =>
    simp only [found] at rejected ⊢
    split
    · rfl
    · next granted =>
      rw [if_neg granted] at rejected
      split at rejected <;> cases rejected

/-- What the users of the table rely on. -/
structure Permitted (sessions : Sessions) : Prop where
  consent : ∀ id e, sessions.lookup id = some e → Consent e
  cleared : ∀ now contested id e last, (sweep sessions now contested).2.lookup id = some e → e.aiIsWorking = true →
    e.aiLastActivity = some last → now - last ≤ aiIdleTimeout
  rejected : ∀ now id working activity message error,
    (setAiStatus sessions now id working activity message).1 = .error error →
      (setAiStatus sessions now id working activity message).2 = sessions

theorem ai_permission (maxSessions bufferSize : Nat) (actions : List Action) :
    Always (step maxSessions bufferSize) Permitted ∅ actions :=
  always_of_preserves (fun _ _ _ all stepped => consent_step all stepped)
    (fun _ all => ⟨all,fun _ _ _ _ _ found working heard => sweep_clears found working heard,
      fun _ _ _ _ _ _ rejected => setAiStatus_rejected rejected⟩) Table.all_empty

end Sctl.SessionManager
