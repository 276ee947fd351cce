import Sctl.Json
import Sctl.SessionManager

/-!
What listeners are told about the AI of a session. A handler of
`session.allow_ai` or `session.ai_status`, on a direct connection or on the
tunnel, updates the manager under its lock and broadcasts its events after the
lock is released; the sweep does the same with what it clears. Updates of one
order can so be broadcast in another, and an event carries what the request
said, not what the manager stored.
-/
namespace Sctl.AiBroadcasts
open Sctl.Runs Sctl.SessionManager

/-- What is broadcast to every listener; both transports and the sweep send the same fields. -/
inductive Event
  | aiPermissionChanged (sessionId : String) (allowed : Bool)
  | aiStatusChanged (sessionId : String) (working : Bool) (activity message : Option String)
  | destroyed (sessionId reason : String)
deriving DecidableEq

/-! ### Handlers -/

/-- A request handled: the manager, the reply to the client, and what is broadcast after it. -/
structure Handled where
  sessions : Sessions
  reply : Option Json
  events : List Event

def error (code message : String) (sessionId requestId : Option String) : Json :=
  .record [("type",some (.string "error")),("code",some (.string code)),("message",some (.string message)),
    ("session_id",sessionId.map .string),("request_id",requestId.map .string)]

def allowAiAck (sessionId : String) (allowed : Bool) (requestId : Option String) : Json :=
  .record [("type",some (.string "session.allow_ai.ack")),("session_id",some (.string sessionId)),
    ("allowed",some (.bool allowed)),("request_id",requestId.map .string)]

def aiStatusAck (sessionId : String) (working : Bool) (activity message requestId : Option String) : Json :=
  .record [("type",some (.string "session.ai_status.ack")),("session_id",some (.string sessionId)),
    ("working",some (.bool working)),("activity",activity.map .string),("message",message.map .string),
    ("request_id",requestId.map .string)]

/-- The arm of `session.allow_ai`, where `missing` is the reply to a message without its fields. -/
def allowAi (missing : Option String → Option Json) (sessions : Sessions) (msg : Json) : Handled :=
  let sessionId := (msg.str "session_id").getD ""
  let requestId := msg.str "request_id"
  match msg.flag "allowed" with
  | some allowed =>
    if sessionId = "" then ⟨sessions,missing requestId,[]⟩
    else
      match setUserAllowsAi sessions sessionId allowed with
      | (.ok aiCleared,updated) =>
        ⟨updated,some (allowAiAck sessionId allowed requestId),
          .aiPermissionChanged sessionId allowed ::
            if aiCleared then [.aiStatusChanged sessionId false none none] else []⟩
      | (.error e,updated) => ⟨updated,some (error "SESSION_NOT_FOUND" e (some sessionId) requestId),[]⟩
  | none => ⟨sessions,missing requestId,[]⟩

/-- The arm of `session.ai_status`. -/
def aiStatus (missing : Option String → Option Json) (sessions : Sessions) (now : Nat) (msg : Json) : Handled :=
  let sessionId := (msg.str "session_id").getD ""
  let requestId := msg.str "request_id"
  match msg.flag "working" with
  | some working =>
    if sessionId = "" then ⟨sessions,missing requestId,[]⟩
    else
      let activity := msg.str "activity"
      let message := msg.str "message"
      match setAiStatus sessions now sessionId working activity message with
      | (.ok (),updated) =>
        ⟨updated,some (aiStatusAck sessionId working activity message requestId),
          [.aiStatusChanged sessionId working activity message]⟩
      | (.error e,updated) => ⟨updated,some (error "AI_NOT_ALLOWED" e (some sessionId) requestId),[]⟩
  | none => ⟨sessions,missing requestId,[]⟩

inductive Transport
  | direct
  | tunnel
deriving DecidableEq

/-- A direct connection is told what was missing, the tunnel nothing. -/
def missingField (message : String) : Transport → Option String → Option Json
  | .direct, requestId => some (error "MISSING_FIELD" message none requestId)
  | .tunnel, _ => none

def handleAllowAi (transport : Transport) : Sessions → Json → Handled :=
  allowAi (missingField "session_id and allowed (bool) are required" transport)

def handleAiStatus (transport : Transport) : Sessions → Nat → Json → Handled :=
  aiStatus (missingField "session_id and working (bool) are required" transport)

/-! ### Runs -/

structure State where
  sessions : Sessions
  /-- Every event that an update called for, in the order of the updates. -/
  made : List Event
  /-- Handlers and sweeps past their update, with the places in `made` of what they have still to send. -/
  tasks : List (List Nat)
  /-- The places in `made` of what was broadcast, in order. -/
  sent : List Nat

def start (sessions : Sessions) : State := ⟨sessions,[],[],[]⟩

inductive Action
  | allowAi (transport : Transport) (msg : Json)
  | aiStatus (transport : Transport) (now : Nat) (msg : Json)
  | sweep (now : Nat) (contested : List String)
  | broadcast (task : Nat)
  /-- Another operation of the manager. -/
  | other (a : SessionManager.Action)

/-- What the sweep task broadcasts. -/
def sweepEvent : SweepEvent → Event
  | .destroyed id reason => .destroyed id reason
  | .aiAutoCleared id => .aiStatusChanged id false none none

/-- The manager was updated, and a task is to broadcast the events. -/
def State.update (s : State) (sessions : Sessions) (events : List Event) : State :=
  { s with
    sessions
    made := s.made ++ events
    tasks := s.tasks ++ [List.range' s.made.length events.length] }

/-- Operations that neither bring sessions nor change what is known of their AI. -/
def keepsAi : Operation → Bool
  | .create .. | .recover .. | .setUserAllowsAi .. | .setAiStatus .. | .sweep .. => false
  | _ => true

def step (maxSessions bufferSize : Nat) (s : State) : Action → Option State
  | .allowAi transport msg =>
    let handled := handleAllowAi transport s.sessions msg
    some (s.update handled.sessions handled.events)
  | .aiStatus transport now msg =>
    let handled := handleAiStatus transport s.sessions now msg
    some (s.update handled.sessions handled.events)
  | .sweep now contested =>
    let swept := SessionManager.sweep s.sessions now contested
    some (s.update swept.2 (swept.1.map sweepEvent))
  | .broadcast task =>
    match s.tasks[task]? with
    | some (n :: rest) => some { s with tasks := s.tasks.set task rest, sent := s.sent ++ [n] }
    | _ => none
  | .other a =>
    if keepsAi a.operation then
      (SessionManager.step maxSessions bufferSize s.sessions a).map fun sessions => { s with sessions }
    else none

/-- Nobody has anything left to broadcast. -/
def State.finished (s : State) : Prop := ∀ task ∈ s.tasks, task = []

/-- The events broadcast, in order. -/
def State.heard (s : State) : List Event := s.sent.filterMap fun n => s.made[n]?

/-! ### Listeners -/

/-- What a listener knows of the AI of a session. -/
structure View where
  userAllowsAi : Bool
  aiIsWorking : Bool
  aiActivity : Option String
  aiStatusMessage : Option String
deriving DecidableEq

def viewOf (e : SessionEntry) : View := ⟨e.userAllowsAi,e.aiIsWorking,e.aiActivity,e.aiStatusMessage⟩

def hear (view : String → View) : Event → String → View
  | .aiPermissionChanged id allowed => Function.update view id { view id with userAllowsAi := allowed }
  | .aiStatusChanged id working activity message =>
    Function.update view id { view id with aiIsWorking := working, aiActivity := activity, aiStatusMessage := message }
  | .destroyed .. => view

/-- A listener that knows the sessions when it begins to listen. -/
def known (sessions : Sessions) (id : String) : View :=
  ((sessions.lookup id).map viewOf).getD ⟨true,false,none,none⟩

/-- A listener that began with `first` and applied every event has what the manager has. -/
def Agrees (first : Sessions) (s : State) : Prop :=
  ∀ id e, s.sessions.lookup id = some e → s.heard.foldl hear (known first) id = viewOf e

/-! ### The condition -/

/-- The two things that events tell of a session. -/
inductive Kind
  | permission
  | status
deriving DecidableEq

def Event.about : Event → Option (Kind × String)
  | .aiPermissionChanged id _ => some (.permission,id)
  | .aiStatusChanged id .. => some (.status,id)
  | .destroyed .. => none

/-- The last event of a kind about a session. -/
def lastAbout (kind : Kind) (id : String) (events : List Event) : Option Event :=
  (events.filter fun e => e.about = some (kind,id)).getLast?

/-- What an event says once the manager has cleared what an idle AI said. -/
def Event.stored : Event → Event
  | .aiStatusChanged id false _ _ => .aiStatusChanged id false none none
  | e => e

/-- The event of each kind that was broadcast last says what the last update stored. -/
def LastTold (s : State) : Prop :=
  ∀ id ∈ s.sessions, ∀ kind, lastAbout kind id s.heard = (lastAbout kind id s.made).map Event.stored

/-- What the event at a place of `made` is about. -/
def State.topic (s : State) (n : Nat) : Option (Kind × String) := s.made[n]?.bind Event.about

/-- An event is broadcast before those of later updates of its kind and session, and an AI that
    stops says nothing. -/
def inOrder (s : State) : Action → Bool
  | .broadcast task =>
    match s.tasks[task]? with
    | some (n :: _) => (s.topic n).isNone || s.tasks.flatten.all fun m => s.topic m != s.topic n || n ≤ m
    | _ => true
  | .aiStatus _ _ msg =>
    msg.flag "working" != some false || ((msg.str "activity").isNone && (msg.str "message").isNone)
  | _ => true

/-! ### The last event decides -/

/-- What a view says, as events. -/
def View.tells (v : View) (id : String) : Kind → Event
  | .permission => .aiPermissionChanged id v.userAllowsAi
  | .status => .aiStatusChanged id v.aiIsWorking v.aiActivity v.aiStatusMessage

theorem tells_same {v w : View} {id : String} : (∀ kind, v.tells id kind = w.tells id kind) ↔ v = w := by
  constructor
  · intro same
    have permission := same .permission
    have status := same .status
    simp only [View.tells,Event.aiPermissionChanged.injEq,Event.aiStatusChanged.injEq,true_and] at permission status
    cases v
    cases w
    simp only [View.mk.injEq]
    exact ⟨permission,status⟩
  · rintro rfl kind
    rfl

theorem hear_tells (view : String → View) (e : Event) (id : String) (kind : Kind) :
    (hear view e id).tells id kind = if e.about = some (kind,id) then e else (view id).tells id kind := by
  cases e with
  | aiPermissionChanged about allowed =>
    by_cases here : id = about
    · subst here
      cases kind <;> simp [hear,View.tells,Event.about]
    · have other : about ≠ id := Ne.symm here
      simp [hear,Event.about,Function.update_of_ne here,other]
  | aiStatusChanged about working activity message =>
    by_cases here : id = about
    · subst here
      cases kind <;> simp [hear,View.tells,Event.about]
    · have other : about ≠ id := Ne.symm here
      simp [hear,Event.about,Function.update_of_ne here,other]
  | destroyed about reason => simp [hear,Event.about]

theorem lastAbout_append (kind : Kind) (id : String) (first second : List Event) :
    lastAbout kind id (first ++ second) = (lastAbout kind id second).or (lastAbout kind id first) := by
  rw [lastAbout,List.filter_append,List.getLast?_append]
  rfl

theorem lastAbout_eq_none {kind : Kind} {id : String} {events : List Event} :
    lastAbout kind id events = none ↔ ∀ e ∈ events, e.about ≠ some (kind,id) := by
  simp [lastAbout]

theorem foldl_hear_tells (events : List Event) (view : String → View) (id : String) (kind : Kind) :
    (events.foldl hear view id).tells id kind = (lastAbout kind id events).getD ((view id).tells id kind) := by
  induction events using List.reverseRecOn with
  | nil => rfl
  | append_singleton events e ih =>
    rw [List.foldl_append,List.foldl_cons,List.foldl_nil,hear_tells,ih,lastAbout_append]
    by_cases here : e.about = some (kind,id)
    · simp [lastAbout,here]
    · simp [lastAbout,here]

/-! ### The manager follows its updates -/

/-- What the sessions after an update say is what the events say, as it was stored, and else what
    they said before. -/
def Updated (before after : Sessions) (events : List Event) : Prop :=
  ∀ id e', after.lookup id = some e' → ∃ e, before.lookup id = some e ∧
    ∀ kind, (viewOf e').tells id kind = ((lastAbout kind id events).map Event.stored).getD ((viewOf e).tells id kind)

section
variable {sessions between after : Sessions} {id : String} {now : Nat}

theorem updated_same (same : ∀ id e', after.lookup id = some e' → ∃ e, sessions.lookup id = some e ∧ viewOf e' = viewOf e) :
    Updated sessions after [] := by
  intro id e' found
  obtain ⟨e,before,view⟩ := same id e' found
  exact ⟨e,before,fun kind => by rw [view]; rfl⟩

theorem updated_refl : Updated sessions sessions [] := updated_same fun _ e found => ⟨e,found,rfl⟩

theorem updated_modify {f : SessionEntry → SessionEntry} (keeps : ∀ e, viewOf (f e) = viewOf e) :
    Updated sessions (Table.modify id f sessions) [] := by
  refine updated_same fun id' e' found => ?_
  rw [Table.lookup_modify] at found
  by_cases here : id' = id
  · subst here
    rw [if_pos rfl] at found
    obtain ⟨e,before,rfl⟩ := Option.map_eq_some_iff.mp found
    exact ⟨e,before,keeps e⟩
  · rw [if_neg here] at found
    exact ⟨e',found,rfl⟩

/-- An entry is replaced by one of which the events tell. -/
theorem updated_insert {e e' : SessionEntry} {events : List Event} (found : sessions.lookup id = some e)
    (others : ∀ event ∈ events, ∀ kind other, event.about = some (kind,other) → other = id)
    (told : ∀ kind, (viewOf e').tells id kind = ((lastAbout kind id events).map Event.stored).getD ((viewOf e).tells id kind)) :
    Updated sessions (sessions.insert id e') events := by
  intro id' e'' found'
  rw [Table.lookup_insert_eq] at found'
  by_cases here : id' = id
  · subst here
    rw [if_pos rfl] at found'
    cases found'
    exact ⟨e,found,told⟩
  · rw [if_neg here] at found'
    refine ⟨e'',found',fun kind => ?_⟩
    have silent : lastAbout kind id' events = none := by
      rw [lastAbout,List.getLast?_eq_none_iff,List.filter_eq_nil_iff]
      intro event member about
      exact here (others event member kind id' (of_decide_eq_true about))
    rw [silent]
    rfl

theorem updated_trans {events : List Event} (first : Updated sessions between []) (second : Updated between after events) :
    Updated sessions after events := by
  intro id e'' found
  obtain ⟨e',there,told⟩ := second id e'' found
  obtain ⟨e,before,same⟩ := first id e' there
  refine ⟨e,before,fun kind => ?_⟩
  rw [told kind,same kind]
  rfl

theorem updated_detachAll (ids : List String) : Updated sessions (detachAll sessions now ids) [] := by
  unfold detachAll
  induction ids generalizing sessions with
  | nil => exact updated_refl
  | cons id rest ih =>
    have first : Updated sessions (detach sessions now id) [] := updated_modify fun _ => rfl
    exact updated_trans first ih

/-- What the manager answers to a permission, and what it then holds of the session. -/
theorem setUserAllowsAi_result {allowed : Bool} {result : Except String Bool}
    (set : setUserAllowsAi sessions id allowed = (result,after)) :
    (∃ e e', sessions.lookup id = some e ∧ after = sessions.insert id e' ∧
      ((result = .ok true ∧ viewOf e' = ⟨allowed,false,none,none⟩) ∨
        (result = .ok false ∧ viewOf e' = { viewOf e with userAllowsAi := allowed }))) ∨
      (after = sessions ∧ ∃ message, result = .error message) := by
  unfold setUserAllowsAi at set
  cases found : sessions.lookup id with
  | none =>
    rw [found] at set
    cases set
    exact .inr ⟨rfl,_,rfl⟩
  | some e =>
    rw [found] at set
    dsimp only at set
    left
    by_cases clears : (!allowed && e.aiIsWorking) = true
    · rw [if_pos clears] at set
      cases set
      exact ⟨e,_,rfl,rfl,.inl ⟨rfl,rfl⟩⟩
    · rw [if_neg clears] at set
      cases set
      exact ⟨e,_,rfl,rfl,.inr ⟨rfl,rfl⟩⟩

theorem setAiStatus_result {working : Bool} {activity message : Option String} {result : Except String Unit}
    (set : setAiStatus sessions now id working activity message = (result,after)) :
    (∃ e e', sessions.lookup id = some e ∧ after = sessions.insert id e' ∧ result = .ok () ∧
      viewOf e' = ⟨e.userAllowsAi,working,if working then activity else none,if working then message else none⟩) ∨
      (after = sessions ∧ ∃ message, result = .error message) := by
  unfold setAiStatus at set
  cases found : sessions.lookup id with
  | none =>
    rw [found] at set
    cases set
    exact .inr ⟨rfl,_,rfl⟩
  | some e =>
    rw [found] at set
    dsimp only at set
    by_cases refused : (working && !e.userAllowsAi) = true
    · rw [if_pos refused] at set
      cases set
      exact .inr ⟨rfl,_,rfl⟩
    · rw [if_neg refused] at set
      left
      cases working with
      | true => cases set; exact ⟨e,_,rfl,rfl,rfl,rfl⟩
      | false => cases set; exact ⟨e,_,rfl,rfl,rfl,rfl⟩

theorem updated_allowAi {missing : Option String → Option Json} {msg : Json} :
    Updated sessions (allowAi missing sessions msg).sessions (allowAi missing sessions msg).events := by
  unfold allowAi
  dsimp only
  cases msg.flag "allowed" with
  | none => exact updated_refl
  | some allowed =>
    dsimp only
    by_cases empty : (msg.str "session_id").getD "" = ""
    · rw [if_pos empty]
      exact updated_refl
    · rw [if_neg empty]
      generalize (msg.str "session_id").getD "" = id
      cases set : setUserAllowsAi sessions id allowed with
      | mk result after =>
        rcases setUserAllowsAi_result set with ⟨e,e',found,rfl,⟨rfl,view⟩ | ⟨rfl,view⟩⟩ | ⟨rfl,message,rfl⟩
        · refine updated_insert found ?_ fun kind => ?_
          · intro event member kind other about
            rcases List.mem_cons.mp member with rfl | rest
            · exact (Prod.mk.inj (Option.some.inj about)).2.symm
            · rw [List.mem_singleton.mp rest] at about
              exact (Prod.mk.inj (Option.some.inj about)).2.symm
          · rw [view]
            cases kind <;> simp [lastAbout,Event.about,Event.stored,View.tells]
        · refine updated_insert found ?_ fun kind => ?_
          · intro event member kind other about
            rw [List.mem_singleton.mp member] at about
            exact (Prod.mk.inj (Option.some.inj about)).2.symm
          · rw [view]
            cases kind <;> simp [lastAbout,Event.about,Event.stored,View.tells]
        · exact updated_refl

theorem updated_aiStatus {missing : Option String → Option Json} {msg : Json} :
    Updated sessions (aiStatus missing sessions now msg).sessions (aiStatus missing sessions now msg).events := by
  unfold aiStatus
  dsimp only
  cases msg.flag "working" with
  | none => exact updated_refl
  | some working =>
    dsimp only
    by_cases empty : (msg.str "session_id").getD "" = ""
    · rw [if_pos empty]
      exact updated_refl
    · rw [if_neg empty]
      generalize (msg.str "session_id").getD "" = id
      cases set : setAiStatus sessions now id working (msg.str "activity") (msg.str "message") with
      | mk result after =>
        rcases setAiStatus_result set with ⟨e,e',found,rfl,rfl,view⟩ | ⟨rfl,message,rfl⟩
        · refine updated_insert found ?_ fun kind => ?_
          · intro event member kind other about
            rw [List.mem_singleton.mp member] at about
            exact (Prod.mk.inj (Option.some.inj about)).2.symm
          · rw [view]
            cases kind <;> cases working <;> simp [lastAbout,Event.about,Event.stored,View.tells,viewOf]
        · exact updated_refl

/-- The sweep tells of the AIs that it clears; the sessions that it removes are gone. -/
theorem updated_sweep (contested : List String) :
    Updated sessions (sweep sessions now contested).2 ((sweep sessions now contested).1.map sweepEvent) := by
  intro id e' found
  have kept := (Table.lookup_keep_iff.mp (Table.lookup_keep_iff.mp found).1).1
  rw [Table.lookup_mapValues] at kept
  obtain ⟨e,before,rfl⟩ := Option.map_eq_some_iff.mp kept
  refine ⟨e,before,fun kind => ?_⟩
  have cleared : ∀ event ∈ (sweep sessions now contested).1.map sweepEvent, event.about = some (kind,id) →
      kind = .status ∧ event = .aiStatusChanged id false none none ∧ aiIdle now e = true := by
    intro event member about
    obtain ⟨swept,within,rfl⟩ := List.mem_map.mp member
    simp only [sweep,idsWhere,List.mem_append,List.mem_map,List.mem_filter] at within
    rcases within with (⟨other,⟨entry,⟨listed,idle⟩,rfl⟩,rfl⟩ | ⟨other,-,rfl⟩) | ⟨other,-,rfl⟩
    · obtain ⟨rfl,same⟩ := Prod.mk.inj (Option.some.inj about)
      subst same
      have here : sessions.lookup entry.1 = some entry.2 := Table.lookup_eq_some_iff.mpr listed
      cases here.symm.trans before
      exact ⟨rfl,rfl,idle⟩
    · cases about
    · cases about
  by_cases idle : aiIdle now e = true ∧ kind = .status
  · obtain ⟨idle,rfl⟩ := idle
    have told : Event.aiStatusChanged id false none none ∈ (sweep sessions now contested).1.map sweepEvent := by
      refine List.mem_map.mpr ⟨.aiAutoCleared id,?_,rfl⟩
      simp only [sweep,idsWhere,List.mem_append,List.mem_map,List.mem_filter]
      exact .inl (.inl ⟨id,⟨⟨id,e⟩,⟨Table.lookup_eq_some_iff.mp before,idle⟩,rfl⟩,rfl⟩)
    have last : lastAbout .status id ((sweep sessions now contested).1.map sweepEvent) =
        some (.aiStatusChanged id false none none) := by
      cases there : lastAbout .status id ((sweep sessions now contested).1.map sweepEvent) with
      | none =>
        rw [lastAbout,List.getLast?_eq_none_iff,List.filter_eq_nil_iff] at there
        exact absurd (decide_eq_true rfl) (there _ told)
      | some event =>
        obtain ⟨within,about⟩ := List.mem_filter.mp (List.mem_of_getLast? there)
        rw [(cleared event within (of_decide_eq_true about)).2.1]
    rw [last,autoClear,if_pos idle]
    rfl
  · have silent : lastAbout kind id ((sweep sessions now contested).1.map sweepEvent) = none := by
      rw [lastAbout,List.getLast?_eq_none_iff,List.filter_eq_nil_iff]
      intro event member about
      obtain ⟨status,-,stops⟩ := cleared event member (of_decide_eq_true about)
      exact idle ⟨stops,status⟩
    rw [silent,autoClear]
    by_cases stops : aiIdle now e = true
    · rw [if_pos stops]
      cases kind with
      | permission => rfl
      | status => exact absurd ⟨stops,rfl⟩ idle
    · rw [if_neg stops]
      rfl

theorem updated_other {maxSessions bufferSize : Nat} {a : SessionManager.Action} (keeps : keepsAi a.operation = true)
    (stepped : SessionManager.step maxSessions bufferSize sessions a = some after) : Updated sessions after [] := by
  obtain ⟨now,operation⟩ := a
  cases operation with
  | create id creation | recover order archived | setUserAllowsAi id allowed | setAiStatus id working activity message
  | sweep contested => cases keeps
  | touchAiActivity id =>
    cases stepped
    refine updated_modify fun e => ?_
    by_cases working : e.aiIsWorking = true
    · rw [if_pos working]; rfl
    · rw [if_neg working]
  | attach id | attachShared id | detach id =>
    cases stepped
    exact updated_modify fun _ => rfl
  | detachAll ids => cases stepped; exact updated_detachAll ids
  | renameSession id name =>
    cases stepped
    unfold renameSession
    cases found : sessions.lookup id with
    | none => exact updated_refl
    | some e => exact updated_insert found (fun _ member => by cases member) fun _ => rfl
  | killSession id =>
    cases stepped
    refine updated_same fun id' e found => ⟨e,?_,rfl⟩
    have kept : (sessions.erase id).lookup id' = some e := found
    rw [Table.lookup_erase_eq] at kept
    by_cases here : id' = id
    · rw [if_pos here] at kept; cases kept
    · rwa [if_neg here] at kept
  | killAll =>
    cases stepped
    intro id e found
    rw [AList.lookup_empty] at found
    cases found
  | task id taken =>
    simp only [SessionManager.step,Option.bind_eq_bind,Option.bind_eq_some_iff,Option.pure_def,Option.some.injEq] at stepped
    obtain ⟨e,found,session,-,rfl⟩ := stepped
    exact updated_insert found (fun _ member => by cases member) fun _ => rfl

end

/-! ### Whole runs -/

/-- The manager follows its updates, and each event is to be sent once. -/
structure Kept (first : Sessions) (s : State) : Prop where
  follows : ∀ id e, s.sessions.lookup id = some e → ∀ kind,
    (viewOf e).tells id kind = ((lastAbout kind id s.made).map Event.stored).getD ((known first id).tells id kind)
  numbered : (s.sent ++ s.tasks.flatten).Perm (List.range s.made.length)

section
variable {maxSessions bufferSize : Nat} {first : Sessions} {s t : State} {a : Action}

theorem kept_update {sessions : Sessions} {events : List Event} (kept : Kept first s)
    (updated : Updated s.sessions sessions events) : Kept first (s.update sessions events) := by
  constructor
  · intro id e' found kind
    obtain ⟨e,before,told⟩ := updated id e' found
    rw [told kind,kept.follows id e before kind]
    simp only [State.update,lastAbout_append]
    cases lastAbout kind id events <;> rfl
  · simp only [State.update,List.flatten_append,List.flatten_singleton,List.length_append,List.range_add,
      ← List.append_assoc,List.range'_eq_map_range]
    exact kept.numbered.append_right _

theorem kept_start (first : Sessions) : Kept first (start first) := by
  constructor
  · intro id e found kind
    have there : first.lookup id = some e := found
    rw [known,there]
    rfl
  · exact List.Perm.refl _

/-- A task that sends its next event. -/
theorem broadcast_flatten {task n : Nat} {rest : List Nat} (here : s.tasks[task]? = some (n :: rest)) :
    s.tasks.flatten.Perm (n :: (s.tasks.set task rest).flatten) := by
  obtain ⟨before,after,whole,-,moved⟩ := Tasks.set_split here rest
  rw [moved,whole]
  simp only [List.flatten_append,List.flatten_cons,List.cons_append]
  exact List.perm_middle

theorem step_broadcast {task : Nat} (stepped : step maxSessions bufferSize s (.broadcast task) = some t) :
    ∃ n rest, s.tasks[task]? = some (n :: rest) ∧ t = { s with tasks := s.tasks.set task rest, sent := s.sent ++ [n] } := by
  simp only [step] at stepped
  split at stepped
  · next n rest here => cases stepped; exact ⟨n,rest,here,rfl⟩
  · cases stepped

theorem kept_step (kept : Kept first s) (stepped : step maxSessions bufferSize s a = some t) : Kept first t := by
  cases a with
  | allowAi transport msg => cases stepped; exact kept_update kept updated_allowAi
  | aiStatus transport now msg => cases stepped; exact kept_update kept updated_aiStatus
  | sweep now contested => cases stepped; exact kept_update kept (updated_sweep contested)
  | broadcast task =>
    obtain ⟨n,rest,here,rfl⟩ := step_broadcast stepped
    refine ⟨kept.follows,?_⟩
    have moved := (broadcast_flatten here).append_left s.sent
    simp only [List.append_assoc,List.singleton_append]
    exact moved.symm.trans kept.numbered
  | other a =>
    simp only [step,Option.ite_none_right_eq_some,Option.map_eq_some_iff] at stepped
    obtain ⟨keeps,sessions,done,rfl⟩ := stepped
    refine ⟨fun id e' found kind => ?_,kept.numbered⟩
    obtain ⟨e,before,told⟩ := updated_other keeps done id e' found
    rw [told kind]
    exact kept.follows id e before kind

theorem filterMap_range_getElem? (events : List Event) : (List.range events.length).filterMap (events[·]?) = events := by
  induction events using List.reverseRecOn with
  | nil => rfl
  | append_singleton events e ih =>
    rw [List.length_append,List.length_singleton,List.range_succ,List.filterMap_append]
    have earlier : (List.range events.length).filterMap ((events ++ [e])[·]?) =
        (List.range events.length).filterMap (events[·]?) := by
      apply List.filterMap_congr
      intro n member
      rw [List.getElem?_append_left (List.mem_range.mp member)]
    rw [earlier,ih]
    simp

theorem sent_perm (kept : Kept first s) (finished : s.finished) : s.sent.Perm (List.range s.made.length) := by
  have none_ : s.tasks.flatten = [] := List.flatten_eq_nil_iff.mpr finished
  have numbered := kept.numbered
  rwa [none_,List.append_nil] at numbered

/-- When nobody has anything left to send, a listener agrees exactly if it was told last what was
    stored last. -/
theorem agrees_iff (kept : Kept first s) (finished : s.finished) : Agrees first s ↔ LastTold s := by
  have heard : s.heard.Perm s.made := by
    have same := (sent_perm kept finished).filterMap (s.made[·]?)
    rwa [filterMap_range_getElem?] at same
  have pointwise : ∀ id e, s.sessions.lookup id = some e → ∀ kind,
      ((s.heard.foldl hear (known first) id).tells id kind = (viewOf e).tells id kind ↔
        lastAbout kind id s.heard = (lastAbout kind id s.made).map Event.stored) := by
    intro id e found kind
    rw [foldl_hear_tells,kept.follows id e found kind]
    have both : lastAbout kind id s.heard = none ↔ lastAbout kind id s.made = none := by
      simp only [lastAbout_eq_none,heard.mem_iff]
    cases told : lastAbout kind id s.heard with
    | none => rw [both.mp told]; exact iff_of_true rfl rfl
    | some event =>
      cases made : lastAbout kind id s.made with
      | none => rw [both.mpr made] at told; cases told
      | some last => simp
  constructor
  · intro agrees id present kind
    obtain ⟨e,found⟩ := Option.isSome_iff_exists.mp (AList.lookup_isSome.mpr present)
    exact (pointwise id e found kind).mp (by rw [agrees id e found])
  · intro told id e found
    refine tells_same.mp fun kind => (pointwise id e found kind).mpr ?_
    exact told id (AList.lookup_isSome.mp (by rw [found]; rfl)) kind

/-! ### Events in the order of the updates -/

/-- What was sent of a kind and session is in order and before what is left of it. -/
structure Ordered (s : State) : Prop where
  sorted : ∀ about, (s.sent.filter fun n => s.topic n = some about).Pairwise (· < ·)
  ahead : ∀ about, ∀ n ∈ s.sent, ∀ m ∈ s.tasks.flatten, s.topic n = some about → s.topic m = some about → n < m
  plain : ∀ e ∈ s.made, e.stored = e

theorem topic_update {sessions : Sessions} {events : List Event} {n : Nat} (old : n < s.made.length) :
    (s.update sessions events).topic n = s.topic n := by
  simp only [State.topic,State.update,List.getElem?_append_left old]

theorem sent_lt (kept : Kept first s) {n : Nat} (member : n ∈ s.sent) : n < s.made.length :=
  List.mem_range.mp (kept.numbered.mem_iff.mp (List.mem_append_left _ member))

theorem ordered_update {sessions : Sessions} {events : List Event} (kept : Kept first s) (ordered : Ordered s)
    (plain : ∀ e ∈ events, e.stored = e) : Ordered (s.update sessions events) := by
  constructor
  · intro about
    have same : (s.sent.filter fun n => (s.update sessions events).topic n = some about) =
        s.sent.filter fun n => s.topic n = some about := by
      apply List.filter_congr
      intro n member
      rw [topic_update (sent_lt kept member)]
    exact same ▸ ordered.sorted about
  · intro about n sent m left here there
    have before := sent_lt kept sent
    rw [topic_update before] at here
    simp only [State.update,List.flatten_append,List.flatten_singleton] at left
    rcases List.mem_append.mp left with old | new
    · have bound : m < s.made.length := List.mem_range.mp (kept.numbered.mem_iff.mp (List.mem_append_right _ old))
      rw [topic_update bound] at there
      exact ordered.ahead about n sent m old here there
    · exact Nat.lt_of_lt_of_le before (List.mem_range'_1.mp new).1
  · intro e member
    exact (List.mem_append.mp member).elim (ordered.plain e) (plain e)

theorem plain_allowAi {missing : Option String → Option Json} {sessions : Sessions} {msg : Json} :
    ∀ e ∈ (allowAi missing sessions msg).events, e.stored = e := by
  intro e member
  unfold allowAi at member
  dsimp only at member
  split at member
  · split at member
    · cases member
    · split at member
      · rcases List.mem_cons.mp member with rfl | rest
        · rfl
        · split at rest
          · rw [List.mem_singleton.mp rest]; rfl
          · cases rest
      · cases member
  · cases member

theorem plain_aiStatus {missing : Option String → Option Json} {sessions : Sessions} {now : Nat} {msg : Json}
    (silent : (msg.flag "working" != some false || ((msg.str "activity").isNone && (msg.str "message").isNone)) = true) :
    ∀ e ∈ (aiStatus missing sessions now msg).events, e.stored = e := by
  intro e member
  unfold aiStatus at member
  dsimp only at member
  split at member
  · next working flag =>
    split at member
    · cases member
    · split at member
      · rw [List.mem_singleton.mp member]
        cases working with
        | true => rfl
        | false =>
          rw [flag] at silent
          simp only [bne_self_eq_false,Bool.false_or,Bool.and_eq_true,Option.isNone_iff_eq_none] at silent
          rw [silent.1,silent.2]
          rfl
      · cases member
  · cases member

theorem ordered_step (kept : Kept first s) (ordered : Ordered s) (turn : inOrder s a = true)
    (stepped : step maxSessions bufferSize s a = some t) : Ordered t := by
  cases a with
  | allowAi transport msg => cases stepped; exact ordered_update kept ordered plain_allowAi
  | aiStatus transport now msg => cases stepped; exact ordered_update kept ordered (plain_aiStatus turn)
  | sweep now contested =>
    cases stepped
    refine ordered_update kept ordered fun e member => ?_
    obtain ⟨swept,-,rfl⟩ := List.mem_map.mp member
    cases swept <;> rfl
  | broadcast task =>
    obtain ⟨n,rest,here,rfl⟩ := step_broadcast stepped
    have moved := broadcast_flatten here
    have pending : n ∈ s.tasks.flatten := moved.mem_iff.mpr List.mem_cons_self
    have fresh : n ∉ (s.tasks.set task rest).flatten := by
      have once : (s.sent ++ s.tasks.flatten).Nodup := kept.numbered.nodup_iff.mpr List.nodup_range
      exact (List.nodup_cons.mp (moved.nodup_iff.mp (List.nodup_append.mp once).2.1)).1
    constructor
    · intro about
      show ((s.sent ++ [n]).filter fun m => s.topic m = some about).Pairwise (· < ·)
      rw [List.filter_append]
      refine List.pairwise_append.mpr ⟨ordered.sorted about,List.Pairwise.filter _ (List.pairwise_singleton _ _),?_⟩
      intro m earlier k last
      obtain ⟨sent,topic⟩ := List.mem_filter.mp earlier
      obtain ⟨same,topic'⟩ := List.mem_filter.mp last
      rw [List.mem_singleton.mp same] at topic' ⊢
      exact ordered.ahead about m sent n pending (of_decide_eq_true topic) (of_decide_eq_true topic')
    · intro about m sent k left mine other
      have old : k ∈ s.tasks.flatten := moved.mem_iff.mpr (List.mem_cons_of_mem n left)
      rcases List.mem_append.mp sent with before | now
      · exact ordered.ahead about m before k old mine other
      · rw [List.mem_singleton.mp now] at mine ⊢
        have topic : s.topic n = some about := mine
        have topic' : s.topic k = some about := other
        simp only [inOrder,here,topic,Option.isNone_some,Bool.false_or,List.all_eq_true] at turn
        have least := turn k old
        rw [topic',bne_self_eq_false,Bool.false_or,decide_eq_true_eq] at least
        exact Nat.lt_of_le_of_ne least fun same => fresh (same ▸ left)
    · exact ordered.plain
  | other a =>
    simp only [step,Option.ite_none_right_eq_some,Option.map_eq_some_iff] at stepped
    obtain ⟨-,sessions,-,rfl⟩ := stepped
    exact ⟨ordered.sorted,ordered.ahead,ordered.plain⟩

/-- In order, the last event told is the last one made. -/
theorem lastTold_of_ordered (kept : Kept first s) (ordered : Ordered s) (finished : s.finished) : LastTold s := by
  intro id _ kind
  have told : s.heard.filter (fun e => e.about = some (kind,id)) = s.made.filter fun e => e.about = some (kind,id) := by
    have places : s.sent.filter (fun n => s.topic n = some (kind,id)) =
        (List.range s.made.length).filter fun n => s.topic n = some (kind,id) :=
      ((sent_perm kept finished).filter _).eq_of_pairwise (fun _ _ _ _ below above => absurd below (Nat.lt_asymm above))
        (ordered.sorted (kind,id)) (List.pairwise_lt_range.filter _)
    have listed : ∀ ns : List Nat, (ns.filterMap (s.made[·]?)).filter (fun e => e.about = some (kind,id)) =
        (ns.filter fun n => s.topic n = some (kind,id)).filterMap (s.made[·]?) := by
      intro ns
      rw [List.filter_filterMap,List.filterMap_filter]
      apply List.filterMap_congr
      intro n _
      rcases Option.eq_none_or_eq_some s.made[n]? with none_ | ⟨e,found⟩
      · simp [State.topic,none_]
      · by_cases here : e.about = some (kind,id) <;> simp [State.topic,found,here]
    rw [State.heard,listed,places,← listed,filterMap_range_getElem?]
  have last : lastAbout kind id s.heard = lastAbout kind id s.made := congrArg List.getLast? told
  rw [last]
  cases made : lastAbout kind id s.made with
  | none => rfl
  | some event => rw [Option.map_some,ordered.plain event (List.mem_filter.mp (List.mem_of_getLast? made)).1]

end

/-- Once every handler has finished, listeners and manager agree exactly if the event of each kind
    that was broadcast last says what was stored last. They agree where events are broadcast in the
    order of the updates and an AI that stops says nothing. -/
theorem broadcasts_agree_iff (maxSessions bufferSize : Nat) (first : Sessions) (actions : List Action) (s : State)
    (ran : run (step maxSessions bufferSize) (start first) actions = some s) (finished : s.finished) :
    (Agrees first s ↔ LastTold s) ∧
      (Along (step maxSessions bufferSize) (fun s a => inOrder s a = true) (start first) actions → Agrees first s) := by
  have kept : Kept first s := run_preserves (fun _ _ _ kept stepped => kept_step kept stepped) (kept_start first) ran
  refine ⟨agrees_iff kept finished,fun turns => ?_⟩
  have begun : Ordered (start first) :=
    ⟨fun _ => List.Pairwise.nil,fun _ _ member => (List.not_mem_nil member).elim,fun _ member => (List.not_mem_nil member).elim⟩
  have keeps : ∀ s a t, Kept first s ∧ Ordered s → inOrder s a = true → step maxSessions bufferSize s a = some t →
      Kept first t ∧ Ordered t := fun _ _ _ held turn stepped =>
    ⟨kept_step held.1 stepped,ordered_step held.1 held.2 turn stepped⟩
  have ordered := (run_keeps keeps ⟨kept_start first,begun⟩ turns ran).2
  exact (agrees_iff kept finished).mpr (lastTold_of_ordered kept ordered finished)

/-- One session, whose AI the user allows. -/
def oneSession : Sessions := (createSession 4 ∅ 0 "s" ⟨archived (.new 4) none,.terminal,true,0,none,0⟩).2

def allows (allowed : Bool) : Json := .object [("session_id",.string "s"),("allowed",.bool allowed)]

/-- One client forbids the AI and another one allows it; the events are broadcast in this order. -/
def inTurn : List Action :=
  [.allowAi .direct (allows false),.broadcast 0,.allowAi .tunnel (allows true),.broadcast 1]

theorem broadcasts_agree_inTurn :
    ∃ s, run (step 4 4) (start oneSession) inTurn = some s ∧ s.finished ∧ LastTold s ∧ Agrees oneSession s := by
  have ended : (run (step 4 4) (start oneSession) inTurn).map (fun s => s.tasks) = some [[],[]] := by decide +kernel
  obtain ⟨s,ran,tasks⟩ := Option.map_eq_some_iff.mp ended
  have finished : s.finished := by rw [State.finished,tasks]; decide
  have agree := broadcasts_agree_iff 4 4 oneSession inTurn s ran finished
  have agrees : Agrees oneSession s := agree.2 (by decide +kernel)
  exact ⟨s,ran,finished,agree.1.mp agrees,agrees⟩

/-- The same two updates, with the events broadcast in the opposite order. -/
def crossed : List Action :=
  [.allowAi .direct (allows false),.allowAi .tunnel (allows true),.broadcast 1,.broadcast 0]

/-- The listener ends up with an AI that is not allowed, the manager with one that is. -/
theorem broadcasts_cross : ¬ ∀ (maxSessions bufferSize : Nat) (first : Sessions) (actions : List Action) (s : State),
    run (step maxSessions bufferSize) (start first) actions = some s → s.finished → Agrees first s := by
  intro claim
  have ended : (run (step 4 4) (start oneSession) crossed).map (fun s =>
      (s.tasks,s.heard.foldl hear (known oneSession) "s",(s.sessions.lookup "s").map viewOf)) =
      some ([[],[]],⟨false,false,none,none⟩,some ⟨true,false,none,none⟩) := by decide +kernel
  obtain ⟨s,ran,last⟩ := Option.map_eq_some_iff.mp ended
  obtain ⟨tasks,rest⟩ := Prod.mk.inj last
  obtain ⟨heard,held⟩ := Prod.mk.inj rest
  have finished : s.finished := by rw [State.finished,tasks]; decide
  obtain ⟨e,found,view⟩ := Option.map_eq_some_iff.mp held
  have agrees := claim 4 4 oneSession crossed s ran finished "s" e found
  rw [heard,view] at agrees
  cases agrees

end Sctl.AiBroadcasts
