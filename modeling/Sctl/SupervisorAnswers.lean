import Mathlib.Data.List.Nodup
import Sctl.Supervisor

/-!
The client's requests through the supervisor (`mcp/src/supervisor.rs`). The client
sends requests with distinct ids, notifications and responses; a worker answers
what it received, and as long as it did not answer the stored initialization it
writes nothing else. Kept beside the supervisor's state are the requests that it
was given and the ids of the answers that the client was sent.
-/
namespace Sctl.SupervisorAnswers
open Sctl.Supervisor Sctl.Runs Sctl.Lines

/-- What the supervisor sees of a line. What is left of an object without its beginning has no id. -/
structure JsonLines where
  rpc : Bytes → Option Rpc
  torn : ∀ first rest message, rpc (123 :: (first ++ rest)) = some message → (rpc rest).bind Rpc.id = none

/-- A request; `handshake` is whether it is an initialization. -/
structure Request where
  id : String
  line : Bytes
  handshake : Bool
deriving DecidableEq

structure Books where
  sup : State
  given : List Request
  answered : List String

def Books.start : Books := ⟨.start,[],[]⟩

section
variable (json : JsonLines)

def idOf (line : Bytes) : Option String := (json.rpc line).bind Rpc.id

def requestOf (line : Bytes) : Option Request :=
  (json.rpc line).bind fun message =>
    if message.method = "" then none else message.id.map fun id => ⟨id,line,message.method = "initialize"⟩

/-- A response of the client to something that a worker asked for. -/
def isResponse (line : Bytes) : Bool := (json.rpc line).any fun message => message.method = "" && message.id.isSome

/-- What is still to come of the worker's output. -/
def stream (s : State) : Bytes := s.unread ++ s.worker.outbox

/-! ### The client and the workers -/

/-- A message of the client: an initialization has an id, its notification has none, and the ids of
    requests are distinct. -/
def clientSends (b : Books) (line : Bytes) : Bool :=
  (json.rpc line).any fun message =>
    (message.method = "initialize" → message.id ≠ none) &&
    (message.method = "notifications/initialized" → message.id = none) &&
    (requestOf json line).all fun request => request.id ∉ b.given.map Request.id

/-- A line of a worker is a JSON object. -/
def isObject (text : Bytes) : Bool := text.head? = some 123 && (json.rpc (text ++ [newline])).isSome

/-- A worker answers a request that it received; its other lines have no id, and come after its
    answer to the stored initialization. -/
def allowed (b : Books) : Action → Bool
  | .client line _ => clientSends json b line
  | .answer line text =>
    isObject json text && (requestOf json line).any fun request => idOf json (text ++ [newline]) = some request.id
  | .emit text =>
    isObject json text && idOf json (text ++ [newline]) = none &&
      (b.sup.phase = .spawned ∨ b.sup.phase = .reinit → stream b.sup ≠ [])
  | _ => true

/-- The id of a whole line that is sent to the client. -/
def sentId (s : State) (line : Bytes) : List String :=
  if (s.phase = .proxy ∨ s.phase = .drain) ∧ isUtf8 line = true then (idOf json line).toList else []

/-- The id of the answer that the client is sent in a step. -/
def answers (s : State) : Action → List String
  | .read n =>
    match completes s n with
    | some (line,_) => sentId json s line
    | none => []
  | _ => []

/-- The request that the supervisor is given in a step. -/
def gives : Action → List Request
  | .client line _ => (requestOf json line).toList
  | _ => []

def step (b : Books) (a : Action) : Option Books :=
  if allowed json b a then
    (Supervisor.step json.rpc b.sup a).map fun sup =>
      ⟨sup,b.given ++ gives json a,b.answered ++ answers json b.sup a⟩
  else none

/-! ### One answer for each request -/

/-- The requests that the worker has received, by id. -/
def asked (s : State) : List String := s.worker.inbox.filterMap fun line => (requestOf json line).map Request.id

/-- The answers that the worker has begun to write and that are read whole, by id. -/
def onTheWay (s : State) : List String := (lines newline (stream s)).filterMap (idOf json)

def coming (s : State) : List String := asked json s ++ onTheWay json s

def handshakesAnswered (given : List Request) (answered : List String) : Prop :=
  ∀ g ∈ given, g.handshake = true → g.id ∈ answered

/-- No request is answered twice, and none is forgotten. -/
structure Accounted (b : Books) : Prop where
  /-- What is pending are the requests that were not answered, other than initializations. -/
  pending : ∀ id line, (id,line) ∈ b.sup.pending ↔ ⟨id,line,false⟩ ∈ b.given ∧ id ∉ b.answered
  once : b.answered.Nodup
  /-- The answer of a new worker to the stored initialization is not the first. -/
  greeted : b.sup.phase = .spawned ∨ b.sup.phase = .reinit ∨ b.sup.phase = .ready → handshakesAnswered b.given b.answered
  left : b.sup.phase = .exited → ∀ g ∈ b.given, g.id ∈ b.answered

/-- What was not answered is asked of the worker, or its answer is on the way. -/
def Served (b : Books) : Prop :=
  b.sup.phase = .proxy → b.sup.worker.alive = true → ∀ g ∈ b.given, g.id ∉ b.answered → g.id ∈ coming json b.sup

/-- Every request has been answered once, or will be if nothing else happens than that the worker
    answers. -/
structure Answered (b : Books) : Prop extends Accounted b where
  served : Served json b

/-- The unfinished end of a dead worker's output is no message with the id of a pending request. -/
def partialUnknown (s : State) : Prop :=
  s.line ≠ [] → isUtf8 s.line = true → ∀ id, idOf json s.line = some id → id ∉ s.pending.map Prod.fst

/-- The drain ends with the line. -/
def finishes (s : State) (line : Bytes) : Prop := isUtf8 line = false ∨ removePending json.rpc line s.pending = []

/-- The answers of a step are not lost:
    the client sends no response, and no line of it comes when a line with an id is begun;
    every initialization is answered when the drain ends;
    nothing is pending when the supervisor gives up on a new worker;
    a worker does not die with the answer to a pending request written but for its end. -/
def KeepsAnswers (b : Books) : Action → Prop
  | .client line written =>
    isResponse json line = false ∧
      (written = true → b.sup.line ≠ [] → ∀ first, (lines newline (stream b.sup)).head? = some first → idOf json first = none)
  | .read n =>
    ∀ line rest pipe, completes b.sup n = some (line,rest,pipe) →
      (b.sup.phase = .drain → finishes json b.sup line → handshakesAnswered b.given (b.answered ++ answers json b.sup (.read n))) ∧
      (b.sup.phase = .reinit → isUtf8 line = false → b.sup.pending = [])
  | .eof =>
    if b.sup.phase = .reinit then (b.sup.line = [] ∨ isUtf8 b.sup.line = false) → b.sup.pending = []
    else partialUnknown json b.sup ∧
      (b.sup.phase = .drain → (b.sup.line = [] ∨ finishes json b.sup b.sup.line) → handshakesAnswered b.given b.answered)
  | .timeout => if b.sup.phase = .drain then handshakesAnswered b.given b.answered else b.sup.pending = []
  | .greet written => written = false → b.sup.initRequest ≠ none → b.sup.pending = []
  | _ => True

/-! ### What is on the way -/

/-- What comes for a request was not sent before, and comes once. -/
structure Open (b : Books) : Prop where
  nodup : (coming json b.sup).Nodup
  unanswered : ∀ id ∈ coming json b.sup, id ∈ b.given.map Request.id ∧ id ∉ b.answered

/-- In the phases in between a worker has at most the stored initialization to answer. -/
def Expects (b : Books) : Prop :=
  match b.sup.phase with
  | .proxy | .drain => Open json b
  | .spawned => b.sup.worker.inbox = [] ∧ stream b.sup = []
  | .reinit =>
    asked json b.sup = [] ∧ ((lines newline (stream b.sup)).drop 1).filterMap (idOf json) = [] ∨
      (asked json b.sup).length ≤ 1 ∧ stream b.sup = []
  | .ready => coming json b.sup = []
  | .exited => True

structure Sound (b : Books) : Prop where
  distinct : (b.given.map Request.id).Nodup
  asks : ∀ g ∈ b.given, requestOf json g.line = some g
  replies : ∀ id ∈ b.answered, id ∈ b.given.map Request.id
  keys : (b.sup.pending.map Prod.fst).Nodup
  notification : ∀ line, b.sup.initNotification = some line → requestOf json line = none
  begun : Begun b.sup
  clean : ∀ line ∈ lines newline (stream b.sup), Clean (idOf json) line
  whole : b.sup.worker.alive = true → Whole newline (stream b.sup)
  expects : Expects json b

variable {json} {b c : Books} {s t : State}

theorem isLine_newline {text : Bytes} (clear : newline ∉ text) : IsLine newline (text ++ [newline]) := isLine_of_text clear

theorem clean_of_isObject {text : Bytes} (object : isObject json text = true) : Clean (idOf json) (text ++ [newline]) := by
  rw [isObject,Bool.and_eq_true,decide_eq_true_eq] at object
  obtain ⟨opens,reads⟩ := object
  obtain ⟨message,read⟩ := Option.isSome_iff_exists.mp reads
  obtain ⟨tail,rfl⟩ := List.head?_eq_some_iff.mp opens
  intro first rest split nonempty
  cases first with
  | nil => exact (nonempty rfl).elim
  | cons a first =>
    obtain ⟨rfl,split⟩ := List.cons.inj split
    have torn := json.torn first rest message
    rw [← List.cons_append,← split] at torn
    exact torn read

theorem open_of {b c : Books} (opens : Open json b) (given : ∀ id ∈ b.given.map Request.id, id ∈ c.given.map Request.id)
    (answered : c.answered = b.answered) (fewer : (coming json c.sup).Sublist (coming json b.sup)) : Open json c where
  nodup := opens.nodup.sublist fewer
  unanswered := by
    intro id member
    have before := opens.unanswered id (fewer.subset member)
    rw [answered]
    exact ⟨given id before.1,before.2⟩

/-- Bytes that are dropped take no answer with them but those that they tear. -/
structure Drops (json : JsonLines) (s t : State) : Prop where
  clean : ∀ line ∈ lines newline (stream t), Clean (idOf json) line
  whole : Whole newline (stream s) → Whole newline (stream t)
  fewer : (onTheWay json t).Sublist (onTheWay json s)

theorem drops {dropped : Bytes} (clean : ∀ line ∈ lines newline (stream s), Clean (idOf json) line)
    (split : stream s = dropped ++ stream t) : Drops json s t := by
  rw [split] at clean
  refine ⟨clean_drop clean,?_,?_⟩
  · rw [split]
    exact whole_drop
  · rw [onTheWay,onTheWay,split]
    exact sublist_drop clean

/-- A step in which neither the supervisor gets a request nor the client an answer. -/
theorem step_quiet {a : Action} (stepped : step json b a = some c) (gives_ : gives json a = []) (answers_ : answers json b.sup a = []) :
    allowed json b a = true ∧ ∃ t, Supervisor.step json.rpc b.sup a = some t ∧ c = { b with sup := t } := by
  rw [step,Option.ite_none_right_eq_some] at stepped
  obtain ⟨rules,moved⟩ := stepped
  obtain ⟨t,ran,rfl⟩ := Option.map_eq_some_iff.mp moved
  rw [gives_,answers_,List.append_nil,List.append_nil]
  exact ⟨rules,t,ran,rfl⟩

/-! ### The pending requests -/

theorem mem_insertPending (id : String) (line : Bytes) (pending : List (String × Bytes)) :
    (id,line) ∈ insertPending id line pending := by
  induction pending with
  | nil => exact List.mem_cons_self
  | cons e rest ih =>
    rw [insertPending]
    split
    · exact List.mem_cons_self
    · exact List.mem_cons_of_mem _ ih

theorem insertPending_new {id : String} {pending : List (String × Bytes)} (new : id ∉ pending.map Prod.fst) (line : Bytes) :
    insertPending id line pending = pending ++ [(id,line)] := by
  induction pending with
  | nil => rfl
  | cons e rest ih =>
    rw [List.map_cons,List.mem_cons,not_or] at new
    rw [insertPending,if_neg (Ne.symm new.1),ih new.2,List.cons_append]

theorem insertPending_keys {id : String} {pending : List (String × Bytes)} (there : id ∈ pending.map Prod.fst) (line : Bytes) :
    (insertPending id line pending).map Prod.fst = pending.map Prod.fst := by
  induction pending with
  | nil => cases there
  | cons e rest ih =>
    rw [insertPending]
    split
    · next same => rw [List.map_cons,List.map_cons,same]
    · next other =>
      rw [List.map_cons,List.map_cons,ih]
      exact (List.mem_cons.mp there).resolve_left (Ne.symm other)

theorem insertPending_nodup {pending : List (String × Bytes)} (keys : (pending.map Prod.fst).Nodup) (id : String) (line : Bytes) :
    ((insertPending id line pending).map Prod.fst).Nodup := by
  by_cases there : id ∈ pending.map Prod.fst
  · rw [insertPending_keys there]
    exact keys
  · rw [insertPending_new there,List.map_append]
    refine List.nodup_append.mpr ⟨keys,List.nodup_singleton _,?_⟩
    intro key member other last same
    rw [List.map_singleton,List.mem_singleton] at last
    rw [same,last] at member
    exact there member

theorem removePending_sublist (line : Bytes) (pending : List (String × Bytes)) :
    (removePending json.rpc line pending).Sublist pending := by
  unfold removePending
  split
  · exact List.filter_sublist
  · exact List.Sublist.refl _

theorem mem_removePending {line : Bytes} {pending : List (String × Bytes)} {e : String × Bytes} :
    e ∈ removePending json.rpc line pending ↔ e ∈ pending ∧ idOf json line ≠ some e.1 := by
  unfold removePending idOf
  split
  · next id own =>
    rw [own,List.mem_filter,decide_eq_true_eq]
    refine and_congr_right fun _ => not_congr ⟨fun same => congrArg some same.symm,fun same => (Option.some.inj same).symm⟩
  · next none_ => simp [none_]

/-! ### Phases -/

theorem accounted_of {b : Books} (phase : b.sup.phase = .proxy ∨ b.sup.phase = .drain)
    (pending : ∀ id line, (id,line) ∈ b.sup.pending ↔ ⟨id,line,false⟩ ∈ b.given ∧ id ∉ b.answered)
    (once : b.answered.Nodup) : Accounted b where
  pending := pending
  once := once
  greeted := by
    rintro (between | between | between) <;> rcases phase with phase | phase <;> cases phase.symm.trans between
  left := by
    intro exited
    rcases phase with phase | phase <;> rw [phase] at exited <;> cases exited

theorem answered_of_accounted (accounted : Accounted b) (phase : b.sup.phase ≠ .proxy) : Answered json b :=
  ⟨accounted,fun proxy => (phase proxy).elim⟩

/-- The rest of the worker's output is read in another phase, or some of it never. -/
theorem sound_frame (sound : Sound json b) (given : c.given = b.given) (answered : c.answered = b.answered)
    (keys : (c.sup.pending.map Prod.fst).Nodup) (notification : c.sup.initNotification = b.sup.initNotification)
    (begun : Begun c.sup) (clean : ∀ line ∈ lines newline (stream c.sup), Clean (idOf json) line)
    (whole : c.sup.worker.alive = true → Whole newline (stream c.sup)) (expects : Expects json c) : Sound json c where
  distinct := by rw [given]; exact sound.distinct
  asks := by rw [given]; exact sound.asks
  replies := by rw [given,answered]; exact sound.replies
  keys := keys
  notification := by rw [notification]; exact sound.notification
  begun := begun
  clean := clean
  whole := whole
  expects := expects

/-- The same with a worker that has not written anything. -/
theorem sound_new (sound : Sound json b) (given : c.given = b.given) (answered : c.answered = b.answered)
    (pending : c.sup.pending = b.sup.pending) (notification : c.sup.initNotification = b.sup.initNotification)
    (begun : Begun c.sup) (empty : stream c.sup = []) (expects : Expects json c) : Sound json c := by
  refine sound_frame sound given answered ?_ notification begun ?_ ?_ expects
  · rw [pending]
    exact sound.keys
  · rw [empty]
    intro line never
    cases never
  · rw [empty]
    exact fun _ => rfl

theorem stream_leave (s : State) : stream s = (s.line ++ s.reader) ++ stream (leave s) := by
  simp [stream,State.unread,leave]

theorem leave_sound (sound : Sound json b) (proxy : b.sup.phase = .proxy) : Sound json { b with sup := leave b.sup } := by
  have expects := sound.expects
  rw [Expects,proxy] at expects
  have drop := drops sound.clean (stream_leave b.sup)
  refine sound_frame sound rfl rfl sound.keys rfl ⟨fun _ other => (other rfl).elim,List.not_mem_nil⟩ drop.clean
    (fun alive => drop.whole (sound.whole alive)) ?_
  exact open_of expects (fun _ => id) rfl (List.Sublist.append (List.Sublist.refl _) drop.fewer)

theorem leave_answered (accounted : Accounted b) : Answered json { b with sup := leave b.sup } :=
  answered_of_accounted (accounted_of (.inr rfl) accounted.pending accounted.once) (by intro same; cases same)

theorem replace_sound (sound : Sound json b) : Sound json { b with sup := replace b.sup } :=
  sound_new sound rfl rfl rfl rfl ⟨fun _ _ => rfl,List.not_mem_nil⟩ rfl ⟨rfl,rfl⟩

theorem exit_sound {unread : Bytes} (sound : Sound json b) : Sound json { b with sup := exit b.sup unread } :=
  sound_new sound rfl rfl rfl rfl ⟨fun _ _ => rfl,List.not_mem_nil⟩ rfl trivial

theorem replace_answered_iff (accounted : Accounted b) :
    Answered json { b with sup := replace b.sup } ↔ handshakesAnswered b.given b.answered := by
  constructor
  · intro after
    exact after.greeted (.inl rfl)
  · intro greeted
    refine answered_of_accounted ⟨accounted.pending,accounted.once,fun _ => greeted,?_⟩ (by intro same; cases same)
    intro exited
    cases exited

/-- What is left unanswered when the supervisor gives up is what is pending. -/
theorem exit_answered_iff {unread : Bytes} (accounted : Accounted b)
    (between : b.sup.phase = .spawned ∨ b.sup.phase = .reinit ∨ b.sup.phase = .ready) :
    Answered json { b with sup := exit b.sup unread } ↔ b.sup.pending = [] := by
  constructor
  · intro after
    rw [List.eq_nil_iff_forall_not_mem]
    rintro ⟨id,line⟩ member
    obtain ⟨given,unanswered⟩ := (accounted.pending id line).mp member
    exact unanswered (after.left rfl _ given)
  · intro none_
    refine answered_of_accounted ⟨accounted.pending,accounted.once,?_,fun _ g member => ?_⟩ (by intro same; cases same)
    · rintro (never | never | never) <;> cases never
    · by_cases handshake : g.handshake = true
      · exact accounted.greeted between g member handshake
      · by_contra unanswered
        obtain ⟨id,line,flag⟩ := g
        cases (Bool.not_eq_true flag).mp handshake
        have there := (accounted.pending id line).mpr ⟨member,unanswered⟩
        rw [none_] at there
        cases there

/-! ### A line of the client -/

/-- What the supervisor keeps of a message of the client. -/
inductive Tracked (json : JsonLines) (s : State) (line : Bytes) : Prop
  | handshake (id : String) (request : requestOf json line = some ⟨id,line,true⟩) (response : isResponse json line = false)
    (kept : trackRequest json.rpc s line = { s with initRequest := some line })
  | request (id : String) (request : requestOf json line = some ⟨id,line,false⟩) (response : isResponse json line = false)
    (kept : trackRequest json.rpc s line = { s with pending := insertPending id line s.pending })
  | response (id : String) (request : requestOf json line = none) (response : isResponse json line = true)
    (kept : trackRequest json.rpc s line = { s with pending := insertPending id line s.pending })
  | initialized (request : requestOf json line = none) (response : isResponse json line = false)
    (kept : trackRequest json.rpc s line = { s with initNotification := some line })
  | other (request : requestOf json line = none) (response : isResponse json line = false)
    (kept : trackRequest json.rpc s line = s)

/-- The client's line is none of another request. -/
structure Sends (json : JsonLines) (b : Books) (line : Bytes) : Prop where
  tracked : Tracked json b.sup line
  new : ∀ request, requestOf json line = some request → request.id ∉ b.given.map Request.id

theorem sends {line : Bytes} (sent : clientSends json b line = true) : Sends json b line := by
  obtain ⟨message,read,rules⟩ := (Option.any_eq_true _ _).mp sent
  simp only [Bool.and_eq_true,decide_eq_true_eq] at rules
  obtain ⟨⟨first,second⟩,new⟩ := rules
  refine ⟨?_,fun request there => ?_⟩
  · obtain ⟨method,id⟩ := message
    dsimp only at first second
    by_cases handshake : method = "initialize"
    · subst handshake
      obtain ⟨id,rfl⟩ := Option.ne_none_iff_exists'.mp (first rfl)
      refine .handshake id ?_ ?_ ?_
      · simp [requestOf,read]
      · simp [isResponse,read]
      · simp [trackRequest,read]
    · by_cases initialized : method = "notifications/initialized"
      · subst initialized
        obtain rfl := second rfl
        refine .initialized ?_ ?_ ?_
        · simp [requestOf,read]
        · simp [isResponse,read]
        · simp [trackRequest,read]
      · cases id with
        | none =>
          refine .other ?_ ?_ ?_
          · simp [requestOf,read]
          · simp [isResponse,read]
          · simp [trackRequest,read,handshake,initialized]
        | some id =>
          by_cases empty : method = ""
          · refine .response id ?_ ?_ ?_
            · simp [requestOf,read,empty]
            · simp [isResponse,read,empty]
            · simp [trackRequest,read,handshake,initialized]
          · refine .request id ?_ ?_ ?_
            · simp [requestOf,read,empty,handshake]
            · simp [isResponse,read,empty]
            · simp [trackRequest,read,handshake,initialized]
  · rw [there,Option.all_some,decide_eq_true_eq] at new
    exact new

def track (json : JsonLines) (b : Books) (line : Bytes) : Books :=
  ⟨trackRequest json.rpc b.sup line,b.given ++ (requestOf json line).toList,b.answered⟩

/-- No pending request has the id of a new one. -/
theorem Accounted.pending_new {id : String} (accounted : Accounted b) (new : id ∉ b.given.map Request.id) :
    id ∉ b.sup.pending.map Prod.fst := by
  intro there
  obtain ⟨⟨id',line⟩,member,rfl⟩ := List.mem_map.mp there
  exact new (List.mem_map.mpr ⟨_,((accounted.pending _ _).mp member).1,rfl⟩)

theorem sound_track {line : Bytes} (sound : Sound json b) (sent : Sends json b line) (proxy : b.sup.phase = .proxy) :
    Sound json (track json b line) := by
  have opens : Open json b := by
    have expects := sound.expects
    rwa [Expects,proxy] at expects
  have same : ∀ {init notification pending}, track json b line =
      ⟨{ b.sup with initRequest := init, initNotification := notification, pending := pending },
        b.given ++ (requestOf json line).toList,b.answered⟩ →
      (∀ l, notification = some l → requestOf json l = none) → (pending.map Prod.fst).Nodup →
      Sound json (track json b line) := by
    intro init notification pending eq initialized keys
    rw [eq]
    have more : ∀ id ∈ b.given.map Request.id, id ∈ (b.given ++ (requestOf json line).toList).map Request.id := by
      intro id member
      rw [List.map_append]
      exact List.mem_append_left _ member
    refine ⟨?_,?_,fun id member => more id (sound.replies id member),keys,initialized,
      ⟨sound.begun.fresh,sound.begun.unfinished⟩,sound.clean,sound.whole,?_⟩
    · rw [List.map_append]
      refine List.nodup_append.mpr ⟨sound.distinct,?_,?_⟩
      · cases requestOf json line <;> simp
      · intro id before id' now same
        obtain ⟨request,there,rfl⟩ := List.mem_map.mp now
        rw [same] at before
        exact sent.new request (Option.mem_toList.mp there) before
    · intro g member
      rcases List.mem_append.mp member with before | now
      · exact sound.asks g before
      · have there : requestOf json line = some g := Option.mem_toList.mp now
        have own : g.line = line := by
          obtain ⟨message,-,picked⟩ := Option.bind_eq_some_iff.mp there
          rw [Option.ite_none_left_eq_some] at picked
          obtain ⟨id,-,rfl⟩ := Option.map_eq_some_iff.mp picked.2
          rfl
        rw [own]
        exact there
    · unfold Expects
      dsimp only
      rw [proxy]
      exact open_of opens more rfl (List.Sublist.refl _)
  cases sent.tracked with
  | handshake id request response kept =>
    exact same (by rw [track,kept]) sound.notification sound.keys
  | request id request response kept =>
    exact same (by rw [track,kept]) sound.notification (insertPending_nodup sound.keys id line)
  | response id request response kept =>
    exact same (by rw [track,kept]) sound.notification (insertPending_nodup sound.keys id line)
  | initialized request response kept =>
    refine @same _ (some line) _ (by rw [track,kept]) ?_ sound.keys
    intro l own
    cases own
    exact request
  | other request response kept =>
    exact same (by rw [track,kept]) sound.notification sound.keys

theorem accounted_track {line : Bytes} (sound : Sound json b) (accounted : Accounted b) (sent : Sends json b line)
    (proxy : b.sup.phase = .proxy) : Accounted (track json b line) ↔ isResponse json line = false := by
  cases sent.tracked with
  | handshake id request response kept =>
    refine iff_of_true ?_ response
    rw [track,kept,request]
    refine accounted_of (.inl proxy) ?_ accounted.once
    intro id' line'
    show (id',line') ∈ b.sup.pending ↔ _
    rw [accounted.pending]
    simp
  | request id request response kept =>
    refine iff_of_true ?_ response
    have new := accounted.pending_new (sent.new _ request)
    rw [track,kept,request,insertPending_new new]
    refine accounted_of (.inl proxy) ?_ accounted.once
    intro id' line'
    show (id',line') ∈ b.sup.pending ++ [(id,line)] ↔ ⟨id',line',false⟩ ∈ b.given ++ [⟨id,line,false⟩] ∧ _
    rw [List.mem_append,accounted.pending,List.mem_singleton,List.mem_append,List.mem_singleton]
    have fresh : id ∉ b.answered := fun there => sent.new _ request (sound.replies id there)
    constructor
    · rintro (⟨before,unanswered⟩ | now)
      · exact ⟨.inl before,unanswered⟩
      · cases now
        exact ⟨.inr rfl,fresh⟩
    · rintro ⟨before | now,unanswered⟩
      · exact .inl ⟨before,unanswered⟩
      · cases now
        exact .inr rfl
  | response id request response kept =>
    refine iff_of_false ?_ (by rw [response]; decide)
    rw [track,kept,request]
    intro after
    have member := ((after.pending id line).mp (mem_insertPending id line _)).1
    rw [Option.toList_none,List.append_nil] at member
    rw [sound.asks _ member] at request
    cases request
  | initialized request response kept | other request response kept =>
    refine iff_of_true ?_ response
    rw [track,kept,request,Option.toList_none,List.append_nil]
    exact accounted_of (.inl proxy) accounted.pending accounted.once

/-- The line is written to the worker, and what was read of the worker's line is gone. -/
def take (s : State) (line : Bytes) : State :=
  { s with line := [], worker := { s.worker with inbox := s.worker.inbox ++ [line] } }

theorem stream_take (s : State) (line : Bytes) : stream s = s.line ++ stream (take s line) := by
  simp [stream,State.unread,take]

theorem coming_take (s : State) (line : Bytes) :
    coming json (take s line) = asked json s ++ ((requestOf json line).map Request.id).toList ++ onTheWay json (take s line) := by
  rw [coming,asked,take,List.filterMap_append]
  cases found : requestOf json line <;> simp [asked,found]

/-- The line that is begun, if it is one with an id, is what is lost of the answers on the way. -/
theorem onTheWay_take (line : Bytes) (begun : Begun s) (clean : ∀ l ∈ lines newline (stream s), Clean (idOf json) l) (some_ : s.line ≠ []) :
    onTheWay json s = ((lines newline (stream s)).head?.bind (idOf json)).toList ++ onTheWay json (take s line) := by
  rw [onTheWay,onTheWay]
  rw [stream_take s line] at clean ⊢
  rw [lines_begun begun.unfinished] at clean ⊢
  cases more : lines newline (stream (take s line)) with
  | nil => rfl
  | cons first later =>
    rw [more] at clean
    have torn : idOf json first = none := clean _ List.mem_cons_self s.line first rfl some_
    rw [List.filterMap_cons,List.filterMap_cons,torn,List.head?_cons,Option.bind_some]
    cases idOf json (s.line ++ first) <;> rfl

section
variable {line : Bytes}

theorem take_sound (sound : Sound json b) (sent : Sends json b line) (proxy : b.sup.phase = .proxy) :
    Sound json { track json b line with sup := take (track json b line).sup line } := by
  have tracked := sound_track sound sent proxy
  have phase : (track json b line).sup.phase = .proxy := by
    rw [track,trackRequest_eq]
    exact proxy
  have opens : Open json b := by
    have expects := sound.expects
    rwa [Expects,proxy] at expects
  have same : coming json (track json b line).sup = coming json b.sup := by
    rw [track,trackRequest_eq]
    rfl
  have drop := drops tracked.clean (stream_take _ line)
  refine sound_frame tracked rfl rfl tracked.keys rfl ⟨fun other => (other phase).elim,List.not_mem_nil⟩ drop.clean
    (fun alive => drop.whole (tracked.whole alive)) ?_
  unfold Expects
  have phase' : (take (track json b line).sup line).phase = .proxy := phase
  dsimp only
  rw [phase']
  -- the new request is not among those that were asked before
  have fewer : (asked json (track json b line).sup ++ onTheWay json (take (track json b line).sup line)).Sublist (coming json b.sup) := by
    rw [← same]
    exact List.Sublist.append (List.Sublist.refl _) drop.fewer
  have order : (coming json (take (track json b line).sup line)).Perm (((requestOf json line).map Request.id).toList ++
      (asked json (track json b line).sup ++ onTheWay json (take (track json b line).sup line))) := by
    rw [coming_take,← List.append_assoc]
    exact List.Perm.append_right _ List.perm_append_comm
  constructor
  · dsimp only
    rw [order.nodup_iff]
    refine List.nodup_append.mpr ⟨by cases requestOf json line <;> simp,opens.nodup.sublist fewer,?_⟩
    intro id now id' before same
    obtain ⟨request,there,rfl⟩ := Option.map_eq_some_iff.mp (Option.mem_toList.mp now)
    rw [← same] at before
    exact sent.new request there (opens.unanswered _ (fewer.subset before)).1
  · intro id member
    show id ∈ (b.given ++ (requestOf json line).toList).map Request.id ∧ id ∉ b.answered
    rw [List.map_append,List.mem_append]
    rcases List.mem_append.mp (order.subset member) with now | before
    · obtain ⟨request,there,rfl⟩ := Option.map_eq_some_iff.mp (Option.mem_toList.mp now)
      refine ⟨.inr (List.mem_map_of_mem (Option.mem_toList.mpr there)),fun answered => ?_⟩
      exact sent.new request there (sound.replies _ answered)
    · have old := opens.unanswered id (fewer.subset before)
      exact ⟨.inl old.1,old.2⟩

theorem take_served_iff (sound : Sound json b) (served : Served json b) (sent : Sends json b line) (proxy : b.sup.phase = .proxy)
    (alive : b.sup.worker.alive = true) :
    Served json { track json b line with sup := take (track json b line).sup line } ↔
      (b.sup.line ≠ [] → ∀ first, (lines newline (stream b.sup)).head? = some first → idOf json first = none) := by
  have expects := sound.expects
  rw [Expects,proxy] at expects
  have opens : Open json b := expects
  have comes : coming json (take (track json b line).sup line) =
      asked json b.sup ++ ((requestOf json line).map Request.id).toList ++ onTheWay json (take b.sup line) := by
    rw [coming_take,track,trackRequest_eq]
    rfl
  have stays : (track json b line).sup.phase = .proxy ∧ (track json b line).sup.worker.alive = true := by
    rw [track,trackRequest_eq]
    exact ⟨proxy,alive⟩
  constructor
  · intro after some_ first head
    cases own : idOf json first with
    | none => rfl
    | some id =>
      have way := onTheWay_take line sound.begun sound.clean some_
      rw [head,Option.bind_some,own,Option.toList_some,List.singleton_append] at way
      have nodup := opens.nodup
      rw [coming,way] at nodup
      have here : id ∈ coming json b.sup := by
        rw [coming,way]
        exact List.mem_append_right _ List.mem_cons_self
      obtain ⟨given,unanswered⟩ := opens.unanswered id here
      obtain ⟨g,member,rfl⟩ := List.mem_map.mp given
      have later := after stays.1 stays.2 g (List.mem_append_left _ member) unanswered
      dsimp only at later
      rw [comes,List.append_assoc] at later
      have parts := List.nodup_append.mp nodup
      rcases List.mem_append.mp later with asked | rest
      · exact (parts.2.2 _ asked _ List.mem_cons_self rfl).elim
      · rcases List.mem_append.mp rest with now | rest
        · obtain ⟨request,there,same⟩ := Option.map_eq_some_iff.mp (Option.mem_toList.mp now)
          exact (sent.new request there (same ▸ given)).elim
        · exact ((List.nodup_cons.mp parts.2.1).1 rest).elim
  · intro untorn _ _ g member unanswered
    have way : onTheWay json b.sup = onTheWay json (take b.sup line) := by
      by_cases some_ : b.sup.line = []
      · rw [onTheWay,onTheWay,stream_take b.sup line,some_,List.nil_append]
      · rw [onTheWay_take line sound.begun sound.clean some_]
        cases head : (lines newline (stream b.sup)).head? with
        | none => rfl
        | some first => rw [Option.bind_some,untorn some_ first head,Option.toList_none,List.nil_append]
    show g.id ∈ coming json (take (track json b line).sup line)
    rw [comes,← way]
    rcases List.mem_append.mp member with before | now
    · rcases List.mem_append.mp (served proxy alive g before unanswered) with asked | onWay
      · exact List.mem_append_left _ (List.mem_append_left _ asked)
      · exact List.mem_append_right _ onWay
    · refine List.mem_append_left _ (List.mem_append_right _ ?_)
      rw [Option.mem_toList.mp now]
      exact List.mem_singleton_self _

end

theorem client_step {line : Bytes} {written : Bool} (sound : Sound json b) (answered : Answered json b)
    (stepped : step json b (.client line written) = some c) :
    Sound json c ∧ (Answered json c ↔ KeepsAnswers json b (.client line written)) := by
  rw [step,Option.ite_none_right_eq_some] at stepped
  obtain ⟨sent,moved⟩ := stepped
  have sent := sends sent
  obtain ⟨t,ran,rfl⟩ := Option.map_eq_some_iff.mp moved
  simp only [Supervisor.step,Option.ite_none_right_eq_some] at ran
  obtain ⟨proxy,ran⟩ := ran
  have none_ : answers json b.sup (.client line written) = [] := rfl
  rw [none_,List.append_nil]
  have accounted := accounted_track sound answered.toAccounted sent proxy
  have phase : (track json b line).sup.phase = .proxy := by
    rw [track,trackRequest_eq]
    exact proxy
  split at ran
  · next yes =>
    rw [Option.ite_none_right_eq_some] at ran
    obtain ⟨alive,ran⟩ := ran
    cases ran
    refine ⟨take_sound sound sent proxy,?_⟩
    have living : b.sup.worker.alive = true := by
      rw [trackRequest_eq] at alive
      exact alive
    have served := take_served_iff sound answered.served sent proxy living
    rw [KeepsAnswers,← accounted]
    constructor
    · intro after
      exact ⟨accounted_of (.inl phase) after.pending after.once,fun _ => served.mp after.served⟩
    · rintro ⟨after,untorn⟩
      exact ⟨accounted_of (.inl phase) after.pending after.once,served.mpr (untorn yes)⟩
  · next no =>
    cases ran
    refine ⟨leave_sound (sound_track sound sent proxy) phase,?_⟩
    rw [KeepsAnswers,← accounted]
    constructor
    · intro after
      exact ⟨accounted_of (.inl phase) after.pending after.once,fun yes => (no yes).elim⟩
    · rintro ⟨after,-⟩
      exact leave_answered after

/-! ### A line of the worker -/

/-- Bytes move on, nothing is lost. -/
theorem still {t : State} (phase : t.phase = b.sup.phase) (pending : t.pending = b.sup.pending)
    (notification : t.initNotification = b.sup.initNotification) (inbox : t.worker.inbox = b.sup.worker.inbox)
    (same : stream t = stream b.sup) (alive : t.worker.alive = b.sup.worker.alive) (begun : Begun t) (sound : Sound json b)
    (answered : Answered json b) : Sound json { b with sup := t } ∧ Answered json { b with sup := t } := by
  have asks : asked json t = asked json b.sup := by rw [asked,asked,inbox]
  have comes : coming json t = coming json b.sup := by rw [coming,coming,asks,onTheWay,onTheWay,same]
  refine ⟨sound_frame sound rfl rfl ?_ notification begun ?_ ?_ ?_,⟨?_,answered.once,?_,?_⟩,?_⟩
  · rw [pending]; exact sound.keys
  · rw [same]; exact sound.clean
  · rw [same,alive]; exact sound.whole
  · have expects := sound.expects
    unfold Expects at expects ⊢
    dsimp only
    rw [phase]
    split at expects
    · exact open_of expects (fun _ => id) rfl (by rw [comes])
    · exact open_of expects (fun _ => id) rfl (by rw [comes])
    · rw [inbox,same]; exact expects
    · rw [asks,same]; exact expects
    · rw [comes]; exact expects
    · trivial
  · rw [pending]; exact answered.pending
  · rw [phase]; exact answered.greeted
  · rw [phase]; exact answered.left
  · unfold Served
    dsimp only
    rw [phase,alive,comes]
    exact answered.served

section
variable {line rest : Bytes}

/-- What is read next, and what is behind it. -/
structure NextLine (s : State) (line rest : Bytes) : Prop where
  isLine : IsLine newline line
  read : s.line ++ s.reader = line ++ rest

def sent (json : JsonLines) (b : Books) (line rest : Bytes) : Books :=
  ⟨{ forward json.rpc b.sup line with reader := rest },b.given,b.answered ++ (idOf json line).toList⟩

theorem NextLine.stream (next : NextLine s line rest) : stream s = line ++ (rest ++ (s.worker.pipe ++ s.worker.outbox)) := by
  rw [SupervisorAnswers.stream,State.unread,← List.append_assoc s.line,next.read]
  simp only [List.append_assoc]

theorem stream_sent : stream (sent json b line rest).sup = rest ++ (b.sup.worker.pipe ++ b.sup.worker.outbox) := by
  show [] ++ (rest ++ b.sup.worker.pipe) ++ b.sup.worker.outbox = _
  rw [List.nil_append,List.append_assoc]

theorem onTheWay_sent (next : NextLine b.sup line rest) :
    onTheWay json b.sup = (idOf json line).toList ++ onTheWay json (sent json b line rest).sup := by
  rw [onTheWay,onTheWay,stream_sent,next.stream,lines_line next.isLine,List.filterMap_cons]
  cases idOf json line <;> rfl

theorem sent_sound (sound : Sound json b) (next : NextLine b.sup line rest) (phase : b.sup.phase = .proxy ∨ b.sup.phase = .drain) :
    Sound json (sent json b line rest) := by
  have opens : Open json b := by
    have expects := sound.expects
    rcases phase with phase | phase <;> rwa [Expects,phase] at expects
  have split : stream b.sup = line ++ stream (sent json b line rest).sup := by rw [stream_sent,next.stream]
  have drop := drops sound.clean split
  have comes : (coming json b.sup).Perm ((idOf json line).toList ++ coming json (sent json b line rest).sup) := by
    rw [coming,onTheWay_sent next,← List.append_assoc,coming,← List.append_assoc]
    exact List.Perm.append_right _ List.perm_append_comm
  have nodup := List.nodup_append.mp (comes.nodup_iff.mp opens.nodup)
  have own : ∀ id, idOf json line = some id → id ∈ coming json b.sup := by
    intro id own
    exact comes.mem_iff.mpr (List.mem_append_left _ (Option.mem_toList.mpr own))
  have opens' : Open json (sent json b line rest) := by
    refine ⟨nodup.2.1,fun id member => ?_⟩
    obtain ⟨given,unanswered⟩ := opens.unanswered id (comes.mem_iff.mpr (List.mem_append_right _ member))
    refine ⟨given,fun now => ?_⟩
    rcases List.mem_append.mp now with before | now
    · exact unanswered before
    · exact nodup.2.2 id now id member rfl
  refine ⟨sound.distinct,sound.asks,?_,sound.keys.sublist ((removePending_sublist _ _).map _),sound.notification,?_,
    drop.clean,fun alive => drop.whole (sound.whole alive),?_⟩
  · intro id member
    rcases List.mem_append.mp member with before | now
    · exact sound.replies id before
    · exact (opens.unanswered id (own id (Option.mem_toList.mp now))).1
  · refine ⟨fun notProxy notDrain => ?_,List.not_mem_nil⟩
    rcases phase with phase | phase
    · exact (notProxy phase).elim
    · exact (notDrain phase).elim
  · have phase' : (sent json b line rest).sup.phase = b.sup.phase := rfl
    unfold Expects
    rw [phase']
    rcases phase with phase | phase <;> rw [phase] <;> exact opens'

theorem sent_answered (sound : Sound json b) (answered : Answered json b) (next : NextLine b.sup line rest)
    (phase : b.sup.phase = .proxy ∨ b.sup.phase = .drain) : Answered json (sent json b line rest) := by
  have opens : Open json b := by
    have expects := sound.expects
    rcases phase with phase | phase <;> rwa [Expects,phase] at expects
  have way : onTheWay json b.sup = (idOf json line).toList ++ onTheWay json (sent json b line rest).sup := onTheWay_sent next
  have own : ∀ id, idOf json line = some id → id ∉ b.answered := by
    intro id own
    refine (opens.unanswered id ?_).2
    rw [coming,way]
    exact List.mem_append_right _ (List.mem_append_left _ (Option.mem_toList.mpr own))
  refine ⟨accounted_of phase ?_ ?_,?_⟩
  · intro id l
    show (id,l) ∈ removePending json.rpc line b.sup.pending ↔ _ ∧ id ∉ b.answered ++ (idOf json line).toList
    rw [mem_removePending,answered.pending,List.mem_append,not_or,Option.mem_toList,and_assoc]
    rfl
  · refine List.nodup_append.mpr ⟨answered.once,by cases idOf json line <;> simp,?_⟩
    intro id before id' now same
    rw [same] at before
    exact own id' (Option.mem_toList.mp now) before
  · intro proxy alive g member unanswered
    rw [sent,List.mem_append,not_or] at unanswered
    have before := answered.served proxy alive g member unanswered.1
    rw [coming,way] at before
    rcases List.mem_append.mp before with asked | onWay
    · exact List.mem_append_left _ asked
    · rcases List.mem_append.mp onWay with now | later
      · exact (unanswered.2 now).elim
      · exact List.mem_append_right _ later

theorem reinitialized_sound {dropped : Bytes} (sound : Sound json b) (reinit : b.sup.phase = .reinit) (some_ : dropped ≠ [])
    (split : stream b.sup = dropped ++ stream (reinitialized b.sup rest)) : Sound json { b with sup := reinitialized b.sup rest } := by
  have drop := drops sound.clean split
  refine sound_frame sound rfl rfl sound.keys rfl
    ⟨fun _ _ => sound.begun.fresh (by rw [reinit]; decide) (by rw [reinit]; decide),List.not_mem_nil⟩ drop.clean
    (fun alive => drop.whole (sound.whole alive)) ?_
  have expects := sound.expects
  rw [Expects,reinit] at expects
  show coming json (reinitialized b.sup rest) = []
  have clean := sound.clean
  rw [split] at clean expects
  rcases expects with ⟨asked,others⟩ | ⟨-,empty⟩
  · have fewer := sublist_drop_first some_ clean
    rw [others] at fewer
    exact List.append_eq_nil_iff.mpr ⟨asked,List.sublist_nil.mp fewer⟩
  · exact (some_ (List.append_eq_nil_iff.mp empty).1).elim

theorem reinitialized_answered (answered : Answered json b) (reinit : b.sup.phase = .reinit) :
    Answered json { b with sup := reinitialized b.sup rest } := by
  refine answered_of_accounted ⟨answered.pending,answered.once,fun _ => answered.greeted (.inr (.inl reinit)),?_⟩ ?_ <;>
    intro never <;> cases never

theorem lineRead_step {t : State} (sound : Sound json b) (answered : Answered json b) (next : NextLine b.sup line rest)
    (moved : lineRead json.rpc b.sup line rest = some t) :
    Sound json ⟨t,b.given,b.answered ++ sentId json b.sup line⟩ ∧ (Answered json ⟨t,b.given,b.answered ++ sentId json b.sup line⟩ ↔
      (b.sup.phase = .drain → finishes json b.sup line → handshakesAnswered b.given (b.answered ++ sentId json b.sup line)) ∧
        (b.sup.phase = .reinit → isUtf8 line = false → b.sup.pending = [])) := by
  unfold lineRead at moved
  split at moved
  · next proxy =>
    have neither : (b.sup.phase = .drain → finishes json b.sup line → handshakesAnswered b.given (b.answered ++ sentId json b.sup line)) ∧
        (b.sup.phase = .reinit → isUtf8 line = false → b.sup.pending = []) := by
      constructor <;> intro phase <;> cases proxy.symm.trans phase
    refine and_congr_right_iff.mpr (fun _ => iff_true_right neither) |>.mpr ?_
    split at moved
    · next valid =>
      cases moved
      rw [sentId,if_pos ⟨.inl proxy,valid⟩]
      exact ⟨sent_sound sound next (.inl proxy),sent_answered sound answered next (.inl proxy)⟩
    · next invalid =>
      cases moved
      rw [sentId,if_neg fun both => invalid both.2,List.append_nil]
      exact ⟨leave_sound sound proxy,leave_answered answered.toAccounted⟩
  · next drain =>
    have notReinit : b.sup.phase = .reinit → isUtf8 line = false → b.sup.pending = [] := by
      intro reinit
      cases drain.symm.trans reinit
    split at moved
    · next valid =>
      have sound' : Sound json (sent json b line rest) := sent_sound sound next (.inr drain)
      have answered' := sent_answered sound answered next (.inr drain)
      rw [sentId,if_pos ⟨.inr drain,valid⟩]
      dsimp only at moved
      split at moved
      · next none_ =>
        cases moved
        refine ⟨replace_sound sound',(replace_answered_iff answered'.toAccounted).trans ?_⟩
        exact ⟨fun greeted => ⟨fun _ _ => greeted,notReinit⟩,fun keeps => keeps.1 drain (.inr none_)⟩
      · next some_ =>
        cases moved
        refine ⟨sound',iff_of_true answered' ⟨fun _ ends => ?_,notReinit⟩⟩
        rcases ends with invalid | none_
        · cases valid.symm.trans invalid
        · exact (some_ none_).elim
    · next invalid =>
      cases moved
      rw [sentId,if_neg fun both => invalid both.2,List.append_nil]
      refine ⟨replace_sound sound,(replace_answered_iff answered.toAccounted).trans ?_⟩
      exact ⟨fun greeted => ⟨fun _ _ => greeted,notReinit⟩,fun keeps => keeps.1 drain (.inl (by simpa using invalid))⟩
  · next reinit =>
    have nothing : sentId json b.sup line = [] := by
      rw [sentId,if_neg]
      rintro ⟨phase | phase,-⟩ <;> cases reinit.symm.trans phase
    have notDrain : b.sup.phase = .drain → finishes json b.sup line → handshakesAnswered b.given b.answered := by
      intro drain
      cases reinit.symm.trans drain
    rw [nothing,List.append_nil]
    split at moved
    · next valid =>
      cases moved
      refine ⟨@reinitialized_sound _ _ _ (line ++ rest) sound reinit ?_ ?_,
        iff_of_true (reinitialized_answered answered reinit) ⟨notDrain,fun _ invalid => ?_⟩⟩
      · intro empty
        exact next.isLine.ne_nil (List.append_eq_nil_iff.mp empty).1
      · rw [next.stream,List.append_assoc]
        rfl
      · cases valid.symm.trans invalid
    · next invalid =>
      cases moved
      refine ⟨exit_sound sound,(exit_answered_iff answered.toAccounted (.inr (.inl reinit))).trans ?_⟩
      exact ⟨fun none_ => ⟨notDrain,fun _ _ => none_⟩,fun keeps => keeps.2 reinit (by simpa using invalid)⟩
  · cases moved

end

theorem read_step {n : Nat} (sound : Sound json b) (answered : Answered json b) (stepped : step json b (.read n) = some c) :
    Sound json c ∧ (Answered json c ↔ KeepsAnswers json b (.read n)) := by
  rw [step,Option.ite_none_right_eq_some] at stepped
  obtain ⟨-,moved⟩ := stepped
  obtain ⟨t,ran,rfl⟩ := Option.map_eq_some_iff.mp moved
  simp only [Supervisor.step,Option.ite_none_right_eq_some] at ran
  obtain ⟨-,ran⟩ := ran
  obtain ⟨u,got,ran⟩ := Option.bind_eq_some_iff.mp ran
  have fills := filled got
  have same : stream u = stream b.sup := by
    rw [stream,stream,fills.unread,fills.same]
  have eq := fills.same
  have here : Sound json { b with sup := u } ∧ Answered json { b with sup := u } := still (by rw [eq]) (by rw [eq]) (by rw [eq]) (by rw [eq]) same (by rw [eq])
    (begun_filled sound.begun fills) sound answered
  have given : b.given ++ gives json (.read n) = b.given := List.append_nil _
  rw [given]
  split at ran
  · next last rest cut =>
    obtain ⟨isLine,bytes⟩ := cut_spec cut
    have next : NextLine u (u.line ++ last) rest :=
      ⟨isLine_append here.1.begun.unfinished isLine,by rw [bytes,List.append_assoc]⟩
    have done : completes b.sup n = some (u.line ++ last,rest,u.worker.pipe) := by
      rw [completes,got,Option.bind_some,cut]
      rfl
    have phase : u.phase = b.sup.phase := by rw [eq]
    have pending : u.pending = b.sup.pending := by rw [eq]
    have ids : answers json b.sup (.read n) = sentId json u (u.line ++ last) := by
      rw [answers,done,sentId,phase]
      rfl
    have read := lineRead_step here.1 here.2 next ran
    rw [← ids] at read
    refine ⟨read.1,read.2.trans ?_⟩
    dsimp only
    rw [finishes,phase,pending]
    constructor
    · intro keeps line rest' pipe found
      cases done.symm.trans found
      exact keeps
    · intro keeps
      exact keeps _ _ _ done
  · next none_ =>
    cases ran
    have nothing : completes b.sup n = none := by
      rw [completes,got,Option.bind_some,none_]
      rfl
    have ids : answers json b.sup (.read n) = [] := by rw [answers,nothing]
    rw [ids,List.append_nil]
    have stays : stream { u with line := u.line ++ u.reader, reader := [] } = stream u := by
      simp [stream,State.unread]
    have begun : Begun { u with line := u.line ++ u.reader, reader := [] } := by
      refine ⟨here.1.begun.fresh,?_⟩
      rw [List.mem_append,not_or]
      exact ⟨here.1.begun.unfinished,cut_none_iff.mp none_⟩
    have both := still (t := { u with line := u.line ++ u.reader, reader := [] }) (b := { b with sup := u })
      rfl rfl rfl rfl stays rfl begun here.1 here.2
    refine ⟨both.1,iff_of_true both.2 ?_⟩
    intro line rest pipe found
    cases nothing.symm.trans found

/-! ### The end of a worker's output -/

/-- The unfinished line that is sent as it is. -/
def ended (json : JsonLines) (b : Books) : Books := { b with sup := { forward json.rpc b.sup b.sup.line with reader := [] } }

theorem ended_sound (sound : Sound json b) (empty : b.sup.reader = []) (phase : b.sup.phase = .proxy ∨ b.sup.phase = .drain) :
    Sound json (ended json b) := by
  have opens : Open json b := by
    have expects := sound.expects
    rcases phase with phase | phase <;> rwa [Expects,phase] at expects
  have split : stream b.sup = b.sup.line ++ stream (ended json b).sup := by
    simp [stream,State.unread,ended,forward,trackResponse,empty]
  have drop := drops sound.clean split
  refine sound_frame sound rfl rfl (sound.keys.sublist ((removePending_sublist _ _).map _)) rfl ?_ drop.clean
    (fun alive => drop.whole (sound.whole alive)) ?_
  · refine ⟨fun notProxy notDrain => ?_,List.not_mem_nil⟩
    rcases phase with phase | phase
    · exact (notProxy phase).elim
    · exact (notDrain phase).elim
  · have opens' : Open json (ended json b) :=
      open_of opens (fun _ => id) rfl (List.Sublist.append (List.Sublist.refl _) drop.fewer)
    have phase' : (ended json b).sup.phase = b.sup.phase := rfl
    unfold Expects
    rw [phase']
    rcases phase with phase | phase <;> rw [phase] <;> exact opens'

theorem ended_accounted_iff (accounted : Accounted b) (valid : isUtf8 b.sup.line = true) (some_ : b.sup.line ≠ [])
    (phase : b.sup.phase = .proxy ∨ b.sup.phase = .drain) : Accounted (ended json b) ↔ partialUnknown json b.sup := by
  have mem : ∀ id line, (id,line) ∈ (ended json b).sup.pending ↔ (id,line) ∈ b.sup.pending ∧ idOf json b.sup.line ≠ some id :=
    fun _ _ => mem_removePending
  constructor
  · intro after _ _ id own there
    obtain ⟨⟨id',line⟩,member,rfl⟩ := List.mem_map.mp there
    have still_ := (after.pending id' line).mpr ((accounted.pending id' line).mp member)
    exact ((mem id' line).mp still_).2 own
  · intro unknown
    refine accounted_of phase ?_ accounted.once
    intro id line
    rw [mem]
    refine Iff.trans ⟨And.left,fun member => ⟨member,fun own => ?_⟩⟩ (accounted.pending id line)
    exact unknown some_ valid id own (List.mem_map_of_mem member)

theorem eof_step (sound : Sound json b) (answered : Answered json b) (stepped : step json b .eof = some c) :
    Sound json c ∧ (Answered json c ↔ KeepsAnswers json b .eof) := by
  obtain ⟨-,t,ran,rfl⟩ := step_quiet stepped rfl rfl
  simp only [Supervisor.step,Option.ite_none_right_eq_some] at ran
  obtain ⟨⟨reads,reader,pipe,dead⟩,ran⟩ := ran
  rw [KeepsAnswers]
  by_cases empty : b.sup.line = []
  · have unknown : partialUnknown json b.sup := fun some_ => (some_ empty).elim
    rw [if_pos empty] at ran
    split at ran
    · next proxy =>
      cases ran
      rw [if_neg (by rw [proxy]; decide)]
      refine ⟨leave_sound sound proxy,iff_of_true (leave_answered answered.toAccounted) ⟨unknown,fun drain => ?_⟩⟩
      cases proxy.symm.trans drain
    · next drain =>
      cases ran
      rw [if_neg (by rw [drain]; decide)]
      refine ⟨replace_sound sound,(replace_answered_iff answered.toAccounted).trans ?_⟩
      exact ⟨fun greeted => ⟨unknown,fun _ _ => greeted⟩,fun keeps => keeps.2 drain (.inl empty)⟩
    · next notProxy notDrain =>
      cases ran
      have reinit : b.sup.phase = .reinit := by
        cases phase : b.sup.phase <;> simp_all [Phase.reads]
      rw [if_pos reinit]
      refine ⟨exit_sound sound,(exit_answered_iff answered.toAccounted (.inr (.inl reinit))).trans ?_⟩
      exact ⟨fun none_ _ => none_,fun keeps => keeps (.inl empty)⟩
  · rw [if_neg empty] at ran
    unfold lineRead at ran
    split at ran
    · next proxy =>
      rw [if_neg (by rw [proxy]; decide)]
      have notDrain : ∀ {q : Prop}, b.sup.phase = .drain → q := fun drain => by cases proxy.symm.trans drain
      split at ran
      · next valid =>
        cases ran
        refine ⟨ended_sound sound reader (.inl proxy),?_⟩
        have accounted : Accounted (ended json b) ↔ partialUnknown json b.sup := ended_accounted_iff answered.toAccounted valid empty (.inl proxy)
        constructor
        · intro after
          exact ⟨accounted.mp after.toAccounted,notDrain⟩
        · rintro ⟨unknown,-⟩
          exact ⟨accounted.mpr unknown,fun _ alive => by cases dead.symm.trans alive⟩
      · next invalid =>
        cases ran
        refine ⟨leave_sound sound proxy,iff_of_true (leave_answered answered.toAccounted) ⟨fun _ valid => ?_,notDrain⟩⟩
        exact (invalid valid).elim
    · next drain =>
      rw [if_neg (by rw [drain]; decide)]
      dsimp only at ran
      split at ran
      · next valid =>
        have accounted : Accounted (ended json b) ↔ partialUnknown json b.sup := ended_accounted_iff answered.toAccounted valid empty (.inr drain)
        have sound' := ended_sound sound reader (.inr drain)
        split at ran
        · next none_ =>
          cases ran
          refine ⟨replace_sound sound',?_⟩
          constructor
          · intro after
            have before : Accounted (ended json b) := accounted_of (.inr drain) after.pending after.once
            exact ⟨accounted.mp before,fun _ _ => after.greeted (.inl rfl)⟩
          · rintro ⟨unknown,greeted⟩
            exact (replace_answered_iff (accounted.mpr unknown)).mpr (greeted drain (.inr (.inr none_)))
        · next some_ =>
          cases ran
          refine ⟨sound',?_⟩
          constructor
          · intro after
            refine ⟨accounted.mp after.toAccounted,fun _ ends => ?_⟩
            rcases ends with none_ | invalid | none_
            · exact (empty none_).elim
            · cases valid.symm.trans invalid
            · exact (some_ none_).elim
          · rintro ⟨unknown,-⟩
            exact answered_of_accounted (accounted.mpr unknown) (fun proxy => by cases drain.symm.trans proxy)
      · next invalid =>
        cases ran
        refine ⟨replace_sound sound,(replace_answered_iff answered.toAccounted).trans ?_⟩
        exact ⟨fun greeted => ⟨fun _ valid => (invalid valid).elim,fun _ _ => greeted⟩,
          fun keeps => keeps.2 drain (.inr (.inl (by simpa using invalid)))⟩
    · next reinit =>
      rw [if_pos reinit]
      split at ran
      · next valid =>
        cases ran
        refine ⟨@reinitialized_sound _ _ _ b.sup.line sound reinit empty ?_,
          iff_of_true (reinitialized_answered answered reinit) fun either => ?_⟩
        · simp [stream,State.unread,reinitialized,reader]
        · rcases either with none_ | invalid
          · exact (empty none_).elim
          · cases valid.symm.trans invalid
      · next invalid =>
        cases ran
        refine ⟨exit_sound sound,(exit_answered_iff answered.toAccounted (.inr (.inl reinit))).trans ?_⟩
        exact ⟨fun none_ _ => none_,fun keeps => keeps (.inr (by simpa using invalid))⟩
    · cases ran

/-! ### A new worker -/

theorem asked_pending {pending : List (String × Bytes)} (asks : ∀ e ∈ pending, (requestOf json e.2).map Request.id = some e.1) :
    (pending.map Prod.snd).filterMap (fun line => (requestOf json line).map Request.id) = pending.map Prod.fst := by
  induction pending with
  | nil => rfl
  | cons e rest ih =>
    rw [List.map_cons,List.filterMap_cons,asks e List.mem_cons_self,
      ih fun e' member => asks e' (List.mem_cons_of_mem _ member),List.map_cons]

theorem Sound.asks_pending (sound : Sound json b) (accounted : Accounted b) :
    ∀ e ∈ b.sup.pending, (requestOf json e.2).map Request.id = some e.1 := by
  rintro ⟨id,line⟩ member
  rw [sound.asks _ ((accounted.pending id line).mp member).1]
  rfl

theorem greet_step {written : Bool} (sound : Sound json b) (answered : Answered json b)
    (stepped : step json b (.greet written) = some c) : Sound json c ∧ (Answered json c ↔ KeepsAnswers json b (.greet written)) := by
  obtain ⟨-,t,ran,rfl⟩ := step_quiet stepped rfl rfl
  simp only [Supervisor.step,Option.ite_none_right_eq_some] at ran
  obtain ⟨spawned,ran⟩ := ran
  have fresh := sound.begun.fresh (by rw [spawned]; decide) (by rw [spawned]; decide)
  have expects := sound.expects
  rw [Expects,spawned] at expects
  obtain ⟨inbox,empty⟩ := expects
  have greeted := answered.greeted (.inl spawned)
  split at ran
  · next none_ =>
    cases ran
    have idle : coming json b.sup = [] := by
      rw [coming,asked,inbox,onTheWay,empty]
      rfl
    refine ⟨sound_frame sound rfl rfl sound.keys rfl ⟨fun _ _ => fresh,sound.begun.unfinished⟩ sound.clean sound.whole idle,?_⟩
    refine iff_of_true (answered_of_accounted ⟨answered.pending,answered.once,fun _ => greeted,?_⟩ ?_) fun _ some_ => (some_ none_).elim
    · intro never
      cases never
    · intro never
      cases never
  · next request some_ =>
    split at ran
    · next yes =>
      rw [Option.ite_none_right_eq_some] at ran
      obtain ⟨-,ran⟩ := ran
      cases ran
      refine ⟨sound_frame sound rfl rfl sound.keys rfl ⟨fun _ _ => fresh,sound.begun.unfinished⟩ sound.clean sound.whole (.inr ⟨?_,empty⟩),?_⟩
      · rw [asked,List.filterMap_cons]
        have none_ : b.sup.initNotification.toList.filterMap (fun line => (requestOf json line).map Request.id) = [] := by
          cases notified : b.sup.initNotification with
          | none => rfl
          | some line => simp [sound.notification line notified]
        rw [none_]
        split <;> simp
      · refine iff_of_true (answered_of_accounted ⟨answered.pending,answered.once,fun _ => greeted,?_⟩ ?_) fun no => ?_
        · intro never
          cases never
        · intro never
          cases never
        · cases yes.symm.trans no
    · next no =>
      cases ran
      refine ⟨exit_sound sound,(exit_answered_iff answered.toAccounted (.inl spawned)).trans ?_⟩
      exact ⟨fun none_ _ _ => none_,fun keeps => keeps (by simpa using no) (by rw [some_]; exact Option.some_ne_none _)⟩

theorem replay_step {n : Nat} (sound : Sound json b) (answered : Answered json b) (stepped : step json b (.replay n) = some c) :
    Sound json c ∧ Answered json c := by
  obtain ⟨-,t,ran,rfl⟩ := step_quiet stepped rfl rfl
  simp only [Supervisor.step,Option.ite_none_right_eq_some] at ran
  obtain ⟨⟨ready,all⟩,ran⟩ := ran
  cases ran
  have expects := sound.expects
  rw [Expects,ready] at expects
  obtain ⟨asks,way⟩ := List.append_eq_nil_iff.mp expects
  have pending := sound.asks_pending answered.toAccounted
  have comes : coming json { b.sup with
      phase := .proxy
      client := b.sup.client ++ listChanged
      worker := { b.sup.worker with inbox := b.sup.worker.inbox ++ (b.sup.pending.take n).map Prod.snd } } =
      (b.sup.pending.take n).map Prod.fst := by
    rw [coming,asked,List.filterMap_append,asked_pending fun e member => pending e (List.mem_of_mem_take member)]
    have asks' : b.sup.worker.inbox.filterMap (fun line => (requestOf json line).map Request.id) = [] := asks
    have way' : onTheWay json b.sup = [] := way
    rw [asks',List.nil_append]
    exact (congrArg (_ ++ ·) way').trans (List.append_nil _)
  refine ⟨sound_frame sound rfl rfl sound.keys rfl ⟨fun other => (other rfl).elim,sound.begun.unfinished⟩ sound.clean sound.whole ?_,
    accounted_of (.inl rfl) answered.pending answered.once,?_⟩
  · refine ⟨?_,fun id member => ?_⟩
    · rw [comes]
      exact sound.keys.sublist ((List.take_sublist _ _).map _)
    · rw [comes] at member
      obtain ⟨⟨id',line⟩,there,rfl⟩ := List.mem_map.mp member
      obtain ⟨given,unanswered⟩ := (answered.pending id' line).mp (List.mem_of_mem_take there)
      exact ⟨List.mem_map_of_mem given,unanswered⟩
  · intro _ alive g member unanswered
    show g.id ∈ coming json _
    rw [comes,List.take_of_length_le (all alive)]
    obtain ⟨id,line,handshake⟩ := g
    cases handshake with
    | true => exact (unanswered (answered.greeted (.inr (.inr ready)) _ member rfl)).elim
    | false => exact List.mem_map_of_mem ((answered.pending id line).mpr ⟨member,unanswered⟩)

/-! ### The worker -/

/-- The worker begins to write a line. -/
def writes (s : State) (inbox : List Bytes) (text : Bytes) : State :=
  { s with worker := { s.worker with inbox := inbox, outbox := s.worker.outbox ++ text ++ [newline] } }

section
variable {inbox : List Bytes} {text : Bytes}

theorem stream_writes : stream (writes s inbox text) = stream s ++ (text ++ [newline]) := by
  simp [stream,State.unread,writes]

theorem lines_writes (whole : Whole newline (stream s)) (clear : newline ∉ text) :
    lines newline (stream (writes s inbox text)) = lines newline (stream s) ++ [text ++ [newline]] := by
  have last := lines_line (isLine_newline clear) []
  rw [List.append_nil] at last
  rw [stream_writes,lines_append_whole whole,last]
  rfl

theorem onTheWay_writes (whole : Whole newline (stream s)) (clear : newline ∉ text) :
    onTheWay json (writes s inbox text) = onTheWay json s ++ (idOf json (text ++ [newline])).toList := by
  rw [onTheWay,lines_writes whole clear,List.filterMap_append,onTheWay]
  cases own : idOf json (text ++ [newline]) <;> simp [own]

theorem writes_sound (sound : Sound json b) (alive : b.sup.worker.alive = true) (clear : newline ∉ text)
    (object : isObject json text = true) (expects : Expects json { b with sup := writes b.sup inbox text }) :
    Sound json { b with sup := writes b.sup inbox text } := by
  refine sound_frame sound rfl rfl sound.keys rfl ⟨sound.begun.fresh,sound.begun.unfinished⟩ ?_ ?_ expects
  · intro line member
    dsimp only at member
    rw [lines_writes (sound.whole alive) clear,List.mem_append,List.mem_singleton] at member
    rcases member with before | rfl
    · exact sound.clean line before
    · exact clean_of_isObject object
  · intro _
    show Whole newline (stream (writes b.sup inbox text))
    rw [stream_writes]
    exact whole_append (sound.whole alive) (isLine_newline clear)

theorem writes_answered (answered : Answered json b) (same : ∀ id, id ∈ coming json b.sup → id ∈ coming json (writes b.sup inbox text)) :
    Answered json { b with sup := writes b.sup inbox text } :=
  ⟨⟨answered.pending,answered.once,answered.greeted,answered.left⟩,
    fun proxy alive g member unanswered => same _ (answered.served proxy alive g member unanswered)⟩

end

theorem emit_step {text : Bytes} (sound : Sound json b) (answered : Answered json b) (stepped : step json b (.emit text) = some c) :
    Sound json c ∧ Answered json c := by
  obtain ⟨rules,t,ran,rfl⟩ := step_quiet stepped rfl rfl
  simp only [Supervisor.step,Option.ite_none_right_eq_some] at ran
  obtain ⟨⟨alive,clear⟩,ran⟩ := ran
  cases ran
  simp only [allowed,Bool.and_eq_true,decide_eq_true_eq] at rules
  obtain ⟨⟨object,noId⟩,begun⟩ := rules
  have whole := sound.whole alive
  have comes : coming json (writes b.sup b.sup.worker.inbox text) = coming json b.sup := by
    rw [coming,onTheWay_writes whole clear,noId,Option.toList_none,List.append_nil]
    rfl
  refine ⟨writes_sound sound alive clear object ?_,
    writes_answered answered fun id there => by rw [comes]; exact there⟩
  have expects := sound.expects
  unfold Expects at expects ⊢
  have phase : (writes b.sup b.sup.worker.inbox text).phase = b.sup.phase := rfl
  dsimp only
  rw [phase]
  split at expects
  · exact open_of expects (fun _ => id) rfl (by rw [comes])
  · exact open_of expects (fun _ => id) rfl (by rw [comes])
  · next spawned => exact (begun (.inl spawned) expects.2).elim
  · next reinit =>
    rcases expects with ⟨asked,others⟩ | ⟨-,empty⟩
    · refine .inl ⟨asked,?_⟩
      rw [lines_writes whole clear]
      cases first : lines newline (stream b.sup) with
      | nil => rfl
      | cons line more =>
        rw [first] at others
        rw [List.cons_append,List.drop_one,List.tail_cons,List.filterMap_append]
        exact List.append_eq_nil_iff.mpr ⟨others,by simp [noId]⟩
    · exact (begun (.inr reinit) empty).elim
  · rw [comes]
    exact expects
  · trivial

theorem answer_step {line text : Bytes} (sound : Sound json b) (answered : Answered json b)
    (stepped : step json b (.answer line text) = some c) : Sound json c ∧ Answered json c := by
  obtain ⟨rules,t,ran,rfl⟩ := step_quiet stepped rfl rfl
  simp only [Supervisor.step,Option.ite_none_right_eq_some] at ran
  obtain ⟨⟨alive,member,clear⟩,ran⟩ := ran
  cases ran
  rw [allowed,Bool.and_eq_true] at rules
  obtain ⟨object,rules⟩ := rules
  obtain ⟨request,asks,own⟩ := (Option.any_eq_true _ _).mp rules
  rw [decide_eq_true_eq] at own
  have whole := sound.whole alive
  -- the request leaves the inbox, its answer is on the way
  have asked_ : (asked json b.sup).Perm (request.id :: asked json (writes b.sup (b.sup.worker.inbox.erase line) text)) := by
    have order := (List.perm_cons_erase member).filterMap fun line => (requestOf json line).map Request.id
    rwa [List.filterMap_cons,asks] at order
  have comes : (coming json (writes b.sup (b.sup.worker.inbox.erase line) text)).Perm (coming json b.sup) := by
    rw [coming,onTheWay_writes whole clear,own,Option.toList_some,← List.append_assoc]
    refine List.perm_append_comm.trans ?_
    rw [List.singleton_append,← List.cons_append]
    exact List.Perm.append_right _ asked_.symm
  refine ⟨writes_sound sound alive clear object ?_,writes_answered answered fun id there => comes.mem_iff.mpr there⟩
  have expects := sound.expects
  unfold Expects at expects ⊢
  have phase : (writes b.sup (b.sup.worker.inbox.erase line) text).phase = b.sup.phase := rfl
  dsimp only
  rw [phase]
  have opens : Open json b → Open json { b with sup := writes b.sup (b.sup.worker.inbox.erase line) text } := fun opens =>
    ⟨comes.nodup_iff.mpr opens.nodup,fun id there => opens.unanswered id (comes.mem_iff.mp there)⟩
  have here : request.id ∈ asked json b.sup := asked_.mem_iff.mpr List.mem_cons_self
  split at expects
  · exact opens expects
  · exact opens expects
  · rw [expects.1] at member
    cases member
  · rcases expects with ⟨none_,-⟩ | ⟨one,empty⟩
    · rw [none_] at here
      cases here
    · refine .inl ⟨?_,?_⟩
      · have length := asked_.length_eq
        rw [List.length_cons] at length
        exact List.eq_nil_of_length_eq_zero (by omega)
      · rw [lines_writes whole clear,empty]
        rfl
  · rw [coming] at expects
    rw [(List.append_eq_nil_iff.mp expects).1] at here
    cases here
  · trivial

theorem die_step (sound : Sound json b) (answered : Answered json b) (stepped : step json b .die = some c) :
    Sound json c ∧ Answered json c := by
  obtain ⟨-,t,ran,rfl⟩ := step_quiet stepped rfl rfl
  cases ran
  have rest : stream { b.sup with worker := { b.sup.worker with alive := false, inbox := [], outbox := [] } } = b.sup.unread :=
    List.append_nil _
  obtain ⟨later,more⟩ := @lines_begins _ _ newline b.sup.unread b.sup.worker.outbox
  have way : (onTheWay json { b.sup with worker := { b.sup.worker with alive := false, inbox := [], outbox := [] } }).Sublist
      (onTheWay json b.sup) := by
    rw [onTheWay,rest,onTheWay,stream,more]
    exact (List.sublist_append_left _ _).filterMap _
  have fewer : (coming json { b.sup with worker := { b.sup.worker with alive := false, inbox := [], outbox := [] } }).Sublist
      (coming json b.sup) := List.Sublist.append (List.nil_sublist _) way
  refine ⟨sound_frame sound rfl rfl sound.keys rfl ⟨sound.begun.fresh,sound.begun.unfinished⟩ ?_ nofun ?_,
    ⟨⟨answered.pending,answered.once,answered.greeted,answered.left⟩,nofun⟩⟩
  · intro line member
    dsimp only at member
    rw [rest] at member
    exact sound.clean line (by rw [stream,more]; exact List.mem_append_left _ member)
  · have expects := sound.expects
    unfold Expects at expects ⊢
    dsimp only
    split at expects
    · exact open_of expects (fun _ => id) rfl fewer
    · exact open_of expects (fun _ => id) rfl fewer
    · rw [rest]
      exact ⟨rfl,(List.append_eq_nil_iff.mp expects.2).1⟩
    · rw [rest]
      rcases expects with ⟨-,others⟩ | ⟨-,empty⟩
      · refine .inl ⟨rfl,?_⟩
        rw [stream,more] at others
        have fewer := ((List.sublist_append_left (lines newline b.sup.unread) later).drop 1).filterMap (idOf json)
        rw [others] at fewer
        exact List.sublist_nil.mp fewer
      · exact .inr ⟨Nat.zero_le _,(List.append_eq_nil_iff.mp empty).1⟩
    · rw [expects] at fewer
      exact List.sublist_nil.mp fewer
    · trivial

/-! ### Runs -/

theorem answered_step {a : Action} (sound : Sound json b) (answered : Answered json b) (stepped : step json b a = some c) :
    Sound json c ∧ (Answered json c ↔ KeepsAnswers json b a) := by
  cases a with
  | client line written => exact client_step sound answered stepped
  | read n => exact read_step sound answered stepped
  | eof => exact eof_step sound answered stepped
  | greet written => exact greet_step sound answered stepped
  | replay n => exact (replay_step sound answered stepped).imp_right fun after => iff_of_true after trivial
  | emit text => exact (emit_step sound answered stepped).imp_right fun after => iff_of_true after trivial
  | answer line text => exact (answer_step sound answered stepped).imp_right fun after => iff_of_true after trivial
  | die => exact (die_step sound answered stepped).imp_right fun after => iff_of_true after trivial
  | reload =>
    obtain ⟨-,t,ran,rfl⟩ := step_quiet stepped rfl rfl
    simp only [Supervisor.step,Option.ite_none_right_eq_some] at ran
    obtain ⟨proxy,ran⟩ := ran
    cases ran
    exact ⟨leave_sound sound proxy,iff_of_true (leave_answered answered.toAccounted) trivial⟩
  | timeout =>
    obtain ⟨-,t,ran,rfl⟩ := step_quiet stepped rfl rfl
    simp only [Supervisor.step] at ran
    split at ran
    · next drain =>
      cases ran
      rw [KeepsAnswers,if_pos drain]
      exact ⟨replace_sound sound,replace_answered_iff answered.toAccounted⟩
    · next reinit =>
      cases ran
      rw [KeepsAnswers,if_neg (by rw [reinit]; decide)]
      exact ⟨exit_sound sound,exit_answered_iff answered.toAccounted (.inr (.inl reinit))⟩
    · cases ran
  | put n =>
    obtain ⟨-,t,ran,rfl⟩ := step_quiet stepped rfl rfl
    simp only [Supervisor.step,Option.ite_none_right_eq_some] at ran
    obtain ⟨-,ran⟩ := ran
    cases ran
    have both := still (b := b) (t := { b.sup with worker := { b.sup.worker with
        outbox := b.sup.worker.outbox.drop n
        pipe := b.sup.worker.pipe ++ b.sup.worker.outbox.take n
        wrote := b.sup.worker.wrote ++ b.sup.worker.outbox.take n } })
      rfl rfl rfl rfl (by simp [stream,State.unread]) rfl ⟨sound.begun.fresh,sound.begun.unfinished⟩ sound answered
    exact both.imp_right fun after => iff_of_true after trivial

variable (json) in
/-- In every run each request is answered once, or will be, exactly if no step loses an answer. -/
theorem answered_once_iff (actions : List Action) :
    Always (step json) (Answered json) Books.start actions ↔ Along (step json) (KeepsAnswers json) Books.start actions := by
  refine always_iff_along_with (fun _ _ _ sound answered stepped => (answered_step sound answered stepped).1)
    (fun _ _ _ sound answered stepped => (answered_step sound answered stepped).2) ?_ ?_
  · refine ⟨List.nodup_nil,nofun,nofun,List.nodup_nil,nofun,⟨fun other => (other rfl).elim,List.not_mem_nil⟩,nofun,fun _ => rfl,?_⟩
    exact ⟨List.nodup_nil,nofun⟩
  · refine ⟨accounted_of (.inl rfl) ?_ List.nodup_nil,nofun⟩
    exact fun _ _ => ⟨nofun,nofun⟩

/-- The worker has answered all that it received, and all that it wrote was read. -/
structure Settled (json : JsonLines) (s : State) : Prop where
  proxy : s.phase = .proxy
  alive : s.worker.alive = true
  asked : asked json s = []
  stream : stream s = []

/-- When the last worker has done its work, every request has exactly one answer. -/
theorem Answered.exactly_once (answered : Answered json b) (settled : Settled json b.sup) :
    ∀ g ∈ b.given, b.answered.count g.id = 1 := by
  intro g member
  refine List.count_eq_one_of_mem answered.once ?_
  by_contra unanswered
  have never := answered.served settled.proxy settled.alive g member unanswered
  rw [coming,settled.asked,onTheWay,settled.stream] at never
  cases never

end

/-- `{"id":0,"method":"initialize"}` and the answer to it without its end. -/
def hello : Bytes := Utf8.encode "\x7b\"id\":0,\"method\":\"initialize\"\x7d\n".toList
def welcome : Bytes := Utf8.encode "\x7b\"id\":0,\"result\":\x7b\x7d\x7d".toList

def handshakeLines : List (Bytes × Rpc) := [(hello,⟨"initialize",some "0"⟩),(welcome ++ [newline],⟨"",some "0"⟩)]

def handshakeJson : JsonLines where
  rpc := (handshakeLines.lookup ·)
  torn := by
    have ends : ∀ e ∈ handshakeLines, ∀ rest ∈ e.1.tail.tails, (handshakeLines.lookup rest).bind Rpc.id = none := by decide +kernel
    intro first rest message read
    obtain ⟨before,after,split,-⟩ := List.lookup_eq_some_iff.mp read
    refine ends (123 :: (first ++ rest),message) (by rw [split]; simp) rest ?_
    exact (List.mem_tails _ _).mpr (List.suffix_append first rest)

/-- The first worker dies before it answered the initialization; the next one answers it. -/
def diesFirst : List Action :=
  [.client hello true,.die,.eof,.eof,.greet true,.answer hello welcome,.put 40,.read 40,.replay 0]

theorem handshake_unanswered : ¬ ∀ (json : JsonLines) (actions : List Action),
    Always (step json) (Answered json) Books.start actions := by
  intro claim
  have silent : (run (step handshakeJson) Books.start diesFirst).map (fun b =>
      ((b.sup.phase,b.sup.worker.alive),(b.given.map Request.id,b.answered),(asked handshakeJson b.sup,stream b.sup))) =
      some ((.proxy,true),(["0"],[]),([],[])) := by decide +kernel
  obtain ⟨b,ran,last⟩ := Option.map_eq_some_iff.mp silent
  simp only [Prod.mk.injEq] at last
  obtain ⟨⟨proxy,alive⟩,⟨given,answered⟩,⟨asked,stream⟩⟩ := last
  have once := (always_last (claim handshakeJson diesFirst) ran).exactly_once ⟨proxy,alive,asked,stream⟩
  obtain ⟨g,member,-⟩ := List.mem_map.mp (by rw [given]; exact List.mem_cons_self : "0" ∈ b.given.map Request.id)
  have none_ := once g member
  rw [answered] at none_
  cases none_

end Sctl.SupervisorAnswers
