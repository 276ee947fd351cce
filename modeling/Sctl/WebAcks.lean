import Sctl.Tables
import Sctl.Texts
import Sctl.WsClient

/-!
The requests of the web client that wait for an answer (`sendWithAck` and `dispatch` of
`web/src/lib/utils/ws-client.ts`), on top of its sockets. A promise keeps what it is settled with
first. Against the table of waiting requests and their timers stands what a request comes to by what
happens after it: the first answer with its id, its timeout, or a disconnect. What the callbacks of
a message do are steps of their own, and the listeners are not part of the model.
-/
namespace Sctl.WebAcks
open Runs

/-- A message that was parsed; `body` is what is read from it elsewhere. -/
structure WsServerMsg (Body : Type) where
  type : String
  requestId : Option String
  code : String
  message : String
  body : Body

inductive Outcome (Body : Type)
  | resolved (msg : WsServerMsg Body)
  | serverError (code message : String)
  | timeoutError (message : String)
  | connectionError (message : String)

/-- A call of `sendWithAck`: what was asked, whether it was handed to a socket, what its promise is
    settled with, and how much had happened when it was made. -/
structure Call (Body : Type) where
  type : String
  requestId : String
  sent : Bool
  outcome : Option (Outcome Body)
  since : Nat

inductive Event (Body : Type)
  | heard (msg : WsServerMsg Body)
  | fired (n : Nat)
  | disconnected

/-- The calls are numbered in their order. A call waits under its request id, with one timer of its
    number; `wire` holds the types and ids of what was handed to a socket. -/
structure State (Body : Type) where
  client : WsClient.Client := WsClient.start
  requestCounter : Nat := 0
  pendingAcks : Table String Nat := ∅
  timers : List Nat := []
  calls : List (Call Body) := []
  wire : List (String × String) := []
  history : List (Event Body) := []

/-- `nextRequestId`. -/
def nextRequestId (requestCounter now : Nat) : String := s!"req_{requestCounter}_{now}"

variable {Body : Type}

/-- What an answer settles its request with. -/
def WsServerMsg.answer (msg : WsServerMsg Body) : Outcome Body :=
  if msg.type = "error" then .serverError msg.code msg.message else .resolved msg

def timeoutOf (call : Call Body) : Outcome Body := .timeoutError s!"Ack timeout for {call.type} ({call.requestId})"

def notConnected : Outcome Body := .connectionError "WebSocket not connected"

def connectionClosed : Outcome Body := .connectionError "Connection closed"

namespace State

/-- The stored socket is open. -/
def ready (s : State Body) : Bool := (s.client.ws.bind fun n => s.client.sockets[n]?) = some .opened

/-- `resolve` or `reject` of a promise. -/
def settle (s : State Body) (n : Nat) (outcome : Outcome Body) : State Body :=
  { s with calls := s.calls.modify n fun call => { call with outcome := call.outcome.or (some outcome) } }

def clearTimeout (s : State Body) (n : Nat) : State Body := { s with timers := s.timers.filter (· ≠ n) }

def sendWithAck (s : State Body) (type : String) (now : Nat) : State Body :=
  let n := s.calls.length
  let requestId := nextRequestId (s.requestCounter + 1) now
  let s := { s with
    requestCounter := s.requestCounter + 1
    timers := n :: s.timers
    pendingAcks := s.pendingAcks.insert requestId n
    calls := s.calls ++ [(⟨type,requestId,s.ready,none,s.history.length⟩ : Call Body)] }
  if s.ready then { s with wire := s.wire ++ [(type,requestId)] }
  else
    let s := s.clearTimeout n
    { s with pendingAcks := s.pendingAcks.erase requestId }.settle n notConnected

/-- The callback of a timer. -/
def expire (s : State Body) (n : Nat) (call : Call Body) : State Body :=
  { s.clearTimeout n with pendingAcks := s.pendingAcks.erase call.requestId, history := s.history ++ [Event.fired n] }.settle n (timeoutOf call)

/-- `dispatch`, as far as a request waits for the message. -/
def dispatch (s : State Body) (msg : WsServerMsg Body) : State Body :=
  let s := { s with history := s.history ++ [Event.heard msg] }
  match msg.requestId with
  | none => s
  | some requestId =>
    if requestId = "" then s
    else
      match s.pendingAcks.lookup requestId with
      | none => s
      | some n => { s.clearTimeout n with pendingAcks := s.pendingAcks.erase requestId }.settle n msg.answer

/-- The timers are cleared and the promises settled alike. -/
def closeAll (s : State Body) (ns : List Nat) (outcome : Outcome Body) : State Body :=
  ns.foldl (fun s n => (s.clearTimeout n).settle n outcome) s

/-- What `disconnect` does to the requests that wait. -/
def rejectAll (s : State Body) : State Body :=
  { s.closeAll (s.pendingAcks.entries.map Sigma.snd) connectionClosed with
    pendingAcks := ∅
    history := s.history ++ [Event.disconnected] }

end State

def frame : Option (WsServerMsg Body) → WsClient.Client.Frame
  | none => .notJson
  | some msg => if msg.type = "tunnel.device_disconnected" then .deviceDisconnected else .other

/-- A frame that is no JSON is `none`; `client` is any other action of the sockets. -/
inductive Action (Body : Type)
  | sendWithAck (type : String) (now : Nat)
  | expire (n : Nat)
  | message (socket : Nat) (parsed : Option (WsServerMsg Body))
  | disconnect
  | client (a : WsClient.Action)

def step (c : WsClient.Config) (s : State Body) : Action Body → Option (State Body)
  | .sendWithAck type now => some (s.sendWithAck type now)
  | .expire n => if n ∈ s.timers then (s.calls[n]?).map (s.expire n) else none
  | .message socket parsed =>
    (WsClient.step c s.client (.message socket (frame parsed))).map fun client =>
      match parsed with
      | none => { s with client }
      | some msg => { s with client }.dispatch msg
  | .disconnect => (WsClient.step c s.client .disconnect).map fun client => { s with client }.rejectAll
  | .client a =>
    match a with
    | .message _ _ | .disconnect => none
    | a => (WsClient.step c s.client a).map fun client => { s with client }

/-! ### What a request comes to -/

/-- What an event settles a request with. -/
def decides (n : Nat) (call : Call Body) : Event Body → Option (Outcome Body)
  | .heard msg => if msg.requestId = some call.requestId then some msg.answer else none
  | .fired m => if m = n then some (timeoutOf call) else none
  | .disconnected => some connectionClosed

/-- What a request comes to: the first event after it that settles it does. -/
def verdict (n : Nat) (call : Call Body) (history : List (Event Body)) : Option (Outcome Body) :=
  if call.sent then (history.drop call.since).findSome? (decides n call) else some notConnected

/-- Every request is settled by what happens after it, and as long as it is not it waits under its
    id, which no other has, and for its timer. -/
structure Settles (s : State Body) : Prop where
  outcome : ∀ (n : Nat) (call : Call Body), s.calls[n]? = some call → call.outcome = verdict n call s.history
  pending : ∀ (requestId : String) (n : Nat), s.pendingAcks.lookup requestId = some n ↔
    ∃ call, s.calls[n]? = some call ∧ call.requestId = requestId ∧ call.outcome = none
  timers : ∀ n : Nat, n ∈ s.timers ↔ ∃ call, s.calls[n]? = some call ∧ call.outcome = none
  single : ∀ (m n : Nat) (first second : Call Body), s.calls[m]? = some first → s.calls[n]? = some second → first.requestId = second.requestId → m = n
  wire : s.wire = (s.calls.filter Call.sent).map fun call => (call.type,call.requestId)

/-! ### Request ids -/

theorem nextRequestId_toList (requestCounter now : Nat) :
    (nextRequestId requestCounter now).toList = "req_".toList ++ (Nat.toDigits 10 requestCounter ++ '_' :: Nat.toDigits 10 now) := by
  simp [nextRequestId,toString,Nat.repr]

theorem not_mem_digits (n : Nat) : '_' ∉ Nat.toDigits 10 n := by
  intro member
  have digit := Nat.isDigit_of_mem_toDigits (by decide) (by decide) member
  revert digit
  decide

/-- The counter can be read off a request id. -/
theorem nextRequestId_counter {k m now later : Nat} (same : nextRequestId k now = nextRequestId m later) : k = m := by
  have chars := congrArg String.toList same
  rw [nextRequestId_toList,nextRequestId_toList] at chars
  have parts := (List.append_cons_inj_of_notMem (not_mem_digits k) (not_mem_digits now)).mp (List.append_cancel_left chars)
  have read := Texts.readDigits_decimal (show k < max k m + 1 by omega)
  rw [parts.1,Texts.readDigits_decimal (show m < max k m + 1 by omega)] at read
  exact (Option.some.inj read).symm

theorem nextRequestId_ne_empty (k now : Nat) : nextRequestId k now ≠ "" := by
  intro empty
  have chars := congrArg String.toList empty
  rw [nextRequestId_toList] at chars
  exact absurd (List.append_eq_nil_iff.mp chars).1 (by decide)

/-! ### What an event does -/

/-- What holds between two steps. -/
structure Books (s : State Body) : Prop where
  counted : s.requestCounter = s.calls.length
  numbered : ∀ (n : Nat) (call : Call Body), s.calls[n]? = some call → ∃ now, call.requestId = nextRequestId (n + 1) now
  since : ∀ (n : Nat) (call : Call Body), s.calls[n]? = some call → call.since ≤ s.history.length
  outcome : ∀ (n : Nat) (call : Call Body), s.calls[n]? = some call → call.outcome = verdict n call s.history
  pending : ∀ (requestId : String) (n : Nat), s.pendingAcks.lookup requestId = some n ↔
    ∃ call, s.calls[n]? = some call ∧ call.requestId = requestId ∧ call.outcome = none
  timers : ∀ n : Nat, n ∈ s.timers ↔ ∃ call, s.calls[n]? = some call ∧ call.outcome = none
  wire : s.wire = (s.calls.filter Call.sent).map fun call => (call.type,call.requestId)

/-- The request after the event. -/
def settled (e : Event Body) (n : Nat) (call : Call Body) : Call Body := { call with outcome := call.outcome.or (decides n call e) }

section
variable {s t : State Body} {e : Event Body} {n : Nat} {call : Call Body}

theorem settles_of_books (books : Books s) : Settles s where
  outcome := books.outcome
  pending := books.pending
  timers := books.timers
  single m n first second found found' same := by
    obtain ⟨now,id⟩ := books.numbered m first found
    obtain ⟨later,id'⟩ := books.numbered n second found'
    exact Nat.succ_injective (nextRequestId_counter (id.symm.trans (same.trans id')))
  wire := books.wire

theorem verdict_snoc (since : call.since ≤ s.history.length) :
    verdict n call (s.history ++ [e]) = if call.sent then (verdict n call s.history).or (decides n call e) else verdict n call s.history := by
  unfold verdict
  cases sent : call.sent with
  | true => simp [List.drop_append_of_le_length since]
  | false => simp

theorem wire_settled (e : Event Body) (calls : List (Call Body)) :
    ((calls.mapIdx (settled e)).filter Call.sent).map (fun call => (call.type,call.requestId)) =
      (calls.filter Call.sent).map fun call => (call.type,call.requestId) := by
  induction calls using List.reverseRecOn with
  | nil => rfl
  | append_singleton earlier call ih =>
    have last : ([settled e earlier.length call].filter Call.sent).map (fun call => (call.type,call.requestId)) =
        ([call].filter Call.sent).map fun call => (call.type,call.requestId) := by
      cases sent : call.sent <;> simp [settled,sent]
    rw [List.mapIdx_concat,List.filter_append,List.filter_append,List.map_append,List.map_append,ih,last]

theorem closeAll_calls (s : State Body) (ns : List Nat) (outcome : Outcome Body) (n : Nat) :
    (s.closeAll ns outcome).calls[n]? = (s.calls[n]?).map fun call =>
      if n ∈ ns then { call with outcome := call.outcome.or (some outcome) } else call := by
  induction ns generalizing s with
  | nil => simp [State.closeAll]
  | cons first rest ih =>
    refine (ih ((s.clearTimeout first).settle first outcome)).trans ?_
    simp only [State.settle,State.clearTimeout,List.getElem?_modify,List.mem_cons]
    cases s.calls[n]? with
    | none => rfl
    | some call => by_cases here : first = n <;> by_cases later : n ∈ rest <;> simp [here,later,Ne.symm]

theorem closeAll_timers (s : State Body) (ns : List Nat) (outcome : Outcome Body) (n : Nat) :
    n ∈ (s.closeAll ns outcome).timers ↔ n ∈ s.timers ∧ n ∉ ns := by
  induction ns generalizing s with
  | nil => simp [State.closeAll]
  | cons first rest ih =>
    refine (ih ((s.clearTimeout first).settle first outcome)).trans ?_
    simp [State.settle,State.clearTimeout,and_assoc]

theorem closeAll_rest (s : State Body) (ns : List Nat) (outcome : Outcome Body) :
    (s.closeAll ns outcome).requestCounter = s.requestCounter ∧ (s.closeAll ns outcome).wire = s.wire ∧
      (s.closeAll ns outcome).calls.length = s.calls.length := by
  induction ns generalizing s with
  | nil => exact ⟨rfl,rfl,rfl⟩
  | cons first rest ih =>
    obtain ⟨counter,wire,length⟩ := ih ((s.clearTimeout first).settle first outcome)
    exact ⟨counter,wire,length.trans (List.length_modify _ _ _)⟩

/-- An event closes the requests that it decides. -/
theorem books_closed (ns : List Nat) (outcome : Outcome Body) {acks : Table String Nat} (books : Books s)
    (decided : ∀ (n : Nat) (call : Call Body), s.calls[n]? = some call → call.outcome = none →
      decides n call e = if n ∈ ns then some outcome else none)
    (left : ∀ (requestId : String) (n : Nat), acks.lookup requestId = some n ↔ s.pendingAcks.lookup requestId = some n ∧ n ∉ ns) :
    Books { s.closeAll ns outcome with pendingAcks := acks, history := s.history ++ [e] } := by
  obtain ⟨counter,wire,length⟩ := closeAll_rest s ns outcome
  have after {n : Nat} {old : Call Body} (there : s.calls[n]? = some old) :
      (s.closeAll ns outcome).calls[n]? = some (settled e n old) := by
    rw [closeAll_calls,there,Option.map_some]
    obtain ⟨type,requestId,sent,value,since⟩ := old
    cases value with
    | none => rw [settled,decided n _ there rfl]; split_ifs <;> rfl
    | some value => split_ifs <;> rfl
  have before {n : Nat} {call : Call Body} (found : (s.closeAll ns outcome).calls[n]? = some call) :
      ∃ old, s.calls[n]? = some old ∧ call = settled e n old := by
    obtain ⟨old,there,_⟩ := Option.map_eq_some_iff.mp ((closeAll_calls s ns outcome n).symm.trans found)
    exact ⟨old,there,Option.some.inj (found.symm.trans (after there))⟩
  -- the requests that wait are those that waited and are not closed
  have waits {P : Call Body → Prop} {n : Nat} (same : ∀ old, P (settled e n old) ↔ P old) :
      ((∃ call, s.calls[n]? = some call ∧ P call ∧ call.outcome = none) ∧ n ∉ ns) ↔
        ∃ call, (s.closeAll ns outcome).calls[n]? = some call ∧ P call ∧ call.outcome = none := by
    constructor
    · rintro ⟨⟨old,there,holds,undecided⟩,spared⟩
      refine ⟨_,after there,(same old).mpr holds,?_⟩
      simp [settled,undecided,decided n old there undecided,spared]
    · rintro ⟨call,found,holds,undecided⟩
      obtain ⟨old,there,rfl⟩ := before found
      obtain ⟨first,second⟩ := Option.or_eq_none_iff.mp undecided
      refine ⟨⟨old,there,(same old).mp holds,first⟩,fun closed => ?_⟩
      rw [decided n old there first,if_pos closed] at second
      cases second
  refine ⟨?_,?_,?_,?_,?_,?_,?_⟩
  · exact counter.trans (books.counted.trans length.symm)
  · intro n call found
    obtain ⟨old,there,rfl⟩ := before found
    exact books.numbered n old there
  · intro n call found
    obtain ⟨old,there,rfl⟩ := before found
    rw [List.length_append]
    exact (books.since n old there).trans (Nat.le_add_right _ _)
  · intro n call found
    obtain ⟨old,there,rfl⟩ := before found
    have later : verdict n (settled e n old) (s.history ++ [e]) = verdict n old (s.history ++ [e]) := rfl
    rw [later,verdict_snoc (books.since n old there),← books.outcome n old there]
    cases sent : old.sent with
    | true => rfl
    | false =>
      have over_ : old.outcome = some notConnected := by rw [books.outcome n old there,verdict,sent]; rfl
      simp [settled,over_]
  · intro requestId n
    rw [left,books.pending]
    exact waits (P := fun call => call.requestId = requestId) fun _ => Iff.rfl
  · intro n
    show n ∈ (s.closeAll ns outcome).timers ↔ _
    rw [closeAll_timers,books.timers]
    simpa using waits (P := fun _ => True) (n := n) fun _ => Iff.rfl
  · have calls : (s.closeAll ns outcome).calls = s.calls.mapIdx (settled e) := by
      refine List.ext_getElem? fun n => ?_
      rw [List.getElem?_mapIdx]
      cases there : s.calls[n]? with
      | none => rw [closeAll_calls,there]; rfl
      | some old => exact after there
    rw [wire,books.wire,calls,wire_settled]

/-! ### What a step does -/

/-- An event that decides no request that waits. -/
theorem books_none (books : Books s) (spares : ∀ (n : Nat) (call : Call Body), s.calls[n]? = some call → call.outcome = none → decides n call e = none) :
    Books { s with history := s.history ++ [e] } :=
  books_closed [] notConnected books spares fun _ _ => by simp

/-- An event that decides one request. -/
theorem books_one {outcome : Outcome Body} (books : Books s) (found : s.calls[n]? = some call) (undecided : call.outcome = none)
    (decided : decides n call e = some outcome)
    (spares : ∀ (m : Nat) (other : Call Body), s.calls[m]? = some other → m ≠ n → other.outcome = none → decides m other e = none) :
    Books { (s.clearTimeout n).settle n outcome with pendingAcks := s.pendingAcks.erase call.requestId, history := s.history ++ [e] } := by
  refine books_closed [n] outcome books ?_ ?_
  · intro m other there open_
    by_cases same : m = n
    · subst same
      cases found.symm.trans there
      simpa using decided
    · simpa [same] using spares m other there same open_
  · intro requestId m
    have here := (books.pending call.requestId n).mpr ⟨call,found,rfl,undecided⟩
    rw [Table.lookup_erase_eq]
    by_cases same : requestId = call.requestId
    · subst same
      simp [here,eq_comm]
    · rw [if_neg same,List.mem_singleton]
      refine ⟨fun waits => ⟨waits,?_⟩,And.left⟩
      rintro rfl
      obtain ⟨other,there,id,_⟩ := (books.pending requestId m).mp waits
      cases found.symm.trans there
      exact same id.symm

theorem books_expire (books : Books s) (live : n ∈ s.timers) (found : s.calls[n]? = some call) : Books (s.expire n call) := by
  obtain ⟨old,there,undecided⟩ := (books.timers n).mp live
  cases found.symm.trans there
  exact books_one (e := .fired n) books found undecided (if_pos rfl) fun m other _ apart _ => if_neg (Ne.symm apart)

theorem books_dispatch (books : Books s) (msg : WsServerMsg Body) : Books (s.dispatch msg) := by
  have silent (spares : ∀ (n : Nat) (call : Call Body), s.calls[n]? = some call → call.outcome = none → msg.requestId ≠ some call.requestId) :
      Books { s with history := s.history ++ [Event.heard msg] } :=
    books_none books fun n call found undecided => if_neg (spares n call found undecided)
  unfold State.dispatch
  cases id : msg.requestId with
  | none => exact silent fun _ _ _ _ same => nomatch id.symm.trans same
  | some requestId =>
    dsimp only
    split_ifs with empty
    · refine silent fun n call found _ same => ?_
      obtain ⟨now,name⟩ := books.numbered n call found
      cases id.symm.trans same
      exact nextRequestId_ne_empty _ _ (name.symm.trans empty)
    · cases waits : s.pendingAcks.lookup requestId with
      | none =>
        refine silent fun n call found undecided same => ?_
        cases id.symm.trans same
        cases waits.symm.trans ((books.pending _ n).mpr ⟨call,found,rfl,undecided⟩)
      | some n =>
        obtain ⟨call,found,rfl,undecided⟩ := (books.pending requestId n).mp waits
        refine books_one (e := .heard msg) books found undecided (if_pos id) ?_
        intro m other found' apart open_
        refine if_neg fun same => apart ?_
        exact (settles_of_books books).single m n other call found' found (Option.some.inj (same.symm.trans id))

theorem waits_iff (books : Books s) : n ∈ s.pendingAcks.entries.map Sigma.snd ↔ ∃ call, s.calls[n]? = some call ∧ call.outcome = none := by
  constructor
  · intro member
    obtain ⟨⟨requestId,_⟩,there,rfl⟩ := List.mem_map.mp member
    obtain ⟨call,found,_,undecided⟩ := (books.pending requestId _).mp (Table.lookup_eq_some_iff.mpr there)
    exact ⟨call,found,undecided⟩
  · rintro ⟨call,found,undecided⟩
    have waits := (books.pending call.requestId n).mpr ⟨call,found,rfl,undecided⟩
    exact List.mem_map.mpr ⟨⟨call.requestId,n⟩,Table.lookup_eq_some_iff.mp waits,rfl⟩

theorem books_rejectAll (books : Books s) : Books s.rejectAll := by
  refine books_closed (e := .disconnected) _ _ books ?_ ?_
  · intro n call found undecided
    exact (if_pos ((waits_iff books).mpr ⟨call,found,undecided⟩)).symm
  · intro requestId n
    refine ⟨nofun,fun ⟨waits,spared⟩ => absurd ?_ spared⟩
    obtain ⟨call,found,_,undecided⟩ := (books.pending requestId n).mp waits
    exact (waits_iff books).mpr ⟨call,found,undecided⟩

/-- The request that comes next has a number and an id of its own. -/
theorem books_fresh (books : Books s) (now : Nat) :
    s.calls.length ∉ s.timers ∧ ∀ n, s.pendingAcks.lookup (nextRequestId (s.requestCounter + 1) now) ≠ some n := by
  refine ⟨fun live => ?_,fun n waits => ?_⟩
  · obtain ⟨call,found,_⟩ := (books.timers _).mp live
    rw [List.getElem?_length] at found
    cases found
  · obtain ⟨call,found,same,_⟩ := (books.pending _ n).mp waits
    obtain ⟨later,id⟩ := books.numbered n call found
    have equal := nextRequestId_counter (id.symm.trans same)
    have inside := (List.getElem?_eq_some_iff.mp found).1
    rw [books.counted] at equal
    omega

theorem getElem?_snoc {α : Type} {xs : List α} {x y : α} {n : Nat} :
    (xs ++ [x])[n]? = some y ↔ xs[n]? = some y ∨ n = xs.length ∧ x = y := by
  rcases Nat.lt_trichotomy n xs.length with below | rfl | above
  · rw [List.getElem?_append_left below]
    simp [below.ne]
  · simp
  · rw [List.getElem?_append_right above.le,List.getElem?_eq_none (show xs.length ≤ n from above.le)]
    simp [above.ne',show n - xs.length ≠ 0 by omega]

/-- A request was made, and it waits if it was handed to a socket. -/
theorem books_asked (books : Books s) {now : Nat} (new : Call Body) (id : new.requestId = nextRequestId (s.requestCounter + 1) now)
    (outcome : new.outcome = if new.sent then none else some notConnected) (since : new.since = s.history.length)
    (counter : t.requestCounter = s.requestCounter + 1) (history : t.history = s.history) (calls : t.calls = s.calls ++ [new])
    (wire : t.wire = s.wire ++ if new.sent then [(new.type,new.requestId)] else [])
    (pending : ∀ (requestId : String) (n : Nat), t.pendingAcks.lookup requestId = some n ↔
      s.pendingAcks.lookup requestId = some n ∨ n = s.calls.length ∧ new.requestId = requestId ∧ new.sent = true)
    (timers : ∀ n : Nat, n ∈ t.timers ↔ n ∈ s.timers ∨ n = s.calls.length ∧ new.sent = true) : Books t := by
  have open_ : new.outcome = none ↔ new.sent = true := by
    rw [outcome]
    cases new.sent <;> simp
  have every {P : Nat → Call Body → Prop} (before : ∀ n call, s.calls[n]? = some call → P n call) (last : P s.calls.length new) :
      ∀ n call, t.calls[n]? = some call → P n call := by
    intro n call found
    rw [calls] at found
    rcases getElem?_snoc.mp found with there | ⟨rfl,rfl⟩
    · exact before n call there
    · exact last
  have some_ {P : Call Body → Prop} {n : Nat} : (∃ call, t.calls[n]? = some call ∧ P call ∧ call.outcome = none) ↔
      (∃ call, s.calls[n]? = some call ∧ P call ∧ call.outcome = none) ∨ n = s.calls.length ∧ P new ∧ new.sent = true := by
    simp only [calls,getElem?_snoc,or_and_right,exists_or,and_assoc,exists_and_left,exists_eq_left',open_]
  refine ⟨?_,?_,?_,?_,?_,?_,?_⟩
  · rw [counter,calls,List.length_append,books.counted]
    rfl
  · exact every books.numbered ⟨now,by rw [id,books.counted]⟩
  · rw [history]
    exact every books.since since.le
  · rw [history]
    refine every books.outcome ?_
    rw [verdict,since,List.drop_length,outcome]
    rfl
  · intro requestId n
    rw [pending,books.pending]
    exact some_.symm
  · intro n
    rw [timers,books.timers]
    simpa using (some_ (P := fun _ => True) (n := n)).symm
  · rw [wire,calls,books.wire,List.filter_append,List.map_append]
    cases sent : new.sent <;> simp [sent]

theorem modify_last {α : Type} (xs : List α) (x : α) (f : α → α) : (xs ++ [x]).modify xs.length f = xs ++ [f x] := by
  rw [List.modify_eq_take_cons_drop (by simp)]
  simp

theorem books_sendWithAck (books : Books s) (type : String) (now : Nat) : Books (s.sendWithAck type now) := by
  obtain ⟨freshTimer,freshId⟩ := books_fresh books now
  unfold State.sendWithAck
  dsimp only
  split_ifs with ready
  · refine books_asked books ⟨type,nextRequestId (s.requestCounter + 1) now,true,none,s.history.length⟩ rfl rfl rfl rfl rfl ?_ rfl ?_ ?_
    · exact congrArg (fun sent => s.calls ++ [(⟨type,_,sent,none,_⟩ : Call Body)]) ready
    · intro requestId n
      dsimp only
      rw [Table.lookup_insert_eq]
      by_cases same : requestId = nextRequestId (s.requestCounter + 1) now
      · subst same
        simp [freshId n,eq_comm]
      · simp [same,Ne.symm same]
    · intro n
      simp [or_comm]
  · refine books_asked books ⟨type,nextRequestId (s.requestCounter + 1) now,false,some notConnected,s.history.length⟩ rfl rfl rfl rfl rfl ?_
      (List.append_nil _).symm ?_ ?_
    · refine (modify_last _ _ _).trans ?_
      exact congrArg (fun sent => s.calls ++ [(⟨type,_,sent,some notConnected,_⟩ : Call Body)]) (Bool.eq_false_iff.mpr ready)
    · intro requestId n
      show ((s.pendingAcks.insert _ _).erase _).lookup requestId = some n ↔ _
      rw [Table.lookup_erase_eq,Table.lookup_insert_eq]
      by_cases same : requestId = nextRequestId (s.requestCounter + 1) now
      · subst same
        simp [freshId n]
      · simp [same]
    · intro n
      show n ∈ (s.calls.length :: s.timers).filter (· ≠ s.calls.length) ↔ _
      by_cases same : n = s.calls.length
      · subst same
        simp [freshTimer]
      · simp [same]

/-! ### Whole runs -/

variable {c : WsClient.Config} {a : Action Body}

theorem books_client (books : Books s) (client : WsClient.Client) : Books { s with client } :=
  ⟨books.counted,books.numbered,books.since,books.outcome,books.pending,books.timers,books.wire⟩

theorem books_step (s : State Body) (a : Action Body) (t : State Body) (books : Books s) (stepped : step c s a = some t) : Books t := by
  cases a with
  | sendWithAck type now =>
    cases stepped
    exact books_sendWithAck books type now
  | expire n =>
    simp only [step] at stepped
    split_ifs at stepped with live
    obtain ⟨call,found,rfl⟩ := Option.map_eq_some_iff.mp stepped
    exact books_expire books live found
  | message socket parsed =>
    obtain ⟨client,_,rfl⟩ := Option.map_eq_some_iff.mp stepped
    cases parsed with
    | none => exact books_client books client
    | some msg => exact books_dispatch (books_client books client) msg
  | disconnect =>
    cases stepped
    exact books_rejectAll (books_client books _)
  | client a =>
    simp only [step] at stepped
    split at stepped
    · cases stepped
    · cases stepped
    · obtain ⟨client,_,rfl⟩ := Option.map_eq_some_iff.mp stepped
      exact books_client books client

end

/-- In every run each request is settled once, by the first that happens of an answer with its own
    id, its timeout and a disconnect, or at once if there is no open socket; and until then it
    waits, with its timer running. -/
theorem acks_settled (c : WsClient.Config) (as : List (Action Body)) : Always (step c) Settles ({} : State Body) as := by
  refine always_of_preserves books_step (fun _ books => settles_of_books books) ?_
  exact ⟨rfl,nofun,nofun,nofun,fun _ _ => ⟨nofun,nofun⟩,fun _ => ⟨nofun,nofun⟩,rfl⟩

end Sctl.WebAcks
