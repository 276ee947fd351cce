import Sctl.Runs
import Sctl.Tables
import Sctl.Utf8

/-!
Input that a client of the relay types into a session (`tunnel/client.rs`,
`sessions/mod.rs`). The device reads the relay's messages one after another but
handles each in a task of its own: the task takes one of 32 permits, marks the
AI activity, looks the session's sender up and sends, and waits for a lock or
for room at each of these. A direct WebSocket does the same inside its loop, for
one message after another.
-/
namespace Sctl.TunnelInput
open Sctl.Runs Sctl.Utf8

inductive Input
  | stdin (data : String)
  | exec (command : String)
  /-- A message that is no input; its handler takes a permit as well. -/
  | other
deriving DecidableEq

structure Message where
  client : String
  sessionId : String
  input : Input
deriving DecidableEq

/-- Where the handler of a message stands. -/
inductive Pc
  | spawned
  | permitted
  | touched
  | holding (bytes : List UInt8)
  | sent
  | failed
  | finished (delivered : Bool)
deriving DecidableEq

/-- Not yet past its send. -/
def Pc.underway : Pc → Bool
  | .spawned => true
  | .permitted => true
  | .touched => true
  | .holding _ => true
  | _ => false

def Pc.hasSent : Pc → Bool
  | .sent => true
  | .finished delivered => delivered
  | _ => false

def Pc.hasPermit : Pc → Bool
  | .spawned => false
  | .finished _ => false
  | _ => true

structure Handler where
  message : Message
  pc : Pc
deriving DecidableEq

/-- The stdin of a session: a bounded channel, which handlers can hold beyond
    the session's removal. -/
structure Channel where
  isPty : Bool
  listed : Bool
  closed : Bool
  queued : Nat
  /-- All that ever came in, with the client whose message it was. -/
  entered : List (String × List UInt8)
deriving DecidableEq

structure State where
  /-- In the order in which the messages arrived. -/
  handlers : List Handler
  channels : Table String Channel

inductive Action
  | arrive (message : Message)
  | acquire (n : Nat)
  | touch (n : Nat)
  | lookup (n : Nat)
  | send (n : Nat)
  | finish (n : Nat)
  | startSession (id : String) (isPty : Bool)
  | removeSession (id : String)
  /-- The stdin writer takes what comes next, or ends. -/
  | takeStdin (id : String)
  | closeStdin (id : String)

def start : State := ⟨[],∅⟩

def handlerPermits : Nat := 32
def stdinCapacity : Nat := 64

/-- The bytes of an input; a command gets the line ending of its session. -/
def payload (isPty : Bool) : Input → List UInt8
  | .stdin data => encode data.toList
  | .exec command => encode (command ++ if isPty then "\r" else "\n").toList
  | .other => []

def State.setPc (s : State) (n : Nat) (h : Handler) (pc : Pc) : State :=
  { s with handlers := s.handlers.set n { h with pc } }

/-- `touch_ai_activity` comes before everything; a `session.stdin` without a session is dropped before it. -/
def afterPermit (m : Message) : Pc :=
  match m.input with
  | .stdin _ => if m.sessionId = "" then .finished false else .touched
  | .exec _ => .touched
  | .other => .finished false

def step (s : State) : Action → Option State
  | .arrive message => some { s with handlers := s.handlers ++ [⟨message,.spawned⟩] }
  | .acquire n =>
    match s.handlers[n]? with
    | some h =>
      if h.pc = .spawned ∧ s.handlers.countP (·.pc.hasPermit) < handlerPermits then some (s.setPc n h .permitted) else none
    | none => none
  | .touch n =>
    match s.handlers[n]? with
    | some h => if h.pc = .permitted then some (s.setPc n h (afterPermit h.message)) else none
    | none => none
  | .lookup n =>
    match s.handlers[n]? with
    | some h =>
      if h.pc = .touched then
        match s.channels.lookup h.message.sessionId with
        | some ch => some (s.setPc n h (if ch.listed then .holding (payload ch.isPty h.message.input) else .failed))
        | none => some (s.setPc n h .failed)
      else none
    | none => none
  | .send n =>
    match s.handlers[n]? with
    | some h =>
      match h.pc, s.channels.lookup h.message.sessionId with
      | .holding bytes, some ch =>
        if ch.closed then some (s.setPc n h .failed)
        else if ch.queued < stdinCapacity then
          some { s.setPc n h .sent with
            channels := s.channels.insert h.message.sessionId
              { ch with queued := ch.queued + 1, entered := ch.entered ++ [(h.message.client,bytes)] } }
        else none
      | _, _ => none
    | none => none
  | .finish n =>
    match s.handlers[n]? with
    | some h =>
      match h.pc with
      | .sent => some (s.setPc n h (.finished true))
      | .failed => some (s.setPc n h (.finished false))
      | _ => none
    | none => none
  | .startSession id isPty =>
    if s.channels.lookup id = none then some { s with channels := s.channels.insert id ⟨isPty,true,false,0,[]⟩ } else none
  | .removeSession id => some { s with channels := Table.modify id (fun ch => { ch with listed := false }) s.channels }
  | .takeStdin id => some { s with channels := Table.modify id (fun ch => { ch with queued := ch.queued - 1 }) s.channels }
  | .closeStdin id => some { s with channels := Table.modify id (fun ch => { ch with closed := true }) s.channels }

/-! ### The order of input -/

/-- The message is input of the client for the session. -/
def Message.inputOf (client id : String) (m : Message) : Bool := m.client = client && m.sessionId = id && m.input ≠ .other

/-- What a session received from a client, in the order in which it came in. -/
def Channel.receivedFrom (ch : Channel) (client : String) : List (List UInt8) :=
  (ch.entered.filter fun e => e.1 = client).map Prod.snd

/-- The client's input for the session in the order it was sent, without what
    failed or is still on its way. -/
def State.sentTo (s : State) (client id : String) : List Message :=
  (s.handlers.filter fun h => h.message.inputOf client id && h.pc.hasSent).map Handler.message

def InputInOrder (s : State) : Prop :=
  ∀ id ch, s.channels.lookup id = some ch → ∀ client,
    ch.receivedFrom client = (s.sentTo client id).map fun m => payload ch.isPty m.input

/-- A handler sends when no earlier input of its client for its session is on its way. -/
def sendsInTurn (s : State) : Action → Bool
  | .send n =>
    match s.handlers[n]? with
    | some h =>
      (s.handlers.take n).all fun earlier =>
        !(earlier.message.inputOf h.message.client h.message.sessionId && earlier.pc.underway)
    | none => true
  | _ => true

/-! ### One step -/

/-- What a run keeps when its handlers send in turn. -/
structure InTurn (s : State) : Prop where
  inOrder : InputInOrder s
  settled : s.handlers.Pairwise fun earlier later =>
    ∀ client id, earlier.message.inputOf client id = true → later.message.inputOf client id = true →
      later.pc.hasSent = true → earlier.pc.underway = false
  known : ∀ h ∈ s.handlers, h.pc.hasSent = true → s.channels.lookup h.message.sessionId ≠ none
  looked : ∀ h ∈ s.handlers, h.pc = .touched → h.message.input ≠ .other
  holding : ∀ h ∈ s.handlers, ∀ bytes, h.pc = .holding bytes → h.message.input ≠ .other ∧
    ∃ ch, s.channels.lookup h.message.sessionId = some ch ∧ bytes = payload ch.isPty h.message.input

/-- A handler moves on, but neither sends nor starts over. -/
theorem inTurn_setPc {s : State} {n : Nat} {h : Handler} {pc : Pc} (inTurn : InTurn s) (found : s.handlers[n]? = some h)
    (sent : pc.hasSent = h.pc.hasSent) (onward : pc.underway = true → h.pc.underway = true)
    (touched : pc = .touched → h.message.input ≠ .other)
    (held : ∀ bytes, pc = .holding bytes → h.message.input ≠ .other ∧
      ∃ ch, s.channels.lookup h.message.sessionId = some ch ∧ bytes = payload ch.isPty h.message.input) :
    InTurn (s.setPc n h pc) := by
  obtain ⟨before,after,whole,-,set⟩ := Tasks.set_split found ({ h with pc } : Handler)
  have handlers : (s.setPc n h pc).handlers = before ++ { h with pc } :: after := set
  have same : ∀ client id, (s.setPc n h pc).sentTo client id = s.sentTo client id := by
    intro client id
    simp only [State.sentTo,handlers,whole,List.filter_append,List.filter_cons,sent,List.map_append]
    congr 1
    split <;> rfl
  have apart : ∀ g ∈ before ++ { h with pc } :: after, g ∈ s.handlers ∨ g = { h with pc } := by
    intro g member
    rw [whole]
    simp only [List.mem_append,List.mem_cons] at member ⊢
    tauto
  have member : h ∈ s.handlers := by rw [whole]; simp
  refine ⟨?_,?_,?_,?_,?_⟩
  · intro id ch there client
    rw [same]; exact inTurn.inOrder id ch there client
  · have before_ := inTurn.settled
    rw [whole] at before_
    rw [handlers]
    simp only [List.pairwise_append,List.pairwise_cons,List.mem_cons,forall_eq_or_imp] at before_ ⊢
    obtain ⟨first,⟨second,third⟩,cross⟩ := before_
    refine ⟨first,⟨?_,third⟩,?_⟩
    · intro later there client id mine theirs done
      have old := second later there client id mine theirs done
      by_contra busy
      rw [onward (by simpa using busy)] at old
      cases old
    · intro earlier there
      refine ⟨?_,(cross earlier there).2⟩
      intro client id mine theirs done
      exact (cross earlier there).1 client id mine theirs (sent ▸ done)
  · intro g there done
    rcases apart g (handlers ▸ there) with old | rfl
    · exact inTurn.known g old done
    · exact inTurn.known h member (sent ▸ done)
  · intro g there at_
    rcases apart g (handlers ▸ there) with old | rfl
    · exact inTurn.looked g old at_
    · exact touched at_
  · intro g there bytes at_
    rcases apart g (handlers ▸ there) with old | rfl
    · exact inTurn.holding g old bytes at_
    · exact held bytes at_

/-- The handlers before it are past their sends and those after it have not
    sent, so what it sends is the client's latest. -/
theorem sentTo_send {s : State} {n : Nat} {h : Handler} {bytes : List UInt8} (inTurn : InTurn s)
    (found : s.handlers[n]? = some h) (at_ : h.pc = .holding bytes) (client id : String) :
    (s.setPc n h .sent).sentTo client id =
      s.sentTo client id ++ if h.message.inputOf client id then [h.message] else [] := by
  obtain ⟨before,after,whole,-,set⟩ := Tasks.set_split found ({ h with pc := .sent } : Handler)
  have handlers : (s.setPc n h .sent).handlers = before ++ { h with pc := .sent } :: after := set
  have unsent : h.pc.hasSent = false := by rw [at_]; rfl
  have sent : Pc.sent.hasSent = true := rfl
  simp only [State.sentTo,handlers,whole,List.filter_append,List.filter_cons,unsent,sent,Bool.and_false,Bool.and_true,
    Bool.false_eq_true,if_false,List.map_append]
  by_cases mine : h.message.inputOf client id = true
  · have later : ∀ g ∈ after, ¬ (g.message.inputOf client id && g.pc.hasSent) = true := by
      intro g there done
      obtain ⟨theirs,done⟩ := Bool.and_eq_true_iff.mp done
      have settled := inTurn.settled
      rw [whole] at settled
      have past := (List.pairwise_cons.mp (List.pairwise_append.mp settled).2.1).1 g there client id mine theirs done
      rw [at_] at past
      cases past
    rw [List.filter_eq_nil_iff.mpr later]
    simp [mine]
  · simp [mine]

theorem inTurn_send {s : State} {n : Nat} {h : Handler} {bytes : List UInt8} {ch : Channel} {queued : Nat}
    (inTurn : InTurn s) (turn : sendsInTurn s (.send n) = true) (found : s.handlers[n]? = some h)
    (at_ : h.pc = .holding bytes) (there : s.channels.lookup h.message.sessionId = some ch) :
    InTurn { s.setPc n h .sent with
      channels := s.channels.insert h.message.sessionId
        { ch with queued := queued, entered := ch.entered ++ [(h.message.client,bytes)] } } := by
  obtain ⟨before,after,whole,earlier,set⟩ := Tasks.set_split found ({ h with pc := .sent } : Handler)
  have handlers : (s.setPc n h .sent).handlers = before ++ { h with pc := .sent } :: after := set
  have member : h ∈ s.handlers := by rw [whole]; simp
  obtain ⟨input,ch',there',same⟩ := inTurn.holding h member bytes at_
  cases there.symm.trans there'
  have apart : ∀ g ∈ (s.setPc n h .sent).handlers, g ∈ s.handlers ∨ g = { h with pc := .sent } := by
    intro g from_
    rw [handlers] at from_
    rw [whole]
    simp only [List.mem_append,List.mem_cons] at from_ ⊢
    tauto
  refine ⟨?_,?_,?_,?_,?_⟩
  · intro id ch' found' client
    have before_ := inTurn.inOrder id
    rw [Table.lookup_insert_eq] at found'
    show ch'.receivedFrom client = ((s.setPc n h .sent).sentTo client id).map _
    rw [sentTo_send inTurn found at_ client id]
    by_cases this : id = h.message.sessionId
    · subst this
      rw [if_pos rfl] at found'
      cases found'
      have old := before_ ch there client
      simp only [Channel.receivedFrom] at old
      by_cases mine : h.message.client = client
      · simp [Channel.receivedFrom,List.filter_append,old,Message.inputOf,mine,input,same]
      · simp [Channel.receivedFrom,List.filter_append,old,Message.inputOf,mine]
    · rw [if_neg this] at found'
      rw [before_ ch' found' client]
      simp [Message.inputOf,Ne.symm this]
  · have settled := inTurn.settled
    rw [whole] at settled
    show (s.setPc n h .sent).handlers.Pairwise _
    rw [handlers]
    simp only [List.pairwise_append,List.pairwise_cons,List.mem_cons,forall_eq_or_imp] at settled ⊢
    obtain ⟨first,⟨second,third⟩,cross⟩ := settled
    refine ⟨first,⟨fun _ _ _ _ _ _ _ => rfl,third⟩,?_⟩
    intro g there'
    refine ⟨?_,(cross g there').2⟩
    intro client id mine theirs _
    simp only [sendsInTurn,found,earlier,List.all_eq_true] at turn
    have clear := turn g there'
    simp only [Message.inputOf,Bool.and_eq_true,decide_eq_true_eq] at theirs
    obtain ⟨⟨rfl,rfl⟩,-⟩ := theirs
    simpa [mine] using clear
  · intro g from_ done
    rw [Table.lookup_insert_eq]
    split_ifs with this
    · simp
    · rcases apart g from_ with old | rfl
      · exact inTurn.known g old done
      · exact absurd rfl this
  · intro g from_ touched
    rcases apart g from_ with old | rfl
    · exact inTurn.looked g old touched
    · cases touched
  · intro g from_ held at_g
    rcases apart g from_ with old | rfl
    · obtain ⟨inputs,c,session,bytes_⟩ := inTurn.holding g old held at_g
      refine ⟨inputs,?_⟩
      rw [Table.lookup_insert_eq]
      split_ifs with this
      · rw [this] at session
        cases there.symm.trans session
        exact ⟨_,rfl,bytes_⟩
      · exact ⟨c,session,bytes_⟩
    · cases at_g

theorem inTurn_arrive {s : State} (inTurn : InTurn s) (m : Message) :
    InTurn { s with handlers := s.handlers ++ [⟨m,.spawned⟩] } := by
  refine ⟨?_,?_,?_,?_,?_⟩
  · intro id ch there client
    have same : State.sentTo { s with handlers := s.handlers ++ [⟨m,.spawned⟩] } client id = s.sentTo client id := by
      simp [State.sentTo,List.filter_append,Pc.hasSent]
    rw [same]; exact inTurn.inOrder id ch there client
  · rw [List.pairwise_append]
    refine ⟨inTurn.settled,List.pairwise_singleton _ _,?_⟩
    intro earlier _ later last client id _ _ done
    rw [List.mem_singleton.mp last] at done
    cases done
  · intro h member done
    rcases List.mem_append.mp member with old | new
    · exact inTurn.known h old done
    · rw [List.mem_singleton.mp new] at done; cases done
  · intro h member at_
    rcases List.mem_append.mp member with old | new
    · exact inTurn.looked h old at_
    · rw [List.mem_singleton.mp new] at at_; cases at_
  · intro h member bytes at_
    rcases List.mem_append.mp member with old | new
    · exact inTurn.holding h old bytes at_
    · rw [List.mem_singleton.mp new] at at_; cases at_

/-- The channel of a session changes, but neither its kind nor what came in. -/
theorem inTurn_channel {s : State} (inTurn : InTurn s) (id : String) {f : Channel → Channel}
    (kind : ∀ ch, (f ch).isPty = ch.isPty) (entered : ∀ ch, (f ch).entered = ch.entered) :
    InTurn { s with channels := Table.modify id f s.channels } := by
  have found (other : String) : (Table.modify id f s.channels).lookup other =
      (s.channels.lookup other).map fun ch => if other = id then f ch else ch := by
    rw [Table.lookup_modify]
    by_cases this : other = id
    · subst this; simp
    · simp [this]
  refine ⟨?_,inTurn.settled,?_,inTurn.looked,?_⟩
  · intro other ch there client
    rw [found] at there
    obtain ⟨old,session,rfl⟩ := Option.map_eq_some_iff.mp there
    have before := inTurn.inOrder other old session client
    split_ifs
    · simp only [Channel.receivedFrom,entered,kind] at before ⊢; exact before
    · exact before
  · intro h member done
    rw [found]
    have there := inTurn.known h member done
    simpa using there
  · intro h member bytes at_
    obtain ⟨input,ch,session,same⟩ := inTurn.holding h member bytes at_
    refine ⟨input,_,by rw [found,session]; rfl,?_⟩
    split_ifs
    · rw [kind]; exact same
    · exact same

theorem inTurn_startSession {s : State} (inTurn : InTurn s) {id : String} (fresh : s.channels.lookup id = none)
    (isPty : Bool) : InTurn { s with channels := s.channels.insert id ⟨isPty,true,false,0,[]⟩ } := by
  refine ⟨?_,inTurn.settled,?_,inTurn.looked,?_⟩
  · intro other ch there client
    rw [Table.lookup_insert_eq] at there
    split_ifs at there with this
    · subst this
      cases there
      have nothing : s.sentTo client other = [] := by
        simp only [State.sentTo,List.map_eq_nil_iff,List.filter_eq_nil_iff,Message.inputOf,Bool.and_eq_true,decide_eq_true_eq]
        rintro h member ⟨⟨⟨-,rfl⟩,-⟩,done⟩
        exact inTurn.known h member done fresh
      show _ = (s.sentTo client other).map _
      rw [nothing]
      rfl
    · exact inTurn.inOrder other ch there client
  · intro h member done
    rw [Table.lookup_insert_eq]
    split_ifs
    · simp
    · exact inTurn.known h member done
  · intro h member bytes at_
    obtain ⟨input,ch,session,same⟩ := inTurn.holding h member bytes at_
    refine ⟨input,ch,?_,same⟩
    rw [Table.lookup_insert_eq,if_neg]
    · exact session
    · rintro this; rw [this,fresh] at session; cases session

theorem inTurn_step {s t : State} {a : Action} (inTurn : InTurn s) (turn : sendsInTurn s a = true)
    (stepped : step s a = some t) : InTurn t := by
  cases a with
  | arrive message => cases stepped; exact inTurn_arrive inTurn message
  | acquire n =>
    simp only [step] at stepped
    split at stepped
    · next h found =>
      simp only [Option.ite_none_right_eq_some,Option.some.injEq] at stepped
      obtain ⟨⟨at_,-⟩,rfl⟩ := stepped
      exact inTurn_setPc inTurn found (by rw [at_]; rfl) (by rw [at_]; exact id) (by simp) (by simp)
    · cases stepped
  | touch n =>
    simp only [step] at stepped
    split at stepped
    · next h found =>
      simp only [Option.ite_none_right_eq_some,Option.some.injEq] at stepped
      obtain ⟨at_,rfl⟩ := stepped
      rw [afterPermit]
      split
      · next data input =>
        split_ifs
        · exact inTurn_setPc inTurn found (by rw [at_]; rfl) (by simp [Pc.underway]) (by simp) (by simp)
        · exact inTurn_setPc inTurn found (by rw [at_]; rfl) (by rw [at_]; exact id) (by simp [input]) (by simp)
      · next command input =>
        exact inTurn_setPc inTurn found (by rw [at_]; rfl) (by rw [at_]; exact id) (by simp [input]) (by simp)
      · exact inTurn_setPc inTurn found (by rw [at_]; rfl) (by simp [Pc.underway]) (by simp) (by simp)
    · cases stepped
  | lookup n =>
    simp only [step] at stepped
    split at stepped
    · next h found =>
      split_ifs at stepped with at_
      have input := inTurn.looked h (List.mem_of_getElem? found) at_
      split at stepped
      · next ch session =>
        cases stepped
        split
        · refine inTurn_setPc inTurn found (by rw [at_]; rfl) (by rw [at_]; exact id) (by simp) ?_
          intro bytes here
          cases here
          exact ⟨input,ch,session,rfl⟩
        · exact inTurn_setPc inTurn found (by rw [at_]; rfl) (by simp [Pc.underway]) (by simp) (by simp)
      · cases stepped
        exact inTurn_setPc inTurn found (by rw [at_]; rfl) (by simp [Pc.underway]) (by simp) (by simp)
    · cases stepped
  | send n =>
    simp only [step] at stepped
    split at stepped
    · next h found =>
      split at stepped
      · next bytes ch at_ session =>
        split_ifs at stepped
        · cases stepped
          exact inTurn_setPc inTurn found (by rw [at_]; rfl) (by simp [Pc.underway]) (by simp) (by simp)
        · cases stepped
          exact inTurn_send inTurn turn found at_ session
      · cases stepped
    · cases stepped
  | finish n =>
    simp only [step] at stepped
    split at stepped
    · next h found =>
      split at stepped
      · next at_ =>
        cases stepped
        exact inTurn_setPc inTurn found (by rw [at_]; rfl) (by simp [Pc.underway]) (by simp) (by simp)
      · next at_ =>
        cases stepped
        exact inTurn_setPc inTurn found (by rw [at_]; rfl) (by simp [Pc.underway]) (by simp) (by simp)
      · cases stepped
    · cases stepped
  | startSession id isPty =>
    simp only [step,Option.ite_none_right_eq_some,Option.some.injEq] at stepped
    obtain ⟨fresh,rfl⟩ := stepped
    exact inTurn_startSession inTurn fresh isPty
  | removeSession id => cases stepped; exact inTurn_channel inTurn id (fun _ => rfl) (fun _ => rfl)
  | takeStdin id => cases stepped; exact inTurn_channel inTurn id (fun _ => rfl) (fun _ => rfl)
  | closeStdin id => cases stepped; exact inTurn_channel inTurn id (fun _ => rfl) (fun _ => rfl)

theorem inTurn_start : InTurn start := by
  refine ⟨?_,List.Pairwise.nil,?_,?_,?_⟩
  · intro id ch there; cases there
  · intro h member; cases member
  · intro h member; cases member
  · intro h member; cases member

/-- When every handler waits for the earlier input of its client, each session
    receives a client's input in the order in which it was sent. -/
theorem input_in_order (as : List Action) (turn : Along step (fun s a => sendsInTurn s a = true) start as) :
    Always step InputInOrder start as :=
  always_of_keeps (fun _ _ _ => inTurn_step) (fun _ inTurn => inTurn.inOrder) inTurn_start turn

/-- Two clients type into one session; their handlers overlap, each client's in its order. -/
def typedInTurn : List Action :=
  [.startSession "s" false,.arrive ⟨"a","s",.stdin "l"⟩,.arrive ⟨"b","s",.exec "pwd"⟩,.arrive ⟨"a","s",.exec "s"⟩,.acquire 2,
    .acquire 0,.acquire 1,.touch 2,.touch 1,.touch 0,.lookup 2,.lookup 1,.lookup 0,.send 1,.send 0,.takeStdin "s",.send 2,
    .finish 2,.finish 0]

theorem input_in_order_typedInTurn : Always step InputInOrder start typedInTurn :=
  input_in_order typedInTurn (by decide +kernel)

/-- The second of two inputs overtakes the first one between permit and send. -/
def overtaken : List Action :=
  [.startSession "s" true,.arrive ⟨"a","s",.stdin "l"⟩,.arrive ⟨"a","s",.exec "s"⟩,.acquire 0,.acquire 1,.touch 1,.lookup 1,
    .send 1,.touch 0,.lookup 0,.send 0]

theorem input_overtaken :
    ∃ t ch, run step start overtaken = some t ∧ t.channels.lookup "s" = some ch ∧
      (t.sentTo "a" "s").map Message.input = [.stdin "l",.exec "s"] ∧
      ch.receivedFrom "a" = [[0x73,0x0D],[0x6C]] ∧ ¬ Always step InputInOrder start overtaken := by
  have known : (run step start overtaken).map (fun t =>
      (t.channels.lookup "s",(t.sentTo "a" "s").map Message.input,(t.sentTo "a" "s").map fun m => payload true m.input)) =
      some (some ⟨true,true,false,2,[("a",[0x73,0x0D]),("a",[0x6C])]⟩,[.stdin "l",.exec "s"],[[0x6C],[0x73,0x0D]]) := by
    decide +kernel
  obtain ⟨t,ran,facts⟩ := Option.map_eq_some_iff.mp known
  simp only [Prod.mk.injEq] at facts
  obtain ⟨session,sent,bytes⟩ := facts
  refine ⟨t,_,ran,session,sent,rfl,?_⟩
  intro all
  have order := always_last all ran "s" _ session "a"
  rw [bytes] at order
  exact absurd order (by decide)

end Sctl.TunnelInput
