import Sctl.Runs
import Sctl.Tables
import Sctl.RelayRouting

/-!
How a device's frames reach a client of the relay. Each client has a queue of
256 messages that a task of its own empties. Session output is offered to the
queue and dropped when it is full, and then a `session.gap` is offered to the same
queue; a broadcast is dropped silently, and an answer to a request waits for room.
What the frames are for is `route`; here the offers are made one at a time, with
the clients reading in between, by every connection that shares the clients.
-/
namespace Sctl.RelayGaps
open Sctl.Runs Sctl.RelayRouting
open Sctl.RelaySubscriptions (ClientMsg track dropClient)

def capacity : Nat := 256

/-- A client's queue. -/
structure Queue where
  /-- What its task has taken out, in order. -/
  delivered : List Json
  waiting : List Json
  /-- The task has ended and nobody reads any more. -/
  closed : Bool
  /-- The session of each frame that was dropped, and how many messages had been accepted by then. -/
  drops : List (String × Nat)

def Queue.fresh : Queue := ⟨[],[],false,[]⟩

/-- What the client gets, in order. -/
def Queue.accepted (q : Queue) : List Json := q.delivered ++ q.waiting

def Queue.room (q : Queue) : Bool := !q.closed && decide (q.waiting.length < capacity)

def Queue.push (q : Queue) (msg : Json) : Queue := { q with waiting := q.waiting ++ [msg] }

/-- `try_send`, without what it answers. -/
def Queue.offer (q : Queue) (msg : Json) : Queue := if q.room then q.push msg else q

def Queue.noteDrop (q : Queue) (session : String) : Queue :=
  { q with drops := q.drops ++ [(session,q.accepted.length)] }

def Queue.take (q : Queue) : Option Queue :=
  match q.waiting with
  | [] => none
  | msg :: rest => some { q with delivered := q.delivered ++ [msg], waiting := rest }

def Queue.close (q : Queue) : Queue := { q with waiting := [], closed := true }

/-- How a frame's messages are sent. -/
inductive Mode
  /-- `try_send`, and a gap notice when it is refused. -/
  | output (session : String)
  /-- `send`, which waits for room. -/
  | answer
  /-- `try_send`. -/
  | broadcast
deriving DecidableEq

/-- Where `handle_device_ws` stands. -/
inductive Handler
  | idle
  | sending (mode : Mode) (left : List (String × Json))
  | announcing (client session : String) (left : List (String × Json))

structure State where
  relay : Relay
  queues : Table String Queue
  handlers : List Handler

def start : State := ⟨⟨[],∅,[],none,none⟩,∅,[]⟩

inductive Action
  /-- A connection of the device takes the clients over. -/
  | accept
  | connect (client : String)
  | unlist (client : String)
  | track (client : String) (msg : ClientMsg)
  | leave (client : String)
  | receive (h : Nat) (frame : Frame)
  /-- The next client that the frame is for, in the order of the hash set. -/
  | offer (h i : Nat)
  | announce (h : Nat)
  /-- The client's task takes a message. -/
  | drain (client : String)
  | close (client : String)

def gap (session : String) : Json :=
  .object [("type",.string "session.gap"),("session_id",.string session),("reason",.string "backpressure")]

def modeOf : Frame → Mode
  | .text v =>
    if typeOf v ∈ outputTypes then .output ((v.str "session_id").getD "")
    else if typeOf v ∈ telemetryTypes then .broadcast
    else if ((v.str "request_id").bind untag).isSome then .answer
    else .broadcast
  | .binary _ _ => .broadcast

def toQueue : Delivery → Option (String × Json)
  | .client clientId msg => some (clientId,msg)
  | .call _ _ => none

def next (mode : Mode) : List (String × Json) → Handler
  | [] => .idle
  | left => .sending mode left

/-- The clients' lock is held over all sends of a frame. -/
def Handler.isIdle : Handler → Bool
  | .idle => true
  | _ => false

/-- The lock of the subscriptions is held only for output. -/
def Handler.readsSubs : Handler → Bool
  | .sending (.output _) _ => true
  | .announcing _ _ _ => true
  | _ => false

def State.setHandler (s : State) (h : Nat) (handler : Handler) : State := { s with handlers := s.handlers.set h handler }

def State.setQueue (s : State) (client : String) (q : Queue) : State := { s with queues := s.queues.insert client q }

/-- One message of the frame to one client. -/
def sendOne (s : State) (h : Nat) (mode : Mode) (client : String) (msg : Json) (left : List (String × Json)) :
    Option State :=
  match s.queues.lookup client with
  | none => some (s.setHandler h (next mode left))
  | some q =>
    match mode with
    | .output session =>
      if q.room then some ((s.setQueue client (q.push msg)).setHandler h (next mode left))
      else some ((s.setQueue client (q.noteDrop session)).setHandler h (.announcing client session left))
    | .answer =>
      if q.room then some ((s.setQueue client (q.push msg)).setHandler h (next mode left))
      else if q.closed then some (s.setHandler h (next mode left))
      else none
    | .broadcast => some ((s.setQueue client (q.offer msg)).setHandler h (next mode left))

def step (s : State) : Action → Option State
  | .accept => some { s with handlers := s.handlers ++ [.idle] }
  | .connect client =>
    if s.handlers.all Handler.isIdle ∧ client ∉ s.relay.clients then
      some ({ s with relay := { s.relay with clients := client :: s.relay.clients } }.setQueue client Queue.fresh)
    else none
  | .unlist client =>
    if s.handlers.all Handler.isIdle then
      some { s with
        relay := { s.relay with clients := s.relay.clients.filter (· ≠ client) }, queues := s.queues.erase client }
    else none
  | .track client msg =>
    if s.handlers.any Handler.readsSubs then none
    else some { s with relay := { s.relay with subs := track s.relay.subs client msg } }
  | .leave client =>
    if s.handlers.any Handler.readsSubs then none
    else some { s with relay := { s.relay with subs := dropClient s.relay.subs client } }
  | .receive h frame =>
    match s.handlers[h]? with
    | some .idle =>
      some ({ s with relay := (route s.relay frame).1 }.setHandler h
        (next (modeOf frame) ((route s.relay frame).2.filterMap toQueue)))
    | _ => none
  | .offer h i =>
    match s.handlers[h]? with
    | some (.sending mode left) =>
      match left[i]? with
      | some (client,msg) => sendOne s h mode client msg (left.eraseIdx i)
      | none => none
    | _ => none
  | .announce h =>
    match s.handlers[h]? with
    | some (.announcing client session left) =>
      match s.queues.lookup client with
      | some q => some ((s.setQueue client (q.offer (gap session))).setHandler h (next (.output session) left))
      | none => some (s.setHandler h (next (.output session) left))
    | _ => none
  | .drain client =>
    match s.queues.lookup client with
    | some q => q.take.map (s.setQueue client)
    | none => none
  | .close client =>
    match s.queues.lookup client with
    | some q => some (s.setQueue client q.close)
    | none => none

/-! ### Announced drops -/

def IsOutput (session : String) (msg : Json) : Prop := typeOf msg ∈ outputTypes ∧ msg.str "session_id" = some session

/-- A gap notice comes before any output of the session. -/
def TellsOf (session : String) (msgs : List Json) : Prop :=
  ∃ before after, msgs = before ++ gap session :: after ∧ ∀ msg ∈ before, ¬ IsOutput session msg

/-- A connection is about to offer the gap notice. -/
def Announcing (s : State) (client session : String) : Prop := ∃ left, Handler.announcing client session left ∈ s.handlers

/-- Whenever a frame was dropped for a client that still reads, what the client
    gets from then on tells it, before it shows it output of that session; or
    the notice is on its way and there was no such output since. -/
def DropsAnnounced (s : State) : Prop :=
  ∀ client q, s.queues.lookup client = some q → q.closed = false → ∀ session at', (session,at') ∈ q.drops →
    TellsOf session (q.accepted.drop at') ∨
      (Announcing s client session ∧ ∀ msg ∈ q.accepted.drop at', ¬ IsOutput session msg)

/-- No connection is about to announce a gap of the session to the client. -/
def quiet (s : State) (client session : String) : Bool :=
  s.handlers.all fun
    | .announcing client' session' _ => client' ≠ client || session' ≠ session
    | _ => true

/-- A gap notice finds room, which is when the client has read since the frame
    was refused, and no other connection gets output of the session in between. -/
def roomForGaps (s : State) : Action → Bool
  | .announce h =>
    match s.handlers[h]? with
    | some (.announcing client _ _) => (s.queues.lookup client).all Queue.room
    | _ => true
  | .offer h i =>
    match s.handlers[h]? with
    | some (.sending (.output session) left) =>
      match left[i]? with
      | some (client,_) => quiet s client session || (s.queues.lookup client).all fun q => !q.room
      | none => true
    | _ => true
  | _ => true

/-! ### One queue -/

/-- What `DropsAnnounced` says of one queue, with the sessions whose notice is on its way. -/
def Announced (pending : String → Prop) (q : Queue) : Prop :=
  q.closed = false → ∀ session at', (session,at') ∈ q.drops →
    at' ≤ q.accepted.length ∧ (TellsOf session (q.accepted.drop at') ∨
      (pending session ∧ ∀ msg ∈ q.accepted.drop at', ¬ IsOutput session msg))

theorem gap_not_output (session session' : String) : ¬ IsOutput session (gap session') := by
  intro output
  have type : typeOf (gap session') = "session.gap" := rfl
  have member := output.1
  rw [type] at member
  revert member
  decide

theorem tellsOf_append {session : String} {msgs : List Json} (tells : TellsOf session msgs) (more : List Json) :
    TellsOf session (msgs ++ more) := by
  obtain ⟨before,after,whole,silent⟩ := tells
  exact ⟨before,after ++ more,by rw [whole]; simp,silent⟩

theorem announced_fresh (pending : String → Prop) : Announced pending Queue.fresh := by
  intro _ session at' noted
  cases noted

theorem announced_mono {pending pending' : String → Prop} {q : Queue}
    (weaker : ∀ session, pending session → pending' session) (told : Announced pending q) : Announced pending' q := by
  intro reads session at' noted
  obtain ⟨bound,tells | ⟨due,silent⟩⟩ := told reads session at' noted
  · exact ⟨bound,.inl tells⟩
  · exact ⟨bound,.inr ⟨weaker session due,silent⟩⟩

theorem accepted_push (q : Queue) (msg : Json) : (q.push msg).accepted = q.accepted ++ [msg] := by
  simp [Queue.accepted,Queue.push]

theorem announced_push {pending : String → Prop} {q : Queue} {msg : Json}
    (harmless : ∀ session, pending session → ¬ IsOutput session msg) (told : Announced pending q) :
    Announced pending (q.push msg) := by
  intro reads session at' noted
  obtain ⟨bound,tells⟩ := told reads session at' noted
  rw [accepted_push,List.drop_append_of_le_length bound,List.length_append]
  refine ⟨by omega,?_⟩
  rcases tells with tells | ⟨due,silent⟩
  · exact .inl (tellsOf_append tells [msg])
  · refine .inr ⟨due,?_⟩
    intro other member
    rcases List.mem_append.mp member with before | last
    · exact silent other before
    · rw [List.mem_singleton.mp last]
      exact harmless session due

theorem announced_gap {pending pending' : String → Prop} {q : Queue} {session : String}
    (others : ∀ session', session' ≠ session → pending session' → pending' session') (told : Announced pending q) :
    Announced pending' (q.push (gap session)) := by
  intro reads session' at' noted
  obtain ⟨bound,tells⟩ := told reads session' at' noted
  rw [accepted_push,List.drop_append_of_le_length bound,List.length_append]
  refine ⟨by omega,?_⟩
  rcases tells with tells | ⟨due,silent⟩
  · exact .inl (tellsOf_append tells _)
  · by_cases same : session' = session
    · subst same
      exact .inl ⟨q.accepted.drop at',[],rfl,silent⟩
    · refine .inr ⟨others session' same due,?_⟩
      intro other member
      rcases List.mem_append.mp member with before | last
      · exact silent other before
      · rw [List.mem_singleton.mp last]
        exact gap_not_output session' session

theorem announced_noteDrop {pending : String → Prop} {q : Queue} {session : String} (due : pending session)
    (told : Announced pending q) : Announced pending (q.noteDrop session) := by
  intro reads session' at' noted
  rcases List.mem_append.mp noted with before | last
  · exact told reads session' at' before
  · cases List.mem_singleton.mp last
    refine ⟨Nat.le_refl _,.inr ⟨due,?_⟩⟩
    intro msg member
    rw [show (q.noteDrop session).accepted = q.accepted from rfl,List.drop_length] at member
    cases member

theorem announced_take {pending : String → Prop} {q q' : Queue} (taken : q.take = some q') (told : Announced pending q) :
    Announced pending q' := by
  unfold Queue.take at taken
  split at taken
  case h_1 => cases taken
  case h_2 msg rest waiting =>
    cases taken
    intro reads session at' noted
    have same : q.accepted = q.delivered ++ [msg] ++ rest := by rw [Queue.accepted,waiting]; simp
    have here := told reads session at' noted
    rw [same] at here
    exact here

theorem announced_close (pending : String → Prop) (q : Queue) : Announced pending q.close := by
  intro reads
  cases reads

theorem announced_offer {pending : String → Prop} {q : Queue} {msg : Json}
    (harmless : ∀ session, pending session → ¬ IsOutput session msg) (told : Announced pending q) :
    Announced pending (q.offer msg) := by
  unfold Queue.offer
  split_ifs
  · exact announced_push harmless told
  · exact told

/-! ### What a handler has left to send -/

def Mode.Carries : Mode → Json → Prop
  | .output session, msg => msg.str "session_id" = some session
  | _, msg => typeOf msg ∉ outputTypes

def Handler.Carries : Handler → Prop
  | .idle => True
  | .sending mode left => ∀ e ∈ left, mode.Carries e.2
  | .announcing _ session left => ∀ e ∈ left, (Mode.output session).Carries e.2

theorem carries_next {mode : Mode} {left : List (String × Json)} (carries : ∀ e ∈ left, mode.Carries e.2) :
    (next mode left).Carries := by
  cases left with
  | nil => trivial
  | cons e rest => exact carries

theorem typeOf_set {v v' : Json} {w : Json} (written : v.set "request_id" w = some v') : typeOf v' = typeOf v := by
  have same := Json.field_set written "type"
  rw [if_neg (by decide)] at same
  rw [typeOf,typeOf,Json.str,Json.str,Json.index,Json.index,same]

theorem typeOf_toClient {r : Relay} {clientId rid clientId' : String} {v msg : Json}
    (member : Delivery.client clientId' msg ∈ toClient r clientId rid v) : typeOf msg = typeOf v := by
  unfold toClient at member
  split_ifs at member
  · obtain ⟨restored,written,same⟩ := Option.map_eq_some_iff.mp (Option.mem_toList.mp member)
    cases same
    exact typeOf_set written
  · cases member

theorem toAll_same {r : Relay} {clientId : String} {v msg : Json}
    (member : Delivery.client clientId msg ∈ toAll r v) : msg = v := by
  obtain ⟨other,_,same⟩ := List.mem_map.mp member
  cases same
  rfl

/-- Only the arm of session output sends output. -/
theorem typeOf_delivered {r : Relay} {v msg : Json} {clientId : String} (other : typeOf v ∉ outputTypes)
    (member : Delivery.client clientId msg ∈ (routeText r v).2) : typeOf msg = typeOf v := by
  rw [routeText,if_neg other] at member
  split_ifs at member
  · cases member
  · unfold routeResponse at member
    split at member
    · split at member
      · exact typeOf_toClient member
      · exact absurd member (resolve_call _ _ _ _ _)
    · cases member
  · unfold routeLifecycle at member
    dsimp only at member
    split at member
    · exact typeOf_toClient member
    · rw [toAll_same member]
  · rw [toAll_same member]
  · cases member

theorem delivered_output {r : Relay} {v msg : Json} {clientId : String} (output : typeOf v ∈ outputTypes)
    (member : Delivery.client clientId msg ∈ (routeText r v).2) : msg.str "session_id" = some ((v.str "session_id").getD "") := by
  rw [routeText,if_pos output] at member
  unfold toSubscribers at member
  split at member
  · rename_i session found
    obtain ⟨other,_,same⟩ := List.mem_map.mp member
    cases same
    rw [found]
    rfl
  · cases member

theorem route_carries (r : Relay) (frame : Frame) :
    ∀ e ∈ (route r frame).2.filterMap toQueue, (modeOf frame).Carries e.2 := by
  rintro ⟨clientId,msg⟩ member
  obtain ⟨delivery,there,queued⟩ := List.mem_filterMap.mp member
  cases delivery with
  | call => cases queued
  | client clientId' msg' =>
    cases queued
    cases frame with
    | text v =>
      by_cases output : typeOf v ∈ outputTypes
      · rw [modeOf,if_pos output]
        exact delivered_output output there
      · have plain : typeOf msg ∉ outputTypes := by rw [typeOf_delivered output there]; exact output
        rw [modeOf,if_neg output]
        split_ifs <;> exact plain
    | binary header data =>
      change Delivery.client clientId msg ∈ (routeBinary r header data).2 at there
      unfold routeBinary at there
      split at there
      · exact absurd there (resolve_call _ _ _ _ _)
      · cases there

/-! ### One step -/

structure Sound (s : State) : Prop where
  carries : ∀ handler ∈ s.handlers, handler.Carries
  told : ∀ client q, s.queues.lookup client = some q → Announced (Announcing s client) q

theorem sound_start : Sound start where
  carries := by
    intro handler member
    cases member
  told := by
    intro client q found
    cases found

theorem announced_of_sound {s : State} (sound : Sound s) : DropsAnnounced s := by
  intro client q found reads session at' noted
  exact (sound.told client q found reads session at' noted).2

/-- A handler that was not announcing moves on: whatever was on its way still is. -/
theorem announcing_set {s : State} {h : Nat} {old handler : Handler} (at_ : s.handlers[h]? = some old)
    (client session : String) (other : ∀ left, old ≠ .announcing client session left)
    (due : Announcing s client session) : ∃ left, Handler.announcing client session left ∈ s.handlers.set h handler := by
  obtain ⟨left,member⟩ := due
  obtain ⟨k,found⟩ := List.mem_iff_getElem?.mp member
  refine ⟨left,List.mem_iff_getElem?.mpr ⟨k,?_⟩⟩
  rw [List.getElem?_set_ne ?_]
  · exact found
  · rintro rfl
    exact other left (Option.some.inj (at_.symm.trans found))

theorem carries_set {handlers : List Handler} {h : Nat} {handler : Handler}
    (carries : ∀ handler' ∈ handlers, handler'.Carries) (new : handler.Carries) :
    ∀ handler' ∈ handlers.set h handler, handler'.Carries := by
  intro handler' member
  rcases List.mem_or_eq_of_mem_set member with before | rfl
  · exact carries handler' before
  · exact new

/-- The queues stay as they are. -/
theorem sound_of_same {s t : State} (sound : Sound s) (queues : t.queues = s.queues)
    (carries : ∀ handler ∈ t.handlers, handler.Carries)
    (still : ∀ client session, Announcing s client session → Announcing t client session) : Sound t where
  carries := carries
  told := by
    intro client q found
    rw [queues] at found
    exact announced_mono (still client) (sound.told client q found)

/-- One queue changes. -/
theorem sound_of_insert {s t : State} {client : String} {q' : Queue} (sound : Sound s)
    (queues : t.queues = s.queues.insert client q') (carries : ∀ handler ∈ t.handlers, handler.Carries)
    (here : Announced (Announcing t client) q')
    (still : ∀ client', client' ≠ client → ∀ session, Announcing s client' session → Announcing t client' session) :
    Sound t where
  carries := carries
  told := by
    intro client' q found
    rw [queues,Table.lookup_insert_eq] at found
    split_ifs at found with same
    · cases found
      subst same
      exact here
    · exact announced_mono (still client' same) (sound.told client' q found)

theorem not_announcing_of_quiet {s : State} {client session : String} (still : quiet s client session = true) :
    ¬ Announcing s client session := by
  rintro ⟨left,member⟩
  have silent := List.all_eq_true.mp still _ member
  simp at silent

theorem sendOne_sound {s t : State} {h i : Nat} {mode : Mode} {left : List (String × Json)} {client : String} {msg : Json}
    (sound : Sound s) (at_ : s.handlers[h]? = some (.sending mode left)) (chosen : left[i]? = some (client,msg))
    (met : roomForGaps s (.offer h i) = true) (sent : sendOne s h mode client msg (left.eraseIdx i) = some t) : Sound t := by
  have carried : ∀ e ∈ left, mode.Carries e.2 := sound.carries _ (List.mem_of_getElem? at_)
  have rest : ∀ e ∈ left.eraseIdx i, mode.Carries e.2 := fun e member => carried e (List.mem_of_mem_eraseIdx member)
  have this_ : mode.Carries msg := carried (client,msg) (List.mem_of_getElem? chosen)
  have on : ∀ handler client' session', Announcing s client' session' →
      ∃ left', Handler.announcing client' session' left' ∈ s.handlers.set h handler := by
    intro handler client' session'
    exact announcing_set at_ client' session' (by intro left' same; cases same)
  unfold sendOne at sent
  split at sent
  case h_1 =>
    cases sent
    exact sound_of_same sound rfl (carries_set sound.carries (carries_next rest)) (on _)
  case h_2 q found =>
    have told := sound.told client q found
    cases mode with
    | output session =>
      dsimp only at sent
      split_ifs at sent with room
      · cases sent
        have silent : ¬ Announcing s client session := by
          apply not_announcing_of_quiet
          simpa [roomForGaps,at_,chosen,found,room] using met
        refine sound_of_insert sound rfl (carries_set sound.carries (carries_next rest)) ?_ (fun _ _ => on _ _)
        refine announced_mono (on _ client) (announced_push ?_ told)
        intro session' due output
        -- the message is output of the session that nothing is due for
        cases output.2.symm.trans this_
        exact silent due
      · cases sent
        refine sound_of_insert sound rfl (carries_set sound.carries rest) ?_ (fun _ _ => on _ _)
        refine announced_noteDrop ?_ (announced_mono (on _ client) told)
        exact ⟨_,List.mem_set (List.getElem?_eq_some_iff.mp at_).1 _⟩
    | answer =>
      dsimp only at sent
      split_ifs at sent with room closed
      · cases sent
        refine sound_of_insert sound rfl (carries_set sound.carries (carries_next rest)) ?_ (fun _ _ => on _ _)
        exact announced_mono (on _ client) (announced_push (fun _ _ output => this_ output.1) told)
      · cases sent
        exact sound_of_same sound rfl (carries_set sound.carries (carries_next rest)) (on _)
    | broadcast =>
      cases sent
      refine sound_of_insert sound rfl (carries_set sound.carries (carries_next rest)) ?_ (fun _ _ => on _ _)
      exact announced_mono (on _ client) (announced_offer (fun _ _ output => this_ output.1) told)

theorem announce_sound {s t : State} {h : Nat} {client session : String} {left : List (String × Json)} (sound : Sound s)
    (at_ : s.handlers[h]? = some (.announcing client session left)) (met : roomForGaps s (.announce h) = true)
    (stepped : step s (.announce h) = some t) : Sound t := by
  have rest : (next (.output session) left).Carries :=
    carries_next (sound.carries _ (List.mem_of_getElem? at_))
  have on : ∀ client' session', (client',session') ≠ (client,session) → Announcing s client' session' →
      ∃ left', Handler.announcing client' session' left' ∈ s.handlers.set h (next (.output session) left) := by
    intro client' session' other
    refine announcing_set at_ client' session' ?_
    intro left' same
    cases same
    exact other rfl
  simp only [step,at_] at stepped
  split at stepped
  case h_1 q found =>
    cases stepped
    have room : q.room = true := by simpa [roomForGaps,at_,found] using met
    refine sound_of_insert sound rfl (carries_set sound.carries rest) ?_ ?_
    · rw [Queue.offer,if_pos room]
      refine announced_gap ?_ (sound.told client q found)
      exact fun session' other => on client session' fun same => other (congrArg Prod.snd same)
    · exact fun client' other session' => on client' session' fun same => other (congrArg Prod.fst same)
  case h_2 missing =>
    cases stepped
    refine ⟨carries_set sound.carries rest,?_⟩
    intro client' q found
    refine announced_mono (fun session' => on client' session' ?_) (sound.told client' q found)
    rintro same
    cases same
    cases missing.symm.trans found

theorem step_sound {s t : State} {a : Action} (sound : Sound s) (met : roomForGaps s a = true)
    (stepped : step s a = some t) : Sound t := by
  cases a with
  | accept =>
    cases stepped
    refine sound_of_same sound rfl ?_ ?_
    · intro handler member
      rcases List.mem_append.mp member with before | last
      · exact sound.carries handler before
      · rw [List.mem_singleton.mp last]
        trivial
    · rintro client session ⟨left,member⟩
      exact ⟨left,List.mem_append_left _ member⟩
  | connect client =>
    simp only [step] at stepped
    split_ifs at stepped
    cases stepped
    exact sound_of_insert sound rfl sound.carries (announced_fresh _) fun _ _ _ due => due
  | unlist client =>
    simp only [step] at stepped
    split_ifs at stepped
    cases stepped
    refine ⟨sound.carries,?_⟩
    intro client' q found
    rw [Table.lookup_erase_eq] at found
    split_ifs at found
    exact sound.told client' q found
  | track client msg =>
    simp only [step] at stepped
    split_ifs at stepped
    cases stepped
    exact sound_of_same sound rfl sound.carries fun _ _ due => due
  | leave client =>
    simp only [step] at stepped
    split_ifs at stepped
    cases stepped
    exact sound_of_same sound rfl sound.carries fun _ _ due => due
  | receive h frame =>
    simp only [step] at stepped
    split at stepped
    case h_1 at_ =>
      cases stepped
      refine sound_of_same sound rfl (carries_set sound.carries (carries_next (route_carries s.relay frame))) ?_
      intro client session
      exact announcing_set at_ client session (by intro left same; cases same)
    case h_2 => cases stepped
  | offer h i =>
    simp only [step] at stepped
    split at stepped
    case h_1 mode left at_ =>
      split at stepped
      case h_1 client msg chosen => exact sendOne_sound sound at_ chosen met stepped
      case h_2 => cases stepped
    case h_2 => cases stepped
  | announce h =>
    cases at_ : s.handlers[h]? with
    | none => simp [step,at_] at stepped
    | some handler =>
      cases handler with
      | idle => simp [step,at_] at stepped
      | sending mode left => simp [step,at_] at stepped
      | announcing client session left => exact announce_sound sound at_ met stepped
  | drain client =>
    simp only [step] at stepped
    split at stepped
    case h_1 q found =>
      obtain ⟨q',taken,same⟩ := Option.map_eq_some_iff.mp stepped
      cases same
      exact sound_of_insert sound rfl sound.carries (announced_take taken (sound.told client q found)) fun _ _ _ due => due
    case h_2 => cases stepped
  | close client =>
    simp only [step] at stepped
    split at stepped
    case h_1 q found =>
      cases stepped
      exact sound_of_insert sound rfl sound.carries (announced_close _ q) fun _ _ _ due => due
    case h_2 => cases stepped

/-! ### Whole runs -/

/-- In every run in which each gap notice finds room and no other connection gets
    output of the session through before it, every dropped frame is announced. -/
theorem drops_announced (as : List Action) (room : Along step (fun s a => roomForGaps s a = true) start as) :
    Always step DropsAnnounced start as :=
  always_of_keeps (fun _ _ _ sound met stepped => step_sound sound met stepped) (fun _ => announced_of_sound) sound_start room

/-! A client of the one session, whose queue fills up while it does not read. -/

def stdout : Json := .object [("type",.string "session.stdout"),("session_id",.string "s"),("data",.string "x")]

def watched (q : Queue) (handler : Handler) : State :=
  ⟨⟨["c"],RelaySubscriptions.subscribe ∅ "s" "c",[],none,none⟩,(∅ : Table String Queue).insert "c" q,[handler]⟩

def offering : Handler := .sending (.output "s") [("c",stdout)]

def notifying : Handler := .announcing "c" "s" []

def watch : List Action := [.accept,.connect "c",.track "c" (.attach "s")]

def routed : List Action := [.receive 0 (.text stdout),.offer 0 0]

def fill : Nat → List Action
  | 0 => []
  | n + 1 => fill n ++ routed

def holding (n : Nat) : Queue := ⟨[],List.replicate n stdout,false,[]⟩

theorem lookup_watched (q : Queue) (handler : Handler) : (watched q handler).queues.lookup "c" = some q :=
  AList.lookup_insert _

theorem setQueue_watched (q q' : Queue) (handler : Handler) : (watched q handler).setQueue "c" q' = watched q' handler := by
  simp only [State.setQueue,watched,AList.insert_insert]

theorem step_received (q : Queue) : step (watched q .idle) (.receive 0 (.text stdout)) = some (watched q offering) := rfl

theorem step_accepted {q : Queue} (room : q.room = true) :
    step (watched q offering) (.offer 0 0) = some (watched (q.push stdout) .idle) := by
  change sendOne (watched q offering) 0 (.output "s") "c" stdout [] = _
  simp only [sendOne,lookup_watched,if_pos room,setQueue_watched]
  rfl

theorem step_dropped {q : Queue} (full : q.room = false) :
    step (watched q offering) (.offer 0 0) = some (watched (q.noteDrop "s") notifying) := by
  have refused : ¬ q.room = true := by simp [full]
  change sendOne (watched q offering) 0 (.output "s") "c" stdout [] = _
  simp only [sendOne,lookup_watched,if_neg refused,setQueue_watched]
  rfl

theorem step_announced (q : Queue) :
    step (watched q notifying) (.announce 0) = some (watched (q.offer (gap "s")) .idle) := by
  change (match (watched q notifying).queues.lookup "c" with
    | some q => some (((watched q notifying).setQueue "c" (q.offer (gap "s"))).setHandler 0 (next (.output "s") []))
    | none => some ((watched q notifying).setHandler 0 (next (.output "s") []))) = _
  simp only [lookup_watched,setQueue_watched]
  rfl

theorem step_drained {q q' : Queue} (handler : Handler) (taken : q.take = some q') :
    step (watched q handler) (.drain "c") = some (watched q' handler) := by
  simp only [step,lookup_watched,taken,Option.map_some,setQueue_watched]

theorem room_holding {n : Nat} (space : n < capacity) : (holding n).room = true := by simp [holding,Queue.room,space]

theorem run_fill {n : Nat} (space : n ≤ capacity) :
    run step (watched (holding 0) .idle) (fill n) = some (watched (holding n) .idle) := by
  induction n with
  | zero => rfl
  | succ n ih =>
    have pushed : (holding n).push stdout = holding (n + 1) := by simp [holding,Queue.push,List.replicate_succ']
    refine run_append_iff.mpr ⟨_,ih (by omega),run_cons_iff.mpr ⟨_,step_received _,run_singleton.mpr ?_⟩⟩
    rw [step_accepted (room_holding (by omega)),pushed]

/-- Only one connection is there, so that nothing is announced while it offers output. -/
theorem along_routed (q : Queue) : Along step (fun s a => roomForGaps s a = true) (watched q .idle) routed := by
  intro t stepped
  refine ⟨rfl,?_⟩
  cases stepped
  intro t stepped
  exact ⟨rfl,trivial⟩

theorem along_fill {n : Nat} (space : n ≤ capacity) :
    Along step (fun s a => roomForGaps s a = true) (watched (holding 0) .idle) (fill n) := by
  induction n with
  | zero => trivial
  | succ n ih => exact along_append_of (run_fill (by omega)) (ih (by omega)) (along_routed _)

theorem run_watch : run step start watch = some (watched (holding 0) .idle) := rfl

theorem along_watch : Along step (fun s a => roomForGaps s a = true) start watch := by
  intro _ stepped
  refine ⟨rfl,?_⟩
  cases stepped
  intro _ stepped
  refine ⟨rfl,?_⟩
  cases stepped
  intro _ stepped
  exact ⟨rfl,trivial⟩

theorem along_filled {n : Nat} (space : n ≤ capacity) :
    Along step (fun s a => roomForGaps s a = true) start (watch ++ (fill n ++ routed)) := by
  refine along_append_of run_watch along_watch ?_
  exact along_append_of (run_fill space) (along_fill space) (along_routed _)

/-- One frame more than the queue takes. -/
def overflow : List Action := watch ++ (fill capacity ++ routed)

def overflowed : Queue := (holding capacity).noteDrop "s"

theorem full_overflowed : overflowed.room = false := by
  have long : ¬ (List.replicate capacity stdout).length < capacity := by
    rw [List.length_replicate]
    exact Nat.lt_irrefl _
  simp only [overflowed,holding,Queue.noteDrop,Queue.room,long]
  rfl

theorem run_overflow : run step start overflow = some (watched overflowed notifying) := by
  have full : (holding capacity).room = false := full_overflowed
  refine run_append_iff.mpr ⟨_,run_watch,run_append_iff.mpr ⟨_,run_fill (Nat.le_refl _),?_⟩⟩
  exact run_cons_iff.mpr ⟨_,step_received _,run_singleton.mpr (step_dropped full)⟩

/-- The overflowed queue when one message is read. -/
def readOne : Queue := ⟨[stdout],List.replicate (capacity - 1) stdout,false,[("s",capacity)]⟩

theorem take_overflowed : overflowed.take = some readOne := by
  have first : (holding capacity).waiting = stdout :: List.replicate (capacity - 1) stdout := List.replicate_succ
  have noted : (holding capacity).accepted.length = capacity := by
    rw [Queue.accepted,List.length_append,holding,List.length_replicate,List.length_nil,Nat.zero_add]
  simp only [overflowed,Queue.noteDrop,noted,Queue.take,first,readOne]
  rfl

theorem room_readOne : readOne.room = true := by
  have short : (List.replicate (capacity - 1) stdout).length < capacity := by
    rw [List.length_replicate]
    decide
  simp only [Queue.room,readOne,short]
  rfl

theorem drops_announced_overflow :
    Along step (fun s a => roomForGaps s a = true) start (overflow ++ [.drain "c",.announce 0]) ∧
    run step start (overflow ++ [.drain "c",.announce 0]) = some (watched (readOne.push (gap "s")) .idle) ∧
    Always step DropsAnnounced start (overflow ++ [.drain "c",.announce 0]) := by
  have along : Along step (fun s a => roomForGaps s a = true) start (overflow ++ [.drain "c",.announce 0]) := by
    refine along_append_of run_overflow (along_filled (Nat.le_refl capacity)) ?_
    intro t stepped
    refine ⟨rfl,?_⟩
    cases (step_drained notifying take_overflowed).symm.trans stepped
    intro t stepped
    refine ⟨?_,trivial⟩
    change ((watched readOne notifying).queues.lookup "c").all Queue.room = true
    rw [lookup_watched,Option.all_some,room_readOne]
  refine ⟨along,?_,drops_announced _ along⟩
  refine run_append_iff.mpr ⟨_,run_overflow,run_cons_iff.mpr ⟨_,step_drained _ take_overflowed,run_singleton.mpr ?_⟩⟩
  rw [step_announced,Queue.offer,if_pos room_readOne]

/-- The notice is refused like the frame was, and the next that the client is
    shown of the session is output. -/
theorem drops_unannounced : ¬ ∀ as, Always step DropsAnnounced start as := by
  intro always
  have kept : overflowed.offer (gap "s") = overflowed := by simp [Queue.offer,full_overflowed]
  have ran : run step start (overflow ++ ([.announce 0,.drain "c"] ++ routed)) =
      some (watched (readOne.push stdout) .idle) := by
    refine run_append_iff.mpr ⟨_,run_overflow,run_append_iff.mpr ⟨watched readOne .idle,?_,?_⟩⟩
    · refine run_cons_iff.mpr ⟨_,step_announced _,run_singleton.mpr ?_⟩
      rw [kept]
      exact step_drained .idle take_overflowed
    · exact run_cons_iff.mpr ⟨_,step_received _,run_singleton.mpr (step_accepted room_readOne)⟩
  have told := always_last (always _) ran "c" _ (lookup_watched _ _) rfl "s" capacity (by simp [readOne,Queue.push])
  have shown : (readOne.push stdout).accepted.drop capacity = [stdout] := by
    have length : readOne.accepted.length = capacity := by
      rw [readOne,Queue.accepted,List.length_append,List.length_replicate]
      rfl
    rw [accepted_push,← length,List.drop_left]
  rw [shown] at told
  have output : IsOutput "s" stdout := ⟨by decide,rfl⟩
  rcases told with ⟨before,after,whole,silent⟩ | ⟨-,silent⟩
  · have there : gap "s" ∈ [stdout] := by rw [whole]; simp
    exact gap_not_output "s" "s" (List.mem_singleton.mp there ▸ output)
  · exact silent stdout (by simp) output

end Sctl.RelayGaps
