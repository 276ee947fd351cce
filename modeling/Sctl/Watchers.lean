import Sctl.RelaySubscriptions
import Sctl.TunnelHandlers

/-!
The relay's subscriber sets and the device's subscribers together. What the
relay queues for the device comes there in order, one handler for each message;
the handlers run side by side. The relay decides to detach a session in one step
and queues the message in a later one, so that an attach can slip in between.
-/
namespace Sctl.Watchers
open Sctl.Runs

abbrev Relay := RelaySubscriptions.State
abbrev Device := TunnelHandlers.State

structure State where
  relay : Relay
  device : Device

inductive Action
  | relay (a : RelaySubscriptions.Action)
  /-- The next message of the queue reaches the device. -/
  | deliver
  | device (a : TunnelHandlers.Action)

/-- Clients come, attach and go. -/
def relayTakes : RelaySubscriptions.Action → Bool
  | .receive _ msg => match msg with | .attach _ => true | .other => true | _ => false
  | .take => false
  | .started _ _ => false
  | .closed _ => false
  | _ => true

/-- The steps of a handler of an attach or a detach, and the reaper. -/
def handlerOf : TunnelHandlers.Action → Option Nat
  | .clear n => some n
  | .attachShared n => some n
  | .spawn n => some n
  | .insert n => some n
  | .detach n => some n
  | _ => none

def deviceTakes : TunnelHandlers.Action → Bool
  | .reap => true
  | a => (handlerOf a).isSome

def requestOf : RelaySubscriptions.DeviceMsg → Option TunnelHandlers.Request
  | .request _ (.attach id) => some (.attach id)
  | .detach id => some (.detach id)
  | _ => none

def arrive (d : Device) (msg : RelaySubscriptions.DeviceMsg) : Device :=
  match requestOf msg with
  | some request => { d with handlers := d.handlers ++ [⟨request,.waiting⟩] }
  | none => d

def step (s : State) : Action → Option State
  | .relay a => if relayTakes a then (RelaySubscriptions.step s.relay a).map fun r => { s with relay := r } else none
  | .deliver =>
    match s.relay.queue with
    | msg :: rest => some ⟨{ s.relay with queue := rest },arrive s.device msg⟩
    | [] => none
  | .device a =>
    if deviceTakes a then (TunnelHandlers.step s.device a).map fun d => { s with device := d } else none

def start (sessions : Table String Nat) : State := ⟨RelaySubscriptions.start,TunnelHandlers.start sessions⟩

/-- All messages are processed and no client is in the middle of something. -/
def Processed (s : State) : Prop :=
  s.relay.queue = [] ∧ (∀ h ∈ s.device.handlers, h.pc = .finished) ∧
    ∀ client pc, s.relay.handlers.lookup client = some pc → pc = .reading ∨ pc = .gone

def watchers (s : State) (id : String) : List String := RelaySubscriptions.members s.relay.subs id

/-- A session that somebody watches has a running subscriber and counts as
    attached; one that nobody watches has no subscriber. -/
structure Agreed (s : State) : Prop where
  watched : ∀ id count, s.device.sessions.lookup id = some count → watchers s id ≠ [] →
    TunnelHandlers.running s.device id = true ∧ 1 ≤ count
  unwatched : ∀ id, watchers s id = [] → TunnelHandlers.running s.device id = false

def AgreesWhenProcessed (s : State) : Prop := Processed s → Agreed s

/-- The session that an attach or a detach is about. -/
def sessionOf : TunnelHandlers.Request → Option String
  | .attach id => some id
  | .detach id => some id
  | _ => none

/-- The client stays subscribed to the session, and its attach is not waiting. -/
def stays (id : String) : RelaySubscriptions.Pc → Bool
  | .reading => true
  | .forwarding msg => msg ≠ .attach id
  | _ => false

def settled (r : Relay) (id client : String) : Bool := (r.handlers.lookup client).any (stays id)

/-- A detach is queued, and not lost, when no client stays subscribed whose attach
    came before it; a handler runs when those before it for its session are done. -/
def inTurn (s : State) : Action → Bool
  | .relay (.sendDetach client delivered) =>
    delivered && match s.relay.handlers.lookup client with
      | some (.sending id _) => (watchers s id).all fun c => !settled s.relay id c
      | _ => true
  | .device a =>
    match handlerOf a with
    | some n =>
      (s.device.handlers.take n).all fun earlier =>
        earlier.pc = .finished || (s.device.handlers[n]?).all fun h => sessionOf earlier.request ≠ sessionOf h.request
    | none => true
  | _ => true

/-! ### The device handles one message of a session after another -/

section
open TunnelHandlers

/-- No subscriber of the session runs, and no handle is stored. -/
def Rests (d : Device) (id : String) : Prop := (∀ task, d.live.lookup task ≠ some id) ∧ d.stored.lookup id = none

/-- The task is the session's one subscriber. -/
def Only (d : Device) (id : String) (task : Nat) : Prop :=
  d.live.lookup task = some id ∧ ∀ task', d.live.lookup task' = some id → task' = task

def Counted (d : Device) (id : String) : Prop := ∃ count, d.sessions.lookup id = some count ∧ 1 ≤ count

/-- The session has its subscriber and counts as attached. -/
def Served (d : Device) (id : String) : Prop := ∃ task, Only d id task ∧ d.stored.lookup id = some task ∧ Counted d id

/-- What the session is like when this is the handler that ran last for it. -/
def Phase (d : Device) (id : String) : Option Handler → Prop
  | some ⟨.attach _,.attached⟩ => Rests d id ∧ Counted d id
  | some ⟨.attach _,.holding _ task⟩ => Only d id task ∧ d.stored.lookup id = none ∧ Counted d id
  | some ⟨.attach _,.finished⟩ => if id = "" ∨ d.sessions.lookup id = none then Rests d id else Served d id
  | _ => Rests d id

/-- The places where a handler can be. -/
def Placed : Handler → Prop
  | ⟨.attach id,.cleared⟩ => id ≠ ""
  | ⟨.attach id,.attached⟩ => id ≠ ""
  | ⟨.attach id,.holding id' _⟩ => id ≠ "" ∧ id' = id
  | ⟨.attach _,pc⟩ => pc = .waiting ∨ pc = .finished
  | ⟨.detach _,pc⟩ => pc = .waiting ∨ pc = .cleared ∨ pc = .finished
  | _ => False

def begun (id : String) (h : Handler) : Bool := sessionOf h.request = some id && h.pc ≠ .waiting

def lastBegun (d : Device) (id : String) : Option Handler := (d.handlers.filter (begun id)).getLast?

structure Sequential (d : Device) : Prop where
  numbered : Numbered d
  placed : ∀ h ∈ d.handlers, Placed h
  turns : d.handlers.Pairwise fun earlier later =>
    sessionOf earlier.request = sessionOf later.request → later.pc ≠ .waiting → earlier.pc = .finished
  phase : ∀ id, Phase d id (lastBegun d id)

/-- The session is the same in both states. -/
structure SameFor (d e : Device) (id : String) : Prop where
  live : ∀ task, e.live.lookup task = some id ↔ d.live.lookup task = some id
  stored : e.stored.lookup id = d.stored.lookup id
  sessions : e.sessions.lookup id = d.sessions.lookup id

/-- A phase is kept when the session's subscriber and count are. -/
theorem phase_mono {d e : Device} {id : String} {h : Option Handler} (phase : Phase d id h)
    (live : ∀ task, e.live.lookup task = some id ↔ d.live.lookup task = some id)
    (unstored : d.stored.lookup id = none → e.stored.lookup id = none)
    (stored : ∀ task, d.live.lookup task = some id → d.stored.lookup id = some task → e.stored.lookup id = some task)
    (sessions : e.sessions.lookup id = d.sessions.lookup id) : Phase e id h := by
  have rests : Rests d id → Rests e id := fun rests => ⟨fun task there => rests.1 task ((live task).mp there),unstored rests.2⟩
  have only : ∀ task, Only d id task → Only e id task := fun task only =>
    ⟨(live task).mpr only.1,fun task' there => only.2 task' ((live task').mp there)⟩
  have counted : Counted d id → Counted e id := by simp only [Counted,sessions]; exact fun there => there
  unfold Phase at phase ⊢
  split
  · exact ⟨rests phase.1,counted phase.2⟩
  · exact ⟨only _ phase.1,unstored phase.2.1,counted phase.2.2⟩
  · rw [sessions]
    split_ifs at phase ⊢
    · exact rests phase
    · obtain ⟨task,one,there,count⟩ := phase
      exact ⟨task,only task one,stored task one.1 there,counted count⟩
  · next none_ none' none'' =>
    split at phase
    · exact absurd rfl (none_ _)
    · exact absurd rfl (none' _ _ _)
    · exact absurd rfl (none'' _)
    · exact rests phase

theorem sameFor_phase {d e : Device} {id : String} (same : SameFor d e id) {h : Option Handler} (phase : Phase d id h) :
    Phase e id h :=
  phase_mono phase same.live (fun there => same.stored.trans there) (fun _ _ there => same.stored.trans there) same.sessions

theorem phase_unserved {d : Device} {id id' : String} (missing : id = "" ∨ d.sessions.lookup id = none) (rests : Rests d id) :
    Phase d id (some ⟨.attach id',.finished⟩) := by
  unfold Phase
  rw [if_pos missing]
  exact rests

theorem phase_served {d : Device} {id id' : String} (named : id ≠ "") (served : Served d id) :
    Phase d id (some ⟨.attach id',.finished⟩) := by
  unfold Phase
  rw [if_neg]
  · exact served
  · obtain ⟨_,-,-,count,session,-⟩ := served
    rintro (nameless | missing)
    · exact named nameless
    · cases session.symm.trans missing

/-- The session is between two messages: it rests, or it has its subscriber. -/
def Between (d : Device) (id : String) : Prop :=
  Rests d id ∨ (id ≠ "" ∧ ∃ task, Only d id task ∧ d.stored.lookup id = some task)

theorem phase_between {d : Device} {id : String} {h : Option Handler} (phase : Phase d id h)
    (done : ∀ g ∈ h, g.pc = .finished) : Between d id := by
  unfold Phase at phase
  split at phase
  · exact .inl phase.1
  · exact absurd (done _ rfl) (by simp)
  · split_ifs at phase with missing
    · exact .inl phase
    · obtain ⟨task,only,stored,-⟩ := phase
      exact .inr ⟨fun nameless => missing (.inl nameless),task,only,stored⟩
  · exact .inl phase

theorem rests_abort {d : Device} {id : String} (between : Between d id) : Rests (d.abortStored id) id := by
  rcases between with rests | ⟨-,task,⟨-,only⟩,stored⟩
  · rw [State.abortStored,rests.2]; exact rests
  · simp only [State.abortStored,stored]
    refine ⟨?_,by rw [Table.lookup_erase_eq,if_pos rfl]⟩
    intro task' going
    rw [Table.lookup_erase_eq] at going
    split_ifs at going with differs
    exact differs (only task' going)

theorem sameFor_abort {d : Device} {id other : String} (numbered : Numbered d) (differs : other ≠ id) :
    SameFor d (d.abortStored id) other := by
  unfold State.abortStored
  split
  · next task stored =>
    refine ⟨?_,by rw [Table.lookup_erase_eq,if_neg differs],rfl⟩
    intro task'
    rw [Table.lookup_erase_eq]
    split_ifs with same
    · subst same
      constructor
      · intro there; cases there
      · intro there; exact absurd ((numbered.stored id task' stored).2 other there) differs
    · exact Iff.rfl
  · exact ⟨fun _ => Iff.rfl,rfl,rfl⟩

/-- The step of a handler concerns its session alone, and carries it from one
    phase to the next. -/
theorem handler_effect {d e : Device} {a : TunnelHandlers.Action} {n : Nat} (numbered : Numbered d)
    (placed : ∀ h ∈ d.handlers, Placed h) (acts : handlerOf a = some n) (stepped : TunnelHandlers.step d a = some e) :
    ∃ h pc id, d.handlers[n]? = some h ∧ e.handlers = d.handlers.set n { h with pc } ∧ sessionOf h.request = some id ∧
      h.pc ≠ .finished ∧ pc ≠ .waiting ∧ Placed { h with pc } ∧ (∀ other, other ≠ id → SameFor d e other) ∧
      ((h.pc = .waiting → Between d id) → (h.pc ≠ .waiting → Phase d id (some h)) → Phase e id (some { h with pc })) := by
  cases step_move stepped with
  | arrive => cases acts
  | create => cases acts
  | createFails => cases acts
  | @nameless m request found which =>
    cases acts
    refine ⟨_,.finished,"",found,rfl,?_,by simp,by simp,?_,fun other _ => ⟨fun _ => Iff.rfl,rfl,rfl⟩,?_⟩
    · obtain rfl | rfl := which <;> rfl
    · obtain rfl | rfl := which <;> simp [Placed]
    · intro between _
      have here : Rests d "" := (between rfl).resolve_right fun named => named.1 rfl
      obtain rfl | rfl := which
      · exact phase_unserved (.inl rfl) here
      · exact here
  | @clear m id request found which named =>
    cases acts
    refine ⟨_,.cleared,id,found,?_,?_,by simp,by simp,?_,?_,?_⟩
    · rw [State.withPc]
      unfold State.abortStored
      split <;> rfl
    · obtain rfl | rfl := which <;> rfl
    · obtain rfl | rfl := which
      · exact named
      · exact .inr (.inl rfl)
    · intro other differs
      have other_ := @sameFor_abort d id other numbered differs
      exact ⟨other_.live,other_.stored,other_.sessions⟩
    · intro between _
      have rests := rests_abort (between rfl)
      obtain rfl | rfl := which <;> exact rests
  | clearKilled found => exact (placed _ (List.mem_of_getElem? found)).elim
  | @attachShared m id count found session =>
    cases acts
    have named : id ≠ "" := placed _ (List.mem_of_getElem? found)
    refine ⟨_,.attached,id,found,rfl,rfl,by simp,by simp,named,?_,?_⟩
    · intro other differs
      exact ⟨fun _ => Iff.rfl,rfl,by rw [State.withPc,Table.lookup_insert_eq,if_neg differs]⟩
    · intro _ phase
      exact ⟨phase (by simp),1,by rw [State.withPc,Table.lookup_insert_eq,if_pos rfl],Nat.le_refl 1⟩
  | @attachMissing m id found missing =>
    cases acts
    refine ⟨_,.finished,id,found,rfl,rfl,by simp,by simp,.inr rfl,fun other _ => ⟨fun _ => Iff.rfl,rfl,rfl⟩,?_⟩
    intro _ phase
    exact phase_unserved (.inr missing) (phase (by simp))
  | @spawn m id h found which =>
    cases acts
    have attached : h = ⟨.attach id,.attached⟩ := by
      rcases which with ⟨rfl,-⟩ | attached
      · exact (placed _ (List.mem_of_getElem? found)).elim
      · exact attached
    subst attached
    have named : id ≠ "" := placed _ (List.mem_of_getElem? found)
    refine ⟨_,.holding id d.nextTask,id,found,rfl,rfl,by simp,by simp,⟨named,rfl⟩,?_,?_⟩
    · intro other differs
      refine ⟨?_,rfl,rfl⟩
      intro task
      rw [live_spawn]
      split_ifs with new
      · constructor
        · intro there; cases there; exact absurd rfl differs
        · intro there
          have bound := numbered.live task other there
          omega
      · exact Iff.rfl
    · intro _ phase
      obtain ⟨⟨none_,stored⟩,counted⟩ := phase (by simp)
      refine ⟨⟨by rw [live_spawn,if_pos rfl],?_⟩,stored,counted⟩
      intro task there
      rw [live_spawn] at there
      split_ifs at there with new
      · exact new
      · exact absurd there (none_ task)
  | startGone found => exact (placed _ (List.mem_of_getElem? found)).elim
  | @insert m id task request found =>
    cases acts
    have place := placed _ (List.mem_of_getElem? found)
    cases request with
    | start => exact place.elim
    | detach id' => simp [Placed] at place
    | kill id' => exact place.elim
    | attach id' =>
      obtain ⟨named,rfl⟩ := place
      refine ⟨_,.finished,id,found,rfl,rfl,by simp,by simp,.inr rfl,?_,?_⟩
      · intro other differs
        exact ⟨fun _ => Iff.rfl,by rw [stored_insert,if_neg differs],rfl⟩
      · intro _ phase
        obtain ⟨only,-,count,session,one⟩ := phase (by simp)
        exact phase_served named ⟨task,only,by rw [stored_insert,if_pos rfl],count,session,one⟩
  | @detach m id found =>
    cases acts
    refine ⟨_,.finished,id,found,rfl,rfl,by simp,by simp,.inr (.inr rfl),?_,?_⟩
    · intro other differs
      exact ⟨fun _ => Iff.rfl,rfl,by rw [State.withPc,Table.lookup_modify,if_neg differs]⟩
    · intro _ phase
      exact phase (by simp)
  | killMissing => cases acts
  | kill => cases acts
  | taskEnds => cases acts
  | reap => cases acts
  | sessionGone => cases acts
  | close => cases acts

theorem lastBegun_congr {d e : Device} {before after : List Handler} {h h' : Handler} {id : String}
    (whole : d.handlers = before ++ h :: after) (moved : e.handlers = before ++ h' :: after)
    (here : begun id h = false) (there : begun id h' = false) : lastBegun e id = lastBegun d id := by
  simp [lastBegun,whole,moved,here,there]

theorem lastBegun_last {d : Device} {before after : List Handler} {h : Handler} {id : String}
    (whole : d.handlers = before ++ h :: after) (here : begun id h = true) (later : ∀ g ∈ after, begun id g = false) :
    lastBegun d id = some h := by
  have none_ : after.filter (begun id) = [] := List.filter_eq_nil_iff.mpr fun g member => by simp [later g member]
  simp [lastBegun,whole,here,none_]

theorem begun_of_session {id : String} {h : Handler} (session : sessionOf h.request = some id) :
    begun id h = true ↔ h.pc ≠ .waiting := by
  simp [begun,session]

theorem begun_other {id other : String} {h : Handler} (session : sessionOf h.request = some id) (differs : other ≠ id) :
    begun other h = false := by
  simp [begun,session,Ne.symm differs]

/-- A handler that runs when those before it for its session are done carries its
    session on and leaves the others alone. -/
theorem sequential_handler {d e : Device} {a : TunnelHandlers.Action} {n : Nat} (sequential : Sequential d)
    (acts : handlerOf a = some n) (stepped : TunnelHandlers.step d a = some e)
    (turn : ∀ earlier ∈ d.handlers.take n, ∀ h, d.handlers[n]? = some h →
      sessionOf earlier.request = sessionOf h.request → earlier.pc = .finished) : Sequential e := by
  obtain ⟨h,pc,id,found,moved,session,unfinished,goes,place,others,own⟩ :=
    handler_effect sequential.numbered sequential.placed acts stepped
  obtain ⟨before,after,whole,first,set⟩ := Tasks.set_split found ({ h with pc } : Handler)
  rw [set] at moved
  have turns := sequential.turns
  simp only [whole,List.pairwise_append,List.pairwise_cons,List.mem_cons,forall_eq_or_imp] at turns
  obtain ⟨earlier,⟨next,later⟩,cross⟩ := turns
  have done : ∀ g ∈ before, sessionOf g.request = sessionOf h.request → g.pc = .finished :=
    fun g member same => turn g (first ▸ member) h found same
  have waits : ∀ g ∈ after, sessionOf g.request = some id → g.pc = .waiting := by
    intro g member same
    by_contra begun_
    exact unfinished (next g member (session.trans same.symm) begun_)
  have idle : ∀ g ∈ after, begun id g = false := by
    intro g member
    by_cases same : sessionOf g.request = some id
    · simp [begun,waits g member same]
    · simp [begun,same]
  refine ⟨numbered_step sequential.numbered stepped,?_,?_,?_⟩
  · intro g member
    rw [moved] at member
    rcases List.mem_append.mp member with old | new
    · exact sequential.placed g (by rw [whole]; exact List.mem_append_left _ old)
    · rcases List.mem_cons.mp new with rfl | old
      · exact place
      · exact sequential.placed g (by rw [whole]; exact List.mem_append_right _ (List.mem_cons_of_mem _ old))
  · rw [moved]
    simp only [List.pairwise_append,List.pairwise_cons,List.mem_cons,forall_eq_or_imp]
    refine ⟨earlier,⟨?_,later⟩,?_⟩
    · intro g member same begun_
      exact absurd (waits g member (same.symm.trans session)) begun_
    · intro g member
      exact ⟨fun same _ => done g member same,(cross g member).2⟩
  · intro other
    by_cases this : other = id
    · subst this
      rw [lastBegun_last moved ((begun_of_session (h := { h with pc }) session).mpr goes) idle]
      have phase := sequential.phase other
      refine own ?_ ?_
      · intro waiting
        have same : lastBegun d other = (before.filter (begun other)).getLast? := by
          have here : begun other h = false := by simp [begun,waiting]
          have none_ : after.filter (begun other) = [] := List.filter_eq_nil_iff.mpr fun g member => by simp [idle g member]
          simp [lastBegun,whole,here,none_]
        refine phase_between phase ?_
        intro g last
        rw [same] at last
        obtain ⟨member,begun_⟩ := List.mem_filter.mp (List.mem_of_getLast? last)
        simp only [begun,Bool.and_eq_true,decide_eq_true_eq] at begun_
        exact done g member (begun_.1.trans session.symm)
      · intro begun_
        rw [lastBegun_last whole ((begun_of_session session).mpr begun_) idle] at phase
        exact phase
    · rw [lastBegun_congr whole moved (begun_other session this) (begun_other (h := { h with pc }) session this)]
      exact sameFor_phase (others other this) (sequential.phase other)

theorem sequential_reap {d : Device} (sequential : Sequential d) (numbered : Numbered
    { d with stored := Table.keep (fun _ task => isLive d.live task) d.stored }) :
    Sequential { d with stored := Table.keep (fun _ task => isLive d.live task) d.stored } := by
  refine ⟨numbered,sequential.placed,sequential.turns,?_⟩
  intro id
  refine phase_mono (sequential.phase id) (fun _ => Iff.rfl) ?_ ?_ rfl
  · intro none_
    rw [Table.lookup_keep,none_]; rfl
  · intro task going there
    exact Table.lookup_keep_iff.mpr ⟨there,by simp [isLive,going]⟩

theorem sequential_arrive {d : Device} (sequential : Sequential d) (msg : RelaySubscriptions.DeviceMsg) :
    Sequential (arrive d msg) := by
  unfold arrive
  split
  · next request known =>
    have placed : Placed ⟨request,.waiting⟩ := by
      cases msg with
      | detach id => cases known; exact .inl rfl
      | request client msg =>
        cases msg with
        | attach id => cases known; exact .inl rfl
        | kill id => cases known
        | start => cases known
        | other => cases known
    have quiet : Holds { d with handlers := d.handlers ++ [⟨request,.waiting⟩] } = Holds d := by
      funext n id task
      simp only [Holds,List.getElem?_append]
      split_ifs with old
      · rfl
      · rw [List.getElem?_eq_none (Nat.le_of_not_lt old)]
        refine propext ⟨?_,?_⟩
        · rintro ⟨_,new⟩
          have member := List.mem_of_getElem? new
          simp at member
        · rintro ⟨_,there⟩; cases there
    obtain ⟨live,stored,held,once⟩ := sequential.numbered
    rw [← quiet] at held once
    refine ⟨⟨live,stored,held,once⟩,?_,?_,?_⟩
    · intro h member
      rcases List.mem_append.mp member with old | new
      · exact sequential.placed h old
      · rw [List.mem_singleton.mp new]; exact placed
    · rw [List.pairwise_append]
      refine ⟨sequential.turns,List.pairwise_singleton _ _,?_⟩
      intro earlier _ later new _ begun_
      rw [List.mem_singleton.mp new] at begun_
      exact absurd rfl begun_
    · intro id
      have same : lastBegun { d with handlers := d.handlers ++ [⟨request,.waiting⟩] } id = lastBegun d id := by
        simp [lastBegun,List.filter_append,begun]
      rw [same]
      exact sameFor_phase ⟨fun _ => Iff.rfl,rfl,rfl⟩ (sequential.phase id)
  · exact sequential

end

/-! ### The last message decides -/

/-- The attaches and detaches of a session, in the order in which they were queued. -/
def requests (s : State) (id : String) : List TunnelHandlers.Request :=
  (s.device.handlers.map TunnelHandlers.Handler.request ++ s.relay.queue.filterMap requestOf).filter
    fun r => sessionOf r = some id

/-- A handler that has not taken its client out of the subscriber sets. -/
def subscribes : RelaySubscriptions.Pc → Bool
  | .reading => true
  | .forwarding _ => true
  | .leaving => true
  | .unlisted => true
  | _ => false

/-- Some handler has still to look whether anybody watches the session. -/
def Pending (r : Relay) (id : String) : Prop := ∃ client pc, r.handlers.lookup client = some pc ∧ id ∈ pc.pending

/-- The last message about a session is an attach when a client stays subscribed,
    and is none when nobody is subscribed and nobody has still to detach. -/
structure Announced (r : Relay) (last : String → Option TunnelHandlers.Request) : Prop where
  present : ∀ id, ∀ client ∈ RelaySubscriptions.members r.subs id,
    ∃ pc, r.handlers.lookup client = some pc ∧ subscribes pc = true
  forwarding : ∀ client id, r.handlers.lookup client = some (.forwarding (.attach id)) →
    client ∈ RelaySubscriptions.members r.subs id
  watched : ∀ id, ∀ client ∈ RelaySubscriptions.members r.subs id, settled r id client = true → last id = some (.attach id)
  unwatched : ∀ id, RelaySubscriptions.members r.subs id = [] → Pending r id ∨ last id ≠ some (.attach id)

section
open RelaySubscriptions

/-- One handler moves on; what it must leave in order is said of the state after. -/
theorem announced_handler {r q : Relay} {last last' : String → Option TunnelHandlers.Request} {client : String} {pc : Pc}
    (announced : Announced r last) (handlers : q.handlers = r.handlers.insert client pc)
    (others : ∀ id c, c ≠ client → (c ∈ members q.subs id ↔ c ∈ members r.subs id))
    (present : ∀ id, client ∈ members q.subs id → subscribes pc = true)
    (forwarding : ∀ id, pc = .forwarding (.attach id) → client ∈ members q.subs id)
    (kept : ∀ id, ∀ c ∈ members r.subs id, c ≠ client → settled r id c = true → last id = some (.attach id) →
      last' id = some (.attach id))
    (mine : ∀ id, client ∈ members q.subs id → stays id pc = true → last' id = some (.attach id))
    (empty : ∀ id, members q.subs id = [] → Pending q id ∨ last' id ≠ some (.attach id)) : Announced q last' := by
  have found : ∀ c, q.handlers.lookup c = if c = client then some pc else r.handlers.lookup c := by
    intro c
    rw [handlers,Table.lookup_insert_eq]
  refine ⟨?_,?_,?_,empty⟩
  · intro id c member
    rw [found]
    by_cases this : c = client
    · subst this
      rw [if_pos rfl]
      exact ⟨pc,rfl,present id member⟩
    · rw [if_neg this]
      exact announced.present id c ((others id c this).mp member)
  · intro c id there
    rw [found] at there
    by_cases this : c = client
    · subst this
      rw [if_pos rfl] at there
      exact forwarding id (Option.some.inj there)
    · rw [if_neg this] at there
      exact (others id c this).mpr (announced.forwarding c id there)
  · intro id c member stay
    rw [settled,found] at stay
    by_cases this : c = client
    · subst this
      rw [if_pos rfl] at stay
      exact mine id member stay
    · rw [if_neg this] at stay
      have old := (others id c this).mp member
      exact kept id c old this stay (announced.watched id c old stay)

theorem pending_insert {r q : Relay} {client id : String} {pc : Pc} (handlers : q.handlers = r.handlers.insert client pc)
    (pending : Pending r id) (mine : ∀ old, r.handlers.lookup client = some old → id ∈ old.pending → id ∈ pc.pending) :
    Pending q id := by
  obtain ⟨c,old,there,listed⟩ := pending
  by_cases this : c = client
  · subst this
    exact ⟨c,pc,by rw [handlers,Table.lookup_insert_eq,if_pos rfl],mine old there listed⟩
  · exact ⟨c,old,by rw [handlers,Table.lookup_insert_eq,if_neg this]; exact there,listed⟩

/-- A handler moves on without touching the sets or the queue. -/
theorem announced_setPc {r q : Relay} {last : String → Option TunnelHandlers.Request} {client : String} {old pc : Pc}
    (announced : Announced r last) (found : r.handlers.lookup client = some old)
    (handlers : q.handlers = r.handlers.insert client pc) (subs : q.subs = r.subs)
    (present : subscribes old = true → subscribes pc = true) (forwards : ∀ id, pc ≠ .forwarding (.attach id))
    (stay : ∀ id, stays id pc = true → stays id old = true)
    (pending : ∀ id, members r.subs id = [] → id ∈ old.pending → id ∈ pc.pending) : Announced q last := by
  refine announced_handler announced handlers (fun id c _ => by rw [subs]) ?_ (fun id there => absurd there (forwards id))
    (fun _ _ _ _ _ known => known) ?_ ?_
  · intro id member
    rw [subs] at member
    obtain ⟨pc',there,on⟩ := announced.present id client member
    cases found.symm.trans there
    exact present on
  · intro id member stay'
    rw [subs] at member
    exact announced.watched id client member (by simp [settled,found,stay id stay'])
  · intro id none_
    rw [subs] at none_
    refine (announced.unwatched id none_).imp_left fun there => pending_insert handlers there ?_
    intro old' at_ listed
    cases found.symm.trans at_
    exact pending id none_ listed

/-- The last message about a session once one more is queued. -/
def lastAfter (last : String → Option TunnelHandlers.Request) (msg : DeviceMsg) (id : String) :
    Option TunnelHandlers.Request :=
  match requestOf msg with
  | some request => if sessionOf request = some id then some request else last id
  | none => last id

theorem announced_connect {r q : Relay} {last : String → Option TunnelHandlers.Request} {client : String}
    (announced : Announced r last) (new : r.handlers.lookup client = none)
    (handlers : q.handlers = r.handlers.insert client .reading) (subs : q.subs = r.subs) : Announced q last := by
  have absent : ∀ id, client ∉ members r.subs id := by
    intro id member
    obtain ⟨pc,there,-⟩ := announced.present id client member
    cases new.symm.trans there
  refine announced_handler announced handlers (fun id c _ => by rw [subs]) (fun _ _ => rfl) (fun _ there => by cases there)
    (fun _ _ _ _ _ known => known) ?_ ?_
  · intro id member
    rw [subs] at member
    exact absurd member (absent id)
  · intro id none_
    rw [subs] at none_
    refine (announced.unwatched id none_).imp_left fun there => pending_insert handlers there ?_
    intro old at_
    cases new.symm.trans at_

theorem announced_attach {r q : Relay} {last : String → Option TunnelHandlers.Request} {client id : String}
    (announced : Announced r last) (found : r.handlers.lookup client = some .reading)
    (handlers : q.handlers = r.handlers.insert client (.forwarding (.attach id))) (subs : q.subs = subscribe r.subs id client) :
    Announced q last := by
  refine announced_handler announced handlers ?_ (fun _ _ => rfl) ?_ (fun _ _ _ _ _ known => known) ?_ ?_
  · intro id' c differs
    rw [subs,mem_subscribe]
    simp [differs]
  · intro id' there
    cases there
    rw [subs,mem_subscribe]
    exact .inr ⟨rfl,rfl⟩
  · intro id' member stay
    rw [subs,mem_subscribe] at member
    rcases member with old | ⟨rfl,-⟩
    · exact announced.watched id' client old (by simp [settled,found,stays])
    · simp [stays] at stay
  · intro id' none_
    have before : members r.subs id' = [] := by
      refine List.eq_nil_iff_forall_not_mem.mpr fun c member => ?_
      have after : c ∈ members q.subs id' := by rw [subs,mem_subscribe]; exact .inl member
      rw [none_] at after
      cases after
    refine (announced.unwatched id' before).imp_left fun there => pending_insert handlers there ?_
    intro old at_ listed
    cases found.symm.trans at_
    cases listed

theorem announced_forward {r q : Relay} {last : String → Option TunnelHandlers.Request} {client : String} {msg : ClientMsg}
    (announced : Announced r last) (found : r.handlers.lookup client = some (.forwarding msg))
    (handlers : q.handlers = r.handlers.insert client .reading) (subs : q.subs = r.subs) :
    Announced q (lastAfter last (.request client msg)) := by
  have after : ∀ id, lastAfter last (.request client msg) id = if msg = .attach id then some (.attach id) else last id := by
    intro id
    cases msg with
    | attach id' =>
      by_cases this : id' = id
      · subst this; simp [lastAfter,requestOf,sessionOf]
      · simp [lastAfter,requestOf,sessionOf,this]
    | kill id' => simp [lastAfter,requestOf]
    | start => simp [lastAfter,requestOf]
    | other => simp [lastAfter,requestOf]
  refine announced_handler announced handlers (fun id c _ => by rw [subs]) (fun _ _ => rfl) (fun _ there => by cases there) ?_ ?_ ?_
  · intro id c _ _ _ known
    rw [after]
    split_ifs
    · rfl
    · exact known
  · intro id member _
    rw [after]
    split_ifs with this
    · rfl
    · rw [subs] at member
      exact announced.watched id client member (by simp [settled,found,stays,this])
  · intro id none_
    rw [subs] at none_
    rw [after]
    split_ifs with this
    · subst this
      have member := announced.forwarding client id found
      rw [none_] at member
      cases member
    · refine (announced.unwatched id none_).imp_left fun there => pending_insert handlers there ?_
      intro old at_ listed
      cases found.symm.trans at_
      cases listed

theorem announced_leave {r q : Relay} {last : String → Option TunnelHandlers.Request} {client : String}
    (announced : Announced r last) (found : r.handlers.lookup client = some .unlisted)
    (handlers : q.handlers = r.handlers.insert client (.detaching (sessionsOf r.subs client)))
    (subs : q.subs = dropClient r.subs client) : Announced q last := by
  have gone : ∀ id, client ∉ members q.subs id := by
    intro id member
    rw [subs,mem_dropClient] at member
    exact member.2 rfl
  refine announced_handler announced handlers ?_ (fun id member => absurd member (gone id)) (fun _ there => by cases there)
    (fun _ _ _ _ _ known => known) (fun id member => absurd member (gone id)) ?_
  · intro id c differs
    rw [subs,mem_dropClient]
    simp [differs]
  · intro id none_
    by_cases mine : client ∈ members r.subs id
    · left
      exact ⟨client,.detaching (sessionsOf r.subs client),by rw [handlers,Table.lookup_insert_eq,if_pos rfl],
        mem_sessionsOf.mpr mine⟩
    · have before : members r.subs id = [] := by
        refine List.eq_nil_iff_forall_not_mem.mpr fun c member => ?_
        have after : c ∈ members q.subs id := by
          rw [subs,mem_dropClient]
          exact ⟨member,by rintro rfl; exact mine member⟩
        rw [none_] at after
        cases after
      refine (announced.unwatched id before).imp_left fun there => pending_insert handlers there ?_
      intro old at_ listed
      cases found.symm.trans at_
      cases listed

theorem announced_sendDetach {r q : Relay} {last : String → Option TunnelHandlers.Request} {client id : String}
    {sessions : List String} (announced : Announced r last) (found : r.handlers.lookup client = some (.sending id sessions))
    (handlers : q.handlers = r.handlers.insert client (.detaching sessions)) (subs : q.subs = r.subs)
    (nobody : ∀ c ∈ members r.subs id, settled r id c = false) : Announced q (lastAfter last (.detach id)) := by
  have after : ∀ id', lastAfter last (.detach id) id' = if id = id' then some (.detach id) else last id' := by
    intro id'
    simp [lastAfter,requestOf,sessionOf]
  have absent : ∀ id', client ∉ members r.subs id' := by
    intro id' member
    obtain ⟨pc,there,on⟩ := announced.present id' client member
    cases found.symm.trans there
    cases on
  refine announced_handler announced handlers (fun id c _ => by rw [subs]) (fun id' member => absurd (subs ▸ member) (absent id'))
    (fun _ there => by cases there) ?_ (fun id' member => absurd (subs ▸ member) (absent id')) ?_
  · intro id' c member _ stay known
    rw [after,if_neg]
    · exact known
    · rintro rfl
      rw [nobody c member] at stay
      cases stay
  · intro id' none_
    rw [subs] at none_
    rw [after]
    split_ifs with this
    · exact .inr (by simp)
    · refine (announced.unwatched id' none_).imp_left fun there => pending_insert handlers there ?_
      intro old at_ listed
      cases found.symm.trans at_
      rcases List.mem_cons.mp listed with same | later
      · exact absurd same.symm this
      · exact later

/-- What the relay queues keeps the last message about every session true. -/
theorem announced_step {r q : Relay} {last : String → Option TunnelHandlers.Request} {a : RelaySubscriptions.Action}
    (announced : Announced r last) (takes : relayTakes a = true)
    (turn : ∀ client delivered, a = .sendDetach client delivered → delivered = true ∧ ∀ id sessions,
      r.handlers.lookup client = some (.sending id sessions) → ∀ c ∈ members r.subs id, settled r id c = false)
    (stepped : RelaySubscriptions.step r a = some q) :
    (q.queue = r.queue ∧ Announced q last) ∨ ∃ msg, q.queue = r.queue ++ [msg] ∧ Announced q (lastAfter last msg) := by
  cases step_move stepped with
  | connect new => exact .inl ⟨rfl,announced_connect announced new rfl rfl⟩
  | @receive client msg found =>
    cases msg with
    | attach id => exact .inl ⟨rfl,announced_attach announced found rfl rfl⟩
    | kill id => cases takes
    | start => cases takes
    | other =>
      exact .inl ⟨rfl,announced_setPc announced found rfl rfl (fun _ => rfl) (by simp) (by simp [stays]) (by simp [Pc.pending])⟩
  | forward found => exact .inr ⟨_,rfl,announced_forward announced found rfl rfl⟩
  | forwardFails found =>
    exact .inl ⟨rfl,announced_setPc announced found rfl rfl (fun _ => rfl) (by simp) (by simp [stays]) (by simp [Pc.pending])⟩
  | disconnect found =>
    exact .inl ⟨rfl,announced_setPc announced found rfl rfl (fun _ => rfl) (by simp) (by simp [stays]) (by simp [Pc.pending])⟩
  | unlist found =>
    exact .inl ⟨rfl,announced_setPc announced found rfl rfl (fun _ => rfl) (by simp) (by simp [stays]) (by simp [Pc.pending])⟩
  | leave found => exact .inl ⟨rfl,announced_leave announced found rfl rfl⟩
  | @checkEmpty client id sessions found there empty =>
    refine .inl ⟨rfl,announced_setPc announced found rfl rfl (by simp [subscribes]) (by simp) (by simp [stays]) ?_⟩
    intro id' _ listed
    by_cases this : id' = id
    · subst this; exact List.mem_cons_self
    · exact List.mem_cons_of_mem _ (mem_without.mpr ⟨listed,this⟩)
  | @checkWatched client id sessions found there watched =>
    refine .inl ⟨rfl,announced_setPc announced found rfl rfl (by simp [subscribes]) (by simp) (by simp [stays]) ?_⟩
    intro id' none_ listed
    exact mem_without.mpr ⟨listed,by rintro rfl; exact watched none_⟩
  | @sendDetach client id sessions found =>
    exact .inr ⟨_,rfl,announced_sendDetach announced found rfl rfl ((turn client true rfl).2 id sessions found)⟩
  | detachLost found => cases (turn _ _ rfl).1
  | finish found =>
    exact .inl ⟨rfl,announced_setPc announced found rfl rfl (by simp [subscribes]) (by simp) (by simp [stays]) (by simp [Pc.pending])⟩
  | take => cases takes
  | started => cases takes
  | closed => cases takes

end

/-! ### Relay and device -/

structure Joined (s : State) : Prop where
  sequential : Sequential s.device
  named : s.device.sessions.lookup "" = none
  announced : Announced s.relay fun id => (requests s id).getLast?

theorem sessions_missing {d e : Device} {a : TunnelHandlers.Action} {id : String} (takes : deviceTakes a = true)
    (stepped : TunnelHandlers.step d a = some e) (missing : d.sessions.lookup id = none) : e.sessions.lookup id = none := by
  have aborted : ∀ other, (d.abortStored other).sessions = d.sessions := by
    intro other
    unfold TunnelHandlers.State.abortStored
    split <;> rfl
  cases TunnelHandlers.step_move stepped with
  | arrive => cases takes
  | create => cases takes
  | createFails => cases takes
  | nameless => exact missing
  | clear => rw [TunnelHandlers.State.withPc,aborted]; exact missing
  | clearKilled => rw [TunnelHandlers.State.withPc,aborted]; exact missing
  | attachShared found session =>
    rw [TunnelHandlers.State.withPc,Table.lookup_insert_eq,if_neg]
    · exact missing
    · rintro rfl; cases missing.symm.trans session
  | attachMissing => exact missing
  | spawn => exact missing
  | startGone => exact missing
  | insert => exact missing
  | detach =>
    rw [TunnelHandlers.State.withPc,Table.lookup_modify]
    split_ifs with this
    · subst this; rw [missing]; rfl
    · exact missing
  | killMissing => cases takes
  | kill => cases takes
  | taskEnds => cases takes
  | reap => exact missing
  | sessionGone => cases takes
  | close => cases takes

theorem requests_device {s : State} {d : Device} (id : String)
    (same : d.handlers.map TunnelHandlers.Handler.request = s.device.handlers.map TunnelHandlers.Handler.request) :
    requests { s with device := d } id = requests s id := by
  simp only [requests,same]

theorem requests_append {s : State} {r : Relay} {msg : RelaySubscriptions.DeviceMsg} (queue : r.queue = s.relay.queue ++ [msg])
    (id : String) : (requests { s with relay := r } id).getLast? = lastAfter (fun id => (requests s id).getLast?) msg id := by
  simp only [requests,queue,List.filterMap_append,← List.append_assoc,List.filter_append,lastAfter]
  cases known : requestOf msg with
  | none => simp [known]
  | some request =>
    by_cases this : sessionOf request = some id
    · simp [known,this]
    · simp [known,this]

theorem requests_deliver {s : State} {msg : RelaySubscriptions.DeviceMsg} {rest : List RelaySubscriptions.DeviceMsg}
    (queue : s.relay.queue = msg :: rest) (id : String) :
    requests ⟨{ s.relay with queue := rest },arrive s.device msg⟩ id = requests s id := by
  unfold requests arrive
  rw [queue]
  cases known : requestOf msg with
  | none => simp [known]
  | some request => simp [known]

theorem joined_step {s t : State} {a : Action} (joined : Joined s) (turn : inTurn s a = true) (stepped : step s a = some t) :
    Joined t := by
  cases a with
  | relay a =>
    simp only [step,Option.ite_none_right_eq_some] at stepped
    obtain ⟨takes,mapped⟩ := stepped
    obtain ⟨q,moved,rfl⟩ := Option.map_eq_some_iff.mp mapped
    refine ⟨joined.sequential,joined.named,?_⟩
    have allowed : ∀ client delivered, a = .sendDetach client delivered → delivered = true ∧ ∀ id sessions,
        s.relay.handlers.lookup client = some (.sending id sessions) →
          ∀ c ∈ RelaySubscriptions.members s.relay.subs id, settled s.relay id c = false := by
      rintro client delivered rfl
      simp only [inTurn,Bool.and_eq_true] at turn
      refine ⟨turn.1,?_⟩
      intro id sessions there c member
      have all := turn.2
      rw [there] at all
      simpa using List.all_eq_true.mp all c member
    rcases announced_step joined.announced takes allowed moved with ⟨queue,announced⟩ | ⟨msg,queue,announced⟩
    · have same : (fun id => (requests { s with relay := q } id).getLast?) = fun id => (requests s id).getLast? := by
        funext id
        simp only [requests,queue]
      rw [same]; exact announced
    · have same : (fun id => (requests { s with relay := q } id).getLast?) =
          lastAfter (fun id => (requests s id).getLast?) msg := funext (requests_append queue)
      rw [same]; exact announced
  | deliver =>
    simp only [step] at stepped
    split at stepped
    · next msg rest queue =>
      cases stepped
      have named : (arrive s.device msg).sessions.lookup "" = none := by
        unfold arrive
        split
        · exact joined.named
        · exact joined.named
      refine ⟨sequential_arrive joined.sequential msg,named,?_⟩
      have same := funext (requests_deliver queue)
      simp only [same]
      obtain ⟨present,forwarding,watched,unwatched⟩ := joined.announced
      exact ⟨present,forwarding,watched,unwatched⟩
    · cases stepped
  | device a =>
    simp only [step,Option.ite_none_right_eq_some] at stepped
    obtain ⟨takes,mapped⟩ := stepped
    obtain ⟨d,moved,rfl⟩ := Option.map_eq_some_iff.mp mapped
    have named := sessions_missing takes moved joined.named
    cases acts : handlerOf a with
    | some n =>
      have waits : ∀ earlier ∈ s.device.handlers.take n, ∀ h, s.device.handlers[n]? = some h →
          sessionOf earlier.request = sessionOf h.request → earlier.pc = .finished := by
        intro earlier member h found same
        simp only [inTurn,acts,List.all_eq_true] at turn
        simpa [found,same] using turn earlier member
      refine ⟨sequential_handler joined.sequential acts moved waits,named,?_⟩
      obtain ⟨h,pc,id,found,set,-⟩ := handler_effect joined.sequential.numbered joined.sequential.placed acts moved
      have requested : d.handlers.map TunnelHandlers.Handler.request =
          s.device.handlers.map TunnelHandlers.Handler.request := by
        obtain ⟨before,after,whole,-,there⟩ := Tasks.set_split found ({ h with pc } : TunnelHandlers.Handler)
        rw [set,there,whole]
        simp
      simp only [fun id => requests_device id requested]
      exact joined.announced
    | none =>
      cases TunnelHandlers.step_move moved with
      | reap up =>
        refine ⟨sequential_reap joined.sequential (TunnelHandlers.numbered_step joined.sequential.numbered moved),named,?_⟩
        exact joined.announced
      | arrive => cases takes
      | create => cases takes
      | createFails => cases takes
      | nameless => cases acts
      | clear => cases acts
      | clearKilled => cases acts
      | attachShared => cases acts
      | attachMissing => cases acts
      | spawn => cases acts
      | startGone => cases acts
      | insert => cases acts
      | detach => cases acts
      | killMissing => cases takes
      | kill => cases takes
      | taskEnds => cases takes
      | sessionGone => cases takes
      | close => cases takes

theorem joined_start {sessions : Table String Nat} (named : sessions.lookup "" = none) : Joined (start sessions) := by
  refine ⟨⟨TunnelHandlers.numbered_start sessions,?_,List.Pairwise.nil,?_⟩,named,⟨?_,?_,?_,?_⟩⟩
  · intro h member; cases member
  · intro id
    exact ⟨fun task there => (by cases there),rfl⟩
  · intro id client member; cases member
  · intro client id there; cases there
  · intro id client member; cases member
  · intro id _; exact .inr (by simp [start,requests,TunnelHandlers.start,RelaySubscriptions.start])

/-- When everything is processed, the handler that ran last is that of the last message. -/
theorem last_processed {s : State} (processed : Processed s) (id : String) :
    (requests s id).getLast? = (lastBegun s.device id).map TunnelHandlers.Handler.request := by
  obtain ⟨queue,handlers,-⟩ := processed
  have all : s.device.handlers.filter (begun id) = s.device.handlers.filter fun h => sessionOf h.request = some id := by
    refine List.filter_congr ?_
    intro h member
    simp [begun,handlers h member]
  rw [requests,lastBegun,all,queue]
  simp [List.filter_map,Function.comp_def]

theorem joined_agreed {s : State} (joined : Joined s) (processed : Processed s) : Agreed s := by
  have finished : ∀ id, ∀ h ∈ lastBegun s.device id, h.pc = .finished := by
    intro id h last
    exact processed.2.1 h (List.mem_filter.mp (List.mem_of_getLast? last)).1
  refine ⟨?_,?_⟩
  · intro id count session some_
    obtain ⟨client,member⟩ := List.exists_mem_of_ne_nil _ some_
    obtain ⟨pc,there,on⟩ := joined.announced.present id client member
    have reading : pc = .reading := by
      rcases processed.2.2 client pc there with reading | gone
      · exact reading
      · rw [gone] at on; cases on
    subst reading
    have last := joined.announced.watched id client member (by simp [settled,there,stays])
    rw [last_processed processed] at last
    obtain ⟨h,begun_,request⟩ := Option.map_eq_some_iff.mp last
    have phase := joined.sequential.phase id
    have done := finished id h begun_
    rw [begun_] at phase
    obtain ⟨_,_⟩ := h
    cases request
    cases done
    have served : Served s.device id := by
      unfold Phase at phase
      rw [if_neg] at phase
      · exact phase
      · rintro (rfl | missing)
        · cases session.symm.trans joined.named
        · cases session.symm.trans missing
    obtain ⟨task,only,-,count',session',one⟩ := served
    cases session.symm.trans session'
    exact ⟨TunnelHandlers.running_iff.mpr ⟨task,only.1⟩,one⟩
  · intro id none_
    have rests : Rests s.device id := by
      have phase := joined.sequential.phase id
      rcases joined.announced.unwatched id none_ with ⟨client,pc,there,listed⟩ | other
      · rcases processed.2.2 client pc there with rfl | rfl <;> cases listed
      · rw [last_processed processed] at other
        have done := finished id
        cases begun_ : lastBegun s.device id with
        | none => rw [begun_] at phase; exact phase
        | some h =>
          rw [begun_] at phase other
          have place := joined.sequential.placed h (List.mem_filter.mp (List.mem_of_getLast? begun_)).1
          have at_ := done h begun_
          have mine : sessionOf h.request = some id := by
            have here := (List.mem_filter.mp (List.mem_of_getLast? begun_)).2
            simp only [begun,Bool.and_eq_true,decide_eq_true_eq] at here
            exact here.1
          obtain ⟨request,pc⟩ := h
          cases at_
          cases request with
          | attach id' => cases mine; exact absurd rfl other
          | detach id' => exact phase
          | start => exact place.elim
          | kill id' => exact place.elim
    rw [← Bool.not_eq_true,TunnelHandlers.running_iff]
    rintro ⟨task,there⟩
    exact rests.1 task there

/-- When a detach is queued only before the attaches of those who stay, and the
    device handles a session's messages one after another, relay and device agree
    on who is watching whenever all messages are processed. -/
theorem relay_device_agree {sessions : Table String Nat} (named : sessions.lookup "" = none) (as : List Action)
    (turn : Along step (fun s a => inTurn s a = true) (start sessions) as) :
    Always step AgreesWhenProcessed (start sessions) as :=
  always_of_keeps (fun _ _ _ => joined_step) (fun _ joined => joined_agreed joined) (joined_start named) turn

/-- A client attaches and leaves; another one attaches after the detach is queued. -/
def attachesAfter : List Action :=
  [.relay (.connect "a"),.relay (.receive "a" (.attach "s")),.relay (.forward "a"),.deliver,.device (.clear 0),
    .device (.attachShared 0),.device (.spawn 0),.device (.insert 0),.relay (.disconnect "a"),.relay (.unlist "a"),
    .relay (.leave "a"),.relay (.check "a" "s"),.relay (.connect "b"),.relay (.receive "b" (.attach "s")),
    .relay (.sendDetach "a" true),.relay (.finish "a"),.relay (.forward "b"),.deliver,.deliver,.device (.clear 1),
    .device (.detach 1),.device (.clear 2),.device (.attachShared 2),.device (.spawn 2),.device (.insert 2)]

theorem relay_device_agree_attachesAfter :
    Always step AgreesWhenProcessed (start (AList.insert "s" 0 ∅)) attachesAfter ∧
      (run step (start (AList.insert "s" 0 ∅)) attachesAfter).map (fun t =>
        (watchers t "s",TunnelHandlers.running t.device "s",t.device.sessions.lookup "s",t.relay.queue)) =
        some (["b"],true,some 1,[]) :=
  ⟨relay_device_agree (by decide) attachesAfter (by decide +kernel),by decide +kernel⟩

/-- A client leaves; another one attaches between the relay's look at the
    subscribers and its detach. -/
def attachesBetween : List Action :=
  [.relay (.connect "a"),.relay (.receive "a" (.attach "s")),.relay (.forward "a"),.deliver,.device (.clear 0),
    .device (.attachShared 0),.device (.spawn 0),.device (.insert 0),.relay (.disconnect "a"),.relay (.unlist "a"),
    .relay (.leave "a"),.relay (.check "a" "s"),.relay (.connect "b"),.relay (.receive "b" (.attach "s")),.relay (.forward "b"),
    .relay (.sendDetach "a" true),.relay (.finish "a"),.deliver,.deliver,.device (.clear 1),.device (.attachShared 1),
    .device (.spawn 1),.device (.insert 1),.device (.clear 2),.device (.detach 2)]

theorem watcher_detached :
    ∃ t, run step (start (AList.insert "s" 0 ∅)) attachesBetween = some t ∧ Processed t ∧ watchers t "s" = ["b"] ∧
      t.device.sessions.lookup "s" = some 0 ∧ TunnelHandlers.running t.device "s" = false ∧
      ¬ Always step AgreesWhenProcessed (start (AList.insert "s" 0 ∅)) attachesBetween := by
  have known : (run step (start (AList.insert "s" 0 ∅)) attachesBetween).map (fun t =>
      (t.relay.queue,watchers t "s",t.device.sessions.lookup "s",TunnelHandlers.running t.device "s")) =
      some ([],["b"],some 0,false) := by decide +kernel
  have places : (run step (start (AList.insert "s" 0 ∅)) attachesBetween).map (fun t =>
      (t.device.handlers.map TunnelHandlers.Handler.pc,t.relay.handlers.keys,
        t.relay.handlers.lookup "a",t.relay.handlers.lookup "b")) =
      some ([.finished,.finished,.finished],["a","b"],some .gone,some .reading) := by decide +kernel
  obtain ⟨t,ran,facts⟩ := Option.map_eq_some_iff.mp known
  rw [ran] at places
  simp only [Prod.mk.injEq,Option.map_some,Option.some.injEq] at facts places
  obtain ⟨queue,subscribers,session,running⟩ := facts
  obtain ⟨pcs,clients,first,second⟩ := places
  have processed : Processed t := by
    refine ⟨queue,?_,?_⟩
    · intro h member
      have there : h.pc ∈ t.device.handlers.map TunnelHandlers.Handler.pc := List.mem_map_of_mem member
      rw [pcs] at there
      simpa using there
    · intro client pc there
      have member : client ∈ t.relay.handlers.keys := AList.mem_keys.mpr (AList.lookup_isSome.mp (by rw [there]; rfl))
      rw [clients] at member
      simp only [List.mem_cons,List.not_mem_nil,or_false] at member
      rcases member with rfl | rfl
      · exact .inr (Option.some.inj (there.symm.trans first))
      · exact .inl (Option.some.inj (there.symm.trans second))
  refine ⟨t,ran,processed,subscribers,session,running,?_⟩
  intro all
  have agreed := (always_last all ran processed).watched "s" 0 session (by rw [subscribers]; simp)
  rw [running] at agreed
  cases agreed.1

end Sctl.Watchers
