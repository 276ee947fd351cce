import Sctl.Subscribers
import Sctl.Tables

/-!
One session that several clients of the relay watch (`tunnel/client.rs`,
`tunnel/relay.rs`). The device runs one subscriber for all of them and the relay
passes on what it sends to every client that is subscribed. A client that
attaches gets the entries after its `since` in a reply of its own; the device
then replaces the subscriber by one that goes on where the reply ended.
-/
namespace Sctl.SharedSubscriber
open Sctl.SessionBuffer Sctl.Subscribers Sctl.Runs

/-- A `tunnel_subscriber_task`: its cursor, and what it has read and not yet
    sent, one list for each message. -/
structure Subscriber where
  cursor : Nat
  inHand : List (List OutputEntry)
deriving DecidableEq

/-- Where the handler of a `session.attach` stands. -/
inductive Pc
  | waiting
  | cleared
  /-- It has the buffer and has sent `session.attached`. -/
  | replied (entries : List OutputEntry) (dropped : Nat)
  | holding (task : Nat)
  | finished
deriving DecidableEq

structure Attach where
  since : Nat
  pc : Pc
deriving DecidableEq

/-- The last entry of the reply, or the `since` of the request. -/
def lastSeq (since : Nat) (entries : List OutputEntry) : Nat := (entries.getLast?.map OutputEntry.seq).getD since

structure State where
  buffer : OutputBuffer
  tasks : Table Nat Subscriber
  nextTask : Nat
  stored : Option Nat
  handlers : List Attach
  /-- The numbers of the entries sent on the stream that all subscribed clients get. -/
  streamed : List Nat

inductive Action
  | push (stream : OutputStream) (data : String) (now : Nat)
  | attach (since : Nat)
  | clear (n : Nat)
  | reply (n : Nat)
  | spawn (n : Nat)
  | insert (n : Nat)
  | poll (task : Nat)
  | send (task : Nat)

/-- A subscriber runs and has sent everything up to its cursor. -/
def start (buffer : OutputBuffer) (cursor : Nat) : State :=
  ⟨buffer,AList.insert 0 ⟨cursor,[]⟩ ∅,1,some 0,[],[]⟩

/-- The last number that is sent when nothing more is read. -/
def Subscriber.reach (sub : Subscriber) : Nat := lastSeq sub.cursor sub.inHand.flatten

def State.withPc (s : State) (n : Nat) (h : Attach) (pc : Pc) : State :=
  { s with handlers := s.handlers.set n { h with pc } }

def step (s : State) : Action → Option State
  | .push stream data now => some { s with buffer := s.buffer.push stream data now }
  | .attach since => some { s with handlers := s.handlers ++ [⟨since,.waiting⟩] }
  | .clear n =>
    match s.handlers[n]? with
    | some h =>
      match h.pc with
      | .waiting =>
        some ({ s with
          tasks := match s.stored with | some task => s.tasks.erase task | none => s.tasks
          stored := none }.withPc n h .cleared)
      | _ => none
    | none => none
  | .reply n =>
    match s.handlers[n]? with
    | some h =>
      match h.pc with
      | .cleared => some (s.withPc n h (.replied (s.buffer.readSince h.since).1 (s.buffer.readSince h.since).2))
      | _ => none
    | none => none
  | .spawn n =>
    match s.handlers[n]? with
    | some h =>
      match h.pc with
      | .replied entries _ =>
        some ({ s with
          tasks := s.tasks.insert s.nextTask ⟨lastSeq h.since entries,[]⟩
          nextTask := s.nextTask + 1 }.withPc n h (.holding s.nextTask))
      | _ => none
    | none => none
  | .insert n =>
    match s.handlers[n]? with
    | some h =>
      match h.pc with
      | .holding task => some ({ s with stored := some task }.withPc n h .finished)
      | _ => none
    | none => none
  | .poll task =>
    match s.tasks.lookup task with
    | some ⟨cursor,[]⟩ =>
      if s.buffer.hasEntriesSince cursor then
        some { s with tasks := s.tasks.insert task ⟨cursor,groups (s.buffer.readSince cursor).1⟩ }
      else none
    | _ => none
  -- the cursor moves when the last message of what was read is sent
  | .send task =>
    match s.tasks.lookup task with
    | some ⟨cursor,batch :: rest⟩ =>
      some { s with
        tasks := s.tasks.insert task ⟨if rest = [] then lastSeq cursor batch else cursor,rest⟩
        streamed := s.streamed ++ batch.map OutputEntry.seq }
    | _ => none

/-! ### What is on its way to the clients -/

/-- The subscriber has the entry in hand or has yet to read it. -/
def Subscriber.willSend (sub : Subscriber) (seq : Nat) : Bool :=
  (sub.inHand.flatten.map OutputEntry.seq).contains seq || sub.reach < seq

/-- The handler is about to start a subscriber that will read the entry. -/
def Attach.willSend (h : Attach) (seq : Nat) : Bool :=
  match h.pc with
  | .replied entries _ => lastSeq h.since entries < seq
  | _ => false

/-- The entry is sent, or on its way with a subscriber other than the one left out. -/
def providedWithout (s : State) (leftOut : Option Nat) (seq : Nat) : Bool :=
  s.streamed.contains seq || s.tasks.entries.any (fun e => leftOut ≠ some e.1 && e.2.willSend seq) ||
    s.handlers.any (·.willSend seq)

def provided (s : State) (seq : Nat) : Bool := providedWithout s none seq

/-- The clients that had everything up to `c` are sent, or will be, every later
    entry that the buffer still holds. -/
def Covered (c : Nat) (s : State) : Prop := ∀ e ∈ s.buffer.entries, c < e.seq → provided s e.seq = true

/-- The subscriber is taken off only when all that is held is provided for
    without it, and an entry is pushed only when a subscriber will read it. -/
def handsOver (c : Nat) (s : State) : Action → Bool
  | .clear _ => s.buffer.entries.all fun e => e.seq ≤ c || providedWithout s s.stored e.seq
  | .push _ _ _ => provided s s.buffer.nextSeq
  | _ => true

/-! ### One step -/

theorem lastSeq_append (since : Nat) (first second : List OutputEntry) :
    lastSeq since (first ++ second) = lastSeq (lastSeq since first) second := by
  rcases List.eq_nil_or_concat second with rfl | ⟨rest,e,rfl⟩
  · simp [lastSeq]
  · rw [List.concat_eq_append,← List.append_assoc]; simp [lastSeq]

theorem lastSeq_nonempty {entries : List OutputEntry} (some_ : entries ≠ []) (since since' : Nat) :
    lastSeq since entries = lastSeq since' entries := by
  rcases List.eq_nil_or_concat entries with rfl | ⟨rest,e,rfl⟩
  · exact absurd rfl some_
  · simp [lastSeq]

theorem willSend_iff {sub : Subscriber} {seq : Nat} :
    sub.willSend seq = true ↔ (∃ e ∈ sub.inHand.flatten, e.seq = seq) ∨ sub.reach < seq := by
  simp only [Subscriber.willSend,Bool.or_eq_true,List.contains_iff_mem,List.mem_map,decide_eq_true_eq]

theorem providedWithout_iff {s : State} {leftOut : Option Nat} {seq : Nat} :
    providedWithout s leftOut seq = true ↔ seq ∈ s.streamed ∨
      (∃ task sub, leftOut ≠ some task ∧ s.tasks.lookup task = some sub ∧ sub.willSend seq = true) ∨
      ∃ h ∈ s.handlers, h.willSend seq = true := by
  simp only [providedWithout,Bool.or_eq_true,List.contains_iff_mem,List.any_eq_true,Bool.and_eq_true,decide_eq_true_eq,or_assoc]
  refine or_congr_right (or_congr_left ?_)
  constructor
  · rintro ⟨⟨task,sub⟩,member,other,will⟩; exact ⟨task,sub,other,Table.lookup_eq_some_iff.mpr member,will⟩
  · rintro ⟨task,sub,other,found,will⟩; exact ⟨⟨task,sub⟩,Table.lookup_eq_some_iff.mp found,other,will⟩

theorem provided_iff {s : State} {seq : Nat} :
    provided s seq = true ↔ seq ∈ s.streamed ∨
      (∃ task sub, s.tasks.lookup task = some sub ∧ sub.willSend seq = true) ∨ ∃ h ∈ s.handlers, h.willSend seq = true := by
  rw [provided,providedWithout_iff]; simp

/-- A handler moves on without giving up an entry, the rest stays. -/
theorem handlers_willSend {handlers : List Attach} {n : Nat} {h h' : Attach} {seq : Nat} (found : handlers[n]? = some h)
    (given : h.willSend seq = true → h'.willSend seq = true) (will : ∃ g ∈ handlers, g.willSend seq = true) :
    ∃ g ∈ handlers.set n h', g.willSend seq = true := by
  obtain ⟨g,member,will⟩ := will
  obtain ⟨m,at_⟩ := List.getElem?_of_mem member
  have bound := (List.getElem?_eq_some_iff.mp found).1
  by_cases same : m = n
  · subst same
    cases found.symm.trans at_
    exact ⟨h',List.mem_set bound h',given will⟩
  · exact ⟨g,List.mem_of_getElem? (by rw [Tasks.getElem?_set_eq found,if_neg same]; exact at_),will⟩

/-- What runs of the model keep: messages in hand are not empty, and `c` was reached. -/
structure Sending (c : Nat) (s : State) : Prop where
  reached : c < s.buffer.nextSeq
  nonempty : ∀ task sub, s.tasks.lookup task = some sub → ∀ batch ∈ sub.inHand, batch ≠ []
  numbered : ∀ task sub, s.tasks.lookup task = some sub → task < s.nextTask

theorem reach_send {cursor : Nat} {batch : List OutputEntry} {rest : List (List OutputEntry)} (nonempty : ∀ g ∈ rest, g ≠ []) :
    (Subscriber.mk (if rest = [] then lastSeq cursor batch else cursor) rest).reach =
      (Subscriber.mk cursor (batch :: rest)).reach := by
  simp only [Subscriber.reach,List.flatten_cons,lastSeq_append]
  cases rest with
  | nil => simp [lastSeq]
  | cons first others =>
    refine lastSeq_nonempty ?_ _ _
    have some_ := nonempty first List.mem_cons_self
    simp [some_]

/-- What a step must not lose when the buffer stays: who would send an entry is
    replaced by somebody who will, or has sent it. -/
theorem covered_mono {c : Nat} {s t : State} (covered : Covered c s) (buffer : t.buffer = s.buffer)
    (streamed : ∀ seq ∈ s.streamed, seq ∈ t.streamed)
    (tasks : ∀ e ∈ s.buffer.entries, ∀ task sub, s.tasks.lookup task = some sub → sub.willSend e.seq = true →
      provided t e.seq = true)
    (handlers : ∀ seq, (∃ h ∈ s.handlers, h.willSend seq = true) → provided t seq = true) : Covered c t := by
  intro e member after
  rw [buffer] at member
  rcases provided_iff.mp (covered e member after) with sent | ⟨task,sub,found,will⟩ | held
  · exact provided_iff.mpr (.inl (streamed e.seq sent))
  · exact tasks e member task sub found will
  · exact handlers e.seq held

/-- A subscriber moves on; the entries that it no longer has to send were sent. -/
theorem covered_task {c : Nat} {s : State} {task : Nat} {old new : Subscriber} {sent : List Nat} (covered : Covered c s)
    (found : s.tasks.lookup task = some old)
    (given : ∀ e ∈ s.buffer.entries, old.willSend e.seq = true → e.seq ∈ sent ∨ new.willSend e.seq = true) :
    Covered c { s with tasks := s.tasks.insert task new, streamed := s.streamed ++ sent } := by
  refine covered_mono covered rfl ?_ ?_ ?_
  · intro seq member; exact List.mem_append_left _ member
  · intro e member task' sub there will
    rw [provided_iff]
    by_cases same : task' = task
    · subst same
      cases found.symm.trans there
      rcases given e member will with now | later
      · exact .inl (List.mem_append_right _ now)
      · exact .inr (.inl ⟨task',new,by rw [Table.lookup_insert_eq,if_pos rfl],later⟩)
    · exact .inr (.inl ⟨task',sub,by rw [Table.lookup_insert_eq,if_neg same]; exact there,will⟩)
  · intro seq held; exact provided_iff.mpr (.inr (.inr held))

/-- A push leaves the entries covered exactly when a subscriber will read the new one. -/
theorem covered_push {c : Nat} {s : State} {stream : OutputStream} {data : String} {now : Nat} (covered : Covered c s)
    (reached : c < s.buffer.nextSeq) :
    Covered c { s with buffer := s.buffer.push stream data now } ↔ provided s s.buffer.nextSeq = true := by
  have entries : (s.buffer.push stream data now).entries = s.buffer.kept ++ [⟨s.buffer.nextSeq,stream,data,now⟩] := rfl
  constructor
  · intro after
    exact after ⟨s.buffer.nextSeq,stream,data,now⟩ (by rw [entries]; simp) reached
  · intro new e member after
    rw [entries] at member
    rcases List.mem_append.mp member with kept | last
    · have old : e ∈ s.buffer.entries := by
        unfold OutputBuffer.kept at kept
        split at kept
        · exact List.mem_of_mem_drop kept
        · exact kept
      exact covered e old after
    · rw [List.mem_singleton.mp last]; exact new

/-- Taking the subscriber off leaves the entries covered exactly when they are
    provided for without it. -/
theorem covered_clear {c : Nat} {s t : State} {n : Nat} {h h' : Attach} (found : s.handlers[n]? = some h)
    (none_ : ∀ seq, h.willSend seq = false) (handlers : t.handlers = s.handlers.set n h')
    (none' : ∀ seq, h'.willSend seq = false) (buffer : t.buffer = s.buffer) (streamed : t.streamed = s.streamed)
    (tasks : ∀ task, t.tasks.lookup task = if s.stored = some task then none else s.tasks.lookup task) :
    Covered c t ↔ handsOver c s (.clear n) = true := by
  have same : ∀ seq, provided t seq = true ↔ providedWithout s s.stored seq = true := by
    intro seq
    rw [provided_iff,providedWithout_iff,streamed]
    refine or_congr_right (or_congr ?_ ?_)
    · refine exists_congr fun task => exists_congr fun sub => ?_
      rw [tasks]
      by_cases this : s.stored = some task
      · simp [this]
      · simp [this]
    · rw [handlers]
      constructor
      · rintro ⟨g,member,will⟩
        rcases List.mem_or_eq_of_mem_set member with old | rfl
        · exact ⟨g,old,will⟩
        · rw [none' seq] at will; cases will
      · exact handlers_willSend found fun will => by rw [none_ seq] at will; cases will
  simp only [Covered,buffer,same,handsOver,List.all_eq_true,Bool.or_eq_true,decide_eq_true_eq]
  refine forall_congr' fun e => forall_congr' fun _ => ?_
  constructor
  · intro after
    by_cases early : e.seq ≤ c
    · exact .inl early
    · exact .inr (after (by omega))
  · rintro (early | given) after
    · omega
    · exact given

theorem covered_handler {c : Nat} {s t : State} {n : Nat} {h h' : Attach} (covered : Covered c s)
    (found : s.handlers[n]? = some h) (handlers : t.handlers = s.handlers.set n h') (buffer : t.buffer = s.buffer)
    (streamed : t.streamed = s.streamed)
    (tasks : ∀ task sub, s.tasks.lookup task = some sub → t.tasks.lookup task = some sub)
    (given : ∀ seq, h.willSend seq = true → h'.willSend seq = true ∨
      ∃ task sub, t.tasks.lookup task = some sub ∧ sub.willSend seq = true) : Covered c t := by
  refine covered_mono covered buffer (by rw [streamed]; exact fun _ => id) ?_ ?_
  · intro e _ task sub there will
    exact provided_iff.mpr (.inr (.inl ⟨task,sub,tasks task sub there,will⟩))
  · rintro seq ⟨g,member,will⟩
    rw [provided_iff,handlers]
    obtain ⟨m,at_⟩ := List.getElem?_of_mem member
    by_cases same : m = n
    · subst same
      cases found.symm.trans at_
      rcases given seq will with here | there
      · exact .inr (.inr ⟨h',List.mem_set (List.getElem?_eq_some_iff.mp found).1 h',here⟩)
      · exact .inr (.inl there)
    · exact .inr (.inr ⟨g,List.mem_of_getElem? (by rw [Tasks.getElem?_set_eq found,if_neg same]; exact at_),will⟩)

theorem sending_task {c : Nat} {s : State} {task : Nat} {old new : Subscriber} (streamed : List Nat) (sending : Sending c s)
    (found : s.tasks.lookup task = some old) (nonempty : ∀ batch ∈ new.inHand, batch ≠ []) :
    Sending c { s with tasks := s.tasks.insert task new, streamed := streamed } := by
  refine ⟨sending.reached,?_,?_⟩
  · intro task' sub there
    rw [Table.lookup_insert_eq] at there
    by_cases same : task' = task
    · rw [if_pos same] at there; cases there; exact nonempty
    · rw [if_neg same] at there; exact sending.nonempty task' sub there
  · intro task' sub there
    rw [Table.lookup_insert_eq] at there
    by_cases same : task' = task
    · subst same; exact sending.numbered task' old found
    · rw [if_neg same] at there; exact sending.numbered task' sub there

theorem sending_step {c : Nat} {s t : State} {a : Action} (sending : Sending c s) (stepped : step s a = some t) :
    Sending c t := by
  have ⟨reached,nonempty,numbered⟩ := sending
  cases a with
  | push stream data now => cases stepped; exact ⟨Nat.lt_succ_of_lt reached,nonempty,numbered⟩
  | attach since => cases stepped; exact ⟨reached,nonempty,numbered⟩
  | clear n =>
    simp only [step] at stepped
    split at stepped
    · split at stepped
      · cases stepped
        have fewer : ∀ task sub, AList.lookup task (match s.stored with | some task => s.tasks.erase task | none => s.tasks) =
            some sub → s.tasks.lookup task = some sub := by
          intro task sub found
          split at found
          · rw [Table.lookup_erase_eq] at found
            split_ifs at found
            exact found
          · exact found
        exact ⟨reached,fun task sub found => nonempty task sub (fewer task sub found),
          fun task sub found => numbered task sub (fewer task sub found)⟩
      · cases stepped
    · cases stepped
  | reply n =>
    simp only [step] at stepped
    split at stepped
    · split at stepped
      · cases stepped; exact ⟨reached,nonempty,numbered⟩
      · cases stepped
    · cases stepped
  | spawn n =>
    simp only [step] at stepped
    split at stepped
    · split at stepped
      · cases stepped
        refine ⟨reached,?_,?_⟩
        · intro task sub found
          rw [State.withPc,Table.lookup_insert_eq] at found
          split_ifs at found
          · cases found; simp
          · exact nonempty task sub found
        · intro task sub found
          rw [State.withPc,Table.lookup_insert_eq] at found
          show task < s.nextTask + 1
          split_ifs at found with new
          · omega
          · have bound := numbered task sub found
            omega
      · cases stepped
    · cases stepped
  | insert n =>
    simp only [step] at stepped
    split at stepped
    · split at stepped
      · cases stepped; exact ⟨reached,nonempty,numbered⟩
      · cases stepped
    · cases stepped
  | poll task =>
    simp only [step] at stepped
    split at stepped
    · next cursor found =>
      split_ifs at stepped
      cases stepped
      exact sending_task s.streamed sending found (groupFrom_nonempty [] _)
    · cases stepped
  | send task =>
    simp only [step] at stepped
    split at stepped
    · next cursor batch rest found =>
      cases stepped
      exact sending_task _ sending found fun g member => nonempty task _ found g (List.mem_cons_of_mem batch member)
    · cases stepped

theorem covered_step {c : Nat} {s t : State} {a : Action} (sending : Sending c s) (covered : Covered c s)
    (stepped : step s a = some t) : Covered c t ↔ handsOver c s a = true := by
  cases a with
  | push stream data now => cases stepped; exact covered_push covered sending.reached
  | attach since =>
    cases stepped
    refine ⟨fun _ => rfl,fun _ => covered_mono covered rfl (fun _ => id) ?_ ?_⟩
    · intro e _ task sub found will; exact provided_iff.mpr (.inr (.inl ⟨task,sub,found,will⟩))
    · rintro seq ⟨h,member,will⟩; exact provided_iff.mpr (.inr (.inr ⟨h,List.mem_append_left _ member,will⟩))
  | clear n =>
    simp only [step] at stepped
    split at stepped
    · next h found =>
      split at stepped
      · next waiting =>
        cases stepped
        refine covered_clear found (by simp [Attach.willSend,waiting]) rfl (by simp [Attach.willSend]) rfl rfl ?_
        intro task
        show AList.lookup task (match s.stored with | some task => s.tasks.erase task | none => s.tasks) = _
        split
        · next old => rw [Table.lookup_erase_eq]; simp [old,eq_comm]
        · next none_ => simp [none_]
      · cases stepped
    · cases stepped
  | reply n =>
    simp only [step] at stepped
    split at stepped
    · next h found =>
      split at stepped
      · next cleared =>
        cases stepped
        exact ⟨fun _ => rfl,fun _ => covered_handler covered found rfl rfl rfl (fun _ _ => id) (by simp [Attach.willSend,cleared])⟩
      · cases stepped
    · cases stepped
  | spawn n =>
    simp only [step] at stepped
    split at stepped
    · next h found =>
      split at stepped
      · next entries dropped replied =>
        cases stepped
        refine ⟨fun _ => rfl,fun _ => covered_handler covered found rfl rfl rfl ?_ ?_⟩
        · intro task sub there
          have bound := sending.numbered task sub there
          rw [State.withPc,Table.lookup_insert_eq,if_neg (by omega)]
          exact there
        · intro seq will
          right
          refine ⟨s.nextTask,⟨lastSeq h.since entries,[]⟩,by rw [State.withPc,Table.lookup_insert_eq,if_pos rfl],?_⟩
          rw [willSend_iff]
          right
          show lastSeq h.since entries < seq
          simpa [Attach.willSend,replied] using will
      · cases stepped
    · cases stepped
  | insert n =>
    simp only [step] at stepped
    split at stepped
    · next h found =>
      split at stepped
      · next task holding =>
        cases stepped
        exact ⟨fun _ => rfl,fun _ => covered_handler covered found rfl rfl rfl (fun _ _ => id) (by simp [Attach.willSend,holding])⟩
      · cases stepped
    · cases stepped
  | poll task =>
    simp only [step] at stepped
    split at stepped
    · next cursor found =>
      split_ifs at stepped
      cases stepped
      refine ⟨fun _ => rfl,fun _ => ?_⟩
      have polled := @covered_task c s task ⟨cursor,[]⟩ ⟨cursor,groups (s.buffer.readSince cursor).1⟩ [] covered found ?_
      · simpa using polled
      · intro e member will
        have later : cursor < e.seq := by simpa [willSend_iff,Subscriber.reach,lastSeq] using will
        right
        rw [willSend_iff,groups_flatten]
        exact .inl ⟨e,List.mem_filter.mpr ⟨member,by simpa using later⟩,rfl⟩
    · cases stepped
  | send task =>
    simp only [step] at stepped
    split at stepped
    · next cursor batch rest found =>
      cases stepped
      refine ⟨fun _ => rfl,fun _ => covered_task covered found ?_⟩
      intro e _ will
      have nonempty := sending.nonempty task _ found
      rw [willSend_iff,reach_send fun g member => nonempty g (List.mem_cons_of_mem batch member)]
      rcases willSend_iff.mp will with ⟨e',member,same⟩ | beyond
      · rw [List.flatten_cons] at member
        rcases List.mem_append.mp member with now | later
        · exact .inl (List.mem_map.mpr ⟨e',now,same⟩)
        · exact .inr (.inl ⟨e',later,same⟩)
      · exact .inr (.inr beyond)
    · cases stepped

/-! ### What is on its way arrives -/

/-- A step of a subscriber, or of a handler that starts one. -/
def carries : Action → Bool
  | .spawn _ => true
  | .poll _ => true
  | .send _ => true
  | _ => false

theorem step_send {s : State} {task cursor : Nat} {batch : List OutputEntry} {rest : List (List OutputEntry)}
    (found : s.tasks.lookup task = some ⟨cursor,batch :: rest⟩) :
    ∃ t, step s (.send task) = some t ∧ t.buffer = s.buffer ∧ t.streamed = s.streamed ++ batch.map OutputEntry.seq ∧
      t.tasks.lookup task = some ⟨if rest = [] then lastSeq cursor batch else cursor,rest⟩ := by
  simp only [step,found]
  exact ⟨_,rfl,rfl,rfl,by rw [Table.lookup_insert_eq,if_pos rfl]⟩

theorem step_poll {s : State} {task cursor : Nat} (found : s.tasks.lookup task = some ⟨cursor,[]⟩)
    (more : s.buffer.hasEntriesSince cursor = true) :
    ∃ t, step s (.poll task) = some t ∧ t.tasks.lookup task = some ⟨cursor,groups (s.buffer.readSince cursor).1⟩ := by
  simp only [step,found,more,if_true]
  exact ⟨_,rfl,by rw [Table.lookup_insert_eq,if_pos rfl]⟩

/-- A subscriber can send all that it has in hand. -/
theorem sends_all {s : State} {task cursor : Nat} {inHand : List (List OutputEntry)}
    (found : s.tasks.lookup task = some ⟨cursor,inHand⟩) (nonempty : ∀ batch ∈ inHand, batch ≠ []) :
    ∃ bs u, (∀ a ∈ bs, carries a = true) ∧ run step s bs = some u ∧ u.buffer = s.buffer ∧
      u.tasks.lookup task = some ⟨lastSeq cursor inHand.flatten,[]⟩ ∧ (∀ seq ∈ s.streamed, seq ∈ u.streamed) ∧
      ∀ e ∈ inHand.flatten, e.seq ∈ u.streamed := by
  induction inHand generalizing s cursor with
  | nil => exact ⟨[],s,by simp,rfl,rfl,found,fun _ => id,by simp⟩
  | cons batch rest ih =>
    obtain ⟨t,stepped,same,streamed,next⟩ := step_send found
    have later : ∀ g ∈ rest, g ≠ [] := fun g member => nonempty g (List.mem_cons_of_mem batch member)
    obtain ⟨bs,u,all,ran,buffer,there,kept,sent⟩ := ih next later
    refine ⟨.send task :: bs,u,List.forall_mem_cons.mpr ⟨rfl,all⟩,run_cons_iff.mpr ⟨t,stepped,ran⟩,buffer.trans same,?_,?_,?_⟩
    · rw [there]
      exact congrArg (fun c => some (Subscriber.mk c [])) (reach_send later)
    · intro seq member
      exact kept seq (by rw [streamed]; exact List.mem_append_left _ member)
    · intro e member
      rw [List.flatten_cons] at member
      rcases List.mem_append.mp member with now | after
      · exact kept e.seq (by rw [streamed]; exact List.mem_append_right _ (List.mem_map_of_mem now))
      · exact sent e after

/-- An entry that the buffer holds beyond a subscriber's cursor can be read and sent. -/
theorem reads_all {s : State} {task cursor : Nat} {e : OutputEntry} (found : s.tasks.lookup task = some ⟨cursor,[]⟩)
    (member : e ∈ s.buffer.entries) (later : cursor < e.seq) :
    ∃ bs u, (∀ a ∈ bs, carries a = true) ∧ run step s bs = some u ∧ e.seq ∈ u.streamed := by
  have more : s.buffer.hasEntriesSince cursor = true := by
    have bound := OutputBuffer.seq_lt_nextSeq member
    rw [OutputBuffer.hasEntriesSince_iff]; omega
  obtain ⟨t,stepped,next⟩ := step_poll found more
  obtain ⟨bs,u,all,ran,-,-,-,sent⟩ := sends_all next (groupFrom_nonempty [] _)
  refine ⟨.poll task :: bs,u,List.forall_mem_cons.mpr ⟨rfl,all⟩,run_cons_iff.mpr ⟨t,stepped,ran⟩,sent e ?_⟩
  rw [groups_flatten]
  exact List.mem_filter.mpr ⟨member,by simpa using later⟩

theorem task_delivers {s : State} {task : Nat} {sub : Subscriber} {e : OutputEntry}
    (found : s.tasks.lookup task = some sub) (nonempty : ∀ batch ∈ sub.inHand, batch ≠ [])
    (member : e ∈ s.buffer.entries) (will : sub.willSend e.seq = true) :
    ∃ bs u, (∀ a ∈ bs, carries a = true) ∧ run step s bs = some u ∧ e.seq ∈ u.streamed := by
  obtain ⟨bs,u,all,ran,buffer,there,-,sent⟩ := sends_all found nonempty
  rcases willSend_iff.mp will with ⟨e',inHand,same⟩ | beyond
  · exact ⟨bs,u,all,ran,same ▸ sent e' inHand⟩
  · obtain ⟨bs',u',all',ran',arrived⟩ := reads_all there (buffer ▸ member) beyond
    refine ⟨bs ++ bs',u',?_,run_append_iff.mpr ⟨u,ran,ran'⟩,arrived⟩
    intro a from_
    rcases List.mem_append.mp from_ with first | second
    · exact all a first
    · exact all' a second

/-- Whatever is provided for can be sent by steps of subscribers alone. -/
theorem provided_delivers {c : Nat} {s : State} {e : OutputEntry} (sending : Sending c s) (member : e ∈ s.buffer.entries)
    (given : provided s e.seq = true) :
    ∃ bs u, (∀ a ∈ bs, carries a = true) ∧ run step s bs = some u ∧ e.seq ∈ u.streamed := by
  rcases provided_iff.mp given with sent | ⟨task,sub,found,will⟩ | ⟨h,there,will⟩
  · exact ⟨[],s,by simp,rfl,sent⟩
  · exact task_delivers found (sending.nonempty task sub found) member will
  · obtain ⟨n,at_⟩ := List.getElem?_of_mem there
    unfold Attach.willSend at will
    split at will
    · next entries dropped replied =>
      have spawned : ∃ t, step s (.spawn n) = some t ∧ t.buffer = s.buffer ∧
          t.tasks.lookup s.nextTask = some ⟨lastSeq h.since entries,[]⟩ := by
        simp only [step,at_,replied]
        exact ⟨_,rfl,rfl,by rw [State.withPc,Table.lookup_insert_eq,if_pos rfl]⟩
      obtain ⟨t,stepped,same,next⟩ := spawned
      obtain ⟨bs,u,all,ran,arrived⟩ := reads_all next (same ▸ member) (by simpa using will)
      exact ⟨.spawn n :: bs,u,List.forall_mem_cons.mpr ⟨rfl,all⟩,run_cons_iff.mpr ⟨t,stepped,ran⟩,arrived⟩
    · cases will

/-! ### Attaches of others -/

theorem sending_start {buffer : OutputBuffer} {c : Nat} (reached : c < buffer.nextSeq) : Sending c (start buffer c) := by
  have only : ∀ task sub, (start buffer c).tasks.lookup task = some sub → task = 0 ∧ sub = ⟨c,[]⟩ := by
    intro task sub found
    rw [start,Table.lookup_insert_eq] at found
    split_ifs at found with same
    · cases found; exact ⟨same,rfl⟩
    · cases found
  refine ⟨reached,?_,?_⟩
  · intro task sub found
    rw [(only task sub found).2]; simp
  · intro task sub found
    rw [(only task sub found).1]; exact Nat.one_pos

theorem covered_start (buffer : OutputBuffer) (c : Nat) : Covered c (start buffer c) := by
  intro e _ after
  refine provided_iff.mpr (.inr (.inl ⟨0,⟨c,[]⟩,by rw [start,Table.lookup_insert_eq,if_pos rfl],?_⟩))
  exact willSend_iff.mpr (.inr after)

/-- Clients that were sent all up to `c` are covered along a run exactly when
    every attach of others hands over; what is covered in a state is sent by
    steps of its subscribers. -/
theorem watchers_covered_iff {buffer : OutputBuffer} {c : Nat} (reached : c < buffer.nextSeq) (as : List Action) :
    (Always step (Covered c) (start buffer c) as ↔
      Along step (fun s a => handsOver c s a = true) (start buffer c) as) ∧
    ∀ t, run step (start buffer c) as = some t → Covered c t → ∀ e ∈ t.buffer.entries, c < e.seq →
      ∃ bs u, (∀ a ∈ bs, carries a = true) ∧ run step t bs = some u ∧ e.seq ∈ u.streamed := by
  refine ⟨always_iff_along (fun _ _ _ => sending_step) (fun _ _ _ => covered_step) (sending_start reached)
    (covered_start buffer c),?_⟩
  intro t ran covered e member after
  exact provided_delivers (run_preserves (fun _ _ _ => sending_step) (sending_start reached) ran) member
    (covered e member after)

/-- An entry is pushed and sent, another client attaches, and the next entry
    comes when its subscriber is about to start. -/
def attachedLater : List Action :=
  [.push .stdout "one" 1,.poll 0,.send 0,.attach 0,.clear 0,.reply 0,.push .stdout "two" 2,.spawn 0,.insert 0,.poll 1,.send 1]

theorem watchers_covered_attachedLater :
    Always step (Covered 0) (start (.new 8) 0) attachedLater ∧
      (run step (start (.new 8) 0) attachedLater).map State.streamed = some [1,2] :=
  ⟨(watchers_covered_iff (by decide) attachedLater).1.mpr (by decide +kernel),by decide +kernel⟩

/-- An entry is pushed, and another client attaches before the subscriber reads it. -/
def attachedBetween : List Action :=
  [.push .stdout "one" 1,.attach 0,.clear 0,.reply 0,.spawn 0,.insert 0,.push .stdout "two" 2,.poll 1,.send 1]

theorem watcher_misses :
    ∃ t, run step (start (.new 8) 0) attachedBetween = some t ∧ t.buffer.entries.map OutputEntry.seq = [1,2] ∧
      t.streamed = [2] ∧ t.handlers.map Attach.pc = [.finished] ∧ provided t 1 = false ∧
      ¬ Always step (Covered 0) (start (.new 8) 0) attachedBetween := by
  have known : (run step (start (.new 8) 0) attachedBetween).map (fun t =>
      (t.buffer.entries,t.streamed,t.handlers.map Attach.pc,provided t 1)) =
      some ([⟨1,.stdout,"one",1⟩,⟨2,.stdout,"two",2⟩],[2],[.finished],false) := by decide +kernel
  obtain ⟨t,ran,facts⟩ := Option.map_eq_some_iff.mp known
  simp only [Prod.mk.injEq] at facts
  obtain ⟨entries,streamed,handlers,missed⟩ := facts
  refine ⟨t,ran,by rw [entries]; rfl,streamed,handlers,missed,?_⟩
  intro all
  have given := always_last all ran ⟨1,.stdout,"one",1⟩ (by rw [entries]; simp) (by decide)
  rw [missed] at given
  cases given

end Sctl.SharedSubscriber
