import Sctl.Marks
import Sctl.McpClient
import Sctl.Retention

/-!
The output of one session between a device and the client of the MCP server. The
device pushes to its ring and a subscriber sends what is new, entry by entry or
merged; an attach replaces the subscriber and replays what is retained after a
number; the relay loses messages and says so; a connection that breaks loses what
is on the way. The client dispatches what arrives, and `exec_wait` polls.
-/
namespace Sctl.ClientStream
open Sctl.Marks Sctl.McpClient Sctl.Runs Sctl.SessionBuffer Sctl.Subscribers

structure State where
  device : OutputBuffer
  /-- The live subscriber: where it stands, and what it has read and not yet sent. -/
  subscriber : Option (Nat × List OutputEntry)
  /-- What aborted subscribers still hold; they stop at their next wait. -/
  aborted : List (List OutputEntry)
  /-- The messages on the way, each with the numbers of the entries that it carries. -/
  wire : List (Message × List Nat)
  /-- The largest number that the device has sent. -/
  sent : Nat
  client : McpClient.SessionBuffer
  /-- The entries of the device that the client got. -/
  received : List Nat
  /-- What `exec_wait` has read so far, and up to where. -/
  lastReadSeq : Nat
  accumulated : List OutputEntry

inductive Action
  | push (stream : OutputStream) (data : String) (now : Nat)
  /-- The subscriber reads what is new. -/
  | read
  /-- It sends as many entries as one message. -/
  | send (count : Nat)
  | sendAborted (task count : Nat)
  /-- The device answers an attach with this number. -/
  | attach (since : Nat)
  /-- The device or the relay sends a message without entries. -/
  | tell (m : Message)
  /-- The relay drops a message. -/
  | lose (n : Nat)
  | disconnect
  /-- After a reconnect the device answers the attach of a running session. -/
  | reattach
  | dispatch
  | execWait
  | poll

def start (device : OutputBuffer) : State := ⟨device,none,[],[],0,.new,[],0,[]⟩

def numbers (entries : List OutputEntry) : List Nat := entries.map OutputEntry.seq

/-- The entries of one stream go out as one message. -/
def sendAs (sessionId : String) (s : State) (group : List OutputEntry) : State :=
  { s with
    wire := s.wire ++ [(.output (batchMessage sessionId group),numbers group)]
    sent := max s.sent ((numbers group).foldl max 0) }

def answerAttach (sessionId : String) (s : State) (since : Nat) : State :=
  let replay := (s.device.readSince since).1
  { s with
    aborted := s.aborted ++ s.subscriber.toList.map Prod.snd
    subscriber := some ((replay.getLast?.map OutputEntry.seq).getD since,[])
    wire := s.wire ++
      [(.attached sessionId none none none (some (replay.map fun e => entryToWsMessage sessionId e)),numbers replay)]
    sent := max s.sent ((numbers replay).foldl max 0) }

/-- The entries of a message have one stream. -/
def oneStream (group : List OutputEntry) : Bool := group.all fun e => some e.stream = group.head?.map OutputEntry.stream

def step (sessionId : String) (s : State) : Action → Option State
  | .push stream data now => some { s with device := s.device.push stream data now }
  | .read =>
    match s.subscriber with
    | some (cursor,[]) => some { s with subscriber := some (cursor,(s.device.readSince cursor).1) }
    | _ => none
  | .send count =>
    match s.subscriber with
    | some (cursor,held) =>
      let group := held.take count
      if group ≠ [] ∧ oneStream group = true then
        some (sendAs sessionId { s with
          subscriber := some ((group.getLast?.map OutputEntry.seq).getD cursor,held.drop count) } group)
      else none
    | none => none
  | .sendAborted task count =>
    match s.aborted[task]? with
    | some held =>
      let group := held.take count
      if group ≠ [] ∧ oneStream group = true then
        some (sendAs sessionId { s with aborted := s.aborted.set task (held.drop count) } group)
      else none
    | none => none
  | .attach since => some (answerAttach sessionId s since)
  | .tell m => if m.brings = [] then some { s with wire := s.wire ++ [(m,[])] } else none
  | .lose n => some { s with wire := s.wire.eraseIdx n }
  | .disconnect => some { s with wire := [], subscriber := none, aborted := [] }
  | .reattach => if s.client.status = .running then some (answerAttach sessionId s s.client.lastSeq) else none
  | .dispatch =>
    match s.wire with
    | (m,carried) :: rest =>
      some { s with wire := rest, client := s.client.receive m, received := s.received ++ carried }
    | [] => none
  | .execWait => some { s with lastReadSeq := s.client.lastSeq, accumulated := [] }
  | .poll =>
    let entries := s.client.readOutput s.lastReadSeq
    some { s with
      accumulated := s.accumulated ++ entries
      lastReadSeq := (numbers entries).foldl max s.lastReadSeq }

/-- The action only moves messages; neither end stores anything. -/
def Action.onTheWay : Action → Bool
  | .push .. | .dispatch | .execWait | .poll => false
  | _ => true

/-- Neither end has stored anything, and what was sent stays sent. -/
structure EndsSame (s t : State) : Prop where
  device : t.device = s.device
  client : t.client = s.client
  received : t.received = s.received
  accumulated : t.accumulated = s.accumulated
  lastReadSeq : t.lastReadSeq = s.lastReadSeq
  sent : s.sent ≤ t.sent

theorem step_onTheWay {sessionId : String} {s t : State} {a : Action} (moves : a.onTheWay = true)
    (stepped : step sessionId s a = some t) : EndsSame s t := by
  cases a with
  | push stream data now | dispatch | execWait | poll => cases moves
  | attach since => cases stepped; exact ⟨rfl,rfl,rfl,rfl,rfl,Nat.le_max_left ..⟩
  | lose n | disconnect => cases stepped; exact ⟨rfl,rfl,rfl,rfl,rfl,Nat.le_refl _⟩
  | tell m =>
    simp only [step,Option.ite_none_right_eq_some,Option.some.injEq] at stepped
    obtain ⟨-,rfl⟩ := stepped
    exact ⟨rfl,rfl,rfl,rfl,rfl,Nat.le_refl _⟩
  | reattach =>
    simp only [step,Option.ite_none_right_eq_some,Option.some.injEq] at stepped
    obtain ⟨-,rfl⟩ := stepped
    exact ⟨rfl,rfl,rfl,rfl,rfl,Nat.le_max_left ..⟩
  | read =>
    simp only [step] at stepped
    split at stepped
    · cases stepped
      exact ⟨rfl,rfl,rfl,rfl,rfl,Nat.le_refl _⟩
    · cases stepped
  | send count | sendAborted task count =>
    simp only [step] at stepped
    split at stepped
    · simp only [Option.ite_none_right_eq_some,Option.some.injEq] at stepped
      obtain ⟨-,rfl⟩ := stepped
      exact ⟨rfl,rfl,rfl,rfl,rfl,Nat.le_max_left ..⟩
    · cases stepped

/-! ### Numbers in order -/

/-- The numbers of the entries increase. -/
def Increasing (entries : List OutputEntry) : Prop := (numbers entries).Pairwise (· < ·)

theorem increasing_sublist {entries more : List OutputEntry} (sub : entries.Sublist more) (increasing : Increasing more) :
    Increasing entries := List.Pairwise.sublist (sub.map _) increasing

theorem increasing_append {first second : List OutputEntry} : Increasing (first ++ second) ↔
    Increasing first ∧ Increasing second ∧ ∀ e ∈ first, ∀ later ∈ second, e.seq < later.seq := by
  simp [Increasing,numbers,List.pairwise_append]

theorem le_last {entries : List OutputEntry} {last : OutputEntry} (increasing : Increasing (entries ++ [last])) :
    ∀ e ∈ entries ++ [last], e.seq ≤ last.seq := by
  intro e member
  rcases List.mem_append.mp member with before | here
  · exact Nat.le_of_lt ((increasing_append.mp increasing).2.2 e before last (List.mem_singleton_self last))
  · rw [List.mem_singleton.mp here]

/-- A full window on old and new entries is in order exactly when no old one is left in it or
    the new ones come after the old ones. -/
theorem increasing_window {old new : List OutputEntry} {size : Nat} (within : old.length ≤ size) (ordered : Increasing old)
    (more : Increasing new) :
    Increasing ((old ++ new).rtake size) ↔ size ≤ new.length ∨ ∀ e ∈ old, ∀ later ∈ new, e.seq < later.seq := by
  simp only [List.rtake,List.drop_append,List.length_append]
  by_cases all : size ≤ new.length
  · have gone : old.drop (old.length + new.length - size) = [] := List.drop_eq_nil_iff.mpr (by omega)
    rw [gone,List.nil_append]
    exact iff_of_true (increasing_sublist (List.drop_sublist ..) more) (.inl all)
  · have kept : old.length + new.length - size - old.length = 0 := by omega
    rw [kept,List.drop_zero,increasing_append,or_iff_right all]
    constructor
    · rintro ⟨-,-,across⟩ e member later also
      obtain ⟨before,last,rfl⟩ := List.eq_nil_or_concat' old |>.resolve_left (List.ne_nil_of_mem member)
      have there : last ∈ (before ++ [last]).drop ((before ++ [last]).length + new.length - size) := by
        rw [List.drop_append_of_le_length (by simp; omega)]
        exact List.mem_append_right _ (List.mem_singleton_self last)
      exact Nat.lt_of_le_of_lt (le_last ordered e member) (across last there later also)
    · intro across
      exact ⟨increasing_sublist (List.drop_sublist ..) ordered,more,fun e member => across e (List.mem_of_mem_drop member)⟩

theorem increasing_singleton (e : OutputEntry) : Increasing [e] := List.pairwise_singleton _ _

theorem increasing_readSince (b : OutputBuffer) (since : Nat) : Increasing (b.readSince since).1 :=
  Retention.readSince_ordered

/-! ### The entries that the client stores -/

/-- What every run keeps, in order or not. -/
structure Fitting (s : State) : Prop where
  within : s.client.entries.length ≤ maxBufferEntries
  behind : ∀ e ∈ s.client.entries, e.seq ≤ s.client.lastSeq
  wire : ∀ p ∈ s.wire, Increasing p.1.brings
  polled : ∀ e ∈ s.accumulated, e.seq ≤ s.lastReadSeq

variable {sessionId : String} {s t : State} {a : Action}

theorem fitting_wire {t : State} (fitting : Fitting s) (client : t.client = s.client)
    (accumulated : t.accumulated = s.accumulated) (lastReadSeq : t.lastReadSeq = s.lastReadSeq)
    (wire : ∀ p ∈ t.wire, p ∈ s.wire ∨ Increasing p.1.brings) : Fitting t where
  within := by rw [client]; exact fitting.within
  behind := by rw [client]; exact fitting.behind
  wire p member := (wire p member).elim (fitting.wire p) id
  polled := by rw [accumulated,lastReadSeq]; exact fitting.polled

theorem fitting_sendAs {s' : State} {group : List OutputEntry} (fitting : Fitting s) (client : s'.client = s.client)
    (accumulated : s'.accumulated = s.accumulated) (lastReadSeq : s'.lastReadSeq = s.lastReadSeq) (wire : s'.wire = s.wire) :
    Fitting (sendAs sessionId s' group) := by
  refine fitting_wire fitting client accumulated lastReadSeq fun p member => ?_
  rcases List.mem_append.mp member with before | new
  · exact .inl (wire ▸ before)
  · rw [List.mem_singleton.mp new]
    right
    simp only [Message.brings]
    cases parseOutputEntry (batchMessage sessionId group) with
    | none => exact List.Pairwise.nil
    | some found => exact increasing_singleton found.2

theorem fitting_answerAttach (fitting : Fitting s) (since : Nat) : Fitting (answerAttach sessionId s since) := by
  refine fitting_wire fitting rfl rfl rfl fun p member => ?_
  rcases List.mem_append.mp member with before | new
  · exact .inl before
  · rw [List.mem_singleton.mp new]
    right
    rw [brings_replay]
    exact increasing_readSince s.device since

theorem fitting_receive (fitting : Fitting s) (m : Message) :
    (s.client.receive m).entries.length ≤ maxBufferEntries ∧
      ∀ e ∈ (s.client.receive m).entries, e.seq ≤ (s.client.receive m).lastSeq := by
  have same := s.client.receive_output m
  rw [same.entries,same.lastSeq]
  refine ⟨SessionBuffer.foldl_push_length fitting.within _,fun e member => ?_⟩
  rw [SessionBuffer.foldl_push_entries fitting.within] at member
  rw [SessionBuffer.foldl_push_lastSeq]
  obtain ⟨least,all⟩ := le_foldl_max ((s.client.pushes m).map OutputEntry.seq) s.client.lastSeq
  rcases List.mem_append.mp (List.mem_of_mem_drop member) with old | new
  · exact (fitting.behind e old).trans least
  · exact all e.seq (List.mem_map_of_mem new)

theorem fitting_step (fitting : Fitting s) (stepped : step sessionId s a = some t) : Fitting t := by
  cases a with
  | push stream data now => cases stepped; exact fitting_wire fitting rfl rfl rfl fun p member => .inl member
  | read =>
    simp only [step] at stepped
    split at stepped
    · cases stepped
      exact fitting_wire fitting rfl rfl rfl fun p member => .inl member
    · cases stepped
  | send count =>
    simp only [step] at stepped
    split at stepped
    · simp only [Option.ite_none_right_eq_some,Option.some.injEq] at stepped
      obtain ⟨-,rfl⟩ := stepped
      exact fitting_sendAs fitting rfl rfl rfl rfl
    · cases stepped
  | sendAborted task count =>
    simp only [step] at stepped
    split at stepped
    · simp only [Option.ite_none_right_eq_some,Option.some.injEq] at stepped
      obtain ⟨-,rfl⟩ := stepped
      exact fitting_sendAs fitting rfl rfl rfl rfl
    · cases stepped
  | attach since => cases stepped; exact fitting_answerAttach fitting since
  | tell m =>
    simp only [step,Option.ite_none_right_eq_some,Option.some.injEq] at stepped
    obtain ⟨empty,rfl⟩ := stepped
    refine fitting_wire fitting rfl rfl rfl fun p member => ?_
    rcases List.mem_append.mp member with before | new
    · exact .inl before
    · rw [List.mem_singleton.mp new,empty]
      exact .inr List.Pairwise.nil
  | lose n => cases stepped; exact fitting_wire fitting rfl rfl rfl fun p member => .inl (List.mem_of_mem_eraseIdx member)
  | disconnect => cases stepped; exact fitting_wire fitting rfl rfl rfl fun p member => by cases member
  | reattach =>
    simp only [step,Option.ite_none_right_eq_some,Option.some.injEq] at stepped
    obtain ⟨-,rfl⟩ := stepped
    exact fitting_answerAttach fitting _
  | dispatch =>
    simp only [step] at stepped
    split at stepped
    · next m carried rest wire =>
      cases stepped
      obtain ⟨within,behind⟩ := fitting_receive fitting m
      exact ⟨within,behind,fun p member => fitting.wire p (by rw [wire]; exact List.mem_cons_of_mem _ member),fitting.polled⟩
    · cases stepped
  | execWait => cases stepped; exact ⟨fitting.within,fitting.behind,fitting.wire,fun e member => by cases member⟩
  | poll =>
    cases stepped
    obtain ⟨least,all⟩ := le_foldl_max (numbers (s.client.readOutput s.lastReadSeq)) s.lastReadSeq
    refine ⟨fitting.within,fitting.behind,fitting.wire,fun e member => ?_⟩
    rcases List.mem_append.mp member with old | new
    · exact (fitting.polled e old).trans least
    · exact all e.seq (List.mem_map_of_mem new)

/-- The stored entries, what any read returns and what `exec_wait` has put together are in
    order and without duplicates. -/
structure InOrder (s : State) : Prop where
  stored : Increasing s.client.entries
  read : ∀ since, Increasing (s.client.readOutput since)
  accumulated : Increasing s.accumulated

/-- A message that is dispatched brings entries that come after every stored one, or enough of
    them to leave no stored one in the buffer. -/
def comesAfter (s : State) : Action → Bool
  | .dispatch =>
    match s.wire with
    | (m,_) :: _ =>
      maxBufferEntries ≤ m.brings.length || s.client.entries.all fun e => m.brings.all fun later => e.seq < later.seq
    | [] => true
  | _ => true

theorem inOrder_iff : InOrder s ↔ Increasing s.client.entries ∧ Increasing s.accumulated :=
  ⟨fun inOrder => ⟨inOrder.stored,inOrder.accumulated⟩,
    fun both => ⟨both.1,fun _ => increasing_sublist List.filter_sublist both.1,both.2⟩⟩

/-- A notice of the client always comes last; what a message brings has to come after. -/
theorem increasing_receive (fitting : Fitting s) (ordered : Increasing s.client.entries) {m : Message}
    (increasing : Increasing m.brings) :
    Increasing (s.client.receive m).entries ↔
      maxBufferEntries ≤ m.brings.length ∨ ∀ e ∈ s.client.entries, ∀ later ∈ m.brings, e.seq < later.seq := by
  rw [(s.client.receive_output m).entries,SessionBuffer.foldl_push_entries fitting.within]
  have noticed : ∀ text : String, Increasing
      ((s.client.entries ++ [(⟨s.client.lastSeq + 1,.system,text,0⟩ : OutputEntry)]).rtake maxBufferEntries) := by
    intro text
    rw [increasing_window fitting.within ordered (increasing_singleton _)]
    right
    intro e member later new
    rw [List.mem_singleton.mp new]
    exact Nat.lt_succ_of_le (fitting.behind e member)
  cases m with
  | exited sessionId exitCode => exact iff_of_true (noticed _) (.inr (by simp [Message.brings]))
  | gap sessionId reason => exact iff_of_true (noticed _) (.inr (by simp [Message.brings]))
  | output m | attached sessionId status exitCode pty entries | closed sessionId | error code sessionId request
  | started sessionId pty request | listed request | aiStatusAck sessionId request | other =>
    exact increasing_window fitting.within ordered increasing

theorem inOrder_step (fitting : Fitting s) (inOrder : InOrder s) (stepped : step sessionId s a = some t) :
    InOrder t ↔ comesAfter s a = true := by
  obtain ⟨stored,accumulated⟩ := inOrder_iff.mp inOrder
  rw [inOrder_iff]
  cases a with
  | dispatch =>
    simp only [step] at stepped
    split at stepped
    · next m carried rest wire =>
      cases stepped
      rw [and_iff_left accumulated,increasing_receive fitting stored (fitting.wire (m,carried) (by rw [wire]; simp))]
      simp [comesAfter,wire]
    · cases stepped
  | poll =>
    cases stepped
    refine iff_of_true ⟨stored,increasing_append.mpr ⟨accumulated,inOrder.read _,fun e old later new => ?_⟩⟩ rfl
    have above : s.lastReadSeq < later.seq := by simpa using (List.mem_filter.mp new).2
    exact (fitting.polled e old).trans_lt above
  | execWait => cases stepped; exact iff_of_true ⟨stored,List.Pairwise.nil⟩ rfl
  | push stream data now => cases stepped; exact iff_of_true ⟨stored,accumulated⟩ rfl
  | read | send count | sendAborted task count | attach since | tell m | lose n | disconnect | reattach =>
    have same := step_onTheWay rfl stepped
    rw [same.client,same.accumulated]
    exact iff_of_true ⟨stored,accumulated⟩ rfl

/-- The client's buffer is in order exactly as long as every message brings later entries. -/
theorem buffer_in_order_iff (sessionId : String) (device : OutputBuffer) (actions : List Action) :
    Always (step sessionId) InOrder (start device) actions ↔
      Along (step sessionId) (fun s a => comesAfter s a = true) (start device) actions := by
  refine always_iff_along (fun _ _ _ fitting stepped => fitting_step fitting stepped)
    (fun _ _ _ fitting inOrder stepped => inOrder_step fitting inOrder stepped) ?_ ?_
  · exact ⟨Nat.zero_le _,by simp [start,SessionBuffer.new],by simp [start],by simp [start]⟩
  · exact inOrder_iff.mpr ⟨List.Pairwise.nil,List.Pairwise.nil⟩

/-- A client that has an entry attaches from the beginning. -/
def attachedAgain : List Action :=
  [.attach 0,.push .stdout "a" 1,.read,.send 1,.dispatch,.dispatch,.attach 0,.dispatch]

theorem replay_stored_twice : ¬ ∀ (sessionId : String) (device : OutputBuffer) (actions : List Action),
    Always (step sessionId) InOrder (start device) actions := by
  intro claim
  have twice : (run (step "s") (start (.new 16)) attachedAgain).map (fun s => numbers s.client.entries) = some [1,1] := by
    decide +kernel
  obtain ⟨s,ran,stored⟩ := Option.map_eq_some_iff.mp twice
  have increasing := (always_last (claim "s" (.new 16) attachedAgain) ran).stored
  rw [Increasing,stored] at increasing
  exact absurd increasing (by decide)

end Sctl.ClientStream
