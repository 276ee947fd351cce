import Sctl.ClientStream

/-!
One session in the web terminal. The device pushes to its ring and a subscriber of
the connection sends what is new; an attach replaces the subscriber and replays what
is retained after a number, behind the frames that are on the way. The terminal may
come later than the output, which then waits in a buffer. An entry stands for its
data with the line endings of the terminal.
-/
namespace Sctl.TerminalOutput
open Runs Marks SessionBuffer
open ClientStream (numbers Increasing increasing_append increasing_sublist increasing_readSince)

inductive Message
  | output (e : OutputEntry)
  | gap
  | attached (entries : List OutputEntry)

structure State where
  device : OutputBuffer
  /-- The live subscriber: where it stands, and what it has read and not yet sent. -/
  subscriber : Option (Nat × List OutputEntry)
  /-- The attaches on the way to the device, and the messages on the way back. -/
  requests : List Nat
  wire : List Message
  /-- The session is attached, and its output subscribed. -/
  attached : Bool
  /-- The number that the attach in flight asked for. -/
  attachInFlight : Option Nat
  /-- The entry of `seqMap`. -/
  seq : Nat
  outputBuffer : List OutputEntry
  mounted : Bool
  /-- What was written to the terminal, and what the client received. -/
  written : List OutputEntry
  received : List OutputEntry

/-- A session of the device; it was started here, or it is not attached yet. -/
def start (device : OutputBuffer) (started : Bool) : State :=
  ⟨device,if started then some (0,[]) else none,[],[],started,none,0,[],false,[],[]⟩

inductive Action
  | push (stream : OutputStream) (data : String) (now : Nat)
  /-- The subscriber reads what is new, and sends an entry of it. -/
  | read
  | send
  /-- The device answers the next attach. -/
  | answer
  /-- The relay drops a frame, and tells of a gap. -/
  | lose (n : Nat)
  | tellGap
  | attachSession
  | mount
  | flush
  /-- The next message reaches the client. -/
  | dispatch

/-- `attachSession`, as far as its request. -/
def attachSession (s : State) : State :=
  if s.attachInFlight.isSome then s
  else { s with attachInFlight := some s.seq, requests := s.requests ++ [s.seq] }

/-- `handle_session_attach`. -/
def handleSessionAttach (s : State) (since : Nat) : State :=
  let entries := (s.device.readSince since).1
  { s with
    wire := s.wire ++ [.attached entries]
    subscriber := some ((entries.getLast?.map OutputEntry.seq).getD since,[]) }

def updateSessionSeq (s : State) (seq : Nat) : State := { s with seq := max s.seq seq }

def flushBuffer (s : State) : State :=
  if s.mounted then { s with written := s.written ++ s.outputBuffer, outputBuffer := [] } else s

/-- The listener of `subscribeSession`. -/
def onOutput (s : State) (e : OutputEntry) : State :=
  updateSessionSeq (if s.mounted then { flushBuffer s with written := (flushBuffer s).written ++ [e] }
    else { s with outputBuffer := s.outputBuffer ++ [e] }) e.seq

/-- The rest of `attachSession`, from the reply on. -/
def onAttached (s : State) (since : Nat) (entries : List OutputEntry) : State :=
  let s := { s with attached := true, attachInFlight := none }
  if entries = [] then s
  else
    updateSessionSeq (if s.mounted then { s with written := s.written ++ entries }
      else { s with outputBuffer := s.outputBuffer ++ entries }) ((numbers entries).foldl max since)

def receive (s : State) : Message → State
  | .output e =>
    let s := { s with received := s.received ++ [e] }
    if s.attached then onOutput s e else s
  | .gap => if s.attached then attachSession s else s
  | .attached entries =>
    match s.attachInFlight with
    | some since => onAttached { s with received := s.received ++ entries } since entries
    | none => s

def isOutput : Message → Bool
  | .output _ => true
  | _ => false

def step (s : State) : Action → Option State
  | .push stream data now => some { s with device := s.device.push stream data now }
  | .read =>
    match s.subscriber with
    | some (cursor,[]) => some { s with subscriber := some (cursor,(s.device.readSince cursor).1) }
    | _ => none
  | .send =>
    match s.subscriber with
    | some (_,e :: rest) => some { s with subscriber := some (e.seq,rest), wire := s.wire ++ [.output e] }
    | _ => none
  | .answer =>
    match s.requests with
    | since :: requests => some (handleSessionAttach { s with requests := requests } since)
    | [] => none
  | .lose n => if (s.wire[n]?.map isOutput).getD false then some { s with wire := s.wire.eraseIdx n } else none
  | .tellGap => some { s with wire := s.wire ++ [.gap] }
  | .attachSession => some (attachSession s)
  | .mount => some { s with mounted := true }
  | .flush => some (flushBuffer s)
  | .dispatch =>
    match s.wire with
    | m :: wire => some (receive { s with wire := wire } m)
    | [] => none

/-! ### Output in order -/

/-- What was written, and behind it what waits for the terminal. -/
def shown (s : State) : List OutputEntry := s.written ++ s.outputBuffer

/-- Each entry is shown once and in order, and none that the client received is left out. -/
structure InOrder (s : State) : Prop where
  increasing : Increasing (shown s)
  complete : ∀ e ∈ s.received, e ∈ shown s

/-- A reply that replays anything replays only entries after the number of `seqMap`, and
    nothing waits for a terminal that is there. -/
def Keeps (s : State) : Action → Prop
  | .dispatch =>
    match s.wire with
    | .attached entries :: _ => entries = [] ∨ (s.mounted = true → s.outputBuffer = []) ∧ ∀ e ∈ entries, s.seq < e.seq
    | _ => True
  | _ => True

instance : (s : State) → (a : Action) → Decidable (Keeps s a)
  | s, .dispatch =>
    match found : s.wire with
    | .attached entries :: _ =>
      decidable_of_iff (entries = [] ∨ (s.mounted = true → s.outputBuffer = []) ∧ ∀ e ∈ entries, s.seq < e.seq) (by simp [Keeps,found])
    | [] | .output _ :: _ | .gap :: _ => .isTrue (by simp [Keeps,found])
  | _, .push .. | _, .read | _, .send | _, .answer | _, .lose _ | _, .tellGap | _, .attachSession | _, .mount | _, .flush => .isTrue trivial

/-! ### What is on the way -/

/-- The greatest number of some entries. -/
def top (entries : List OutputEntry) : Nat := (numbers entries).foldl max 0

def Message.top : Message → Nat
  | .output e => e.seq
  | .gap => 0
  | .attached entries => TerminalOutput.top entries

/-- A message behind everything up to a number: a frame comes after it, and a replay reaches it. -/
def Message.Fits (h : Nat) : Message → Prop
  | .output e => h < e.seq
  | .gap => True
  | .attached entries => Increasing entries ∧ (∀ e ∈ entries, 0 < e.seq) ∧ (entries ≠ [] → h ≤ TerminalOutput.top entries)

/-- The greatest number once the messages are there. -/
def horizon (h : Nat) (wire : List Message) : Nat := wire.foldl (fun h m => max h m.top) h

def Ordered : Nat → List Message → Prop
  | _, [] => True
  | h, m :: rest => m.Fits h ∧ Ordered (max h m.top) rest

/-- No frame comes before a reply. -/
def Silent (listening : Bool) : List Message → Prop
  | [] => listening = false
  | .output _ :: _ => False
  | .gap :: rest => Silent listening rest
  | .attached _ :: _ => True

section
variable {h h' : Nat} {m : Message} {wire more : List Message}

theorem horizon_mono (less : h ≤ h') (wire : List Message) : horizon h wire ≤ horizon h' wire := by
  induction wire generalizing h h' with
  | nil => exact less
  | cons m rest ih => exact ih (max_le_max_right _ less)

theorem horizon_append (h : Nat) (wire : List Message) (m : Message) : horizon h (wire ++ [m]) = max (horizon h wire) m.top := by
  simp [horizon]

theorem fits_mono (less : h' ≤ h) (fits : m.Fits h) : m.Fits h' := by
  cases m with
  | output e => exact Nat.lt_of_le_of_lt less fits
  | gap => trivial
  | attached entries => exact ⟨fits.1,fits.2.1,fun some_ => Nat.le_trans less (fits.2.2 some_)⟩

theorem ordered_mono (less : h' ≤ h) (ordered : Ordered h wire) : Ordered h' wire := by
  induction wire generalizing h h' with
  | nil => trivial
  | cons m rest ih => exact ⟨fits_mono less ordered.1,ih (max_le_max_right _ less) ordered.2⟩

theorem ordered_append : Ordered h (wire ++ [m]) ↔ Ordered h wire ∧ m.Fits (horizon h wire) := by
  induction wire generalizing h with
  | nil => simp [Ordered,horizon]
  | cons first rest ih =>
    rw [List.cons_append,Ordered,Ordered,ih,and_assoc]
    rfl

/-- A message that is lost leaves the others in order. -/
theorem ordered_eraseIdx (ordered : Ordered h wire) (n : Nat) :
    Ordered h (wire.eraseIdx n) ∧ horizon h (wire.eraseIdx n) ≤ horizon h wire := by
  induction wire generalizing h n with
  | nil => exact ⟨trivial,Nat.le_refl _⟩
  | cons m rest ih =>
    cases n with
    | zero => exact ⟨ordered_mono (Nat.le_max_left h m.top) ordered.2,horizon_mono (Nat.le_max_left h m.top) rest⟩
    | succ n =>
      obtain ⟨after,below⟩ := ih ordered.2 n
      exact ⟨⟨ordered.1,after⟩,below⟩

theorem silent_append {listening listening' : Bool} (silent : Silent listening wire) (still : listening = false → Silent listening' [m]) :
    Silent listening' (wire ++ [m]) := by
  induction wire with
  | nil => exact still silent
  | cons first rest ih =>
    cases first with
    | output e => cases silent
    | gap => exact ih silent
    | attached entries => trivial

theorem silent_lose {listening : Bool} (silent : Silent listening wire) {n : Nat} (frame : (wire[n]?.map isOutput).getD false = true) :
    Silent listening (wire.eraseIdx n) := by
  induction wire generalizing n with
  | nil => exact silent
  | cons first rest ih =>
    cases first with
    | output e => cases silent
    | gap =>
      cases n with
      | zero => cases frame
      | succ n => exact ih silent frame
    | attached entries =>
      cases n with
      | zero => cases frame
      | succ n => trivial

end

/-! ### What the device replays -/

section
variable {b : OutputBuffer} {since : Nat} {entries : List OutputEntry}

theorem mem_le_top {e : OutputEntry} (member : e ∈ entries) : e.seq ≤ top entries :=
  (le_foldl_max (numbers entries) 0).2 e.seq (List.mem_map_of_mem member)

theorem exists_top (some_ : entries ≠ []) : ∃ e ∈ entries, e.seq = top entries := by
  by_contra none_
  simp only [not_exists,not_and] at none_
  obtain ⟨first,rest,rfl⟩ := List.exists_cons_of_ne_nil some_
  have positive : 0 < top (first :: rest) := by
    have first_ := none_ first List.mem_cons_self
    have le := mem_le_top (@List.mem_cons_self _ first rest)
    omega
  have less : top (first :: rest) < top (first :: rest) := by
    refine foldl_max_lt positive fun n member => ?_
    obtain ⟨e,here,rfl⟩ := List.mem_map.mp member
    exact Nat.lt_of_le_of_ne (mem_le_top here) (none_ e here)
  exact Nat.lt_irrefl _ less

theorem after_since {e : OutputEntry} (member : e ∈ (b.readSince since).1) : since < e.seq ∧ e.seq < b.nextSeq := by
  simp only [OutputBuffer.readSince,List.mem_filter,decide_eq_true_eq] at member
  exact ⟨member.2,OutputBuffer.seq_lt_nextSeq member.1⟩

theorem top_lt : top (b.readSince since).1 < b.nextSeq := by
  refine foldl_max_lt (Nat.lt_of_le_of_lt (Nat.zero_le _) b.room) fun n member => ?_
  obtain ⟨e,here,rfl⟩ := List.mem_map.mp member
  exact (after_since here).2

/-- A replay goes up to the present end; without one there is nothing after the number. -/
theorem replay_last : b.nextSeq ≤ (((b.readSince since).1.getLast?.map OutputEntry.seq).getD since) + 1 := by
  have seqs := b.readSince_seqs since
  have room := b.room
  cases last : (b.readSince since).1.getLast? with
  | none =>
    have empty : (b.readSince since).1 = [] := List.getLast?_eq_none_iff.mp last
    by_contra more
    have has : b.hasEntriesSince since = true := (b.hasEntriesSince_iff since).mpr (by simpa using more)
    unfold OutputBuffer.hasEntriesSince at has
    split at has
    · next e ends =>
      have member : e ∈ (b.readSince since).1 := by
        simp only [OutputBuffer.readSince,List.mem_filter]
        exact ⟨List.mem_of_getLast? ends,has⟩
      rw [empty] at member
      cases member
    · cases has
  | some e =>
    have ends : ((b.readSince since).1.map OutputEntry.seq).getLast? = some e.seq := by simp [last]
    rw [seqs,List.getLast?_range'] at ends
    split at ends
    · cases ends
    · simp only [Option.some.injEq] at ends
      simp only [Option.map_some,Option.getD_some]
      omega

theorem last_le_top (some_ : (b.readSince since).1 ≠ []) :
    ((b.readSince since).1.getLast?.map OutputEntry.seq).getD since ≤ top (b.readSince since).1 := by
  obtain ⟨e,last⟩ := Option.isSome_iff_exists.mp (List.getLast?_isSome.mpr some_)
  rw [last]
  exact mem_le_top (List.mem_of_getLast? last)

end

/-! ### One step -/

def isReply : Message → Bool
  | .attached _ => true
  | _ => false

theorem replies_lose {wire : List Message} {n : Nat} (frame : (wire[n]?.map isOutput).getD false = true) :
    (wire.eraseIdx n).countP isReply = wire.countP isReply := by
  induction wire generalizing n with
  | nil => rfl
  | cons first rest ih =>
    cases n with
    | zero =>
      cases first with
      | output e => rfl
      | gap | attached entries => cases frame
    | succ n => rw [List.eraseIdx_cons_succ,List.countP_cons,List.countP_cons,ih frame]

/-- What every run keeps: the number of `seqMap` is the greatest shown, what is on the way is in
    order behind it, the subscriber goes on behind that, no frame comes before the session is
    attached, and there is a reply to come exactly while an attach is in flight. -/
structure Sound (s : State) : Prop where
  below : ∀ e ∈ shown s, e.seq ≤ s.seq
  mark : s.seq = 0 ∨ ∃ e ∈ shown s, e.seq = s.seq
  ordered : Ordered s.seq s.wire
  ahead : horizon s.seq s.wire < s.device.nextSeq
  held : ∀ cursor rest, s.subscriber = some (cursor,rest) → horizon s.seq s.wire ≤ cursor ∧ Increasing rest ∧
    ∀ e ∈ rest, cursor < e.seq ∧ e.seq < s.device.nextSeq
  silent : s.attached = false → Silent s.subscriber.isSome s.wire
  pending : s.requests.length + s.wire.countP isReply = if s.attachInFlight.isSome then 1 else 0
  since : ∀ since, s.attachInFlight = some since → since ≤ s.seq

variable {s t : State} {a : Action}

theorem start_sound (device : OutputBuffer) (started : Bool) : Sound (start device started) where
  below := by simp [start,shown]
  mark := .inl rfl
  ordered := trivial
  ahead := Nat.lt_of_le_of_lt (Nat.zero_le _) device.room
  held := by
    intro cursor rest live
    cases started with
    | true => cases live; exact ⟨Nat.le_refl _,List.Pairwise.nil,by simp⟩
    | false => cases live
  silent detached := by
    cases started with
    | true => cases detached
    | false => rfl
  pending := rfl
  since _ none_ := by cases none_

theorem attachSession_sound (sound : Sound s) : Sound (attachSession s) := by
  unfold attachSession
  split
  · exact sound
  · next idle =>
    have none_ : s.attachInFlight.isSome = false := by simpa using idle
    have pending := sound.pending
    rw [none_] at pending
    refine { sound with pending := ?_, since := ?_ }
    · simp only [List.length_append,List.length_singleton,Option.isSome_some,if_true]
      simp only [Bool.false_eq_true,if_false] at pending
      omega
    · rintro since ⟨⟩
      exact Nat.le_refl _

theorem read_sound {cursor : Nat} (sound : Sound s) (live : s.subscriber = some (cursor,[])) :
    Sound { s with subscriber := some (cursor,(s.device.readSince cursor).1) } := by
  refine { sound with held := ?_, silent := ?_ }
  · rintro _ _ ⟨⟩
    exact ⟨(sound.held cursor [] live).1,increasing_readSince _ _,fun e member => after_since member⟩
  · intro detached
    have silent := sound.silent detached
    rwa [live] at silent

theorem send_sound {cursor : Nat} {e : OutputEntry} {rest : List OutputEntry} (sound : Sound s)
    (live : s.subscriber = some (cursor,e :: rest)) :
    Sound { s with subscriber := some (e.seq,rest), wire := s.wire ++ [.output e] } := by
  obtain ⟨upto,increasing,within⟩ := sound.held cursor _ live
  obtain ⟨later,increasing'⟩ := List.pairwise_cons.mp increasing
  have here := within e List.mem_cons_self
  have ends : horizon s.seq (s.wire ++ [.output e]) = e.seq := by
    rw [horizon_append]
    exact Nat.max_eq_right (Nat.le_of_lt (Nat.lt_of_le_of_lt upto here.1))
  refine { sound with ordered := ?_, ahead := ?_, held := ?_, silent := ?_, pending := ?_ }
  · exact ordered_append.mpr ⟨sound.ordered,Nat.lt_of_le_of_lt upto here.1⟩
  · exact ends ▸ here.2
  · rintro _ _ ⟨⟩
    refine ⟨Nat.le_of_eq ends,increasing',fun other member => ⟨?_,(within other (List.mem_cons_of_mem e member)).2⟩⟩
    exact later other.seq (List.mem_map_of_mem member)
  · intro detached
    have silent := sound.silent detached
    rw [live] at silent
    exact silent_append silent nofun
  · rw [List.countP_append]
    exact sound.pending

theorem answer_sound {since : Nat} {requests : List Nat} (sound : Sound s) (asked : s.requests = since :: requests) :
    Sound (handleSessionAttach { s with requests := requests } since) := by
  have last := @replay_last s.device since
  have ahead := sound.ahead
  have topLt := @top_lt s.device since
  have ends : horizon s.seq (s.wire ++ [.attached (s.device.readSince since).1]) =
      max (horizon s.seq s.wire) (top (s.device.readSince since).1) := horizon_append _ _ _
  refine { sound with ordered := ?_, ahead := ?_, held := ?_, silent := ?_, pending := ?_ }
  · refine ordered_append.mpr ⟨sound.ordered,increasing_readSince _ _,?_,?_⟩
    · exact fun e member => Nat.lt_of_le_of_lt (Nat.zero_le _) (after_since member).1
    · intro some_
      have reaches : ((s.device.readSince since).1.getLast?.map OutputEntry.seq).getD since ≤ top (s.device.readSince since).1 :=
        last_le_top some_
      show horizon s.seq s.wire ≤ top (s.device.readSince since).1
      omega
  · show horizon s.seq (s.wire ++ [Message.attached (s.device.readSince since).1]) < s.device.nextSeq
    rw [ends]
    omega
  · rintro _ _ ⟨⟩
    refine ⟨?_,List.Pairwise.nil,by simp⟩
    show horizon s.seq (s.wire ++ [Message.attached (s.device.readSince since).1]) ≤
      ((s.device.readSince since).1.getLast?.map OutputEntry.seq).getD since
    rw [ends]
    -- the replay ends where the ring does, or its number is there already
    by_cases empty : (s.device.readSince since).1 = []
    · simp only [empty,top,numbers,List.map_nil,List.foldl_nil,List.getLast?_nil,Option.map_none,Option.getD_none] at last ⊢
      omega
    · omega
  · intro detached
    exact silent_append (sound.silent detached) fun _ => trivial
  · have pending := sound.pending
    rw [asked] at pending
    show requests.length + (s.wire ++ [Message.attached (s.device.readSince since).1]).countP isReply =
      if s.attachInFlight.isSome then 1 else 0
    rw [List.countP_append,← pending]
    simp [isReply]
    omega

theorem flushBuffer_shown (s : State) : shown (flushBuffer s) = shown s := by
  unfold flushBuffer
  split
  · simp [shown]
  · rfl

theorem flush_sound (sound : Sound s) : Sound (flushBuffer s) := by
  have same := flushBuffer_shown s
  have rest : (flushBuffer s).seq = s.seq ∧ (flushBuffer s).wire = s.wire ∧ (flushBuffer s).device = s.device ∧
      (flushBuffer s).subscriber = s.subscriber ∧ (flushBuffer s).attached = s.attached ∧ (flushBuffer s).requests = s.requests ∧
      (flushBuffer s).attachInFlight = s.attachInFlight := by
    unfold flushBuffer
    split <;> exact ⟨rfl,rfl,rfl,rfl,rfl,rfl,rfl⟩
  obtain ⟨seq,wire,device,subscriber,attached,requests,inFlight⟩ := rest
  constructor
  · rw [same,seq]; exact sound.below
  · rw [same,seq]; exact sound.mark
  · rw [seq,wire]; exact sound.ordered
  · rw [seq,wire,device]; exact sound.ahead
  · rw [seq,wire,device,subscriber]; exact sound.held
  · rw [attached,subscriber,wire]; exact sound.silent
  · rw [requests,wire,inFlight]; exact sound.pending
  · rw [inFlight,seq]; exact sound.since

/-- A message is read, and what it brings is shown: the rest is in order behind it. -/
theorem brings_sound {m : Message} {wire : List Message} (sound : Sound s) (next : s.wire = m :: wire) (seq : t.seq = max s.seq m.top)
    (below : ∀ e ∈ shown t, e.seq ≤ t.seq) (mark : t.seq = 0 ∨ ∃ e ∈ shown t, e.seq = t.seq) (rest : t.wire = wire)
    (device : t.device = s.device) (subscriber : t.subscriber = s.subscriber) (silent : t.attached = false → Silent s.subscriber.isSome wire)
    (pending : t.requests.length + wire.countP isReply = if t.attachInFlight.isSome then 1 else 0)
    (since : ∀ since, t.attachInFlight = some since → since ≤ s.seq) : Sound t := by
  have ordered := sound.ordered
  have ahead := sound.ahead
  have held := sound.held
  rw [next] at ordered ahead held
  constructor
  · exact below
  · exact mark
  · rw [seq,rest]; exact ordered.2
  · rw [seq,rest,device]; exact ahead
  · rw [seq,rest,device,subscriber]; exact held
  · rw [subscriber,rest]; exact silent
  · rw [rest]; exact pending
  · intro n here
    rw [seq]
    exact Nat.le_trans (since n here) (Nat.le_max_left _ _)

theorem onOutput_shown (s : State) (e : OutputEntry) : shown (onOutput s e) = shown s ++ [e] := by
  unfold onOutput updateSessionSeq
  split
  · next there => simp [shown,flushBuffer,there]
  · simp [shown]

theorem onOutput_rest (s : State) (e : OutputEntry) : (onOutput s e).seq = max s.seq e.seq ∧ (onOutput s e).wire = s.wire ∧
    (onOutput s e).device = s.device ∧ (onOutput s e).subscriber = s.subscriber ∧ (onOutput s e).attached = s.attached ∧
    (onOutput s e).requests = s.requests ∧ (onOutput s e).attachInFlight = s.attachInFlight ∧ (onOutput s e).received = s.received := by
  unfold onOutput updateSessionSeq flushBuffer
  split <;> simp_all

/-- A frame finds the session attached, and comes after all that is shown. -/
theorem output_attached {e : OutputEntry} {wire : List Message} (sound : Sound s) (next : s.wire = .output e :: wire) :
    s.attached = true ∧ s.seq < e.seq := by
  constructor
  · by_contra detached
    have silent := sound.silent (by simpa using detached)
    rw [next] at silent
    exact silent
  · have ordered := sound.ordered
    rw [next] at ordered
    exact ordered.1

theorem output_sound {e : OutputEntry} {wire : List Message} (sound : Sound s) (inOrder : InOrder s) (next : s.wire = .output e :: wire) :
    Sound (receive { s with wire := wire } (.output e)) ∧ InOrder (receive { s with wire := wire } (.output e)) := by
  obtain ⟨attached,later⟩ := output_attached sound next
  let before : State := { s with wire := wire, received := s.received ++ [e] }
  have same : receive { s with wire := wire } (.output e) = onOutput before e := by simp [receive,attached,before]
  rw [same]
  obtain ⟨seq,rest,device,subscriber,attached',requests,inFlight,received⟩ := onOutput_rest before e
  have all : shown (onOutput before e) = shown s ++ [e] := onOutput_shown before e
  have pending := sound.pending
  rw [next] at pending
  constructor
  · refine brings_sound sound next seq ?_ ?_ rest device subscriber ?_ ?_ ?_
    · intro other member
      rw [all] at member
      rw [seq]
      rcases List.mem_append.mp member with old | new
      · exact Nat.le_trans (sound.below other old) (Nat.le_max_left _ _)
      · rw [List.mem_singleton.mp new]
        exact Nat.le_max_right _ _
    · right
      rw [all,seq]
      exact ⟨e,by simp,(Nat.max_eq_right (Nat.le_of_lt later)).symm⟩
    · intro detached
      rw [attached'] at detached
      exact absurd (attached.symm.trans detached) (by decide)
    · rw [requests,inFlight]
      exact pending
    · rw [inFlight]
      exact sound.since
  · constructor
    · rw [all]
      refine increasing_append.mpr ⟨inOrder.increasing,List.pairwise_singleton _ _,fun other member last here => ?_⟩
      rw [List.mem_singleton.mp here]
      exact Nat.lt_of_le_of_lt (sound.below other member) later
    · intro other member
      rw [received] at member
      rw [all]
      rcases List.mem_append.mp member with old | new
      · exact List.mem_append_left _ (inOrder.complete other old)
      · exact List.mem_append_right _ new

theorem gap_sound {wire : List Message} (sound : Sound s) (next : s.wire = .gap :: wire) :
    Sound (receive { s with wire := wire } .gap) := by
  have silent := sound.silent
  have pending := sound.pending
  rw [next] at silent pending
  have read : Sound { s with wire := wire } :=
    brings_sound sound next (Nat.max_eq_left (Nat.zero_le _)).symm sound.below sound.mark rfl rfl rfl silent pending sound.since
  by_cases attached : s.attached = true
  · simpa only [receive,attached,if_true] using attachSession_sound read
  · have detached : s.attached = false := by simpa using attached
    simpa only [receive,detached,Bool.false_eq_true,if_false] using read

theorem attachSession_shown (s : State) : shown (attachSession s) = shown s ∧ (attachSession s).received = s.received := by
  unfold attachSession
  split <;> exact ⟨rfl,rfl⟩

/-- Steps that show nothing new and receive nothing. -/
theorem same_inOrder (inOrder : InOrder s) (same : shown t = shown s) (received : t.received = s.received) : InOrder t where
  increasing := same ▸ inOrder.increasing
  complete := by
    rw [same,received]
    exact inOrder.complete

/-! ### Replies -/

theorem foldl_since {since seq : Nat} (entries : List OutputEntry) (upto : since ≤ seq) :
    max seq ((numbers entries).foldl max since) = max seq (top entries) := by
  rw [foldl_max_eq,top]
  omega

/-- A reply to a mounted terminal goes before what waits for it. -/
theorem onAttached_shown (s : State) (since : Nat) (entries : List OutputEntry) : shown (onAttached s since entries) =
    if s.mounted then s.written ++ entries ++ s.outputBuffer else shown s ++ entries := by
  unfold onAttached updateSessionSeq
  by_cases empty : entries = []
  · by_cases there : s.mounted = true <;> simp [empty,shown,there]
  · by_cases there : s.mounted = true <;> simp [empty,shown,there]

theorem onAttached_rest (s : State) (since : Nat) (entries : List OutputEntry) (upto : since ≤ s.seq) :
    (onAttached s since entries).seq = max s.seq (top entries) ∧ (onAttached s since entries).wire = s.wire ∧
    (onAttached s since entries).device = s.device ∧ (onAttached s since entries).subscriber = s.subscriber ∧
    (onAttached s since entries).attached = true ∧ (onAttached s since entries).requests = s.requests ∧
    (onAttached s since entries).attachInFlight = none ∧ (onAttached s since entries).received = s.received := by
  have reached := foldl_since entries upto
  unfold onAttached updateSessionSeq
  by_cases empty : entries = []
  · simp [empty,top,numbers]
  · by_cases there : s.mounted = true <;> simp [empty,there,reached]

theorem mem_onAttached {since : Nat} {entries : List OutputEntry} {e : OutputEntry} :
    e ∈ shown (onAttached s since entries) ↔ e ∈ shown s ∨ e ∈ entries := by
  rw [onAttached_shown]
  split
  · simp only [shown,List.mem_append]
    tauto
  · exact List.mem_append

/-- A reply finds an attach in flight, and its entries are in order and reach what is there. -/
theorem reply_expected {entries : List OutputEntry} {wire : List Message} (sound : Sound s) (next : s.wire = .attached entries :: wire) :
    (∃ since, s.attachInFlight = some since ∧ since ≤ s.seq) ∧ s.requests.length + wire.countP isReply = 0 ∧
      Increasing entries ∧ (∀ e ∈ entries, 0 < e.seq) ∧ (entries ≠ [] → s.seq ≤ top entries) := by
  have pending := sound.pending
  have ordered := sound.ordered
  rw [next] at pending ordered
  have reply : (Message.attached entries :: wire).countP isReply = wire.countP isReply + 1 := List.countP_cons_of_pos rfl
  rw [reply] at pending
  cases inFlight : s.attachInFlight with
  | none =>
    rw [inFlight] at pending
    cases pending
  | some since =>
    have pending : s.requests.length + (wire.countP isReply + 1) = 1 := by rw [pending,inFlight]; rfl
    exact ⟨⟨since,rfl,sound.since since inFlight⟩,by omega,ordered.1⟩

theorem reply_sound {entries : List OutputEntry} {wire : List Message} (sound : Sound s) (next : s.wire = .attached entries :: wire) :
    Sound (receive { s with wire := wire } (.attached entries)) := by
  obtain ⟨⟨since,inFlight,upto⟩,none_,increasing,positive,reaches⟩ := reply_expected sound next
  let before : State := { s with wire := wire, received := s.received ++ entries }
  have same : receive { s with wire := wire } (.attached entries) = onAttached before since entries := by simp [receive,inFlight,before]
  rw [same]
  obtain ⟨seq,rest,device,subscriber,attached,requests,inFlight',received⟩ := onAttached_rest before since entries upto
  have seq : (onAttached before since entries).seq = max s.seq (top entries) := seq
  have member {e : OutputEntry} : e ∈ shown (onAttached before since entries) ↔ e ∈ shown s ∨ e ∈ entries := mem_onAttached
  refine brings_sound sound next seq ?_ ?_ rest device subscriber ?_ ?_ ?_
  · intro e there
    rw [seq]
    rcases member.mp there with old | new
    · exact Nat.le_trans (sound.below e old) (Nat.le_max_left _ _)
    · exact Nat.le_trans (mem_le_top new) (Nat.le_max_right _ _)
  · rw [seq]
    by_cases empty : entries = []
    · have zero : top entries = 0 := by rw [empty]; rfl
      rw [zero,Nat.max_eq_left (Nat.zero_le _)]
      exact sound.mark.imp_right fun ⟨e,there,same⟩ => ⟨e,member.mpr (.inl there),same⟩
    · obtain ⟨e,there,same⟩ := exists_top empty
      right
      exact ⟨e,member.mpr (.inr there),by rw [same,Nat.max_eq_right (reaches empty)]⟩
  · intro detached
    exact absurd (attached.symm.trans detached) (by decide)
  · rw [requests,inFlight']
    exact none_
  · intro n none_
    rw [inFlight'] at none_
    cases none_

theorem reply_inOrder {entries : List OutputEntry} {wire : List Message} (sound : Sound s) (inOrder : InOrder s)
    (next : s.wire = .attached entries :: wire) :
    InOrder (receive { s with wire := wire } (.attached entries)) ↔
      (entries = [] ∨ (s.mounted = true → s.outputBuffer = []) ∧ ∀ e ∈ entries, s.seq < e.seq) := by
  obtain ⟨⟨since,inFlight,upto⟩,none_,increasing,positive,reaches⟩ := reply_expected sound next
  let before : State := { s with wire := wire, received := s.received ++ entries }
  have same : receive { s with wire := wire } (.attached entries) = onAttached before since entries := by simp [receive,inFlight,before]
  rw [same]
  have received : (onAttached before since entries).received = s.received ++ entries :=
    (onAttached_rest before since entries upto).2.2.2.2.2.2.2
  have member {e : OutputEntry} : e ∈ shown (onAttached before since entries) ↔ e ∈ shown s ∨ e ∈ entries := mem_onAttached
  have all : shown (onAttached before since entries) = if s.mounted then s.written ++ entries ++ s.outputBuffer else shown s ++ entries :=
    onAttached_shown before since entries
  have complete : ∀ e ∈ (onAttached before since entries).received, e ∈ shown (onAttached before since entries) := by
    intro e there
    rw [received] at there
    exact member.mpr ((List.mem_append.mp there).imp_left (inOrder.complete e))
  -- entries behind all that is shown are in order exactly if they come after its greatest number
  have behind : Increasing (shown s ++ entries) ↔ ∀ e ∈ entries, s.seq < e.seq := by
    constructor
    · intro ordered e there
      rcases sound.mark with zero | ⟨last,shown_,greatest⟩
      · rw [zero]
        exact positive e there
      · rw [← greatest]
        exact (increasing_append.mp ordered).2.2 last shown_ e there
    · intro later
      exact increasing_append.mpr ⟨inOrder.increasing,increasing,fun old shown_ e there =>
        Nat.lt_of_le_of_lt (sound.below old shown_) (later e there)⟩
  have whole : InOrder (onAttached before since entries) ↔ Increasing (shown (onAttached before since entries)) :=
    ⟨InOrder.increasing,fun increasing => ⟨increasing,complete⟩⟩
  rw [whole,all]
  by_cases empty : entries = []
  · refine iff_of_true ?_ (.inl empty)
    have old : Increasing (s.written ++ s.outputBuffer) := inOrder.increasing
    subst empty
    split
    · simpa using old
    · simpa [shown] using old
  · rw [or_iff_right empty]
    by_cases there : s.mounted = true
    · rw [if_pos there]
      by_cases flushed : s.outputBuffer = []
      · have shown_ : s.written ++ entries ++ s.outputBuffer = shown s ++ entries := by simp [shown,flushed]
        rw [shown_,behind]
        exact ⟨fun later => ⟨fun _ => flushed,later⟩,And.right⟩
      · refine iff_of_false (fun ordered => ?_) fun kept => flushed (kept.1 there)
        -- the greatest number of the replay is reached by what waits behind it
        obtain ⟨last,inReplay,greatest⟩ := exists_top empty
        obtain ⟨first,rest,waits⟩ := List.exists_cons_of_ne_nil flushed
        have waiting : first ∈ s.outputBuffer := by rw [waits]; exact List.mem_cons_self
        have before_ := (increasing_append.mp ordered).2.2 last (List.mem_append_right _ inReplay) first waiting
        have below := sound.below first (List.mem_append_right _ waiting)
        have top_ := reaches empty
        omega
    · rw [if_neg there,behind]
      exact ⟨fun later => ⟨fun mounted => absurd mounted there,later⟩,And.right⟩

theorem step_sound (sound : Sound s) (inOrder : InOrder s) (stepped : step s a = some t) : Sound t := by
  cases a with
  | push stream data now =>
    cases stepped
    have grows : (s.device.push stream data now).nextSeq = s.device.nextSeq + 1 := rfl
    refine { sound with ahead := ?_, held := ?_ }
    · exact Nat.lt_succ_of_lt sound.ahead
    · intro cursor rest live
      obtain ⟨upto,increasing,within⟩ := sound.held cursor rest live
      exact ⟨upto,increasing,fun e member => ⟨(within e member).1,Nat.lt_succ_of_lt (within e member).2⟩⟩
  | read =>
    simp only [step] at stepped
    split at stepped
    · next cursor live =>
      cases stepped
      exact read_sound sound live
    · cases stepped
  | send =>
    simp only [step] at stepped
    split at stepped
    · next cursor e rest live =>
      cases stepped
      exact send_sound sound live
    · cases stepped
  | answer =>
    simp only [step] at stepped
    split at stepped
    · next since requests asked =>
      cases stepped
      exact answer_sound sound asked
    · cases stepped
  | lose n =>
    simp only [step] at stepped
    split at stepped
    · next frame =>
      cases stepped
      obtain ⟨ordered,below⟩ := ordered_eraseIdx sound.ordered n
      refine { sound with ordered := ordered, ahead := Nat.lt_of_le_of_lt below sound.ahead, held := ?_, silent := ?_, pending := ?_ }
      · intro cursor rest live
        obtain ⟨upto,within⟩ := sound.held cursor rest live
        exact ⟨Nat.le_trans below upto,within⟩
      · exact fun detached => silent_lose (sound.silent detached) frame
      · show s.requests.length + (s.wire.eraseIdx n).countP isReply = _
        rw [replies_lose frame]
        exact sound.pending
    · cases stepped
  | tellGap =>
    cases stepped
    have ends : horizon s.seq (s.wire ++ [.gap]) = horizon s.seq s.wire := by
      rw [horizon_append]
      exact Nat.max_eq_left (Nat.zero_le _)
    refine { sound with ordered := ordered_append.mpr ⟨sound.ordered,trivial⟩, ahead := ends ▸ sound.ahead, held := ?_, silent := ?_, pending := ?_ }
    · intro cursor rest live
      exact ends ▸ sound.held cursor rest live
    · exact fun detached => silent_append (sound.silent detached) id
    · rw [List.countP_append]
      exact sound.pending
  | attachSession =>
    cases stepped
    exact attachSession_sound sound
  | mount =>
    cases stepped
    exact { sound with }
  | flush =>
    cases stepped
    exact flush_sound sound
  | dispatch =>
    simp only [step] at stepped
    split at stepped
    · next m wire next_ =>
      cases stepped
      cases m with
      | output e => exact (output_sound sound inOrder next_).1
      | gap => exact gap_sound sound next_
      | attached entries => exact reply_sound sound next_
    · cases stepped

theorem step_inOrder (sound : Sound s) (inOrder : InOrder s) (stepped : step s a = some t) : InOrder t ↔ Keeps s a := by
  cases a with
  | push stream data now | tellGap | mount =>
    cases stepped
    exact iff_of_true (same_inOrder inOrder rfl rfl) trivial
  | read | send | answer | lose n =>
    simp only [step] at stepped
    split at stepped
    · cases stepped
      exact iff_of_true (same_inOrder inOrder rfl rfl) trivial
    · cases stepped
  | attachSession =>
    cases stepped
    obtain ⟨same,received⟩ := attachSession_shown s
    exact iff_of_true (same_inOrder inOrder same received) trivial
  | flush =>
    cases stepped
    have received : (flushBuffer s).received = s.received := by unfold flushBuffer; split <;> rfl
    exact iff_of_true (same_inOrder inOrder (flushBuffer_shown s) received) trivial
  | dispatch =>
    simp only [step] at stepped
    split at stepped
    · next m wire next_ =>
      cases stepped
      simp only [Keeps,next_]
      cases m with
      | output e => exact iff_of_true (output_sound sound inOrder next_).2 trivial
      | gap =>
        refine iff_of_true ?_ trivial
        by_cases attached : s.attached = true
        · obtain ⟨same,received⟩ := attachSession_shown { s with wire := wire }
          simpa only [receive,attached,if_true] using same_inOrder inOrder same received
        · have detached : s.attached = false := by simpa using attached
          have read : InOrder { s with wire := wire } := same_inOrder inOrder rfl rfl
          simpa only [receive,detached,Bool.false_eq_true,if_false] using read
      | attached entries => exact reply_inOrder sound inOrder next_
    · cases stepped

/-- The terminal shows the output once and in order in every state of a run exactly if every
    reply in it meets the condition. -/
theorem terminal_in_order_iff (device : OutputBuffer) (started : Bool) (as : List Action) :
    Always step InOrder (start device started) as ↔ Along step Keeps (start device started) as :=
  always_iff_along_with (fun _ _ _ sound inOrder stepped => step_sound sound inOrder stepped)
    (fun _ _ _ sound inOrder stepped => step_inOrder sound inOrder stepped) (start_sound device started)
    ⟨List.Pairwise.nil,fun _ none_ => by cases none_⟩

/-- A gap is told while a frame is on the way behind it; the reply replays that frame. -/
def gapBeforeFrame : List Action :=
  [.mount,.push .stdout "x" 0,.read,.tellGap,.send,.dispatch,.answer,.dispatch,.dispatch]

theorem frame_shown_twice : ¬ ∀ (device : OutputBuffer) (started : Bool) (as : List Action),
    Always step InOrder (start device started) as := by
  intro claim
  have twice : (run step (start (.new 100) true) gapBeforeFrame).map (fun s => numbers (shown s)) = some [1,1] := by decide
  obtain ⟨s,ran,last⟩ := Option.map_eq_some_iff.mp twice
  have increasing := (always_last (claim (.new 100) true gapBeforeFrame) ran).increasing
  rw [Increasing,last] at increasing
  exact absurd increasing (by decide)

end Sctl.TerminalOutput
