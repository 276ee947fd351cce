import Sctl.Runs
import Sctl.SessionBuffer

/-!
The tasks that send a session's output to a client: `subscriber_task` on a
direct WebSocket, one message an entry, and `tunnel_subscriber_task`, which
joins entries of one stream to batches. Both loop over the same steps: check
and read under the buffer's lock, send, and wait for a notification when there
was nothing to read. Pushes come at any time in between.
-/
namespace Sctl.Subscribers
open Sctl.SessionBuffer Sctl.Runs

/-! ### Messages -/

/-- `session.stdout`, `session.stderr` or `session.system`. -/
structure OutputMsg where
  type : String
  sessionId : String
  data : String
  seq : Nat
  timestampMs : Nat
deriving DecidableEq

/-- What a client gets on its stream: output, or the notice that some is missing. -/
inductive StreamMsg
  | output (m : OutputMsg)
  | gap (sessionId reason : String)
deriving DecidableEq

def StreamMsg.seq? : StreamMsg → Option Nat
  | .output m => some m.seq
  | .gap _ _ => none

def StreamMsg.isGap : StreamMsg → Bool
  | .output _ => false
  | .gap _ _ => true

def entryToWsMessage (sessionId : String) (entry : OutputEntry) : OutputMsg :=
  ⟨"session." ++ entry.stream.asStr,sessionId,entry.data,entry.seq,entry.timestampMs⟩

def batchMaxEntries : Nat := 32
def batchMaxBytes : Nat := 8 * 1024

/-- The running batch of `batch_output_entries`. -/
structure Batch where
  stream : Option OutputStream
  data : String
  seq : Nat
  timestampMs : Nat
  count : Nat

def flushCurrent (sessionId : String) (batched : List OutputMsg) (current : Batch) : List OutputMsg × Batch :=
  match current.stream with
  | some stream =>
    (batched ++ [⟨"session." ++ stream.asStr,sessionId,current.data,current.seq,current.timestampMs⟩],
      { current with stream := none, data := "", count := 0 })
  | none => (batched,current)

def batchEntry (sessionId : String) (state : List OutputMsg × Batch) (entry : OutputEntry) : List OutputMsg × Batch :=
  let current := state.2
  let sameStream := current.stream = some entry.stream
  let fitsBytes := current.data.utf8ByteSize + entry.data.utf8ByteSize ≤ batchMaxBytes
  let fitsCount := current.count < batchMaxEntries
  let (batched,open_) :=
    if ¬ sameStream ∨ ¬ fitsBytes ∨ ¬ fitsCount then
      let flushed := flushCurrent sessionId state.1 current
      (flushed.1,{ flushed.2 with stream := some entry.stream })
    else (state.1,current)
  (batched,⟨open_.stream,open_.data ++ entry.data,entry.seq,entry.timestampMs,open_.count + 1⟩)

def batchOutputEntries (sessionId : String) (entries : List OutputEntry) : List OutputMsg :=
  let state := entries.foldl (batchEntry sessionId) ([],⟨none,"",0,0,0⟩)
  (flushCurrent sessionId state.1 state.2).1

/-! ### Batches as groups of entries -/

def joinData (entries : List OutputEntry) : String := entries.foldl (fun text e => text ++ e.data) ""

/-- The message of a group: the stream of its first entry, the number of its last. -/
def batchMessage (sessionId : String) (group : List OutputEntry) : OutputMsg :=
  ⟨"session." ++ ((group.head?.map fun e => e.stream.asStr).getD ""),sessionId,joinData group,
    (group.getLast?.map OutputEntry.seq).getD 0,(group.getLast?.map OutputEntry.timestampMs).getD 0⟩

def fitsGroup (group : List OutputEntry) (entry : OutputEntry) : Bool :=
  (group.head?.map OutputEntry.stream) = some entry.stream &&
    (joinData group).utf8ByteSize + entry.data.utf8ByteSize ≤ batchMaxBytes && group.length < batchMaxEntries

/-- Entries in the groups that are sent as one message each. -/
def groupFrom (group : List OutputEntry) : List OutputEntry → List (List OutputEntry)
  | [] => if group = [] then [] else [group]
  | e :: rest =>
    if fitsGroup group e then groupFrom (group ++ [e]) rest
    else (if group = [] then [] else [group]) ++ groupFrom [e] rest

def groups (entries : List OutputEntry) : List (List OutputEntry) := groupFrom [] entries

theorem groupFrom_flatten (group entries : List OutputEntry) : (groupFrom group entries).flatten = group ++ entries := by
  induction entries generalizing group with
  | nil => by_cases empty : group = [] <;> simp [groupFrom,empty]
  | cons e rest ih =>
    unfold groupFrom
    by_cases fits : fitsGroup group e = true
    · simp only [fits,if_true,ih]; simp
    · simp only [fits]
      by_cases empty : group = [] <;> simp [empty,ih]

theorem groups_flatten (entries : List OutputEntry) : (groups entries).flatten = entries := groupFrom_flatten [] entries

theorem groupFrom_nonempty (group entries : List OutputEntry) : ∀ g ∈ groupFrom group entries, g ≠ [] := by
  induction entries generalizing group with
  | nil => by_cases empty : group = [] <;> simp [groupFrom,empty]
  | cons e rest ih =>
    unfold groupFrom
    by_cases fits : fitsGroup group e = true
    · simp only [fits,if_true]; exact ih _
    · simp only [fits]
      by_cases empty : group = []
      · simpa [empty] using ih [e]
      · simpa [empty] using ih [e]

/-- The running batch that stands for a group. -/
def batchOf (group : List OutputEntry) (seq timestampMs : Nat) : Batch :=
  ⟨group.head?.map OutputEntry.stream,joinData group,(group.getLast?.map OutputEntry.seq).getD seq,
    (group.getLast?.map OutputEntry.timestampMs).getD timestampMs,group.length⟩

theorem joinData_append (group : List OutputEntry) (e : OutputEntry) :
    joinData (group ++ [e]) = joinData group ++ e.data := by
  simp [joinData]

theorem joinData_singleton (e : OutputEntry) : joinData [e] = e.data := by simp [joinData]

theorem entryToWsMessage_eq (sessionId : String) (e : OutputEntry) :
    entryToWsMessage sessionId e = batchMessage sessionId [e] := by
  simp [entryToWsMessage,batchMessage,joinData_singleton]

theorem flushCurrent_batchOf (sessionId : String) (batched : List OutputMsg) (group : List OutputEntry) (seq now : Nat) :
    (flushCurrent sessionId batched (batchOf group seq now)).1 =
      batched ++ ((if group = [] then [] else [group]).map (batchMessage sessionId)) := by
  cases group with
  | nil => simp [flushCurrent,batchOf]
  | cons e rest =>
    have last : ((e :: rest).getLast?).isSome := by simp
    obtain ⟨final,at_end⟩ := Option.isSome_iff_exists.mp last
    simp [flushCurrent,batchOf,batchMessage,at_end]

theorem batchEntry_batchOf (sessionId : String) (batched : List OutputMsg) (group : List OutputEntry) (e : OutputEntry)
    (seq now : Nat) : batchEntry sessionId (batched,batchOf group seq now) e =
      if fitsGroup group e then (batched,batchOf (group ++ [e]) seq now)
      else (batched ++ ((if group = [] then [] else [group]).map (batchMessage sessionId)),batchOf [e] seq now) := by
  by_cases fits : fitsGroup group e = true
  · rw [if_pos fits]
    simp only [fitsGroup,Bool.and_eq_true,decide_eq_true_eq] at fits
    obtain ⟨⟨stream,bytes⟩,count⟩ := fits
    cases group with
    | nil => cases stream
    | cons g rest =>
      have first : g.stream = e.stream := by simpa using stream
      have few : ¬ batchMaxEntries ≤ rest.length + 1 := by simpa using count
      have data : joinData (g :: (rest ++ [e])) = joinData (g :: rest) ++ e.data := joinData_append (g :: rest) e
      simp [batchEntry,batchOf,first,bytes,few,data]
      have last : (g :: (rest ++ [e])).getLast? = some e := by
        rw [← List.cons_append]; exact List.getLast?_concat ..
      simp [last]
  · have split_ : ¬ (batchOf group seq now).stream = some e.stream ∨
        ¬ (batchOf group seq now).data.utf8ByteSize + e.data.utf8ByteSize ≤ batchMaxBytes ∨
        ¬ (batchOf group seq now).count < batchMaxEntries := by
      by_contra all
      push Not at all
      exact fits (by simp only [fitsGroup,Bool.and_eq_true,decide_eq_true_eq,and_assoc]; exact all)
    rw [if_neg fits,← flushCurrent_batchOf sessionId batched group seq now]
    unfold batchEntry
    simp only [split_,if_true,Prod.mk.injEq,true_and]
    cases group with
    | nil => simp [flushCurrent,batchOf,joinData]
    | cons g rest => simp [flushCurrent,batchOf,joinData_singleton]

/-- The batches of the source are the groups, one message each. -/
theorem batchOutputEntries_eq (sessionId : String) (entries : List OutputEntry) :
    batchOutputEntries sessionId entries = (groups entries).map (batchMessage sessionId) := by
  have folded (group : List OutputEntry) (batched : List OutputMsg) :
      let state := entries.foldl (batchEntry sessionId) (batched,batchOf group 0 0)
      (flushCurrent sessionId state.1 state.2).1 = batched ++ (groupFrom group entries).map (batchMessage sessionId) := by
    induction entries generalizing group batched with
    | nil => exact flushCurrent_batchOf ..
    | cons e rest ih =>
      simp only [List.foldl_cons,batchEntry_batchOf]
      unfold groupFrom
      by_cases fits : fitsGroup group e = true
      · simp only [fits,if_true]; exact ih _ _
      · simp only [fits]
        have later := ih [e] (batched ++ ((if group = [] then [] else [group]).map (batchMessage sessionId)))
        simpa using later
  have start := folded [] []
  simpa [batchOutputEntries,groups,batchOf,joinData] using start

/-! ### The task -/

inductive Transport
  | direct
  | tunnel
deriving DecidableEq

/-- Where a task stands. `window` is between the release of the buffer's lock
    and the creation of the `Notified` future. -/
inductive Pc
  | check
  | sendEntries (rest : List OutputEntry)
  | sendBatches (rest : List (List OutputEntry)) (last : Nat)
  | window
  | parked
  | ended
deriving DecidableEq

structure State where
  buffer : OutputBuffer
  cursor : Nat
  pc : Pc
  /-- The messages sent, in order. -/
  sent : List StreamMsg
  /-- The entries in them. -/
  delivered : List OutputEntry

inductive Action
  | push (stream : OutputStream) (data : String) (now : Nat)
  | advance
  /-- The client's end closes, and the send under way fails. -/
  | close

/-- A task started at a cursor. -/
def start (buffer : OutputBuffer) (since : Nat) : State := ⟨buffer,since,.check,[],[]⟩

/-- `notify_waiters` wakes only a task whose `Notified` future exists. -/
def notifyWaiters (pc : Pc) : Pc := if pc = .parked then .check else pc

section
variable (transport : Transport) (sessionId : String)

def sending (entries : List OutputEntry) : Pc :=
  match transport with
  | .direct => .sendEntries entries
  | .tunnel => .sendBatches (groups entries) ((entries.getLast?.map OutputEntry.seq).getD 0)

def advance (s : State) : Option State :=
  match s.pc with
  | .check =>
    if s.buffer.hasEntriesSince s.cursor then
      some { s with pc := sending transport (s.buffer.readSince s.cursor).1 }
    else some { s with pc := .window }
  | .sendEntries [] => some { s with pc := .check }
  | .sendEntries (e :: rest) => some { s with
      cursor := e.seq, pc := .sendEntries rest, sent := s.sent ++ [.output (entryToWsMessage sessionId e)]
      delivered := s.delivered ++ [e] }
  | .sendBatches [] last => some { s with cursor := last, pc := .check }
  | .sendBatches (group :: rest) last => some { s with
      pc := .sendBatches rest last, sent := s.sent ++ [.output (batchMessage sessionId group)]
      delivered := s.delivered ++ group }
  | .window => some { s with pc := .parked }
  | .parked => none
  | .ended => none

def step (s : State) : Action → Option State
  | .push stream data now => some { s with buffer := s.buffer.push stream data now, pc := notifyWaiters s.pc }
  | .advance => advance transport sessionId s
  | .close => match s.pc with
    | .sendEntries (_ :: _) => some { s with pc := .ended }
    | .sendBatches (_ :: _) _ => some { s with pc := .ended }
    | _ => none

end

variable {transport : Transport} {sessionId : String}

/-! ### Wakeups -/

/-- A task that waits has sent everything there is. -/
def NoLostWakeup (s : State) : Prop := s.pc = .parked → ∀ e ∈ s.buffer.entries, e.seq ≤ s.cursor

instance : DecidablePred NoLostWakeup := fun _ => inferInstanceAs (Decidable (_ → _))

/-- No push of an entry past the cursor falls into the window. -/
def quietWindow (s : State) : Action → Bool
  | .push _ _ _ => s.pc ≠ .window || s.buffer.nextSeq ≤ s.cursor
  | _ => true

/-- A task that is about to wait, or waits, has nothing left to read. -/
def CaughtUp (s : State) : Prop := s.pc = .window ∨ s.pc = .parked → s.buffer.nextSeq ≤ s.cursor + 1

theorem caughtUp_step {s t : State} {a : Action} (caught : CaughtUp s) (quiet : quietWindow s a = true)
    (stepped : step transport sessionId s a = some t) : CaughtUp t := by
  cases a with
  | push stream data now =>
    cases stepped
    rintro (window | parked)
    · by_cases was : s.pc = .parked
      · simp [notifyWaiters,was] at window
      · simp only [notifyWaiters,was,if_false] at window
        have early : s.buffer.nextSeq ≤ s.cursor := by simpa [quietWindow,window] using quiet
        exact Nat.succ_le_succ early
    · by_cases was : s.pc = .parked <;> simp [notifyWaiters,was] at parked
  | close =>
    simp only [step] at stepped
    split at stepped <;> cases stepped <;> (rintro (held | held) <;> cases held)
  | advance =>
    simp only [step,advance] at stepped
    split at stepped
    · split_ifs at stepped with more
      · cases stepped
        rintro (held | held) <;> cases transport <;> cases held
      · cases stepped
        intro _
        rw [OutputBuffer.hasEntriesSince_iff] at more
        exact Nat.le_of_not_lt more
    · cases stepped; rintro (held | held) <;> cases held
    · cases stepped; rintro (held | held) <;> cases held
    · cases stepped; rintro (held | held) <;> cases held
    · cases stepped; rintro (held | held) <;> cases held
    · next window => cases stepped; exact fun _ => caught (.inl window)
    · cases stepped
    · cases stepped

/-- In a run in which no push falls into the window, a task that waits has sent
    everything there is. -/
theorem no_lost_wakeup (buffer : OutputBuffer) (since : Nat) (as : List Action)
    (quiet : Along (step transport sessionId) (fun s a => quietWindow s a = true) (start buffer since) as) :
    Always (step transport sessionId) NoLostWakeup (start buffer since) as := by
  refine always_of_keeps (fun _ _ _ caught met stepped => caughtUp_step caught met stepped) ?_ ?_ quiet
  · intro s caught parked e member
    have upto := caught (.inr parked)
    have below := OutputBuffer.seq_lt_nextSeq member
    omega
  · rintro (held | held) <;> cases held

theorem no_lost_wakeup_once :
    Always (step .direct "s") NoLostWakeup (start (.new 4) 0)
      [.advance,.advance,.push .stdout "a" 0,.advance,.advance,.advance,.advance,.advance] :=
  no_lost_wakeup (.new 4) 0 _ (by decide +kernel)

/-- A push between the check and the wait: the task waits with an entry unsent. -/
theorem wakeup_lost :
    ¬ Always (step .direct "s") NoLostWakeup (start (.new 4) 0) [.advance,.push .stdout "a" 0,.advance] := by
  decide +kernel

/-! ### What the client gets -/

/-- The numbers on the messages only go up. -/
def Increasing (s : State) : Prop := (s.sent.filterMap StreamMsg.seq?).Pairwise (· < ·)

/-- Everything up to the last entry delivered was delivered, or the client was
    told that something is missing. -/
def Accounted (since : Nat) (s : State) : Prop :=
  ∀ e ∈ s.delivered, ∀ seq, since < seq → seq ≤ e.seq →
    seq ∈ s.delivered.map OutputEntry.seq ∨ s.sent.any StreamMsg.isGap = true

/-- A read finds everything after the cursor still in the buffer. -/
def readsAll (s : State) : Action → Bool
  | .advance => s.pc ≠ .check || !s.buffer.hasEntriesSince s.cursor || (s.buffer.readSince s.cursor).2 = 0
  | _ => true

/-- The entries read and not yet sent. -/
def pending : Pc → List OutputEntry
  | .sendEntries rest => rest
  | .sendBatches rest _ => rest.flatten
  | _ => []

/-- How far the task got: its cursor, or in the tunnel what the cursor is going to be. -/
def reached (s : State) : Nat :=
  match s.pc with
  | .sendBatches _ last => last
  | _ => s.cursor

/-- The messages are made of the delivered entries, in order and without rest. -/
def Carries (sessionId : String) (sent : List StreamMsg) (delivered : List OutputEntry) : Prop :=
  ∃ batches : List (List OutputEntry), (∀ g ∈ batches, g ≠ []) ∧ batches.flatten = delivered ∧
    sent = batches.map fun g => .output (batchMessage sessionId g)

structure InOrder (sessionId : String) (s : State) : Prop where
  carries : Carries sessionId s.sent s.delivered
  whole : ∀ rest last, s.pc = .sendBatches rest last → ∀ g ∈ rest, g ≠ []
  sorted : ((s.delivered ++ pending s.pc).map OutputEntry.seq).Pairwise (· < ·)
  below : s.pc ≠ .ended → ∀ e ∈ s.delivered, e.seq ≤ reached s
  last : ∀ rest last, s.pc = .sendBatches rest last → ∀ e ∈ rest.flatten, e.seq ≤ last

theorem inOrder_start (buffer : OutputBuffer) (since : Nat) : InOrder sessionId (start buffer since) := by
  refine ⟨⟨[],by simp [start]⟩,?_,?_,?_,?_⟩ <;> simp [start,pending]

theorem carries_append {sent : List StreamMsg} {delivered group : List OutputEntry} (nonempty : group ≠ [])
    (carries : Carries sessionId sent delivered) :
    Carries sessionId (sent ++ [.output (batchMessage sessionId group)]) (delivered ++ group) := by
  obtain ⟨batches,full,flat,same⟩ := carries
  refine ⟨batches ++ [group],?_,by simp [flat],by simp [same]⟩
  intro g member
  rcases List.mem_append.mp member with before | now
  · exact full g before
  · rw [List.mem_singleton.mp now]; exact nonempty

theorem batchMessage_seq {group : List OutputEntry} (nonempty : group ≠ []) :
    (batchMessage sessionId group).seq ∈ group.map OutputEntry.seq := by
  obtain ⟨last,at_end⟩ := Option.isSome_iff_exists.mp (List.getLast?_isSome.mpr nonempty)
  simp only [batchMessage,at_end,Option.map_some,Option.getD_some]
  exact List.mem_map_of_mem (List.mem_of_getLast? at_end)

/-- The numbers on the messages are numbers of delivered entries, in their order. -/
theorem carries_seqs {sent : List StreamMsg} {delivered : List OutputEntry} (carries : Carries sessionId sent delivered) :
    (sent.filterMap StreamMsg.seq?).Sublist (delivered.map OutputEntry.seq) := by
  obtain ⟨batches,full,rfl,rfl⟩ := carries
  induction batches with
  | nil => simp
  | cons g rest ih =>
    have later := ih fun h member => full h (List.mem_cons_of_mem g member)
    have here : [(batchMessage sessionId g).seq].Sublist (g.map OutputEntry.seq) :=
      List.singleton_sublist.mpr (batchMessage_seq (full g List.mem_cons_self))
    simpa [StreamMsg.seq?] using here.append later

/-- What a read returns is in order, after the cursor and not empty. -/
theorem readSince_sorted (b : OutputBuffer) (since : Nat) :
    ((b.readSince since).1.map OutputEntry.seq).Pairwise (· < ·) := by
  rw [OutputBuffer.readSince_seqs]
  exact List.pairwise_lt_range'

theorem readSince_after {b : OutputBuffer} {since : Nat} {e : OutputEntry} (member : e ∈ (b.readSince since).1) :
    since < e.seq := by
  simpa using (List.mem_filter.mp member).2

theorem readSince_nonempty {b : OutputBuffer} {since : Nat} (more : b.hasEntriesSince since = true) :
    (b.readSince since).1 ≠ [] := by
  intro empty
  have seqs := b.readSince_seqs since
  rw [empty,OutputBuffer.oldestAvailable_eq] at seqs
  have count := congrArg List.length seqs
  rw [OutputBuffer.hasEntriesSince_iff] at more
  have some_ : b.entries ≠ [] := by intro none; have := b.live none; omega
  have pos := List.length_pos_iff.mpr some_
  simp at count; omega

theorem le_getLast {entries : List OutputEntry} (sorted : (entries.map OutputEntry.seq).Pairwise (· < ·)) :
    ∀ e ∈ entries, e.seq ≤ (entries.getLast?.map OutputEntry.seq).getD 0 := by
  intro e member
  obtain ⟨init,final,rfl,_⟩ := List.eq_append_cons_of_mem member
  rcases List.eq_nil_or_concat' final with rfl | ⟨body,l,rfl⟩
  · simp
  · have ordered := (List.pairwise_append.mp (by simpa using sorted)).2.1
    have later := (List.pairwise_cons.mp ordered).1 l.seq (by simp)
    simp only [← List.cons_append,← List.append_assoc,List.getLast?_concat,Option.map_some,Option.getD_some]
    exact Nat.le_of_lt later

theorem inOrder_read {s t : State} (inOrder : InOrder sessionId s) (checks : s.pc = .check)
    (more : s.buffer.hasEntriesSince s.cursor = true)
    (after : t = { s with pc := sending transport (s.buffer.readSince s.cursor).1 }) : InOrder sessionId t := by
  subst after
  have sorted := readSince_sorted s.buffer s.cursor
  have below : ∀ e ∈ s.delivered, e.seq ≤ s.cursor := by simpa [reached,checks] using inOrder.below
  have upto := le_getLast sorted
  have joined : ((s.delivered ++ (s.buffer.readSince s.cursor).1).map OutputEntry.seq).Pairwise (· < ·) := by
    rw [List.map_append,List.pairwise_append]
    refine ⟨?_,sorted,?_⟩
    · simpa [pending,checks] using inOrder.sorted
    · intro a first b second
      obtain ⟨e,old,rfl⟩ := List.mem_map.mp first
      obtain ⟨e',new,rfl⟩ := List.mem_map.mp second
      exact Nat.lt_of_le_of_lt (below e old) (readSince_after new)
  cases transport with
  | direct =>
    refine ⟨inOrder.carries,?_,joined,?_,?_⟩
    · intro rest last held; cases held
    · exact fun _ => below
    · intro rest last held; cases held
  | tunnel =>
    have flat := groups_flatten (s.buffer.readSince s.cursor).1
    refine ⟨inOrder.carries,?_,?_,?_,?_⟩
    · intro rest last held; cases held; exact groupFrom_nonempty [] _
    · simp only [sending,pending,flat]; exact joined
    · intro _ e old
      obtain ⟨new,member⟩ := List.exists_mem_of_ne_nil _ (readSince_nonempty more)
      exact Nat.le_trans (Nat.le_of_lt (Nat.lt_of_le_of_lt (below e old) (readSince_after member))) (upto new member)
    · intro rest last held
      cases held
      rw [flat]; exact upto

theorem inOrder_sendEntry {buffer : OutputBuffer} {cursor : Nat} {e : OutputEntry} {rest delivered : List OutputEntry}
    {sent : List StreamMsg} (inOrder : InOrder sessionId ⟨buffer,cursor,.sendEntries (e :: rest),sent,delivered⟩) :
    InOrder sessionId
      ⟨buffer,e.seq,.sendEntries rest,sent ++ [.output (entryToWsMessage sessionId e)],delivered ++ [e]⟩ := by
  have ordered : ((delivered ++ e :: rest).map OutputEntry.seq).Pairwise (· < ·) := inOrder.sorted
  refine ⟨?_,by simp,?_,?_,by simp⟩
  · rw [entryToWsMessage_eq]; exact carries_append (by simp) inOrder.carries
  · simpa [pending] using ordered
  · intro _ d member
    rw [List.map_append,List.pairwise_append] at ordered
    rcases List.mem_append.mp member with old | now
    · exact Nat.le_of_lt (ordered.2.2 d.seq (List.mem_map_of_mem old) e.seq (by simp))
    · rw [List.mem_singleton.mp now]; exact Nat.le_refl _

theorem inOrder_sendBatch {buffer : OutputBuffer} {cursor goal : Nat} {g : List OutputEntry}
    {rest : List (List OutputEntry)} {delivered : List OutputEntry} {sent : List StreamMsg}
    (inOrder : InOrder sessionId ⟨buffer,cursor,.sendBatches (g :: rest) goal,sent,delivered⟩) :
    InOrder sessionId
      ⟨buffer,cursor,.sendBatches rest goal,sent ++ [.output (batchMessage sessionId g)],delivered ++ g⟩ := by
  obtain ⟨carries,whole,sorted,below,last⟩ := inOrder
  have full := whole (g :: rest) goal rfl
  have upto := last (g :: rest) goal rfl
  refine ⟨carries_append (full g List.mem_cons_self) carries,?_,?_,?_,?_⟩
  · intro rest' last' held; cases held
    exact fun h member => full h (List.mem_cons_of_mem g member)
  · simpa [pending] using sorted
  · intro _ d member
    rcases List.mem_append.mp member with old | now
    · exact below (by simp) d old
    · exact upto d (by simp [now])
  · intro rest' last' held; cases held
    exact fun d member => upto d (by simp only [List.flatten_cons,List.mem_append]; exact .inr member)

theorem inOrder_step {s t : State} {a : Action} (inOrder : InOrder sessionId s)
    (stepped : step transport sessionId s a = some t) : InOrder sessionId t := by
  obtain ⟨buffer,cursor,pc,sent,delivered⟩ := s
  obtain ⟨carries,whole,sorted,below,last⟩ := inOrder
  cases a with
  | push stream data now =>
    cases stepped
    cases pc with
    | parked => exact ⟨carries,by simp [notifyWaiters],sorted,fun _ => below (by simp),by simp [notifyWaiters]⟩
    | _ => exact ⟨carries,whole,sorted,below,last⟩
  | close =>
    cases pc with
    | sendEntries rest =>
      cases rest with
      | nil => cases stepped
      | cons e rest =>
        cases stepped
        refine ⟨carries,by simp,?_,by simp,by simp⟩
        exact sorted.sublist (by simp [pending])
    | sendBatches rest last =>
      cases rest with
      | nil => cases stepped
      | cons g rest =>
        cases stepped
        refine ⟨carries,by simp,?_,by simp,by simp⟩
        exact sorted.sublist (by simp [pending])
    | _ => cases stepped
  | advance =>
    cases pc with
    | check =>
      simp only [step,advance] at stepped
      split_ifs at stepped with more
      · cases stepped
        exact inOrder_read ⟨carries,whole,sorted,below,last⟩ rfl more rfl
      · cases stepped
        exact ⟨carries,by simp,sorted,fun _ => below (by simp),by simp⟩
    | sendEntries rest =>
      cases rest with
      | nil => cases stepped; exact ⟨carries,by simp,sorted,fun _ => below (by simp),by simp⟩
      | cons e rest => cases stepped; exact inOrder_sendEntry ⟨carries,whole,sorted,below,last⟩
    | sendBatches rest goal =>
      cases rest with
      | nil => cases stepped; exact ⟨carries,by simp,sorted,fun _ => below (by simp),by simp⟩
      | cons g rest => cases stepped; exact inOrder_sendBatch ⟨carries,whole,sorted,below,last⟩
    | window => cases stepped; exact ⟨carries,by simp,sorted,fun _ => below (by simp),by simp⟩
    | parked => cases stepped
    | ended => cases stepped

theorem inOrder_increasing {s : State} (inOrder : InOrder sessionId s) : Increasing s := by
  have sorted := inOrder.sorted
  rw [List.map_append,List.pairwise_append] at sorted
  exact sorted.1.sublist (carries_seqs inOrder.carries)

/-- Everything from `since` on was delivered or is about to be, up to where the task got. -/
structure Gapless (since : Nat) (s : State) : Prop where
  seqs : (s.delivered ++ pending s.pc).map OutputEntry.seq =
    List.range' (since + 1) (s.delivered ++ pending s.pc).length
  position : match s.pc with
    | .sendBatches rest last => last = since + (s.delivered ++ rest.flatten).length
    | .ended => True
    | _ => s.cursor = since + s.delivered.length

theorem seqs_left {first second : List OutputEntry} {from_ : Nat}
    (seqs : (first ++ second).map OutputEntry.seq = List.range' from_ (first ++ second).length) :
    first.map OutputEntry.seq = List.range' from_ first.length := by
  rw [List.map_append,List.length_append,← List.range'_append_1] at seqs
  exact (List.append_inj seqs (by simp)).1

/-- A read that misses nothing goes on where the task got. -/
theorem readSince_next {b : OutputBuffer} {since : Nat} (all : (b.readSince since).2 = 0) :
    (b.readSince since).1.map OutputEntry.seq = List.range' (since + 1) (b.readSince since).1.length := by
  have held : b.oldestAvailable ≤ since + 1 := by
    simp only [OutputBuffer.readSince,ite_eq_right_iff] at all
    have capped : OutputBuffer.saturatingAdd since 1 ≤ since + 1 := Nat.min_le_left ..
    omega
  have seqs := b.readSince_seqs since
  rw [Nat.max_eq_left held] at seqs
  have count := congrArg List.length seqs
  rw [List.length_map,List.length_range'] at count
  rw [seqs,count]

theorem gapless_read {since : Nat} {s t : State} (gapless : Gapless since s) (checks : s.pc = .check)
    (all : (s.buffer.readSince s.cursor).2 = 0) (some_ : (s.buffer.readSince s.cursor).1 ≠ [])
    (after : t = { s with pc := sending transport (s.buffer.readSince s.cursor).1 }) : Gapless since t := by
  subst after
  have position : s.cursor = since + s.delivered.length := by simpa [checks] using gapless.position
  have old : s.delivered.map OutputEntry.seq = List.range' (since + 1) s.delivered.length := by
    simpa [checks,pending] using gapless.seqs
  have new := readSince_next all
  have seqs : (s.delivered ++ (s.buffer.readSince s.cursor).1).map OutputEntry.seq =
      List.range' (since + 1) (s.delivered ++ (s.buffer.readSince s.cursor).1).length := by
    have start : s.cursor + 1 = since + 1 + s.delivered.length := by omega
    rw [List.map_append,old,new,List.length_append,← List.range'_append_1,start]
  cases transport with
  | direct => exact ⟨seqs,position⟩
  | tunnel =>
    have flat := groups_flatten (s.buffer.readSince s.cursor).1
    refine ⟨by simp only [sending,pending,flat]; exact seqs,?_⟩
    show ((s.buffer.readSince s.cursor).1.getLast?.map OutputEntry.seq).getD 0 = _
    have last : ((s.buffer.readSince s.cursor).1.map OutputEntry.seq).getLast? =
        some (s.cursor + (s.buffer.readSince s.cursor).1.length) := by
      have pos := List.length_pos_iff.mpr some_
      rw [new,List.getLast?_range']
      simp [Nat.pos_iff_ne_zero.mp pos]
    rw [List.getLast?_map] at last
    rw [last,flat,List.length_append]
    simp only [Option.getD_some]; omega

theorem gapless_step {since : Nat} {s t : State} {a : Action} (gapless : Gapless since s) (reads : readsAll s a = true)
    (stepped : step transport sessionId s a = some t) : Gapless since t := by
  obtain ⟨buffer,cursor,pc,sent,delivered⟩ := s
  obtain ⟨seqs,position⟩ := gapless
  cases a with
  | push stream data now =>
    cases stepped
    cases pc with
    | parked => exact ⟨seqs,position⟩
    | _ => exact ⟨seqs,position⟩
  | close =>
    have delivered_ := seqs_left seqs
    cases pc with
    | sendEntries rest =>
      cases rest with
      | nil => cases stepped
      | cons e rest => cases stepped; exact ⟨by simpa [pending] using delivered_,trivial⟩
    | sendBatches rest last =>
      cases rest with
      | nil => cases stepped
      | cons g rest => cases stepped; exact ⟨by simpa [pending] using delivered_,trivial⟩
    | _ => cases stepped
  | advance =>
    cases pc with
    | check =>
      simp only [step,advance] at stepped
      split_ifs at stepped with more
      · cases stepped
        have all : (buffer.readSince cursor).2 = 0 := by simpa [readsAll,more] using reads
        exact gapless_read ⟨seqs,position⟩ rfl all (readSince_nonempty more) rfl
      · cases stepped; exact ⟨seqs,position⟩
    | sendEntries rest =>
      cases rest with
      | nil => cases stepped; exact ⟨seqs,position⟩
      | cons e rest =>
        cases stepped
        refine ⟨by simpa [pending] using seqs,?_⟩
        have upto : (delivered ++ [e]).map OutputEntry.seq = List.range' (since + 1) (delivered ++ [e]).length :=
          @seqs_left _ rest _ (by simpa [pending] using seqs)
        have last := congrArg List.getLast? upto
        simp [List.getLast?_range'] at last
        show e.seq = since + (delivered ++ [e]).length
        simp; omega
    | sendBatches rest goal =>
      cases rest with
      | nil => cases stepped; exact ⟨seqs,by simpa using position⟩
      | cons g rest => cases stepped; exact ⟨by simpa [pending] using seqs,by simpa [Nat.add_assoc] using position⟩
    | window => cases stepped; exact ⟨seqs,position⟩
    | parked => cases stepped
    | ended => cases stepped

theorem gapless_accounted {since : Nat} {s : State} (gapless : Gapless since s) : Accounted since s := by
  intro e member seq after upto
  have held := seqs_left gapless.seqs
  have here : e.seq ∈ s.delivered.map OutputEntry.seq := List.mem_map_of_mem member
  rw [held,List.mem_range'_1] at here
  left
  rw [held,List.mem_range'_1]
  omega

/-- The numbers a client gets only go up; and in a run in which every read
    finds all entries after the cursor, the client misses nothing unannounced. -/
theorem output_accounted (buffer : OutputBuffer) (since : Nat) (as : List Action) :
    Always (step transport sessionId) Increasing (start buffer since) as ∧
      (Along (step transport sessionId) (fun s a => readsAll s a = true) (start buffer since) as →
        Always (step transport sessionId) (Accounted since) (start buffer since) as) := by
  constructor
  · exact always_of_preserves (fun _ _ _ inOrder stepped => inOrder_step inOrder stepped)
      (fun _ => inOrder_increasing) (@inOrder_start sessionId buffer since)
  · intro reads
    refine always_of_keeps (fun _ _ _ gapless met stepped => gapless_step gapless met stepped)
      (fun _ gapless => gapless_accounted gapless) ?_ reads
    exact ⟨rfl,rfl⟩

theorem output_accounted_twice :
    Always (step .tunnel "s") (Accounted 0) (start (.new 2) 0)
      [.push .stdout "a" 0,.push .stderr "b" 0,.advance,.advance,.advance,.advance] :=
  (output_accounted (.new 2) 0 _).2 (by decide +kernel)

/-- Two pushes into a buffer for one entry: the client gets number 2 and hears nothing of number 1. -/
theorem output_missed :
    ¬ Always (step .direct "s") (fun s => Increasing s ∧ Accounted 0 s) (start (.new 1) 0)
      [.push .stdout "a" 0,.push .stdout "b" 0,.advance,.advance] := by
  intro all
  have last : (run (step .direct "s") (start (.new 1) 0) [.push .stdout "a" 0,.push .stdout "b" 0,.advance,.advance]).map
      (fun s => (s.delivered,s.sent.any StreamMsg.isGap)) = some ([⟨2,.stdout,"b",0⟩],false) := by decide +kernel
  obtain ⟨t,ran,known⟩ := Option.map_eq_some_iff.mp last
  obtain ⟨delivered,silent⟩ := Prod.mk.inj known
  have missed := (always_last all ran).2 ⟨2,.stdout,"b",0⟩ (by simp [delivered]) 1 (by decide) (by decide)
  simp [delivered,silent] at missed

end Sctl.Subscribers
