import Mathlib.Data.Finset.Card
import Mathlib.Data.List.Infix
import Mathlib.Order.Interval.Finset.Nat
import Sctl.McpClient

/-!
How much output a client takes for lost. It adds up the jumps in the numbers of
the frames that it gets. On a direct connection each frame is one entry; through
the tunnel a frame may carry several, under the number of the last one, so a
merged frame is a jump although nothing is missing.
-/
namespace Sctl.DroppedCounts
open Sctl.McpClient Sctl.SessionBuffer Sctl.Subscribers

structure Push where
  stream : OutputStream
  data : String
  now : Nat

/-- The entries that pushes leave in the ring, one after another. -/
def pushed (b : OutputBuffer) : List Push → List OutputEntry
  | [] => []
  | p :: rest =>
    let after := b.push p.stream p.data p.now
    after.entries.getLast?.toList ++ pushed after rest

/-- A message and the entries that went into it. -/
structure Frame where
  message : OutputMsg
  carried : List OutputEntry
deriving DecidableEq

/-- The frames of one batch that a subscriber has read. -/
def frames (sessionId : String) (batch : List OutputEntry) : Transport → List Frame
  | .direct => batch.map fun e => ⟨entryToWsMessage sessionId e,[e]⟩
  | .tunnel => List.zipWith Frame.mk (batchOutputEntries sessionId batch) (groups batch)

/-- The batches are pieces of the stream, in order; what is evicted before it is read is in none
    of them, and any frame may be lost. -/
structure Forwarded (sessionId : String) (transport : Transport) (stream : List OutputEntry)
    (batches : List (List OutputEntry)) (delivered : List Frame) : Prop where
  order : batches.flatten.Sublist stream
  pieces : ∀ batch ∈ batches, batch <:+: stream
  delivered : delivered.Sublist (batches.flatMap fun batch => frames sessionId batch transport)

/-- The batches are all there is of the stream from one entry to another, and no frame is lost. -/
structure Complete (sessionId : String) (transport : Transport) (stream : List OutputEntry)
    (batches : List (List OutputEntry)) (delivered : List Frame) : Prop where
  split : batches.flatten <:+: stream
  delivered : delivered = batches.flatMap fun batch => frames sessionId batch transport

def client (delivered : List Frame) : McpClient.SessionBuffer :=
  delivered.foldl (fun b f => b.receive (.output f.message)) .new

def carried (delivered : List Frame) : List Nat := (delivered.flatMap Frame.carried).map OutputEntry.seq

/-- How many entries between the first and the last delivered one were not delivered. -/
def undelivered (stream : List OutputEntry) (delivered : List Frame) : Nat :=
  match (carried delivered).head?, (carried delivered).getLast? with
  | some first, some last =>
    stream.countP fun e => first ≤ e.seq && e.seq ≤ last && !(carried delivered).contains e.seq
  | _, _ => 0

/-- No frame but the first is merged from several entries. -/
def Unmerged (delivered : List Frame) : Prop := ∀ f ∈ delivered.tail, f.carried.length = 1

/-! ### Numbers of entries -/

theorem pushed_cons (b : OutputBuffer) (p : Push) (rest : List Push) :
    pushed b (p :: rest) = ⟨b.nextSeq,p.stream,p.data,p.now⟩ :: pushed (b.push p.stream p.data p.now) rest := by
  simp [pushed,OutputBuffer.push]

theorem pushed_seqs (b : OutputBuffer) (pushes : List Push) :
    (pushed b pushes).map OutputEntry.seq = List.range' b.nextSeq pushes.length := by
  induction pushes generalizing b with
  | nil => rfl
  | cons p rest ih =>
    rw [pushed_cons,List.map_cons,ih,List.length_cons,List.range'_succ]
    rfl

/-- The numbers of a piece of the stream follow each other. -/
theorem infix_range' {piece : List Nat} {first count : Nat} (inside : piece <:+: List.range' first count) :
    ∃ start, piece = List.range' start piece.length := by
  obtain ⟨before,after,whole⟩ := inside
  have total : count = before.length + piece.length + after.length := by
    have lengths := congrArg List.length whole
    simp only [List.length_append,List.length_range'] at lengths
    exact lengths.symm
  rw [total,← List.range'_append_1,← List.range'_append_1] at whole
  have left := List.append_inj_left whole (by simp)
  exact ⟨first + before.length,List.append_inj_right left (by simp)⟩

theorem head_le {chosen : List Nat} {low n : Nat} (sorted : chosen.Pairwise (· < ·)) (lowest : chosen.head? = some low)
    (member : n ∈ chosen) : low ≤ n := by
  cases chosen with
  | nil => cases member
  | cons first rest =>
    cases lowest
    rcases List.mem_cons.mp member with rfl | later
    · exact Nat.le_refl n
    · exact Nat.le_of_lt ((List.pairwise_cons.mp sorted).1 n later)

theorem le_getLast {chosen : List Nat} {high n : Nat} (sorted : chosen.Pairwise (· < ·))
    (highest : chosen.getLast? = some high) (member : n ∈ chosen) : n ≤ high := by
  obtain ⟨before,rfl⟩ := List.getLast?_eq_some_iff.mp highest
  rcases List.mem_append.mp member with earlier | here
  · exact Nat.le_of_lt ((List.pairwise_append.mp sorted).2.2 n earlier high (List.mem_singleton_self high))
  · rw [List.mem_singleton.mp here]

/-- What is missing between the ends of a selection of consecutive numbers. -/
theorem countP_missing {chosen : List Nat} {first count low high : Nat} (sub : chosen.Sublist (List.range' first count))
    (lowest : chosen.head? = some low) (highest : chosen.getLast? = some high) :
    (List.range' first count).countP (fun n => low ≤ n && n ≤ high && !chosen.contains n) + chosen.length =
      high + 1 - low := by
  have distinct : (List.range' first count).Nodup := List.nodup_range'
  have sorted : chosen.Pairwise (· < ·) := List.Pairwise.sublist sub List.pairwise_lt_range'
  have inside : ∀ n ∈ chosen, low ≤ n ∧ n ≤ high := fun n member =>
    ⟨head_le sorted lowest member,le_getLast sorted highest member⟩
  have ends : low ∈ List.range' first count ∧ high ∈ List.range' first count :=
    ⟨sub.subset (List.mem_of_mem_head? lowest),sub.subset (List.mem_of_mem_getLast? highest)⟩
  simp only [List.mem_range'_1] at ends
  have gaps : ((List.range' first count).filter fun n => low ≤ n && n ≤ high && !chosen.contains n).toFinset =
      Finset.Icc low high \ chosen.toFinset := by
    ext n
    simp only [List.mem_toFinset,List.mem_filter,List.mem_range'_1,Bool.and_eq_true,decide_eq_true_eq,Finset.mem_sdiff,
      Finset.mem_Icc,Bool.not_eq_true',List.contains_eq_mem,decide_eq_false_iff_not]
    constructor
    · rintro ⟨-,between,absent⟩
      exact ⟨between,absent⟩
    · rintro ⟨between,absent⟩
      exact ⟨by omega,between,absent⟩
  have covered : chosen.toFinset ⊆ Finset.Icc low high := fun n member =>
    Finset.mem_Icc.mpr (inside n (List.mem_toFinset.mp member))
  have size := Finset.card_sdiff_add_card_eq_card covered
  rw [← gaps,List.toFinset_card_of_nodup (distinct.filter _),List.toFinset_card_of_nodup (distinct.sublist sub),
    Nat.card_Icc] at size
  rw [List.countP_eq_length_filter]
  exact size

/-! ### Frames -/

/-- A frame carries a run of consecutive entries and has the number of the last. -/
structure Whole (sessionId : String) (f : Frame) : Prop where
  message : f.message = batchMessage sessionId f.carried
  some_ : f.carried ≠ []
  run : ∃ start, f.carried.map OutputEntry.seq = List.range' start f.carried.length

theorem frames_eq (sessionId : String) (batch : List OutputEntry) (transport : Transport) :
    ∃ split : List (List OutputEntry), split.flatten = batch ∧ (∀ group ∈ split, group ≠ []) ∧
      frames sessionId batch transport = split.map fun group => ⟨batchMessage sessionId group,group⟩ := by
  cases transport with
  | direct =>
    refine ⟨batch.map fun e => [e],?_,by simp,?_⟩
    · rw [← List.flatMap_def,List.flatMap_singleton']
    · simp [frames,entryToWsMessage_eq,Function.comp_def]
  | tunnel =>
    refine ⟨groups batch,groups_flatten batch,groupFrom_nonempty [] batch,?_⟩
    simp [frames,batchOutputEntries_eq,List.zipWith_map_left,List.zipWith_self]

variable {sessionId : String} {transport : Transport} {b : OutputBuffer} {pushes : List Push}
  {batches : List (List OutputEntry)} {delivered : List Frame}

theorem whole_of_forwarded (forwarded : Forwarded sessionId transport (pushed b pushes) batches delivered) :
    ∀ f ∈ delivered, Whole sessionId f := by
  intro f member
  obtain ⟨batch,among,sent⟩ := List.mem_flatMap.mp (forwarded.delivered.subset member)
  obtain ⟨split,flat,some_,eq⟩ := frames_eq sessionId batch transport
  rw [eq] at sent
  obtain ⟨group,here,rfl⟩ := List.mem_map.mp sent
  refine ⟨rfl,some_ group here,?_⟩
  have piece : group <:+: pushed b pushes :=
    (flat ▸ List.infix_of_mem_flatten here).trans (forwarded.pieces batch among)
  have seqs := piece.map OutputEntry.seq
  rw [pushed_seqs] at seqs
  simpa using infix_range' seqs

theorem carried_frames (sessionId : String) (batch : List OutputEntry) (transport : Transport) :
    (frames sessionId batch transport).flatMap Frame.carried = batch := by
  obtain ⟨split,flat,-,eq⟩ := frames_eq sessionId batch transport
  rw [eq,List.flatMap_map]
  simpa [List.flatMap_def] using flat

/-- The numbers of what is delivered are a selection of those of the stream. -/
theorem carried_sublist (forwarded : Forwarded sessionId transport (pushed b pushes) batches delivered) :
    (carried delivered).Sublist (List.range' b.nextSeq pushes.length) := by
  have part : (delivered.flatMap Frame.carried).Sublist
      ((batches.flatMap fun batch => frames sessionId batch transport).flatMap Frame.carried) :=
    forwarded.delivered.flatMap _
  rw [List.flatMap_assoc] at part
  simp only [carried_frames] at part
  rw [List.flatMap_id'] at part
  have seqs := (part.trans forwarded.order).map OutputEntry.seq
  rwa [pushed_seqs] at seqs

theorem whole_last {f : Frame} (whole : Whole sessionId f) :
    (f.carried.map OutputEntry.seq).getLast? = some f.message.seq := by
  obtain ⟨before,last,carried⟩ := List.eq_nil_or_concat' f.carried |>.resolve_left whole.some_
  rw [whole.message,carried]
  simp [batchMessage]

/-- The numbers of the frames are among those of the entries, and the last of them is the last. -/
theorem messages_sublist (wholes : ∀ f ∈ delivered, Whole sessionId f) :
    (delivered.map fun f => f.message.seq).Sublist (carried delivered) := by
  induction delivered with
  | nil => exact List.Sublist.refl _
  | cons f rest ih =>
    have last := List.mem_of_getLast? (whole_last (wholes f List.mem_cons_self))
    have later := ih fun g member => wholes g (List.mem_cons_of_mem f member)
    simp only [carried,List.flatMap_cons,List.map_append,List.map_cons]
    exact (List.singleton_sublist.mpr last).append later

theorem carried_getLast (wholes : ∀ f ∈ delivered, Whole sessionId f) :
    (carried delivered).getLast? = (delivered.map fun f => f.message.seq).getLast? := by
  induction delivered with
  | nil => rfl
  | cons f rest ih =>
    have last := whole_last (wholes f List.mem_cons_self)
    have later := ih fun g member => wholes g (List.mem_cons_of_mem f member)
    simp only [carried] at later
    rw [carried,List.flatMap_cons,List.map_append,List.getLast?_append,later,last,List.map_cons,← List.singleton_append,
      List.getLast?_append]
    rfl

/-! ### What the client counts -/

theorem receive_frame {f : Frame} (whole : Whole sessionId f) (b : McpClient.SessionBuffer) :
    ∃ e : OutputEntry, e.seq = f.message.seq ∧ b.receive (.output f.message) = b.push e := by
  have parsed : ∃ e, parseOutputEntry f.message = some (sessionId,e) := by
    rw [whole.message]
    obtain ⟨first,rest,carried⟩ := List.exists_cons_of_ne_nil whole.some_
    rw [carried]
    obtain ⟨seq,stream,data,now⟩ := first
    cases stream <;> exact ⟨_,rfl⟩
  obtain ⟨e,parsed⟩ := parsed
  exact ⟨e,parseOutputEntry_seq parsed,by simp only [McpClient.SessionBuffer.receive,parsed]⟩

/-- After a first frame each one counts for the jump up to it. -/
theorem dropped_after (wholes : ∀ f ∈ delivered, Whole sessionId f) {b : McpClient.SessionBuffer}
    (positive : 0 < b.lastSeq) (ordered : (b.lastSeq :: delivered.map fun f => f.message.seq).Pairwise (· < ·)) :
    (delivered.foldl (fun b f => b.receive (.output f.message)) b).droppedCount + delivered.length + b.lastSeq =
      b.droppedCount + (delivered.map fun f => f.message.seq).getLastD b.lastSeq := by
  induction delivered generalizing b with
  | nil => simp
  | cons f rest ih =>
    obtain ⟨e,seq,received⟩ := receive_frame (wholes f List.mem_cons_self) b
    simp only [List.map_cons] at ordered
    obtain ⟨least,later⟩ := List.pairwise_cons.mp ordered
    have above : b.lastSeq < e.seq := seq ▸ least f.message.seq List.mem_cons_self
    have last : (b.push e).lastSeq = e.seq := Nat.max_eq_right above.le
    have counted : (b.push e).droppedCount = b.droppedCount + (e.seq - b.lastSeq - 1) := by
      simp only [McpClient.SessionBuffer.push]
      split <;> omega
    have onward : 0 < (b.push e).lastSeq := by omega
    have behind : ((b.push e).lastSeq :: rest.map fun f => f.message.seq).Pairwise (· < ·) := by
      rw [last,seq]
      exact later
    have jumps := ih (fun g member => wholes g (List.mem_cons_of_mem f member)) onward behind
    rw [last,counted] at jumps
    simp only [List.foldl_cons,received,List.length_cons,List.map_cons,List.getLastD_cons,← seq]
    omega

/-- The numbers of a frame run from the first up to that of its message. -/
theorem whole_first {f : Frame} (whole : Whole sessionId f) :
    ∃ start, (f.carried.map OutputEntry.seq).head? = some start ∧ start + f.carried.length = f.message.seq + 1 := by
  obtain ⟨start,run⟩ := whole.run
  have pos := List.length_pos_iff.mpr whole.some_
  have last := whole_last whole
  rw [run,List.getLast?_range',if_neg (by omega)] at last
  have seq := Option.some.inj last
  refine ⟨start,?_,by omega⟩
  rw [run,List.head?_range',if_neg (by omega)]

/-- What is counted between the first frame and the last, and what is missing between them. -/
theorem client_counts {f : Frame} {rest : List Frame}
    (forwarded : Forwarded sessionId transport (pushed b pushes) batches (f :: rest)) :
    (client (f :: rest)).droppedCount + rest.length =
      undelivered (pushed b pushes) (f :: rest) + (rest.flatMap Frame.carried).length := by
  have wholes := whole_of_forwarded forwarded
  have whole := wholes f List.mem_cons_self
  have later : ∀ g ∈ rest, Whole sessionId g := fun g member => wholes g (List.mem_cons_of_mem f member)
  have sub := carried_sublist forwarded
  obtain ⟨start,first,message⟩ := whole_first whole
  have head : (carried (f :: rest)).head? = some start := by
    rw [carried,List.flatMap_cons,List.map_append,List.head?_append,first]
    rfl
  have last : (carried (f :: rest)).getLast? = some ((rest.map fun g => g.message.seq).getLastD f.message.seq) := by
    rw [carried_getLast wholes,List.map_cons,List.getLast?_cons,List.getLastD_eq_getLast?]
  -- what the client counts
  have room := b.room
  have known : start ∈ List.range' b.nextSeq pushes.length := sub.subset (List.mem_of_mem_head? head)
  rw [List.mem_range'_1] at known
  obtain ⟨e,seq,received⟩ := receive_frame whole .new
  have opened : (McpClient.SessionBuffer.new.push e).lastSeq = f.message.seq ∧
      (McpClient.SessionBuffer.new.push e).droppedCount = 0 := by
    rw [← seq]
    exact ⟨Nat.max_eq_right (Nat.zero_le _),by simp [McpClient.SessionBuffer.push,McpClient.SessionBuffer.new]⟩
  have ordered : (f.message.seq :: rest.map fun g => g.message.seq).Pairwise (· < ·) :=
    List.Pairwise.sublist ((messages_sublist wholes).trans sub) List.pairwise_lt_range'
  have pos := List.length_pos_iff.mpr whole.some_
  have onward : 0 < (McpClient.SessionBuffer.new.push e).lastSeq := by rw [opened.1]; omega
  have jumps := dropped_after later onward (by rw [opened.1]; exact ordered)
  rw [opened.1,opened.2] at jumps
  -- what is missing
  have missing := countP_missing sub head last
  have size : (carried (f :: rest)).length = f.carried.length + (rest.flatMap Frame.carried).length := by
    simp [carried]
  have counted : undelivered (pushed b pushes) (f :: rest) = (List.range' b.nextSeq pushes.length).countP
      fun n => start ≤ n && n ≤ (rest.map fun g => g.message.seq).getLastD f.message.seq &&
        !(carried (f :: rest)).contains n := by
    simp only [undelivered,head,last]
    rw [← pushed_seqs,List.countP_map]
    rfl
  have reached : f.message.seq ≤ (rest.map fun g => g.message.seq).getLastD f.message.seq :=
    le_getLast ordered (by rw [List.getLast?_cons,List.getLastD_eq_getLast?]) List.mem_cons_self
  rw [client,List.foldl_cons,received]
  omega

theorem length_flatMap_eq_iff (some_ : ∀ f ∈ delivered, f.carried ≠ []) :
    delivered.length ≤ (delivered.flatMap Frame.carried).length ∧
      ((delivered.flatMap Frame.carried).length = delivered.length ↔ ∀ f ∈ delivered, f.carried.length = 1) := by
  induction delivered with
  | nil => simp
  | cons f rest ih =>
    obtain ⟨least,exact_⟩ := ih fun g member => some_ g (List.mem_cons_of_mem f member)
    have pos := List.length_pos_iff.mpr (some_ f List.mem_cons_self)
    simp only [List.flatMap_cons,List.length_append,List.length_cons,List.forall_mem_cons,← exact_]
    omega

theorem undelivered_complete (complete : Complete sessionId transport (pushed b pushes) batches delivered) :
    undelivered (pushed b pushes) delivered = 0 := by
  have piece : carried delivered <:+: List.range' b.nextSeq pushes.length := by
    have seqs := complete.split.map OutputEntry.seq
    rw [pushed_seqs] at seqs
    rw [carried,complete.delivered,List.flatMap_assoc]
    simpa only [carried_frames,List.flatMap_id'] using seqs
  obtain ⟨start,run⟩ := infix_range' piece
  simp only [undelivered]
  split
  · next first last head highest =>
    have missing := countP_missing piece.sublist head highest
    rw [run,List.head?_range'] at head
    rw [run,List.getLast?_range'] at highest
    split at head
    · cases head
    · next some_ =>
      rw [if_neg some_] at highest
      have low := Option.some.inj head
      have high := Option.some.inj highest
      rw [← pushed_seqs,List.countP_map] at missing
      simp only [Function.comp_def] at missing
      omega
  · rfl

/-- The client's count is the number of entries that are missing exactly when no frame after
    the first was merged; when nothing is lost it is zero under the same condition. -/
theorem dropped_count_iff (forwarded : Forwarded sessionId transport (pushed b pushes) batches delivered) :
    ((client delivered).droppedCount = undelivered (pushed b pushes) delivered ↔ Unmerged delivered) ∧
      (Complete sessionId transport (pushed b pushes) batches delivered →
        ((client delivered).droppedCount = 0 ↔ Unmerged delivered)) := by
  cases delivered with
  | nil => simp [client,undelivered,carried,Unmerged,McpClient.SessionBuffer.new]
  | cons f rest =>
    have wholes := whole_of_forwarded forwarded
    obtain ⟨least,unmerged⟩ := @length_flatMap_eq_iff rest fun g member =>
      (wholes g (List.mem_cons_of_mem f member)).some_
    have counts := client_counts forwarded
    have same : (client (f :: rest)).droppedCount = undelivered (pushed b pushes) (f :: rest) ↔ Unmerged (f :: rest) := by
      rw [Unmerged,List.tail_cons,← unmerged]
      omega
    refine ⟨same,fun complete => ?_⟩
    rw [← same,undelivered_complete complete]

/-- Entry by entry no frame is merged. -/
theorem unmerged_direct (forwarded : Forwarded sessionId .direct (pushed b pushes) batches delivered) :
    Unmerged delivered := by
  intro f member
  obtain ⟨batch,-,sent⟩ := List.mem_flatMap.mp (forwarded.delivered.subset (List.mem_of_mem_tail member))
  obtain ⟨e,-,rfl⟩ := List.mem_map.mp sent
  rfl

def threePushes : List Push := [⟨.stdout,"a",1⟩,⟨.stdout,"b",2⟩,⟨.stdout,"c",3⟩]

def entryAt (n : Nat) (data : String) : OutputEntry := ⟨n,.stdout,data,n⟩

/-- The second of three entries is lost on a direct connection. -/
def secondLost : List Frame := [⟨⟨"session.stdout","s","a",1,1⟩,[entryAt 1 "a"]⟩,⟨⟨"session.stdout","s","c",3,3⟩,[entryAt 3 "c"]⟩]

theorem forwarded_secondLost : Forwarded "s" .direct (pushed (.new 16) threePushes)
    [[entryAt 1 "a",entryAt 2 "b",entryAt 3 "c"]] secondLost :=
  ⟨by decide +kernel,by decide +kernel,by decide +kernel⟩

theorem dropped_count_played : Unmerged secondLost ∧
    (client secondLost).droppedCount = undelivered (pushed (.new 16) threePushes) secondLost ∧
    (client secondLost).droppedCount = 1 := by
  have unmerged : Unmerged secondLost := unmerged_direct forwarded_secondLost
  exact ⟨unmerged,(dropped_count_iff forwarded_secondLost).1.mpr unmerged,by decide +kernel⟩

/-- The second and the third entry come as one frame through the tunnel. -/
def merged : List Frame :=
  [⟨⟨"session.stdout","s","a",1,1⟩,[entryAt 1 "a"]⟩,⟨⟨"session.stdout","s","bc",3,3⟩,[entryAt 2 "b",entryAt 3 "c"]⟩]

theorem merged_counted : ¬ ∀ (sessionId : String) (transport : Transport) (b : OutputBuffer) (pushes : List Push)
    (batches : List (List OutputEntry)) (delivered : List Frame),
    Forwarded sessionId transport (pushed b pushes) batches delivered →
    (Complete sessionId transport (pushed b pushes) batches delivered → (client delivered).droppedCount = 0) ∧
      (client delivered).droppedCount = undelivered (pushed b pushes) delivered := by
  intro claim
  have none_ := (claim "s" .tunnel (.new 16) threePushes [[entryAt 1 "a"],[entryAt 2 "b",entryAt 3 "c"]] merged
    ⟨by decide +kernel,by decide +kernel,by decide +kernel⟩).1 ⟨by decide +kernel,by decide +kernel⟩
  have one : (client merged).droppedCount = 1 := by decide +kernel
  rw [one] at none_
  cases none_

end Sctl.DroppedCounts
