import Sctl.ClientStream

/-!
From where the client resumes. Its last number is what a reconnect asks the
device to go on from and what a reader passes as its cursor, so it must not be
ahead of the device, and no entry that the device still has may lie before it
that the client never got. The client numbers its own notices from the same
counter.
-/
namespace Sctl.ClientResume
open Sctl.ClientStream Sctl.Marks Sctl.McpClient Sctl.Runs Sctl.SessionBuffer
open Sctl.Subscribers (batchMessage batchMessage_seq entryToWsMessage)

/-- The last number was sent by the device, and everything retained up to it arrived. -/
structure Resumable (s : State) : Prop where
  reached : s.client.lastSeq ≤ s.sent
  complete : ∀ e ∈ s.device.entries, e.seq ≤ s.client.lastSeq → e.seq ∈ s.received

/-- A notice takes a number that the device has sent and that no retained entry has which the
    client lacks; a message goes past no retained entry that neither it nor an earlier one carried. -/
def skipsNothing (s : State) : Action → Bool
  | .dispatch =>
    match s.wire with
    | (m,carried) :: _ =>
      if m.notices then
        s.client.lastSeq < s.sent &&
          s.device.entries.all fun e => decide (e.seq = s.client.lastSeq + 1 → e.seq ∈ s.received)
      else
        s.device.entries.all fun e => decide (s.client.lastSeq < e.seq → e.seq ≤ (numbers m.brings).foldl max 0 →
          e.seq ∈ s.received ++ carried)
    | [] => true
  | _ => true

/-- What the device has sent and holds to send was pushed before. -/
structure Sending (s : State) : Prop where
  pushed : s.sent < s.device.nextSeq
  held : ∀ cursor held, s.subscriber = some (cursor,held) → ∀ e ∈ held, e.seq < s.device.nextSeq
  aborted : ∀ held ∈ s.aborted, ∀ e ∈ held, e.seq < s.device.nextSeq
  wire : ∀ p ∈ s.wire, ∀ n ∈ numbers p.1.brings, n ≤ s.sent
  notices : ∀ p ∈ s.wire, p.1.notices = true → p.2 = []

variable {sessionId : String} {s t : State} {a : Action}

theorem brings_batch {group : List OutputEntry} (some_ : group ≠ []) :
    ∀ n ∈ numbers (Message.output (batchMessage sessionId group)).brings, n ∈ numbers group := by
  intro n member
  obtain ⟨e,brought,rfl⟩ := List.mem_map.mp member
  simp only [Message.brings,Option.mem_toList,Option.map_eq_some_iff] at brought
  obtain ⟨⟨id,e'⟩,parsed,rfl⟩ := brought
  rw [parseOutputEntry_seq parsed]
  exact batchMessage_seq some_

theorem sending_sendAs {s' : State} {group : List OutputEntry} (sending : Sending s) (some_ : group ≠ [])
    (device : s'.device = s.device) (wire : s'.wire = s.wire) (sent : s'.sent = s.sent)
    (own : ∀ e ∈ group, e.seq < s.device.nextSeq)
    (held : ∀ cursor held, s'.subscriber = some (cursor,held) → ∀ e ∈ held, e.seq < s.device.nextSeq)
    (aborted : ∀ held ∈ s'.aborted, ∀ e ∈ held, e.seq < s.device.nextSeq) : Sending (sendAs sessionId s' group) := by
  obtain ⟨least,most⟩ := le_foldl_max (numbers group) 0
  have below : (numbers group).foldl max 0 < s.device.nextSeq :=
    foldl_max_lt (Nat.zero_lt_of_lt sending.pushed) (List.forall_mem_map.mpr own)
  refine ⟨?_,?_,?_,?_,?_⟩
  · have before := sending.pushed
    simp only [sendAs,device,sent]
    omega
  · simp only [sendAs,device]
    exact held
  · simp only [sendAs,device]
    exact aborted
  · intro p member n brought
    simp only [sendAs,wire,sent] at member ⊢
    rcases List.mem_append.mp member with old | new
    · exact (sending.wire p old n brought).trans (Nat.le_max_left ..)
    · rw [List.mem_singleton.mp new] at brought
      exact (most n (brings_batch some_ n brought)).trans (Nat.le_max_right ..)
  · intro p member notices
    simp only [sendAs,wire] at member
    rcases List.mem_append.mp member with old | new
    · exact sending.notices p old notices
    · rw [List.mem_singleton.mp new] at notices
      cases notices

theorem kept_subset {b : OutputBuffer} {e : OutputEntry} (member : e ∈ b.kept) : e ∈ b.entries := by
  unfold OutputBuffer.kept at member
  split at member
  · exact List.mem_of_mem_drop member
  · exact member

theorem seq_pos {b : OutputBuffer} {e : OutputEntry} (member : e ∈ b.entries) : 0 < e.seq := by
  have room := b.room
  have seq : e.seq ∈ b.entries.map OutputEntry.seq := List.mem_map_of_mem member
  rw [b.sequenced,List.mem_range'_1] at seq
  omega

theorem mem_readSince_lt {b : OutputBuffer} {since : Nat} {e : OutputEntry} (member : e ∈ (b.readSince since).1) :
    e.seq < b.nextSeq := OutputBuffer.seq_lt_nextSeq (Retention.mem_readSince.mp member).1

theorem sending_answerAttach (sending : Sending s) (since : Nat) : Sending (answerAttach sessionId s since) := by
  obtain ⟨least,most⟩ := le_foldl_max (numbers (s.device.readSince since).1) 0
  have below : (numbers (s.device.readSince since).1).foldl max 0 < s.device.nextSeq :=
    foldl_max_lt (Nat.zero_lt_of_lt sending.pushed) (List.forall_mem_map.mpr fun e => mem_readSince_lt)
  refine ⟨?_,?_,?_,?_,?_⟩
  · have before := sending.pushed
    simp only [answerAttach]
    omega
  · rintro cursor held ⟨⟩ e member
    cases member
  · intro held member
    rcases List.mem_append.mp member with old | new
    · exact sending.aborted held old
    · obtain ⟨⟨cursor,held'⟩,subscribed,rfl⟩ := List.mem_map.mp new
      exact sending.held cursor held' (Option.mem_toList.mp subscribed)
  · intro p member n brought
    rcases List.mem_append.mp member with old | new
    · exact (sending.wire p old n brought).trans (Nat.le_max_left ..)
    · rw [List.mem_singleton.mp new,brings_replay] at brought
      exact (most n brought).trans (Nat.le_max_right ..)
  · intro p member notices
    rcases List.mem_append.mp member with old | new
    · exact sending.notices p old notices
    · rw [List.mem_singleton.mp new] at notices
      cases notices

/-- A step that leaves what the device sends alone. -/
theorem sending_frame (sending : Sending s) (nextSeq : s.device.nextSeq ≤ t.device.nextSeq) (sent : t.sent = s.sent)
    (subscriber : t.subscriber = s.subscriber ∨ t.subscriber = none) (aborted : ∀ held ∈ t.aborted, held ∈ s.aborted)
    (wire : ∀ p ∈ t.wire, p ∈ s.wire) : Sending t where
  pushed := by rw [sent]; exact sending.pushed.trans_le nextSeq
  held cursor held has e member := by
    rcases subscriber with same | gone
    · exact (sending.held cursor held (same ▸ has) e member).trans_le nextSeq
    · rw [gone] at has; cases has
  aborted held member e within := (sending.aborted held (aborted held member) e within).trans_le nextSeq
  wire p member := by rw [sent]; exact sending.wire p (wire p member)
  notices p member := sending.notices p (wire p member)

theorem sending_step (sending : Sending s) (stepped : step sessionId s a = some t) : Sending t := by
  cases a with
  | push stream data now =>
    cases stepped
    exact sending_frame sending (Nat.le_succ _) rfl (.inl rfl) (fun _ => id) fun _ => id
  | read =>
    simp only [step] at stepped
    split at stepped
    · cases stepped
      refine ⟨sending.pushed,?_,sending.aborted,sending.wire,sending.notices⟩
      rintro cursor held ⟨⟩ e member
      exact mem_readSince_lt member
    · cases stepped
  | send count =>
    simp only [step] at stepped
    split at stepped
    · next cursor held subscribed =>
      simp only [Option.ite_none_right_eq_some,Option.some.injEq] at stepped
      obtain ⟨⟨some_,-⟩,rfl⟩ := stepped
      have own := sending.held cursor held subscribed
      refine sending_sendAs sending some_ rfl rfl rfl (fun e member => own e (List.mem_of_mem_take member)) ?_ sending.aborted
      rintro cursor held ⟨⟩ e member
      exact own e (List.mem_of_mem_drop member)
    · cases stepped
  | sendAborted task count =>
    simp only [step] at stepped
    split at stepped
    · next held found =>
      simp only [Option.ite_none_right_eq_some,Option.some.injEq] at stepped
      obtain ⟨⟨some_,-⟩,rfl⟩ := stepped
      have own := sending.aborted held (List.mem_of_getElem? found)
      refine sending_sendAs sending some_ rfl rfl rfl (fun e member => own e (List.mem_of_mem_take member)) sending.held ?_
      intro other member
      rcases List.mem_or_eq_of_mem_set member with old | rfl
      · exact sending.aborted other old
      · exact fun e within => own e (List.mem_of_mem_drop within)
    · cases stepped
  | attach since => cases stepped; exact sending_answerAttach sending since
  | tell m =>
    simp only [step,Option.ite_none_right_eq_some,Option.some.injEq] at stepped
    obtain ⟨empty,rfl⟩ := stepped
    refine ⟨sending.pushed,sending.held,sending.aborted,?_,?_⟩
    · intro p member n brought
      rcases List.mem_append.mp member with old | new
      · exact sending.wire p old n brought
      · rw [List.mem_singleton.mp new,empty] at brought
        cases brought
    · intro p member notices
      rcases List.mem_append.mp member with old | new
      · exact sending.notices p old notices
      · rw [List.mem_singleton.mp new]
  | lose n =>
    cases stepped
    exact sending_frame sending (Nat.le_refl _) rfl (.inl rfl) (fun _ => id) fun p member => List.mem_of_mem_eraseIdx member
  | disconnect =>
    cases stepped
    exact sending_frame sending (Nat.le_refl _) rfl (.inr rfl) (fun _ member => by cases member)
      fun p member => by cases member
  | reattach =>
    simp only [step,Option.ite_none_right_eq_some,Option.some.injEq] at stepped
    obtain ⟨-,rfl⟩ := stepped
    exact sending_answerAttach sending _
  | dispatch =>
    simp only [step] at stepped
    split at stepped
    · next m carried rest wire =>
      cases stepped
      exact sending_frame sending (Nat.le_refl _) rfl (.inl rfl) (fun _ => id)
        fun p member => by rw [wire]; exact List.mem_cons_of_mem _ member
    · cases stepped
  | execWait => cases stepped; exact sending_frame sending (Nat.le_refl _) rfl (.inl rfl) (fun _ => id) fun _ => id
  | poll => cases stepped; exact sending_frame sending (Nat.le_refl _) rfl (.inl rfl) (fun _ => id) fun _ => id

/-! ### One step -/

/-- The last number after a message without a notice. -/
theorem receive_lastSeq (b : McpClient.SessionBuffer) {m : Message} (plain : m.notices = false) :
    (b.receive m).lastSeq = max b.lastSeq ((numbers m.brings).foldl max 0) := by
  have pushed : b.pushes m = m.brings := by
    cases m with
    | exited sessionId exitCode => cases plain
    | gap sessionId reason => cases plain
    | output m | attached sessionId status exitCode pty entries | closed sessionId | error code sessionId request
    | started sessionId pty request | listed request | aiStatusAck sessionId request | other => rfl
  rw [(b.receive_output m).lastSeq,SessionBuffer.foldl_push_lastSeq,pushed,foldl_max_eq]
  rfl

theorem notice_lastSeq (b : McpClient.SessionBuffer) {m : Message} (noticed : m.notices = true) :
    (b.receive m).lastSeq = b.lastSeq + 1 := by
  rw [(b.receive_output m).lastSeq,SessionBuffer.foldl_push_lastSeq]
  have after : max b.lastSeq (b.lastSeq + 1) = b.lastSeq + 1 := Nat.max_eq_right (Nat.le_succ _)
  cases m with
  | exited sessionId exitCode => exact after
  | gap sessionId reason => exact after
  | output m | attached sessionId status exitCode pty entries | closed sessionId | error code sessionId request
  | started sessionId pty request | listed request | aiStatusAck sessionId request | other => cases noticed

theorem resumable_dispatch {m : Message} {carried : List Nat} {rest : List (Message × List Nat)} (sending : Sending s)
    (resumable : Resumable s) (wire : s.wire = (m,carried) :: rest) :
    Resumable { s with wire := rest, client := s.client.receive m, received := s.received ++ carried } ↔
      skipsNothing s .dispatch = true := by
  have here : (m,carried) ∈ s.wire := by rw [wire]; exact List.mem_cons_self
  simp only [skipsNothing,wire]
  by_cases noticed : m.notices = true
  · have none_ : carried = [] := sending.notices (m,carried) here noticed
    have last := notice_lastSeq s.client noticed
    simp only [noticed,if_true,Bool.and_eq_true,decide_eq_true_eq,List.all_eq_true]
    constructor
    · rintro ⟨reached,complete⟩
      simp only [last,none_,List.append_nil] at reached complete
      exact ⟨reached,fun e member next => complete e member next.le⟩
    · rintro ⟨reached,next⟩
      refine ⟨by rw [last]; exact reached,fun e member below => ?_⟩
      simp only [last,none_,List.append_nil] at below ⊢
      rcases Nat.le_succ_iff.mp below with old | new
      · exact resumable.complete e member old
      · exact next e member new
  · have plain : m.notices = false := Bool.eq_false_iff.mpr noticed
    have last := receive_lastSeq s.client plain
    simp only [plain,Bool.false_eq_true,if_false,List.all_eq_true,decide_eq_true_eq]
    constructor
    · rintro ⟨-,complete⟩ e member - below
      exact complete e member (by rw [last]; exact below.trans (Nat.le_max_right ..))
    · intro carries
      refine ⟨?_,fun e member below => ?_⟩
      · rw [last]
        exact Nat.max_le.mpr ⟨resumable.reached,foldl_max_le (Nat.zero_le _) (sending.wire (m,carried) here)⟩
      · rcases le_or_gt e.seq s.client.lastSeq with old | new
        · exact List.mem_append_left _ (resumable.complete e member old)
        · rw [last] at below
          exact carries e member new ((le_max_iff.mp below).resolve_left (Nat.not_le_of_lt new))

theorem resumable_frame (resumable : Resumable s) (same : EndsSame s t) : Resumable t where
  reached := by rw [same.client]; exact resumable.reached.trans same.sent
  complete := by rw [same.device,same.client,same.received]; exact resumable.complete

theorem resumable_step (sending : Sending s) (resumable : Resumable s) (stepped : step sessionId s a = some t) :
    Resumable t ↔ skipsNothing s a = true := by
  cases a with
  | push stream data now =>
    cases stepped
    refine iff_of_true ⟨resumable.reached,fun e member below => ?_⟩ rfl
    rcases List.mem_append.mp member with kept | new
    · exact resumable.complete e (kept_subset kept) below
    · rw [List.mem_singleton.mp new] at below
      exact absurd (below.trans resumable.reached) (Nat.not_le_of_lt sending.pushed)
  | dispatch =>
    simp only [step] at stepped
    split at stepped
    · next m carried rest wire =>
      cases stepped
      exact resumable_dispatch sending resumable wire
    · cases stepped
  | execWait | poll =>
    cases stepped
    exact iff_of_true ⟨resumable.reached,resumable.complete⟩ rfl
  | read | send count | sendAborted task count | attach since | tell m | lose n | disconnect | reattach =>
    exact iff_of_true (resumable_frame resumable (step_onTheWay rfl stepped)) rfl

/-- The client can go on from its last number exactly as long as no notice takes a number that
    was not sent or is still to come, and no message is missing before one that it gets. -/
theorem resume_sound_iff (sessionId : String) (device : OutputBuffer) (actions : List Action) :
    Always (step sessionId) Resumable (start device) actions ↔
      Along (step sessionId) (fun s a => skipsNothing s a = true) (start device) actions := by
  refine always_iff_along (fun _ _ _ sending stepped => sending_step sending stepped)
    (fun _ _ _ sending resumable stepped => resumable_step sending resumable stepped) ?_ ?_
  · exact ⟨Nat.zero_lt_of_lt device.room,by simp [start],by simp [start],by simp [start],by simp [start]⟩
  · refine ⟨Nat.le_refl 0,fun e member below => ?_⟩
    exact absurd (Nat.lt_of_lt_of_le (seq_pos member) below) (Nat.lt_irrefl 0)

/-- The relay says that it lost a message, and the notice takes the number of the next entry. -/
def gapNoticed : List Action :=
  [.attach 0,.dispatch,.push .stdout "a" 1,.read,.send 1,.dispatch,.tell (.gap "s" "missed"),.dispatch,
   .push .stdout "b" 2]

/-- A reconnect now goes on behind the entry that the client never got. -/
theorem notice_skips_entry : ¬ ∀ (sessionId : String) (device : OutputBuffer) (actions : List Action),
    Always (step sessionId) Resumable (start device) actions := by
  intro claim
  have ahead : (run (step "s") (start (.new 16)) gapNoticed).map (fun s => (s.client.lastSeq,s.sent)) = some (2,1) := by
    decide +kernel
  obtain ⟨s,ran,last⟩ := Option.map_eq_some_iff.mp ahead
  have reached := (always_last (claim "s" (.new 16) gapNoticed) ran).reached
  obtain ⟨client,sent⟩ := Prod.mk.inj last
  rw [client,sent] at reached
  exact absurd reached (by decide)

end Sctl.ClientResume
