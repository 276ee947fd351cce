import Sctl.ClientRequests

/-!
The output of a session from its start on. The dispatcher ignores what comes for
a session without a buffer, and the buffer is created by the caller that was
woken, a while after `session.started` was dispatched. What the buffers hold is
compared with what they would hold if the dispatcher created them.
-/
namespace Sctl.SessionStart
open Sctl.ClientRequests Sctl.McpClient Sctl.Runs Sctl.SessionBuffer
open McpClient.SessionBuffer (SameOutput)

/-- All output that came for a session since its start is in its buffer. -/
structure NothingLost (s : State) : Prop where
  same : ∀ sessionId b c, s.connection.sessions.lookup sessionId = some b → s.ideal.lookup sessionId = some c →
    SameOutput c b
  there : ∀ sessionId c, s.ideal.lookup sessionId = some c → c.entries ≠ [] →
    (s.connection.sessions.lookup sessionId).isSome

/-- A message that adds to the output of a started session finds its buffer there; a buffer is
    created before any output came. -/
def inPlace (s : State) : Action → Bool
  | .dispatch =>
    match s.wire with
    | m :: _ =>
      m.session?.all fun sessionId =>
        (s.ideal.lookup sessionId).isNone || (s.connection.sessions.lookup sessionId).isSome ||
          (m.brings.isEmpty && !m.notices)
    | [] => true
  | .insert i =>
    match s.calls[i]? with
    | some ⟨_,.took (.started (some sessionId) _ _)⟩ => (s.ideal.lookup sessionId).all fun c => c.entries.isEmpty
    | _ => true
  | _ => true

/-! ### Buffers without output -/

/-- A buffer that nothing was pushed to is like a new one. -/
def Fresh (b : McpClient.SessionBuffer) : Prop := b.entries = [] → SameOutput b .new

theorem sameOutput_symm {b c : McpClient.SessionBuffer} (same : SameOutput b c) : SameOutput c b :=
  ⟨same.entries.symm,same.lastSeq.symm,same.droppedCount.symm⟩

theorem foldl_push_eq_nil {b : McpClient.SessionBuffer} {entries : List OutputEntry}
    (empty : (entries.foldl McpClient.SessionBuffer.push b).entries = []) : entries = [] := by
  rcases List.eq_nil_or_concat entries with none_ | ⟨before,last,rfl⟩
  · exact none_
  · rw [List.concat_eq_append,List.foldl_append] at empty
    simp [McpClient.SessionBuffer.push] at empty

theorem pushes_eq_nil (b : McpClient.SessionBuffer) (m : Message) :
    b.pushes m = [] ↔ (m.brings.isEmpty && !m.notices) = true := by
  cases m <;> simp [McpClient.SessionBuffer.pushes,Message.brings,Message.notices]

theorem receive_quiet {b : McpClient.SessionBuffer} {m : Message} (quiet : b.pushes m = []) : SameOutput b (b.receive m) := by
  have same := b.receive_output m
  rwa [quiet] at same

theorem receive_nil {b : McpClient.SessionBuffer} {m : Message} (empty : (b.receive m).entries = []) : b.pushes m = [] := by
  rw [(b.receive_output m).entries] at empty
  exact foldl_push_eq_nil empty

theorem fresh_receive {b : McpClient.SessionBuffer} (fresh : Fresh b) (m : Message) : Fresh (b.receive m) := by
  intro empty
  have quiet := receive_quiet (receive_nil empty)
  exact McpClient.SessionBuffer.sameOutput_trans (sameOutput_symm quiet) (fresh (quiet.entries.symm.trans empty))

/-- What is pushed depends on the output so far only. -/
theorem sameOutput_receive {b c : McpClient.SessionBuffer} (same : SameOutput b c) (m : Message) :
    SameOutput (b.receive m) (c.receive m) := by
  have pushes : c.pushes m = b.pushes m := by
    have last := same.lastSeq
    cases m <;> simp only [McpClient.SessionBuffer.pushes,last]
  have first := sameOutput_symm (b.receive_output m)
  have second := c.receive_output m
  rw [pushes] at second
  exact McpClient.SessionBuffer.sameOutput_trans first
    (McpClient.SessionBuffer.sameOutput_trans (McpClient.SessionBuffer.sameOutput_foldl same _) second)

theorem sameOutput_bufferFor (pty : Option Bool) : SameOutput .new (bufferFor pty) := ⟨rfl,rfl,rfl⟩

/-! ### The buffers that the dispatcher would keep -/

variable {ideal : Table String McpClient.SessionBuffer} {m : Message} {sessionId : String}

theorem receiveAll_session {other : String} (own : m.session? = some other) :
    receiveAll ideal m = Table.modify other (fun b => b.receive m) ideal := by
  unfold receiveAll
  split
  · cases own
  · next found => cases own.symm.trans found; rfl
  · next found => cases own.symm.trans found

theorem receiveAll_started (pty : Option Bool) (request : Nat) :
    ((receiveAll ideal (.started (some sessionId) pty request)).lookup sessionId).isSome := by
  unfold receiveAll
  dsimp only
  split
  · assumption
  · simp

/-- A message without a session creates at most a buffer. -/
theorem receiveAll_other (none_ : m.session? = none) {c : McpClient.SessionBuffer}
    (found : (receiveAll ideal m).lookup sessionId = some c) :
    ideal.lookup sessionId = some c ∨ ideal.lookup sessionId = none ∧ ∃ pty, c = bufferFor pty := by
  unfold receiveAll at found
  split at found
  · next other pty request =>
    split at found
    · exact .inl found
    · next missing =>
      rw [Table.lookup_insert_eq] at found
      split at found
      · next here =>
        cases found
        exact .inr ⟨by rw [here]; simpa using missing,pty,rfl⟩
      · exact .inl found
  · next own => cases none_.symm.trans own
  · exact .inl found

theorem receiveAll_keeps (m : Message) (known : (ideal.lookup sessionId).isSome) :
    ((receiveAll ideal m).lookup sessionId).isSome := by
  unfold receiveAll
  split
  · split
    · exact known
    · rw [Table.lookup_insert_eq]
      split
      · rfl
      · exact known
  · rw [Table.lookup_modify]
    split
    · next here => rw [Option.isSome_map,← here]; exact known
    · exact known
  · exact known

theorem fresh_receiveAll (m : Message) (fresh : Table.All Fresh ideal) : Table.All Fresh (receiveAll ideal m) := by
  have created : ∀ pty, Fresh (bufferFor pty) := fun pty _ => sameOutput_symm (sameOutput_bufferFor pty)
  unfold receiveAll
  split
  · split
    · exact fresh
    · exact Table.all_insert fresh (created _)
  · exact Table.all_modify fresh fun b held => fresh_receive held _
  · exact fresh

/-! ### Every session that the client knows was started -/

structure Known (s : State) : Prop where
  stored : ∀ sessionId, (s.connection.sessions.lookup sessionId).isSome → (s.ideal.lookup sessionId).isSome
  slot : ∀ sessionId pty request, s.connection.results .start = some (.started (some sessionId) pty request) →
    (s.ideal.lookup sessionId).isSome
  took : ∀ c ∈ s.calls, ∀ sessionId pty request, c.phase = .took (.started (some sessionId) pty request) →
    (s.ideal.lookup sessionId).isSome
  fresh : Table.All Fresh s.ideal

variable {s t : State} {a : Action}

/-- A step that takes at most what is in the slot. -/
theorem known_frame (known : Known s) (sessions : t.connection.sessions = s.connection.sessions) (ideal : t.ideal = s.ideal)
    (slot : ∀ m, t.connection.results .start = some m → s.connection.results .start = some m)
    (took : ∀ c ∈ t.calls, ∀ m, c.phase = .took m → c ∈ s.calls ∨ s.connection.results .start = some m) : Known t where
  stored := by rw [sessions,ideal]; exact known.stored
  slot sessionId pty request held := by rw [ideal]; exact known.slot sessionId pty request (slot _ held)
  took c member sessionId pty request phase := by
    rw [ideal]
    rcases took c member _ phase with before | now
    · exact known.took c before sessionId pty request phase
    · exact known.slot sessionId pty request now
  fresh := by rw [ideal]; exact known.fresh

theorem results_dispatch {c : Connection} {slot : Slot} {m m' : Message}
    (held : (dispatchMessage c m).1.results slot = some m') : m' = m ∨ c.results slot = some m' := by
  unfold dispatchMessage at held
  split at held
  · exact .inr held
  · simp only [Connection.setResult,Function.update_apply] at held
    split at held
    · exact .inl (Option.some.inj held).symm
    · exact .inr held
  · exact .inr held

theorem known_dispatch {m : Message} {rest : List Message} (known : Known s) :
    Known { s with
      connection := (dispatchMessage s.connection m).1
      wire := rest
      notifying := (dispatchMessage s.connection m).2
      ideal := receiveAll s.ideal m } where
  stored sessionId held := by
    refine receiveAll_keeps m (known.stored sessionId ?_)
    have looked := lookup_dispatch s.connection m sessionId
    rw [looked] at held
    split at held
    · simpa using held
    · exact held
  slot sessionId pty request held := by
    rcases results_dispatch held with rfl | before
    · exact receiveAll_started pty request
    · exact receiveAll_keeps m (known.slot sessionId pty request before)
  took c member sessionId pty request phase := receiveAll_keeps m (known.took c member sessionId pty request phase)
  fresh := fresh_receiveAll m known.fresh

theorem takes_took {kind : Slot} {result : Option Message} {m : Message} (taken : takes kind result = .took m) :
    kind = .start ∧ result = some m := by
  unfold takes at taken
  split at taken <;> cases taken
  exact ⟨rfl,rfl⟩

theorem notify_took {slot : Slot} {c : Call} {m : Message} (taken : (c.notify slot).phase = .took m) :
    c.notify slot = c := by
  unfold Call.notify at taken ⊢
  split
  · split <;> simp_all
  · rfl

theorem insertBuffer_isSome {sessions : Table String McpClient.SessionBuffer} {m : Message} {sessionId : String}
    (held : ((insertBuffer sessions m).lookup sessionId).isSome) :
    (∃ pty request, m = .started (some sessionId) pty request) ∨ (sessions.lookup sessionId).isSome := by
  unfold insertBuffer at held
  split at held
  · next other pty request =>
    rw [Table.lookup_insert_eq] at held
    split at held
    · next here => exact .inl ⟨pty,request,by rw [here]⟩
    · exact .inr held
  · exact .inr held

theorem took_setPhase {i : Nat} {kind : Slot} {phase : Phase} (other : ∀ m, phase ≠ .took m) :
    ∀ c ∈ (setPhase s i kind phase).calls, ∀ m, c.phase = .took m → c ∈ s.calls := by
  intro c member m taken
  rcases List.mem_or_eq_of_mem_set member with before | rfl
  · exact before
  · exact absurd taken (other m)

theorem known_step (known : Known s) (stepped : step s a = some t) : Known t := by
  cases a with
  | call kind =>
    cases stepped
    refine known_frame known rfl rfl (fun m held => ?_) fun c member m taken => .inl ?_
    · simp only [Connection.setResult,Function.update_apply] at held
      split at held
      · cases held
      · exact held
    · rcases List.mem_append.mp member with before | new
      · exact before
      · rw [List.mem_singleton.mp new] at taken
        cases taken
  | register i | sendFails i | timeout i | send i =>
    simp only [step] at stepped
    split at stepped
    · cases stepped
      exact known_frame known rfl rfl (fun m held => held) fun c member m taken =>
        .inl (took_setPhase (by simp) c member m taken)
    · cases stepped
  | wake i =>
    simp only [step] at stepped
    split at stepped
    · next kind found =>
      cases stepped
      refine known_frame known rfl rfl (fun m held => ?_) fun c member m taken => ?_
      · simp only [Connection.setResult,Function.update_apply] at held
        split at held
        · cases held
        · exact held
      · rcases List.mem_or_eq_of_mem_set member with before | rfl
        · exact .inl before
        · obtain ⟨rfl,held⟩ := takes_took taken
          exact .inr held
    · cases stepped
  | insert i =>
    simp only [step] at stepped
    split at stepped
    · next kind m found =>
      cases stepped
      refine ⟨fun sessionId held => ?_,known.slot,fun c member sessionId pty request taken => ?_,known.fresh⟩
      · rcases insertBuffer_isSome held with ⟨pty,request,rfl⟩ | before
        · exact known.took _ (List.mem_of_getElem? found) sessionId pty request rfl
        · exact known.stored sessionId before
      · exact known.took c (took_setPhase (by simp) c member _ taken) sessionId pty request taken
    · cases stepped
  | answer m =>
    simp only [step] at stepped
    split at stepped
    · simp only [Option.ite_none_right_eq_some,Option.some.injEq] at stepped
      obtain ⟨-,rfl⟩ := stepped
      exact known_frame known rfl rfl (fun m held => held) fun c member m taken => .inl member
    · cases stepped
  | tell m =>
    simp only [step,Option.ite_none_right_eq_some,Option.some.injEq] at stepped
    obtain ⟨-,rfl⟩ := stepped
    exact known_frame known rfl rfl (fun m held => held) fun c member m taken => .inl member
  | dispatch =>
    simp only [step] at stepped
    split at stepped
    · cases stepped
      exact known_dispatch known
    · cases stepped
  | notify =>
    simp only [step] at stepped
    split at stepped
    · next slot notifying =>
      cases stepped
      refine known_frame known rfl rfl (fun m held => held) fun c member m taken => .inl ?_
      obtain ⟨before,there,rfl⟩ := List.mem_map.mp member
      rw [notify_took taken]
      exact there
    · cases stepped

/-! ### One step -/

theorem nothingLost_frame (lost : NothingLost s) (sessions : t.connection.sessions = s.connection.sessions)
    (ideal : t.ideal = s.ideal) : NothingLost t where
  same := by rw [sessions,ideal]; exact lost.same
  there := by rw [sessions,ideal]; exact lost.there

/-- A message without a session creates at most an empty buffer in the ideal. -/
theorem nothingLost_unnamed {m : Message} (known : Known s) (lost : NothingLost s) (none_ : m.session? = none)
    (sessions : ∀ sessionId, t.connection.sessions.lookup sessionId = s.connection.sessions.lookup sessionId)
    (ideal : t.ideal = receiveAll s.ideal m) : NothingLost t where
  same sessionId b c stored found := by
    rw [sessions] at stored
    rw [ideal] at found
    rcases receiveAll_other none_ found with before | ⟨missing,-⟩
    · exact lost.same sessionId b c stored before
    · have there := known.stored sessionId (by rw [stored]; rfl)
      rw [missing] at there
      cases there
  there sessionId c found some_ := by
    rw [sessions]
    rw [ideal] at found
    rcases receiveAll_other none_ found with before | ⟨-,pty,rfl⟩
    · exact lost.there sessionId c before some_
    · exact absurd rfl some_

theorem nothingLost_named {m : Message} {sessionId : String} (lost : NothingLost s)
    (sessions : t.connection.sessions = Table.modify sessionId (fun b => b.receive m) s.connection.sessions)
    (ideal : t.ideal = Table.modify sessionId (fun b => b.receive m) s.ideal) :
    NothingLost t ↔ ((s.ideal.lookup sessionId).isNone || (s.connection.sessions.lookup sessionId).isSome ||
      (m.brings.isEmpty && !m.notices)) = true := by
  have same : ∀ other b c, t.connection.sessions.lookup other = some b → t.ideal.lookup other = some c → SameOutput c b := by
    intro other b c stored found
    rw [sessions,Table.lookup_modify] at stored
    rw [ideal,Table.lookup_modify] at found
    split at stored
    · next here =>
      rw [if_pos here] at found
      obtain ⟨b,held,rfl⟩ := Option.map_eq_some_iff.mp stored
      obtain ⟨c,kept,rfl⟩ := Option.map_eq_some_iff.mp found
      exact sameOutput_receive (lost.same sessionId b c held kept) m
    · next elsewhere =>
      rw [if_neg elsewhere] at found
      exact lost.same other b c stored found
  have elsewhere : ∀ other c, other ≠ sessionId → t.ideal.lookup other = some c → c.entries ≠ [] →
      (t.connection.sessions.lookup other).isSome := by
    intro other c apart found some_
    rw [ideal,Table.lookup_modify,if_neg apart] at found
    rw [sessions,Table.lookup_modify,if_neg apart]
    exact lost.there other c found some_
  have stored : (t.connection.sessions.lookup sessionId).isSome = (s.connection.sessions.lookup sessionId).isSome := by
    rw [sessions,Table.lookup_modify,if_pos rfl,Option.isSome_map]
  constructor
  · rintro ⟨-,there⟩
    cases found : s.ideal.lookup sessionId with
    | none => rfl
    | some c =>
      have after : t.ideal.lookup sessionId = some (c.receive m) := by rw [ideal,Table.lookup_modify,if_pos rfl,found]; rfl
      by_cases quiet : c.pushes m = []
      · rw [(pushes_eq_nil c m).mp quiet,Bool.or_true]
      · have present := there sessionId _ after fun empty => quiet (receive_nil empty)
        rw [← stored,present,Bool.or_true,Bool.true_or]
  · intro place
    refine ⟨same,fun other c found some_ => ?_⟩
    by_cases here : other = sessionId
    · subst here
      rw [ideal,Table.lookup_modify,if_pos rfl] at found
      obtain ⟨c,before,rfl⟩ := Option.map_eq_some_iff.mp found
      rw [stored]
      rcases Bool.or_eq_true_iff.mp place with present | silent
      · rwa [before,Option.isNone_some,Bool.false_or] at present
      · have quiet := receive_quiet ((pushes_eq_nil c m).mpr silent)
        exact lost.there other c before (quiet.entries ▸ some_)
    · exact elsewhere other c here found some_

theorem dispatch_named {c : Connection} {m : Message} {sessionId : String} (own : m.session? = some sessionId) :
    (dispatchMessage c m).1.sessions = Table.modify sessionId (fun b => b.receive m) c.sessions := by
  simp only [dispatchMessage,own]

/-- A buffer put in the place of an empty one. -/
theorem nothingLost_insert {sessionId : String} {pty : Option Bool} (known : Known s) (lost : NothingLost s)
    (started : (s.ideal.lookup sessionId).isSome)
    (sessions : t.connection.sessions = s.connection.sessions.insert sessionId (bufferFor pty)) (ideal : t.ideal = s.ideal) :
    NothingLost t ↔ ((s.ideal.lookup sessionId).all fun c => c.entries.isEmpty) = true := by
  obtain ⟨c,found⟩ := Option.isSome_iff_exists.mp started
  rw [found,Option.all_some,List.isEmpty_iff]
  constructor
  · rintro ⟨same,-⟩
    exact (same sessionId (bufferFor pty) c (by rw [sessions]; simp) (by rw [ideal]; exact found)).entries.symm
  · intro empty
    have fresh : SameOutput c (bufferFor pty) :=
      McpClient.SessionBuffer.sameOutput_trans (known.fresh sessionId c found empty) (sameOutput_bufferFor pty)
    constructor
    · intro other b c' stored held
      rw [ideal] at held
      rw [sessions,Table.lookup_insert_eq] at stored
      split at stored
      · next here =>
        subst here
        cases stored
        cases found.symm.trans held
        exact fresh
      · exact lost.same other b c' stored held
    · intro other c' held some_
      rw [ideal] at held
      rw [sessions,Table.lookup_insert_eq]
      split
      · rfl
      · exact lost.there other c' held some_

theorem nothingLost_step (known : Known s) (lost : NothingLost s) (stepped : step s a = some t) :
    NothingLost t ↔ inPlace s a = true := by
  cases a with
  | call kind => cases stepped; exact iff_of_true (nothingLost_frame lost rfl rfl) rfl
  | register i | sendFails i | timeout i | send i | wake i | notify =>
    simp only [step] at stepped
    split at stepped
    · cases stepped
      exact iff_of_true (nothingLost_frame lost rfl rfl) rfl
    · cases stepped
  | answer m =>
    simp only [step] at stepped
    split at stepped
    · simp only [Option.ite_none_right_eq_some,Option.some.injEq] at stepped
      obtain ⟨-,rfl⟩ := stepped
      exact iff_of_true (nothingLost_frame lost rfl rfl) rfl
    · cases stepped
  | tell m =>
    simp only [step,Option.ite_none_right_eq_some,Option.some.injEq] at stepped
    obtain ⟨-,rfl⟩ := stepped
    exact iff_of_true (nothingLost_frame lost rfl rfl) rfl
  | insert i =>
    simp only [step] at stepped
    split at stepped
    · next kind m found =>
      cases stepped
      simp only [inPlace,found]
      split
      · next sessionId pty request taken =>
        cases taken
        have started := known.took _ (List.mem_of_getElem? found) sessionId pty request rfl
        exact nothingLost_insert known lost started rfl rfl
      · next other =>
        have same : insertBuffer s.connection.sessions m = s.connection.sessions := by
          unfold insertBuffer
          split
          · next sessionId pty request => exact absurd rfl (other kind sessionId pty request)
          · rfl
        exact iff_of_true (nothingLost_frame lost same rfl) rfl
    · cases stepped
  | dispatch =>
    simp only [step] at stepped
    split at stepped
    · next m rest idle wire =>
      cases stepped
      simp only [inPlace,wire]
      cases own : m.session? with
      | none =>
        refine iff_of_true (nothingLost_unnamed known lost own (fun sessionId => ?_) rfl) rfl
        rw [lookup_dispatch,own]
        simp
      | some sessionId => exact nothingLost_named lost (dispatch_named own) (receiveAll_session own)
    · cases stepped

/-- Nothing of a session's output is lost exactly as long as no output is dispatched between
    the session's start and the insertion of its buffer. -/
theorem output_kept_iff (actions : List Action) :
    Always step NothingLost start actions ↔ Along step (fun s a => inPlace s a = true) start actions := by
  refine always_iff_along (fun _ _ _ known stepped => known_step known stepped)
    (fun _ _ _ known lost stepped => nothingLost_step known lost stepped) ?_ ?_
  · exact ⟨by simp [start],by simp [start],by simp [start],Table.all_empty⟩
  · exact ⟨by simp [start],by simp [start]⟩

/-- A shell's prompt that is dispatched before the caller gets to run. -/
def promptFirst : List Action :=
  [.call .start,.register 0,.send 0,.answer (.started (some "s") none 0),
   .tell (.output ⟨"session.stdout","s","$ ",1,0⟩),.dispatch,.notify,.dispatch,.wake 0,.insert 0]

theorem prompt_lost : ¬ ∀ actions : List Action, Always step NothingLost start actions := by
  intro claim
  have missed : (run step start promptFirst).map (fun s =>
      ((s.connection.sessions.lookup "s").map fun b => b.entries.length,
        (s.ideal.lookup "s").map fun b => b.entries.length)) = some (some 0,some 1) := by
    decide +kernel
  obtain ⟨s,ran,lengths⟩ := Option.map_eq_some_iff.mp missed
  obtain ⟨stored,kept⟩ := Prod.mk.inj lengths
  obtain ⟨b,here,empty⟩ := Option.map_eq_some_iff.mp stored
  obtain ⟨c,there,one⟩ := Option.map_eq_some_iff.mp kept
  have same := (always_last (claim promptFirst) ran).same "s" b c here there
  rw [same.entries,one] at empty
  cases empty

end Sctl.SessionStart
