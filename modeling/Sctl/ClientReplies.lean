import Sctl.SessionStart

/-!
Whose reply a call returns. The calls of one kind share a slot and its waiters,
and nothing in a reply tells the request, so a call returns what is in the slot
when it is woken. What is required of a run here is that the slot is used by one
call at a time; nothing in the client sees to that.
-/
namespace Sctl.ClientReplies
open Sctl.ClientRequests Sctl.McpClient Sctl.Runs Sctl.SessionStart

def listens (c : Call) : Bool :=
  match c.phase with
  | .registered _ => true
  | .waiting _ => true
  | _ => false

def waits (c : Call) : Bool :=
  match c.phase with
  | .waiting _ => true
  | _ => false

def notified (c : Call) : Bool :=
  match c.phase with
  | .registered notified => notified
  | .waiting notified => notified
  | _ => false

/-- The message that a call has taken. -/
def message? (c : Call) : Option Message :=
  match c.phase with
  | .took m => some m
  | .returned result => result
  | _ => none

/-- The session whose start a message reports. -/
def started? : Message → Option String
  | .started sessionId _ _ => sessionId
  | _ => none

/-- The caller of a started session has the message, or was woken and finds it in the slot. -/
inductive OnItsWay (s : State) (sessionId : String) : Prop
  | took {i : Nat} {c : Call} {m : Message} (there : s.calls[i]? = some c) (phase : c.phase = .took m)
      (names : started? m = some sessionId)
  | woken {i : Nat} {m : Message} (there : s.calls[i]? = some ⟨.start,.waiting true⟩)
      (held : s.connection.results .start = some m) (own : request? m = some i) (names : started? m = some sessionId)

/-- Calls return their own replies, no reply is returned twice, and every session that was
    reported as started has a buffer or is about to get it. -/
structure OwnReplies (s : State) : Prop where
  own : ∀ i c m, s.calls[i]? = some c → c.phase = .returned (some m) → request? m = some i
  once : ∀ (i j : Nat) (c d : Call) (m : Message), s.calls[i]? = some c → s.calls[j]? = some d → c.phase = .returned (some m) →
    d.phase = .returned (some m) → i = j
  buffered : s.notifying = none → ∀ sessionId, (s.ideal.lookup sessionId).isSome →
    (s.connection.sessions.lookup sessionId).isSome ∨ OnItsWay s sessionId

/-- A slot is written when no call has yet to take from it. Waiters are notified of a message
    that is the reply to each of them, and of a started session only when its caller waits. A
    session is not started while the slot holds the report of another one. -/
def inTurn (s : State) : Action → Bool
  | .call .start => (s.connection.results .start).all fun m => (started? m).isNone
  | .dispatch =>
    match s.wire with
    | m :: _ => m.session?.isSome || m.slot?.all fun slot => s.calls.all fun c => c.kind ≠ slot || !notified c
    | [] => true
  | .notify =>
    match s.notifying with
    | some slot =>
      (s.connection.results slot).all fun m =>
        (s.calls.zipIdx.all fun p => p.1.kind ≠ slot || !listens p.1 || request? m = some p.2) &&
          ((started? m).isNone || s.calls.zipIdx.any fun p => p.1.kind = .start && waits p.1 && request? m = some p.2)
    | none => true
  | _ => true

/-! ### What is kept as long as the slots are used in turn -/

/-- The report of a started session is with its caller, or in the slot with the waiters about to
    be notified or the caller woken. -/
inductive Coming (s : State) (sessionId : String) : Prop
  | took {i : Nat} {c : Call} {m : Message} (there : s.calls[i]? = some c) (phase : c.phase = .took m)
      (names : started? m = some sessionId)
  | slot {m : Message} (held : s.connection.results .start = some m) (names : started? m = some sessionId)
      (next : s.notifying = some .start ∨ ∃ i, request? m = some i ∧ s.calls[i]? = some ⟨.start,.waiting true⟩)

structure Orderly (s : State) : Prop where
  woken : ∀ i c m, s.calls[i]? = some c → notified c = true → s.connection.results c.kind = some m → request? m = some i
  own : ∀ i c m, s.calls[i]? = some c → message? c = some m → request? m = some i
  buffered : ∀ sessionId, (s.ideal.lookup sessionId).isSome →
    (s.connection.sessions.lookup sessionId).isSome ∨ Coming s sessionId

variable {s t : State} {a : Action}

theorem ownReplies_of (orderly : Orderly s) : OwnReplies s where
  own i c m there phase := orderly.own i c m there (by simp [message?,phase])
  once i j c d m here there phase phase' := by
    have first := orderly.own i c m here (by simp [message?,phase])
    have second := orderly.own j d m there (by simp [message?,phase'])
    exact Option.some.inj (first.symm.trans second)
  buffered idle sessionId known := by
    rcases orderly.buffered sessionId known with stored | coming
    · exact .inl stored
    · right
      cases coming with
      | took there phase names => exact .took there phase names
      | slot held names next =>
        rcases next with notifying | ⟨i,own,there⟩
        · rw [idle] at notifying
          cases notifying
        · exact .woken there held own names

/-- A call that was not woken goes on without a message. -/
theorem orderly_setPhase {i : Nat} {kind : Slot} {old phase : Phase} (orderly : Orderly s)
    (found : s.calls[i]? = some ⟨kind,old⟩) (calls : t.calls = s.calls.set i ⟨kind,phase⟩)
    (connection : t.connection = s.connection) (ideal : t.ideal = s.ideal) (notifying : t.notifying = s.notifying)
    (asleep : notified ⟨kind,phase⟩ = true → notified ⟨kind,old⟩ = true) (empty : message? ⟨kind,phase⟩ = none)
    (untaken : ∀ m, old ≠ .took m) (unwoken : old ≠ .waiting true) : Orderly t := by
  have others : ∀ n, t.calls[n]? = if n = i then some ⟨kind,phase⟩ else s.calls[n]? := fun n => by
    rw [calls,Tasks.getElem?_set_eq found]
  constructor
  · intro n c m there woken held
    rw [others] at there
    rw [connection] at held
    split at there
    · next here =>
      cases there
      subst here
      exact orderly.woken n _ m found (asleep woken) held
    · exact orderly.woken n c m there woken held
  · intro n c m there taken
    rw [others] at there
    split at there
    · cases there
      rw [empty] at taken
      cases taken
    · exact orderly.own n c m there taken
  · intro sessionId known
    rw [ideal] at known
    rw [connection]
    refine (orderly.buffered sessionId known).imp_right fun coming => ?_
    cases coming with
    | @took n c m there taken names =>
      have other : n ≠ i := by
        rintro rfl
        cases found.symm.trans there
        exact untaken m taken
      exact .took (by rw [others,if_neg other]; exact there) taken names
    | @slot m held names next =>
      refine .slot (by rw [connection]; exact held) names ?_
      rw [notifying]
      refine next.imp_right fun ⟨n,own,there⟩ => ⟨n,own,?_⟩
      have other : n ≠ i := by
        rintro rfl
        cases found.symm.trans there
        exact unwoken rfl
      rw [others,if_neg other]
      exact there

theorem results_setResult (c : Connection) (slot kind : Slot) (result : Option Message) :
    (c.setResult slot result).results kind = if kind = slot then result else c.results kind := by
  simp [Connection.setResult,Function.update_apply]

theorem takes_message {kind : Slot} {result : Option Message} {m : Message}
    (taken : message? ⟨kind,takes kind result⟩ = some m) : result = some m := by
  unfold takes at taken
  split at taken
  · exact taken
  · cases taken
  · exact taken

theorem insertBuffer_started {sessions : Table String McpClient.SessionBuffer} {m : Message} {sessionId : String}
    (names : started? m = some sessionId) : ((insertBuffer sessions m).lookup sessionId).isSome := by
  cases m with
  | started other pty request =>
    cases names
    simp [insertBuffer]
  | _ => cases names

theorem insertBuffer_keeps {sessions : Table String McpClient.SessionBuffer} {sessionId : String} (m : Message)
    (stored : (sessions.lookup sessionId).isSome) : ((insertBuffer sessions m).lookup sessionId).isSome := by
  unfold insertBuffer
  split
  · rw [Table.lookup_insert_eq]
    split
    · rfl
    · exact stored
  · exact stored

theorem orderly_call {kind : Slot} (orderly : Orderly s) (turn : inTurn s (.call kind) = true) :
    Orderly { s with connection := s.connection.setResult kind none, calls := s.calls ++ [⟨kind,.cleared⟩] } := by
  have old : ∀ {n : Nat} {c : Call}, (s.calls ++ [⟨kind,.cleared⟩])[n]? = some c →
      s.calls[n]? = some c ∨ c = ⟨kind,.cleared⟩ := fun {n c} there => by
    rw [List.getElem?_append] at there
    split at there
    · exact .inl there
    · exact .inr (List.mem_singleton.mp (List.mem_of_getElem? there))
  have grown : ∀ {n : Nat} {c : Call}, s.calls[n]? = some c → (s.calls ++ [⟨kind,.cleared⟩])[n]? = some c :=
    fun {n c} there => by rw [List.getElem?_append_left (List.getElem?_eq_some_iff.mp there).1]; exact there
  constructor
  · intro n c m there woken held
    rcases old there with before | rfl
    · rw [results_setResult] at held
      split at held
      · cases held
      · exact orderly.woken n c m before woken held
    · cases woken
  · intro n c m there taken
    rcases old there with before | rfl
    · exact orderly.own n c m before taken
    · cases taken
  · intro sessionId known
    refine (orderly.buffered sessionId known).imp_right fun coming => ?_
    cases coming with
    | took there phase names => exact .took (grown there) phase names
    | @slot m held names next =>
      have kept : Slot.start ≠ kind := by
        rintro rfl
        simp [inTurn,held,names] at turn
      refine .slot (by rw [results_setResult,if_neg kept]; exact held) names ?_
      exact next.imp_right fun ⟨i,own,there⟩ => ⟨i,own,grown there⟩

/-- The call that was woken takes its own reply, or nothing. -/
theorem orderly_wake {i : Nat} {kind : Slot} (orderly : Orderly s) (found : s.calls[i]? = some ⟨kind,.waiting true⟩) :
    Orderly { setPhase s i kind (takes kind (s.connection.results kind)) with
      connection := s.connection.setResult kind none } := by
  have own : ∀ m, s.connection.results kind = some m → request? m = some i :=
    fun m held => orderly.woken i _ m found rfl held
  have others : ∀ n, (setPhase s i kind (takes kind (s.connection.results kind))).calls[n]? =
      if n = i then some ⟨kind,takes kind (s.connection.results kind)⟩ else s.calls[n]? :=
    Tasks.getElem?_set_eq found _
  constructor
  · intro n c m there woken held
    rw [results_setResult] at held
    split at held
    · cases held
    · next other =>
      rw [others] at there
      split at there
      · cases there
        exact absurd rfl other
      · exact orderly.woken n c m there woken held
  · intro n c m there taken
    rw [others] at there
    split at there
    · next here =>
      cases there
      rw [here]
      exact own m (takes_message taken)
    · exact orderly.own n c m there taken
  · intro sessionId known
    refine (orderly.buffered sessionId known).imp_right fun coming => ?_
    cases coming with
    | @took n c m there phase names =>
      have other : n ≠ i := by
        rintro rfl
        cases found.symm.trans there
        cases phase
      exact .took (by rw [others,if_neg other]; exact there) phase names
    | @slot m held names next =>
      by_cases here : kind = .start
      · subst here
        refine .took (by rw [others,if_pos rfl]) ?_ names
        rw [held]
        rfl
      · refine .slot (by rw [results_setResult,if_neg (Ne.symm here)]; exact held) names ?_
        refine next.imp_right fun ⟨n,own,there⟩ => ⟨n,own,?_⟩
        have other : n ≠ i := by
          rintro rfl
          cases found.symm.trans there
          exact here rfl
        rw [others,if_neg other]
        exact there

theorem orderly_insert {i : Nat} {kind : Slot} {m : Message} (orderly : Orderly s)
    (found : s.calls[i]? = some ⟨kind,.took m⟩) :
    Orderly { setPhase s i kind (.returned (some m)) with
      connection := { s.connection with sessions := insertBuffer s.connection.sessions m } } := by
  have others : ∀ n, (setPhase s i kind (.returned (some m))).calls[n]? =
      if n = i then some ⟨kind,.returned (some m)⟩ else s.calls[n]? := Tasks.getElem?_set_eq found _
  constructor
  · intro n c m' there woken held
    rw [others] at there
    split at there
    · cases there
      cases woken
    · exact orderly.woken n c m' there woken held
  · intro n c m' there taken
    rw [others] at there
    split at there
    · next here =>
      cases there
      cases taken
      rw [here]
      exact orderly.own i _ m found rfl
    · exact orderly.own n c m' there taken
  · intro sessionId known
    by_cases names : started? m = some sessionId
    · exact .inl (insertBuffer_started names)
    rcases orderly.buffered sessionId known with stored | coming
    · exact .inl (insertBuffer_keeps m stored)
    · right
      cases coming with
      | @took n c m' there phase also =>
        have other : n ≠ i := by
          rintro rfl
          cases found.symm.trans there
          cases phase
          exact names also
        exact .took (by rw [others,if_neg other]; exact there) phase also
      | @slot m' held also next =>
        refine .slot held also (next.imp_right fun ⟨n,own,there⟩ => ⟨n,own,?_⟩)
        have other : n ≠ i := by
          rintro rfl
          cases found.symm.trans there
        rw [others,if_neg other]
        exact there

@[simp] theorem notify_kind (slot : Slot) (c : Call) : (c.notify slot).kind = c.kind := by
  unfold Call.notify
  split
  · split <;> rfl
  · rfl

@[simp] theorem notify_message (slot : Slot) (c : Call) : message? (c.notify slot) = message? c := by
  unfold Call.notify
  split
  · split
    · next phase => simp [message?,phase]
    · next phase => simp [message?,phase]
    · rfl
  · rfl

/-- Who is notified was so before, or listens to the slot. -/
theorem notified_notify {slot : Slot} {c : Call} (woken : notified (c.notify slot) = true) :
    notified c = true ∨ c.kind = slot ∧ listens c = true := by
  unfold Call.notify at woken
  split at woken
  · next here =>
    split at woken
    · next phase => exact .inr ⟨here,by simp [listens,phase]⟩
    · next phase => exact .inr ⟨here,by simp [listens,phase]⟩
    · exact .inl woken
  · exact .inl woken

theorem notify_waits {c : Call} (kind : c.kind = .start) (waiting : waits c = true) :
    c.notify .start = ⟨.start,.waiting true⟩ := by
  obtain ⟨kind',phase⟩ := c
  cases kind
  cases phase with
  | waiting woken => rfl
  | cleared => cases waiting
  | registered woken => cases waiting
  | took m => cases waiting
  | returned result => cases waiting

theorem orderly_notify {slot : Slot} (orderly : Orderly s) (notifying : s.notifying = some slot)
    (turn : inTurn s .notify = true) : Orderly { s with notifying := none, calls := s.calls.map (Call.notify slot) } := by
  have old : ∀ {n : Nat} {c : Call}, (s.calls.map (Call.notify slot))[n]? = some c →
      ∃ before, s.calls[n]? = some before ∧ before.notify slot = c := fun {n c} there => by
    rwa [List.getElem?_map,Option.map_eq_some_iff] at there
  have moved : ∀ {n : Nat} {c : Call}, s.calls[n]? = some c →
      (s.calls.map (Call.notify slot))[n]? = some (c.notify slot) := fun {n c} there => by
    rw [List.getElem?_map,there]
    rfl
  simp only [inTurn,notifying] at turn
  constructor
  · intro n c m there woken held
    obtain ⟨before,found,rfl⟩ := old there
    rw [notify_kind] at held
    rcases notified_notify woken with already | ⟨kind,listening⟩
    · exact orderly.woken n before m found already held
    · rw [← kind,held,Option.all_some,Bool.and_eq_true] at turn
      have owner := List.all_eq_true.mp turn.1 (before,n) (List.mem_zipIdx_iff_getElem?.mpr found)
      simpa [listening] using owner
  · intro n c m there taken
    obtain ⟨before,found,rfl⟩ := old there
    rw [notify_message] at taken
    exact orderly.own n before m found taken
  · intro sessionId known
    refine (orderly.buffered sessionId known).imp_right fun coming => ?_
    cases coming with
    | @took n c m there phase names =>
      refine .took (moved there) ?_ names
      unfold Call.notify
      split
      · simp only [phase]
      · exact phase
    | @slot m held names next =>
      refine .slot held names (.inr ?_)
      rcases next with now | ⟨n,own,there⟩
      · cases notifying.symm.trans now
        rw [held,Option.all_some,Bool.and_eq_true] at turn
        have waiting := turn.2
        rw [names,Option.isNone_some,Bool.false_or,List.any_eq_true] at waiting
        obtain ⟨⟨c,n⟩,member,owner⟩ := waiting
        simp only [Bool.and_eq_true,decide_eq_true_eq] at owner
        refine ⟨n,owner.2,?_⟩
        rw [moved (List.mem_zipIdx_iff_getElem?.mp member),notify_waits owner.1.1 owner.1.2]
      · refine ⟨n,own,?_⟩
        rw [moved there]
        unfold Call.notify
        split <;> rfl

theorem receiveAll_known {ideal : Table String McpClient.SessionBuffer} {m : Message} {sessionId : String}
    (known : ((receiveAll ideal m).lookup sessionId).isSome) :
    (ideal.lookup sessionId).isSome ∨ started? m = some sessionId := by
  unfold receiveAll at known
  split at known
  · split at known
    · exact .inl known
    · rw [Table.lookup_insert_eq] at known
      split at known
      · next here => exact .inr (by rw [here]; rfl)
      · exact .inl known
  · rw [Table.lookup_modify] at known
    split at known
    · next here => exact .inl (by rw [here]; simpa using known)
    · exact .inl known
  · exact .inl known

/-- A message that leaves the slot of a woken start alone leaves what is coming. -/
theorem coming_frame {sessionId : String} (coming : Coming s sessionId) (idle : s.notifying = none)
    (calls : t.calls = s.calls)
    (results : ∀ n : Nat, s.calls[n]? = some ⟨.start,.waiting true⟩ → t.connection.results .start = s.connection.results .start) :
    Coming t sessionId := by
  cases coming with
  | took there phase names => exact .took (by rw [calls]; exact there) phase names
  | slot held names next =>
    obtain ⟨n,own,there⟩ := next.resolve_left (by rw [idle]; simp)
    exact .slot (by rw [results n there]; exact held) names (.inr ⟨n,own,by rw [calls]; exact there⟩)

theorem orderly_dispatch {m : Message} {rest : List Message} (orderly : Orderly s) (idle : s.notifying = none)
    (wire : s.wire = m :: rest) (turn : inTurn s .dispatch = true) :
    Orderly { s with
      connection := (dispatchMessage s.connection m).1
      wire := rest
      notifying := (dispatchMessage s.connection m).2
      ideal := receiveAll s.ideal m } := by
  have stored : ∀ sessionId, (s.connection.sessions.lookup sessionId).isSome →
      ((dispatchMessage s.connection m).1.sessions.lookup sessionId).isSome := fun sessionId there => by
    rw [lookup_dispatch]
    split
    · rw [Option.isSome_map]; exact there
    · exact there
  simp only [inTurn,wire,Bool.or_eq_true] at turn
  by_cases writes : m.session? = none ∧ ∃ slot, m.slot? = some slot
  · obtain ⟨unnamed,slot,into⟩ := writes
    have written : dispatchMessage s.connection m = (s.connection.setResult slot (some m),some slot) := by
      simp only [dispatchMessage,unnamed,into]
    have asleep : ∀ {n : Nat} {c : Call}, s.calls[n]? = some c → c.kind = slot → notified c ≠ true := by
      intro n c there kind woken
      rw [unnamed,into] at turn
      have quiet := List.all_eq_true.mp (turn.resolve_left (by simp)) c (List.mem_of_getElem? there)
      simp [kind,woken] at quiet
    rw [written] at stored ⊢
    constructor
    · intro n c m' there woken held
      rw [results_setResult] at held
      split at held
      · next kind => exact absurd woken (asleep there kind)
      · exact orderly.woken n c m' there woken held
    · exact orderly.own
    · intro sessionId known
      rcases receiveAll_known known with before | names
      · rcases orderly.buffered sessionId before with there | coming
        · exact .inl (stored sessionId there)
        · refine .inr (coming_frame coming idle rfl fun n there => ?_)
          have other : Slot.start ≠ slot := fun kind => asleep there kind rfl
          rw [results_setResult,if_neg other]
      · right
        cases m with
        | started other pty request =>
          cases into
          exact .slot rfl names (.inl rfl)
        | _ => cases names
  · have silent : (dispatchMessage s.connection m).2 = none ∧
        (dispatchMessage s.connection m).1.results = s.connection.results := by
      cases named : m.session? with
      | some sessionId => simp [dispatchMessage,named]
      | none =>
        cases into : m.slot? with
        | none => simp [dispatchMessage,named,into]
        | some slot => exact absurd ⟨named,slot,into⟩ writes
    constructor
    · intro n c m' there woken held
      rw [silent.2] at held
      exact orderly.woken n c m' there woken held
    · exact orderly.own
    · intro sessionId known
      rcases receiveAll_known known with before | names
      · rcases orderly.buffered sessionId before with there | coming
        · exact .inl (stored sessionId there)
        · exact .inr (coming_frame coming idle rfl fun _ _ => by rw [silent.2])
      · cases m with
        | started other pty request => exact absurd ⟨rfl,.start,rfl⟩ writes
        | _ => cases names

theorem orderly_step (orderly : Orderly s) (turn : inTurn s a = true) (stepped : step s a = some t) : Orderly t := by
  have same : ∀ {t : State}, t.calls = s.calls → t.connection = s.connection → t.ideal = s.ideal →
      t.notifying = s.notifying → Orderly t := by
    rintro ⟨_,_,_,_,_,_⟩ rfl rfl rfl rfl
    refine ⟨orderly.woken,orderly.own,fun sessionId known => ?_⟩
    refine (orderly.buffered sessionId known).imp_right fun coming => ?_
    cases coming with
    | took there phase names => exact .took there phase names
    | slot held names next => exact .slot held names next
  cases a with
  | call kind => cases stepped; exact orderly_call orderly turn
  | register i =>
    simp only [step] at stepped
    split at stepped
    · next kind found =>
      cases stepped
      exact orderly_setPhase orderly found rfl rfl rfl rfl id rfl (by simp) (by simp)
    · cases stepped
  | send i =>
    simp only [step] at stepped
    split at stepped
    · next kind woken found =>
      cases stepped
      exact orderly_setPhase orderly found rfl rfl rfl rfl id rfl (by simp) (by simp)
    · cases stepped
  | sendFails i =>
    simp only [step] at stepped
    split at stepped
    · next kind woken found =>
      cases stepped
      exact orderly_setPhase orderly found rfl rfl rfl rfl (by simp [notified]) rfl (by simp) (by simp)
    · cases stepped
  | timeout i =>
    simp only [step] at stepped
    split at stepped
    · next kind found =>
      cases stepped
      exact orderly_setPhase orderly found rfl rfl rfl rfl (by simp [notified]) rfl (by simp) (by simp)
    · cases stepped
  | wake i =>
    simp only [step] at stepped
    split at stepped
    · next kind found =>
      cases stepped
      exact orderly_wake orderly found
    · cases stepped
  | insert i =>
    simp only [step] at stepped
    split at stepped
    · next kind m found =>
      cases stepped
      exact orderly_insert orderly found
    · cases stepped
  | answer m =>
    simp only [step] at stepped
    split at stepped
    · simp only [Option.ite_none_right_eq_some,Option.some.injEq] at stepped
      obtain ⟨-,rfl⟩ := stepped
      exact same rfl rfl rfl rfl
    · cases stepped
  | tell m =>
    simp only [step,Option.ite_none_right_eq_some,Option.some.injEq] at stepped
    obtain ⟨-,rfl⟩ := stepped
    exact same rfl rfl rfl rfl
  | dispatch =>
    simp only [step] at stepped
    split at stepped
    · next m rest idle wire =>
      cases stepped
      exact orderly_dispatch orderly idle wire turn
    · cases stepped
  | notify =>
    simp only [step] at stepped
    split at stepped
    · next slot notifying =>
      cases stepped
      exact orderly_notify orderly notifying turn
    · cases stepped

/-- Calls get their own replies as long as each slot is used by one call at a time. -/
theorem replies_own (actions : List Action) (turns : Along step (fun s a => inTurn s a = true) start actions) :
    Always step OwnReplies start actions := by
  refine always_of_keeps (fun _ _ _ orderly turn stepped => orderly_step orderly turn stepped)
    (fun _ orderly => ownReplies_of orderly) ?_ turns
  exact ⟨by simp [start],by simp [start],by simp [start]⟩

/-- A session is started and the sessions are listed, one call after the other. -/
def oneByOne : List Action :=
  [.call .start,.register 0,.send 0,.answer (.started (some "s") none 0),.dispatch,.notify,.wake 0,.insert 0,
   .call .list,.register 1,.send 1,.answer (.listed 1),.dispatch,.notify,.wake 1]

theorem replies_own_played : Along step (fun s a => inTurn s a = true) start oneByOne ∧
    Always step OwnReplies start oneByOne ∧
    (run step start oneByOne).map (fun s => s.calls.map Call.phase) =
      some [.returned (some (.started (some "s") none 0)),.returned (some (.listed 1))] := by
  have turns : Along step (fun s a => inTurn s a = true) start oneByOne := by decide +kernel
  exact ⟨turns,replies_own oneByOne turns,by decide +kernel⟩

/-- The first call gives up, and its reply comes while the second one waits. -/
def lateReply : List Action :=
  [.call .list,.register 0,.send 0,.timeout 0,.call .list,.register 1,.send 1,.answer (.listed 0),.dispatch,.notify,.wake 1]

theorem late_reply_taken : ¬ ∀ actions : List Action, Always step OwnReplies start actions := by
  intro claim
  have other : (run step start lateReply).map (fun s => s.calls[1]?.map Call.phase) =
      some (some (.returned (some (.listed 0)))) := by
    decide +kernel
  obtain ⟨s,ran,found⟩ := Option.map_eq_some_iff.mp other
  obtain ⟨c,there,phase⟩ := Option.map_eq_some_iff.mp found
  have own := (always_last (claim lateReply) ran).own 1 c (.listed 0) there phase
  cases own

end Sctl.ClientReplies
