import Sctl.TransferSteps

/-!
What the trace of a run tells about the manager. Every transfer in the table
and every call in flight goes back to one `admitted` event with the same id,
directory, sizes and temporary file, and an id is admitted once. All other
invariants of the manager are stated over these books.
-/
namespace Sctl.TransferBooks
open Sctl.Files Sctl.TransferTypes Sctl.TransferManager Sctl.TransferSteps Sctl.Runs

variable {cfg : TransferConfig} {sha256 : Bytes → String}

/-! ### The trace -/

/-- Where an event that a step adds to the trace comes from. -/
inductive EventOrigin (s t : State) (a : Action) : Event → Prop
  | created {c : Nat} {plan : UploadPlan} {ino : Nat} {made : Manager} :
      s.calls c = some (.uploadCreate plan) → s.fresh a.env.uuid (plan.tempPath a.env.uuid) = true →
      uploadCreate a.env s.manager plan = .ok (ino,made) → t.manager = made →
      t.calls = Function.update s.calls c (some (.uploadSetLen plan a.env.uuid ino)) →
      EventOrigin s t a (.created a.env.uuid (plan.tempPath a.env.uuid) ino)
  | admitted {c : Nat} {call : Call} {transfer : Transfer} :
      a.move = .advance c → s.calls c = some call → call.update a.env = .insert transfer →
      call.pendingId = some transfer.spec.transferId → t.calls = Function.update s.calls c none →
      EventOrigin s t a (.admitted transfer.spec)
  | accepted {c : Nat} {r : Receiving} {ino : Nat} :
      a.move = .advance c → s.calls c = some (.receive r) → r.pc = .write ino →
      (receiveWrite a.env s.manager r.id r.ctx ino r.data).1 = .ok () →
      t.manager = (receiveWrite a.env s.manager r.id r.ctx ino r.data).2 →
      EventOrigin s t a (.accepted r.id r.index r.data)
  | published {c : Nat} {r : Receiving} {moved : Manager} :
      a.move = .advance c → s.calls c = some (.receive r) → r.pc = .rename →
      finalizeRename a.env s.manager r.ctx = .ok moved → t.manager = moved →
      EventOrigin s t a (.published r.id r.ctx.finalPath (((moved.disk.file? r.ctx.finalPath).map File.content).getD []))
  | acked {c : Nat} {r : Receiving} :
      a.move = .advance c → s.calls c = some (.receive r) → r.pc = .progress ∨ r.pc = .complete →
      EventOrigin s t a (.replied c (.ack (acceptedAck r.id r.index)))
  | served {c index : Nat} {id hash : String} {buf : Bytes} :
      a.move = .advance c → s.calls c = some (.serveProgress id index buf) →
      EventOrigin s t a (.replied c (.chunk ⟨id,index,hash⟩ buf))
  | replied {c : Nat} {r : Reply} : r.serves = false → EventOrigin s t a (.replied c r)

/-- What a step adds to the trace and to the ids handed out. -/
structure History (s t : State) (a : Action) : Prop where
  trace : ∃ new, t.trace = new ++ s.trace ∧ ∀ e ∈ new, EventOrigin s t a e
  issued : ∀ id ∈ s.issued, id ∈ t.issued

theorem History.silent {s t : State} {a : Action} (trace : t.trace = s.trace)
    (issued : ∀ id ∈ s.issued, id ∈ t.issued) : History s t a :=
  ⟨⟨[],trace,by simp⟩,issued⟩

theorem History.answered {s t : State} {a : Action} {c : Nat} {x : Reply} (trace : t.trace = s.trace)
    (issued : t.issued = s.issued) (origin : EventOrigin s (t.reply c x) a (.replied c x)) : History s (t.reply c x) a :=
  ⟨⟨[.replied c x],by simp [trace],by simpa using origin⟩,fun _ member => issued ▸ member⟩

theorem History.replied {s t : State} {a : Action} {c : Nat} {x : Reply} (trace : t.trace = s.trace)
    (issued : t.issued = s.issued) (plain : x.serves = false) : History s (t.reply c x) a :=
  .answered trace issued (.replied plain)

theorem History.logged {s t : State} {a : Action} {e : Event} (trace : t.trace = e :: s.trace)
    (issued : ∀ id ∈ s.issued, id ∈ t.issued) (origin : EventOrigin s t a e) : History s t a :=
  ⟨⟨[e],trace,by simpa using origin⟩,issued⟩

theorem advanceReceive_history {s : State} {env : Env} {c : Nat} {r : Receiving}
    (found : s.calls c = some (.receive r)) : History s (advanceReceive cfg sha256 s env c r) ⟨env,.advance c⟩ := by
  obtain ⟨id,index,data,ctx,pc⟩ := r
  have same : ∀ id ∈ s.issued, id ∈ s.issued := fun _ member => member
  cases pc with
  | reject => exact .replied rfl rfl rfl
  | openTemp =>
    simp only [advanceReceive]
    split
    · exact .replied rfl rfl rfl
    · exact .silent rfl same
  | write ino =>
    simp only [advanceReceive]
    split
    · exact .replied rfl rfl rfl
    · next done => exact .logged rfl same (.accepted rfl found rfl done rfl)
  | progress =>
    simp only [advanceReceive]
    split
    · exact .replied rfl rfl rfl
    · exact .answered rfl rfl (.acked rfl found (.inl rfl))
    · exact .silent rfl same
  | hash =>
    simp only [advanceReceive]
    split
    · exact .replied rfl rfl rfl
    · split_ifs <;> exact .silent rfl same
  | setHash actual => exact .silent rfl same
  | discard actual => exact .silent rfl same
  | fail actual => exact .replied rfl rfl rfl
  | chmod => exact .silent rfl same
  | rename =>
    simp only [advanceReceive]
    split
    · exact .silent rfl same
    · next moved done => exact .logged rfl same (.published rfl found rfl done rfl)
  | cleanup e => exact .replied rfl rfl rfl
  | complete => exact .answered rfl rfl (.acked rfl found (.inr rfl))

theorem advance_history {s t : State} {env : Env} {c : Nat} {call : Call} (found : s.calls c = some call)
    (advanced : advance cfg sha256 s env c call = some t) : History s t ⟨env,.advance c⟩ := by
  have same : ∀ id ∈ s.issued, id ∈ s.issued := fun _ member => member
  have more : ∀ id ∈ s.issued, id ∈ env.uuid :: s.issued := fun _ member => List.mem_cons_of_mem _ member
  cases call with
  | downloadHash plan =>
    simp only [advance] at advanced
    split at advanced
    · cases advanced
    · split at advanced
      · cases advanced; exact .replied rfl rfl rfl
      · split_ifs at advanced; cases advanced; exact .silent rfl more
  | downloadInsert transfer =>
    cases advanced
    refine ⟨⟨[.replied c _,.admitted transfer.spec],rfl,?_⟩,same⟩
    simp only [List.mem_cons,List.not_mem_nil,or_false]
    rintro e (rfl | rfl)
    · exact .replied rfl
    · exact .admitted rfl found rfl rfl rfl
  | uploadCreate plan =>
    simp only [advance] at advanced
    split_ifs at advanced with fresh
    split at advanced
    · cases advanced; exact .replied rfl rfl rfl
    · next made => cases advanced; exact .logged rfl more (.created found fresh made rfl rfl)
  | uploadSetLen plan id ino =>
    simp only [advance] at advanced
    split at advanced <;> cases advanced
    · exact .replied rfl rfl rfl
    · exact .silent rfl same
  | uploadInsert plan id =>
    cases advanced
    refine ⟨⟨[.replied c _,.admitted (uploadTransfer env plan id).spec],rfl,?_⟩,same⟩
    simp only [List.mem_cons,List.not_mem_nil,or_false]
    rintro e (rfl | rfl)
    · exact .replied rfl
    · exact .admitted rfl found rfl rfl rfl
  | serveOpen id index ctx =>
    simp only [advance] at advanced
    split at advanced <;> cases advanced
    · exact .replied rfl rfl rfl
    · exact .silent rfl same
  | serveRead id index ctx ino =>
    simp only [advance] at advanced
    split at advanced <;> cases advanced
    · exact .replied rfl rfl rfl
    · exact .silent rfl same
  | serveProgress id index buf => cases advanced; exact .answered rfl rfl (.served rfl found)
  | receive r => cases advanced; exact advanceReceive_history found

/-- A step adds events to the trace and says why. -/
theorem step_history {s t : State} {a : Action} (stepped : step cfg sha256 s a = some t) : History s t a := by
  obtain ⟨env,move⟩ := a
  have same : ∀ id ∈ s.issued, id ∈ s.issued := fun _ member => member
  cases move with
  | advance c =>
    obtain ⟨call,found,advanced⟩ := Option.bind_eq_some_iff.mp stepped
    exact advance_history found advanced
  | pauseAll => cases stepped; exact .silent rfl same
  | sweepStale => cases stepped; exact .silent rfl same
  | resume c id =>
    simp only [step] at stepped
    split_ifs at stepped
    cases stepped
    refine .replied rfl rfl ?_
    cases (resume env s.manager id).1 <;> rfl
  | abort c id =>
    simp only [step] at stepped
    split_ifs at stepped
    cases stepped
    refine .replied rfl rfl ?_
    cases (abort env s.manager id).1 <;> rfl
  | initDownload c path chunkSize =>
    simp only [step] at stepped
    split_ifs at stepped
    split at stepped <;> cases stepped
    · exact .replied rfl rfl rfl
    · exact .silent rfl same
  | initUpload c req =>
    simp only [step] at stepped
    split_ifs at stepped
    split at stepped <;> cases stepped
    · exact .replied rfl rfl rfl
    · exact .silent rfl same
  | serveChunk c id index =>
    simp only [step] at stepped
    split_ifs at stepped
    split at stepped <;> cases stepped
    · exact .replied rfl rfl rfl
    · exact .silent rfl same
  | receiveChunk c id index chunkHash data =>
    simp only [step] at stepped
    split at stepped
    · cases stepped
    · split at stepped <;> cases stepped
      · exact .replied rfl rfl rfl
      · exact .silent rfl same

theorem trace_grows {s t : State} {a : Action} (stepped : step cfg sha256 s a = some t) {e : Event}
    (member : e ∈ s.trace) : e ∈ t.trace := by
  obtain ⟨new,trace,_⟩ := (step_history stepped).trace
  rw [trace]; exact List.mem_append_right _ member

theorem event_origin {s t : State} {a : Action} (stepped : step cfg sha256 s a = some t) {e : Event}
    (member : e ∈ t.trace) : e ∈ s.trace ∨ EventOrigin s t a e := by
  obtain ⟨new,trace,origin⟩ := (step_history stepped).trace
  rw [trace] at member
  rcases List.mem_append.mp member with now | before
  · exact .inr (origin e now)
  · exact .inl before

/-! ### The table -/

/-- How a transfer that was in the table came out of a step. -/
inductive Edited (cfg : TransferConfig) (u : Update) (id : String) (t : Transfer) : Transfer → Prop
  | same : Edited cfg u id t t
  | edit (e : Edit) : u = .edit id e → Edited cfg u id t (e.apply cfg t)
  | paused : u = .pauseAll → Edited cfg u id t (pauseTransfer t)

theorem apply_lookup {table : Table String Transfer} {u : Update} {id : String} {after : Transfer}
    (found : (u.apply cfg table).lookup id = some after) :
    (∃ before, table.lookup id = some before ∧ Edited cfg u id before after) ∨
      u = .insert after ∧ id = after.spec.transferId := by
  cases u with
  | keep => exact .inl ⟨after,found,.same⟩
  | insert t =>
    rw [Update.apply,Table.lookup_insert_eq] at found
    split_ifs at found with same
    · cases found; exact .inr ⟨rfl,same⟩
    · exact .inl ⟨after,found,.same⟩
  | edit id' e =>
    rw [Update.apply,Table.lookup_modify] at found
    split_ifs at found with same
    · subst same
      obtain ⟨before,there,rfl⟩ := Option.map_eq_some_iff.mp found
      exact .inl ⟨before,there,.edit e rfl⟩
    · exact .inl ⟨after,found,.same⟩
  | pauseAll =>
    rw [Update.apply,Table.lookup_mapValues] at found
    obtain ⟨before,there,rfl⟩ := Option.map_eq_some_iff.mp found
    exact .inl ⟨before,there,.paused rfl⟩
  | sweep now => exact .inl ⟨after,(Table.lookup_keep_iff.mp found).1,.same⟩

/-- What no edit changes: everything but the hash, the phase and the progress. -/
structure SameTransfer (before after : Transfer) : Prop where
  spec : after.spec = { before.spec with fileHash := after.spec.fileHash }
  temp : after.progress.tempPath = before.progress.tempPath
  chunks : after.progress.chunksDone.length = before.progress.chunksDone.length

theorem edit_sameTransfer (e : Edit) (t : Transfer) : SameTransfer t (e.apply cfg t) := by
  cases e with
  | served index len now =>
    simp only [Edit.apply,serveMark]
    split <;> exact ⟨rfl,rfl,by simp [setPhase,markChunk]⟩
  | rejected totalChunks now =>
    simp only [Edit.apply,rejectChunk]
    split <;> exact ⟨rfl,rfl,rfl⟩
  | received index len now =>
    simp only [Edit.apply,receiveMark]
    split <;> exact ⟨rfl,rfl,by simp [setPhase,markChunk]⟩
  | hashed actual => exact ⟨rfl,rfl,rfl⟩
  | mismatched => exact ⟨rfl,rfl,rfl⟩
  | completed => exact ⟨rfl,rfl,rfl⟩
  | resumed now => exact ⟨rfl,rfl,rfl⟩
  | aborted => exact ⟨rfl,rfl,rfl⟩

theorem edited_sameTransfer {u : Update} {id : String} {before after : Transfer}
    (edited : Edited cfg u id before after) : SameTransfer before after := by
  cases edited with
  | same => exact ⟨rfl,rfl,rfl⟩
  | edit e _ => exact edit_sameTransfer e before
  | paused _ =>
    unfold pauseTransfer
    split <;> exact ⟨rfl,rfl,rfl⟩

/-! ### The books -/

/-- The temporary file of a transfer; downloads have none. -/
def tempOf (spec : TransferSpec) : PathBuf :=
  match spec.direction with
  | .upload => join spec.path (tempName spec.transferId)
  | .download => []

/-- A transfer of the table was admitted with a spec. -/
structure Belongs (id : String) (t : Transfer) (spec : TransferSpec) : Prop where
  key : spec.transferId = id
  same : t.spec = { spec with fileHash := t.spec.fileHash }
  temp : t.progress.tempPath = tempOf spec
  chunks : t.progress.chunksDone.length = spec.totalChunks

/-- A `receive_chunk` call read its context from a transfer admitted with a spec. -/
structure Fits (r : Receiving) (spec : TransferSpec) : Prop where
  key : spec.transferId = r.id
  upload : spec.direction = .upload
  index : r.index < spec.totalChunks
  offset : r.ctx.offset = r.index * spec.chunkSize
  temp : r.ctx.tempPath = tempOf spec
  final : r.ctx.finalPath = join spec.path spec.filename

/-- A transfer as `init_download` and `init_upload` insert it. -/
structure Starting (t : Transfer) : Prop where
  phase : t.progress.phase = .transferring
  chunks : t.progress.chunksDone = List.replicate t.spec.totalChunks false
  temp : t.progress.tempPath = tempOf t.spec

def Call.servingId : Call → Option String
  | .serveOpen id _ _ => some id
  | .serveRead id _ _ _ => some id
  | .serveProgress id _ _ => some id
  | _ => none

structure Books (s : State) : Prop where
  pendingIssued : ∀ c call id, s.calls c = some call → call.pendingId = some id → id ∈ s.issued
  pendingNew : ∀ c call id, s.calls c = some call → call.pendingId = some id →
    ∀ spec, .admitted spec ∈ s.trace → spec.transferId ≠ id
  pendingOnce : ∀ c c' call call' id, s.calls c = some call → s.calls c' = some call' →
    call.pendingId = some id → call'.pendingId = some id → c = c'
  admittedIssued : ∀ spec, .admitted spec ∈ s.trace → spec.transferId ∈ s.issued
  admittedOnce : ∀ spec spec', .admitted spec ∈ s.trace → .admitted spec' ∈ s.trace →
    spec.transferId = spec'.transferId → spec = spec'
  table : ∀ id t, s.manager.transfers.lookup id = some t → ∃ spec, .admitted spec ∈ s.trace ∧ Belongs id t spec
  starting : ∀ c t, s.calls c = some (.downloadInsert t) → t.spec.direction = .download ∧ Starting t
  serving : ∀ c call id, s.calls c = some call → Call.servingId call = some id →
    ∃ spec, .admitted spec ∈ s.trace ∧ spec.transferId = id ∧ spec.direction = .download
  receiving : ∀ c r, s.calls c = some (.receive r) → ∃ spec, .admitted spec ∈ s.trace ∧ Fits r spec

theorem books_start (disk : Disk PathBuf) : Books (start disk) := by
  constructor <;> simp [start]

/-- A step that inserts a transfer is the last section of a call that holds its id. -/
theorem insert_call {s t : State} {a : Action} {new : Transfer} (stepped : step cfg sha256 s a = some t)
    (inserts : update s a = .insert new) : ∃ c call, a.move = .advance c ∧ s.calls c = some call ∧
      call.update a.env = .insert new ∧ call.pendingId = some new.spec.transferId ∧ .admitted new.spec ∈ t.trace := by
  obtain ⟨env,move⟩ := a
  cases move with
  | advance c =>
    obtain ⟨call,found,advanced⟩ := Option.bind_eq_some_iff.mp stepped
    simp only [update,found,Option.map_some,Option.getD_some] at inserts
    refine ⟨c,call,rfl,found,inserts,?_⟩
    cases call with
    | downloadInsert transfer => cases inserts; cases advanced; exact ⟨rfl,by simp⟩
    | uploadInsert plan id => cases inserts; cases advanced; exact ⟨rfl,by simp⟩
    | receive r => simp only [Call.update] at inserts; split at inserts <;> cases inserts
    | _ => cases inserts
  | resume c id => simp only [update] at inserts; split at inserts <;> cases inserts
  | _ => cases inserts

theorem insert_starting {s : State} {a : Action} {new : Transfer} {c : Nat} {call : Call} (books : Books s)
    (found : s.calls c = some call) (inserts : call.update a.env = .insert new) : Starting new := by
  cases call with
  | downloadInsert transfer => cases inserts; exact (books.starting c _ found).2
  | uploadInsert plan id => cases inserts; exact ⟨rfl,rfl,rfl⟩
  | receive r => simp only [Call.update] at inserts; split at inserts <;> cases inserts
  | _ => cases inserts

/-- A pending id was pending before in the same slot, or the step handed it out. -/
theorem pending_before {s t : State} {a : Action} {c : Nat} {call : Call} {id : String}
    (stepped : step cfg sha256 s a = some t) (there : t.calls c = some call) (pend : call.pendingId = some id) :
    (∃ before, s.calls c = some before ∧ before.pendingId = some id) ∨
      id ∉ s.issued ∧ id ∈ t.issued ∧ a.move.slot = some c := by
  by_cases slot : a.move.slot = some c
  · cases step_call stepped there with
    | kept before other => exact absurd slot other
    | downloadInsert before unused issued =>
      simp only [Call.pendingId,downloadTransfer,Option.some.injEq] at pend
      subst pend; exact .inr ⟨unused,issued,slot⟩
    | uploadSetLen before fresh made manager issued logged =>
      simp only [Call.pendingId,Option.some.injEq] at pend
      subst pend
      exact .inr ⟨((State.fresh_iff s).mp fresh).1,issued,slot⟩
    | uploadInsert before _ _ => exact .inl ⟨_,before,pend⟩
    | _ => cases pend
  · exact .inl ⟨call,(step_calls_other stepped slot).symm.trans there,pend⟩

/-- An admission of a step: the id was pending in the slot that the step empties. -/
theorem admitted_before {s t : State} {a : Action} {spec : TransferSpec} (stepped : step cfg sha256 s a = some t)
    (admitted : .admitted spec ∈ t.trace) : .admitted spec ∈ s.trace ∨ ∃ c call new, a.move = .advance c ∧
      s.calls c = some call ∧ call.update a.env = .insert new ∧ call.pendingId = some spec.transferId ∧
      t.calls c = none ∧ spec = new.spec := by
  rcases event_origin stepped admitted with before | origin
  · exact .inl before
  · cases origin with
    | admitted move found inserts pend calls =>
      exact .inr ⟨_,_,_,move,found,inserts,pend,by rw [calls,Function.update_self],rfl⟩

theorem belongs_of_same {id : String} {before after : Transfer} {spec : TransferSpec} (belongs : Belongs id before spec)
    (same : SameTransfer before after) : Belongs id after spec := by
  refine ⟨belongs.key,?_,same.temp.trans belongs.temp,same.chunks.trans belongs.chunks⟩
  have now := same.spec
  rw [belongs.same] at now
  exact now

section
variable {s t : State} {a : Action}

/-- A pending id was not admitted by the step that leaves it pending. -/
theorem pending_new {c : Nat} {call : Call} {spec : TransferSpec} (books : Books s) (stepped : step cfg sha256 s a = some t)
    (there : t.calls c = some call) (pend : call.pendingId = some spec.transferId) : .admitted spec ∉ t.trace := by
  intro admitted
  rcases pending_before stepped there pend with ⟨before,found,pend'⟩ | ⟨unused,_,_⟩
  · rcases admitted_before stepped admitted with old | ⟨c',call',_,_,found',_,pend'',empty,_⟩
    · exact books.pendingNew c before _ found pend' spec old rfl
    · cases books.pendingOnce c c' before call' _ found found' pend' pend''
      rw [empty] at there; cases there
  · rcases admitted_before stepped admitted with old | ⟨c',call',_,_,found',_,pend',_,_⟩
    · exact unused (books.admittedIssued spec old)
    · exact unused (books.pendingIssued c' call' _ found' pend')

theorem pending_once {c c' : Nat} {call call' : Call} {id : String} (books : Books s)
    (stepped : step cfg sha256 s a = some t) (there : t.calls c = some call) (there' : t.calls c' = some call')
    (pend : call.pendingId = some id) (pend' : call'.pendingId = some id) : c = c' := by
  rcases pending_before stepped there pend with ⟨before,found,was⟩ | ⟨unused,_,slot⟩
  · rcases pending_before stepped there' pend' with ⟨before',found',was'⟩ | ⟨unused',_,_⟩
    · exact books.pendingOnce c c' before before' id found found' was was'
    · exact absurd (books.pendingIssued c before id found was) unused'
  · rcases pending_before stepped there' pend' with ⟨before',found',was'⟩ | ⟨_,_,slot'⟩
    · exact absurd (books.pendingIssued c' before' id found' was') unused
    · exact Option.some.inj (slot.symm.trans slot')

theorem admitted_once {spec spec' : TransferSpec} (books : Books s) (stepped : step cfg sha256 s a = some t)
    (admitted : .admitted spec ∈ t.trace) (admitted' : .admitted spec' ∈ t.trace)
    (same : spec.transferId = spec'.transferId) : spec = spec' := by
  rcases admitted_before stepped admitted with old | ⟨c,call,new,move,found,inserts,pend,_,rfl⟩
  · rcases admitted_before stepped admitted' with old' | ⟨c,call,_,_,found,_,pend,_,_⟩
    · exact books.admittedOnce spec spec' old old' same
    · exact absurd same (books.pendingNew c call _ found pend spec old)
  · rcases admitted_before stepped admitted' with old' | ⟨c',call',new',move',found',inserts',_,_,rfl⟩
    · exact absurd same.symm (books.pendingNew c call _ found pend spec' old')
    · cases move.symm.trans move'
      cases found.symm.trans found'
      cases inserts.symm.trans inserts'
      rfl

theorem serving_step {c : Nat} {call : Call} {id : String} (books : Books s) (stepped : step cfg sha256 s a = some t)
    (there : t.calls c = some call) (serves : Call.servingId call = some id) :
    ∃ spec, .admitted spec ∈ t.trace ∧ spec.transferId = id ∧ spec.direction = .download := by
  have old (before : Call) (found : s.calls c = some before) (served : Call.servingId before = some id) :
      ∃ spec, .admitted spec ∈ t.trace ∧ spec.transferId = id ∧ spec.direction = .download := by
    obtain ⟨spec,admitted,rest⟩ := books.serving c before id found served
    exact ⟨spec,trace_grows stepped admitted,rest⟩
  cases step_call stepped there with
  | kept before _ => exact old _ before serves
  | serveOpen _ checked =>
    cases serves
    obtain ⟨tr,found,direction,_⟩ := serveCheck_ok checked
    obtain ⟨spec,admitted,belongs⟩ := books.table _ tr found
    refine ⟨spec,trace_grows stepped admitted,belongs.key,?_⟩
    rw [belongs.same] at direction; exact direction
  | serveRead before => exact old _ before serves
  | serveProgress before _ => exact old _ before serves
  | _ => cases serves

theorem receiving_step {c : Nat} {r : Receiving} (books : Books s) (stepped : step cfg sha256 s a = some t)
    (there : t.calls c = some (.receive r)) : ∃ spec, .admitted spec ∈ t.trace ∧ Fits r spec := by
  cases step_call stepped there with
  | kept before _ =>
    obtain ⟨spec,admitted,fits⟩ := books.receiving c r before
    exact ⟨spec,trace_grows stepped admitted,fits⟩
  | receive _ checked _ _ =>
    obtain ⟨tr,found,direction,_,range,rfl⟩ := receiveCheck_ok checked
    obtain ⟨spec,admitted,belongs⟩ := books.table _ tr found
    rw [belongs.same] at direction range
    refine ⟨spec,trace_grows stepped admitted,belongs.key,direction,range,?_,belongs.temp,?_⟩
    · show _ * tr.spec.chunkSize = _; rw [belongs.same]
    · show join tr.spec.path tr.spec.filename = _; rw [belongs.same]
  | received _ found _ =>
    obtain ⟨spec,admitted,fits⟩ := books.receiving c _ found
    exact ⟨spec,trace_grows stepped admitted,fits.key,fits.upload,fits.index,fits.offset,fits.temp,fits.final⟩

theorem books_step (books : Books s) (stepped : step cfg sha256 s a = some t) : Books t where
  pendingIssued := by
    intro c call id there pend
    rcases pending_before stepped there pend with ⟨before,found,pend'⟩ | ⟨_,now,_⟩
    · exact (step_history stepped).issued id (books.pendingIssued c before id found pend')
    · exact now
  pendingNew := by
    rintro c call id there pend spec admitted rfl
    exact pending_new books stepped there pend admitted
  pendingOnce _ _ _ _ _ there there' pend pend' := pending_once books stepped there there' pend pend'
  admittedIssued := by
    intro spec admitted
    rcases admitted_before stepped admitted with old | ⟨c,call,_,_,found,_,pend,_,_⟩
    · exact (step_history stepped).issued _ (books.admittedIssued spec old)
    · exact (step_history stepped).issued _ (books.pendingIssued c call _ found pend)
  admittedOnce _ _ admitted admitted' same := admitted_once books stepped admitted admitted' same
  table := by
    intro id after found
    rw [step_transfers stepped] at found
    rcases apply_lookup found with ⟨before,there,edited⟩ | ⟨inserts,rfl⟩
    · obtain ⟨spec,admitted,belongs⟩ := books.table id before there
      exact ⟨spec,trace_grows stepped admitted,belongs_of_same belongs (edited_sameTransfer edited)⟩
    · obtain ⟨c,call,_,there,inserts',_,admitted⟩ := insert_call stepped inserts
      have begin := insert_starting books there inserts'
      exact ⟨after.spec,admitted,rfl,rfl,begin.temp,by simp [begin.chunks]⟩
  starting := by
    intro c new there
    cases step_call stepped there with
    | kept before _ => exact books.starting c new before
    | downloadInsert _ _ _ => exact ⟨rfl,rfl,rfl,rfl⟩
  serving _ _ _ there serves := serving_step books stepped there serves
  receiving _ _ there := receiving_step books stepped there

end
end Sctl.TransferBooks
