import Sctl.TransferDisk

/-!
The content of a published file. Chunks arrive in any order and any number of
times; a chunk that was written is in the temporary file from then on, unless
another accepted payload for the same chunk replaces it. `receive_chunk` does
not look at the length of a payload, so this holds in the runs whose payloads
have the length of their chunk.
-/
namespace Sctl.TransferContent
open Sctl.Files Sctl.TransferTypes Sctl.TransferManager Sctl.TransferSteps Sctl.TransferBooks Sctl.TransferDisk Sctl.Runs

variable {cfg : TransferConfig} {sha256 : Bytes → String}

/-! ### The sections of a call -/

/-- The sections after the last chunk was marked. -/
def pastProgress : ReceivePc → Bool
  | .reject => false
  | .openTemp => false
  | .write _ => false
  | .progress => false
  | _ => true

/-- Which section follows which, and what was found on the way. -/
inductive NextPc (s : State) (env : Env) (r : Receiving) : ReceivePc → Prop
  | opened {ino : Nat} : r.pc = .openTemp → s.manager.disk.names r.ctx.tempPath = some ino → NextPc s env r (.write ino)
  | stored {ino : Nat} : r.pc = .write ino → (receiveWrite env s.manager r.id r.ctx ino r.data).1 = .ok () →
      NextPc s env r .progress
  | filled : r.pc = .progress → (receiveProgress env s.manager r.id r.index r.data.length).1 = .ok true →
      NextPc s env r .hash
  | later {pc : ReceivePc} : pastProgress r.pc = true → pastProgress pc = true → NextPc s env r pc

theorem receiveWrite_ok {env : Env} {m : Manager} {id : String} {ctx : ReceiveContext} {ino : Nat} {data : Bytes}
    (done : (receiveWrite env m id ctx ino data).1 = .ok ()) :
    (env.seek = none ∧ env.io = none ∧ env.sync = none) ∧ (receiveWrite env m id ctx ino data).2 =
      { m with disk := m.disk.update ino fun f =>
        { f with content := writeAt f.content ctx.offset data, mtime := env.clock } } := by
  cases seek : env.seek with
  | some e => simp [receiveWrite,seek] at done
  | none => cases io : env.io with
    | some e => simp [receiveWrite,seek,io] at done
    | none => cases sync : env.sync with
      | some e => simp [receiveWrite,seek,io,sync] at done
      | none => simp [receiveWrite,seek,io,sync]

theorem advanceReceive_next {s : State} {env : Env} {c : Nat} {r : Receiving} {pc : ReceivePc}
    (held : (advanceReceive cfg sha256 s env c r).calls c = some (.receive { r with pc := pc })) : NextPc s env r pc := by
  obtain ⟨id,index,data,ctx,old⟩ := r
  cases old with
  | reject => exact absurd held replied_none
  | openTemp =>
    simp only [advanceReceive] at held
    split at held
    · exact absurd held replied_none
    · next ino found =>
      cases parked_call held
      refine .opened rfl ?_
      unfold receiveOpen openExisting at found
      split at found
      · cases found
      · split at found
        · next there => cases found; exact there
        · cases found
  | write ino =>
    simp only [advanceReceive] at held
    split at held
    · exact absurd held replied_none
    · next done => cases parked_call held; exact .stored rfl done
  | progress =>
    simp only [advanceReceive] at held
    split at held
    · exact absurd held replied_none
    · exact absurd held replied_none
    · next done => cases parked_call held; exact .filled rfl done
  | hash =>
    simp only [advanceReceive] at held
    split at held
    · exact absurd held replied_none
    · split_ifs at held <;> (cases parked_call held; exact .later rfl rfl)
  | setHash actual => cases parked_call held; exact .later rfl rfl
  | discard actual => cases parked_call held; exact .later rfl rfl
  | fail actual => exact absurd held replied_none
  | chmod => cases parked_call held; exact .later rfl rfl
  | rename =>
    simp only [advanceReceive] at held
    split at held <;> (cases parked_call held; exact .later rfl rfl)
  | cleanup e => exact absurd held replied_none
  | complete => exact absurd held replied_none

/-! ### The bytes of a temporary file -/

def contentOf (s : State) (ino : Nat) : Bytes := (s.manager.disk.files ino).content

/-- How the bytes of a temporary file came out of a step. -/
inductive Rewritten (s t : State) (a : Action) (id : String) (ino : Nat) : Prop
  | same : contentOf t ino = contentOf s ino → Rewritten s t a id ino
  | resized {c : Nat} {plan : UploadPlan} :
      s.calls c = some (.uploadSetLen plan id ino) → contentOf t ino = setLen (contentOf s ino) plan.fileSize →
      Rewritten s t a id ino
  | written {c : Nat} {r : Receiving} :
      a.move = .advance c → s.calls c = some (.receive r) → r.pc = .write ino →
      (a.env.sync = none → .accepted r.id r.index r.data ∈ t.trace) →
      contentOf t ino = writeAt (contentOf s ino) r.ctx.offset r.data → Rewritten s t a id ino

theorem update_content {d : Disk PathBuf} {ino other : Nat} {f : File → File} :
    ((d.update ino f).files other).content =
      if other = ino then (f (d.files ino)).content else (d.files other).content := by
  by_cases same : other = ino
  · subst same; simp [Disk.update]
  · simp [Disk.update,same]

theorem temp_rewritten {s t : State} {a : Action} {id : String} {temp : PathBuf} {ino : Nat} (temps : Temps s)
    (created : .created id temp ino ∈ s.trace) (stepped : step cfg sha256 s a = some t) : Rewritten s t a id ino := by
  cases step_disk stepped with
  | unlinked fewer => exact .same (by rw [contentOf,fewer.files]; rfl)
  | created _ _ fresh disk =>
    have old := temps.bounded id temp ino created
    refine .same ?_
    rw [contentOf,disk,(Disk.create_new a.env.clock ((State.fresh_iff s).mp fresh).2).2.2.2,
      Function.update_of_ne (by omega)]
    rfl
  | @resized c plan id' ino' _ found disk =>
    by_cases here : ino = ino'
    · subst here
      cases temps.apart id id' _ _ ino created (temps.sizing c plan id' ino found)
      exact .resized found (by simp [contentOf,disk,update_content])
    · exact .same (by simp [contentOf,disk,update_content,here])
  | @written c r ino' move found late accepted disk =>
    by_cases here : ino = ino'
    · subst here
      exact .written move found late accepted (by simp [contentOf,disk,update_content])
    · exact .same (by simp [contentOf,disk,update_content,here])
  | @permitted ino' bits disk =>
    refine .same ?_
    rw [contentOf,disk,update_content]
    split
    · next here => subst here; rfl
    · rfl
  | moved _ _ _ renamed =>
    obtain ⟨_,_,_,files,_,_⟩ := Disk.rename_moves renamed
    exact .same (by rw [contentOf,files]; rfl)

/-! ### Accepted chunks stay -/

/-- What a run has to keep to: chunk counts that fit their machine integer,
    payloads of the length of their chunk, data that reaches the disk, and no
    rename onto the temporary file of another upload. -/
def keepsChunks (sha256 : Bytes → String) (s : State) (a : Action) : Bool :=
  match a.move with
  | .initUpload _ req => divCeil req.fileSize (max req.chunkSize 1024) < 2 ^ 32
  | .receiveChunk _ id index chunkHash data => match s.manager.transfers.lookup id with
    | some t => sha256 data ≠ chunkHash || data.length = chunkLen t.spec.fileSize t.spec.chunkSize index
    | none => true
  | .advance c => match s.calls c with
    | some (.receive r) => match r.pc with
      | .write _ => a.env.sync.isNone
      | .rename => sparesTemps s r
      | _ => true
    | _ => true
  | _ => true

/-- The range of a chunk holds a payload that was accepted for it. -/
def Held (s : State) (spec : TransferSpec) (i : Nat) : Prop :=
  ∃ temp ino payload, .created spec.transferId temp ino ∈ s.trace ∧ .accepted spec.transferId i payload ∈ s.trace ∧
    slice (contentOf s ino) (i * spec.chunkSize) (chunkLen spec.fileSize spec.chunkSize i) = payload

/-- The content of a published file is what was accepted for its chunks. -/
def Intact (s : State) (id : String) (path : PathBuf) (content : Bytes) : Prop :=
  ∃ spec, .admitted spec ∈ s.trace ∧ spec.transferId = id ∧ spec.direction = .upload ∧
    path = join spec.path spec.filename ∧ content.length = spec.fileSize ∧
    ∃ payload : Nat → Bytes, (∀ i < spec.totalChunks, .accepted id i (payload i) ∈ s.trace ∧
        slice content (i * spec.chunkSize) (payload i).length = payload i) ∧
      content = (List.range spec.totalChunks).flatMap payload

def UploadIntegrity (s : State) : Prop := ∀ id path content, .published id path content ∈ s.trace → Intact s id path content

def callPlan : Call → Option UploadPlan
  | .uploadCreate plan => some plan
  | .uploadSetLen plan _ _ => some plan
  | .uploadInsert plan _ => some plan
  | _ => none

structure Contents (s : State) : Prop where
  temps : Temps s
  planned : ∀ c call plan, s.calls c = some call → callPlan call = some plan →
    Covers plan.fileSize plan.chunkSize plan.totalChunks
  covers : ∀ spec, .admitted spec ∈ s.trace → spec.direction = .upload →
    Covers spec.fileSize spec.chunkSize spec.totalChunks
  own : ∀ id temp ino, .created id temp ino ∈ s.trace →
    s.manager.disk.names temp = some ino ∨ s.manager.disk.names temp = none
  presized : ∀ c plan id temp ino, s.calls c = some (.uploadInsert plan id) → .created id temp ino ∈ s.trace →
    (contentOf s ino).length = plan.fileSize
  sized : ∀ spec temp ino, .admitted spec ∈ s.trace → spec.direction = .upload →
    .created spec.transferId temp ino ∈ s.trace → (contentOf s ino).length = spec.fileSize
  opened : ∀ c r ino, s.calls c = some (.receive r) → r.pc = .write ino → ∃ temp, .created r.id temp ino ∈ s.trace
  payload : ∀ c r spec, s.calls c = some (.receive r) → r.pc ≠ .reject → .admitted spec ∈ s.trace →
    spec.transferId = r.id → r.data.length = chunkLen spec.fileSize spec.chunkSize r.index
  stored : ∀ c r spec, s.calls c = some (.receive r) → r.pc = .progress → .admitted spec ∈ s.trace →
    spec.transferId = r.id → Held s spec r.index
  full : ∀ c r spec, s.calls c = some (.receive r) → pastProgress r.pc = true → .admitted spec ∈ s.trace →
    spec.transferId = r.id → ∀ i < spec.totalChunks, Held s spec i
  marked : ∀ id t spec i, s.manager.transfers.lookup id = some t → .admitted spec ∈ s.trace → spec.transferId = id →
    spec.direction = .upload → t.progress.chunksDone.getD i false = true → Held s spec i
  integrity : UploadIntegrity s

/-- A write of a call, with the spec and the file it goes to. -/
structure ChunkWrite (s : State) (spec : TransferSpec) (r : Receiving) (ino : Nat) : Prop where
  id : r.id = spec.transferId
  index : r.index < spec.totalChunks
  offset : r.ctx.offset = r.index * spec.chunkSize
  length : r.data.length = chunkLen spec.fileSize spec.chunkSize r.index
  inside : r.ctx.offset + r.data.length ≤ (contentOf s ino).length

theorem chunkWrite {s : State} {c : Nat} {r : Receiving} {spec : TransferSpec} {temp : PathBuf} {ino : Nat}
    (contents : Contents s) (found : s.calls c = some (.receive r)) (writes : r.pc = .write ino)
    (admitted : .admitted spec ∈ s.trace) (created : .created spec.transferId temp ino ∈ s.trace) :
    ChunkWrite s spec r ino := by
  obtain ⟨temp',created'⟩ := contents.opened c r ino found writes
  have id : r.id = spec.transferId := contents.temps.apart _ _ _ _ ino created' created
  obtain ⟨spec',admitted',fits⟩ := contents.temps.books.receiving c r found
  cases contents.temps.books.admittedOnce spec' spec admitted' admitted (fits.key.trans id)
  have length := contents.payload c r spec found (by simp [writes]) admitted id.symm
  refine ⟨id,fits.index,fits.offset,length,?_⟩
  rw [fits.offset,length,contents.sized spec temp ino admitted fits.upload created]
  exact (contents.covers spec admitted fits.upload).inside r.index fits.index

/-- An admitted upload is past the sizing of its temporary file. -/
theorem not_resizing {s : State} {c : Nat} {plan : UploadPlan} {spec : TransferSpec} {ino : Nat} (contents : Contents s)
    (admitted : .admitted spec ∈ s.trace) : s.calls c ≠ some (.uploadSetLen plan spec.transferId ino) := by
  intro found
  exact contents.temps.books.pendingNew c _ _ found rfl spec admitted rfl

theorem keepsChunks_sync {s : State} {a : Action} {c : Nat} {r : Receiving} {ino : Nat}
    (keeps : keepsChunks sha256 s a = true) (move : a.move = .advance c) (found : s.calls c = some (.receive r))
    (writes : r.pc = .write ino) : a.env.sync = none := by
  simpa [keepsChunks,move,found,writes] using keeps

theorem keepsChunks_spares {s : State} {a : Action} (keeps : keepsChunks sha256 s a = true) (c : Nat) (r : Receiving)
    (move : a.move = .advance c) (found : s.calls c = some (.receive r)) (late : r.pc = .rename) :
    sparesTemps s r = true := by
  simpa [keepsChunks,move,found,late] using keeps

/-- A chunk that is held stays held: another chunk's payload goes elsewhere,
    and a payload for the same chunk takes its place. -/
theorem held_step {s t : State} {a : Action} {spec : TransferSpec} {i : Nat} (contents : Contents s)
    (admitted : .admitted spec ∈ s.trace) (keeps : keepsChunks sha256 s a = true)
    (stepped : step cfg sha256 s a = some t) (held : Held s spec i) : Held t spec i := by
  obtain ⟨temp,ino,payload,created,accepted,there⟩ := held
  have grows {e : Event} (member : e ∈ s.trace) : e ∈ t.trace := trace_grows stepped member
  cases temp_rewritten contents.temps created stepped with
  | same content => exact ⟨temp,ino,payload,grows created,grows accepted,by rw [content]; exact there⟩
  | resized found _ => exact absurd found (not_resizing contents admitted)
  | @written c r move found writes logged content =>
    have write := chunkWrite contents found writes admitted created
    have calm := keepsChunks_sync keeps move found writes
    by_cases same : r.index = i
    · subst same
      refine ⟨temp,ino,r.data,grows created,write.id ▸ logged calm,?_⟩
      rw [content,← write.offset,← write.length]
      exact slice_writeAt_same write.inside
    · refine ⟨temp,ino,payload,grows created,grows accepted,?_⟩
      rw [content,slice_writeAt_apart write.inside]
      · exact there
      · have bound (j : Nat) : chunkLen spec.fileSize spec.chunkSize j ≤ spec.chunkSize := Nat.min_le_left ..
        rw [write.offset,write.length]
        rcases Nat.lt_or_gt_of_ne same with before | after
        · right
          have step : (r.index + 1) * spec.chunkSize ≤ i * spec.chunkSize := Nat.mul_le_mul_right _ before
          rw [Nat.succ_mul] at step
          exact le_trans (Nat.add_le_add_left (bound r.index) _) step
        · left
          have step : (i + 1) * spec.chunkSize ≤ r.index * spec.chunkSize := Nat.mul_le_mul_right _ after
          rw [Nat.succ_mul] at step
          exact le_trans (Nat.add_le_add_left (bound i) _) step

/-! ### One step -/

/-- The spec of a call in flight was admitted before the step. -/
theorem spec_before {s t : State} {a : Action} {c : Nat} {r : Receiving} {spec : TransferSpec} (books : Books s)
    (stepped : step cfg sha256 s a = some t) (found : s.calls c = some (.receive r))
    (admitted : .admitted spec ∈ t.trace) (same : spec.transferId = r.id) : .admitted spec ∈ s.trace := by
  obtain ⟨old,before,fits⟩ := books.receiving c r found
  have once := (books_step books stepped).admittedOnce old spec (trace_grows stepped before) admitted
    (fits.key.trans same.symm)
  exact once ▸ before

/-- An id that is waiting to be inserted had its temporary file created before the step. -/
theorem created_pending {s t : State} {a : Action} {c : Nat} {call : Call} {id : String} {temp : PathBuf} {ino : Nat}
    (temps : Temps s) (stepped : step cfg sha256 s a = some t) (found : s.calls c = some call)
    (pend : call.pendingId = some id) (created : .created id temp ino ∈ t.trace) : .created id temp ino ∈ s.trace := by
  rcases created_before temps.books stepped created with old | new
  · exact old
  · exact absurd (temps.books.pendingIssued c call id found pend) new.unused

theorem created_admitted {s t : State} {a : Action} {spec : TransferSpec} {temp : PathBuf} {ino : Nat}
    (temps : Temps s) (stepped : step cfg sha256 s a = some t) (admitted : .admitted spec ∈ s.trace)
    (created : .created spec.transferId temp ino ∈ t.trace) : .created spec.transferId temp ino ∈ s.trace := by
  rcases created_before temps.books stepped created with old | new
  · exact old
  · exact absurd (temps.books.admittedIssued spec admitted) new.unused

/-- While an id waits to be inserted, its temporary file is left alone. -/
theorem pending_content {s t : State} {a : Action} {c : Nat} {plan : UploadPlan} {id : String} {temp : PathBuf}
    {ino : Nat} (contents : Contents s) (stepped : step cfg sha256 s a = some t)
    (found : s.calls c = some (.uploadInsert plan id)) (created : .created id temp ino ∈ s.trace) :
    (contentOf t ino).length = plan.fileSize := by
  have books := contents.temps.books
  cases temp_rewritten contents.temps created stepped with
  | same content => rw [content]; exact contents.presized c plan id temp ino found created
  | @resized c' plan' found' _ =>
    cases books.pendingOnce c c' _ _ id found found' rfl rfl
    rw [found] at found'; cases found'
  | @written c' r _ found' writes _ _ =>
    obtain ⟨temp',created'⟩ := contents.opened c' r ino found' writes
    obtain ⟨spec,admitted,fits⟩ := books.receiving c' r found'
    have same : r.id = id := contents.temps.apart _ _ _ _ ino created' created
    exact absurd (fits.key.trans same) (books.pendingNew c _ id found rfl spec admitted)

theorem presized_step {s t : State} {a : Action} {c : Nat} {plan : UploadPlan} {id : String} {temp : PathBuf}
    {ino : Nat} (contents : Contents s) (stepped : step cfg sha256 s a = some t)
    (there : t.calls c = some (.uploadInsert plan id)) (created : .created id temp ino ∈ t.trace) :
    (contentOf t ino).length = plan.fileSize := by
  cases step_call stepped there with
  | kept before _ =>
    exact pending_content contents stepped before (created_pending contents.temps stepped before rfl created)
  | @uploadInsert _ _ ino' before calm manager =>
    have old := created_pending contents.temps stepped before rfl created
    cases (contents.temps.once _ _ _ ino ino' old (contents.temps.sizing c _ _ _ before)).2
    rw [contentOf,manager]
    simp only [uploadSetLen,calm,update_content,if_true]
    exact setLen_length ..

/-- The call that inserts an upload. -/
theorem upload_inserted {s : State} {env : Env} {c : Nat} {call : Call} {new : Transfer} (books : Books s)
    (found : s.calls c = some call) (inserts : call.update env = .insert new)
    (upload : new.spec.direction = .upload) :
    ∃ plan id, call = .uploadInsert plan id ∧ new = uploadTransfer env plan id := by
  cases call with
  | downloadInsert transfer =>
    cases inserts
    rw [(books.starting c _ found).1] at upload; cases upload
  | uploadInsert plan id => cases inserts; exact ⟨plan,id,rfl,rfl⟩
  | receive r => simp only [Call.update] at inserts; split at inserts <;> cases inserts
  | _ => cases inserts

theorem sized_step {s t : State} {a : Action} {spec : TransferSpec} {temp : PathBuf} {ino : Nat} (contents : Contents s)
    (stepped : step cfg sha256 s a = some t) (admitted : .admitted spec ∈ t.trace) (upload : spec.direction = .upload)
    (created : .created spec.transferId temp ino ∈ t.trace) : (contentOf t ino).length = spec.fileSize := by
  rcases admitted_before stepped admitted with before | ⟨c,call,new,_,found,inserts,pend,_,rfl⟩
  · have old := created_admitted contents.temps stepped before created
    have length := contents.sized spec temp ino before upload old
    cases temp_rewritten contents.temps old stepped with
    | same content => rw [content]; exact length
    | resized found _ => exact absurd found (not_resizing contents before)
    | written _ found writes _ content =>
      rw [content,writeAt_length (chunkWrite contents found writes before old).inside]; exact length
  · obtain ⟨plan,id,rfl,rfl⟩ := upload_inserted contents.temps.books found inserts upload
    exact pending_content contents stepped found (created_pending contents.temps stepped found rfl created)

theorem opened_step {s t : State} {a : Action} {c : Nat} {r : Receiving} {ino : Nat} (contents : Contents s)
    (stepped : step cfg sha256 s a = some t) (there : t.calls c = some (.receive r)) (writes : r.pc = .write ino) :
    ∃ temp, .created r.id temp ino ∈ t.trace := by
  cases step_call stepped there with
  | kept before _ =>
    obtain ⟨temp,created⟩ := contents.opened c r ino before writes
    exact ⟨temp,trace_grows stepped created⟩
  | receive _ _ pc _ => subst pc; dsimp only at writes; split at writes <;> cases writes
  | @received old _ _ found after =>
    subst after
    dsimp only at writes
    subst writes
    cases advanceReceive_next there with
    | opened _ name =>
      obtain ⟨spec,admitted,fits⟩ := contents.temps.books.receiving c old found
      obtain ⟨ino',created⟩ := contents.temps.admitted spec admitted fits.upload
      rw [fits.key,← fits.temp] at created
      rcases contents.own _ _ _ created with own | gone
      · rw [name] at own; cases own
        exact ⟨_,trace_grows stepped created⟩
      · rw [name] at gone; cases gone
    | later _ past => cases past

theorem payload_step {s t : State} {a : Action} {c : Nat} {r : Receiving} {spec : TransferSpec} (contents : Contents s)
    (keeps : keepsChunks sha256 s a = true) (stepped : step cfg sha256 s a = some t)
    (there : t.calls c = some (.receive r)) (accepts : r.pc ≠ .reject) (admitted : .admitted spec ∈ t.trace)
    (same : spec.transferId = r.id) : r.data.length = chunkLen spec.fileSize spec.chunkSize r.index := by
  have books := contents.temps.books
  cases step_call stepped there with
  | kept before _ =>
    exact contents.payload c r spec before accepts (spec_before books stepped before admitted same) same
  | @receive id index chunkHash data ctx pc move checked at_pc _ =>
    obtain ⟨tr,found,_,_,_,_⟩ := receiveCheck_ok checked
    obtain ⟨old,before,belongs⟩ := books.table id tr found
    have once := (books_step books stepped).admittedOnce old spec (trace_grows stepped before) admitted
      (belongs.key.trans same.symm)
    subst once
    have matches_ : sha256 data = chunkHash := by
      by_contra differs
      exact accepts (by simp [at_pc,differs])
    have length : data.length = chunkLen tr.spec.fileSize tr.spec.chunkSize index := by
      simpa [keepsChunks,move,found,matches_] using keeps
    rw [belongs.same] at length
    exact length
  | @received old pc _ found after =>
    have before := spec_before books stepped found admitted same
    refine contents.payload c old spec found ?_ before same
    intro rejects
    subst after
    cases advanceReceive_next there with
    | opened was _ => rw [rejects] at was; cases was
    | stored was _ => rw [rejects] at was; cases was
    | filled was _ => rw [rejects] at was; cases was
    | later was _ => rw [rejects] at was; cases was

/-- A write that succeeds leaves its chunk held. -/
theorem held_written {s : State} {env : Env} {c : Nat} {r : Receiving} {spec : TransferSpec} {ino : Nat}
    (contents : Contents s) (stepped : step cfg sha256 s ⟨env,.advance c⟩ = some (advanceReceive cfg sha256 s env c r))
    (found : s.calls c = some (.receive r)) (writes : r.pc = .write ino)
    (done : (receiveWrite env s.manager r.id r.ctx ino r.data).1 = .ok ()) (admitted : .admitted spec ∈ s.trace)
    (same : spec.transferId = r.id) : Held (advanceReceive cfg sha256 s env c r) spec r.index := by
  obtain ⟨temp,created⟩ := contents.opened c r ino found writes
  rw [← same] at created
  have write := chunkWrite contents found writes admitted created
  refine ⟨temp,ino,r.data,trace_grows stepped created,?_,?_⟩
  · simp [advanceReceive,writes,done,same]
  · have content : contentOf (advanceReceive cfg sha256 s env c r) ino =
        writeAt (contentOf s ino) r.ctx.offset r.data := by
      simp [contentOf,advanceReceive,writes,done,(receiveWrite_ok done).2,update_content]
    rw [content,← write.offset,← write.length]
    exact slice_writeAt_same write.inside

theorem stored_step {s t : State} {a : Action} {c : Nat} {r : Receiving} {spec : TransferSpec} (contents : Contents s)
    (keeps : keepsChunks sha256 s a = true) (stepped : step cfg sha256 s a = some t)
    (there : t.calls c = some (.receive r)) (at_progress : r.pc = .progress) (admitted : .admitted spec ∈ t.trace)
    (same : spec.transferId = r.id) : Held t spec r.index := by
  have books := contents.temps.books
  cases step_call stepped there with
  | kept before _ =>
    have old := spec_before books stepped before admitted same
    exact held_step contents old keeps stepped (contents.stored c r spec before at_progress old same)
  | receive _ _ pc _ => subst pc; dsimp only at at_progress; split at at_progress <;> cases at_progress
  | @received old pc move found after =>
    have before := spec_before books stepped found admitted same
    obtain ⟨env,_⟩ := a
    cases move
    subst after
    dsimp only at at_progress
    subst at_progress
    cases advanceReceive_next there with
    | stored writes done => exact held_written contents stepped found writes done before same
    | later _ past => cases past

/-- With the chunk that is being marked every chunk is held. -/
theorem held_all {s : State} {env : Env} {c : Nat} {r : Receiving} {spec : TransferSpec} (contents : Contents s)
    (found : s.calls c = some (.receive r)) (at_progress : r.pc = .progress) (admitted : .admitted spec ∈ s.trace)
    (same : spec.transferId = r.id)
    (last : (receiveProgress env s.manager r.id r.index r.data.length).1 = .ok true) :
    ∀ i < spec.totalChunks, Held s spec i := by
  have books := contents.temps.books
  obtain ⟨spec',admitted',fits⟩ := books.receiving c r found
  cases books.admittedOnce spec' spec admitted' admitted (fits.key.trans same.symm)
  intro i below
  by_cases this : i = r.index
  · subst this; exact contents.stored c r spec found at_progress admitted same
  · cases there : s.manager.transfers.lookup r.id with
    | none => simp [receiveProgress,there] at last
    | some tr =>
      refine contents.marked r.id tr spec i there admitted same fits.upload ?_
      obtain ⟨old,before,belongs⟩ := books.table r.id tr there
      cases books.admittedOnce old spec before admitted (belongs.key.trans same.symm)
      have done : ∀ b ∈ tr.progress.chunksDone.set r.index true, b = true := by
        simpa [receiveProgress,there,Transfer.allDone,markChunk] using last
      have within : i < tr.progress.chunksDone.length := by rw [belongs.chunks]; exact below
      have here := done ((tr.progress.chunksDone.set r.index true).get ⟨i,by simpa using within⟩) (List.get_mem ..)
      simpa [List.getElem_set_of_ne (Ne.symm this),List.getD_eq_getElem?_getD,within] using here

theorem full_step {s t : State} {a : Action} {c : Nat} {r : Receiving} {spec : TransferSpec} (contents : Contents s)
    (keeps : keepsChunks sha256 s a = true) (stepped : step cfg sha256 s a = some t)
    (there : t.calls c = some (.receive r)) (past : pastProgress r.pc = true) (admitted : .admitted spec ∈ t.trace)
    (same : spec.transferId = r.id) : ∀ i < spec.totalChunks, Held t spec i := by
  have books := contents.temps.books
  intro i below
  cases step_call stepped there with
  | kept before _ =>
    have old := spec_before books stepped before admitted same
    exact held_step contents old keeps stepped (contents.full c r spec before past old same i below)
  | receive _ _ pc _ => subst pc; dsimp only at past; split at past <;> cases past
  | @received old pc _ found after =>
    have before := spec_before books stepped found admitted same
    refine held_step contents before keeps stepped ?_
    subst after
    cases advanceReceive_next there with
    | opened _ _ => cases past
    | stored _ _ => cases past
    | filled at_progress last => exact held_all contents found at_progress before same last i below
    | later was _ => exact contents.full c old spec found was before same i below

theorem getD_set {chunks : List Bool} {index i : Nat} (set : (chunks.set index true).getD i false = true) :
    chunks.getD i false = true ∨ index = i := by
  by_cases this : index = i
  · exact .inr this
  · left
    rwa [List.getD_eq_getElem?_getD,List.getElem?_set_ne this,← List.getD_eq_getElem?_getD] at set

/-- Only a received chunk of an upload is newly marked. -/
theorem edit_marks {s : State} {a : Action} {id : String} {e : Edit} {old : Transfer} {spec : TransferSpec} {i : Nat}
    (books : Books s) (made : update s a = .edit id e) (admitted : .admitted spec ∈ s.trace)
    (same : spec.transferId = id) (upload : spec.direction = .upload)
    (done : (e.apply cfg old).progress.chunksDone.getD i false = true) :
    old.progress.chunksDone.getD i false = true ∨
      ∃ c r, s.calls c = some (.receive r) ∧ r.pc = .progress ∧ r.id = id ∧ r.index = i := by
  cases edit_origin made with
  | served _ found =>
    obtain ⟨other,before,key,download⟩ := books.serving _ _ _ found rfl
    cases books.admittedOnce other spec before admitted (key.trans same.symm)
    rw [upload] at download; cases download
  | @received c r _ found at_progress =>
    have set : (old.progress.chunksDone.set r.index true).getD i false = true := by
      simp only [Edit.apply,receiveMark] at done
      split at done <;> exact done
    rcases getD_set set with before | this
    · exact .inl before
    · exact .inr ⟨c,r,found,at_progress,rfl,this⟩
  | rejected _ _ _ =>
    left
    simp only [Edit.apply,rejectChunk] at done
    split at done <;> exact done
  | _ => exact .inl done

theorem marked_step {s t : State} {a : Action} {id : String} {after : Transfer} {spec : TransferSpec} {i : Nat}
    (contents : Contents s) (keeps : keepsChunks sha256 s a = true) (stepped : step cfg sha256 s a = some t)
    (found : t.manager.transfers.lookup id = some after) (admitted : .admitted spec ∈ t.trace)
    (same : spec.transferId = id) (upload : spec.direction = .upload)
    (done : after.progress.chunksDone.getD i false = true) : Held t spec i := by
  have books := contents.temps.books
  rw [step_transfers stepped] at found
  rcases apply_lookup found with ⟨old,there,edited⟩ | ⟨inserts,_⟩
  · obtain ⟨spec',before,belongs⟩ := books.table id old there
    cases (books_step books stepped).admittedOnce spec' spec (trace_grows stepped before) admitted
      (belongs.key.trans same.symm)
    refine held_step contents before keeps stepped ?_
    have was (marked : old.progress.chunksDone.getD i false = true) : Held s spec i :=
      contents.marked id old spec i there before same upload marked
    cases edited with
    | same => exact was done
    | paused _ =>
      unfold pauseTransfer at done
      split at done <;> exact was done
    | edit e made =>
      rcases edit_marks books made before same upload done with marked | ⟨c,r,held,at_progress,key,rfl⟩
      · exact was marked
      · exact contents.stored c r spec held at_progress before (same.trans key.symm)
  · obtain ⟨c,call,_,there,inserted,_,_⟩ := insert_call stepped inserts
    rw [(insert_starting books there inserted).chunks] at done
    simp [List.getD_eq_getElem?_getD,List.getElem?_replicate] at done
    split at done <;> simp at done

theorem own_step {s t : State} {a : Action} {id : String} {temp : PathBuf} {ino : Nat} (contents : Contents s)
    (keeps : keepsChunks sha256 s a = true) (stepped : step cfg sha256 s a = some t)
    (created : .created id temp ino ∈ t.trace) :
    t.manager.disk.names temp = some ino ∨ t.manager.disk.names temp = none := by
  rcases created_before contents.temps.books stepped created with old | new
  · rcases temp_name_step contents.temps stepped old (fun c r move found late =>
      sparesTemps_ne (keepsChunks_spares keeps c r move found late) old) with same | gone
    · rw [same]; exact contents.own id temp ino old
    · exact .inr gone
  · exact .inl new.name

theorem planned_step {s t : State} {a : Action} {c : Nat} {call : Call} {plan : UploadPlan} (contents : Contents s)
    (keeps : keepsChunks sha256 s a = true) (stepped : step cfg sha256 s a = some t) (there : t.calls c = some call)
    (plans : callPlan call = some plan) : Covers plan.fileSize plan.chunkSize plan.totalChunks := by
  cases step_call stepped there with
  | kept before _ => exact contents.planned c call plan before plans
  | uploadCreate move checked =>
    cases plans
    obtain ⟨size,chunk,total⟩ := initUploadCheck_ok checked
    rw [size,chunk,total]
    refine computeChunks_covers (by omega) ?_
    simpa [keepsChunks,move] using keeps
  | uploadSetLen before _ _ _ _ _ => exact contents.planned c _ plan before plans
  | uploadInsert before _ _ => exact contents.planned c _ plan before plans
  | _ => cases plans

theorem covers_step {s t : State} {a : Action} {spec : TransferSpec} (contents : Contents s)
    (stepped : step cfg sha256 s a = some t) (admitted : .admitted spec ∈ t.trace) (upload : spec.direction = .upload) :
    Covers spec.fileSize spec.chunkSize spec.totalChunks := by
  rcases admitted_before stepped admitted with before | ⟨c,call,new,_,found,inserts,_,_,rfl⟩
  · exact contents.covers spec before upload
  · obtain ⟨plan,id,rfl,rfl⟩ := upload_inserted contents.temps.books found inserts upload
    exact contents.planned c _ plan found rfl

/-! ### Publication -/

/-- A file whose chunks are all held is made of accepted payloads. -/
theorem intact_of_held {s : State} {spec : TransferSpec} {temp : PathBuf} {ino : Nat} (contents : Contents s)
    (admitted : .admitted spec ∈ s.trace) (upload : spec.direction = .upload)
    (created : .created spec.transferId temp ino ∈ s.trace) (held : ∀ i < spec.totalChunks, Held s spec i) :
    Intact s spec.transferId (join spec.path spec.filename) (contentOf s ino) := by
  have size := contents.sized spec temp ino admitted upload created
  have covers := contents.covers spec admitted upload
  refine ⟨spec,admitted,rfl,upload,rfl,size,fun i => slice (contentOf s ino) (i * spec.chunkSize) spec.chunkSize,?_,?_⟩
  · intro i below
    obtain ⟨temp',ino',payload,created',accepted,there⟩ := held i below
    cases (contents.temps.once _ _ _ _ _ created created').2
    have whole : slice (contentOf s ino) (i * spec.chunkSize) spec.chunkSize = payload := by
      rw [← there,chunkLen,← size,slice_min]
    have length : payload.length = chunkLen spec.fileSize spec.chunkSize i := by
      rw [← there]
      exact slice_length (by rw [size]; exact covers.inside i below)
    simp only [whole]
    exact ⟨accepted,by rw [length]; exact there⟩
  · exact (flatMap_slices (contentOf s ino) spec.chunkSize spec.totalChunks (by rw [size]; exact covers.whole)).symm

theorem intact_grows {s t : State} {a : Action} {id : String} {path : PathBuf} {content : Bytes}
    (stepped : step cfg sha256 s a = some t) (intact : Intact s id path content) : Intact t id path content := by
  obtain ⟨spec,admitted,key,upload,final,size,payload,accepted,whole⟩ := intact
  exact ⟨spec,trace_grows stepped admitted,key,upload,final,size,payload,
    fun i below => ⟨trace_grows stepped (accepted i below).1,(accepted i below).2⟩,whole⟩

theorem integrity_step {s t : State} {a : Action} (contents : Contents s) (stepped : step cfg sha256 s a = some t) :
    UploadIntegrity t := by
  intro id path content published
  rcases event_origin stepped published with before | origin
  · exact intact_grows stepped (contents.integrity id path content before)
  cases origin with
  | @published c r moved _ found late renamed _ =>
    obtain ⟨disk,done,rfl⟩ := finalizeRename_ok renamed
    obtain ⟨ino,source,target,files,_,_⟩ := Disk.rename_moves done
    obtain ⟨spec,admitted,fits⟩ := contents.temps.books.receiving c r found
    obtain ⟨ino',created⟩ := contents.temps.admitted spec admitted fits.upload
    have there := created
    rw [fits.key,← fits.temp] at there
    have same : ino' = ino := by
      rcases contents.own _ _ _ there with own | gone
      · rw [source] at own; exact (Option.some.inj own).symm
      · rw [source] at gone; cases gone
    subst same
    have bytes : ((disk.file? r.ctx.finalPath).map File.content).getD [] = contentOf s ino' := by
      simp [Disk.file?,target,files,contentOf]
    rw [bytes,fits.final,← fits.key]
    exact intact_grows stepped (intact_of_held contents admitted fits.upload created
      (contents.full c r spec found (by rw [late]; rfl) admitted fits.key))

theorem contents_start (disk : Disk PathBuf) : Contents (start disk) := by
  refine ⟨temps_start disk,?_,?_,?_,?_,?_,?_,?_,?_,?_,?_,?_⟩ <;> simp [start,UploadIntegrity]

theorem contents_step {s t : State} {a : Action} (contents : Contents s) (keeps : keepsChunks sha256 s a = true)
    (stepped : step cfg sha256 s a = some t) : Contents t where
  temps := temps_step contents.temps stepped
  planned _ _ _ there plans := planned_step contents keeps stepped there plans
  covers _ admitted upload := covers_step contents stepped admitted upload
  own _ _ _ created := own_step contents keeps stepped created
  presized _ _ _ _ _ there created := presized_step contents stepped there created
  sized _ _ _ admitted upload created := sized_step contents stepped admitted upload created
  opened _ _ _ there writes := opened_step contents stepped there writes
  payload _ _ _ there accepts admitted same := payload_step contents keeps stepped there accepts admitted same
  stored _ _ _ there now admitted same := stored_step contents keeps stepped there now admitted same
  full _ _ _ there past admitted same := full_step contents keeps stepped there past admitted same
  marked _ _ _ _ found admitted same upload done := marked_step contents keeps stepped found admitted same upload done
  integrity := integrity_step contents stepped

/-- In a run that keeps to the chunks, every published file is made of accepted
    payloads, each in its place. -/
theorem upload_integrity (disk : Disk PathBuf) (as : List Action)
    (keeps : Along (step cfg sha256) (fun s a => keepsChunks sha256 s a = true) (start disk) as) :
    Always (step cfg sha256) UploadIntegrity (start disk) as :=
  always_of_keeps (fun _ _ _ contents met stepped => contents_step contents met stepped)
    (fun _ contents => contents.integrity) (contents_start disk) keeps

/-- An upload of one byte, finished. -/
def uploaded : List Action := admitUpload 0 "u" "b" "" ++ [sendChunk 0 "u" "A" [65]] ++ goOn 0 8

theorem upload_integrity_uploaded :
    Always (step (.new 4 1024 1024 60) plainDigest) UploadIntegrity (start smallDisk) uploaded :=
  upload_integrity smallDisk uploaded (by decide +kernel)

/-- The same upload with a payload of two bytes. -/
def overlong : List Action := admitUpload 0 "u" "b" "" ++ [sendChunk 0 "u" "AB" [65,66]] ++ goOn 0 8

theorem overlong_published :
    ¬ Always (step (.new 4 1024 1024 60) plainDigest) UploadIntegrity (start smallDisk) overlong := by
  intro all
  have last : (run (step (.new 4 1024 1024 60) plainDigest) (start smallDisk) overlong).map (fun s =>
      (s.trace.contains (.published "u" ["b"] [65,66]),s.trace.filterMap fun e => match e with
        | .admitted spec => some spec.fileSize
        | _ => none)) = some (true,[1]) := by decide +kernel
  obtain ⟨t,ran,known⟩ := Option.map_eq_some_iff.mp last
  have published : .published "u" ["b"] [65,66] ∈ t.trace := by simpa using congrArg Prod.fst known
  obtain ⟨spec,admitted,_,_,_,size,_⟩ := always_last all ran "u" ["b"] [65,66] published
  obtain ⟨_,sizes⟩ := Prod.mk.inj known
  have member : spec.fileSize ∈ [1] := by
    rw [← sizes]; exact List.mem_filterMap.mpr ⟨_,admitted,rfl⟩
  simp at member size
  omega

end Sctl.TransferContent
