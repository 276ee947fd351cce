import Sctl.ProgressAccounting
import Sctl.TransferContent
import Sctl.WebDownloads

/-!
Uploads of the web client, and both directions together. Only the upload's own
calls reach its temporary file, unless another upload is renamed onto it, so the
first `i` chunks of the file are there once `i` chunks were acknowledged, and the
call for the last one publishes the whole file.
-/
namespace Sctl.WebUploads
open Files TransferTypes TransferManager TransferSteps TransferBooks TransferDisk TransferContent ChunkArithmetic ProgressAccounting
open WebTransfers WebDownloads Dialogues Runs

/-- A `receive_chunk` call has its file open, so that file was created. -/
def HandlesBelow (s : State) : Prop :=
  ∀ c r ino, s.calls c = some (.receive r) → r.pc = .write ino → ino < s.manager.disk.next

/-- Nothing but the calls of slot `c` reaches the temporary file of an upload. -/
structure Private (s : State) (c : Nat) (id : String) (temp : PathBuf) (ino : Nat) : Prop where
  temps : Temps s
  created : .created id temp ino ∈ s.trace
  own : s.manager.disk.names temp = some ino ∨ s.manager.disk.names temp = none
  reach : ∀ p, s.manager.disk.names p = some ino → p = temp
  handles : ∀ c' r, s.calls c' = some (.receive r) → r.pc = .write ino → r.id = id
  sole : ∀ c' r, s.calls c' = some (.receive r) → r.id = id → c' = c

/-- No call but the one in slot `c` sends chunks to the upload. -/
def Foreign (c : Nat) (id : String) (a : Action) : Prop :=
  ∀ c' index hash data, a.move = .receiveChunk c' id index hash data → c' = c

/-- The step renames no other upload onto the temporary file. -/
def Spares (id : String) (temp : PathBuf) (s : State) (a : Action) : Prop :=
  ∀ c r, a.move = .advance c → s.calls c = some (.receive r) → r.pc = .rename → r.id ≠ id → temp ≠ r.ctx.finalPath

/-- The step does not rename the upload. -/
def Stays (id : String) (s : State) (a : Action) : Prop :=
  ∀ c r, a.move = .advance c → s.calls c = some (.receive r) → r.pc = .rename → r.id ≠ id

section
variable {cfg : TransferConfig} {sha256 : Bytes → String} {s t : State} {a : Action} {c : Nat} {id : String} {temp : PathBuf} {ino : Nat}

theorem opens_of_next {c' : Nat} {r : Receiving} {handle : Nat} (there : (advanceReceive cfg sha256 s a.env c' r).calls c' = some (.receive { r with pc := .write handle })) :
    s.manager.disk.names r.ctx.tempPath = some handle := by
  cases advanceReceive_next there with
  | opened _ names => exact names
  | later _ past => cases past

theorem handlesBelow_step (below : HandlesBelow s) (stepped : TransferSteps.step cfg sha256 s a = some t) : HandlesBelow t := by
  intro c' r handle there writes
  have room := disk_next_le (step_disk stepped)
  cases step_call stepped there with
  | kept before _ => exact lt_of_lt_of_le (below c' r handle before writes) room
  | receive _ _ pc _ =>
    rw [pc] at writes
    split_ifs at writes
  | @received r pc _ found same =>
    subst same
    cases writes
    exact lt_of_lt_of_le (s.manager.disk.bounded _ _ (opens_of_next there)) room

/-- A call that has the upload's temporary file is the upload's. -/
theorem Private.owner {c' : Nat} {r : Receiving} (priv : Private s c id temp ino) (found : s.calls c' = some (.receive r))
    (source : r.ctx.tempPath = temp) : r.id = id := by
  obtain ⟨spec,admitted,fits⟩ := priv.temps.books.receiving c' r found
  obtain ⟨dir,named⟩ := priv.temps.named id temp ino priv.created
  have path := fits.temp
  rw [tempOf,fits.upload,fits.key,source,named] at path
  exact (join_tempName_injective path).symm

theorem reach_step (priv : Private s c id temp ino) (stays : Stays id s a) (stepped : TransferSteps.step cfg sha256 s a = some t)
    {p : PathBuf} (names : t.manager.disk.names p = some ino) : p = temp := by
  cases step_disk stepped with
  | unlinked fewer =>
    rcases fewer.names p with same | gone
    · exact priv.reach p (same.symm.trans names)
    · rw [gone] at names
      cases names
  | @created c' plan _ _ fresh disk =>
    rw [disk,(Disk.create_new a.env.clock ((State.fresh_iff s).mp fresh).2).2.2.1] at names
    by_cases new : p = plan.tempPath a.env.uuid
    · subst new
      rw [Function.update_self] at names
      have old := priv.temps.bounded id temp ino priv.created
      rw [Option.some.inj names] at old
      exact absurd old (lt_irrefl _)
    · rw [Function.update_of_ne new] at names
      exact priv.reach p names
  | resized _ _ disk =>
    rw [disk] at names
    exact priv.reach p names
  | written _ _ _ _ disk =>
    rw [disk] at names
    exact priv.reach p names
  | permitted disk =>
    rw [disk] at names
    exact priv.reach p names
  | @moved c' r move found late renamed =>
    obtain ⟨moved,at_source,at_target,_,_,others⟩ := Disk.rename_moves renamed
    by_cases target : p = r.ctx.finalPath
    · subst target
      cases at_target.symm.trans names
      -- the file that is renamed has the name of another upload
      exact absurd (priv.owner found (priv.reach _ at_source)) (stays c' r move found late)
    · rcases others p target with same | gone
      · exact priv.reach p (same.symm.trans names)
      · rw [gone] at names
        cases names

theorem private_step (priv : Private s c id temp ino) (foreign : Foreign c id a) (spares : Spares id temp s a) (stays : Stays id s a)
    (stepped : TransferSteps.step cfg sha256 s a = some t) : Private t c id temp ino where
  temps := temps_step priv.temps stepped
  created := trace_grows stepped priv.created
  own := by
    rcases temp_name_step priv.temps stepped priv.created (fun c' r move found late other =>
      spares c' r move found late other.symm) with same | gone
    · rw [same]
      exact priv.own
    · exact .inr gone
  reach _ names := reach_step priv stays stepped names
  handles := by
    intro c' r there writes
    cases step_call stepped there with
    | kept before _ => exact priv.handles c' r before writes
    | receive _ _ pc _ =>
      rw [pc] at writes
      split_ifs at writes
    | @received r pc _ found same =>
      subst same
      cases writes
      have opened := opens_of_next (r := r) there
      exact priv.owner (r := r) found (priv.reach _ opened)
  sole := by
    intro c' r there same
    cases step_call stepped there with
    | kept before _ => exact priv.sole c' r before same
    | receive move _ _ _ =>
      subst same
      exact foreign _ _ _ _ move
    | received _ found _ => exact priv.sole c' _ found same

/-- A step of another slot does not rename the upload. -/
theorem Private.stays (priv : Private s c id temp ino) (apart : a.move.slot ≠ some c) : Stays id s a := by
  intro c' r move found _ same
  have slot := priv.sole c' r found same
  subst slot
  exact absurd (by rw [move]; rfl) apart

/-- The calls of other slots leave the bytes of the temporary file alone. -/
theorem content_other (priv : Private s c id temp ino) (made : ∀ c' plan, s.calls c' ≠ some (.uploadSetLen plan id ino))
    (apart : a.move.slot ≠ some c) (stepped : TransferSteps.step cfg sha256 s a = some t) : contentOf t ino = contentOf s ino := by
  cases temp_rewritten priv.temps priv.created stepped with
  | same content => exact content
  | resized found _ => exact absurd found (made _ _)
  | written move found writes _ _ =>
    have slot := priv.sole _ _ found (priv.handles _ _ found writes)
    subst slot
    exact absurd (by rw [move]; rfl) apart

/-- The marks of an upload are made by its calls. -/
theorem marks_other {spec : TransferSpec} {after : Transfer} (priv : Private s c spec.transferId temp ino) (admitted : .admitted spec ∈ s.trace)
    (direction : spec.direction = .upload) (apart : a.move.slot ≠ some c) (stepped : TransferSteps.step cfg sha256 s a = some t)
    (found : t.manager.transfers.lookup spec.transferId = some after) :
    ∃ before, s.manager.transfers.lookup spec.transferId = some before ∧ after.progress.chunksDone = before.progress.chunksDone := by
  rw [step_transfers stepped] at found
  rcases apply_lookup found with ⟨before,there,edited⟩ | ⟨inserts,same⟩
  · refine ⟨before,there,?_⟩
    cases edited with
    | same => rfl
    | paused _ => exact (paused_accounts before).chunks
    | edit e made =>
      have accounts := edit_accounts cfg e before
      obtain ⟨key,known⟩ : ∃ key, key = spec.transferId := ⟨_,rfl⟩
      rw [← known] at made
      cases edit_origin made with
      | served _ call =>
        obtain ⟨other,admitted',same,download⟩ := priv.temps.books.serving _ _ _ call rfl
        cases priv.temps.books.admittedOnce other spec admitted' admitted (same.trans known)
        cases direction.symm.trans download
      | @received c' r move call _ =>
        have slot := priv.sole c' r call known
        subst slot
        exact absurd (by rw [move]; rfl) apart
      | rejected | hashed | mismatched | completed | resumed | aborted => exact accounts.chunks
  · obtain ⟨c',call,_,held,_,pending,_⟩ := insert_call stepped inserts
    exact absurd same (priv.temps.books.pendingNew c' call _ held pending spec admitted)

/-! ### What an upload has got to -/

variable (sha256) in
/-- The rest of an upload: the chunks from `i` on, and its end. -/
def sendFrom (id : String) (file : Bytes) (i : Nat) : Web Bool :=
  uploadFrom sha256 id file i (totalChunks file.length - i) >>= settle id

/-- While chunks are left the tracker sends the next one, and goes on when it is acknowledged. -/
theorem sendFrom_asks (sha256 : Bytes → String) (id : String) {file : Bytes} {i : Nat} (left : i < totalChunks file.length) :
    ∃ next, sendFrom sha256 id file i = .ask (.sendChunk id i (chunkOf file i) (sha256 (chunkOf file i))) next ∧
      ∀ ack, ack.ok = true → next (.ack ack) = sendFrom sha256 id file (i + 1) := by
  obtain ⟨rest,split⟩ : ∃ rest, totalChunks file.length - i = rest + 1 := ⟨totalChunks file.length - i - 1,by omega⟩
  have later : totalChunks file.length - (i + 1) = rest := by omega
  refine ⟨_,by rw [sendFrom,split]; rfl,?_⟩
  intro ack fine
  rw [sendFrom,later]
  show ((if ack.ok then .done true else uploadChunk sha256 id i (chunkOf file i) 2) >>= _) >>= _ = _
  rw [if_pos fine]
  rfl

theorem sendFrom_done (id : String) (file : Bytes) : sendFrom sha256 id file (totalChunks file.length) = .done true := by
  rw [sendFrom,Nat.sub_self]
  rfl

theorem upload_asks (sha256 : Bytes → String) (dirPath filename : String) (file : Bytes) :
    ∃ next, upload sha256 dirPath filename file = .ask (.initUpload (uploadRequest dirPath filename file)) next ∧
      ∀ init, next (.uploadStarted init) = sendFrom sha256 init.transferId file 0 := by
  refine ⟨_,request_bind _ _,fun init => ?_⟩
  show uploadFrom _ _ _ _ _ >>= settle _ = _
  rw [sendFrom,Nat.sub_zero]

/-- The upload as the manager admitted it. -/
structure Uploads (spec : TransferSpec) (dir : PathBuf) (filename : String) (file : Bytes) : Prop where
  direction : spec.direction = .upload
  path : spec.path = dir
  filename : spec.filename = filename
  fileSize : spec.fileSize = file.length
  chunkSize : spec.chunkSize = defaultChunkSize
  total : spec.totalChunks = totalChunks file.length

/-- A file of the right size that holds the first chunks. -/
structure Filled (content file : Bytes) (count : Nat) : Prop where
  size : content.length = file.length
  chunks : ∀ j < count, slice content (j * defaultChunkSize) (chunkLen file.length defaultChunkSize j) = chunkOf file j

end

section
variable (sha256 : Bytes → String) (s : State) (client : Web Bool) (c : Nat) (spec : TransferSpec) (dir : PathBuf) (filename : String)
variable (file : Bytes) (ino i : Nat)

/-- The upload is admitted, and the tracker is at chunk `i`. -/
structure Sending : Prop where
  uploads : Uploads spec dir filename file
  priv : Private s c spec.transferId (join dir (tempName spec.transferId)) ino
  admitted : .admitted spec ∈ s.trace
  left : i < totalChunks file.length
  client : client = sendFrom sha256 spec.transferId file i

/-- The chunks before `i` are there and marked. -/
structure Sent : Prop extends Sending sha256 s client c spec dir filename file ino i where
  filled : Filled (contentOf s ino) file i
  marks : ∀ t, s.manager.transfers.lookup spec.transferId = some t →
    t.progress.chunksDone = List.replicate i true ++ List.replicate (totalChunks file.length - i) false

/-- The sections from the hash to the rename. -/
def finishes : ReceivePc → Bool
  | .hash | .setHash _ | .chmod | .rename => true
  | _ => false

/-- The sections of a call that is going to fail. -/
def fails : ReceivePc → Bool
  | .discard _ | .fail _ | .cleanup _ => true
  | _ => false

/-- What the call for chunk `i` has got to. -/
inductive Receives : ReceivePc → Prop
  | opening : Sent sha256 s client c spec dir filename file ino i → Receives .openTemp
  | writing : Sent sha256 s client c spec dir filename file ino i → Receives (.write ino)
  | marking : Sent sha256 s client c spec dir filename file ino i → Filled (contentOf s ino) file (i + 1) → Receives .progress
  | finishing {pc : ReceivePc} : Sending sha256 s client c spec dir filename file ino i → i + 1 = totalChunks file.length →
      Filled (contentOf s ino) file (i + 1) → finishes pc = true → Receives pc
  | failing {pc : ReceivePc} : (∃ asked next, client = .ask asked next) → fails pc = true → Receives pc
  | complete : client = sendFrom sha256 spec.transferId file i → i + 1 = totalChunks file.length →
      .published spec.transferId (join dir filename) file ∈ s.trace → Receives .complete

end

def uploadPlan (dir : PathBuf) (filename : String) (file : Bytes) : UploadPlan :=
  ⟨dir,filename,file.length,"",defaultChunkSize,totalChunks file.length,none⟩

/-- What the call that starts an upload has got to. -/
inductive Starts (s : State) (c : Nat) (dir : PathBuf) (filename : String) (file : Bytes) : Call → Prop
  | creating : Starts s c dir filename file (.uploadCreate (uploadPlan dir filename file))
  | sizing {id : String} {ino : Nat} : Private s c id (join dir (tempName id)) ino →
      Starts s c dir filename file (.uploadSetLen (uploadPlan dir filename file) id ino)
  | inserting {id : String} {ino : Nat} : Private s c id (join dir (tempName id)) ino → (contentOf s ino).length = file.length →
      Starts s c dir filename file (.uploadInsert (uploadPlan dir filename file) id)

/-- How far an upload is, as long as no request has failed. -/
inductive Stage (sha256 : Bytes → String) (dirPath : String) (dir : PathBuf) (filename : String) (file : Bytes) (c : Nat) (x : Session Bool) : Prop
  | failed : x.failed = true → Stage sha256 dirPath dir filename file c x
  | begun : x.client = upload sha256 dirPath filename file → x.waiting = false → x.transfer = none →
      Stage sha256 dirPath dir filename file c x
  | starting {call : Call} : x.client = upload sha256 dirPath filename file → x.waiting = true → x.transfer = none →
      x.server.calls c = some call → Starts x.server c dir filename file call → Stage sha256 dirPath dir filename file c x
  | between {spec : TransferSpec} {ino i : Nat} : Sent sha256 x.server x.client c spec dir filename file ino i → x.waiting = false →
      x.transfer = some spec.transferId → Stage sha256 dirPath dir filename file c x
  | receiving {spec : TransferSpec} {ino i : Nat} {ctx : ReceiveContext} {pc : ReceivePc} : x.waiting = true →
      x.transfer = some spec.transferId → x.server.calls c = some (.receive ⟨spec.transferId,i,chunkOf file i,ctx,pc⟩) →
      Receives sha256 x.server x.client c spec dir filename file ino i pc → Stage sha256 dirPath dir filename file c x
  | finished {id : String} : x.client = .done true → x.waiting = false → x.transfer = some id →
      .published id (join dir filename) file ∈ x.server.trace → Stage sha256 dirPath dir filename file c x

/-- The id of the tracker's upload. -/
def ownId (c : Nat) (x : Session Bool) : Option String := x.transfer.or ((x.server.calls c).bind Call.pendingId)

/-- A call of another slot sends its chunk to another upload. -/
def leavesOwn (c : Nat) (x : Session Bool) : Act → Bool
  | .serve a => match a.move with
    | .receiveChunk c' id _ _ _ => c' = c || ownId c x ≠ some id
    | _ => true
  | .ask _ => true

/-- No other upload is renamed onto the temporary file of the tracker's upload. -/
def sparesOwn (c : Nat) (x : Session Bool) : Act → Bool
  | .serve a => match a.move with
    | .advance c' => match x.server.calls c' with
      | some (.receive r) => match r.pc with
        | .rename => x.server.trace.all fun e => match e with
          | .created id temp _ => ownId c x ≠ some id || id = r.id || temp ≠ r.ctx.finalPath
          | _ => true
        | _ => true
      | _ => true
    | _ => true
  | .ask _ => true

section
variable {cfg : TransferConfig} {sha256 : Bytes → String} {s t : State} {a : Action} {c : Nat} {client : Web Bool} {spec : TransferSpec}
variable {dir : PathBuf} {filename : String} {file : Bytes} {ino i count : Nat}

theorem Sending.unsized (sending : Sending sha256 s client c spec dir filename file ino i) (c' : Nat) (plan : UploadPlan) :
    s.calls c' ≠ some (.uploadSetLen plan spec.transferId ino) :=
  fun found => sending.priv.temps.books.pendingNew c' _ _ found rfl spec sending.admitted rfl

theorem Sending.step (sending : Sending sha256 s client c spec dir filename file ino i) (foreign : Foreign c spec.transferId a)
    (spares : Spares spec.transferId (join dir (tempName spec.transferId)) s a) (stays : Stays spec.transferId s a)
    (stepped : TransferSteps.step cfg sha256 s a = some t) : Sending sha256 t client c spec dir filename file ino i :=
  { sending with priv := private_step sending.priv foreign spares stays stepped, admitted := trace_grows stepped sending.admitted }

theorem Sending.content (sending : Sending sha256 s client c spec dir filename file ino i) (apart : a.move.slot ≠ some c)
    (stepped : TransferSteps.step cfg sha256 s a = some t) : contentOf t ino = contentOf s ino :=
  content_other sending.priv sending.unsized apart stepped

theorem Sent.other (sent : Sent sha256 s client c spec dir filename file ino i) (foreign : Foreign c spec.transferId a)
    (spares : Spares spec.transferId (join dir (tempName spec.transferId)) s a) (apart : a.move.slot ≠ some c)
    (stepped : TransferSteps.step cfg sha256 s a = some t) : Sent sha256 t client c spec dir filename file ino i where
  toSending := sent.toSending.step foreign spares (sent.priv.stays apart) stepped
  filled := by rw [sent.toSending.content apart stepped]; exact sent.filled
  marks := by
    intro after found
    obtain ⟨before,there,same⟩ := marks_other sent.priv sent.admitted sent.uploads.direction apart stepped found
    rw [same]
    exact sent.marks before there

theorem Receives.other {pc : ReceivePc} (receives : Receives sha256 s client c spec dir filename file ino i pc)
    (foreign : Foreign c spec.transferId a)
    (spares : .created spec.transferId (join dir (tempName spec.transferId)) ino ∈ s.trace → Spares spec.transferId (join dir (tempName spec.transferId)) s a)
    (apart : a.move.slot ≠ some c) (stepped : TransferSteps.step cfg sha256 s a = some t) :
    Receives sha256 t client c spec dir filename file ino i pc := by
  cases receives with
  | opening sent => exact .opening (sent.other foreign (spares sent.priv.created) apart stepped)
  | writing sent => exact .writing (sent.other foreign (spares sent.priv.created) apart stepped)
  | marking sent filled =>
    refine .marking (sent.other foreign (spares sent.priv.created) apart stepped) ?_
    rw [sent.toSending.content apart stepped]
    exact filled
  | finishing sending last filled late =>
    refine .finishing (sending.step foreign (spares sending.priv.created) (sending.priv.stays apart) stepped) last ?_ late
    rw [sending.content apart stepped]
    exact filled
  | failing asks late => exact .failing asks late
  | complete asks last published => exact .complete asks last (trace_grows stepped published)

/-! ### The tracker's own calls -/

theorem initUploadCheck_plan {env : Env} {m : Manager} {req : InitUpload} {plan : UploadPlan}
    (checked : initUploadCheck cfg env m req = .ok plan) : ∃ dir, validateTransferPath req.path = .ok dir ∧
      plan = ⟨dir,req.filename,req.fileSize,req.fileHash,max req.chunkSize 1024,req.totalChunks,req.mode⟩ := by
  unfold initUploadCheck at checked
  simp only [bind,Except.bind,pure,Except.pure,throw,throwThe,MonadExceptOf.throw] at checked
  split at checked
  · cases checked
  · next dirPath valid =>
    refine ⟨dirPath,valid,?_⟩
    -- every `throw` closes its branch; the last one is the plan
    repeat' (split at checked <;> try contradiction)
    all_goals
      cases checked
      simp_all

/-- The upload's own call goes on by a section that renames nothing. -/
theorem Private.goes {env : Env} {id : String} {temp : PathBuf} (priv : Private s c id temp ino)
    (still : ∀ r, s.calls c = some (.receive r) → r.pc ≠ .rename) (stepped : TransferSteps.step cfg sha256 s ⟨env,.advance c⟩ = some t) :
    Private t c id temp ino := by
  refine private_step priv ?_ ?_ ?_ stepped
  · intro _ _ _ _ move
    cases move
  · intro _ r move found late
    cases move
    exact absurd late (still r found)
  · intro _ r move found late
    cases move
    exact absurd late (still r found)

/-- A temporary file that was just created. -/
theorem private_created {env : Env} {plan : UploadPlan} {created : Manager} (temps : Temps s) (below : HandlesBelow s)
    (found : s.calls c = some (.uploadCreate plan)) (fresh : s.fresh env.uuid (plan.tempPath env.uuid) = true)
    (made : uploadCreate env s.manager plan = .ok (ino,created)) (stepped : TransferSteps.step cfg sha256 s ⟨env,.advance c⟩ = some t)
    (at_ : t = ({ s with manager := created, issued := env.uuid :: s.issued }.log (.created env.uuid (plan.tempPath env.uuid) ino)).park c
      (.uploadSetLen plan env.uuid ino)) : Private t c env.uuid (plan.tempPath env.uuid) ino := by
  obtain ⟨unused,missing⟩ := (State.fresh_iff s).mp fresh
  obtain ⟨number,_,names,_⟩ := Disk.create_new env.clock missing
  obtain ⟨rfl,rfl⟩ := uploadCreate_ok made
  have there : t.manager.disk.names = Function.update s.manager.disk.names (plan.tempPath env.uuid) (some s.manager.disk.next) := by
    rw [at_]
    exact names
  have others {c' : Nat} {r : Receiving} (held : t.calls c' = some (.receive r)) : s.calls c' = some (.receive r) := by
    rw [at_] at held
    by_cases same : c' = c
    · subst same
      exact absurd held (by simp)
    · simpa [same] using held
  rw [number]
  refine ⟨temps_step temps stepped,?_,?_,?_,?_,?_⟩
  · rw [at_,number]
    simp
  · rw [there]
    exact .inl (Function.update_self ..)
  · intro p held
    rw [there] at held
    by_contra other
    rw [Function.update_of_ne other] at held
    exact absurd (s.manager.disk.bounded _ _ held) (lt_irrefl _)
  · intro c' r held writes
    exact absurd (below c' r _ (others held) writes) (lt_irrefl _)
  · intro c' r held same
    obtain ⟨spec,admitted,fits⟩ := temps.books.receiving c' r (others held)
    have known := temps.books.admittedIssued spec admitted
    rw [fits.key,same] at known
    exact absurd known unused

variable {dirPath : String} {x : Session Bool} {env : Env}

/-- A reply that fails ends what is said of the upload. -/
theorem stage_refused {asked : Request} {next : Reply → Web Bool} {r : Reply} (asks : x.client = .ask asked next) (bad : Reply.fails r = true) :
    Stage sha256 dirPath dir filename file c (x.hear c (t.reply c r)) := by
  rw [Session.hear_reply asks]
  exact .failed (by simp [bad])

theorem stage_starting {call : Call} (asks : x.client = upload sha256 dirPath filename file) (fresh : x.transfer = none)
    (starts : Starts (t.park c call) c dir filename file call) : Stage sha256 dirPath dir filename file c (x.hear c (t.park c call)) := by
  rw [Session.hear_park]
  exact .starting asks rfl fresh (by simp) starts

theorem marks_new {env : Env} {m : Manager} {plan : UploadPlan} {id : String} {t : Transfer}
    (found : (insertTransfer m (uploadTransfer env plan id)).transfers.lookup id = some t) : t = uploadTransfer env plan id := by
  rw [insertTransfer,Table.lookup_insert_eq] at found
  exact (Option.some.inj ((if_pos rfl).symm.trans found)).symm

theorem starting_step {call : Call} (temps : Temps x.server) (below : HandlesBelow x.server)
    (asks : x.client = upload sha256 dirPath filename file) (fresh : x.transfer = none) (found : x.server.calls c = some call)
    (starts : Starts x.server c dir filename file call) (stepped : TransferSteps.step cfg sha256 x.server ⟨env,.advance c⟩ = some t) :
    Stage sha256 dirPath dir filename file c (x.hear c t) := by
  have advanced : advance cfg sha256 x.server env c call = some t := (occupied_advance stepped rfl found).2
  obtain ⟨next,first,goesOn⟩ := upload_asks sha256 dirPath filename file
  have asked := asks.trans first
  cases starts with
  | creating =>
    simp only [advance] at advanced
    split_ifs at advanced with new
    split at advanced
    · cases advanced
      exact stage_refused asked rfl
    · next made =>
      have priv := private_created temps below found new made stepped (Option.some.inj advanced).symm
      obtain rfl := Option.some.inj advanced
      exact stage_starting asks fresh (.sizing priv)
  | @sizing id ino priv =>
    have after := priv.goes (fun r held => by cases found.symm.trans held) stepped
    simp only [advance,uploadSetLen] at advanced
    cases fault : env.io with
    | some e =>
      simp only [fault] at advanced
      cases advanced
      exact stage_refused asked rfl
    | none =>
      simp only [fault] at advanced
      obtain rfl := Option.some.inj advanced
      refine stage_starting asks fresh (.inserting after ?_)
      simp [contentOf,Disk.update,setLen_length,uploadPlan]
  | @inserting id ino priv size =>
    have after := priv.goes (fun r held => by cases found.symm.trans held) stepped
    obtain rfl := Option.some.inj advanced
    rw [Session.hear_reply asked]
    have sent : Sent sha256 (((x.server.withManager (insertTransfer x.server.manager (uploadTransfer env
        (uploadPlan dir filename file) id))).log (.admitted (uploadTransfer env (uploadPlan dir filename file) id).spec)).reply c
        (.uploadStarted ⟨id,defaultChunkSize,totalChunks file.length⟩)) (next (.uploadStarted ⟨id,defaultChunkSize,totalChunks file.length⟩)) c
        (uploadTransfer env (uploadPlan dir filename file) id).spec dir filename file ino 0 := {
      uploads := ⟨rfl,rfl,rfl,rfl,rfl,rfl⟩
      priv := after
      admitted := by simp
      left := Nat.lt_of_lt_of_le Nat.zero_lt_one (Nat.le_max_left _ _)
      client := goesOn _
      filled := ⟨size,fun j below => absurd below (Nat.not_lt_zero j)⟩
      marks := by
        intro transfer there
        rw [marks_new there,Nat.sub_zero,List.replicate_zero,List.nil_append]
        simp only [uploadTransfer,uploadPlan] }
    exact .between sent rfl (by rw [fresh]; rfl)

/-! ### Chunks -/

/-- A chunk lies inside the file. -/
theorem chunk_inside (left : i < totalChunks file.length) : i * defaultChunkSize + chunkLen file.length defaultChunkSize i ≤ file.length := by
  have start : i * defaultChunkSize ≤ file.length := by
    unfold totalChunks at left
    rw [ceilDiv_eq _ chunkSize_pos] at left
    rcases Nat.lt_or_ge i (divCeil file.length defaultChunkSize) with below | past
    · exact (mul_lt_of_lt_divCeil below).le
    · have first : i = 0 := by omega
      rw [first]
      omega
  unfold chunkLen
  omega

theorem chunkOf_length (left : i < totalChunks file.length) : (chunkOf file i).length = chunkLen file.length defaultChunkSize i := by
  rw [chunkOf_eq]
  exact slice_length (chunk_inside left)

/-- The next chunk written where it belongs. -/
theorem Filled.write {content : Bytes} (filled : Filled content file i) (left : i < totalChunks file.length) :
    Filled (writeAt content (i * defaultChunkSize) (chunkOf file i)) file (i + 1) := by
  have inside : i * defaultChunkSize + (chunkOf file i).length ≤ content.length := by
    rw [chunkOf_length left,filled.size]
    exact chunk_inside left
  refine ⟨(writeAt_length inside).trans filled.size,fun j below => ?_⟩
  by_cases same : j = i
  · subst same
    rw [← chunkOf_length left]
    exact slice_writeAt_same inside
  · rw [slice_writeAt_apart inside]
    · exact filled.chunks j (by omega)
    · left
      have upto : j * defaultChunkSize + chunkLen file.length defaultChunkSize j ≤ (j + 1) * defaultChunkSize := chunkBytes_upto
      exact upto.trans (Nat.mul_le_mul_right _ (by omega))

theorem Filled.earlier {content : Bytes} (filled : Filled content file (i + 1)) : Filled content file i :=
  ⟨filled.size,fun j below => filled.chunks j (Nat.lt_succ_of_lt below)⟩

/-- A file that holds all chunks is the file. -/
theorem Filled.whole {content : Bytes} (filled : Filled content file (totalChunks file.length)) : content = file := by
  have covers : file.length ≤ totalChunks file.length * defaultChunkSize := by
    unfold totalChunks
    rw [ceilDiv_eq _ chunkSize_pos]
    exact (le_divCeil_mul _ chunkSize_pos).trans (Nat.mul_le_mul_right _ (Nat.le_max_right _ _))
  have same : ∀ j ∈ List.range (totalChunks file.length), slice content (j * defaultChunkSize) defaultChunkSize =
      slice file (j * defaultChunkSize) defaultChunkSize := by
    intro j member
    have there := filled.chunks j (List.mem_range.mp member)
    rwa [chunkOf_eq,slice_chunkLen,← filled.size,slice_chunkLen] at there
  calc content
    _ = _ := (flatMap_slices content defaultChunkSize (totalChunks file.length) (filled.size ▸ covers)).symm
    _ = _ := List.flatMap_congr same
    _ = file := flatMap_slices file defaultChunkSize _ covers

theorem set_marks (done left : Nat) :
    (List.replicate done true ++ List.replicate (left + 1) false).set done true =
      List.replicate (done + 1) true ++ List.replicate left false := by
  rw [List.set_append_right _ _ (by simp),List.length_replicate,Nat.sub_self,List.replicate_succ,List.set_cons_zero,
    List.replicate_succ',List.append_assoc]
  rfl

theorem all_marks (done left : Nat) : (List.replicate done true ++ List.replicate left false).all id = true ↔ left = 0 := by
  cases left with
  | zero => simp
  | succ left => simp

/-! ### The chunks of a session -/

/-- What a call for a chunk of the upload read off the table. -/
theorem Sending.context {data : Bytes} {ctx : ReceiveContext} {pc : ReceivePc} (sending : Sending sha256 s client c spec dir filename file ino i)
    (found : s.calls c = some (.receive ⟨spec.transferId,i,data,ctx,pc⟩)) : ctx.offset = i * defaultChunkSize ∧
      ctx.tempPath = join dir (tempName spec.transferId) ∧ ctx.finalPath = join dir filename := by
  obtain ⟨other,admitted,fits⟩ := sending.priv.temps.books.receiving c _ found
  cases sending.priv.temps.books.admittedOnce other spec admitted sending.admitted fits.key
  obtain ⟨_,upload,_,offset,temp,final⟩ := fits
  rw [tempOf,upload] at temp
  rw [sending.uploads.chunkSize] at offset
  rw [sending.uploads.path] at temp
  rw [sending.uploads.path,sending.uploads.filename] at final
  exact ⟨offset,temp,final⟩

/-- A section of the upload's call that neither writes nor renames. -/
theorem Sending.quiet {data : Bytes} {ctx : ReceiveContext} {pc : ReceivePc} (sending : Sending sha256 s client c spec dir filename file ino i)
    (found : s.calls c = some (.receive ⟨spec.transferId,i,data,ctx,pc⟩)) (still : pc ≠ .rename)
    (stepped : TransferSteps.step cfg sha256 s ⟨env,.advance c⟩ = some t) : Sending sha256 t client c spec dir filename file ino i := by
  refine { sending with priv := sending.priv.goes ?_ stepped, admitted := trace_grows stepped sending.admitted }
  intro r held
  cases found.symm.trans held
  exact still

theorem Sending.unwritten {data : Bytes} {ctx : ReceiveContext} {pc : ReceivePc} (sending : Sending sha256 s client c spec dir filename file ino i)
    (found : s.calls c = some (.receive ⟨spec.transferId,i,data,ctx,pc⟩)) (still : pc ≠ .write ino)
    (stepped : TransferSteps.step cfg sha256 s ⟨env,.advance c⟩ = some t) : contentOf t ino = contentOf s ino := by
  cases temp_rewritten sending.priv.temps sending.priv.created stepped with
  | same content => exact content
  | resized held _ => exact absurd held (sending.unsized _ _)
  | written move held writes _ _ =>
    cases move
    cases found.symm.trans held
    exact absurd writes still

theorem Sending.asked (sending : Sending sha256 s client c spec dir filename file ino i) : ∃ next,
    client = .ask (.sendChunk spec.transferId i (chunkOf file i) (sha256 (chunkOf file i))) next ∧
      ∀ ack, ack.ok = true → next (.ack ack) = sendFrom sha256 spec.transferId file (i + 1) := by
  obtain ⟨next,asks,takes⟩ := sendFrom_asks sha256 spec.transferId sending.left
  exact ⟨next,sending.client.trans asks,takes⟩

variable {ctx : ReceiveContext} {pc : ReceivePc}

theorem stage_receiving (transfer : x.transfer = some spec.transferId)
    (receives : Receives sha256 (t.park c (.receive ⟨spec.transferId,i,chunkOf file i,ctx,pc⟩)) x.client c spec dir filename file ino i pc) :
    Stage sha256 dirPath dir filename file c (x.hear c (t.park c (.receive ⟨spec.transferId,i,chunkOf file i,ctx,pc⟩))) := by
  rw [Session.hear_park]
  have there : (t.park c (.receive ⟨spec.transferId,i,chunkOf file i,ctx,pc⟩)).calls c =
      some (.receive ⟨spec.transferId,i,chunkOf file i,ctx,pc⟩) := by simp
  exact .receiving rfl transfer there receives

theorem stage_failing {asked : Request} {next : Reply → Web Bool} (asks : x.client = .ask asked next) (late : fails pc = true)
    (transfer : x.transfer = some spec.transferId) :
    Stage sha256 dirPath dir filename file c (x.hear c (t.park c (.receive ⟨spec.transferId,i,chunkOf file i,ctx,pc⟩))) := by
  have receives : Receives sha256 (t.park c (.receive ⟨spec.transferId,i,chunkOf file i,ctx,pc⟩)) x.client c spec dir filename file 0 i pc :=
    .failing ⟨_,_,asks⟩ late
  exact stage_receiving transfer receives

theorem opening_step (sent : Sent sha256 x.server x.client c spec dir filename file ino i) (transfer : x.transfer = some spec.transferId)
    (found : x.server.calls c = some (.receive ⟨spec.transferId,i,chunkOf file i,ctx,.openTemp⟩))
    (stepped : TransferSteps.step cfg sha256 x.server ⟨env,.advance c⟩ = some t) :
    Stage sha256 dirPath dir filename file c (x.hear c t) := by
  have sending := sent.toSending.quiet found (by simp) stepped
  have same := sent.toSending.unwritten found (by simp) stepped
  have context := sent.toSending.context found
  obtain ⟨_,asks,_⟩ := sent.toSending.asked
  obtain rfl := Option.some.inj (occupied_advance stepped rfl found).2
  cases opened : receiveOpen env x.server.manager spec.transferId ctx with
  | error e =>
    simp only [advanceReceive,opened]
    exact stage_refused asks rfl
  | ok handle =>
    simp only [advanceReceive,opened] at sending same ⊢
    have names := (TransferRetries.openExisting_ok.mp (TransferRetries.mapError_ok.mp opened)).2
    have own : handle = ino := by
      rw [context.2.1] at names
      rcases sent.priv.own with here | gone
      · exact Option.some.inj (names.symm.trans here)
      · cases names.symm.trans gone
    subst own
    refine stage_receiving transfer (.writing { sending with filled := ?_, marks := sent.marks })
    rw [same]
    exact sent.filled

theorem writing_step (sent : Sent sha256 x.server x.client c spec dir filename file ino i) (transfer : x.transfer = some spec.transferId)
    (found : x.server.calls c = some (.receive ⟨spec.transferId,i,chunkOf file i,ctx,.write ino⟩))
    (stepped : TransferSteps.step cfg sha256 x.server ⟨env,.advance c⟩ = some t) :
    Stage sha256 dirPath dir filename file c (x.hear c t) := by
  have sending := sent.toSending.quiet found (by simp) stepped
  have context := sent.toSending.context found
  obtain ⟨_,asks,_⟩ := sent.toSending.asked
  obtain rfl := Option.some.inj (occupied_advance stepped rfl found).2
  cases done : (receiveWrite env x.server.manager spec.transferId ctx ino (chunkOf file i)).1 with
  | error e =>
    simp only [advanceReceive,done]
    exact stage_refused asks rfl
  | ok _ =>
    simp only [advanceReceive,done] at sending ⊢
    obtain ⟨_,written⟩ := receiveWrite_ok done
    rw [written] at sending ⊢
    refine stage_receiving transfer (.marking { sending with filled := ?_, marks := sent.marks } ?_)
    · exact Filled.earlier (by simpa [contentOf,update_content,context.1] using sent.filled.write sent.left)
    · simpa [contentOf,update_content,context.1] using sent.filled.write sent.left

/-- The marks with the next one. -/
theorem Sent.mark {old : Transfer} (sent : Sent sha256 s client c spec dir filename file ino i) (len now : Nat)
    (there : s.manager.transfers.lookup spec.transferId = some old) : (markChunk i len now old).progress.chunksDone =
      List.replicate (i + 1) true ++ List.replicate (totalChunks file.length - (i + 1)) false := by
  have marks := sent.marks old there
  have left : totalChunks file.length - i = totalChunks file.length - (i + 1) + 1 := by
    have := sent.left
    omega
  show old.progress.chunksDone.set i true = _
  rw [marks,left,set_marks]

theorem marking_step (sent : Sent sha256 x.server x.client c spec dir filename file ino i) (filled : Filled (contentOf x.server ino) file (i + 1))
    (transfer : x.transfer = some spec.transferId)
    (found : x.server.calls c = some (.receive ⟨spec.transferId,i,chunkOf file i,ctx,.progress⟩))
    (stepped : TransferSteps.step cfg sha256 x.server ⟨env,.advance c⟩ = some t) :
    Stage sha256 dirPath dir filename file c (x.hear c t) := by
  have sending := sent.toSending.quiet found (by simp) stepped
  have same := sent.toSending.unwritten found (by simp) stepped
  obtain ⟨next,asks,takes⟩ := sent.toSending.asked
  have left := sent.left
  obtain rfl := Option.some.inj (occupied_advance stepped rfl found).2
  cases there : x.server.manager.transfers.lookup spec.transferId with
  | none =>
    simp only [advanceReceive,receiveProgress,there]
    exact stage_refused asks rfl
  | some old =>
    have marked := sent.mark (chunkOf file i).length env.now there
    have all : Transfer.allDone (markChunk i (chunkOf file i).length env.now old) = true ↔ totalChunks file.length - (i + 1) = 0 := by
      rw [Transfer.allDone,marked]
      exact all_marks _ _
    simp only [advanceReceive,receiveProgress,there] at sending same ⊢
    by_cases last : i + 1 = totalChunks file.length
    · rw [all.mpr (by omega)] at sending same ⊢
      refine stage_receiving transfer (.finishing sending last ?_ rfl)
      rw [same]
      exact filled
    · have open_ : Transfer.allDone (markChunk i (chunkOf file i).length env.now old) = false := by
        refine Bool.eq_false_iff.mpr fun full => ?_
        have := all.mp full
        omega
      rw [open_] at sending same ⊢
      simp only at sending same ⊢
      rw [Session.hear_reply asks]
      refine .between (i := i + 1) { sending with left := by omega, client := takes _ rfl, filled := ?_, marks := ?_ } rfl ?_
      · show Filled (contentOf _ ino) file (i + 1)
        rw [same]
        exact filled
      · intro after now
        have here : (Table.modify spec.transferId (receiveMark i (chunkOf file i).length env.now) x.server.manager.transfers).lookup
            spec.transferId = some after := now
        rw [Table.lookup_modify,if_pos rfl,there] at here
        obtain rfl := Option.some.inj here
        rw [receiveMark,open_]
        exact marked
      · simp [startedId,transfer]

/-- The rename publishes the file. -/
theorem renamed_published {moved : Manager} (sending : Sending sha256 s client c spec dir filename file ino i)
    (filled : Filled (contentOf s ino) file (totalChunks file.length)) (context : ctx.tempPath = join dir (tempName spec.transferId))
    (done : finalizeRename env s.manager ctx = .ok moved) : ((moved.disk.file? ctx.finalPath).map File.content).getD [] = file := by
  obtain ⟨disk,renamed,rfl⟩ := finalizeRename_ok done
  obtain ⟨handle,source,target,files,_⟩ := Disk.rename_moves renamed
  have own : handle = ino := by
    rw [context] at source
    rcases sending.priv.own with here | gone
    · exact Option.some.inj (source.symm.trans here)
    · cases source.symm.trans gone
  subst own
  simp only [Disk.file?,target,files,Option.map_some,Option.getD_some]
  exact filled.whole

theorem finishing_step (sending : Sending sha256 x.server x.client c spec dir filename file ino i) (last : i + 1 = totalChunks file.length)
    (filled : Filled (contentOf x.server ino) file (i + 1)) (late : finishes pc = true) (transfer : x.transfer = some spec.transferId)
    (found : x.server.calls c = some (.receive ⟨spec.transferId,i,chunkOf file i,ctx,pc⟩))
    (stepped : TransferSteps.step cfg sha256 x.server ⟨env,.advance c⟩ = some t) :
    Stage sha256 dirPath dir filename file c (x.hear c t) := by
  have context := sending.context found
  obtain ⟨next,asks,_⟩ := sending.asked
  have advanced := Option.some.inj (occupied_advance stepped rfl found).2
  by_cases renames : pc = .rename
  · subst renames
    cases done : finalizeRename env x.server.manager ctx with
    | error e =>
      simp only [advanceReceive,done] at advanced
      subst advanced
      exact stage_failing asks rfl transfer
    | ok moved =>
      have published := renamed_published sending (last ▸ filled) context.2.1 done
      simp only [advanceReceive,done,published] at advanced
      subst advanced
      rw [context.2.2]
      have receives {after : State} (there : .published spec.transferId (join dir filename) file ∈ after.trace) :
          Receives sha256 after x.client c spec dir filename file ino i .complete := .complete sending.client last there
      exact stage_receiving transfer (receives (by simp))
  have after := sending.quiet found renames stepped
  have same : contentOf t ino = contentOf x.server ino := by
    refine sending.unwritten found ?_ stepped
    rintro rfl
    cases late
  rw [← same] at filled
  cases pc with
  | hash =>
    cases hashed : finalizeHash sha256 env x.server.manager spec.transferId ctx with
    | error e =>
      simp only [advanceReceive,hashed] at advanced
      subst advanced
      exact stage_refused asks rfl
    | ok actual =>
      simp only [advanceReceive,hashed] at advanced
      split_ifs at advanced <;> subst advanced
      · exact stage_receiving transfer (.finishing after last filled rfl)
      · exact stage_failing asks rfl transfer
      · exact stage_receiving transfer (.finishing after last filled rfl)
  | setHash _ | chmod =>
    simp only [advanceReceive] at advanced
    subst advanced
    exact stage_receiving transfer (.finishing after last filled rfl)
  | rename => exact absurd rfl renames
  | _ => cases late

theorem failing_step {asked : Request} {next : Reply → Web Bool} (asks : x.client = .ask asked next) (late : fails pc = true)
    (transfer : x.transfer = some spec.transferId)
    (found : x.server.calls c = some (.receive ⟨spec.transferId,i,chunkOf file i,ctx,pc⟩))
    (stepped : TransferSteps.step cfg sha256 x.server ⟨env,.advance c⟩ = some t) :
    Stage sha256 dirPath dir filename file c (x.hear c t) := by
  have advanced := Option.some.inj (occupied_advance stepped rfl found).2
  cases pc with
  | discard actual =>
    simp only [advanceReceive] at advanced
    subst advanced
    exact stage_failing asks rfl transfer
  | fail actual | cleanup e =>
    simp only [advanceReceive] at advanced
    subst advanced
    exact stage_refused asks rfl
  | _ => cases late

theorem receiving_step (receives : Receives sha256 x.server x.client c spec dir filename file ino i pc)
    (transfer : x.transfer = some spec.transferId)
    (found : x.server.calls c = some (.receive ⟨spec.transferId,i,chunkOf file i,ctx,pc⟩))
    (stepped : TransferSteps.step cfg sha256 x.server ⟨env,.advance c⟩ = some t) :
    Stage sha256 dirPath dir filename file c (x.hear c t) := by
  cases receives with
  | opening sent => exact opening_step sent transfer found stepped
  | writing sent => exact writing_step sent transfer found stepped
  | marking sent filled => exact marking_step sent filled transfer found stepped
  | finishing sending last filled late => exact finishing_step sending last filled late transfer found stepped
  | failing asks late =>
    obtain ⟨asked,next,asks⟩ := asks
    exact failing_step asks late transfer found stepped
  | complete client last published =>
    obtain ⟨next,asks,takes⟩ := sendFrom_asks sha256 spec.transferId (show i < totalChunks file.length by omega)
    have grown := trace_grows stepped published
    have advanced := Option.some.inj (occupied_advance stepped rfl found).2
    simp only [advanceReceive] at advanced
    subst advanced
    rw [Session.hear_reply (client.trans asks)]
    refine .finished ?_ rfl (by simp [startedId,transfer]) grown
    show next _ = _
    rw [takes _ rfl,last]
    exact sendFrom_done _ _

/-- The tracker sends its next request. -/
theorem asking_step {asked : Request} {next : Reply → Web Bool} (asks : x.client = .ask asked next)
    (valid : validateTransferPath dirPath = .ok dir) (stage : (x.client = upload sha256 dirPath filename file ∧ x.transfer = none) ∨
      ∃ spec ino i, Sent sha256 x.server x.client c spec dir filename file ino i ∧ x.transfer = some spec.transferId)
    (stepped : TransferSteps.step cfg sha256 x.server ⟨env,asked.move c⟩ = some t) :
    Stage sha256 dirPath dir filename file c (x.hear c t) := by
  rcases stage with ⟨begun,fresh⟩ | ⟨spec,ino,i,sent,transfer⟩
  · obtain ⟨_,first,_⟩ := upload_asks sha256 dirPath filename file
    cases asks.symm.trans (begun.trans first)
    simp only [Request.move,TransferSteps.step] at stepped
    split_ifs at stepped
    split at stepped
    · cases stepped
      exact stage_refused asks rfl
    · next plan checked =>
      obtain rfl := Option.some.inj stepped
      obtain ⟨at_,there,rfl⟩ := initUploadCheck_plan checked
      cases valid.symm.trans there
      exact stage_starting begun fresh .creating
  · have left := sent.left
    obtain ⟨_,first,_⟩ := sent.toSending.asked
    cases asks.symm.trans first
    have foreign : Foreign c spec.transferId ⟨env,.receiveChunk c spec.transferId i (sha256 (chunkOf file i)) (chunkOf file i)⟩ := by
      intro _ _ _ _ move
      cases move
      rfl
    have after := sent.toSending.step foreign (fun _ _ move => by cases move) (fun _ _ move => by cases move) stepped
    simp only [Request.move,TransferSteps.step] at stepped
    split at stepped
    · cases stepped
    split at stepped
    · cases stepped
      exact stage_refused asks rfl
    · next ctx checked =>
      obtain rfl := Option.some.inj stepped
      rw [if_neg (not_not_intro rfl)] at after ⊢
      exact stage_receiving transfer (.opening { after with filled := sent.filled, marks := sent.marks })

/-! ### Whole uploads -/

variable {act : Act} {y : Session Bool}

theorem ownId_of_transfer (c : Nat) {id : String} (transfer : x.transfer = some id) : ownId c x = some id := by
  rw [ownId,transfer,Option.some_or]

theorem foreign_of_leaves {id : String} (leaves : leavesOwn c x (.serve a) = true) (own : ownId c x = some id) : Foreign c id a := by
  intro c' index hash data move
  have here := leaves
  simp only [leavesOwn,move,own] at here
  simpa using here

theorem spares_of_own {id : String} {temp : PathBuf} (spares : sparesOwn c x (.serve a) = true) (own : ownId c x = some id)
    (created : .created id temp ino ∈ x.server.trace) : Spares id temp x.server a := by
  intro c' r move found late other
  have here := spares
  simp only [sparesOwn,move,found,late] at here
  have apart := List.all_eq_true.mp here _ created
  simpa [own,Ne.symm other] using apart

theorem Starts.other {call : Call} (starts : Starts x.server c dir filename file call) (found : x.server.calls c = some call)
    (fresh : x.transfer = none) (leaves : leavesOwn c x (.serve a) = true) (spares : sparesOwn c x (.serve a) = true)
    (apart : a.move.slot ≠ some c) (stepped : TransferSteps.step cfg sha256 x.server a = some t) :
    Starts t c dir filename file call := by
  have kept {id : String} {ino : Nat} (priv : Private x.server c id (join dir (tempName id)) ino) (pending : call.pendingId = some id) :
      Private t c id (join dir (tempName id)) ino := by
    have own : ownId c x = some id := by simp [ownId,fresh,found,pending]
    exact private_step priv (foreign_of_leaves leaves own) (spares_of_own spares own priv.created) (priv.stays apart) stepped
  cases starts with
  | creating => exact .creating
  | sizing priv => exact .sizing (kept priv rfl)
  | @inserting id ino priv size =>
    refine .inserting (kept priv rfl) ?_
    rw [content_other priv ?_ apart stepped]
    · exact size
    · intro c' plan sizing
      cases priv.temps.books.pendingOnce c c' _ _ id found sizing rfl rfl
      cases found.symm.trans sizing

theorem stage_step (temps : Temps x.server) (below : HandlesBelow x.server) (valid : validateTransferPath dirPath = .ok dir)
    (leaves : leavesOwn c x act = true) (spares : sparesOwn c x act = true) (stage : Stage sha256 dirPath dir filename file c x)
    (stepped : x.step cfg sha256 c act = some y) : Stage sha256 dirPath dir filename file c y := by
  by_cases failed : x.failed = true
  · exact .failed (Session.step_failed failed stepped)
  cases Session.moved stepped with
  | @other a t apart went same =>
    subst same
    cases stage with
    | failed gone => exact absurd gone failed
    | begun asks idle fresh => exact .begun asks idle fresh
    | starting asks waiting fresh found starts =>
      exact .starting asks waiting fresh ((step_calls_other went apart).trans found) (starts.other found fresh leaves spares apart went)
    | between sent idle transfer =>
      have own := ownId_of_transfer c transfer
      exact .between (sent.other (foreign_of_leaves leaves own) (spares_of_own spares own sent.priv.created) apart went) idle transfer
    | receiving waiting transfer found receives =>
      have own := ownId_of_transfer c transfer
      have again := receives.other (foreign_of_leaves leaves own) (spares_of_own spares own) apart went
      exact .receiving waiting transfer ((step_calls_other went apart).trans found) again
    | finished ended idle transfer published => exact .finished ended idle transfer (trace_grows went published)
  | @goes a t waiting slot went same =>
    subst same
    have idle {goal : Prop} (idle : x.waiting = false) : goal := by rw [waiting] at idle; cases idle
    cases stage with
    | failed gone => exact absurd gone failed
    | begun _ rests _ => exact idle rests
    | starting asks _ fresh found starts =>
      obtain ⟨env,move⟩ := a
      obtain rfl := (occupied_advance went slot found).1
      exact starting_step temps below asks fresh found starts went
    | between _ rests _ => exact idle rests
    | receiving _ transfer found receives =>
      obtain ⟨env,move⟩ := a
      obtain rfl := (occupied_advance went slot found).1
      exact receiving_step receives transfer found went
    | finished _ rests _ _ => exact idle rests
  | @asks env asked next t asks idle went same =>
    subst same
    cases stage with
    | failed gone => exact absurd gone failed
    | begun begun _ fresh => exact asking_step asks valid (.inl ⟨begun,fresh⟩) went
    | starting _ waiting _ _ _ => exact absurd (waiting.symm.trans idle) (by decide)
    | between sent _ transfer => exact asking_step asks valid (.inr ⟨_,_,_,sent,transfer⟩) went
    | receiving waiting _ _ _ => exact absurd (waiting.symm.trans idle) (by decide)
    | finished ended _ _ _ => cases asks.symm.trans ended

/-- An upload that ended without a failed request published the file. -/
def Publishes (dir : PathBuf) (filename : String) (file : Bytes) (x : Session Bool) : Prop :=
  x.failed = false → ∀ value, x.client = .done value →
    value = true ∧ ∃ id, x.transfer = some id ∧ .published id (join dir filename) file ∈ x.server.trace

theorem Receives.asks (receives : Receives sha256 s client c spec dir filename file ino i pc) : ∃ asked next, client = .ask asked next := by
  have sending {s' : State} {ino' : Nat} (sending : Sending sha256 s' client c spec dir filename file ino' i) :
      ∃ asked next, client = .ask asked next := by
    obtain ⟨next,asks,_⟩ := sending.asked
    exact ⟨_,next,asks⟩
  cases receives with
  | opening sent | writing sent | marking sent _ => exact sending sent.toSending
  | finishing unfinished _ _ _ => exact sending unfinished
  | failing asks _ => exact asks
  | complete client last _ =>
    obtain ⟨next,asks,_⟩ := sendFrom_asks sha256 spec.transferId (show i < totalChunks file.length by omega)
    exact ⟨_,next,client.trans asks⟩

theorem stage_done (stage : Stage sha256 dirPath dir filename file c x) : Publishes dir filename file x := by
  intro fine value ended
  have unfinished {asked : Request} {next : Reply → Web Bool} {goal : Prop} (asks : x.client = .ask asked next) : goal := by
    cases ended.symm.trans asks
  obtain ⟨_,first,_⟩ := upload_asks sha256 dirPath filename file
  cases stage with
  | failed gone => cases fine.symm.trans gone
  | begun asks _ _ => exact unfinished (asks.trans first)
  | starting asks _ _ _ _ => exact unfinished (asks.trans first)
  | between sent _ _ =>
    obtain ⟨_,asks,_⟩ := sent.toSending.asked
    exact unfinished asks
  | receiving _ _ _ receives =>
    obtain ⟨_,_,asks⟩ := receives.asks
    exact unfinished asks
  | finished done _ transfer published =>
    cases ended.symm.trans done
    exact ⟨rfl,_,transfer,published⟩

/-- An upload publishes its file, whatever comes in between, if no other upload is
    renamed onto its temporary file. -/
theorem upload_publishes {as : List Act} (temps : Temps s) (below : HandlesBelow s) (valid : validateTransferPath dirPath = .ok dir)
    (apart : Along (Session.step cfg sha256 c) (fun x act => leavesOwn c x act = true ∧ sparesOwn c x act = true)
      (Session.begin s (upload sha256 dirPath filename file)) as) :
    Always (Session.step cfg sha256 c) (Publishes dir filename file) (Session.begin s (upload sha256 dirPath filename file)) as := by
  have keeps (x : Session Bool) (act : Act) (y : Session Bool)
      (kept : Temps x.server ∧ HandlesBelow x.server ∧ Stage sha256 dirPath dir filename file c x)
      (met : leavesOwn c x act = true ∧ sparesOwn c x act = true) (stepped : x.step cfg sha256 c act = some y) :
      Temps y.server ∧ HandlesBelow y.server ∧ Stage sha256 dirPath dir filename file c y := by
    obtain ⟨a,went⟩ := Session.step_server stepped
    obtain ⟨temps,below,stage⟩ := kept
    exact ⟨temps_step temps went,handlesBelow_step below went,stage_step temps below valid met.1 met.2 stage stepped⟩
  exact always_of_keeps keeps (fun _ kept => stage_done kept.2.2) ⟨temps,below,.begun rfl rfl rfl⟩ apart

end
end Sctl.WebUploads
