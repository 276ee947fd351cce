import Sctl.Runs
import Sctl.TransferManager

/-!
Concurrent use of the transfer manager. A call in flight holds no lock between
its sections, so any number of calls advance in any order, one section a step:
the step of a call that reads under the read lock, does file I/O or updates
under the write lock is atomic, and everything else may come in between.
`abort`, `resume`, `pause_all` and `sweep_stale` hold the write lock throughout
and are one step each. The trace records what happened, newest first.
-/
namespace Sctl.TransferSteps
open Sctl.Files Sctl.TransferTypes Sctl.TransferManager Sctl.Runs

/-- Where a `receive_chunk` call stands: before the section it names. -/
inductive ReceivePc
  | reject
  | openTemp
  | write (ino : Nat)
  | progress
  | hash
  | setHash (actual : String)
  | discard (actual : String)
  | fail (actual : String)
  | chmod
  | rename
  | cleanup (e : IoError)
  | complete
deriving DecidableEq

/-- A `receive_chunk` call: its arguments and what it read under the lock. -/
structure Receiving where
  id : String
  index : Nat
  data : Bytes
  ctx : ReceiveContext
  pc : ReceivePc
deriving DecidableEq

inductive Call
  | downloadHash (plan : DownloadPlan)
  | downloadInsert (transfer : Transfer)
  | uploadCreate (plan : UploadPlan)
  | uploadSetLen (plan : UploadPlan) (id : String) (ino : Nat)
  | uploadInsert (plan : UploadPlan) (id : String)
  | serveOpen (id : String) (index : Nat) (ctx : ServeContext)
  | serveRead (id : String) (index : Nat) (ctx : ServeContext) (ino : Nat)
  | serveProgress (id : String) (index : Nat) (buf : Bytes)
  | receive (r : Receiving)
deriving DecidableEq

inductive Reply
  | downloadStarted (r : InitDownloadResult)
  | uploadStarted (r : InitUploadResult)
  | chunk (header : ChunkHeader) (buf : Bytes)
  | ack (a : ChunkAck)
  | resumed (r : ResumeResult)
  | aborted
  | failed (e : TransferError)
deriving DecidableEq

def Reply.of {Result : Type} (good : Result → Reply) : Except TransferError Result → Reply
  | .ok r => good r
  | .error e => .failed e

/-- The replies that give a client what it asked for with a chunk request. -/
def Reply.serves : Reply → Bool
  | .chunk _ _ => true
  | .ack a => a.ok
  | _ => false

inductive Event
  | created (id : String) (temp : PathBuf) (ino : Nat)
  | admitted (spec : TransferSpec)
  | accepted (id : String) (index : Nat) (payload : Bytes)
  | published (id : String) (path : PathBuf) (content : Bytes)
  | replied (call : Nat) (reply : Reply)
deriving DecidableEq

structure State where
  manager : Manager
  calls : Nat → Option Call
  /-- The UUIDs handed out so far. -/
  issued : List String
  trace : List Event

/-- The manager of a server that has just started on a disk. -/
def start (disk : Disk PathBuf) : State := ⟨⟨∅,disk⟩,fun _ => none,[],[]⟩

inductive Move
  | initDownload (c : Nat) (path : String) (chunkSize : Option Nat)
  | initUpload (c : Nat) (req : InitUpload)
  | serveChunk (c : Nat) (id : String) (index : Nat)
  | receiveChunk (c : Nat) (id : String) (index : Nat) (chunkHash : String) (data : Bytes)
  | advance (c : Nat)
  | resume (c : Nat) (id : String)
  | abort (c : Nat) (id : String)
  | pauseAll
  | sweepStale

structure Action where
  env : Env
  move : Move

namespace State
variable (s : State)

def park (c : Nat) (call : Call) : State := { s with calls := Function.update s.calls c (some call) }

def reply (c : Nat) (r : Reply) : State :=
  { s with calls := Function.update s.calls c none, trace := .replied c r :: s.trace }

def log (e : Event) : State := { s with trace := e :: s.trace }

def withManager (m : Manager) : State := { s with manager := m }

/-- A UUID never handed out, nor in use as the name of the temporary file. -/
def fresh (uuid : String) (temp : PathBuf) : Bool := !s.issued.contains uuid && (s.manager.disk.names temp).isNone

theorem fresh_iff {uuid : String} {temp : PathBuf} :
    s.fresh uuid temp = true ↔ uuid ∉ s.issued ∧ s.manager.disk.names temp = none := by
  simp [fresh]

end State

section
variable (s : State) (c : Nat) (call : Call) (r : Reply) (e : Event) (m : Manager)
@[simp] theorem park_manager : (s.park c call).manager = s.manager := rfl
@[simp] theorem park_issued : (s.park c call).issued = s.issued := rfl
@[simp] theorem park_trace : (s.park c call).trace = s.trace := rfl
@[simp] theorem park_calls : (s.park c call).calls = Function.update s.calls c (some call) := rfl
@[simp] theorem reply_manager : (s.reply c r).manager = s.manager := rfl
@[simp] theorem reply_issued : (s.reply c r).issued = s.issued := rfl
@[simp] theorem reply_trace : (s.reply c r).trace = .replied c r :: s.trace := rfl
@[simp] theorem reply_calls : (s.reply c r).calls = Function.update s.calls c none := rfl
@[simp] theorem log_manager : (s.log e).manager = s.manager := rfl
@[simp] theorem log_issued : (s.log e).issued = s.issued := rfl
@[simp] theorem log_trace : (s.log e).trace = e :: s.trace := rfl
@[simp] theorem log_calls : (s.log e).calls = s.calls := rfl
@[simp] theorem withManager_manager : (s.withManager m).manager = m := rfl
@[simp] theorem withManager_issued : (s.withManager m).issued = s.issued := rfl
@[simp] theorem withManager_trace : (s.withManager m).trace = s.trace := rfl
@[simp] theorem withManager_calls : (s.withManager m).calls = s.calls := rfl
end

variable (cfg : TransferConfig) (sha256 : Bytes → String)

/-- The next section of a `receive_chunk` call. -/
def advanceReceive (s : State) (env : Env) (c : Nat) (r : Receiving) : State :=
  let m := s.manager
  let go (s : State) (pc : ReceivePc) : State := s.park c (.receive { r with pc := pc })
  match r.pc with
  | .reject => (s.withManager (receiveReject cfg env m r.id r.ctx)).reply c (.ack (rejectedAck r.id r.index))
  | .openTemp => match receiveOpen env m r.id r.ctx with
    | .error e => s.reply c (.failed e)
    | .ok ino => go s (.write ino)
  | .write ino =>
    let done := receiveWrite env m r.id r.ctx ino r.data
    match done.1 with
    | .error e => (s.withManager done.2).reply c (.failed e)
    | .ok _ => go ((s.withManager done.2).log (.accepted r.id r.index r.data)) .progress
  | .progress =>
    let done := receiveProgress env m r.id r.index r.data.length
    match done.1 with
    | .error e => (s.withManager done.2).reply c (.failed e)
    | .ok false => (s.withManager done.2).reply c (.ack (acceptedAck r.id r.index))
    | .ok true => go (s.withManager done.2) .hash
  | .hash => match finalizeHash sha256 env m r.id r.ctx with
    | .error e => s.reply c (.failed e)
    | .ok actual =>
      if r.ctx.fileHash = "" then go s (.setHash actual)
      else if actual ≠ r.ctx.fileHash then go s (.discard actual)
      else go s .chmod
  | .setHash actual => go (s.withManager (finalizeSetHash m r.id actual)) .chmod
  | .discard actual => go (s.withManager (removeFile env m r.ctx.tempPath)) (.fail actual)
  | .fail actual => (s.withManager (finalizeFail m r.id)).reply c (.failed (mismatchError r.id r.ctx actual))
  | .chmod => go (s.withManager (finalizeChmod env m r.ctx)) .rename
  | .rename => match finalizeRename env m r.ctx with
    | .error e => go s (.cleanup e)
    | .ok moved =>
      let content := ((moved.disk.file? r.ctx.finalPath).map File.content).getD []
      go ((s.withManager moved).log (.published r.id r.ctx.finalPath content)) .complete
  | .cleanup e =>
    (s.withManager (removeFile env m r.ctx.tempPath)).reply c (.failed (ioError r.id "Failed to finalize" e))
  | .complete => (s.withManager (finalizeComplete m r.id)).reply c (.ack (acceptedAck r.id r.index))

/-- The next section of a call. A panic ends the process, so it has no next state. -/
def advance (s : State) (env : Env) (c : Nat) : Call → Option State
  | .downloadHash plan => match computeChunks plan.fileSize plan.chunkSize with
    | none => none
    | some totalChunks => match hashFile sha256 env s.manager plan.path with
      | .error e => some (s.reply c (.failed (ioError "" "Failed to hash file" e)))
      | .ok fileHash =>
        if s.issued.contains env.uuid then none
        else some ({ s with issued := env.uuid :: s.issued }.park c
          (.downloadInsert (downloadTransfer env plan totalChunks fileHash)))
  | .downloadInsert t =>
    some (((s.withManager (insertTransfer s.manager t)).log (.admitted t.spec)).reply c
      (.downloadStarted ⟨t.spec.transferId,t.spec.fileSize,t.spec.fileHash,t.spec.chunkSize,t.spec.totalChunks,
        t.spec.filename⟩))
  | .uploadCreate plan =>
    if s.fresh env.uuid (plan.tempPath env.uuid) then
      match uploadCreate env s.manager plan with
      | .error e => some (s.reply c (.failed e))
      | .ok (ino,created) =>
        some (({ s with manager := created, issued := env.uuid :: s.issued }.log
          (.created env.uuid (plan.tempPath env.uuid) ino)).park c (.uploadSetLen plan env.uuid ino))
    else none
  | .uploadSetLen plan id ino =>
    let done := uploadSetLen env s.manager plan id ino
    match done.1 with
    | .error e => some ((s.withManager done.2).reply c (.failed e))
    | .ok _ => some ((s.withManager done.2).park c (.uploadInsert plan id))
  | .uploadInsert plan id =>
    some (((s.withManager (insertTransfer s.manager (uploadTransfer env plan id))).log
      (.admitted (uploadTransfer env plan id).spec)).reply c (.uploadStarted ⟨id,plan.chunkSize,plan.totalChunks⟩))
  | .serveOpen id index ctx => match serveOpen env s.manager id ctx with
    | .error e => some (s.reply c (.failed e))
    | .ok ino => some (s.park c (.serveRead id index ctx ino))
  | .serveRead id index ctx ino => match serveRead env s.manager id ctx ino with
    | .error e => some (s.reply c (.failed e))
    | .ok buf => some (s.park c (.serveProgress id index buf))
  | .serveProgress id index buf =>
    some ((s.withManager (serveProgress env s.manager id index buf.length)).reply c
      (.chunk ⟨id,index,sha256 buf⟩ buf))
  | .receive r => some (advanceReceive cfg sha256 s env c r)

/-- One atomic step. A call starts in a free slot with its first section. -/
def step (s : State) (a : Action) : Option State :=
  match a.move with
  | .initDownload c path chunkSize =>
    if (s.calls c).isSome then none
    else match initDownloadCheck cfg a.env s.manager path chunkSize with
      | .error e => some (s.reply c (.failed e))
      | .ok plan => some (s.park c (.downloadHash plan))
  | .initUpload c req =>
    if (s.calls c).isSome then none
    else match initUploadCheck cfg a.env s.manager req with
      | .error e => some (s.reply c (.failed e))
      | .ok plan => some (s.park c (.uploadCreate plan))
  | .serveChunk c id index =>
    if (s.calls c).isSome then none
    else match serveCheck a.env s.manager id index with
      | .error e => some (s.reply c (.failed e))
      | .ok ctx => some (s.park c (.serveOpen id index ctx))
  | .receiveChunk c id index chunkHash data =>
    if (s.calls c).isSome then none
    else match receiveCheck s.manager id index with
      | .error e => some (s.reply c (.failed e))
      | .ok ctx =>
        some (s.park c (.receive ⟨id,index,data,ctx,if sha256 data ≠ chunkHash then .reject else .openTemp⟩))
  | .advance c => (s.calls c).bind (advance cfg sha256 s a.env c)
  | .resume c id =>
    if (s.calls c).isSome then none
    else
      let done := resume a.env s.manager id
      some ((s.withManager done.2).reply c (Reply.of .resumed done.1))
  | .abort c id =>
    if (s.calls c).isSome then none
    else
      let done := abort a.env s.manager id
      some ((s.withManager done.2).reply c (Reply.of (fun _ => .aborted) done.1))
  | .pauseAll => some (s.withManager (pauseAll s.manager))
  | .sweepStale => some (s.withManager (sweepStale cfg a.env s.manager).2)

/-! ### What a step does to the table of transfers -/

/-- The in-place updates of one transfer. -/
inductive Edit
  | served (index len now : Nat)
  | rejected (totalChunks now : Nat)
  | received (index len now : Nat)
  | hashed (actual : String)
  | mismatched
  | completed
  | resumed (now : Nat)
  | aborted

def Edit.apply : Edit → Transfer → Transfer
  | .served index len now => serveMark index len now
  | .rejected totalChunks now => rejectChunk cfg totalChunks now
  | .received index len now => receiveMark index len now
  | .hashed actual => fun t => { t with spec := { t.spec with fileHash := actual } }
  | .mismatched => setPhase hashMismatch
  | .completed => setPhase .complete
  | .resumed now => fun t => { t with progress := { t.progress with phase := .transferring, lastActivity := now } }
  | .aborted => setPhase .aborted

inductive Update
  | keep
  | insert (t : Transfer)
  | edit (id : String) (e : Edit)
  | pauseAll
  | sweep (now : Nat)

def Update.apply (table : Table String Transfer) : Update → Table String Transfer
  | .keep => table
  | .insert t => table.insert t.spec.transferId t
  | .edit id e => Table.modify id (e.apply cfg) table
  | .pauseAll => Table.mapValues pauseTransfer table
  | .sweep now => Table.keep (fun _ t => !stale cfg now t) table

/-- The update of the table that the next section of a call makes. -/
def Call.update (env : Env) : Call → Update
  | .downloadInsert t => .insert t
  | .uploadInsert plan id => .insert (uploadTransfer env plan id)
  | .serveProgress id index buf => .edit id (.served index buf.length env.now)
  | .receive r => match r.pc with
    | .reject => .edit r.id (.rejected r.ctx.totalChunks env.now)
    | .progress => .edit r.id (.received r.index r.data.length env.now)
    | .setHash actual => .edit r.id (.hashed actual)
    | .fail _ => .edit r.id .mismatched
    | .complete => .edit r.id .completed
    | _ => .keep
  | _ => .keep

/-- The update of the table that an action makes. -/
def update (s : State) (a : Action) : Update :=
  match a.move with
  | .advance c => ((s.calls c).map (Call.update a.env)).getD .keep
  | .resume _ id => if resumable s.manager id then .edit id (.resumed a.env.now) else .keep
  | .abort _ id => .edit id .aborted
  | .pauseAll => .pauseAll
  | .sweepStale => .sweep a.env.now
  | _ => .keep

variable {cfg sha256}

theorem advanceReceive_transfers (s : State) (env : Env) (c : Nat) (r : Receiving) :
    (advanceReceive cfg sha256 s env c r).manager.transfers =
      ((Call.receive r).update env).apply cfg s.manager.transfers := by
  obtain ⟨id,index,data,ctx,pc⟩ := r
  cases pc with
  | reject => rfl
  | openTemp => simp only [advanceReceive]; split <;> rfl
  | write ino =>
    have same := receiveWrite_transfers env s.manager id ctx ino data
    simp only [advanceReceive]
    split <;> exact same
  | progress =>
    have marked := receiveProgress_transfers env s.manager id index data.length
    simp only [advanceReceive]
    split <;> exact marked
  | hash =>
    simp only [advanceReceive]
    split
    · rfl
    · split_ifs <;> rfl
  | setHash actual => rfl
  | discard actual => exact removeFile_transfers env s.manager ctx.tempPath
  | fail actual => rfl
  | chmod => exact finalizeChmod_transfers env s.manager ctx
  | rename =>
    simp only [advanceReceive]
    split
    · rfl
    · next renamed => obtain ⟨disk,_,rfl⟩ := finalizeRename_ok renamed; rfl
  | cleanup e => exact removeFile_transfers env s.manager ctx.tempPath
  | complete => rfl

theorem advance_transfers {s t : State} {env : Env} {c : Nat} {call : Call}
    (advanced : advance cfg sha256 s env c call = some t) :
    t.manager.transfers = (call.update env).apply cfg s.manager.transfers := by
  cases call with
  | downloadHash plan =>
    simp only [advance] at advanced
    split at advanced
    · cases advanced
    · split at advanced
      · cases advanced; rfl
      · split_ifs at advanced; cases advanced; rfl
  | downloadInsert transfer => cases advanced; rfl
  | uploadCreate plan =>
    simp only [advance] at advanced
    split_ifs at advanced
    split at advanced
    · cases advanced; rfl
    · next made => cases advanced; rw [(uploadCreate_ok made).2]; rfl
  | uploadSetLen plan id ino =>
    have same := uploadSetLen_transfers env s.manager plan id ino
    simp only [advance] at advanced
    split at advanced <;> (cases advanced; exact same)
  | uploadInsert plan id => cases advanced; rfl
  | serveOpen id index ctx => simp only [advance] at advanced; split at advanced <;> (cases advanced; rfl)
  | serveRead id index ctx ino => simp only [advance] at advanced; split at advanced <;> (cases advanced; rfl)
  | serveProgress id index buf => cases advanced; rfl
  | receive r => cases advanced; exact advanceReceive_transfers s env c r

/-- The table after a step is the table before it under the step's update. -/
theorem step_transfers {s t : State} {a : Action} (stepped : step cfg sha256 s a = some t) :
    t.manager.transfers = (update s a).apply cfg s.manager.transfers := by
  obtain ⟨env,move⟩ := a
  cases move with
  | advance c =>
    obtain ⟨call,found,advanced⟩ := Option.bind_eq_some_iff.mp stepped
    simp only [update,found,Option.map_some,Option.getD_some]
    exact advance_transfers advanced
  | resume c id =>
    simp only [step] at stepped
    split_ifs at stepped
    cases stepped
    simp only [reply_manager,withManager_manager,resume_transfers,update]
    split <;> rfl
  | abort c id =>
    simp only [step] at stepped
    split_ifs at stepped
    cases stepped
    exact abort_transfers env s.manager id
  | pauseAll => cases stepped; rfl
  | sweepStale => cases stepped; exact sweepStale_transfers cfg env s.manager
  | initDownload c path chunkSize =>
    simp only [step] at stepped
    split_ifs at stepped
    split at stepped <;> (cases stepped; rfl)
  | initUpload c req =>
    simp only [step] at stepped
    split_ifs at stepped
    split at stepped <;> (cases stepped; rfl)
  | serveChunk c id index =>
    simp only [step] at stepped
    split_ifs at stepped
    split at stepped <;> (cases stepped; rfl)
  | receiveChunk c id index chunkHash data =>
    simp only [step] at stepped
    split at stepped
    · cases stepped
    · split at stepped <;> (cases stepped; rfl)

/-- Which step makes an edit, and what it found. -/
inductive EditOrigin (s : State) (a : Action) : String → Edit → Prop
  | served {c index : Nat} {id : String} {buf : Bytes} :
      a.move = .advance c → s.calls c = some (.serveProgress id index buf) →
      EditOrigin s a id (.served index buf.length a.env.now)
  | rejected {c : Nat} {r : Receiving} :
      a.move = .advance c → s.calls c = some (.receive r) → r.pc = .reject →
      EditOrigin s a r.id (.rejected r.ctx.totalChunks a.env.now)
  | received {c : Nat} {r : Receiving} :
      a.move = .advance c → s.calls c = some (.receive r) → r.pc = .progress →
      EditOrigin s a r.id (.received r.index r.data.length a.env.now)
  | hashed {c : Nat} {r : Receiving} {actual : String} :
      a.move = .advance c → s.calls c = some (.receive r) → r.pc = .setHash actual → EditOrigin s a r.id (.hashed actual)
  | mismatched {c : Nat} {r : Receiving} {actual : String} :
      a.move = .advance c → s.calls c = some (.receive r) → r.pc = .fail actual → EditOrigin s a r.id .mismatched
  | completed {c : Nat} {r : Receiving} :
      a.move = .advance c → s.calls c = some (.receive r) → r.pc = .complete → EditOrigin s a r.id .completed
  | resumed {id : String} {t : Transfer} :
      s.manager.transfers.lookup id = some t → t.progress.phase = .paused ∨ t.progress.phase = .transferring →
      EditOrigin s a id (.resumed a.env.now)
  | aborted {c : Nat} {id : String} : a.move = .abort c id → EditOrigin s a id .aborted

theorem edit_origin {s : State} {a : Action} {id : String} {e : Edit} (made : update s a = .edit id e) :
    EditOrigin s a id e := by
  obtain ⟨env,move⟩ := a
  cases move with
  | advance c =>
    cases found : s.calls c with
    | none => simp [update,found] at made
    | some call =>
      simp only [update,found,Option.map_some,Option.getD_some] at made
      cases call with
      | serveProgress id' index buf => cases made; exact .served rfl found
      | receive r =>
        simp only [Call.update] at made
        split at made <;> cases made
        · next pc => exact .rejected rfl found pc
        · next pc => exact .received rfl found pc
        · next pc => exact .hashed rfl found pc
        · next pc => exact .mismatched rfl found pc
        · next pc => exact .completed rfl found pc
      | _ => cases made
  | resume c id' =>
    simp only [update] at made
    split_ifs at made with may
    cases made
    unfold resumable at may
    split at may
    · next t found => exact .resumed found (by simpa using may)
    · cases may
  | abort c id' => cases made; exact .aborted rfl
  | _ => cases made

/-! ### What a step does to the calls in flight -/

/-- The slot of the call that an action starts or advances. -/
def Move.slot : Move → Option Nat
  | .initDownload c _ _ => some c
  | .initUpload c _ => some c
  | .serveChunk c _ _ => some c
  | .receiveChunk c _ _ _ _ => some c
  | .advance c => some c
  | .resume c _ => some c
  | .abort c _ => some c
  | .pauseAll => none
  | .sweepStale => none

variable (cfg sha256)

/-- Where the call in a slot after a step comes from: it was there, a check of
    the step's move let it start, or the call in the slot went one section on. -/
inductive CallOrigin (s t : State) (a : Action) (c : Nat) : Call → Prop
  | kept {call : Call} : s.calls c = some call → a.move.slot ≠ some c → CallOrigin s t a c call
  | downloadHash {path : String} {chunkSize : Option Nat} {plan : DownloadPlan} :
      a.move = .initDownload c path chunkSize → initDownloadCheck cfg a.env s.manager path chunkSize = .ok plan →
      CallOrigin s t a c (.downloadHash plan)
  | downloadInsert {plan : DownloadPlan} {totalChunks : Nat} {fileHash : String} :
      s.calls c = some (.downloadHash plan) → a.env.uuid ∉ s.issued → a.env.uuid ∈ t.issued →
      CallOrigin s t a c (.downloadInsert (downloadTransfer a.env plan totalChunks fileHash))
  | uploadCreate {req : InitUpload} {plan : UploadPlan} :
      a.move = .initUpload c req → initUploadCheck cfg a.env s.manager req = .ok plan →
      CallOrigin s t a c (.uploadCreate plan)
  | uploadSetLen {plan : UploadPlan} {ino : Nat} {created : Manager} :
      s.calls c = some (.uploadCreate plan) → s.fresh a.env.uuid (plan.tempPath a.env.uuid) = true →
      uploadCreate a.env s.manager plan = .ok (ino,created) → t.manager = created → a.env.uuid ∈ t.issued →
      .created a.env.uuid (plan.tempPath a.env.uuid) ino ∈ t.trace →
      CallOrigin s t a c (.uploadSetLen plan a.env.uuid ino)
  | uploadInsert {plan : UploadPlan} {id : String} {ino : Nat} :
      s.calls c = some (.uploadSetLen plan id ino) → a.env.io = none →
      t.manager = (uploadSetLen a.env s.manager plan id ino).2 → CallOrigin s t a c (.uploadInsert plan id)
  | serveOpen {id : String} {index : Nat} {ctx : ServeContext} :
      a.move = .serveChunk c id index → serveCheck a.env s.manager id index = .ok ctx →
      CallOrigin s t a c (.serveOpen id index ctx)
  | serveRead {id : String} {index : Nat} {ctx : ServeContext} {ino : Nat} :
      s.calls c = some (.serveOpen id index ctx) → CallOrigin s t a c (.serveRead id index ctx ino)
  | serveProgress {id : String} {index : Nat} {ctx : ServeContext} {ino : Nat} {buf : Bytes} :
      s.calls c = some (.serveRead id index ctx ino) → serveRead a.env s.manager id ctx ino = .ok buf →
      CallOrigin s t a c (.serveProgress id index buf)
  | receive {id : String} {index : Nat} {chunkHash : String} {data : Bytes} {ctx : ReceiveContext} {pc : ReceivePc} :
      a.move = .receiveChunk c id index chunkHash data → receiveCheck s.manager id index = .ok ctx →
      pc = (if sha256 data ≠ chunkHash then .reject else .openTemp) → t = s.park c (.receive ⟨id,index,data,ctx,pc⟩) →
      CallOrigin s t a c (.receive ⟨id,index,data,ctx,pc⟩)
  | received {r : Receiving} {pc : ReceivePc} :
      a.move = .advance c → s.calls c = some (.receive r) → t = advanceReceive cfg sha256 s a.env c r →
      CallOrigin s t a c (.receive { r with pc := pc })

variable {cfg sha256}

/-- The id under which a call is going to insert a transfer. -/
def Call.pendingId : Call → Option String
  | .downloadInsert t => some t.spec.transferId
  | .uploadSetLen _ id _ => some id
  | .uploadInsert _ id => some id
  | _ => none

theorem advanceReceive_calls (s : State) (env : Env) (c : Nat) (r : Receiving) :
    ∃ next : Option ReceivePc, (advanceReceive cfg sha256 s env c r).calls =
      Function.update s.calls c (next.map fun pc => .receive { r with pc := pc }) := by
  obtain ⟨id,index,data,ctx,pc⟩ := r
  have parked (t : State) (pc : ReceivePc) (calls : t.calls = s.calls) :
      ∃ next : Option ReceivePc, (t.park c (.receive ⟨id,index,data,ctx,pc⟩)).calls =
        Function.update s.calls c (next.map fun pc => .receive ⟨id,index,data,ctx,pc⟩) := ⟨some pc,by simp [calls]⟩
  have replied (t : State) (x : Reply) (calls : t.calls = s.calls) :
      ∃ next : Option ReceivePc, (t.reply c x).calls =
        Function.update s.calls c (next.map fun pc => .receive ⟨id,index,data,ctx,pc⟩) := ⟨none,by simp [calls]⟩
  cases pc with
  | reject => exact replied _ _ rfl
  | openTemp =>
    simp only [advanceReceive]
    split
    · exact replied _ _ rfl
    · exact parked _ _ rfl
  | write ino =>
    simp only [advanceReceive]
    split
    · exact replied _ _ rfl
    · exact parked _ _ rfl
  | progress =>
    simp only [advanceReceive]
    split
    · exact replied _ _ rfl
    · exact replied _ _ rfl
    · exact parked _ _ rfl
  | hash =>
    simp only [advanceReceive]
    split
    · exact replied _ _ rfl
    · split_ifs <;> exact parked _ _ rfl
  | setHash actual => exact parked _ _ rfl
  | discard actual => exact parked _ _ rfl
  | fail actual => exact replied _ _ rfl
  | chmod => exact parked _ _ rfl
  | rename =>
    simp only [advanceReceive]
    split
    · exact parked _ _ rfl
    · exact parked _ _ rfl
  | cleanup e => exact replied _ _ rfl
  | complete => exact replied _ _ rfl

theorem advance_calls {s t : State} {env : Env} {c : Nat} {call : Call}
    (advanced : advance cfg sha256 s env c call = some t) : ∃ next, t.calls = Function.update s.calls c next := by
  cases call with
  | downloadHash plan =>
    simp only [advance] at advanced
    split at advanced
    · cases advanced
    · split at advanced
      · cases advanced; exact ⟨_,rfl⟩
      · split_ifs at advanced; cases advanced; exact ⟨_,rfl⟩
  | downloadInsert transfer => cases advanced; exact ⟨_,rfl⟩
  | uploadCreate plan =>
    simp only [advance] at advanced
    split_ifs at advanced
    split at advanced <;> (cases advanced; exact ⟨_,rfl⟩)
  | uploadSetLen plan id ino => simp only [advance] at advanced; split at advanced <;> (cases advanced; exact ⟨_,rfl⟩)
  | uploadInsert plan id => cases advanced; exact ⟨_,rfl⟩
  | serveOpen id index ctx => simp only [advance] at advanced; split at advanced <;> (cases advanced; exact ⟨_,rfl⟩)
  | serveRead id index ctx ino => simp only [advance] at advanced; split at advanced <;> (cases advanced; exact ⟨_,rfl⟩)
  | serveProgress id index buf => cases advanced; exact ⟨_,rfl⟩
  | receive r =>
    cases advanced
    obtain ⟨next,calls⟩ := @advanceReceive_calls cfg sha256 s env c r
    exact ⟨_,calls⟩

/-- Every slot but the action's is untouched. -/
theorem step_calls_other {s t : State} {a : Action} {c : Nat} (stepped : step cfg sha256 s a = some t)
    (other : a.move.slot ≠ some c) : t.calls c = s.calls c := by
  obtain ⟨env,move⟩ := a
  have apart {c' : Nat} {next : Option Call} (slot : Move.slot move = some c')
      (calls : t.calls = Function.update s.calls c' next) : t.calls c = s.calls c := by
    have differs : c ≠ c' := fun same => other (same ▸ slot)
    rw [calls,Function.update_of_ne differs]
  cases move with
  | pauseAll => cases stepped; rfl
  | sweepStale => cases stepped; rfl
  | advance c' =>
    obtain ⟨call,_,advanced⟩ := Option.bind_eq_some_iff.mp stepped
    obtain ⟨next,calls⟩ := advance_calls advanced
    exact apart rfl calls
  | resume c' id =>
    simp only [step] at stepped
    split_ifs at stepped; cases stepped; exact apart rfl rfl
  | abort c' id =>
    simp only [step] at stepped
    split_ifs at stepped; cases stepped; exact apart rfl rfl
  | initDownload c' path chunkSize =>
    simp only [step] at stepped
    split_ifs at stepped
    split at stepped <;> (cases stepped; exact apart rfl rfl)
  | initUpload c' req =>
    simp only [step] at stepped
    split_ifs at stepped
    split at stepped <;> (cases stepped; exact apart rfl rfl)
  | serveChunk c' id index =>
    simp only [step] at stepped
    split_ifs at stepped
    split at stepped <;> (cases stepped; exact apart rfl rfl)
  | receiveChunk c' id index chunkHash data =>
    simp only [step] at stepped
    split at stepped
    · cases stepped
    · split at stepped <;> (cases stepped; exact apart rfl rfl)

/-- A slot in use only goes on with its call. -/
theorem occupied_advance {s t : State} {a : Action} {c : Nat} {call : Call} (stepped : step cfg sha256 s a = some t)
    (slot : a.move.slot = some c) (found : s.calls c = some call) :
    a.move = .advance c ∧ advance cfg sha256 s a.env c call = some t := by
  obtain ⟨env,move⟩ := a
  cases move with
  | advance c' => cases slot; exact ⟨rfl,by simpa [step,found] using stepped⟩
  | pauseAll => cases slot
  | sweepStale => cases slot
  | _ => cases slot; simp [step,found] at stepped

theorem run_calls_other {as : List Action} {s t : State} {c : Nat} (other : ∀ a ∈ as, a.move.slot ≠ some c)
    (ran : run (step cfg sha256) s as = some t) : t.calls c = s.calls c := by
  induction as generalizing s with
  | nil => cases ran; rfl
  | cons a rest ih =>
    obtain ⟨m,stepped,after⟩ := run_cons_iff.mp ran
    rw [ih (fun b member => other b (List.mem_cons_of_mem a member)) after]
    exact step_calls_other stepped (other a List.mem_cons_self)

theorem replied_none {t : State} {c : Nat} {r : Reply} {call : Call} : ¬ (t.reply c r).calls c = some call := by
  simp

theorem parked_call {t : State} {c : Nat} {made call : Call} (there : (t.park c made).calls c = some call) :
    made = call := by
  simpa using there

theorem advance_call {s t : State} {env : Env} {c : Nat} {call next : Call} (found : s.calls c = some call)
    (advanced : advance cfg sha256 s env c call = some t) (there : t.calls c = some next) :
    CallOrigin cfg sha256 s t ⟨env,.advance c⟩ c next := by
  cases call with
  | downloadHash plan =>
    simp only [advance] at advanced
    split at advanced
    · cases advanced
    · split at advanced
      · cases advanced; exact absurd there replied_none
      · split_ifs at advanced with used
        cases advanced
        cases parked_call there
        exact .downloadInsert found (by simpa using used) (by simp)
  | downloadInsert transfer => cases advanced; exact absurd there replied_none
  | uploadCreate plan =>
    simp only [advance] at advanced
    split_ifs at advanced with fresh
    split at advanced
    · cases advanced; exact absurd there replied_none
    · next made =>
      cases advanced
      cases parked_call there
      exact .uploadSetLen found fresh made rfl (by simp) (by simp)
  | uploadSetLen plan id ino =>
    simp only [advance,uploadSetLen] at advanced
    cases fault : env.io with
    | some e =>
      simp only [fault] at advanced
      cases advanced; exact absurd there replied_none
    | none =>
      simp only [fault] at advanced
      cases advanced
      cases parked_call there
      exact .uploadInsert found fault (by simp [uploadSetLen,fault])
  | uploadInsert plan id => cases advanced; exact absurd there replied_none
  | serveOpen id index ctx =>
    simp only [advance] at advanced
    split at advanced <;> cases advanced
    · exact absurd there replied_none
    · cases parked_call there; exact .serveRead found
  | serveRead id index ctx ino =>
    simp only [advance] at advanced
    split at advanced <;> cases advanced
    · exact absurd there replied_none
    · next read => cases parked_call there; exact .serveProgress found read
  | serveProgress id index buf => cases advanced; exact absurd there replied_none
  | receive r =>
    obtain ⟨pc,calls⟩ := @advanceReceive_calls cfg sha256 s env c r
    cases advanced
    rw [calls,Function.update_self] at there
    cases pc with
    | none => cases there
    | some pc => cases there; exact .received rfl found rfl

/-- Where the call in a slot comes from. -/
theorem step_call {s t : State} {a : Action} {c : Nat} {call : Call} (stepped : step cfg sha256 s a = some t)
    (there : t.calls c = some call) : CallOrigin cfg sha256 s t a c call := by
  by_cases slot : a.move.slot = some c
  · obtain ⟨env,move⟩ := a
    cases move with
    | pauseAll => cases slot
    | sweepStale => cases slot
    | advance c' =>
      cases slot
      obtain ⟨before,found,advanced⟩ := Option.bind_eq_some_iff.mp stepped
      exact advance_call found advanced there
    | resume c' id =>
      cases slot
      simp only [step] at stepped
      split_ifs at stepped; cases stepped; exact absurd there replied_none
    | abort c' id =>
      cases slot
      simp only [step] at stepped
      split_ifs at stepped; cases stepped; exact absurd there replied_none
    | initDownload c' path chunkSize =>
      cases slot
      simp only [step] at stepped
      split_ifs at stepped
      split at stepped <;> cases stepped
      · exact absurd there replied_none
      · next checked => cases parked_call there; exact .downloadHash rfl checked
    | initUpload c' req =>
      cases slot
      simp only [step] at stepped
      split_ifs at stepped
      split at stepped <;> cases stepped
      · exact absurd there replied_none
      · next checked => cases parked_call there; exact .uploadCreate rfl checked
    | serveChunk c' id index =>
      cases slot
      simp only [step] at stepped
      split_ifs at stepped
      split at stepped <;> cases stepped
      · exact absurd there replied_none
      · next checked => cases parked_call there; exact .serveOpen rfl checked
    | receiveChunk c' id index chunkHash data =>
      cases slot
      simp only [step] at stepped
      split at stepped
      · cases stepped
      · split at stepped <;> cases stepped
        · exact absurd there replied_none
        · next checked => cases parked_call there; exact .receive rfl checked rfl rfl
  · exact .kept ((step_calls_other stepped slot).symm.trans there) slot

/-! ### Small runs -/

/-- A disk with the directories `/` and `/d` and the empty file `/a`. -/
def smallDisk : Disk PathBuf := ((Disk.empty fun p => p = [] ∨ p = ["d"]).create ["a"] 0).1

/-- Slot `c` admits an upload of one byte to `/`. -/
def admitUpload (c : Nat) (id filename fileHash : String) : List Action :=
  ⟨.calm 0 id,.initUpload c ⟨"/",filename,1,fileHash,1024,1,none⟩⟩ :: List.replicate 3 ⟨.calm 0 id,.advance c⟩

/-- Slot `c` starts to receive the only chunk of such an upload. -/
def sendChunk (c : Nat) (id chunkHash : String) (data : Bytes) : Action :=
  ⟨.calm 0 "",.receiveChunk c id 0 chunkHash data⟩

def goOn (c sections : Nat) : List Action := List.replicate sections ⟨.calm 0 "",.advance c⟩

end Sctl.TransferSteps
