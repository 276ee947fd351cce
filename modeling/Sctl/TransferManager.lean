import Sctl.Tables
import Sctl.TransferTypes

/-!
`TransferManager`: the transfers it owns and the files it writes. Every method
of the source is cut at its locks and its file operations into sections; each
section is one definition here, and the methods are these sections in the
source's order. Methods keep what they did before they fail, so they answer a
result together with the manager they leave. Broadcasts, log lines and the
activity log are not part of the model, and SHA-256 is any function.
-/
namespace Sctl.TransferManager
open Sctl.Files Sctl.TransferTypes

structure Manager where
  transfers : Table String Transfer
  disk : Disk PathBuf

/-- What the outside decides in a call: the clocks (`now` for `Instant`, in
    nanoseconds, `clock` for the file system, in seconds), the next UUID, the
    free space and which file operation reports an error. -/
structure Env where
  now : Nat
  clock : Nat
  uuid : String
  available : Option Nat
  stat : Option IoError
  openFile : Option IoError
  seek : Option IoError
  io : Option IoError
  sync : Option IoError
  hash : Option IoError
  chmod : Option IoError
  rename : Option IoError
  unlink : Option IoError

/-- Nothing fails. -/
def Env.calm (now : Nat) (uuid : String) : Env :=
  ⟨now,0,uuid,none,none,none,none,none,none,none,none,none,none⟩

/-- A digest without collisions, to run the manager on small inputs. -/
def plainDigest (content : Bytes) : String := String.ofList (content.map fun b => Char.ofNat b.toNat)

variable (cfg : TransferConfig) (sha256 : Bytes → String) (env : Env) (m : Manager)

/-- One transfer rewritten, if it is still there (`get_mut`). -/
def Manager.modify (id : String) (f : Transfer → Transfer) : Manager :=
  { m with transfers := Table.modify id f m.transfers }

/-! ### File operations -/

def statFile (path : PathBuf) : Except IoError File :=
  match env.stat with
  | some e => .error e
  | none => match m.disk.file? path with
    | some f => .ok f
    | none => .error .missing

/-- Open an existing file, as `File::open` and `OpenOptions::write` do. -/
def openExisting (path : PathBuf) : Except IoError Nat :=
  match env.openFile with
  | some e => .error e
  | none => match m.disk.names path with
    | some ino => .ok ino
    | none => .error .missing

/-- `hasher::hash_file`. -/
def hashFile (path : PathBuf) : Except IoError String :=
  match env.hash with
  | some e => .error e
  | none => match m.disk.file? path with
    | some f => .ok (sha256 f.content)
    | none => .error .missing

/-- `remove_file` with its result ignored. -/
def removeFile (path : PathBuf) : Manager :=
  match env.unlink with
  | some _ => m
  | none => { m with disk := m.disk.remove path }

/-! ### Admission -/

def activeCount : Nat := m.transfers.count fun t => t.progress.phase.active

def limitError : TransferError :=
  makeError "" "MAX_TRANSFERS" s!"Concurrent transfer limit reached (max {cfg.maxConcurrent})" true

def tooLarge (fileSize : Nat) : TransferError :=
  makeError "" "FILE_TOO_LARGE" s!"File too large ({fileSize} bytes, max {cfg.maxFileSize})" false

structure DownloadPlan where
  path : PathBuf
  fileSize : Nat
  chunkSize : Nat
  sourceMtime : Option Nat
deriving DecidableEq

/-- `init_download` up to and with its limit check under the read lock. -/
def initDownloadCheck (path : String) (chunkSize : Option Nat) : Except TransferError DownloadPlan := do
  let validated ← validateTransferPath path
  if m.disk.dirs validated && env.stat.isNone then
    throw (makeError "" "INVALID_PATH" "Path is a directory" false)
  let file ← (statFile env m validated).mapError (statError "File not found")
  let fileSize := file.content.length
  if cfg.maxFileSize < fileSize then throw (tooLarge cfg fileSize)
  if cfg.maxConcurrent ≤ activeCount m then throw (limitError cfg)
  return ⟨validated,fileSize,chunkSize.getD cfg.chunkSize,some file.mtime⟩

/-- The transfer of a download; `init_download` inserts it under the write lock. -/
def downloadTransfer (plan : DownloadPlan) (totalChunks : Nat) (fileHash : String) : Transfer where
  spec := ⟨env.uuid,.download,plan.path,downloadName plan.path,plan.fileSize,fileHash,plan.chunkSize,totalChunks,
    none,env.now,plan.sourceMtime⟩
  progress := ⟨.transferring,List.replicate totalChunks false,0,env.now,[],0⟩

structure UploadPlan where
  dirPath : PathBuf
  filename : String
  fileSize : Nat
  fileHash : String
  chunkSize : Nat
  totalChunks : Nat
  mode : Option String
deriving DecidableEq

/-- `init_upload` up to the creation of the temporary file. -/
def initUploadCheck (req : InitUpload) : Except TransferError UploadPlan := do
  let dirPath ← validateTransferPath req.path
  match env.stat with
  | some e => throw (statError "Directory not found" e)
  | none => pure ()
  if !m.disk.dirs dirPath then
    if (m.disk.names dirPath).isNone then throw (statError "Directory not found" .missing)
    throw (makeError "" "INVALID_PATH" "Target path is not a directory" false)
  if invalidFilename req.filename then
    throw (makeError "" "INVALID_PATH" s!"Invalid filename: {req.filename}" false)
  if cfg.maxFileSize < req.fileSize then throw (tooLarge cfg req.fileSize)
  if cfg.maxConcurrent ≤ activeCount m then throw (limitError cfg)
  checkDiskSpace env.available req.fileSize
  let chunkSize := max req.chunkSize 1024
  let totalChunks := (computeChunks req.fileSize chunkSize).getD 0
  if req.totalChunks ≠ totalChunks then
    throw (makeError "" "INVALID_REQUEST"
      s!"Chunk count mismatch: client sent {req.totalChunks}, expected {totalChunks}" false)
  return ⟨dirPath,req.filename,req.fileSize,req.fileHash,chunkSize,totalChunks,req.mode⟩

def UploadPlan.tempPath (plan : UploadPlan) (id : String) : PathBuf := join plan.dirPath (tempName id)

/-- `File::create` of the temporary file. -/
def uploadCreate (plan : UploadPlan) : Except TransferError (Nat × Manager) :=
  let tempPath := plan.tempPath env.uuid
  match env.openFile with
  | some e => .error (ioError "" "Failed to create temp file" e)
  | none =>
    if m.disk.dirs tempPath then .error (ioError "" "Failed to create temp file" .isDirectory)
    else
      let created := m.disk.create tempPath env.clock
      .ok (created.2,{ m with disk := created.1 })

/-- `set_len` of the temporary file, which is removed again when that fails. -/
def uploadSetLen (plan : UploadPlan) (id : String) (ino : Nat) : Except TransferError Unit × Manager :=
  match env.io with
  | some e =>
    (.error (makeError "" "DISK_FULL" s!"Failed to pre-allocate {plan.fileSize}: {e.text}" false),
      removeFile env m (plan.tempPath id))
  | none =>
    (.ok (),{ m with disk := m.disk.update ino fun f => { f with content := setLen f.content plan.fileSize } })

/-- The transfer of an upload; `init_upload` inserts it under the write lock. -/
def uploadTransfer (plan : UploadPlan) (id : String) : Transfer where
  spec := ⟨id,.upload,plan.dirPath,plan.filename,plan.fileSize,plan.fileHash,plan.chunkSize,plan.totalChunks,
    plan.mode,env.now,none⟩
  progress := ⟨.transferring,List.replicate plan.totalChunks false,0,env.now,plan.tempPath id,0⟩

def insertTransfer (transfer : Transfer) : Manager :=
  { m with transfers := m.transfers.insert transfer.spec.transferId transfer }

/-! ### Serving chunks -/

structure ServeContext where
  offset : Nat
  chunkLen : Nat
  sourcePath : PathBuf
deriving DecidableEq

/-- The source has another modification time than at `init_download`; a source
    whose metadata cannot be read passes. -/
def sourceChanged (spec : TransferSpec) : Bool :=
  match spec.sourceMtime,statFile env m spec.path with
  | some original,.ok file => file.mtime != original
  | _,_ => false

/-- `serve_chunk` under the read lock. -/
def serveCheck (id : String) (index : Nat) : Except TransferError ServeContext :=
  match m.transfers.lookup id with
  | none => .error (notFoundError id)
  | some t =>
    if t.spec.direction ≠ .download then .error (makeError id "INVALID_REQUEST" "Not a download transfer" false)
    else if ¬ (t.progress.phase = .transferring ∨ t.progress.phase = .paused) then
      .error (makeError id "INVALID_REQUEST"
        s!"Transfer in phase \"{t.progress.phase.asStr}\", cannot serve chunks" false)
    else if t.spec.totalChunks ≤ index then
      .error (makeError id "INVALID_REQUEST"
        s!"Chunk index {index} out of range (total {t.spec.totalChunks})" false)
    else if sourceChanged env m t.spec then
      .error (makeError id "FILE_CHANGED" "Source file modified during transfer" false)
    else .ok ⟨index * t.spec.chunkSize,chunkLen t.spec.fileSize t.spec.chunkSize index,t.spec.path⟩

def serveOpen (id : String) (ctx : ServeContext) : Except TransferError Nat :=
  (openExisting env m ctx.sourcePath).mapError (ioError id "Failed to open source")

/-- `seek` and `read_exact` on the open source. -/
def serveRead (id : String) (ctx : ServeContext) (ino : Nat) : Except TransferError Bytes :=
  match env.seek,env.io with
  | some e,_ => .error (ioError id "Seek failed" e)
  | none,some e => .error (ioError id "Read failed" e)
  | none,none =>
    let buf := slice (m.disk.files ino).content ctx.offset ctx.chunkLen
    if buf.length < ctx.chunkLen then .error (ioError id "Read failed" .shortRead) else .ok buf

def Transfer.allDone (t : Transfer) : Bool := t.progress.chunksDone.all id

/-- A chunk marked as done. -/
def markChunk (index len now : Nat) (t : Transfer) : Transfer :=
  { t with progress := { t.progress with
      chunksDone := t.progress.chunksDone.set index true
      bytesTransferred := t.progress.bytesTransferred + len
      lastActivity := now } }

def setPhase (phase : Phase) (t : Transfer) : Transfer := { t with progress := { t.progress with phase := phase } }

/-- A served chunk marked; the last one completes the download. -/
def serveMark (index len now : Nat) (t : Transfer) : Transfer :=
  let marked := markChunk index len now t
  if Transfer.allDone marked then setPhase .complete marked else marked

def serveProgress (id : String) (index len : Nat) : Manager := m.modify id (serveMark index len env.now)

/-! ### Receiving chunks -/

structure ReceiveContext where
  offset : Nat
  chunkSize : Nat
  tempPath : PathBuf
  totalChunks : Nat
  fileHash : String
  fileSize : Nat
  finalPath : PathBuf
  mode : Option String
deriving DecidableEq

/-- `receive_chunk` under the read lock. The chunk size is read and not used. -/
def receiveCheck (id : String) (index : Nat) : Except TransferError ReceiveContext :=
  match m.transfers.lookup id with
  | none => .error (notFoundError id)
  | some t =>
    if t.spec.direction ≠ .upload then .error (makeError id "INVALID_REQUEST" "Not an upload transfer" false)
    else if t.progress.phase ≠ .transferring then
      .error (makeError id "INVALID_REQUEST"
        s!"Transfer in phase {t.progress.phase.asStr}, cannot receive chunks" false)
    else if t.spec.totalChunks ≤ index then
      .error (makeError id "INVALID_REQUEST"
        s!"Chunk index {index} out of range (total {t.spec.totalChunks})" false)
    else .ok ⟨index * t.spec.chunkSize,t.spec.chunkSize,t.progress.tempPath,t.spec.totalChunks,t.spec.fileHash,
      t.spec.fileSize,join t.spec.path t.spec.filename,t.spec.mode⟩

def tooManyErrors : Phase := .failed "Too many chunk errors"

/-- One more bad chunk; `u32` products and counters wrap. -/
def rejectChunk (totalChunks now : Nat) (t : Transfer) : Transfer :=
  let counted := { t with progress := { t.progress with
    errorCount := (t.progress.errorCount + 1) % 2 ^ 32, lastActivity := now } }
  if cfg.maxChunkRetries * totalChunks % 2 ^ 32 ≤ counted.progress.errorCount then setPhase tooManyErrors counted
  else counted

def receiveReject (id : String) (ctx : ReceiveContext) : Manager :=
  m.modify id (rejectChunk cfg ctx.totalChunks env.now)

def receiveOpen (id : String) (ctx : ReceiveContext) : Except TransferError Nat :=
  (openExisting env m ctx.tempPath).mapError (ioError id "Failed to open temp file")

/-- `seek`, `write_all` and `sync_data` on the open temporary file. -/
def receiveWrite (id : String) (ctx : ReceiveContext) (ino : Nat) (data : Bytes) :
    Except TransferError Unit × Manager :=
  match env.seek,env.io with
  | some e,_ => (.error (ioError id "Seek failed" e),m)
  | none,some e => (.error (ioError id "Write failed" e),m)
  | none,none =>
    let written := { m with disk := m.disk.update ino fun f =>
      { f with content := writeAt f.content ctx.offset data, mtime := env.clock } }
    match env.sync with
    | some e => (.error (ioError id "Sync failed" e),written)
    | none => (.ok (),written)

/-- A received chunk marked; the last one starts verification. -/
def receiveMark (index len now : Nat) (t : Transfer) : Transfer :=
  let marked := markChunk index len now t
  if Transfer.allDone marked then setPhase .verifying marked else marked

/-- The progress update of `receive_chunk`, and whether all chunks are there. -/
def receiveProgress (id : String) (index len : Nat) : Except TransferError Bool × Manager :=
  match m.transfers.lookup id with
  | none => (.error (notFoundError id),m)
  | some t => (.ok (Transfer.allDone (markChunk index len env.now t)),m.modify id (receiveMark index len env.now))

/-! ### Finalizing an upload -/

def hashMismatch : Phase := .failed "Whole-file hash mismatch after all chunks received"

def finalizeHash (id : String) (ctx : ReceiveContext) : Except TransferError String :=
  (hashFile sha256 env m ctx.tempPath).mapError (ioError id "Hash verification failed")

def finalizeSetHash (id actual : String) : Manager :=
  m.modify id fun t => { t with spec := { t.spec with fileHash := actual } }

def finalizeFail (id : String) : Manager := m.modify id (setPhase hashMismatch)

def octalDigit? (c : Char) : Option Nat := if '0' ≤ c ∧ c ≤ '7' then some (c.toNat - '0'.toNat) else none

/-- `u32::from_str_radix(_, 8)`. -/
def fromOctal? (text : String) : Option Nat :=
  let digits := if text.toList.head? = some '+' then text.toList.drop 1 else text.toList
  match digits with
  | [] => none
  | _ => do
    let value ← digits.foldlM (fun acc c => (octalDigit? c).map (acc * 8 + ·)) 0
    if value < 2 ^ 32 then some value else none

def finalizeChmod (ctx : ReceiveContext) : Manager :=
  match ctx.mode.bind fromOctal?,env.chmod,m.disk.names ctx.tempPath with
  | some bits,none,some ino => { m with disk := m.disk.update ino fun f => { f with mode := some bits } }
  | _,_,_ => m

def finalizeRename (ctx : ReceiveContext) : Except IoError Manager :=
  match env.rename with
  | some e => .error e
  | none => match m.disk.rename ctx.tempPath ctx.finalPath with
    | some disk => .ok { m with disk := disk }
    | none => .error (if m.disk.dirs ctx.finalPath then .isDirectory else .missing)

def finalizeComplete (id : String) : Manager := m.modify id (setPhase .complete)

/-- `verify_and_finalize` once the hash is settled: permissions, the rename onto
    the final path and the `Complete` mark. A failed rename leaves the phase. -/
def finalizeMove (id : String) (ctx : ReceiveContext) : Except TransferError Unit × Manager :=
  let chmodded := finalizeChmod env m ctx
  match finalizeRename env chmodded ctx with
  | .error e => (.error (ioError id "Failed to finalize" e),removeFile env chmodded ctx.tempPath)
  | .ok moved => (.ok (),finalizeComplete moved id)

def mismatchError (id : String) (ctx : ReceiveContext) (actual : String) : TransferError :=
  makeError id "HASH_MISMATCH" s!"Expected {ctx.fileHash}, got {actual}" false

def verifyAndFinalize (id : String) (ctx : ReceiveContext) : Except TransferError Unit × Manager :=
  match finalizeHash sha256 env m id ctx with
  | .error e => (.error e,m)
  | .ok actual =>
    if ctx.fileHash = "" then finalizeMove env (finalizeSetHash m id actual) id ctx
    else if actual ≠ ctx.fileHash then
      (.error (mismatchError id ctx actual),finalizeFail (removeFile env m ctx.tempPath) id)
    else finalizeMove env m id ctx

/-! ### The chunk methods, undisturbed -/

def acceptedAck (id : String) (index : Nat) : ChunkAck := ⟨id,index,true,none⟩
def rejectedAck (id : String) (index : Nat) : ChunkAck := ⟨id,index,false,some "Chunk hash mismatch"⟩

/-- `receive_chunk`, with nothing in between its sections. -/
def receiveChunk (id : String) (index : Nat) (chunkHash : String) (data : Bytes) :
    Except TransferError ChunkAck × Manager :=
  match receiveCheck m id index with
  | .error e => (.error e,m)
  | .ok ctx =>
    if sha256 data ≠ chunkHash then (.ok (rejectedAck id index),receiveReject cfg env m id ctx)
    else match receiveOpen env m id ctx with
      | .error e => (.error e,m)
      | .ok ino => match receiveWrite env m id ctx ino data with
        | (.error e,written) => (.error e,written)
        | (.ok _,written) => match receiveProgress env written id index data.length with
          | (.error e,marked) => (.error e,marked)
          | (.ok false,marked) => (.ok (acceptedAck id index),marked)
          | (.ok true,marked) => match verifyAndFinalize sha256 env marked id ctx with
            | (.error e,final) => (.error e,final)
            | (.ok _,final) => (.ok (acceptedAck id index),final)

/-- `serve_chunk`, with nothing in between its sections. -/
def serveChunk (id : String) (index : Nat) : Except TransferError (ChunkHeader × Bytes) × Manager :=
  match serveCheck env m id index with
  | .error e => (.error e,m)
  | .ok ctx => match serveOpen env m id ctx with
    | .error e => (.error e,m)
    | .ok ino => match serveRead env m id ctx ino with
      | .error e => (.error e,m)
      | .ok buf => (.ok (⟨id,index,sha256 buf⟩,buf),serveProgress env m id index buf.length)

/-! ### The other methods -/

def resumable (id : String) : Bool :=
  match m.transfers.lookup id with
  | some t => t.progress.phase = .paused || t.progress.phase = .transferring
  | none => false

def resume (id : String) : Except TransferError ResumeResult × Manager :=
  match m.transfers.lookup id with
  | none => (.error (notFoundError id),m)
  | some t =>
    if t.progress.phase = .paused ∨ t.progress.phase = .transferring then
      (.ok ⟨id,t.spec.direction,
          (List.range t.progress.chunksDone.length).filter fun i => t.progress.chunksDone.getD i false,
          t.spec.totalChunks,t.spec.chunkSize,t.spec.fileSize,t.spec.fileHash⟩,
        m.modify id fun t => { t with progress := { t.progress with phase := .transferring, lastActivity := env.now } })
    else
      (.error (makeError id "INVALID_REQUEST" s!"Cannot resume transfer in phase {t.progress.phase.asStr}" false),m)

/-- `abort` marks the transfer and removes its temporary file under one lock. -/
def abort (id : String) : Except TransferError Unit × Manager :=
  match m.transfers.lookup id with
  | none => (.error (notFoundError id),m)
  | some t =>
    let marked := m.modify id (setPhase .aborted)
    (.ok (),if t.progress.tempPath.isEmpty then marked else removeFile env marked t.progress.tempPath)

def pauseTransfer (t : Transfer) : Transfer := if t.progress.phase.active then setPhase .paused t else t

def pauseAll : Manager := { m with transfers := Table.mapValues pauseTransfer m.transfers }

def stale (now : Nat) (t : Transfer) : Bool :=
  t.progress.phase.sweepable && cfg.staleTimeoutSecs * 10 ^ 9 < now - t.progress.lastActivity

/-- `sweep_stale`: the removed ids, and the manager without them and without
    their temporary files. -/
def sweepStale : List String × Manager :=
  let removed := m.transfers.entries.filter fun e => stale cfg env.now e.2
  let temps := (removed.map fun e => e.2.progress.tempPath).filter fun p => !p.isEmpty
  (removed.map Sigma.fst,
    temps.foldl (removeFile env) { m with transfers := Table.keep (fun _ t => !stale cfg env.now t) m.transfers })

/-! ### What the sections leave of the table of transfers -/

theorem removeFile_transfers (p : PathBuf) : (removeFile env m p).transfers = m.transfers := by
  unfold removeFile; split <;> rfl

theorem foldl_removeFile_transfers (paths : List PathBuf) :
    (paths.foldl (removeFile env) m).transfers = m.transfers := by
  induction paths generalizing m with
  | nil => rfl
  | cons p rest ih => rw [List.foldl_cons,ih,removeFile_transfers]

theorem sweepStale_transfers :
    (sweepStale cfg env m).2.transfers = Table.keep (fun _ t => !stale cfg env.now t) m.transfers :=
  foldl_removeFile_transfers ..

theorem uploadSetLen_transfers (plan : UploadPlan) (id : String) (ino : Nat) :
    (uploadSetLen env m plan id ino).2.transfers = m.transfers := by
  unfold uploadSetLen
  split
  · exact removeFile_transfers ..
  · rfl

theorem receiveWrite_transfers (id : String) (ctx : ReceiveContext) (ino : Nat) (data : Bytes) :
    (receiveWrite env m id ctx ino data).2.transfers = m.transfers := by
  unfold receiveWrite
  split
  · rfl
  · rfl
  · dsimp only; split <;> rfl

theorem receiveProgress_transfers (id : String) (index len : Nat) :
    (receiveProgress env m id index len).2.transfers = Table.modify id (receiveMark index len env.now) m.transfers := by
  unfold receiveProgress
  split
  · next missing => exact (Table.modify_missing _ missing).symm
  · rfl

theorem finalizeChmod_transfers (ctx : ReceiveContext) : (finalizeChmod env m ctx).transfers = m.transfers := by
  unfold finalizeChmod; split <;> rfl

theorem resume_transfers (id : String) :
    (resume env m id).2.transfers = if resumable m id then
      Table.modify id (fun t => { t with progress := { t.progress with phase := .transferring, lastActivity := env.now } })
        m.transfers else m.transfers := by
  unfold resume resumable
  split
  · next missing => simp [missing]
  · next t found =>
    by_cases may : t.progress.phase = .paused ∨ t.progress.phase = .transferring
    · simp [found,may,Manager.modify]
    · simp [found,may]

theorem abort_transfers (id : String) :
    (abort env m id).2.transfers = Table.modify id (setPhase .aborted) m.transfers := by
  unfold abort
  split
  · next missing => exact (Table.modify_missing _ missing).symm
  · dsimp only; split_ifs
    · rfl
    · exact removeFile_transfers ..

/-! ### What the checks let pass -/

variable {env m}

theorem serveCheck_ok {id : String} {index : Nat} {ctx : ServeContext} (checked : serveCheck env m id index = .ok ctx) :
    ∃ t, m.transfers.lookup id = some t ∧ t.spec.direction = .download ∧
      (t.progress.phase = .transferring ∨ t.progress.phase = .paused) ∧ index < t.spec.totalChunks ∧
      sourceChanged env m t.spec = false ∧
      ctx = ⟨index * t.spec.chunkSize,chunkLen t.spec.fileSize t.spec.chunkSize index,t.spec.path⟩ := by
  unfold serveCheck at checked
  split at checked
  · cases checked
  · next t found =>
    split_ifs at checked with direction phase range changed
    cases checked
    exact ⟨t,found,by simpa using direction,by simpa using phase,by omega,by simpa using changed,rfl⟩

theorem receiveCheck_ok {id : String} {index : Nat} {ctx : ReceiveContext} (checked : receiveCheck m id index = .ok ctx) :
    ∃ t, m.transfers.lookup id = some t ∧ t.spec.direction = .upload ∧ t.progress.phase = .transferring ∧
      index < t.spec.totalChunks ∧
      ctx = ⟨index * t.spec.chunkSize,t.spec.chunkSize,t.progress.tempPath,t.spec.totalChunks,t.spec.fileHash,
        t.spec.fileSize,join t.spec.path t.spec.filename,t.spec.mode⟩ := by
  unfold receiveCheck at checked
  split at checked
  · cases checked
  · next t found =>
    split_ifs at checked with direction phase range
    cases checked
    exact ⟨t,found,by simpa using direction,by simpa using phase,by omega,rfl⟩

theorem initUploadCheck_ok {cfg : TransferConfig} {req : InitUpload} {plan : UploadPlan}
    (checked : initUploadCheck cfg env m req = .ok plan) :
    plan.fileSize = req.fileSize ∧ plan.chunkSize = max req.chunkSize 1024 ∧
      plan.totalChunks = (computeChunks req.fileSize (max req.chunkSize 1024)).getD 0 := by
  unfold initUploadCheck at checked
  simp only [bind,Except.bind,pure,Except.pure,throw,throwThe,MonadExceptOf.throw] at checked
  -- every `throw` closes its branch; the last one is the plan
  repeat' (split at checked <;> try contradiction)
  all_goals (cases checked; exact ⟨rfl,rfl,rfl⟩)

theorem uploadCreate_ok {plan : UploadPlan} {ino : Nat} {created : Manager}
    (made : uploadCreate env m plan = .ok (ino,created)) :
    ino = (m.disk.create (plan.tempPath env.uuid) env.clock).2 ∧
      created = { m with disk := (m.disk.create (plan.tempPath env.uuid) env.clock).1 } := by
  unfold uploadCreate at made
  dsimp only at made
  split at made
  · cases made
  · split_ifs at made; cases made; exact ⟨rfl,rfl⟩

theorem finalizeRename_ok {ctx : ReceiveContext} {moved : Manager} (renamed : finalizeRename env m ctx = .ok moved) :
    ∃ disk, m.disk.rename ctx.tempPath ctx.finalPath = some disk ∧ moved = { m with disk := disk } := by
  unfold finalizeRename at renamed
  split at renamed
  · cases renamed
  · split at renamed
    · next disk done => cases renamed; exact ⟨disk,done,rfl⟩
    · cases renamed

end Sctl.TransferManager
