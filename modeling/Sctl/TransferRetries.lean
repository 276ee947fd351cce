import Sctl.TransferContent
import Sctl.TransferPhases

/-!
Repeating a chunk request. A client that lost the reply sends the request once
more; after any interleaving of calls, the repeated call answers as the first
one did exactly while the transfer still takes chunk requests and its file
still holds the chunk. The request that completes a transfer is not repeated
successfully: the transfer has left its phase by then.
-/
namespace Sctl.TransferRetries
open Sctl.Files Sctl.TransferTypes Sctl.TransferManager Sctl.TransferSteps Sctl.TransferBooks Sctl.TransferContent
open Sctl.TransferPhases Sctl.Runs

variable {cfg : TransferConfig} {sha256 : Bytes → String}

/-! ### Requests that were answered -/

/-- A `receive_chunk` call stored the payload, and the client was told so. -/
def Acknowledged (s : State) (id : String) (index : Nat) (data : Bytes) : Prop :=
  .accepted id index data ∈ s.trace ∧ ∃ c, .replied c (.ack (acceptedAck id index)) ∈ s.trace

/-- A `serve_chunk` call answered with these bytes. -/
def Served (sha256 : Bytes → String) (s : State) (id : String) (index : Nat) (buf : Bytes) : Prop :=
  ∃ c, .replied c (.chunk ⟨id,index,sha256 buf⟩ buf) ∈ s.trace

def MarkedAt (s : State) (id : String) (index : Nat) : Prop :=
  ∀ t, s.manager.transfers.lookup id = some t → t.progress.chunksDone.getD index false = true

/-- The transfer has such a chunk. -/
def HasChunk (s : State) (id : String) (direction : Direction) (index : Nat) : Prop :=
  ∃ spec, .admitted spec ∈ s.trace ∧ spec.transferId = id ∧ spec.direction = direction ∧ index < spec.totalChunks

/-- The transfer has such a chunk, of this length. -/
def HasChunkOf (s : State) (id : String) (index len : Nat) : Prop :=
  ∃ spec, .admitted spec ∈ s.trace ∧ spec.transferId = id ∧ spec.direction = .download ∧ index < spec.totalChunks ∧
    len = chunkLen spec.fileSize spec.chunkSize index

/-- What a `serve_chunk` call is about to send. -/
def reading : Call → Option (String × Nat × Nat)
  | .serveOpen id index ctx => some (id,index,ctx.chunkLen)
  | .serveRead id index ctx _ => some (id,index,ctx.chunkLen)
  | .serveProgress id index buf => some (id,index,buf.length)
  | _ => none

/-- What the answers of the past say about the transfers. -/
structure Answered (s : State) : Prop where
  unfinished : Unfinished s
  marking : ∀ c r, s.calls c = some (.receive r) → pastProgress r.pc = true → MarkedAt s r.id r.index
  acked : ∀ c id index, .replied c (.ack (acceptedAck id index)) ∈ s.trace →
    HasChunk s id .upload index ∧ MarkedAt s id index
  asked : ∀ c call id index len, s.calls c = some call → reading call = some (id,index,len) → HasChunkOf s id index len
  served : ∀ c id index hash buf, .replied c (.chunk ⟨id,index,hash⟩ buf) ∈ s.trace → HasChunkOf s id index buf.length

theorem answered_start (disk : Disk PathBuf) : Answered (start disk) := by
  refine ⟨unfinished_start disk,?_,?_,?_,?_⟩ <;> simp [start]

theorem getD_set_true {chunks : List Bool} {index i : Nat} (done : chunks.getD i false = true) :
    (chunks.set index true).getD i false = true := by
  by_cases this : index = i
  · subst this
    have within : index < chunks.length := by
      by_contra beyond
      simp [List.getD_eq_getElem?_getD,List.getElem?_eq_none (Nat.le_of_not_lt beyond)] at done
    simp [List.getD_eq_getElem?_getD,within]
  · rwa [List.getD_eq_getElem?_getD,List.getElem?_set_ne this,← List.getD_eq_getElem?_getD]

/-- A chunk that was done stays done. -/
theorem edited_marked {u : Update} {id : String} {before after : Transfer} {i : Nat}
    (edited : Edited cfg u id before after) (done : before.progress.chunksDone.getD i false = true) :
    after.progress.chunksDone.getD i false = true := by
  cases edited with
  | same => exact done
  | paused _ =>
    unfold pauseTransfer
    split <;> exact done
  | edit e _ =>
    cases e with
    | served index len now =>
      simp only [Edit.apply,serveMark]
      split <;> exact getD_set_true done
    | received index len now =>
      simp only [Edit.apply,receiveMark]
      split <;> exact getD_set_true done
    | rejected totalChunks now =>
      simp only [Edit.apply,rejectChunk]
      split <;> exact done
    | _ => exact done

theorem markedAt_step {s t : State} {a : Action} {id : String} {index : Nat} (books : Books s)
    (stepped : step cfg sha256 s a = some t) (known : ∃ spec, .admitted spec ∈ s.trace ∧ spec.transferId = id)
    (marked : MarkedAt s id index) : MarkedAt t id index := by
  intro after found
  rw [step_transfers stepped] at found
  rcases apply_lookup found with ⟨old,there,edited⟩ | ⟨inserts,same⟩
  · exact edited_marked edited (marked old there)
  · obtain ⟨c,call,_,there,_,pend,_⟩ := insert_call stepped inserts
    obtain ⟨spec,admitted,key⟩ := known
    exact absurd (key.trans same) (books.pendingNew c call _ there pend spec admitted)

/-- The progress update of a call marks its chunk. -/
theorem markedAt_progress {s t : State} {a : Action} {c : Nat} {r : Receiving} (books : Books s)
    (stepped : step cfg sha256 s a = some t) (move : a.move = .advance c) (found : s.calls c = some (.receive r))
    (at_progress : r.pc = .progress) : MarkedAt t r.id r.index := by
  intro after there
  have made : update s a = .edit r.id (.received r.index r.data.length a.env.now) := by
    simp [update,move,found,Call.update,at_progress]
  rw [step_transfers stepped,made,Update.apply,Table.lookup_modify,if_pos rfl] at there
  obtain ⟨old,before,rfl⟩ := Option.map_eq_some_iff.mp there
  obtain ⟨spec,admitted,fits⟩ := books.receiving c r found
  obtain ⟨spec',admitted',belongs⟩ := books.table r.id old before
  cases books.admittedOnce spec' spec admitted' admitted (belongs.key.trans fits.key.symm)
  have within : r.index < old.progress.chunksDone.length := by rw [belongs.chunks]; exact fits.index
  have set : (old.progress.chunksDone.set r.index true).getD r.index false = true := by
    simp [List.getD_eq_getElem?_getD,within]
  simp only [Edit.apply,receiveMark]
  split <;> exact set

theorem hasChunk_grows {s t : State} {a : Action} {id : String} {direction : Direction} {index : Nat}
    (stepped : step cfg sha256 s a = some t) (has : HasChunk s id direction index) : HasChunk t id direction index := by
  obtain ⟨spec,admitted,rest⟩ := has
  exact ⟨spec,trace_grows stepped admitted,rest⟩

theorem hasChunkOf_grows {s t : State} {a : Action} {id : String} {index len : Nat}
    (stepped : step cfg sha256 s a = some t) (has : HasChunkOf s id index len) : HasChunkOf t id index len := by
  obtain ⟨spec,admitted,rest⟩ := has
  exact ⟨spec,trace_grows stepped admitted,rest⟩

theorem call_hasChunk {s : State} {c : Nat} {r : Receiving} (books : Books s) (found : s.calls c = some (.receive r)) :
    HasChunk s r.id .upload r.index := by
  obtain ⟨spec,admitted,fits⟩ := books.receiving c r found
  exact ⟨spec,admitted,fits.key,fits.upload,fits.index⟩

theorem call_known {s : State} {c : Nat} {r : Receiving} (books : Books s) (found : s.calls c = some (.receive r)) :
    ∃ spec, .admitted spec ∈ s.trace ∧ spec.transferId = r.id := by
  obtain ⟨spec,admitted,fits⟩ := books.receiving c r found
  exact ⟨spec,admitted,fits.key⟩

theorem marking_step {s t : State} {a : Action} {c : Nat} {r : Receiving} (answered : Answered s)
    (stepped : step cfg sha256 s a = some t) (there : t.calls c = some (.receive r)) (past : pastProgress r.pc = true) :
    MarkedAt t r.id r.index := by
  have books := answered.unfinished.books
  cases step_call stepped there with
  | kept before _ => exact markedAt_step books stepped (call_known books before) (answered.marking c r before past)
  | receive _ _ pc _ => subst pc; dsimp only at past; split at past <;> cases past
  | @received old pc move found after =>
    subst after
    cases advanceReceive_next there with
    | opened _ _ => cases past
    | stored _ _ => cases past
    | filled at_progress _ =>
      have now := markedAt_progress books stepped move found at_progress
      exact now
    | later was _ =>
      have known := call_known books found
      have before := answered.marking c old found was
      exact markedAt_step books stepped known before

theorem acked_step {s t : State} {a : Action} {c : Nat} {id : String} {index : Nat} (answered : Answered s)
    (stepped : step cfg sha256 s a = some t) (replied : .replied c (.ack (acceptedAck id index)) ∈ t.trace) :
    HasChunk t id .upload index ∧ MarkedAt t id index := by
  have books := answered.unfinished.books
  rcases event_origin stepped replied with before | origin
  · obtain ⟨⟨spec,admitted,key,rest⟩,marked⟩ := answered.acked c id index before
    exact ⟨⟨spec,trace_grows stepped admitted,key,rest⟩,markedAt_step books stepped ⟨spec,admitted,key⟩ marked⟩
  · cases origin with
    | acked move found late =>
      refine ⟨hasChunk_grows stepped (call_hasChunk books found),?_⟩
      rcases late with at_progress | done
      · exact markedAt_progress books stepped move found at_progress
      · exact markedAt_step books stepped (call_known books found)
          (answered.marking c _ found (by rw [done]; rfl))
    | replied plain => cases plain

theorem serveRead_length {env : Env} {m : Manager} {id : String} {ctx : ServeContext} {ino : Nat} {buf : Bytes}
    (read : serveRead env m id ctx ino = .ok buf) : env.seek = none ∧ env.io = none ∧
      buf = slice (m.disk.files ino).content ctx.offset ctx.chunkLen ∧ buf.length = ctx.chunkLen := by
  cases seek : env.seek with
  | some e => simp [serveRead,seek] at read
  | none => cases io : env.io with
    | some e => simp [serveRead,seek,io] at read
    | none =>
      simp only [serveRead,seek,io] at read
      split_ifs at read with short
      cases read
      have most : (slice (m.disk.files ino).content ctx.offset ctx.chunkLen).length ≤ ctx.chunkLen := by simp [slice]
      exact ⟨rfl,rfl,rfl,by omega⟩

theorem asked_step {s t : State} {a : Action} {c : Nat} {call : Call} {id : String} {index len : Nat}
    (answered : Answered s) (stepped : step cfg sha256 s a = some t) (there : t.calls c = some call)
    (reads : reading call = some (id,index,len)) : HasChunkOf t id index len := by
  have books := answered.unfinished.books
  cases step_call stepped there with
  | kept before _ => exact hasChunkOf_grows stepped (answered.asked c call id index len before reads)
  | serveOpen _ checked =>
    cases reads
    obtain ⟨tr,found,direction,_,range,_,rfl⟩ := serveCheck_ok checked
    obtain ⟨spec,admitted,belongs⟩ := books.table _ tr found
    rw [belongs.same] at direction range
    refine ⟨spec,trace_grows stepped admitted,belongs.key,direction,range,?_⟩
    show chunkLen tr.spec.fileSize tr.spec.chunkSize _ = _
    rw [belongs.same]
  | serveRead before => exact hasChunkOf_grows stepped (answered.asked c _ id index len before reads)
  | serveProgress before read =>
    cases reads
    rw [(serveRead_length read).2.2.2]
    exact hasChunkOf_grows stepped (answered.asked c _ _ _ _ before rfl)
  | _ => cases reads

theorem answered_step {s t : State} {a : Action} (answered : Answered s) (stepped : step cfg sha256 s a = some t) :
    Answered t where
  unfinished := unfinished_step answered.unfinished stepped
  marking _ _ there past := marking_step answered stepped there past
  acked _ _ _ replied := acked_step answered stepped replied
  asked _ _ _ _ _ there reads := asked_step answered stepped there reads
  served c id index hash buf replied := by
    rcases event_origin stepped replied with before | origin
    · exact hasChunkOf_grows stepped (answered.served c id index hash buf before)
    · cases origin with
      | served _ found => exact hasChunkOf_grows stepped (answered.asked c _ id index _ found rfl)
      | replied plain => cases plain

/-! ### The repeated call -/

/-- Every path leads to the same bytes as before. -/
def sameContents (d e : Disk PathBuf) : Prop := ∀ p, (e.file? p).map File.content = (d.file? p).map File.content

/-- The request of an upload chunk, made again: `ok`, and no file has changed. -/
def ReceivedAgain (cfg : TransferConfig) (sha256 : Bytes → String) (env : Env) (s : State) (id : String) (index : Nat)
    (data : Bytes) : Prop :=
  (receiveChunk cfg sha256 env s.manager id index (sha256 data) data).1 = .ok (acceptedAck id index) ∧
    sameContents s.manager.disk (receiveChunk cfg sha256 env s.manager id index (sha256 data) data).2.disk

/-- The request of a download chunk, made again: the same bytes, and no file has changed. -/
def ServedAgain (sha256 : Bytes → String) (env : Env) (s : State) (id : String) (index : Nat) (buf : Bytes) : Prop :=
  (serveChunk sha256 env s.manager id index).1 = .ok (⟨id,index,sha256 buf⟩,buf) ∧
    sameContents s.manager.disk (serveChunk sha256 env s.manager id index).2.disk

/-- The upload is in `Transferring`, its temporary file still holds the payload
    and the system reports no error. -/
structure StillReceiving (env : Env) (s : State) (id : String) (index : Nat) (data : Bytes) (t : Transfer) (f : File) :
    Prop where
  found : s.manager.transfers.lookup id = some t
  phase : t.progress.phase = .transferring
  file : s.manager.disk.file? t.progress.tempPath = some f
  holds : slice f.content (index * t.spec.chunkSize) data.length = data
  opens : env.openFile = none
  seeks : env.seek = none
  writes : env.io = none
  syncs : env.sync = none

/-- The download is in `Transferring` or `Paused`, its source has the old
    modification time and bytes and the system reports no error. -/
structure StillServing (env : Env) (s : State) (id : String) (index : Nat) (buf : Bytes) (t : Transfer) (f : File) :
    Prop where
  found : s.manager.transfers.lookup id = some t
  phase : t.progress.phase = .transferring ∨ t.progress.phase = .paused
  unchanged : sourceChanged env s.manager t.spec = false
  file : s.manager.disk.file? t.spec.path = some f
  holds : slice f.content (index * t.spec.chunkSize) buf.length = buf
  opens : env.openFile = none
  seeks : env.seek = none
  reads : env.io = none

theorem openExisting_ok {env : Env} {m : Manager} {path : PathBuf} {ino : Nat} :
    openExisting env m path = .ok ino ↔ env.openFile = none ∧ m.disk.names path = some ino := by
  unfold openExisting
  cases env.openFile with
  | some e => simp
  | none => cases m.disk.names path <;> simp

theorem mapError_ok {A E F : Type} {x : Except E A} {f : E → F} {a : A} : x.mapError f = .ok a ↔ x = .ok a := by
  cases x <;> simp [Except.mapError]

/-- A chunk that is already done does not complete the transfer. -/
theorem not_last {t : Transfer} {index len now : Nat} (within : index < t.progress.chunksDone.length)
    (marked : t.progress.chunksDone.getD index false = true) (misses : Transfer.allDone t = false) :
    Transfer.allDone (markChunk index len now t) = false := by
  have here : t.progress.chunksDone[index] = true := by
    simpa [List.getD_eq_getElem?_getD,within] using marked
  have same : t.progress.chunksDone.set index true = t.progress.chunksDone := by
    conv_lhs => rw [← here]
    exact List.set_getElem_self within
  simpa [Transfer.allDone,markChunk,same] using misses

theorem sameContents_update {d : Disk PathBuf} {p : PathBuf} {ino : Nat} {f : File → File} (there : d.names p = some ino) :
    sameContents d (d.update ino f) ↔ (f (d.files ino)).content = (d.files ino).content := by
  constructor
  · intro same
    have here := same p
    simpa [Disk.file?,Disk.update,there] using here
  · intro same q
    show ((d.names q).map (d.update ino f).files).map File.content = _
    cases at_ : d.names q with
    | none => simp [Disk.file?,at_]
    | some other => simp only [Disk.file?,at_,Option.map_some,update_content]; split <;> simp_all

/-- A repeated upload chunk, once its temporary file is open: it is written and
    synced again and nothing is finalized. -/
theorem receiveChunk_again {env : Env} {m : Manager} {id : String} {index : Nat} {data : Bytes} {t : Transfer} {ino : Nat}
    (found : m.transfers.lookup id = some t) (upload : t.spec.direction = .upload)
    (running : t.progress.phase = .transferring) (range : index < t.spec.totalChunks)
    (more : Transfer.allDone (markChunk index data.length env.now t) = false) (opens : env.openFile = none)
    (there : m.disk.names t.progress.tempPath = some ino) (seeks : env.seek = none) (writes : env.io = none)
    (syncs : env.sync = none) :
    (receiveChunk cfg sha256 env m id index (sha256 data) data).1 = .ok (acceptedAck id index) ∧
      (receiveChunk cfg sha256 env m id index (sha256 data) data).2.disk = m.disk.update ino fun f =>
        { f with content := writeAt f.content (index * t.spec.chunkSize) data, mtime := env.clock } := by
  have checked : receiveCheck m id index = .ok ⟨index * t.spec.chunkSize,t.spec.chunkSize,t.progress.tempPath,
      t.spec.totalChunks,t.spec.fileHash,t.spec.fileSize,join t.spec.path t.spec.filename,t.spec.mode⟩ := by
    simp [receiveCheck,found,upload,running,Nat.not_le.mpr range]
  simp [receiveChunk,checked,receiveOpen,openExisting,opens,there,Except.mapError,receiveWrite,seeks,writes,syncs,
    receiveProgress,found,more,Manager.modify]

/-- An acknowledged chunk of a running upload is marked, and another one is not. -/
theorem acknowledged_open {s : State} {id : String} {index : Nat} {data : Bytes} {t : Transfer}
    (answered : Answered s) (acknowledged : Acknowledged s id index data)
    (found : s.manager.transfers.lookup id = some t) (running : t.progress.phase = .transferring) :
    t.spec.direction = .upload ∧ index < t.spec.totalChunks ∧
      ∀ len now, Transfer.allDone (markChunk index len now t) = false := by
  obtain ⟨_,c,replied⟩ := acknowledged
  obtain ⟨⟨spec,admitted,key,upload,range⟩,marked⟩ := answered.acked c id index replied
  have books := answered.unfinished.books
  obtain ⟨spec',admitted',belongs⟩ := books.table id t found
  cases books.admittedOnce spec' spec admitted' admitted (belongs.key.trans key.symm)
  have within : index < t.progress.chunksDone.length := by rw [belongs.chunks]; exact range
  have misses := answered.unfinished.misses id t found (.inl (by rw [running]; rfl)) (by
    intro empty; rw [empty] at within; cases within)
  refine ⟨?_,?_,fun _ _ => not_last within (marked t found) misses⟩
  · rw [belongs.same]; exact upload
  · rw [belongs.same]; exact range

theorem receivedAgain_iff {env : Env} {s : State} {id : String} {index : Nat} {data : Bytes} (answered : Answered s)
    (acknowledged : Acknowledged s id index data) :
    ReceivedAgain cfg sha256 env s id index data ↔ ∃ t f, StillReceiving env s id index data t f := by
  constructor
  · rintro ⟨accepted,same⟩
    have reply := accepted
    unfold receiveChunk at reply
    split at reply
    · cases reply
    · next ctx checked =>
      obtain ⟨t,found,_,running,_,rfl⟩ := receiveCheck_ok checked
      obtain ⟨upload,range,more⟩ := acknowledged_open answered acknowledged found running
      rw [if_neg (by simp)] at reply
      split at reply
      · cases reply
      · next ino opened =>
        obtain ⟨opens,there⟩ := openExisting_ok.mp (mapError_ok.mp opened)
        split at reply
        · cases reply
        · next written =>
          have done := congrArg Prod.fst written
          obtain ⟨seeks,writes,syncs⟩ := (receiveWrite_ok done).1
          have again := @receiveChunk_again cfg sha256 _ _ _ _ _ _ _ found upload running range (more data.length env.now)
            opens there seeks writes syncs
          rw [again.2,sameContents_update there] at same
          refine ⟨t,s.manager.disk.files ino,found,running,by simp [Disk.file?,there],?_,opens,seeks,writes,syncs⟩
          exact (writeAt_eq_self_iff ..).mp same
  · rintro ⟨t,f,still⟩
    obtain ⟨upload,range,more⟩ := acknowledged_open answered acknowledged still.found still.phase
    obtain ⟨ino,there,rfl⟩ := Option.map_eq_some_iff.mp still.file
    have again := @receiveChunk_again cfg sha256 _ _ _ _ _ _ _ still.found upload still.phase range
      (more data.length env.now) still.opens there still.seeks still.writes still.syncs
    refine ⟨again.1,?_⟩
    rw [again.2,sameContents_update there]
    exact (writeAt_eq_self_iff ..).mpr still.holds

theorem serveChunk_disk (env : Env) (m : Manager) (id : String) (index : Nat) :
    (serveChunk sha256 env m id index).2.disk = m.disk := by
  unfold serveChunk
  split
  · rfl
  · split
    · rfl
    · split <;> rfl

/-- A served chunk is a chunk of its transfer, of the right length. -/
theorem served_chunk {s : State} {id : String} {index : Nat} {buf : Bytes} {t : Transfer} (answered : Answered s)
    (served : Served sha256 s id index buf) (found : s.manager.transfers.lookup id = some t) :
    t.spec.direction = .download ∧ index < t.spec.totalChunks ∧
      buf.length = chunkLen t.spec.fileSize t.spec.chunkSize index := by
  obtain ⟨c,replied⟩ := served
  obtain ⟨spec,admitted,key,download,range,length⟩ := answered.served c id index _ buf replied
  have books := answered.unfinished.books
  obtain ⟨spec',admitted',belongs⟩ := books.table id t found
  cases books.admittedOnce spec' spec admitted' admitted (belongs.key.trans key.symm)
  rw [belongs.same]
  exact ⟨download,range,length⟩

theorem servedAgain_iff {env : Env} {s : State} {id : String} {index : Nat} {buf : Bytes} (answered : Answered s)
    (served : Served sha256 s id index buf) :
    ServedAgain sha256 env s id index buf ↔ ∃ t f, StillServing env s id index buf t f := by
  have untouched : sameContents s.manager.disk (serveChunk sha256 env s.manager id index).2.disk := by
    rw [serveChunk_disk]; exact fun _ => rfl
  constructor
  · rintro ⟨reply,_⟩
    unfold serveChunk at reply
    split at reply
    · cases reply
    · next ctx checked =>
      obtain ⟨t,found,_,phase,_,unchanged,rfl⟩ := serveCheck_ok checked
      split at reply
      · cases reply
      · next ino opened =>
        obtain ⟨opens,there⟩ := openExisting_ok.mp (mapError_ok.mp opened)
        split at reply
        · cases reply
        · next read =>
          simp only [Except.ok.injEq,Prod.mk.injEq] at reply
          obtain ⟨_,rfl⟩ := reply
          obtain ⟨seeks,reads,bytes,length⟩ := serveRead_length read
          refine ⟨t,s.manager.disk.files ino,found,phase,unchanged,by simp [Disk.file?,there],?_,opens,seeks,reads⟩
          rw [length]; exact bytes.symm
  · rintro ⟨t,f,still⟩
    obtain ⟨download,range,length⟩ := served_chunk answered served still.found
    obtain ⟨ino,there,rfl⟩ := Option.map_eq_some_iff.mp still.file
    have holds := still.holds
    rw [length] at holds
    have checked : serveCheck env s.manager id index =
        .ok ⟨index * t.spec.chunkSize,chunkLen t.spec.fileSize t.spec.chunkSize index,t.spec.path⟩ := by
      simp [serveCheck,still.found,download,still.phase,Nat.not_le.mpr range,still.unchanged]
    refine ⟨?_,untouched⟩
    simp [serveChunk,checked,serveOpen,openExisting,still.opens,there,Except.mapError,serveRead,still.seeks,still.reads,
      holds,length]

/-- After this run a repeated chunk request succeeds exactly while its transfer
    still takes such requests and its file still holds the chunk. -/
structure RetriesWhileOpen (cfg : TransferConfig) (sha256 : Bytes → String) (s : State) : Prop where
  upload : ∀ env id index data, Acknowledged s id index data →
    (ReceivedAgain cfg sha256 env s id index data ↔ ∃ t f, StillReceiving env s id index data t f)
  download : ∀ env id index buf, Served sha256 s id index buf →
    (ServedAgain sha256 env s id index buf ↔ ∃ t f, StillServing env s id index buf t f)

theorem retries_iff_open (disk : Disk PathBuf) (as : List Action) :
    Always (step cfg sha256) (RetriesWhileOpen cfg sha256) (start disk) as :=
  always_of_preserves (fun _ _ _ answered stepped => answered_step answered stepped)
    (fun _ answered => ⟨fun _ _ _ _ => receivedAgain_iff answered,fun _ _ _ _ => servedAgain_iff answered⟩)
    (answered_start disk)

/-- The transfer is there, neither aborted nor failed. -/
def Alive (s : State) (id : String) : Prop :=
  ∃ phase, phaseOf s id = some phase ∧ phase ≠ .aborted ∧ ∀ reason, phase ≠ .failed reason

/-- Every repeated chunk request of a transfer that is alive succeeds, if the
    system reports no error. -/
structure RetriesSafe (cfg : TransferConfig) (sha256 : Bytes → String) (s : State) : Prop where
  upload : ∀ now id index data, Acknowledged s id index data → Alive s id →
    ReceivedAgain cfg sha256 (.calm now "") s id index data
  download : ∀ now id index buf, Served sha256 s id index buf → Alive s id →
    ServedAgain sha256 (.calm now "") s id index buf

/-- The chunk that finished its upload is refused when it comes again. -/
theorem last_chunk_refused :
    ¬ Always (step (.new 4 1024 1024 60) plainDigest) (RetriesSafe (.new 4 1024 1024 60) plainDigest) (start smallDisk)
      uploaded := by
  intro all
  have last : (run (step (.new 4 1024 1024 60) plainDigest) (start smallDisk) uploaded).map (fun s =>
      (decide (.accepted "u" 0 [65] ∈ s.trace ∧ .replied 0 (.ack (acceptedAck "u" 0)) ∈ s.trace),phaseOf s "u",
        (receiveChunk (.new 4 1024 1024 60) plainDigest (.calm 0 "") s.manager "u" 0 (plainDigest [65]) [65]).1.isOk)) =
      some (true,some .complete,false) := by decide +kernel
  obtain ⟨t,ran,known⟩ := Option.map_eq_some_iff.mp last
  simp only [Prod.mk.injEq,decide_eq_true_eq] at known
  obtain ⟨⟨accepted,replied⟩,complete,refused⟩ := known
  have again := (always_last all ran).upload 0 "u" 0 [65] ⟨accepted,0,replied⟩ ⟨_,complete,by simp,by simp⟩
  rw [again.1] at refused
  cases refused

end Sctl.TransferRetries
