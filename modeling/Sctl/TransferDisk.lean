import Sctl.TransferBooks

/-!
What the manager does to the disk. Every upload writes to a temporary file of
its own, created under a name that holds its id; a finished upload is renamed
onto its final path and an aborted one is removed. The name of the final file
is the client's choice, so it can be the name of another upload's temporary
file: the results here are about runs that never rename onto one.
-/
namespace Sctl.TransferDisk
open Sctl.Files Sctl.TransferTypes Sctl.TransferManager Sctl.TransferSteps Sctl.TransferBooks Sctl.Runs

variable {cfg : TransferConfig} {sha256 : Bytes → String}

/-! ### The disk after a step -/

/-- Nothing but names went away. -/
structure Unlinked (d e : Disk PathBuf) : Prop where
  files : e.files = d.files
  next : e.next = d.next
  names : ∀ p, e.names p = d.names p ∨ e.names p = none

/-- How the disk came out of a step. -/
inductive DiskChange (s t : State) (a : Action) : Prop
  | unlinked : Unlinked s.manager.disk t.manager.disk → DiskChange s t a
  | created {c : Nat} {plan : UploadPlan} :
      a.move = .advance c → s.calls c = some (.uploadCreate plan) →
      s.fresh a.env.uuid (plan.tempPath a.env.uuid) = true →
      t.manager.disk = (s.manager.disk.create (plan.tempPath a.env.uuid) a.env.clock).1 → DiskChange s t a
  | resized {c : Nat} {plan : UploadPlan} {id : String} {ino : Nat} :
      a.move = .advance c → s.calls c = some (.uploadSetLen plan id ino) →
      t.manager.disk = s.manager.disk.update ino (fun f => { f with content := setLen f.content plan.fileSize }) →
      DiskChange s t a
  | written {c : Nat} {r : Receiving} {ino : Nat} :
      a.move = .advance c → s.calls c = some (.receive r) → r.pc = .write ino →
      (a.env.sync = none → .accepted r.id r.index r.data ∈ t.trace) →
      t.manager.disk = s.manager.disk.update ino (fun f =>
        { f with content := writeAt f.content r.ctx.offset r.data, mtime := a.env.clock }) → DiskChange s t a
  | permitted {ino bits : Nat} :
      t.manager.disk = s.manager.disk.update ino (fun f => { f with mode := some bits }) → DiskChange s t a
  | moved {c : Nat} {r : Receiving} :
      a.move = .advance c → s.calls c = some (.receive r) → r.pc = .rename →
      s.manager.disk.rename r.ctx.tempPath r.ctx.finalPath = some t.manager.disk → DiskChange s t a

theorem Unlinked.refl (d : Disk PathBuf) : Unlinked d d := ⟨rfl,rfl,fun _ => .inl rfl⟩

theorem Unlinked.trans {d e f : Disk PathBuf} (first : Unlinked d e) (second : Unlinked e f) : Unlinked d f := by
  refine ⟨second.files.trans first.files,second.next.trans first.next,?_⟩
  intro p
  rcases second.names p with same | gone
  · rw [same]; exact first.names p
  · exact .inr gone

theorem removeFile_unlinked (env : Env) (m : Manager) (path : PathBuf) :
    Unlinked m.disk (removeFile env m path).disk := by
  unfold removeFile
  split
  · exact .refl _
  · refine ⟨rfl,rfl,?_⟩
    intro p
    by_cases same : p = path
    · subst same; exact .inr (Function.update_self ..)
    · exact .inl (Function.update_of_ne same ..)

theorem foldl_removeFile_unlinked (env : Env) (paths : List PathBuf) (m : Manager) :
    Unlinked m.disk (paths.foldl (removeFile env) m).disk := by
  induction paths generalizing m with
  | nil => exact .refl _
  | cons path rest ih => exact (removeFile_unlinked env m path).trans (ih _)

theorem sameDisk {s t : State} {a : Action} (same : t.manager.disk = s.manager.disk) : DiskChange s t a :=
  .unlinked (same ▸ .refl _)

theorem advanceReceive_disk {s : State} {env : Env} {c : Nat} {r : Receiving}
    (found : s.calls c = some (.receive r)) : DiskChange s (advanceReceive cfg sha256 s env c r) ⟨env,.advance c⟩ := by
  obtain ⟨id,index,data,ctx,pc⟩ := r
  cases pc with
  | reject => exact sameDisk rfl
  | openTemp => simp only [advanceReceive]; split <;> exact sameDisk rfl
  | write ino =>
    cases seek : env.seek with
    | some e => simp only [advanceReceive,receiveWrite,seek]; exact sameDisk rfl
    | none => cases io : env.io with
      | some e => simp only [advanceReceive,receiveWrite,seek,io]; exact sameDisk rfl
      | none => cases sync : env.sync with
        | some e =>
          simp only [advanceReceive,receiveWrite,seek,io,sync]
          exact .written rfl found rfl (fun calm => absurd (sync.symm.trans calm) (by simp)) rfl
        | none =>
          simp only [advanceReceive,receiveWrite,seek,io,sync]
          exact .written rfl found rfl (fun _ => by simp) rfl
  | progress =>
    have same : (receiveProgress env s.manager id index data.length).2.disk = s.manager.disk := by
      unfold receiveProgress; split <;> rfl
    simp only [advanceReceive]
    split <;> exact sameDisk same
  | hash =>
    simp only [advanceReceive]
    split
    · exact sameDisk rfl
    · split_ifs <;> exact sameDisk rfl
  | setHash actual => exact sameDisk rfl
  | discard actual => exact .unlinked (removeFile_unlinked env s.manager ctx.tempPath)
  | fail actual => exact sameDisk rfl
  | chmod =>
    simp only [advanceReceive,finalizeChmod]
    split
    · exact .permitted rfl
    · exact sameDisk rfl
  | rename =>
    simp only [advanceReceive]
    split
    · exact sameDisk rfl
    · next moved done =>
      obtain ⟨disk,renamed,rfl⟩ := finalizeRename_ok done
      exact .moved rfl found rfl renamed
  | cleanup e => exact .unlinked (removeFile_unlinked env s.manager ctx.tempPath)
  | complete => exact sameDisk rfl

theorem advance_disk {s t : State} {env : Env} {c : Nat} {call : Call} (found : s.calls c = some call)
    (advanced : advance cfg sha256 s env c call = some t) : DiskChange s t ⟨env,.advance c⟩ := by
  cases call with
  | downloadHash plan =>
    simp only [advance] at advanced
    split at advanced
    · cases advanced
    · split at advanced
      · cases advanced; exact sameDisk rfl
      · split_ifs at advanced; cases advanced; exact sameDisk rfl
  | downloadInsert transfer => cases advanced; exact sameDisk rfl
  | uploadCreate plan =>
    simp only [advance] at advanced
    split_ifs at advanced with fresh
    split at advanced
    · cases advanced; exact sameDisk rfl
    · next made => cases advanced; exact .created rfl found fresh (by rw [(uploadCreate_ok made).2]; rfl)
  | uploadSetLen plan id ino =>
    simp only [advance,uploadSetLen] at advanced
    cases fault : env.io with
    | some e =>
      simp only [fault] at advanced
      cases advanced; exact .unlinked (removeFile_unlinked env s.manager _)
    | none =>
      simp only [fault] at advanced
      cases advanced; exact .resized rfl found rfl
  | uploadInsert plan id => cases advanced; exact sameDisk rfl
  | serveOpen id index ctx => simp only [advance] at advanced; split at advanced <;> (cases advanced; exact sameDisk rfl)
  | serveRead id index ctx ino =>
    simp only [advance] at advanced
    split at advanced <;> (cases advanced; exact sameDisk rfl)
  | serveProgress id index buf => cases advanced; exact sameDisk rfl
  | receive r => cases advanced; exact advanceReceive_disk found

/-- Everything that a step can do to the disk. -/
theorem step_disk {s t : State} {a : Action} (stepped : step cfg sha256 s a = some t) : DiskChange s t a := by
  obtain ⟨env,move⟩ := a
  cases move with
  | advance c =>
    obtain ⟨call,found,advanced⟩ := Option.bind_eq_some_iff.mp stepped
    exact advance_disk found advanced
  | resume c id =>
    simp only [step] at stepped
    split_ifs at stepped
    cases stepped
    have same : (resume env s.manager id).2.disk = s.manager.disk := by
      unfold resume
      split
      · rfl
      · split_ifs <;> rfl
    exact sameDisk same
  | abort c id =>
    simp only [step] at stepped
    split_ifs at stepped
    cases stepped
    have fewer : Unlinked s.manager.disk (abort env s.manager id).2.disk := by
      unfold abort
      split
      · exact .refl _
      · dsimp only
        split_ifs
        · exact .refl _
        · exact removeFile_unlinked env (s.manager.modify id (setPhase .aborted)) _
    exact .unlinked fewer
  | pauseAll => cases stepped; exact sameDisk rfl
  | sweepStale =>
    cases stepped
    exact .unlinked (foldl_removeFile_unlinked env _
      { s.manager with transfers := Table.keep (fun _ t => !stale cfg env.now t) s.manager.transfers })
  | initDownload c path chunkSize =>
    simp only [step] at stepped
    split_ifs at stepped
    split at stepped <;> (cases stepped; exact sameDisk rfl)
  | initUpload c req =>
    simp only [step] at stepped
    split_ifs at stepped
    split at stepped <;> (cases stepped; exact sameDisk rfl)
  | serveChunk c id index =>
    simp only [step] at stepped
    split_ifs at stepped
    split at stepped <;> (cases stepped; exact sameDisk rfl)
  | receiveChunk c id index chunkHash data =>
    simp only [step] at stepped
    split at stepped
    · cases stepped
    · split at stepped <;> (cases stepped; exact sameDisk rfl)

/-! ### Temporary files -/

theorem disk_next_le {s t : State} {a : Action} (change : DiskChange s t a) :
    s.manager.disk.next ≤ t.manager.disk.next := by
  cases change with
  | unlinked fewer => rw [fewer.next]
  | created _ _ fresh disk =>
    rw [disk,(Disk.create_new a.env.clock ((State.fresh_iff s).mp fresh).2).2.1]; omega
  | resized _ _ disk => rw [disk]; rfl
  | written _ _ _ _ disk => rw [disk]; rfl
  | permitted disk => rw [disk]; rfl
  | moved _ _ _ renamed =>
    obtain ⟨_,_,_,_,next,_⟩ := Disk.rename_moves renamed
    rw [next]

/-- Every upload has a temporary file of its own, under a name of its own. -/
structure Temps (s : State) : Prop where
  books : Books s
  issued : ∀ id temp ino, .created id temp ino ∈ s.trace → id ∈ s.issued
  named : ∀ id temp ino, .created id temp ino ∈ s.trace → ∃ dir, temp = join dir (tempName id)
  bounded : ∀ id temp ino, .created id temp ino ∈ s.trace → ino < s.manager.disk.next
  once : ∀ id temp temp' ino ino', .created id temp ino ∈ s.trace → .created id temp' ino' ∈ s.trace →
    temp = temp' ∧ ino = ino'
  apart : ∀ id id' temp temp' ino, .created id temp ino ∈ s.trace → .created id' temp' ino ∈ s.trace → id = id'
  sizing : ∀ c plan id ino, s.calls c = some (.uploadSetLen plan id ino) →
    .created id (plan.tempPath id) ino ∈ s.trace
  inserting : ∀ c plan id, s.calls c = some (.uploadInsert plan id) →
    ∃ ino, .created id (plan.tempPath id) ino ∈ s.trace
  admitted : ∀ spec, .admitted spec ∈ s.trace → spec.direction = .upload →
    ∃ ino, .created spec.transferId (tempOf spec) ino ∈ s.trace

theorem temps_start (disk : Disk PathBuf) : Temps (start disk) := by
  refine ⟨books_start disk,?_,?_,?_,?_,?_,?_,?_,?_⟩ <;> simp [start]

/-- A step that creates a temporary file does it under a new id, with a new file. -/
structure NewTemp (s t : State) (a : Action) (id : String) (temp : PathBuf) (ino : Nat) : Prop where
  uuid : id = a.env.uuid
  unused : id ∉ s.issued
  issued : id ∈ t.issued
  named : ∃ dir, temp = join dir (tempName id)
  free : ino = s.manager.disk.next
  room : t.manager.disk.next = s.manager.disk.next + 1
  name : t.manager.disk.names temp = some ino
  slot : ∃ c plan, temp = plan.tempPath id ∧ t.calls c = some (.uploadSetLen plan id ino)

theorem created_before {s t : State} {a : Action} {id : String} {temp : PathBuf} {ino : Nat} (books : Books s)
    (stepped : step cfg sha256 s a = some t) (created : .created id temp ino ∈ t.trace) :
    .created id temp ino ∈ s.trace ∨ NewTemp s t a id temp ino := by
  rcases event_origin stepped created with before | origin
  · exact .inl before
  cases origin with
  | @created c plan _ _ found fresh made manager calls =>
    have held : t.calls c = some (.uploadSetLen plan a.env.uuid ino) := by rw [calls]; exact Function.update_self ..
    have issued := (books_step books stepped).pendingIssued _ _ _ held rfl
    obtain ⟨unused,missing⟩ := (State.fresh_iff s).mp fresh
    obtain ⟨number,next,names,_⟩ := Disk.create_new a.env.clock missing
    obtain ⟨rfl,rfl⟩ := uploadCreate_ok made
    refine .inr ⟨rfl,unused,issued,⟨_,rfl⟩,number,manager ▸ next,?_,⟨_,_,rfl,held⟩⟩
    rw [manager,number]; exact (congrFun names _).trans (Function.update_self ..)

section
variable {s t : State} {a : Action}

theorem created_once {id : String} {temp temp' : PathBuf} {ino ino' : Nat} (temps : Temps s)
    (stepped : step cfg sha256 s a = some t) (created : .created id temp ino ∈ t.trace)
    (created' : .created id temp' ino' ∈ t.trace) : temp = temp' ∧ ino = ino' := by
  rcases created_before temps.books stepped created with old | new
  · rcases created_before temps.books stepped created' with old' | new'
    · exact temps.once id temp temp' ino ino' old old'
    · exact absurd (temps.issued id temp ino old) new'.unused
  · rcases created_before temps.books stepped created' with old' | new'
    · exact absurd (temps.issued id temp' ino' old') new.unused
    · obtain ⟨c,plan,rfl,held⟩ := new.slot
      obtain ⟨c',plan',rfl,held'⟩ := new'.slot
      cases (books_step temps.books stepped).pendingOnce c c' _ _ id held held' rfl rfl
      rw [held] at held'; cases held'
      exact ⟨rfl,rfl⟩

theorem created_apart {id id' : String} {temp temp' : PathBuf} {ino : Nat} (temps : Temps s)
    (stepped : step cfg sha256 s a = some t) (created : .created id temp ino ∈ t.trace)
    (created' : .created id' temp' ino ∈ t.trace) : id = id' := by
  rcases created_before temps.books stepped created with old | new
  · rcases created_before temps.books stepped created' with old' | new'
    · exact temps.apart id id' temp temp' ino old old'
    · have below := temps.bounded id temp ino old
      rw [new'.free] at below; omega
  · rcases created_before temps.books stepped created' with old' | new'
    · have below := temps.bounded id' temp' ino old'
      rw [new.free] at below; omega
    · rw [new.uuid,new'.uuid]

theorem admitted_created {spec : TransferSpec} (temps : Temps s) (stepped : step cfg sha256 s a = some t)
    (admitted : .admitted spec ∈ t.trace) (upload : spec.direction = .upload) :
    ∃ ino, .created spec.transferId (tempOf spec) ino ∈ t.trace := by
  rcases admitted_before stepped admitted with old | ⟨c,call,new,_,held,inserts,_,_,rfl⟩
  · obtain ⟨ino,created⟩ := temps.admitted spec old upload
    exact ⟨ino,trace_grows stepped created⟩
  · cases call with
    | downloadInsert transfer =>
      cases inserts
      rw [(temps.books.starting c _ held).1] at upload; cases upload
    | uploadInsert plan id =>
      cases inserts
      obtain ⟨ino,created⟩ := temps.inserting c plan id held
      exact ⟨ino,trace_grows stepped created⟩
    | receive r => simp only [Call.update] at inserts; split at inserts <;> cases inserts
    | _ => cases inserts

theorem temps_step (temps : Temps s) (stepped : step cfg sha256 s a = some t) : Temps t where
  books := books_step temps.books stepped
  issued := by
    intro id temp ino created
    rcases created_before temps.books stepped created with old | new
    · exact (step_history stepped).issued id (temps.issued id temp ino old)
    · exact new.issued
  named := by
    intro id temp ino created
    rcases created_before temps.books stepped created with old | new
    · exact temps.named id temp ino old
    · exact new.named
  bounded := by
    intro id temp ino created
    rcases created_before temps.books stepped created with old | new
    · exact lt_of_lt_of_le (temps.bounded id temp ino old) (disk_next_le (step_disk stepped))
    · rw [new.free,new.room]; omega
  once _ _ _ _ _ created created' := created_once temps stepped created created'
  apart _ _ _ _ _ created created' := created_apart temps stepped created created'
  sizing := by
    intro c plan id ino held
    cases step_call stepped held with
    | kept before _ => exact trace_grows stepped (temps.sizing c plan id ino before)
    | uploadSetLen _ _ _ _ _ logged => exact logged
  inserting := by
    intro c plan id held
    cases step_call stepped held with
    | kept before _ =>
      obtain ⟨ino,created⟩ := temps.inserting c plan id before
      exact ⟨ino,trace_grows stepped created⟩
    | uploadInsert before _ _ => exact ⟨_,trace_grows stepped (temps.sizing c plan id _ before)⟩
  admitted _ admitted upload := admitted_created temps stepped admitted upload

end

/-- The final path of a call is not the temporary file of another upload. -/
def sparesTemps (s : State) (r : Receiving) : Bool :=
  s.trace.all fun e => match e with
    | .created id temp _ => id = r.id || temp ≠ r.ctx.finalPath
    | _ => true

theorem sparesTemps_ne {s : State} {r : Receiving} {id : String} {temp : PathBuf} {ino : Nat}
    (spares : sparesTemps s r = true) (created : .created id temp ino ∈ s.trace) (other : id ≠ r.id) :
    temp ≠ r.ctx.finalPath := by
  have here := List.all_eq_true.mp spares _ created
  simpa [other] using here

/-- A call of an upload has the upload's temporary file. -/
theorem call_temp {s : State} {c : Nat} {r : Receiving} {temp : PathBuf} {ino : Nat} (temps : Temps s)
    (found : s.calls c = some (.receive r)) (created : .created r.id temp ino ∈ s.trace) : r.ctx.tempPath = temp := by
  obtain ⟨spec,admitted,fits⟩ := temps.books.receiving c r found
  obtain ⟨ino',created'⟩ := temps.admitted spec admitted fits.upload
  rw [fits.key,← fits.temp] at created'
  exact (temps.once r.id _ _ ino' ino created' created).1

/-- The name of a temporary file keeps leading to it, or leads nowhere: a step
    that gives the name to another file is a rename by another upload. -/
theorem temp_name_step {s t : State} {a : Action} {id : String} {temp : PathBuf} {ino : Nat} (temps : Temps s)
    (stepped : step cfg sha256 s a = some t) (created : .created id temp ino ∈ s.trace)
    (spares : ∀ c r, a.move = .advance c → s.calls c = some (.receive r) → r.pc = .rename → id ≠ r.id → temp ≠ r.ctx.finalPath) :
    t.manager.disk.names temp = s.manager.disk.names temp ∨ t.manager.disk.names temp = none := by
  cases step_disk stepped with
  | unlinked fewer => exact fewer.names temp
  | created _ _ fresh disk =>
    obtain ⟨dir,rfl⟩ := temps.named id temp ino created
    obtain ⟨unused,missing⟩ := (State.fresh_iff s).mp fresh
    left
    rw [disk,(Disk.create_new a.env.clock missing).2.2.1,Function.update_of_ne]
    intro same
    have known := temps.issued id _ ino created
    rw [join_tempName_injective same] at known
    exact unused known
  | resized _ _ disk => rw [disk]; exact .inl rfl
  | written _ _ _ _ disk => rw [disk]; exact .inl rfl
  | permitted disk => rw [disk]; exact .inl rfl
  | @moved c r move found late renamed =>
    obtain ⟨moved,at_source,at_target,_,_,others⟩ := Disk.rename_moves renamed
    by_cases target : temp = r.ctx.finalPath
    · by_cases own : id = r.id
      · subst own
        have source := call_temp temps found created
        rw [source] at at_source
        rw [at_source,target,at_target]; exact .inl rfl
      · exact absurd target (spares c r move found late own)
    · exact others temp target

/-! ### Abort and publication -/

/-- The renames onto a final path that were made for a transfer, newest first. -/
def publications (s : State) (id : String) : List (PathBuf × Bytes) :=
  s.trace.filterMap fun e => match e with
    | .published id' path content => if id' = id then some (path,content) else none
    | _ => none

/-- From the abort of an upload on nothing more is published for it. -/
def AbortFinal (cfg : TransferConfig) (sha256 : Bytes → String) (s : State) (as : List Action) : Prop :=
  ∀ early env c id mid late, as = early ++ ⟨env,.abort c id⟩ :: mid ++ late →
    ∀ before, run (step cfg sha256) s early = some before →
      (∃ t, before.manager.transfers.lookup id = some t ∧ t.spec.direction = .upload) →
      ∀ after, run (step cfg sha256) before (⟨env,.abort c id⟩ :: mid) = some after →
        publications after id = publications before id

/-- An abort does remove the temporary file, and no upload is renamed onto the
    temporary file of another one. -/
def severs (s : State) (a : Action) : Bool :=
  match a.move with
  | .abort _ id => match s.manager.transfers.lookup id with
    | some t => t.spec.direction ≠ .upload || a.env.unlink.isNone ||
        (s.manager.disk.names t.progress.tempPath).isNone
    | none => true
  | .advance c => match s.calls c with
    | some (.receive r) => r.pc ≠ .rename || sparesTemps s r
    | _ => true
  | _ => true

theorem severs_spares {s : State} {a : Action} (severs : severs s a = true) (c : Nat) (r : Receiving)
    (move : a.move = .advance c) (found : s.calls c = some (.receive r)) (late : r.pc = .rename) :
    sparesTemps s r = true := by
  simpa [TransferDisk.severs,move,found,late] using severs

/-- The temporary file of an upload is gone, and so much was published for it. -/
structure Severed (id : String) (temp : PathBuf) (past : List (PathBuf × Bytes)) (s : State) : Prop where
  temps : Temps s
  created : ∃ ino, .created id temp ino ∈ s.trace
  gone : s.manager.disk.names temp = none
  past : publications s id = past

/-- Only a rename of the temporary file publishes. -/
theorem publications_step {s t : State} {a : Action} {id : String} {temp : PathBuf} {ino : Nat} (temps : Temps s)
    (created : .created id temp ino ∈ s.trace) (gone : s.manager.disk.names temp = none)
    (stepped : step cfg sha256 s a = some t) : publications t id = publications s id := by
  obtain ⟨new,trace,origin⟩ := (step_history stepped).trace
  unfold publications
  rw [trace,List.filterMap_append]
  have silent : ∀ e ∈ new, (match e with
      | .published id' path content => if id' = id then some (path,content) else none
      | _ => none) = none := by
    intro e member
    cases origin e member with
    | published _ found late renamed _ =>
      rw [ite_eq_right_iff]
      rintro rfl
      obtain ⟨disk,moved,_⟩ := finalizeRename_ok renamed
      obtain ⟨_,there,_⟩ := Disk.rename_moves moved
      rw [call_temp temps found created,gone] at there; cases there
    | _ => rfl
  rw [List.filterMap_eq_nil_iff.mpr silent,List.nil_append]

theorem severed_step {s t : State} {a : Action} {id : String} {temp : PathBuf} {past : List (PathBuf × Bytes)}
    (severed : Severed id temp past s) (clean : severs s a = true) (stepped : step cfg sha256 s a = some t) :
    Severed id temp past t := by
  obtain ⟨ino,created⟩ := severed.created
  refine ⟨temps_step severed.temps stepped,⟨ino,trace_grows stepped created⟩,?_,?_⟩
  · rcases temp_name_step severed.temps stepped created (fun c r move found late =>
      sparesTemps_ne (severs_spares clean c r move found late) created) with same | none
    · rw [same]; exact severed.gone
    · exact none
  · rw [publications_step severed.temps created severed.gone stepped]; exact severed.past

theorem abort_unlinks {env : Env} {m : Manager} {id : String} {t : Transfer} (found : m.transfers.lookup id = some t)
    (named : t.progress.tempPath ≠ []) (clean : env.unlink = none ∨ m.disk.names t.progress.tempPath = none) :
    (abort env m id).2.disk.names t.progress.tempPath = none := by
  have temp : t.progress.tempPath.isEmpty = false := by simpa using named
  rcases clean with calm | missing
  · simp [abort,found,temp,removeFile,calm,Manager.modify,Disk.remove]
  · have fewer := (removeFile_unlinked env (m.modify id (setPhase .aborted)) t.progress.tempPath).names t.progress.tempPath
    simp only [abort,found,temp]
    rcases fewer with same | gone
    · exact same.trans missing
    · exact gone

/-- An abort of an upload cuts it off from its final path. -/
theorem abort_severs {s t : State} {env : Env} {c : Nat} {id : String} {old : Transfer} (temps : Temps s)
    (found : s.manager.transfers.lookup id = some old) (upload : old.spec.direction = .upload)
    (clean : severs s ⟨env,.abort c id⟩ = true) (stepped : step cfg sha256 s ⟨env,.abort c id⟩ = some t) :
    Severed id old.progress.tempPath (publications s id) t := by
  obtain ⟨spec,admitted,belongs⟩ := temps.books.table id old found
  have direction : spec.direction = .upload := by rw [belongs.same] at upload; exact upload
  obtain ⟨ino,created⟩ := temps.admitted spec admitted direction
  rw [belongs.key,← belongs.temp] at created
  obtain ⟨dir,named⟩ := temps.named id _ ino created
  have nonempty : old.progress.tempPath ≠ [] := by rw [named]; simp [join,tempName_ne_dot]
  have removed : env.unlink = none ∨ s.manager.disk.names old.progress.tempPath = none := by
    simpa [severs,found,upload] using clean
  refine ⟨temps_step temps stepped,⟨ino,trace_grows stepped created⟩,?_,?_⟩
  · simp only [step] at stepped
    split_ifs at stepped
    cases stepped
    exact abort_unlinks found nonempty removed
  · simp only [step] at stepped
    split_ifs at stepped
    cases stepped
    rfl

/-- In a run in which aborts remove the temporary file and no upload is renamed
    onto another one's temporary file, nothing is published after an abort. -/
theorem abort_final (disk : Disk PathBuf) (as : List Action)
    (clean : Along (step cfg sha256) (fun s a => severs s a = true) (start disk) as) :
    AbortFinal cfg sha256 (start disk) as := by
  rintro early env c id mid late rfl before reached ⟨old,found,upload⟩ after ran
  have temps : Temps before := run_preserves (fun _ _ _ => temps_step) (temps_start disk) reached
  have rest := (along_append (along_append (by simpa using clean) reached).2 ran).1
  obtain ⟨aborted,stepped,later⟩ := run_cons_iff.mp ran
  have cut := abort_severs temps found upload (rest aborted stepped).1 stepped
  exact (run_keeps (fun _ _ _ => severed_step) cut (rest aborted stepped).2 later).past

/-- An upload is aborted while its last call stands before the rename. -/
def abortedLate : List Action :=
  admitUpload 0 "u" "b" "A" ++ [sendChunk 0 "u" "A" [65]] ++ goOn 0 5 ++ [⟨.calm 0 "",.abort 1 "u"⟩]

theorem abort_final_abortedLate :
    AbortFinal (.new 4 1024 1024 60) plainDigest (start smallDisk) (abortedLate ++ goOn 0 2) :=
  abort_final smallDisk (abortedLate ++ goOn 0 2) (by decide +kernel)

/-- Another upload takes the name of its temporary file before the call goes on. -/
def takenName : List Action :=
  admitUpload 1 "v" ".gx_tmp_u" "B" ++ [sendChunk 1 "v" "B" [66]] ++ goOn 1 7

theorem abort_not_final :
    ¬ AbortFinal (.new 4 1024 1024 60) plainDigest (start smallDisk) (abortedLate ++ takenName ++ goOn 0 1) := by
  intro final
  have early : (run (step (.new 4 1024 1024 60) plainDigest) (start smallDisk)
      (admitUpload 0 "u" "b" "A" ++ [sendChunk 0 "u" "A" [65]] ++ goOn 0 5)).map (fun s =>
        ((s.manager.transfers.lookup "u").map fun t => t.spec.direction,publications s "u")) =
      some (some .upload,[]) := by decide +kernel
  have late : (run (step (.new 4 1024 1024 60) plainDigest) (start smallDisk)
      (abortedLate ++ takenName ++ goOn 0 1)).map (publications · "u") = some [(["b"],[66])] := by decide +kernel
  obtain ⟨before,reached,known⟩ := Option.map_eq_some_iff.mp early
  obtain ⟨after,ran,published⟩ := Option.map_eq_some_iff.mp late
  rw [abortedLate,List.append_assoc,List.append_assoc] at ran
  obtain ⟨mid,first,second⟩ := run_append_iff.mp ran
  rw [reached] at first; cases first
  obtain ⟨t,found,upload⟩ := Option.map_eq_some_iff.mp (congrArg Prod.fst known)
  have same := final _ (.calm 0 "") 1 "u" (takenName ++ goOn 0 1) [] (by simp [abortedLate]) before reached
    ⟨t,found,upload⟩ after second
  rw [published,show publications before "u" = [] from congrArg Prod.snd known] at same
  cases same

end Sctl.TransferDisk
