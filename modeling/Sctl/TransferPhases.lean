import Sctl.TransferBooks

/-!
The phases of transfers over whole runs: how many transfers are active at once,
when a terminal phase stays, and when `Verifying` is always left again. The
methods check the phase under one lock and write it under a later one, so each
result names the state in which the writing section may run.
-/
namespace Sctl.TransferPhases
open Sctl.Files Sctl.TransferTypes Sctl.TransferManager Sctl.TransferSteps Sctl.TransferBooks Sctl.Runs

variable {cfg : TransferConfig} {sha256 : Bytes → String}

/-! ### The phase that an edit writes -/

/-- With this chunk every chunk of the transfer is done. -/
def fillsLast (index : Nat) (t : Transfer) : Bool := (t.progress.chunksDone.set index true).all id

/-- One more bad chunk is one too many. -/
def reachesLimit (cfg : TransferConfig) (totalChunks : Nat) (t : Transfer) : Bool :=
  cfg.maxChunkRetries * totalChunks % 2 ^ 32 ≤ (t.progress.errorCount + 1) % 2 ^ 32

def editPhase (cfg : TransferConfig) (t : Transfer) : Edit → Phase
  | .served index _ _ => if fillsLast index t then .complete else t.progress.phase
  | .rejected totalChunks _ => if reachesLimit cfg totalChunks t then tooManyErrors else t.progress.phase
  | .received index _ _ => if fillsLast index t then .verifying else t.progress.phase
  | .hashed _ => t.progress.phase
  | .mismatched => hashMismatch
  | .completed => .complete
  | .resumed _ => .transferring
  | .aborted => .aborted

theorem edit_phase (e : Edit) (t : Transfer) : (e.apply cfg t).progress.phase = editPhase cfg t e := by
  cases e with
  | served index len now =>
    by_cases last : (t.progress.chunksDone.set index true).all id
    · simp only [Edit.apply,serveMark,editPhase,fillsLast,Transfer.allDone,markChunk,last,if_true,setPhase]
    · simp only [Edit.apply,serveMark,editPhase,fillsLast,Transfer.allDone,markChunk,last,Bool.false_eq_true,if_false]
  | rejected totalChunks now =>
    simp only [Edit.apply,rejectChunk,editPhase,reachesLimit,decide_eq_true_eq]
    split <;> rfl
  | received index len now =>
    by_cases last : (t.progress.chunksDone.set index true).all id
    · simp only [Edit.apply,receiveMark,editPhase,fillsLast,Transfer.allDone,markChunk,last,if_true,setPhase]
    · simp only [Edit.apply,receiveMark,editPhase,fillsLast,Transfer.allDone,markChunk,last,Bool.false_eq_true,if_false]
  | _ => rfl

theorem pauseTransfer_phase (t : Transfer) :
    (pauseTransfer t).progress.phase = if t.progress.phase.active then .paused else t.progress.phase := by
  unfold pauseTransfer
  split <;> rfl

/-- An id that a step inserts is not in the table. -/
theorem insert_missing {s t : State} {a : Action} {new : Transfer} (books : Books s)
    (stepped : step cfg sha256 s a = some t) (inserts : update s a = .insert new) :
    s.manager.transfers.lookup new.spec.transferId = none := by
  obtain ⟨c,call,_,there,_,pend,_⟩ := insert_call stepped inserts
  cases found : s.manager.transfers.lookup new.spec.transferId with
  | none => rfl
  | some old =>
    obtain ⟨spec,admitted,belongs⟩ := books.table _ old found
    exact absurd belongs.key (books.pendingNew c call _ there pend spec admitted)

/-! ### The limit on active transfers -/

def WithinLimit (cfg : TransferConfig) (s : State) : Prop := activeCount s.manager ≤ cfg.maxConcurrent

/-- The step that makes a transfer active finds room for it: an `init_download`
    or `init_upload` that inserts its transfer, or a `resume` of a paused one. -/
def FindsRoom (cfg : TransferConfig) (s : State) (a : Action) : Prop :=
  match update s a with
  | .insert _ => activeCount s.manager < cfg.maxConcurrent
  | .edit id (.resumed _) =>
    ((s.manager.transfers.lookup id).map fun t => t.progress.phase) = some .paused →
      activeCount s.manager < cfg.maxConcurrent
  | _ => True

/-- No edit but `resume` makes a transfer active. -/
theorem edit_active {e : Edit} {t : Transfer} (now : (e.apply cfg t).progress.phase.active = true) :
    t.progress.phase.active = true ∨ ∃ time, e = .resumed time := by
  rw [edit_phase] at now
  cases e with
  | served index len time =>
    simp only [editPhase] at now
    split at now
    · cases now
    · exact .inl now
  | rejected totalChunks time =>
    simp only [editPhase] at now
    split at now
    · cases now
    · exact .inl now
  | received index len time =>
    simp only [editPhase] at now
    split at now
    · cases now
    · exact .inl now
  | hashed actual => exact .inl now
  | resumed time => exact .inr ⟨time,rfl⟩
  | _ => cases now

theorem edit_count_le {table : Table String Transfer} {id : String} {e : Edit} (other : ∀ time, e ≠ .resumed time) :
    (Table.modify id (e.apply cfg) table).count (fun t => t.progress.phase.active) ≤
      table.count fun t => t.progress.phase.active := by
  cases found : table.lookup id with
  | none => rw [Table.modify_missing _ found]
  | some t =>
    have counted := Table.count_modify (fun t => t.progress.phase.active) (e.apply cfg) found
    by_cases now : (e.apply cfg t).progress.phase.active = true
    · have before : t.progress.phase.active = true := by
        rcases edit_active now with was | ⟨time,same⟩
        · exact was
        · exact absurd same (other time)
      simp only [now,before,if_true] at counted
      omega
    · simp only [now] at counted
      split at counted <;> simp at counted <;> omega

theorem insert_withinLimit {s t : State} {a : Action} {new : Transfer} (books : Books s)
    (stepped : step cfg sha256 s a = some t) (inserts : update s a = .insert new) :
    activeCount t.manager = activeCount s.manager + 1 := by
  obtain ⟨c,call,_,there,inserted,_,_⟩ := insert_call stepped inserts
  have begin := insert_starting books there inserted
  have missing := insert_missing books stepped inserts
  simp only [activeCount,step_transfers stepped,inserts,Update.apply]
  rw [Table.count_insert_new _ missing]
  simp [begin.phase,Phase.active]

theorem resume_count {table : Table String Transfer} {id : String} {t : Transfer} {now : Nat}
    (found : table.lookup id = some t) (may : t.progress.phase = .paused ∨ t.progress.phase = .transferring) :
    (Table.modify id ((Edit.resumed now).apply cfg) table).count (fun t => t.progress.phase.active) =
      table.count (fun t => t.progress.phase.active) + if t.progress.phase = .paused then 1 else 0 := by
  have counted := Table.count_modify (fun t => t.progress.phase.active) ((Edit.resumed now).apply cfg) found
  rw [edit_phase] at counted
  rcases may with paused | running
  · simpa [editPhase,paused,Phase.active] using counted
  · simpa [editPhase,running,Phase.active] using counted

/-- A `resume` step is made on a transfer it may resume. -/
theorem resumed_may {s : State} {a : Action} {id : String} {now : Nat} (resumes : update s a = .edit id (.resumed now)) :
    ∃ t, s.manager.transfers.lookup id = some t ∧
      (t.progress.phase = .paused ∨ t.progress.phase = .transferring) := by
  cases edit_origin resumes with
  | resumed found may => exact ⟨_,found,may⟩

theorem findsRoom_iff {s t : State} {a : Action} (books : Books s) (within : WithinLimit cfg s)
    (stepped : step cfg sha256 s a = some t) : WithinLimit cfg t ↔ FindsRoom cfg s a := by
  have table := step_transfers stepped
  unfold WithinLimit at within ⊢
  unfold FindsRoom
  cases made : update s a with
  | keep =>
    rw [made] at table
    simp only [activeCount,table,Update.apply,iff_true]
    exact within
  | insert new =>
    rw [insert_withinLimit books stepped made]
    exact Nat.succ_le_iff
  | pauseAll =>
    rw [made] at table
    simp only [activeCount,table,Update.apply,iff_true]
    refine le_trans (Table.count_mapValues_le ?_) within
    intro v now
    rw [pauseTransfer_phase] at now
    split at now
    · cases now
    · exact now
  | sweep now =>
    rw [made] at table
    simp only [activeCount,table,Update.apply,iff_true]
    exact le_trans (Table.count_keep_le ..) within
  | edit id e =>
    rw [made] at table
    by_cases resumes : ∃ time, e = .resumed time
    · obtain ⟨time,rfl⟩ := resumes
      obtain ⟨old,found,may⟩ := resumed_may made
      simp only [activeCount,table,Update.apply,found,Option.map_some,Option.some.injEq]
      rw [resume_count found may]
      unfold activeCount at within
      split
      · next paused => simp only [paused,true_implies]; exact Nat.succ_le_iff
      · next other => simp only [other,false_implies,iff_true]; omega
    · have other : ∀ time, e ≠ .resumed time := fun time same => resumes ⟨time,same⟩
      have fewer : activeCount t.manager ≤ cfg.maxConcurrent := by
        rw [activeCount,table]; exact le_trans (edit_count_le other) within
      cases e with
      | resumed time => exact absurd rfl (other time)
      | _ => simpa using fewer

/-- The limit holds in every state of a run exactly when every step that makes
    a transfer active still finds room for it. -/
theorem limit_kept_iff (disk : Disk PathBuf) (as : List Action) :
    Always (step cfg sha256) (WithinLimit cfg) (start disk) as ↔
      Along (step cfg sha256) (FindsRoom cfg) (start disk) as :=
  always_iff_along (fun _ _ _ books stepped => books_step books stepped)
    (fun _ _ _ books within stepped => findsRoom_iff books within stepped) (books_start disk) (Nat.zero_le _)

instance : DecidablePred (WithinLimit cfg) := fun _ => inferInstanceAs (Decidable (_ ≤ _))

/-- Two downloads pass the check before either is inserted. -/
def twoDownloads : List Action :=
  [⟨.calm 0 "x",.initDownload 0 "/a" none⟩,⟨.calm 0 "y",.initDownload 1 "/a" none⟩,⟨.calm 0 "x",.advance 0⟩,
    ⟨.calm 0 "y",.advance 1⟩,⟨.calm 0 "x",.advance 0⟩,⟨.calm 0 "y",.advance 1⟩]

theorem limit_overrun :
    ¬ Always (step (.new 1 1024 1024 60) plainDigest) (WithinLimit (.new 1 1024 1024 60)) (start smallDisk)
      twoDownloads := by
  decide +kernel

/-! ### Terminal phases -/

def phaseOf (s : State) (id : String) : Option Phase := (s.manager.transfers.lookup id).map fun t => t.progress.phase

/-- What is terminal in the earlier state has the same phase in the later one,
    or is gone. -/
def Settled (s t : State) : Prop :=
  ∀ id phase, phaseOf s id = some phase → phase.terminal = true → phaseOf t id = some phase ∨ phaseOf t id = none

/-- The edit leaves the phase of a transfer that is already terminal. -/
def Harmless (cfg : TransferConfig) (t : Transfer) : Edit → Prop
  | .served index _ _ => fillsLast index t = true → t.progress.phase = .complete
  | .rejected totalChunks _ => reachesLimit cfg totalChunks t = true → t.progress.phase = tooManyErrors
  | .received index _ _ => fillsLast index t = false
  | .hashed _ => True
  | .mismatched => t.progress.phase = hashMismatch
  | .completed => t.progress.phase = .complete
  | .resumed _ => True
  | .aborted => t.progress.phase = .aborted

/-- A step that writes a phase does not find another terminal phase there. -/
def Rechecks (cfg : TransferConfig) (s : State) (a : Action) : Prop :=
  match update s a with
  | .edit id e => ∀ t, s.manager.transfers.lookup id = some t → t.progress.phase.terminal = true → Harmless cfg t e
  | _ => True

theorem harmless_iff {t : Transfer} {e : Edit} (ended : t.progress.phase.terminal = true)
    (other : ∀ time, e ≠ .resumed time) : editPhase cfg t e = t.progress.phase ↔ Harmless cfg t e := by
  have notVerifying : Phase.verifying ≠ t.progress.phase := by
    intro same; rw [← same] at ended; cases ended
  cases e with
  | served index len now =>
    by_cases last : fillsLast index t = true
    · simp only [editPhase,Harmless,last,if_true,true_implies]; exact eq_comm
    · simp [editPhase,Harmless,last]
  | rejected totalChunks now =>
    by_cases last : reachesLimit cfg totalChunks t = true
    · simp only [editPhase,Harmless,last,if_true,true_implies]; exact eq_comm
    · simp [editPhase,Harmless,last]
  | received index len now =>
    by_cases last : fillsLast index t = true
    · simp [editPhase,Harmless,last,notVerifying]
    · simp [editPhase,Harmless,last]
  | hashed actual => simp [editPhase,Harmless]
  | resumed time => exact absurd rfl (other time)
  | mismatched => exact eq_comm
  | completed => exact eq_comm
  | aborted => exact eq_comm

/-- A transfer was admitted and is gone. -/
structure Gone (spec : TransferSpec) (s : State) : Prop where
  books : Books s
  admitted : .admitted spec ∈ s.trace
  missing : s.manager.transfers.lookup spec.transferId = none

/-- An admitted transfer that is gone does not come back. -/
theorem gone_step {s t : State} {a : Action} {spec : TransferSpec} (gone : Gone spec s)
    (stepped : step cfg sha256 s a = some t) : Gone spec t := by
  refine ⟨books_step gone.books stepped,trace_grows stepped gone.admitted,?_⟩
  cases found : t.manager.transfers.lookup spec.transferId with
  | none => rfl
  | some after =>
    rw [step_transfers stepped] at found
    rcases apply_lookup found with ⟨before,there,_⟩ | ⟨inserts,same⟩
    · rw [gone.missing] at there; cases there
    · obtain ⟨c,call,_,there,_,pend,_⟩ := insert_call stepped inserts
      exact absurd same (gone.books.pendingNew c call _ there pend spec gone.admitted)

theorem settled_compose {s t u : State} {a : Action} {rest : List Action} (books : Books s)
    (stepped : step cfg sha256 s a = some t) (ran : run (step cfg sha256) t rest = some u) (first : Settled s t)
    (second : Settled t u) : Settled s u := by
  intro id phase there ended
  rcases first id phase there ended with same | gone
  · exact second id phase same ended
  · obtain ⟨old,found,_⟩ := Option.map_eq_some_iff.mp there
    obtain ⟨spec,admitted,belongs⟩ := books.table id old found
    have before : Gone spec t := by
      refine ⟨books_step books stepped,trace_grows stepped admitted,?_⟩
      rw [belongs.key]; exact Option.map_eq_none_iff.mp gone
    have later : Gone spec u := run_preserves (fun _ _ _ => gone_step) before ran
    have missing := later.missing
    rw [belongs.key] at missing
    exact .inr (Option.map_eq_none_iff.mpr missing)

/-- The phases after the update of one transfer. -/
theorem phaseOf_edit {s t : State} {a : Action} {id : String} {e : Edit} (stepped : step cfg sha256 s a = some t)
    (made : update s a = .edit id e) (id' : String) : phaseOf t id' =
      if id' = id then (s.manager.transfers.lookup id).map (editPhase cfg · e) else phaseOf s id' := by
  rw [phaseOf,step_transfers stepped,made,Update.apply,Table.lookup_modify]
  split
  · simp [Function.comp_def,edit_phase]
  · rfl

/-- The update of a terminal transfer is not one of `resume`. -/
theorem terminal_not_resumed {s : State} {a : Action} {id : String} {e : Edit} {old : Transfer}
    (made : update s a = .edit id e) (found : s.manager.transfers.lookup id = some old)
    (ended : old.progress.phase.terminal = true) : ∀ time, e ≠ .resumed time := by
  rintro time rfl
  obtain ⟨old',found',may⟩ := resumed_may made
  rw [found] at found'; cases found'
  rcases may with held | held <;> rw [held] at ended <;> cases ended

theorem settled_edit_iff {s t : State} {a : Action} {id : String} {e : Edit} (stepped : step cfg sha256 s a = some t)
    (made : update s a = .edit id e) : Settled s t ↔
      ∀ old, s.manager.transfers.lookup id = some old → old.progress.phase.terminal = true → Harmless cfg old e := by
  have after := phaseOf_edit stepped made
  constructor
  · intro settled old found ended
    refine (harmless_iff ended (terminal_not_resumed made found ended)).mp ?_
    have now := settled id old.progress.phase (by simp [phaseOf,found]) ended
    simpa [after,found] using now
  · intro harmless id' phase there ended
    rw [after]
    split
    · next same =>
      subst same
      obtain ⟨old,found,rfl⟩ := Option.map_eq_some_iff.mp there
      have kept := (harmless_iff ended (terminal_not_resumed made found ended)).mpr (harmless old found ended)
      rw [found]
      exact .inl (congrArg some kept)
    · exact .inl there

theorem rechecks_iff {s t : State} {a : Action} (books : Books s) (stepped : step cfg sha256 s a = some t) :
    Settled s t ↔ Rechecks cfg s a := by
  have table := step_transfers stepped
  unfold Rechecks
  cases made : update s a with
  | keep =>
    rw [made] at table
    simp only [iff_true]
    intro id phase there _
    rw [phaseOf,table]; exact .inl there
  | insert new =>
    have missing := insert_missing books stepped made
    rw [made] at table
    simp only [iff_true]
    intro id phase there _
    have differs : id ≠ new.spec.transferId := by
      rintro rfl; simp [phaseOf,missing] at there
    rw [phaseOf,table,Update.apply,Table.lookup_insert_eq,if_neg differs]
    exact .inl there
  | pauseAll =>
    rw [made] at table
    simp only [iff_true]
    intro id phase there ended
    obtain ⟨old,found,rfl⟩ := Option.map_eq_some_iff.mp there
    have idle : old.progress.phase.active = false := by
      cases held : old.progress.phase <;> rw [held] at ended <;> first | rfl | cases ended
    rw [phaseOf,table,Update.apply,Table.lookup_mapValues,found]
    simp [pauseTransfer_phase,idle]
  | sweep now =>
    rw [made] at table
    simp only [iff_true]
    intro id phase there _
    obtain ⟨old,found,rfl⟩ := Option.map_eq_some_iff.mp there
    rw [phaseOf,table]
    cases after : ((Update.sweep now).apply cfg s.manager.transfers).lookup id with
    | none => exact .inr rfl
    | some new =>
      have kept := (Table.lookup_keep_iff.mp after).1
      rw [found] at kept; cases kept
      exact .inl rfl
  | edit id e => exact settled_edit_iff stepped made

/-- Terminal phases stay as they are through a run exactly when every step that
    writes a phase finds the transfer in no other terminal phase. -/
theorem terminal_settled_iff (disk : Disk PathBuf) (as : List Action) :
    Between (step cfg sha256) Settled (start disk) as ↔ Along (step cfg sha256) (Rechecks cfg) (start disk) as :=
  between_iff_along (fun _ _ _ books stepped => books_step books stepped) (fun _ _ _ there _ => .inl there)
    (fun _ _ _ _ _ books stepped ran first second => settled_compose books stepped ran first second)
    (fun _ _ _ books stepped => rechecks_iff books stepped) (books_start disk)

/-- A chunk sent twice; the first call finishes the upload after the second has written. -/
def finishedOnce : List Action :=
  admitUpload 0 "u" "b" "A" ++ [sendChunk 0 "u" "A" [65],sendChunk 1 "u" "A" [65]] ++ goOn 1 2 ++ goOn 0 7

theorem terminal_left :
    ¬ Between (step (.new 4 1024 1024 60) plainDigest) Settled (start smallDisk)
      (finishedOnce ++ goOn 1 1) := by
  intro all
  have early : (run (step (.new 4 1024 1024 60) plainDigest) (start smallDisk) finishedOnce).map (phaseOf · "u") =
      some (some .complete) := by decide +kernel
  have late : (run (step (.new 4 1024 1024 60) plainDigest) (start smallDisk)
      (finishedOnce ++ goOn 1 1)).map (phaseOf · "u") = some (some .verifying) := by decide +kernel
  obtain ⟨u,ran,verifying⟩ := Option.map_eq_some_iff.mp late
  obtain ⟨t,first,second⟩ := run_append_iff.mp ran
  have complete : phaseOf t "u" = some .complete := by simpa [first] using early
  have kept := all finishedOnce _ [] (by simp) t first u second "u" .complete complete rfl
  simp [verifying] at kept

/-! ### Missing chunks -/

/-- An edit that leaves a transfer running or paused leaves it with a chunk to come. -/
theorem edit_misses {e : Edit} {t : Transfer} (resumes : ∀ now, e = .resumed now →
      t.progress.phase = .paused ∨ t.progress.phase = .transferring)
    (misses : t.progress.phase.active = true ∨ t.progress.phase = .paused → t.progress.chunksDone ≠ [] →
      Transfer.allDone t = false)
    (running : (e.apply cfg t).progress.phase.active = true ∨ (e.apply cfg t).progress.phase = .paused)
    (some_chunk : (e.apply cfg t).progress.chunksDone ≠ []) : Transfer.allDone (e.apply cfg t) = false := by
  rw [edit_phase] at running
  cases e with
  | served index len now =>
    by_cases last : fillsLast index t = true
    · simp [editPhase,last,Phase.active] at running
    · have open_ : (t.progress.chunksDone.set index true).all id = false := by simpa [fillsLast] using last
      simp [Edit.apply,serveMark,Transfer.allDone,markChunk,open_]
  | received index len now =>
    by_cases last : fillsLast index t = true
    · simp [editPhase,last,Phase.active] at running
    · have open_ : (t.progress.chunksDone.set index true).all id = false := by simpa [fillsLast] using last
      simp [Edit.apply,receiveMark,Transfer.allDone,markChunk,open_]
  | rejected totalChunks now =>
    by_cases last : reachesLimit cfg totalChunks t = true
    · simp [editPhase,last,tooManyErrors,Phase.active] at running
    · simp only [editPhase,last] at running
      have same : ((Edit.rejected totalChunks now).apply cfg t).progress.chunksDone = t.progress.chunksDone := by
        simp only [Edit.apply,rejectChunk]; split <;> rfl
      rw [same] at some_chunk
      rw [Transfer.allDone,same]
      exact misses running some_chunk
  | hashed actual => exact misses running some_chunk
  | resumed now =>
    refine misses ?_ some_chunk
    rcases resumes now rfl with paused | running
    · exact .inr paused
    · exact .inl (by rw [running]; rfl)
  | mismatched => simp [editPhase,hashMismatch,Phase.active] at running
  | completed => simp [editPhase,Phase.active] at running
  | aborted => simp [editPhase,Phase.active] at running

/-- What still runs or pauses misses a chunk. -/
structure Unfinished (s : State) : Prop where
  books : Books s
  misses : ∀ id t, s.manager.transfers.lookup id = some t → t.progress.phase.active = true ∨ t.progress.phase = .paused →
    t.progress.chunksDone ≠ [] → Transfer.allDone t = false

theorem unfinished_start (disk : Disk PathBuf) : Unfinished (start disk) :=
  ⟨books_start disk,by simp [start]⟩

theorem unfinished_step {s t : State} {a : Action} (unfinished : Unfinished s)
    (stepped : step cfg sha256 s a = some t) : Unfinished t := by
  refine ⟨books_step unfinished.books stepped,?_⟩
  intro id new found running some_chunk
  rw [step_transfers stepped] at found
  rcases apply_lookup found with ⟨old,there,edited⟩ | ⟨inserts,_⟩
  · have misses := unfinished.misses id old there
    cases edited with
    | same => exact misses running some_chunk
    | edit e made =>
      refine edit_misses ?_ misses running some_chunk
      rintro now rfl
      obtain ⟨old',there',may⟩ := resumed_may made
      rw [there] at there'; cases there'
      exact may
    | paused _ =>
      unfold pauseTransfer at running some_chunk ⊢
      split
      · next active => exact misses (.inl active) (by simpa [active,setPhase] using some_chunk)
      · next idle =>
        simp only [idle] at running some_chunk
        exact misses running some_chunk
  · obtain ⟨c,call,_,there,inserted,_,_⟩ := insert_call stepped inserts
    have begin := insert_starting unfinished.books there inserted
    rw [begin.chunks] at some_chunk
    simpa [Transfer.allDone,begin.chunks] using some_chunk

/-! ### Verifying -/

/-- The sections from the last chunk to the end of `verify_and_finalize`, the
    error return of a failed rename apart. -/
def finalizing : ReceivePc → Bool
  | .hash => true
  | .setHash _ => true
  | .discard _ => true
  | .fail _ => true
  | .chmod => true
  | .rename => true
  | .complete => true
  | _ => false

/-- A `receive_chunk` call for the transfer is in flight. -/
def InFlight (s : State) (id : String) : Prop := ∃ c r, s.calls c = some (.receive r) ∧ r.id = id

/-- An upload without a call in flight is not in `Verifying`; with all its
    chunks it has ended, and the first sweep after the timeout removes it. -/
structure NotStranded (cfg : TransferConfig) (s : State) : Prop where
  verified : ∀ id, ¬ InFlight s id → phaseOf s id ≠ some .verifying
  ended : ∀ id t, ¬ InFlight s id → s.manager.transfers.lookup id = some t → t.spec.direction = .upload →
    t.progress.chunksDone ≠ [] → Transfer.allDone t = true → t.progress.phase.terminal = true ∧
      ∀ env : Env, cfg.staleTimeoutSecs * 10 ^ 9 < env.now - t.progress.lastActivity →
        (sweepStale cfg env s.manager).2.transfers.lookup id = none

/-- The file operation of a finalizer that has an error return can succeed:
    the temporary file is there, no directory has the final name and the system
    reports no error. -/
def canFinalize (s : State) (env : Env) (r : Receiving) : Bool :=
  match r.pc with
  | .hash => env.hash.isNone && (s.manager.disk.names r.ctx.tempPath).isSome
  | .rename =>
    env.rename.isNone && (s.manager.disk.names r.ctx.tempPath).isSome && !s.manager.disk.dirs r.ctx.finalPath
  | _ => true

/-- The step is no failing file operation of a finalizer whose transfer is in `Verifying`. -/
def finalizesWell (s : State) (a : Action) : Bool :=
  match a.move with
  | .advance c => match s.calls c with
    | some (.receive r) => phaseOf s r.id ≠ some .verifying || canFinalize s a.env r
    | _ => true
  | _ => true

theorem finalizeHash_succeeds {s : State} {env : Env} {r : Receiving} (at_hash : r.pc = .hash)
    (can : canFinalize s env r = true) : ∃ actual, finalizeHash sha256 env s.manager r.id r.ctx = .ok actual := by
  simp only [canFinalize,at_hash,Bool.and_eq_true,Option.isNone_iff_eq_none,Option.isSome_iff_exists] at can
  obtain ⟨calm,ino,there⟩ := can
  refine ⟨sha256 (s.manager.disk.files ino).content,?_⟩
  simp [finalizeHash,hashFile,calm,Disk.file?,there,Except.mapError]

theorem finalizeRename_succeeds {s : State} {env : Env} {r : Receiving} (at_rename : r.pc = .rename)
    (can : canFinalize s env r = true) : ∃ moved, finalizeRename env s.manager r.ctx = .ok moved := by
  simp only [canFinalize,at_rename,Bool.and_eq_true,Option.isNone_iff_eq_none,Option.isSome_iff_exists,
    Bool.not_eq_true'] at can
  obtain ⟨⟨calm,ino,there⟩,plain⟩ := can
  obtain ⟨disk,renamed⟩ := Disk.rename_succeeds there plain
  exact ⟨{ s.manager with disk := disk },by simp [finalizeRename,calm,renamed]⟩

/-- A finalizer of a verifying transfer goes on, or the transfer is verifying no more. -/
theorem finalizer_step {s t : State} {a : Action} {c : Nat} {r : Receiving} (stepped : step cfg sha256 s a = some t)
    (found : s.calls c = some (.receive r)) (late : finalizing r.pc = true)
    (verifying : phaseOf s r.id = some .verifying) (well : finalizesWell s a = true) :
    (∃ pc, t.calls c = some (.receive { r with pc := pc }) ∧ finalizing pc = true) ∨
      phaseOf t r.id ≠ some .verifying := by
  by_cases slot : a.move.slot = some c
  · obtain ⟨move,advanced⟩ := occupied_advance stepped slot found
    have can : canFinalize s a.env r = true := by
      simpa [finalizesWell,move,found,verifying] using well
    have table := step_transfers stepped
    simp only [update,move,found,Option.map_some,Option.getD_some] at table
    obtain ⟨old,there,_⟩ := Option.map_eq_some_iff.mp verifying
    cases advanced
    obtain ⟨id,index,data,ctx,pc⟩ := r
    cases pc with
    | hash =>
      obtain ⟨actual,hashed⟩ := @finalizeHash_succeeds sha256 s a.env _ rfl can
      left
      simp only [advanceReceive,hashed]
      split_ifs
      · exact ⟨.setHash actual,by simp,rfl⟩
      · exact ⟨.discard actual,by simp,rfl⟩
      · exact ⟨.chmod,by simp,rfl⟩
    | setHash actual => exact .inl ⟨.chmod,by simp [advanceReceive],rfl⟩
    | discard actual => exact .inl ⟨.fail actual,by simp [advanceReceive],rfl⟩
    | chmod => exact .inl ⟨.rename,by simp [advanceReceive],rfl⟩
    | rename =>
      obtain ⟨moved,renamed⟩ := finalizeRename_succeeds rfl can
      exact .inl ⟨.complete,by simp [advanceReceive,renamed],rfl⟩
    | fail actual =>
      right
      rw [phaseOf,table,Call.update,Update.apply,Table.lookup_modify,if_pos rfl,there]
      simp [edit_phase,editPhase,hashMismatch]
    | complete =>
      right
      rw [phaseOf,table,Call.update,Update.apply,Table.lookup_modify,if_pos rfl,there]
      simp [edit_phase,editPhase]
    | _ => cases late
  · exact .inl ⟨r.pc,(step_calls_other stepped slot).trans found,late⟩

/-- The chunk that starts verification leaves its call before the whole-file hash. -/
theorem received_step {s t : State} {a : Action} {id : String} {index len now : Nat} {old : Transfer}
    (stepped : step cfg sha256 s a = some t) (marks : update s a = .edit id (.received index len now))
    (there : s.manager.transfers.lookup id = some old) (last : fillsLast index old = true) :
    ∃ c r, t.calls c = some (.receive r) ∧ r.id = id ∧ finalizing r.pc = true := by
  cases edit_origin marks with
  | @received c r move found at_progress =>
    have advanced := (occupied_advance stepped (by rw [move]; rfl) found).2
    cases advanced
    have done : (receiveProgress a.env s.manager r.id r.index r.data.length).1 = .ok true := by
      simpa [receiveProgress,there,Transfer.allDone,markChunk,fillsLast] using last
    exact ⟨c,{ r with pc := .hash },by simp [advanceReceive,at_progress,done],rfl,rfl⟩

/-- What keeps transfers from being stranded: a finalizer stands behind every
    transfer in `Verifying`, and what still runs or pauses misses a chunk. -/
structure Attended (s : State) : Prop where
  unfinished : Unfinished s
  finalizer : ∀ id, phaseOf s id = some .verifying → ∃ c r, s.calls c = some (.receive r) ∧ r.id = id ∧
    finalizing r.pc = true

theorem attended_start (disk : Disk PathBuf) : Attended (start disk) := by
  refine ⟨unfinished_start disk,?_⟩
  intro id held; simp [phaseOf,start] at held

theorem finalizer_kept {s t : State} {a : Action} {id : String} (attended : Attended s)
    (stepped : step cfg sha256 s a = some t) (well : finalizesWell s a = true)
    (before : phaseOf s id = some .verifying) (after : phaseOf t id = some .verifying) :
    ∃ c r, t.calls c = some (.receive r) ∧ r.id = id ∧ finalizing r.pc = true := by
  obtain ⟨c,r,found,rfl,late⟩ := attended.finalizer id before
  rcases finalizer_step stepped found late before well with ⟨pc,there,on⟩ | left_
  · exact ⟨c,_,there,rfl,on⟩
  · exact absurd after left_

theorem finalizer_after {s t : State} {a : Action} {id : String} (attended : Attended s)
    (stepped : step cfg sha256 s a = some t) (well : finalizesWell s a = true)
    (after : phaseOf t id = some .verifying) :
    ∃ c r, t.calls c = some (.receive r) ∧ r.id = id ∧ finalizing r.pc = true := by
  obtain ⟨new,found,held⟩ := Option.map_eq_some_iff.mp after
  have table := found
  rw [step_transfers stepped] at table
  rcases apply_lookup table with ⟨old,there,edited⟩ | ⟨inserts,_⟩
  · by_cases before : old.progress.phase = .verifying
    · exact finalizer_kept attended stepped well (by simp [phaseOf,there,before]) after
    · cases edited with
      | same => exact absurd held before
      | paused _ =>
        rw [pauseTransfer_phase] at held
        split at held
        · cases held
        · exact absurd held before
      | edit e made =>
        rw [edit_phase] at held
        cases e with
        | received index len now =>
          by_cases last : fillsLast index old = true
          · exact received_step stepped made there last
          · simp only [editPhase,last] at held; exact absurd held before
        | served index len now =>
          simp only [editPhase] at held
          split at held
          · cases held
          · exact absurd held before
        | rejected totalChunks now =>
          simp only [editPhase] at held
          split at held
          · cases held
          · exact absurd held before
        | hashed actual => exact absurd held before
        | _ => cases held
  · obtain ⟨c,call,_,there,inserted,_,_⟩ := insert_call stepped inserts
    rw [(insert_starting attended.unfinished.books there inserted).phase] at held
    cases held

theorem attended_step {s t : State} {a : Action} (attended : Attended s) (well : finalizesWell s a = true)
    (stepped : step cfg sha256 s a = some t) : Attended t :=
  ⟨unfinished_step attended.unfinished stepped,fun _ after => finalizer_after attended stepped well after⟩

theorem attended_notStranded {s : State} (attended : Attended s) : NotStranded cfg s := by
  have verified : ∀ id, ¬ InFlight s id → phaseOf s id ≠ some .verifying := by
    intro id idle held
    obtain ⟨c,r,found,same,_⟩ := attended.finalizer id held
    exact idle ⟨c,r,found,same⟩
  refine ⟨verified,?_⟩
  intro id t idle found _ some_chunk done
  have ended : t.progress.phase.terminal = true := by
    have misses := attended.unfinished.misses id t found
    rw [done] at misses
    have settled := verified id idle
    simp only [phaseOf,found,Option.map_some] at settled
    cases held : t.progress.phase <;> simp_all [Phase.terminal,Phase.active]
  refine ⟨ended,?_⟩
  intro env late
  have old : stale cfg env.now t = true := by
    have sweepable : t.progress.phase.sweepable = true := by
      cases held : t.progress.phase <;> simp_all [Phase.sweepable,Phase.terminal]
    simp only [stale,sweepable,Bool.true_and,decide_eq_true_eq]; exact late
  cases left : (sweepStale cfg env s.manager).2.transfers.lookup id with
  | none => rfl
  | some kept =>
    rw [sweepStale_transfers] at left
    obtain ⟨there,fresh⟩ := Table.lookup_keep_iff.mp left
    rw [found] at there; cases there
    simp [old] at fresh

/-- In a run in which no file operation of a finalizer fails while its transfer
    is in `Verifying`, no transfer is ever stranded there. -/
theorem verifying_left (disk : Disk PathBuf) (as : List Action)
    (well : Along (step cfg sha256) (fun s a => finalizesWell s a = true) (start disk) as) :
    Always (step cfg sha256) (NotStranded cfg) (start disk) as :=
  always_of_keeps (fun _ _ _ attended met stepped => attended_step attended met stepped)
    (fun _ attended => attended_notStranded attended) (attended_start disk) well

theorem verifying_left_finishedOnce :
    Always (step (.new 4 1024 1024 60) plainDigest) (NotStranded (.new 4 1024 1024 60)) (start smallDisk) finishedOnce :=
  verifying_left smallDisk finishedOnce (by decide +kernel)

/-- An upload of one byte under the name of the directory `/d`. -/
def ontoDirectory : List Action := admitUpload 0 "u" "d" "A" ++ [sendChunk 0 "u" "A" [65]] ++ goOn 0 7

theorem verifying_stranded :
    ¬ Always (step (.new 4 1024 1024 60) plainDigest) (NotStranded (.new 4 1024 1024 60)) (start smallDisk)
      ontoDirectory := by
  intro all
  have last : (run (step (.new 4 1024 1024 60) plainDigest) (start smallDisk) ontoDirectory).map
      (fun s => (phaseOf s "u",s.calls 0)) = some (some .verifying,none) := by decide +kernel
  obtain ⟨t,ran,held⟩ := Option.map_eq_some_iff.mp last
  have notStranded : NotStranded (.new 4 1024 1024 60) t := always_last all ran
  refine notStranded.verified "u" ?_ (congrArg Prod.fst held)
  rintro ⟨c,r,found,_⟩
  by_cases first : c = 0
  · subst first
    rw [show t.calls 0 = none from congrArg Prod.snd held] at found; cases found
  · have other : ∀ a ∈ ontoDirectory, a.move.slot ≠ some c := by
      have slots : ∀ a ∈ ontoDirectory, a.move.slot = some 0 := by decide +kernel
      intro a member
      rw [slots a member]
      exact fun same => first (Option.some.inj same).symm
    rw [run_calls_other other ran] at found; cases found

end Sctl.TransferPhases
