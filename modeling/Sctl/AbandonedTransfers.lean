import Sctl.TransferSteps

/-!
Transfers whose clients went away: what a sweep leaves of the transfers that
were not active for longer than the timeout, and of their temporary files.
-/
namespace Sctl.AbandonedTransfers
open Files TransferTypes TransferManager TransferSteps Runs

variable (cfg : TransferConfig) (sha256 : Bytes → String)

/-- The last activity of the transfer is older than the timeout. -/
def Overdue (now : Nat) (t : Transfer) : Prop := cfg.staleTimeoutSecs * 10 ^ 9 < now - t.progress.lastActivity

/-- The state `t` right after a sweep of `s`: no overdue transfer is left, the temporary
    file of none exists, and no slot is taken when every client went away. -/
structure Reclaimed (now : Nat) (s t : State) : Prop where
  removed : ∀ id transfer, t.manager.transfers.lookup id = some transfer → ¬ Overdue cfg now transfer
  unlinked : ∀ id transfer, s.manager.transfers.lookup id = some transfer → Overdue cfg now transfer →
    transfer.progress.tempPath ≠ [] → t.manager.disk.names transfer.progress.tempPath = none
  freed : (∀ id transfer, s.manager.transfers.lookup id = some transfer → Overdue cfg now transfer) → activeCount t.manager = 0

/-- Every sweep reclaims what is overdue. -/
def Reclaims (s : State) (a : Action) : Prop :=
  a.move = .sweepStale → ∀ t, step cfg sha256 s a = some t → Reclaimed cfg a.env.now s t

/-- The condition of a sweep: what is overdue is paused or has ended, and its temporary
    file is gone already or can be removed. -/
def FindsEnded (s : State) (a : Action) : Prop :=
  a.move = .sweepStale → ∀ id transfer, s.manager.transfers.lookup id = some transfer → Overdue cfg a.env.now transfer →
    transfer.progress.phase.sweepable = true ∧
      (transfer.progress.tempPath = [] ∨ a.env.unlink = none ∨ s.manager.disk.names transfer.progress.tempPath = none)

/-! ### A sweep -/

variable {cfg sha256} {env : Env} {m : Manager}

theorem removeFile_names (path other : PathBuf) : (removeFile env m path).disk.names other =
    if env.unlink = none ∧ other = path then none else m.disk.names other := by
  unfold removeFile
  cases env.unlink with
  | some e => simp
  | none =>
    show Function.update m.disk.names path none other = _
    by_cases same : other = path
    · subst same
      simp
    · simp [same]

theorem foldl_removeFile_names (paths : List PathBuf) (path : PathBuf) : (paths.foldl (removeFile env) m).disk.names path =
    if env.unlink = none ∧ path ∈ paths then none else m.disk.names path := by
  induction paths generalizing m with
  | nil => simp
  | cons first rest ih =>
    rw [List.foldl_cons,ih,removeFile_names]
    by_cases works : env.unlink = none
    · by_cases later : path ∈ rest
      · simp [works,later]
      · simp [works,later]
    · simp [works]

/-- The temporary files that are not there after a sweep. -/
theorem sweepStale_names {path : PathBuf} : (sweepStale cfg env m).2.disk.names path = none ↔ m.disk.names path = none ∨
    (env.unlink = none ∧ path ≠ [] ∧ ∃ id transfer, m.transfers.lookup id = some transfer ∧
      stale cfg env.now transfer = true ∧ transfer.progress.tempPath = path) := by
  have listed : path ∈ (((m.transfers.entries.filter fun e => stale cfg env.now e.2).map fun e => e.2.progress.tempPath).filter
      fun p => !p.isEmpty) ↔ path ≠ [] ∧ ∃ id transfer, m.transfers.lookup id = some transfer ∧
        stale cfg env.now transfer = true ∧ transfer.progress.tempPath = path := by
    rw [List.mem_filter,List.mem_map]
    constructor
    · rintro ⟨⟨⟨id,transfer⟩,member,rfl⟩,some_⟩
      obtain ⟨there,old⟩ := List.mem_filter.mp member
      exact ⟨by simpa using some_,id,transfer,Table.lookup_eq_some_iff.mpr there,old,rfl⟩
    · rintro ⟨some_,id,transfer,found,old,rfl⟩
      refine ⟨⟨⟨id,transfer⟩,List.mem_filter.mpr ⟨Table.lookup_eq_some_iff.mp found,old⟩,rfl⟩,?_⟩
      simpa using some_
  rw [← listed]
  unfold sweepStale
  dsimp only
  rw [foldl_removeFile_names]
  split
  · next removed => exact iff_of_true rfl (.inr removed)
  · next kept => exact (or_iff_left kept).symm

theorem stale_iff {now : Nat} {transfer : Transfer} : stale cfg now transfer = true ↔
    transfer.progress.phase.sweepable = true ∧ Overdue cfg now transfer := by
  simp [stale,Overdue]

theorem sweepStale_lookup {id : String} {transfer : Transfer} : (sweepStale cfg env m).2.transfers.lookup id = some transfer ↔
    m.transfers.lookup id = some transfer ∧ ¬ stale cfg env.now transfer = true := by
  rw [sweepStale_transfers,Table.lookup_keep_iff]
  simp

/-- A sweep reclaims what is overdue exactly if all of it has ended and can be unlinked. -/
theorem reclaims_iff (s : State) (a : Action) : Reclaims cfg sha256 s a ↔ FindsEnded cfg s a := by
  obtain ⟨env,move⟩ := a
  unfold Reclaims FindsEnded
  refine forall_congr' fun sweeps => ?_
  have sweeps : move = .sweepStale := sweeps
  subst sweeps
  show (∀ t, some (s.withManager (sweepStale cfg env s.manager).2) = some t → Reclaimed cfg env.now s t) ↔ _
  simp only [Option.some.injEq,forall_eq']
  constructor
  · intro reclaimed id transfer found overdue
    constructor
    · by_contra active
      refine reclaimed.removed id transfer (sweepStale_lookup.mpr ⟨found,fun old => ?_⟩) overdue
      exact active (stale_iff.mp old).1
    · by_cases none_ : transfer.progress.tempPath = []
      · exact .inl none_
      · rcases sweepStale_names.mp (reclaimed.unlinked id transfer found overdue none_) with gone | ⟨works,-⟩
        · exact .inr (.inr gone)
        · exact .inr (.inl works)
  · intro ended
    have removed : ∀ id transfer, (sweepStale cfg env s.manager).2.transfers.lookup id = some transfer →
        ¬ Overdue cfg env.now transfer := by
      intro id transfer found overdue
      obtain ⟨there,kept⟩ := sweepStale_lookup.mp found
      exact kept (stale_iff.mpr ⟨(ended id transfer there overdue).1,overdue⟩)
    refine ⟨removed,?_,?_⟩
    · intro id transfer found overdue some_
      obtain ⟨old,none_ | works | gone⟩ := ended id transfer found overdue
      · exact absurd none_ some_
      · exact sweepStale_names.mpr (.inr ⟨works,some_,id,transfer,found,stale_iff.mpr ⟨old,overdue⟩,rfl⟩)
      · exact sweepStale_names.mpr (.inl gone)
    · intro all
      refine Table.count_eq_zero_iff.mpr fun id transfer found => ?_
      exact absurd (all id transfer (sweepStale_lookup.mp found).1) (removed id transfer found)

/-- Every sweep of a run reclaims the transfers that were abandoned exactly if it finds
    all of them ended. -/
theorem abandoned_reclaimed_iff (disk : Disk PathBuf) (as : List Action) :
    Along (step cfg sha256) (Reclaims cfg sha256) (start disk) as ↔ Along (step cfg sha256) (FindsEnded cfg) (start disk) as :=
  along_congr (@fun _ _ _ (held : True) _ => held) (fun s a _ _ _ => reclaims_iff s a) trivial

/-- A client asks for a download and goes away. -/
def asked : List Action := [⟨.calm 0 "x",.initDownload 0 "/a" none⟩,⟨.calm 0 "x",.advance 0⟩,⟨.calm 0 "x",.advance 0⟩]

/-- The sweep a day later. -/
def nextDay : Action := ⟨.calm (86400 * 10 ^ 9) "",.sweepStale⟩

theorem left_alone_stays : ¬ ∀ (cfg : TransferConfig) (sha256 : Bytes → String) (disk : Disk PathBuf) (as : List Action),
    Along (step cfg sha256) (Reclaims cfg sha256) (start disk) as := by
  intro all
  have last : (run (step (.new 4 1024 1024 60) plainDigest) (start smallDisk) (asked ++ [nextDay])).map (fun s =>
      (s.manager.transfers.lookup "x").map fun t => t.progress.lastActivity) = some (some 0) := by decide +kernel
  obtain ⟨t,ran,known⟩ := Option.map_eq_some_iff.mp last
  obtain ⟨transfer,there,quiet⟩ := Option.map_eq_some_iff.mp known
  obtain ⟨s,before,after⟩ := run_append_iff.mp ran
  have sweeps := ((along_append (all _ _ _ (asked ++ [nextDay])) before).2 t (run_singleton.mp after)).1
  refine (sweeps rfl t (run_singleton.mp after)).removed "x" transfer there ?_
  rw [Overdue,quiet]
  decide

end Sctl.AbandonedTransfers
