import Mathlib.Algebra.BigOperators.Group.Finset.Basic
import Mathlib.Algebra.Order.BigOperators.Group.Finset
import Sctl.TransferContent

/-!
The progress that a transfer reports: the bytes it counts against the chunks
that are marked.
-/
namespace Sctl.ProgressAccounting
open Files TransferTypes TransferManager TransferSteps TransferBooks TransferContent Runs

variable {cfg : TransferConfig} {sha256 : Bytes → String}

def lenOf (spec : TransferSpec) (index : Nat) : Nat := chunkLen spec.fileSize spec.chunkSize index

/-- The chunks that are marked. -/
def done (t : Transfer) : Finset Nat := {i ∈ Finset.range t.progress.chunksDone.length | t.progress.chunksDone.getD i false = true}

def doneBytes (t : Transfer) : Nat := ∑ i ∈ done t, lenOf t.spec i

/-- The bytes counted are those of the marked chunks, and the whole file exactly at the end. -/
structure Accounted (t : Transfer) : Prop where
  sum : t.progress.bytesTransferred = doneBytes t
  bounded : t.progress.bytesTransferred ≤ t.spec.fileSize
  complete : t.progress.bytesTransferred = t.spec.fileSize ↔ Transfer.allDone t = true

def Progress (s : State) : Prop := ∀ id t, s.manager.transfers.lookup id = some t → Accounted t

/-- The bytes by which a chunk adds to those that are marked. -/
def adds (t : Transfer) (index : Nat) : Nat := if t.progress.chunksDone[index]? = some false then lenOf t.spec index else 0

def marks : Edit → Option (Nat × Nat)
  | .served index len _ => some (index,len)
  | .received index len _ => some (index,len)
  | _ => none

/-- The condition of a step: a file that is admitted is not empty and has a chunk, a chunk
    is counted with its own length when it comes first and with none later, and the chunk
    that is the last one missing belongs to a count that fits a `u32`. -/
def CountsOnce (s : State) (a : Action) : Prop :=
  match update s a with
  | .insert new => new.spec.fileSize ≠ 0 ∧ new.spec.totalChunks ≠ 0
  | .edit id e => ∀ t index len, s.manager.transfers.lookup id = some t → marks e = some (index,len) →
      len = adds t index ∧ (Transfer.allDone (markChunk index len 0 t) = true → divCeil t.spec.fileSize t.spec.chunkSize < 2 ^ 32)
  | _ => True

/-! ### Sums of chunks -/

theorem sum_chunks (fileSize chunkSize n : Nat) :
    ∑ i ∈ Finset.range n, chunkLen fileSize chunkSize i = min (n * chunkSize) fileSize := by
  induction n with
  | zero => simp
  | succ n ih =>
    rw [Finset.sum_range_succ,ih,chunkLen,Nat.succ_mul]
    omega

/-- A transfer with the chunks that were counted for it. -/
structure WellSized (t : Transfer) : Prop where
  counted : computeChunks t.spec.fileSize t.spec.chunkSize = some t.spec.totalChunks
  length : t.progress.chunksDone.length = t.spec.totalChunks

section
variable {t : Transfer}

theorem mem_done {i : Nat} : i ∈ done t ↔ t.progress.chunksDone[i]? = some true := by
  unfold done
  rw [Finset.mem_filter,Finset.mem_range,List.getD_eq_getElem?_getD]
  constructor
  · rintro ⟨below,marked⟩
    rw [List.getElem?_eq_getElem below] at marked ⊢
    rw [← marked]
    rfl
  · intro marked
    obtain ⟨below,-⟩ := List.getElem?_eq_some_iff.mp marked
    exact ⟨below,by rw [marked]; rfl⟩

theorem done_subset : done t ⊆ Finset.range t.progress.chunksDone.length := Finset.filter_subset _ _

theorem allDone_iff : Transfer.allDone t = true ↔ done t = Finset.range t.progress.chunksDone.length := by
  unfold Transfer.allDone
  rw [List.all_eq_true]
  constructor
  · intro all
    refine Finset.Subset.antisymm done_subset fun i below => ?_
    have below := Finset.mem_range.mp below
    rw [mem_done,List.getElem?_eq_getElem below]
    exact congrArg some (all _ (List.getElem_mem below))
  · intro all chunk member
    obtain ⟨i,below,rfl⟩ := List.getElem_of_mem member
    have marked := mem_done.mp (all ▸ Finset.mem_range.mpr below)
    rw [List.getElem?_eq_getElem below] at marked
    exact Option.some.inj marked

theorem doneBytes_le : doneBytes t ≤ t.spec.fileSize := by
  have all : doneBytes t ≤ ∑ i ∈ Finset.range t.progress.chunksDone.length, lenOf t.spec i := Finset.sum_le_sum_of_subset done_subset
  have sum := sum_chunks t.spec.fileSize t.spec.chunkSize t.progress.chunksDone.length
  exact all.trans (le_of_eq_of_le sum (Nat.min_le_right _ _))

theorem doneBytes_all (all : Transfer.allDone t = true) : doneBytes t = min (t.progress.chunksDone.length * t.spec.chunkSize) t.spec.fileSize := by
  rw [doneBytes,allDone_iff.mp all]
  exact sum_chunks t.spec.fileSize t.spec.chunkSize t.progress.chunksDone.length

theorem WellSized.shape (sized : WellSized t) (some_ : t.spec.fileSize ≠ 0) :
    0 < t.spec.chunkSize ∧ t.progress.chunksDone.length = divCeil t.spec.fileSize t.spec.chunkSize % 2 ^ 32 := by
  have counted := sized.counted
  rw [computeChunks,if_neg some_] at counted
  split at counted
  · cases counted
  · next pos => exact ⟨Nat.pos_of_ne_zero pos,sized.length.trans (Option.some.inj counted).symm⟩

/-- A chunk that is not marked is missing in the sum. -/
theorem doneBytes_lt (sized : WellSized t) (some_ : t.spec.fileSize ≠ 0) (open_ : Transfer.allDone t ≠ true) : doneBytes t < t.spec.fileSize := by
  obtain ⟨pos,length⟩ := sized.shape some_
  have missing : ∃ i ∈ Finset.range t.progress.chunksDone.length, i ∉ done t := by
    by_contra all
    push Not at all
    exact open_ (allDone_iff.mpr (Finset.Subset.antisymm done_subset all))
  obtain ⟨i,below,absent⟩ := missing
  have starts : i * t.spec.chunkSize < t.spec.fileSize := by
    refine mul_lt_of_lt_divCeil (lt_of_lt_of_le (Finset.mem_range.mp below) ?_)
    rw [length]
    exact Nat.mod_le _ _
  have long : 0 < lenOf t.spec i := by
    unfold lenOf chunkLen
    omega
  have less : doneBytes t < ∑ i ∈ Finset.range t.progress.chunksDone.length, lenOf t.spec i :=
    Finset.sum_lt_sum_of_subset done_subset below absent long fun _ _ _ => Nat.zero_le _
  have sum := sum_chunks t.spec.fileSize t.spec.chunkSize t.progress.chunksDone.length
  exact lt_of_lt_of_le less (le_of_eq_of_le sum (Nat.min_le_right _ _))

theorem doneBytes_full_iff (sized : WellSized t) (some_ : t.spec.fileSize ≠ 0) (all : Transfer.allDone t = true) :
    doneBytes t = t.spec.fileSize ↔ divCeil t.spec.fileSize t.spec.chunkSize < 2 ^ 32 := by
  obtain ⟨pos,length⟩ := sized.shape some_
  rw [doneBytes_all all,min_eq_right_iff,length]
  constructor
  · intro covers
    by_contra large
    have fewer : divCeil t.spec.fileSize t.spec.chunkSize % 2 ^ 32 < divCeil t.spec.fileSize t.spec.chunkSize :=
      lt_of_lt_of_le (Nat.mod_lt _ (by decide)) (Nat.not_lt.mp large)
    exact absurd (mul_lt_of_lt_divCeil fewer) (Nat.not_lt.mpr covers)
  · intro fits
    rw [Nat.mod_eq_of_lt fits]
    exact le_divCeil_mul _ pos

theorem accounted_iff (sized : WellSized t) : Accounted t ↔ t.progress.bytesTransferred = doneBytes t ∧
    (t.spec.fileSize = 0 → Transfer.allDone t = true) ∧ (Transfer.allDone t = true → divCeil t.spec.fileSize t.spec.chunkSize < 2 ^ 32) := by
  constructor
  · intro accounted
    refine ⟨accounted.sum,fun empty => accounted.complete.mp ?_,fun all => ?_⟩
    · have none_ := accounted.bounded
      omega
    · by_cases empty : t.spec.fileSize = 0
      · rw [empty]
        simp [divCeil]
      · rw [← doneBytes_full_iff sized empty all,← accounted.sum]
        exact accounted.complete.mpr all
  · rintro ⟨sum,empty,fits⟩
    refine ⟨sum,le_of_eq_of_le sum doneBytes_le,?_⟩
    rw [sum]
    by_cases none_ : t.spec.fileSize = 0
    · have zero : doneBytes t = t.spec.fileSize := by
        have := doneBytes_le (t := t)
        omega
      exact iff_of_true zero (empty none_)
    · by_cases all : Transfer.allDone t = true
      · exact iff_of_true ((doneBytes_full_iff sized none_ all).mpr (fits all)) all
      · exact iff_of_false (Nat.ne_of_lt (doneBytes_lt sized none_ all)) all

/-! ### An edit -/

variable {index len now : Nat}

theorem done_mark : done (markChunk index len now t) =
    if t.progress.chunksDone[index]? = some false then insert index (done t) else done t := by
  ext i
  rw [mem_done]
  show (t.progress.chunksDone.set index true)[i]? = some true ↔ _
  rw [List.getElem?_set]
  by_cases same : index = i
  · subst same
    rw [if_pos rfl]
    cases there : t.progress.chunksDone[index]? with
    | none =>
      rw [if_neg (Nat.not_lt.mpr (List.getElem?_eq_none_iff.mp there)),if_neg nofun,mem_done,there]
    | some marked =>
      obtain ⟨below,-⟩ := List.getElem?_eq_some_iff.mp there
      rw [if_pos below]
      cases marked with
      | false => simp
      | true => simp [mem_done,there]
  · rw [if_neg same]
    split
    · rw [Finset.mem_insert,mem_done]
      exact (or_iff_right (Ne.symm same)).symm
    · exact mem_done.symm

theorem doneBytes_mark : doneBytes (markChunk index len now t) = doneBytes t + adds t index := by
  unfold doneBytes adds
  rw [done_mark]
  show ∑ i ∈ _, lenOf t.spec i = _
  split
  · next fresh =>
    have absent : index ∉ done t := fun member => by
      rw [mem_done,fresh] at member
      cases member
    rw [Finset.sum_insert absent,Nat.add_comm]
  · rfl

theorem allDone_mark (all : Transfer.allDone t = true) : Transfer.allDone (markChunk index len now t) = true := by
  rw [allDone_iff] at all ⊢
  refine Finset.Subset.antisymm done_subset ?_
  show Finset.range (t.progress.chunksDone.set index true).length ⊆ _
  rw [List.length_set,← all,done_mark]
  split
  · exact Finset.subset_insert _ _
  · exact Finset.Subset.refl _

theorem wellSized_mark (sized : WellSized t) : WellSized (markChunk index len now t) where
  counted := sized.counted
  length := List.length_set.trans sized.length

theorem accounted_mark (sized : WellSized t) (accounted : Accounted t) : Accounted (markChunk index len now t) ↔
    len = adds t index ∧ (Transfer.allDone (markChunk index len 0 t) = true → divCeil t.spec.fileSize t.spec.chunkSize < 2 ^ 32) := by
  rw [accounted_iff (wellSized_mark sized),doneBytes_mark]
  show t.progress.bytesTransferred + len = doneBytes t + adds t index ∧ _ ↔ _
  rw [accounted.sum,Nat.add_left_cancel_iff]
  constructor
  · rintro ⟨once,-,fits⟩
    exact ⟨once,fits⟩
  · rintro ⟨once,fits⟩
    refine ⟨once,fun empty => allDone_mark ?_,fits⟩
    exact ((accounted_iff sized).mp accounted).2.1 empty

/-- What counts for the accounts of a transfer. -/
structure SameAccounts (before after : Transfer) : Prop where
  fileSize : after.spec.fileSize = before.spec.fileSize
  chunkSize : after.spec.chunkSize = before.spec.chunkSize
  totalChunks : after.spec.totalChunks = before.spec.totalChunks
  chunks : after.progress.chunksDone = before.progress.chunksDone
  bytes : after.progress.bytesTransferred = before.progress.bytesTransferred

theorem SameAccounts.wellSized {before after : Transfer} (same : SameAccounts before after) (sized : WellSized before) :
    WellSized after where
  counted := by rw [same.fileSize,same.chunkSize,same.totalChunks]; exact sized.counted
  length := by rw [same.chunks,same.totalChunks]; exact sized.length

theorem SameAccounts.accounted {before after : Transfer} (same : SameAccounts before after) : Accounted after ↔ Accounted before := by
  have marked : done after = done before := by unfold done; rw [same.chunks]
  have bytes : doneBytes after = doneBytes before := by
    unfold doneBytes lenOf
    rw [marked,same.fileSize,same.chunkSize]
  have all : Transfer.allDone after = Transfer.allDone before := by unfold Transfer.allDone; rw [same.chunks]
  constructor
  · rintro ⟨sum,bounded,complete⟩
    rw [same.bytes] at sum bounded complete
    rw [bytes] at sum
    rw [same.fileSize] at bounded complete
    rw [all] at complete
    exact ⟨sum,bounded,complete⟩
  · rintro ⟨sum,bounded,complete⟩
    refine ⟨?_,?_,?_⟩
    · rw [same.bytes,bytes]; exact sum
    · rw [same.bytes,same.fileSize]; exact bounded
    · rw [same.bytes,same.fileSize,all]; exact complete

theorem same_phase (phase : Phase) : SameAccounts t (setPhase phase t) := ⟨rfl,rfl,rfl,rfl,rfl⟩

variable (cfg) in
/-- An edit marks a chunk, up to the phase, or leaves the accounts alone. -/
theorem edit_accounts (e : Edit) (t : Transfer) : match marks e with
    | some (index,len) => ∃ now, SameAccounts (markChunk index len now t) (e.apply cfg t)
    | none => SameAccounts t (e.apply cfg t) := by
  cases e with
  | served index len now =>
    refine ⟨now,?_⟩
    simp only [Edit.apply,serveMark]
    split
    · exact same_phase _
    · exact ⟨rfl,rfl,rfl,rfl,rfl⟩
  | received index len now =>
    refine ⟨now,?_⟩
    simp only [Edit.apply,receiveMark]
    split
    · exact same_phase _
    · exact ⟨rfl,rfl,rfl,rfl,rfl⟩
  | rejected totalChunks now =>
    show SameAccounts t (rejectChunk cfg totalChunks now t)
    simp only [rejectChunk]
    split
    · exact ⟨rfl,rfl,rfl,rfl,rfl⟩
    · exact ⟨rfl,rfl,rfl,rfl,rfl⟩
  | hashed actual => exact ⟨rfl,rfl,rfl,rfl,rfl⟩
  | mismatched => exact same_phase _
  | completed => exact same_phase _
  | resumed now => exact ⟨rfl,rfl,rfl,rfl,rfl⟩
  | aborted => exact same_phase _

theorem paused_accounts (t : Transfer) : SameAccounts t (pauseTransfer t) := by
  unfold pauseTransfer
  split
  · exact same_phase _
  · exact ⟨rfl,rfl,rfl,rfl,rfl⟩

end

/-! ### Sizes in a run -/

/-- A transfer as it is admitted. -/
structure Fresh (t : Transfer) : Prop where
  sized : WellSized t
  chunks : t.progress.chunksDone = List.replicate t.spec.totalChunks false
  zero : t.progress.bytesTransferred = 0

/-- Every transfer, and every one that is being admitted, has the chunks that were counted for it. -/
structure Sized (s : State) : Prop where
  planned : ∀ c call plan, s.calls c = some call → callPlan call = some plan →
    computeChunks plan.fileSize plan.chunkSize = some plan.totalChunks
  starting : ∀ c t, s.calls c = some (.downloadInsert t) → Fresh t
  table : ∀ id t, s.manager.transfers.lookup id = some t → WellSized t

theorem sized_start (disk : Disk PathBuf) : Sized (start disk) := by
  constructor <;> simp [start]

section
variable {s t : State} {a : Action}

theorem upload_counted {env : Env} {m : Manager} {req : InitUpload} {plan : UploadPlan} (checked : initUploadCheck cfg env m req = .ok plan) :
    computeChunks plan.fileSize plan.chunkSize = some plan.totalChunks := by
  obtain ⟨size,chunk,total⟩ := initUploadCheck_ok checked
  have pos : max req.chunkSize 1024 ≠ 0 := by omega
  rw [size,chunk,total,computeChunks,if_neg pos]
  split
  · rfl
  · rfl

theorem download_counted {c : Nat} {new : Transfer} (stepped : step cfg sha256 s a = some t) (there : t.calls c = some (.downloadInsert new))
    {plan : DownloadPlan} (before : s.calls c = some (.downloadHash plan)) : Fresh new := by
  have slot : a.move.slot = some c := by
    by_contra other
    rw [step_calls_other stepped other,before] at there
    cases there
  obtain ⟨env,move⟩ := a
  cases move with
  | advance c' =>
    cases slot
    simp only [step,before,Option.bind_some,advance] at stepped
    split at stepped
    · cases stepped
    · next total counted =>
      split at stepped
      · cases stepped
        exact absurd there replied_none
      · split_ifs at stepped
        cases stepped
        cases parked_call there
        exact ⟨⟨counted,List.length_replicate⟩,rfl,rfl⟩
  | pauseAll | sweepStale => cases slot
  | initDownload | initUpload | serveChunk | receiveChunk | resume | abort =>
    cases slot
    simp [step,before] at stepped

theorem inserted_fresh {new : Transfer} (sized : Sized s) (stepped : step cfg sha256 s a = some t) (inserts : update s a = .insert new) :
    Fresh new := by
  obtain ⟨c,call,-,found,makes,-,-⟩ := insert_call stepped inserts
  cases call with
  | downloadInsert transfer =>
    cases makes
    exact sized.starting c _ found
  | uploadInsert plan id =>
    cases makes
    exact ⟨⟨sized.planned c _ plan found rfl,List.length_replicate⟩,rfl,rfl⟩
  | receive r =>
    simp only [Call.update] at makes
    split at makes <;> cases makes
  | _ => cases makes

theorem sized_step (sized : Sized s) (stepped : step cfg sha256 s a = some t) : Sized t where
  planned c call plan there plans := by
    cases step_call stepped there with
    | kept before _ => exact sized.planned c call plan before plans
    | uploadCreate _ checked => cases plans; exact upload_counted checked
    | uploadSetLen before _ _ _ _ _ => exact sized.planned c _ plan before plans
    | uploadInsert before _ _ => exact sized.planned c _ plan before plans
    | _ => cases plans
  starting c new there := by
    cases step_call stepped there with
    | kept before _ => exact sized.starting c new before
    | downloadInsert before _ _ => exact download_counted stepped there before
  table id after found := by
    rw [step_transfers stepped] at found
    rcases apply_lookup found with ⟨before,there,edited⟩ | ⟨inserts,-⟩
    · have old := sized.table id before there
      cases edited with
      | same => exact old
      | edit e _ =>
        have accounts := edit_accounts cfg e before
        split at accounts
        · obtain ⟨now,same⟩ := accounts
          exact same.wellSized (wellSized_mark old)
        · exact accounts.wellSized old
      | paused _ => exact (paused_accounts before).wellSized old
    · exact (inserted_fresh sized stepped inserts).sized

/-! ### Accounts in a run -/

theorem fresh_accounted {new : Transfer} (fresh : Fresh new) : Accounted new ↔ new.spec.fileSize ≠ 0 ∧ new.spec.totalChunks ≠ 0 := by
  have sized := fresh.sized
  have none_ : done new = ∅ := by
    ext i
    rw [mem_done,fresh.chunks,List.getElem?_replicate]
    simp
  have all : Transfer.allDone new = true ↔ new.spec.totalChunks = 0 := by
    rw [allDone_iff,none_,sized.length,eq_comm,Finset.range_eq_empty_iff]
  have sum : doneBytes new = 0 := by rw [doneBytes,none_,Finset.sum_empty]
  rw [accounted_iff sized,fresh.zero,sum,all]
  constructor
  · rintro ⟨-,empty,fits⟩
    have some_ : new.spec.fileSize ≠ 0 := fun zero => by
      have counted := sized.counted
      rw [zero,empty zero] at counted
      cases counted
    refine ⟨some_,fun zero => ?_⟩
    obtain ⟨pos,length⟩ := sized.shape some_
    rw [sized.length,zero,Nat.mod_eq_of_lt (fits zero)] at length
    have covers := le_divCeil_mul new.spec.fileSize pos
    rw [← length,Nat.zero_mul] at covers
    exact some_ (Nat.le_zero.mp covers)
  · rintro ⟨some_,chunks⟩
    exact ⟨rfl,fun zero => absurd zero some_,fun zero => absurd zero chunks⟩

/-- The accounts of an edited transfer, from those before. -/
theorem edited_accounted {e : Edit} {before : Transfer} (sized : WellSized before) (accounted : Accounted before) :
    Accounted (e.apply cfg before) ↔ ∀ index len, marks e = some (index,len) → len = adds before index ∧
      (Transfer.allDone (markChunk index len 0 before) = true → divCeil before.spec.fileSize before.spec.chunkSize < 2 ^ 32) := by
  have accounts := edit_accounts cfg e before
  split at accounts
  · next index len marked =>
    obtain ⟨now,same⟩ := accounts
    rw [same.accounted,accounted_mark sized accounted,marked]
    constructor
    · intro once index' len' heq
      cases heq
      exact once
    · intro once
      exact once index len rfl
  · next unmarked =>
    rw [accounts.accounted]
    exact iff_of_true accounted fun index len marked => by rw [unmarked] at marked; cases marked

theorem progress_step (sized : Sized s) (progress : Progress s) (stepped : step cfg sha256 s a = some t) :
    Progress t ↔ CountsOnce s a := by
  unfold Progress CountsOnce
  rw [step_transfers stepped]
  cases updates : update s a with
  | keep => exact iff_of_true progress trivial
  | insert new =>
    refine Iff.trans ?_ (fresh_accounted (inserted_fresh sized stepped updates))
    constructor
    · intro after
      refine after new.spec.transferId new ?_
      rw [Update.apply,Table.lookup_insert_eq,if_pos rfl]
    · intro accounted id u found
      rw [Update.apply,Table.lookup_insert_eq] at found
      split at found
      · cases found
        exact accounted
      · exact progress id u found
  | edit id e =>
    constructor
    · intro after before index len there marked
      have now : (Update.apply cfg s.manager.transfers (.edit id e)).lookup id = some (e.apply cfg before) := by
        rw [Update.apply,Table.lookup_modify,if_pos rfl,there]
        rfl
      exact (edited_accounted (sized.table id before there) (progress id before there)).mp (after id _ now) index len marked
    · intro once id' u found
      rw [Update.apply,Table.lookup_modify] at found
      split at found
      · next same =>
        subst same
        obtain ⟨before,there,rfl⟩ := Option.map_eq_some_iff.mp found
        exact (edited_accounted (sized.table _ before there) (progress _ before there)).mpr fun index len marked =>
          once before index len there marked
      · exact progress id' u found
  | pauseAll =>
    refine iff_of_true (fun id u found => ?_) trivial
    rw [Update.apply,Table.lookup_mapValues] at found
    obtain ⟨before,there,rfl⟩ := Option.map_eq_some_iff.mp found
    exact (paused_accounts before).accounted.mpr (progress id before there)
  | sweep now =>
    refine iff_of_true (fun id u found => ?_) trivial
    exact progress id u (Table.lookup_keep_iff.mp found).1

/-- The accounts are right in every state of a run exactly if its steps count every
    chunk once, with its own length. -/
theorem progress_accounted_iff (disk : Disk PathBuf) (as : List Action) :
    Always (step cfg sha256) Progress (start disk) as ↔ Along (step cfg sha256) CountsOnce (start disk) as :=
  always_iff_along (fun _ _ _ sized stepped => sized_step sized stepped)
    (fun _ _ _ sized progress stepped => progress_step sized progress stepped) (sized_start disk) fun id t found => by
      simp [start] at found

end

/-- A disk with the file `/b` of two bytes. -/
def twoBytes : Disk PathBuf := ((Disk.empty fun p => p = []).create ["b"] 0).1.update 0 fun f => { f with content := [65,66] }

def serve (index : Nat) : List Action := ⟨.calm 0 "",.serveChunk 1 "x" index⟩ :: goOn 1 3

/-- The first of two chunks is served twice. -/
def servedTwice : List Action := ⟨.calm 0 "x",.initDownload 0 "/b" (some 1)⟩ :: List.replicate 2 ⟨.calm 0 "x",.advance 0⟩ ++ serve 0 ++ serve 0

theorem served_twice_full : ¬ ∀ (cfg : TransferConfig) (sha256 : Bytes → String) (disk : Disk PathBuf) (as : List Action),
    Always (step cfg sha256) Progress (start disk) as := by
  intro all
  have last : (run (step (.new 4 1024 1024 60) plainDigest) (start twoBytes) servedTwice).map (fun s =>
      (s.manager.transfers.lookup "x").map fun t => (t.progress.bytesTransferred,t.spec.fileSize,Transfer.allDone t)) =
      some (some (2,2,false)) := by decide +kernel
  obtain ⟨t,ran,known⟩ := Option.map_eq_some_iff.mp last
  obtain ⟨transfer,there,full⟩ := Option.map_eq_some_iff.mp known
  simp only [Prod.mk.injEq] at full
  have complete := (always_last (all _ _ _ _) ran "x" transfer there).complete.mp (full.1.trans full.2.1.symm)
  rw [full.2.2] at complete
  cases complete

end Sctl.ProgressAccounting
