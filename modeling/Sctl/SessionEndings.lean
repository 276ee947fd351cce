import Sctl.Recovery

/-!
The sessions of the last run after a restart. A session that had ended must not
be taken for one that was still running: its exit line tells, if it reached the
journal before the exit watcher was aborted or the server died.
-/
namespace Sctl.SessionEndings
open Sctl.Journals Sctl.Recovery Sctl.Runs Sctl.SessionBuffer
open Sctl.Readers (ManagedSession)
open Sctl.SessionManager (loadArchived loadArchived_other lookup_recoverFromJournal mem_recoverSessions recoverFromJournal
  recoverSessions_one)

/-- The line of an ended session is in the journal, or is still to come. -/
structure Sound (s : State) : Prop where
  told : s.exits.watcher.past = true → Reported s
  coming : s.exits.watcher.past = false → ended s = true → s.exits.session.exitWatcher = true ∧ s.died = false

/-- The exit line is pushed through the hook after a wait that returned, and before a kill
    aborts the watcher or the server dies. -/
def tells (s : State) : Action → Bool
  | .session (.pushExit _) =>
    s.hooked && match s.exits.watcher with
      | .recorded result => result.isOk
      | _ => false
  | .session (.killEnds _) => s.exits.watcher.past
  | .die => !ended s || s.exits.watcher.past
  | _ => true

theorem sound_quiet {s t : State} (quiet : Quiet s.exits t.exits) (died : t.died = s.died)
    (reported : Reported t ↔ Reported s) : Sound t ↔ Sound s := by
  have finished : ended t = ended s := by rw [ended,ended,quiet.process,quiet.watcher]
  constructor
  · rintro ⟨told,coming⟩
    rw [quiet.watcher,reported] at told
    rw [quiet.watcher,finished,quiet.exitWatcher,died] at coming
    exact ⟨told,coming⟩
  · rintro ⟨told,coming⟩
    refine ⟨?_,?_⟩
    · rw [quiet.watcher,reported]
      exact told
    · rw [quiet.watcher,finished,quiet.exitWatcher,died]
      exact coming

/-- A session whose watcher is at work is sound as long as it has told nothing. -/
theorem sound_watched {s : State} (before : s.exits.watcher.past = false) (watched : s.exits.session.exitWatcher = true)
    (living : s.died = false) : Sound s where
  told past := by rw [before] at past; cases past
  coming _ _ := ⟨watched,living⟩

theorem sound_past {s : State} (past : s.exits.watcher.past = true) : Sound s ↔ Reported s := by
  refine ⟨fun sound => sound.told past,fun reported => ⟨fun _ => reported,fun before => ?_⟩⟩
  rw [past] at before
  cases before

/-- After the exit line all that counts is what is in the journal. -/
theorem sound_kept {s t : State} (past : s.exits.watcher.past = true) (later : t.exits.watcher.past = true)
    (reported : Reported t ↔ Reported s) : Sound t ↔ Sound s := by
  rw [sound_past past,sound_past later,reported]

theorem step_living {s t : State} {a : Action} (stepped : step s a = some t) : s.died = false := by
  unfold step at stepped
  split at stepped
  · cases stepped
  · next living => simpa using living

theorem sound_step {s t : State} {a : Action} (fated : Fated s) (stepped : step s a = some t) :
    Sound t ↔ Sound s ∧ tells s a = true := by
  have living : s.died = false := step_living stepped
  by_cases own : ∃ a', a = .session a'
  · obtain ⟨a,rfl⟩ := own
    obtain ⟨y,moved,admitted,rfl⟩ := session_step stepped
    cases a with
    | write stream bytes | read stream count | push stream now | endOfFile stream | readError stream error | kill =>
      have reported := reported_other (fun _ same => by cases same) stepped
      have same : Sound { s with exits := y } ↔ Sound s := sound_quiet (quiet_step rfl moved) rfl reported
      exact same.trans (and_iff_left rfl).symm
    | exit code =>
      have reported := reported_other (fun _ same => by cases same) stepped
      simp only [SessionExit.step,Option.ite_none_right_eq_some,Option.some.injEq] at moved
      obtain ⟨running,rfl⟩ := moved
      refine Iff.trans ?_ (and_iff_left rfl).symm
      cases past : s.exits.watcher.past with
      | true =>
        refine sound_kept past ?_ reported
        exact past
      | false =>
        have watched : s.exits.session.exitWatcher = true := by
          by_contra gone
          rcases fated.aborted (by simpa using gone) with told | left
          · rw [past] at told; cases told
          · exact left running
        exact iff_of_true (sound_watched past watched living) (sound_watched past watched living)
    | wait result =>
      obtain ⟨waiting,watched,-,rfl⟩ := SessionExit.step_wait moved
      have before : s.exits.watcher.past = false := by rw [waiting]; rfl
      exact iff_of_true (sound_watched rfl watched living) ⟨sound_watched before watched living,rfl⟩
    | recordCode =>
      obtain ⟨result,waited_,watched,rfl⟩ := SessionExit.step_recordCode moved
      have before : s.exits.watcher.past = false := by rw [waited_]; rfl
      exact iff_of_true (sound_watched rfl watched living) ⟨sound_watched before watched living,rfl⟩
    | pushExit now =>
      obtain ⟨result,recorded,watched,rfl⟩ := SessionExit.step_pushExit moved
      have before : s.exits.watcher.past = false := by rw [recorded]; rfl
      rw [sound_past rfl,reported_pushExit fated recorded stepped,and_iff_right (sound_watched before watched living)]
      simp [tells,recorded]
    | flipStatus =>
      have reported := reported_other (fun _ same => by cases same) stepped
      obtain ⟨code,told,-,rfl⟩ := SessionExit.step_flipStatus moved
      have past : s.exits.watcher.past = true := by rw [told]; rfl
      exact (sound_kept past rfl reported).trans (and_iff_left rfl).symm
    | announce =>
      have reported := reported_other (fun _ same => by cases same) stepped
      obtain ⟨code,flipped,-,rfl⟩ := SessionExit.step_announce moved
      have past : s.exits.watcher.past = true := by rw [flipped]; rfl
      exact (sound_kept past rfl reported).trans (and_iff_left rfl).symm
    | sweep =>
      have reported := reported_other (fun _ same => by cases same) stepped
      simp only [SessionExit.step,Option.ite_none_right_eq_some,Option.some.injEq] at moved
      obtain ⟨⟨-,exited⟩,rfl⟩ := moved
      have past : s.exits.watcher.past = true := fated.flipped exited
      refine Iff.trans (sound_kept past ?_ reported) (and_iff_left rfl).symm
      exact past
    | killEnds late =>
      have reported := reported_other (fun _ same => by cases same) stepped
      simp only [SessionExit.step,Option.ite_none_right_eq_some,Option.some.injEq] at moved
      obtain ⟨⟨-,ends⟩,rfl⟩ := moved
      cases past : s.exits.watcher.past with
      | true =>
        refine Iff.trans (sound_kept past ?_ reported) (and_iff_left past).symm
        exact past
      | false =>
        -- the watcher is gone and will tell nothing
        have overdue : late = true := by
          refine ends.resolve_right fun exited => ?_
          rw [fated.flipped exited] at past
          cases past
        refine iff_of_false (fun sound => ?_) fun both => ?_
        · have gone : (if late = true ∧ s.exits.process = .running then SessionExit.Process.killed else s.exits.process) ≠
              .running := by
            by_cases running : s.exits.process = .running
            · simp [overdue,running]
            · simp [running]
          have finished := sound.coming past (by simp [ended,gone])
          cases finished.1
        · have told : s.exits.watcher.past = true := both.2
          rw [past] at told
          cases told
  · have other : ∀ a', a ≠ .session a' := fun a' same => own ⟨a',same⟩
    have reported := reported_other (fun now => other _) stepped
    obtain ⟨quiet,died⟩ := journal_step other stepped
    by_cases dies : a = .die
    · subst dies
      have dead : t.died = true := died.mpr rfl
      cases past : s.exits.watcher.past with
      | true =>
        have later : t.exits.watcher.past = true := by rw [quiet.watcher,past]
        exact (sound_kept past later reported).trans (and_iff_left (by simp [tells,past])).symm
      | false =>
        have later : t.exits.watcher.past = false := by rw [quiet.watcher,past]
        have finished : ended t = ended s := by rw [ended,ended,quiet.process,quiet.watcher]
        cases gone : ended s with
        | true =>
          refine iff_of_false (fun sound => ?_) fun both => ?_
          · have lives := (sound.coming later (by rw [finished,gone])).2
            rw [dead] at lives
            cases lives
          · have told : (!ended s || s.exits.watcher.past) = true := both.2
            rw [gone,past] at told
            cases told
        | false =>
          refine iff_of_true ⟨fun told => ?_,fun _ left => ?_⟩ ⟨⟨fun told => ?_,fun _ left => ?_⟩,by simp [tells,gone]⟩
          · rw [later] at told; cases told
          · rw [finished,gone] at left; cases left
          · rw [past] at told; cases told
          · rw [gone] at left; cases left
    · have lives : t.died = s.died := by rw [living]; simpa [dies] using died
      rw [sound_quiet quiet lives reported]
      refine (and_iff_left ?_).symm
      cases a with
      | session a => exact absurd rfl (other a)
      | die => exact absurd rfl dies
      | createJournal | setJournal | insert | writeEntry => rfl

section
variable {serde : Serde} {metadata : SessionMetadata} {session : ManagedSession} {bufferSize : Nat} {exitEvents : Bool}
  {actions : List Action} {s : State} {written : List JournalEntry} {dir : Directory} {id : String}

/-- An exit code is reported for the session, no process is signalled for it, and it is not
    taken for running. -/
structure Settled (serde : Serde) (dir : Directory) (id : String) : Prop where
  reported : ∃ text arch code, dir.lookup id = some text ∧ recoverSingleJournal serde id text = .ok arch ∧
    arch.exitCode = some code
  unsignalled : ∀ before later signals, (id,signals) ∈ killOrphanedProcesses serde before later dir → signals = []
  unrecovered : ∀ maxSessions bufferSize now order,
    (recoverFromJournal maxSessions bufferSize now order ∅ (recoverSessions serde dir)).lookup id = none

theorem settled_iff (header : serde.metadata.Reads metadata) (reads : ∀ entry ∈ written, serde.entry.Reads entry)
    (found : dir.lookup id = some (journalText serde metadata written)) :
    Settled serde dir id ↔ written.any tellsExit = true := by
  have read := @recoverSingleJournal_journalText serde metadata written id header reads
  rw [← exitCodeOf_isSome,Option.isSome_iff_exists]
  constructor
  · rintro ⟨⟨text,arch,code,found',read',told⟩,-,-⟩
    cases found.symm.trans found'
    cases read.symm.trans read'
    exact ⟨code,told⟩
  · rintro ⟨code,told⟩
    refine ⟨⟨_,_,code,found,read,told⟩,?_,?_⟩
    · intro before later signals sent
      simp only [killOrphanedProcesses,List.mem_filterMap,Option.map_eq_some_iff] at sent
      obtain ⟨⟨id',text⟩,member,arch,archived,same⟩ := sent
      cases same
      cases found.symm.trans (Table.lookup_eq_some_iff.mpr member)
      dsimp only at archived
      rw [read] at archived
      cases archived
      exact killOrphan_ended (by rw [told]; rfl)
    · intro maxSessions bufferSize now order
      have member := recovered_arch header reads found
      have missing : (loadArchived bufferSize now ∅ (recoverSessions serde dir)).lookup id = none := by
        rw [loadArchived_other fun other also same => ?_]
        · exact AList.lookup_empty id
        · rw [recoverSessions_one member also same,told]
          rfl
      rw [lookup_recoverFromJournal,missing,ite_self]

/-- A session that had ended when the server died counts as ended after the restart exactly
    when its exit line was pushed through the hook, after a wait that returned, before a kill
    aborted the watcher or the server died. -/
theorem ended_settled_iff (spawned : session = .spawn bufferSize ∨ session = .spawnPty bufferSize)
    (ran : run step (start session exitEvents) actions = some s) (dead : s.died = true)
    (file : s.file = some written) (drained : queueOf s.buffer = []) (header : serde.metadata.Reads metadata)
    (reads : ∀ entry ∈ written, serde.entry.Reads entry)
    (found : dir.lookup id = some (journalText serde metadata written)) :
    (∀ code, -2 ^ 31 ≤ code → code < 2 ^ 31 → parseExitCode (SessionExit.exitLine (.ok (some code))) = some code) ∧
      ((ended s = true → Settled serde dir id) ↔
        Along step (fun s a => tells s a = true) (start session exitEvents) actions) := by
  refine ⟨fun code least most => parseExitCode_exitLine least most,?_⟩
  have fated : Fated s := run_preserves (fun _ _ _ => fated_step) (fated_start spawned) ran
  have first : Sound (start session exitEvents) := by
    refine sound_watched rfl ?_ rfl
    obtain rfl | rfl := spawned <;> rfl
  have along := @last_iff_along _ _ step Fated Sound (fun s a => tells s a = true) (fun _ _ _ => fated_step)
    (fun s a t fated sound stepped => (sound_step fated stepped).trans (and_iff_right sound))
    (fun s a t fated stepped sound => ((sound_step fated stepped).mp sound).1) _ _ _ (fated_start spawned) first ran
  have whole := journaled_written file drained
  rw [← along,settled_iff header reads found,← whole]
  constructor
  · intro settled
    refine ⟨fun past => settled ?_,fun before finished => ?_⟩
    · simp [ended,past_begun past]
    · exact absurd (settled finished) (fated.untold before)
  · intro sound finished
    cases past : s.exits.watcher.past with
    | true => exact sound.told past
    | false =>
      have lives := (sound.coming past finished).2
      rw [dead] at lives
      cases lives

end

/-- The process outlives the grace period of a kill. -/
def killedLate : List Action :=
  [.createJournal,.setJournal,.insert,.session .kill,.session (.killEnds true),.die]

def exitedThenDied : List Action :=
  [.createJournal,.setJournal,.insert,.session (.exit (some 0)),.session (.wait (.ok (some 0))),.session .recordCode,
    .session (.pushExit 3),.writeEntry,.die]

def exitEntry : JournalEntry := ⟨1,'x',"Process exited with code 0",3⟩

theorem ended_settled_played :
    Settled (plainSerde [exitEntry]) (onlyJournal [exitEntry]
      [exitEntry]) "s" :=
  (@ended_settled_iff (plainSerde [exitEntry]) shellMetadata (.spawn 16) 16 false exitedThenDied
    ((played exitedThenDied).get (by decide +kernel)) [exitEntry]
    (onlyJournal [exitEntry] [exitEntry]) "s"
    (.inl rfl) (Option.some_get _).symm (by decide +kernel) (by decide +kernel) (by decide +kernel) (by decide +kernel)
    (by decide +kernel) (by decide +kernel)).2.mpr (by decide +kernel) (by decide +kernel)

/-- A session that a kill had to end is taken for running after the restart. -/
theorem killed_resurrected :
    ¬ ∀ (serde : Serde) (metadata : SessionMetadata) (session : ManagedSession) (bufferSize : Nat) (exitEvents : Bool)
        (actions : List Action) (s : State) (written : List JournalEntry) (dir : Directory) (id : String),
      session = .spawn bufferSize ∨ session = .spawnPty bufferSize → run step (start session exitEvents) actions = some s →
      s.died = true → s.file = some written → queueOf s.buffer = [] → serde.metadata.Reads metadata →
      (∀ entry ∈ written, serde.entry.Reads entry) → dir.lookup id = some (journalText serde metadata written) →
      ended s = true → Settled serde dir id := by
  intro claim
  have settled := claim (plainSerde []) shellMetadata (.spawn 16) 16 false killedLate
    ((played killedLate).get (by decide +kernel)) [] (onlyJournal [] []) "s"
    (.inl rfl) (Option.some_get _).symm (by decide +kernel) (by decide +kernel) (by decide +kernel) (by decide +kernel)
    (by decide +kernel) (by decide +kernel) (by decide +kernel)
  have running : ((recoverFromJournal 4 16 9 (fun ids => ids) ∅ (recoverSessions (plainSerde []) (onlyJournal [] []))).lookup
      "s").isSome = true := by decide +kernel
  rw [settled.unrecovered] at running
  cases running

end Sctl.SessionEndings
