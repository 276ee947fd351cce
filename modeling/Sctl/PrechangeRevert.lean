import Sctl.WatchdogResets

/-!
The revert to the bands before a user's change. It is tried for three minutes after
the change, but the two minutes of user suppression and the two minutes of grace come
first: the outage is noted when the suppression is over, and its grace ends when the
window is closed, unless the tick that notes it had looked for user activity before
the change was made.
-/
namespace Sctl.PrechangeRevert
open LteBands LteShared LtePrograms LteWatchdog WatchdogResets Dialogues Runs

/-! ### What is watched for -/

/-- The recovery actions: what the watchdog announces, and the bands it writes. -/
def Recovers : Ask → Prop
  | .act _ _ | .command (.writeBands _) => True
  | _ => False

/-- The revert begins: the look finds bands. -/
def begins : LteTurn → Bool
  | ⟨.shared (.prechangeInfo _),answer⟩ => answer.value.isSome
  | _ => false

/-- The state after a user's band change, whatever the user does besides. -/
structure Changed (change : Nat) (before : Option (List Nat × Option Nat)) (lte : LteState) : Prop where
  changed : lte.lastBandChangeAt = some change
  bands : lte.preChangeBands = before
  acted : ∃ acted, lte.lastUserActionAt = some acted ∧ change ≤ acted

/-- From the change on the shared state tells of it, and the tunnel is up until it drops for good. -/
def Seen (change drop : Nat) (before : Option (List Nat × Option Nat)) (turn : LteTurn) : Prop :=
  change ≤ turn.answer.instant →
    match turn with
    | ⟨.connected,answer⟩ => answer.value = true ↔ answer.instant ≤ drop
    | ⟨.shared .userSuppressed,answer⟩ => ∃ lte, Changed change before lte ∧ answer.value = userSuppressed answer.instant lte
    | ⟨.shared (.prechangeInfo since),answer⟩ =>
      ∃ lte, Changed change before lte ∧ answer.value = prechangeInfo answer.instant since lte
    | _ => True

/-- No recovery action of the outage comes before the revert. -/
def RevertFirst (change drop : Nat) (turns : List LteTurn) : Prop :=
  ∀ early turn late, turns = early ++ turn :: late → drop < turn.answer.instant → Recovers turn.question →
    ∃ revert ∈ early, change ≤ revert.answer.instant ∧ begins revert = true

/-- A tick that looked for user activity before the change and notes an outage after it. -/
def Straddles (change : Nat) : List LteTurn → Prop
  | ⟨.shared .skipTick,_⟩ :: ⟨.shared .userSuppressed,user⟩ :: ⟨.connected,_⟩ :: ⟨.shared .forgetStability,_⟩ :: ⟨.clock,noted⟩ :: _ =>
    user.instant < change ∧ change < noted.instant
  | _ => False

/-- One of the ticks straddles the change, with no outage noted before. -/
def Raced (config : LteConfig) (start : Watchdog) (change : Nat) (ticks : List (List LteTurn)) : Prop :=
  ∃ early tick late w, ticks = early ++ tick :: late ∧ run (tickOnce config) start early = some w ∧
    w.state.tunnelDisconnectSince = none ∧ Straddles change tick

/-- A tick gets to the look before the window is closed. -/
def InTime (change : Nat) (turns : List LteTurn) : Prop :=
  ∃ turn ∈ turns, Checks turn.question ∧ change ≤ turn.answer.instant ∧ turn.answer.instant < change + prechangeRevertWindow

/-! ### The shared state after a change -/

/-- The accesses that make a user's band change or forget it. -/
def Rebands : Region → Prop
  | .additiveChange .. | .userChange .. | .simChange => True
  | _ => False

theorem promoteStable_changed {now epoch : Nat} {shared : Shared} :
    (promoteStable now epoch shared).lte.lastBandChangeAt = shared.lte.lastBandChangeAt ∧
      (promoteStable now epoch shared).lte.preChangeBands = shared.lte.preChangeBands ∧
      (promoteStable now epoch shared).lte.lastUserActionAt = shared.lte.lastUserActionAt := by
  have tracked : (shared.lte.trackStability now).lastBandChangeAt = shared.lte.lastBandChangeAt ∧
      (shared.lte.trackStability now).preChangeBands = shared.lte.preChangeBands ∧
      (shared.lte.trackStability now).lastUserActionAt = shared.lte.lastUserActionAt := by
    unfold LteState.trackStability
    split <;> exact ⟨rfl,rfl,rfl⟩
  have promoted : ∀ (bands : List Nat) (priority : Option Nat) (rsrp : Option Int) (shared : Shared),
      (promoteSafeBands epoch bands priority rsrp shared).lte.lastBandChangeAt = shared.lte.lastBandChangeAt ∧
        (promoteSafeBands epoch bands priority rsrp shared).lte.preChangeBands = shared.lte.preChangeBands ∧
        (promoteSafeBands epoch bands priority rsrp shared).lte.lastUserActionAt = shared.lte.lastUserActionAt := by
    intro bands priority rsrp shared
    unfold promoteSafeBands
    split <;> exact ⟨rfl,rfl,rfl⟩
  unfold promoteStable
  dsimp only
  generalize shared.lte.trackStability now = lte at tracked
  cases lte.bandStableSince with
  | none => exact tracked
  | some since =>
    dsimp only
    split
    · cases lte.toPromote with
      | none => exact tracked
      | some bands =>
        have kept := promoted bands (lte.cachedConfig.bind (·.priorityBand)) (lte.signal.bind (·.rsrp)) { shared with lte := lte }
        exact ⟨kept.1.trans tracked.1,kept.2.1.trans tracked.2.1,kept.2.2.trans tracked.2.2⟩
    · exact tracked

/-- Whatever else is done to the shared state, the change is remembered. -/
theorem changed_access {change now epoch : Nat} {before : Option (List Nat × Option Nat)} {shared : Shared} {region : Region}
    (changed : Changed change before shared.lte) (other : ¬ Rebands region) (late : change ≤ now) :
    Changed change before (access now epoch shared region).2.lte := by
  cases region with
  | additiveChange bands priority config => exact absurd trivial other
  | userChange suppression bands priority config => exact absurd trivial other
  | simChange => exact absurd trivial other
  | skipTick =>
    obtain ⟨status,same⟩ := skipTick_status now epoch shared.lte
    have here : (access now epoch shared .skipTick).2.lte = { shared.lte with scanStatus := status } := same
    rw [here]
    exact ⟨changed.changed,changed.bands,changed.acted⟩
  | promoteStable =>
    have kept := @promoteStable_changed now epoch shared
    obtain ⟨acted,same,after⟩ := changed.acted
    exact ⟨kept.1.trans changed.changed,kept.2.1.trans changed.bands,acted,kept.2.2.trans same,after⟩
  | scanRequest => exact ⟨changed.changed,changed.bands,now,rfl,late⟩
  | polled signal save =>
    have here : (access now epoch shared (.polled signal save)).2.lte = { shared.lte with signal := some signal } := by
      simp only [access]
      split <;> rfl
    rw [here]
    exact ⟨changed.changed,changed.bands,changed.acted⟩
  | _ => exact ⟨changed.changed,changed.bands,changed.acted⟩

/-- So it is over any accesses between the change and a tick. -/
theorem changed_accesses {change : Nat} {before : Option (List Nat × Option Nat)} {shared : Shared}
    (changed : Changed change before shared.lte) {accesses : List (Nat × Nat × Region)}
    (others : ∀ made ∈ accesses, ¬ Rebands made.2.2 ∧ change ≤ made.1) : Changed change before (accessAll shared accesses).lte := by
  induction accesses generalizing shared with
  | nil => exact changed
  | cons made accesses ih =>
    obtain ⟨here,later⟩ := List.forall_mem_cons.mp others
    exact ih (changed_access changed here.1 here.2) later

/-- A user's change is remembered with the bands before it, if these were known. -/
theorem changed_userChange {now suppression : Nat} {bands : List Nat} {priority : Option Nat} {config : BandConfig} {lte : LteState}
    (known : bands ≠ []) : Changed now (some (bands,priority)) (userChange now suppression bands priority config lte) :=
  ⟨rfl,if_neg known,now,rfl,Nat.le_refl now⟩

/-! ### What a tick does to the outage -/

/-- The outage is as it was, or the episode is over. -/
def Keeps (s t : WatchdogState) : Prop :=
  (t.tunnelDisconnectSince = s.tunnelDisconnectSince ∧ t.triedPrechangeRevert = s.triedPrechangeRevert) ∨
    (t.tunnelDisconnectSince = none ∧ t.triedPrechangeRevert = false)

theorem keeps_same {s t : WatchdogState} (noted : t.tunnelDisconnectSince = s.tunnelDisconnectSince)
    (tried : t.triedPrechangeRevert = s.triedPrechangeRevert) : Keeps s t := .inl ⟨noted,tried⟩

theorem Keeps.trans {s t u : WatchdogState} (first : Keeps s t) (second : Keeps t u) : Keeps s u := by
  rcases second with ⟨noted,tried⟩ | ended
  · rcases first with ⟨noted',tried'⟩ | ⟨noted',tried'⟩
    · exact .inl ⟨noted.trans noted',tried.trans tried'⟩
    · exact .inr ⟨noted.trans noted',tried.trans tried'⟩
  · exact .inr ended

theorem keeps_follows : Follows Keeps where
  trans := Keeps.trans
  noted _ _ _ noted tried := keeps_same noted tried
  cleared _ := .inr ⟨rfl,rfl⟩
  slept _ := keeps_same rfl rfl
  failed _ := keeps_same rfl rfl

/-! ### The shape of a tick -/

/-- Neither a look for bands to go back to nor a recovery action. -/
def Calm (question : Ask) : Prop := ¬ Checks question ∧ ¬ Recovers question

/-- What follows in a tick that finds an outage since `noted`: it waits for the grace, or it
    goes on past it, with the look unless the revert was tried before. -/
inductive Goes (s : WatchdogState) (noted : Nat) (front rest : List LteTurn) (t : WatchdogState) : Prop
  | waits (none_ : rest = []) (kept : Keeps { s with tunnelDisconnectSince := some noted } t)
  | tried (before : s.triedPrechangeRevert = true) (quiet : ∀ turn ∈ rest, NotCheck turn.question)
      (kept : Keeps { s with tunnelDisconnectSince := some noted } t)
  | checks (answer : Answer (.shared (.prechangeInfo (some noted)))) (later : List LteTurn)
      (past : ∃ looked ∈ front, noted + secs 120 ≤ looked.answer.instant) (shape : rest = ⟨.shared (.prechangeInfo (some noted)),answer⟩ :: later)
      (quiet : ∀ turn ∈ later, NotCheck turn.question)
      (kept : Keeps { s with tunnelDisconnectSince := some noted, triedPrechangeRevert := answer.value.isSome } t)

section
variable {config : LteConfig} {w after : Watchdog} {turns : List LteTurn}

/-- The grace is the base grace at least, and the outage stays as it was noted. -/
theorem effectiveGrace_calm (state : WatchdogState) :
    Asks Calm (effectiveGrace config state) fun found => secs config.watchdogGraceSecs ≤ found.1 ∧
      found.2.tunnelDisconnectSince = state.tunnelDisconnectSince ∧ found.2.triedPrechangeRevert = state.triedPrechangeRevert := by
  refine asks_call ⟨⟨id,id⟩,fun _ => trivial⟩ fun reply => ?_
  split
  · refine asks_bind.mpr ?_
    unfold since
    cases state.searchingSince with
    | some instant => exact ⟨Nat.le_add_right _ _,rfl,rfl⟩
    | none => exact ⟨⟨id,id⟩,fun _ => ⟨Nat.le_add_right _ _,rfl,rfl⟩⟩
  · exact ⟨Nat.le_refl _,rfl,rfl⟩

theorem Goes.congr {s s' : WatchdogState} {noted : Nat} {front rest : List LteTurn} {t : WatchdogState}
    (goes : Goes s noted front rest t) (tried : s.triedPrechangeRevert = s'.triedPrechangeRevert) : Goes s' noted front rest t := by
  have same : Keeps { s' with tunnelDisconnectSince := some noted } { s with tunnelDisconnectSince := some noted } := keeps_same rfl tried
  cases goes with
  | waits none_ kept => exact .waits none_ (same.trans kept)
  | tried before quiet kept => exact .tried (tried.symm.trans before) quiet (same.trans kept)
  | checks answer later past shape quiet kept => exact .checks answer later past shape quiet (Keeps.trans (keeps_same rfl rfl) kept)

/-- Past the grace: the look, unless the revert was tried before. -/
theorem prechangeRevert_goes {s : WatchdogState} {k : Stage → Lte Watchdog} {noted : Nat} {front : List LteTurn}
    (past : ∃ looked ∈ front, noted + secs 120 ≤ looked.answer.instant)
    (onward : ∀ stage, Asks NotCheck (k stage) fun after => Keeps (stageState stage) after.state)
    (ended : (prechangeRevert config { s with tunnelDisconnectSince := some noted } >>= k).Ends turns after) :
    Goes s noted front turns after.state := by
  unfold prechangeRevert at ended
  split at ended
  · next tried =>
    have all := onward (.onward { s with tunnelDisconnectSince := some noted })
    have kept := asks_ends all ended
    exact .tried tried (asks_questions all ended) kept
  · next untried =>
    rw [Dialogue.bind_after] at ended
    obtain ⟨answer,later,rfl,rest⟩ := ends_question.mp ended
    obtain ⟨instant,epoch,_ | before⟩ := answer
    · have same : Keeps { s with tunnelDisconnectSince := some noted, triedPrechangeRevert := false }
          { s with tunnelDisconnectSince := some noted } := keeps_same rfl ((Bool.not_eq_true s.triedPrechangeRevert).mp untried)
      have all := onward (.onward { s with tunnelDisconnectSince := some noted })
      have kept := asks_ends all rest
      exact .checks ⟨instant,epoch,none⟩ later past rfl (asks_questions all rest) (same.trans kept)
    · have all := asks_bind.mpr (asks_mono
        (@revertTo_follows { s with tunnelDisconnectSince := some noted, triedPrechangeRevert := true } config Keeps keeps_follows
          before.1 before.2 .prechangeRevert) fun stage reverted => asks_mono (onward stage) fun after kept => reverted.trans kept)
      have kept := asks_ends all rest
      exact .checks ⟨instant,epoch,some before⟩ later past rfl (asks_questions all rest) kept

/-- A disconnected tick: the outage is noted if it was not, then the grace, then the rest. -/
theorem disconnectedTick_shape (default_ : config.watchdogGraceSecs = 120) (ended : (disconnectedTick config w).Ends turns after) :
    ∃ forgot noted front rest, turns = ⟨.shared .forgetStability,forgot⟩ :: (front ++ rest) ∧ (∀ turn ∈ front, Calm turn.question) ∧
      (w.state.tunnelDisconnectSince = some noted ∨
        (w.state.tunnelDisconnectSince = none ∧ ∃ clock later, front = ⟨.clock,clock⟩ :: later ∧ clock.instant = noted)) ∧
      Goes w.state noted front rest after.state := by
  obtain ⟨forgot,rest,rfl,started⟩ := ends_question.mp ended
  obtain ⟨first,rest,noted,rfl,began,onward⟩ := Dialogue.ends_bind.mp started
  obtain ⟨looked,rest,rfl,graced⟩ := ends_now.mp onward
  obtain ⟨third,rest,⟨grace,state⟩,rfl,waited,goes⟩ := Dialogue.ends_bind.mp graced
  have calm := asks_questions (effectiveGrace_calm _) waited
  obtain ⟨least,start,tried⟩ := asks_ends (effectiveGrace_calm _) waited
  dsimp only at least start tried goes
  rw [default_] at least
  have noted_ : (∀ turn ∈ first, Calm turn.question) ∧ (w.state.tunnelDisconnectSince = some noted ∨
      (w.state.tunnelDisconnectSince = none ∧ ∃ clock, first = [⟨.clock,clock⟩] ∧ clock.instant = noted)) := by
    unfold since at began
    cases before : w.state.tunnelDisconnectSince with
    | some instant =>
      rw [before] at began
      obtain ⟨rfl,rfl⟩ := Dialogue.ends_done.mp began
      exact ⟨List.forall_mem_nil _,.inl rfl⟩
    | none =>
      rw [before] at began
      obtain ⟨clock,later,rfl,read⟩ := Dialogue.ends_ask.mp began
      obtain ⟨rfl,rfl⟩ := Dialogue.ends_done.mp read
      exact ⟨List.forall_mem_singleton.mpr ⟨id,id⟩,.inr ⟨rfl,clock,rfl,rfl⟩⟩
  have front : ∀ turn ∈ first ++ ⟨.clock,looked⟩ :: third, Calm turn.question := by
    refine List.forall_mem_append.mpr ⟨noted_.1,List.forall_mem_cons.mpr ⟨⟨id,id⟩,calm⟩⟩
  have began_ : w.state.tunnelDisconnectSince = some noted ∨ (w.state.tunnelDisconnectSince = none ∧
      ∃ clock later, first ++ ⟨.clock,looked⟩ :: third = ⟨.clock,clock⟩ :: later ∧ clock.instant = noted) := by
    refine noted_.2.imp id fun ⟨none_,clock,only,read⟩ => ⟨none_,clock,⟨.clock,looked⟩ :: third,?_,read⟩
    rw [only]
    rfl
  refine ⟨forgot,noted,first ++ ⟨.clock,looked⟩ :: third,rest,by simp,front,began_,?_⟩
  split at goes
  · obtain ⟨rfl,rfl⟩ := Dialogue.ends_done.mp goes
    exact .waits rfl (keeps_same start tried)
  · next long =>
    have past : ∃ turn ∈ first ++ ⟨.clock,looked⟩ :: third, noted + secs 120 ≤ turn.answer.instant := by
      refine ⟨⟨.clock,looked⟩,by simp,?_⟩
      have some_ : 0 < secs 120 := by decide
      dsimp only
      omega
    have same : { state with tunnelDisconnectSince := some noted } = state := by rw [← start]
    rw [← same] at goes
    refine Goes.congr (prechangeRevert_goes past (fun stage => ?_) goes) tried
    cases stage with
    | ended state => exact keeps_same rfl rfl
    | onward state =>
      refine asks_bind.mpr (asks_mono (safeRevert_follows keeps_follows) fun stage restored => ?_)
      cases stage with
      | ended state => exact restored
      | onward state => exact asks_mono (respond_follows keeps_follows) fun after kept => Keeps.trans restored kept

theorem connectedTick_calm : Asks Calm (connectedTick w) fun after => Keeps w.state after.state := by
  have began : ∀ field : Option Nat, Asks Calm (since field) fun _ => True := by
    intro field
    cases field with
    | none => exact ⟨⟨id,id⟩,fun _ => trivial⟩
    | some instant => trivial
  have tiers : ∀ (watchdog : Watchdog) (connected : Nat),
      Asks Calm (tieredReset watchdog connected) fun after => Keeps watchdog.state after.state := by
    intro watchdog connected
    unfold tieredReset
    split
    · split
      · have heavy : Asks Calm (resetEpisode .heavy watchdog.state) fun state => state = watchdog.state.reset .heavy :=
          ⟨⟨id,id⟩,fun _ => rfl⟩
        refine asks_bind.mpr (asks_mono heavy fun state same => asks_call ?_ fun _ => ?_)
        · rw [asks_onlyIf]
          split
          · exact ⟨⟨id,id⟩,fun _ => trivial⟩
          · trivial
        · rw [same]
          exact .inr ⟨rfl,rfl⟩
      · split
        · exact ⟨⟨id,id⟩,fun _ => .inr ⟨rfl,rfl⟩⟩
        · exact keeps_same rfl rfl
    · exact keeps_same rfl rfl
  refine asks_call (began _) fun connected => asks_call ⟨⟨id,id⟩,fun _ => trivial⟩ fun instant => asks_bind.mpr ?_
  exact asks_mono (tiers _ _) fun after kept => ⟨⟨id,id⟩,fun _ => Keeps.trans (keeps_same rfl rfl) kept⟩

/-- A tick is calm, or it finds the tunnel down after its checks. -/
theorem tick_shape (default_ : config.watchdogGraceSecs = 120) (stepped : tickOnce config w turns = some after) :
    ((∀ turn ∈ turns, Calm turn.question) ∧ Keeps w.state after.state) ∨
      ∃ skip user up forgot noted front rest,
        turns = [⟨.shared .skipTick,skip⟩,⟨.shared .userSuppressed,user⟩,⟨.connected,up⟩,⟨.shared .forgetStability,forgot⟩] ++
          (front ++ rest) ∧ user.value = false ∧ (∀ turn ∈ front, Calm turn.question) ∧
        (w.state.tunnelDisconnectSince = some noted ∨
          (w.state.tunnelDisconnectSince = none ∧ ∃ clock later, front = ⟨.clock,clock⟩ :: later ∧ clock.instant = noted)) ∧
        Goes w.state noted front rest after.state := by
  obtain ⟨skip,first,rfl,afterSkip⟩ := ends_question.mp (tickOnce_iff.mp stepped)
  by_cases skipped : skip.value = true
  · rw [if_pos skipped] at afterSkip
    obtain ⟨rfl,rfl⟩ := Dialogue.ends_done.mp afterSkip
    exact .inl ⟨List.forall_mem_singleton.mpr ⟨id,id⟩,keeps_same rfl rfl⟩
  rw [if_neg skipped] at afterSkip
  obtain ⟨user,second,rfl,afterUser⟩ := ends_question.mp afterSkip
  by_cases active : user.value = true
  · rw [if_pos active] at afterUser
    obtain ⟨rfl,rfl⟩ := Dialogue.ends_done.mp afterUser
    exact .inl ⟨List.forall_mem_cons.mpr ⟨⟨id,id⟩,List.forall_mem_singleton.mpr ⟨id,id⟩⟩,keeps_same rfl rfl⟩
  rw [if_neg active] at afterUser
  obtain ⟨up,third,rfl,afterUp⟩ := ends_question.mp afterUser
  by_cases seen : up.value = true
  · rw [if_pos seen] at afterUp
    have calm := asks_questions connectedTick_calm afterUp
    have kept := asks_ends connectedTick_calm afterUp
    exact .inl ⟨List.forall_mem_cons.mpr ⟨⟨id,id⟩,List.forall_mem_cons.mpr ⟨⟨id,id⟩,List.forall_mem_cons.mpr ⟨⟨id,id⟩,calm⟩⟩⟩,kept⟩
  · rw [if_neg seen] at afterUp
    obtain ⟨forgot,noted,front,rest,rfl,calm,began,goes⟩ := disconnectedTick_shape default_ afterUp
    exact .inr ⟨skip,user,up,forgot,noted,front,rest,rfl,(Bool.not_eq_true _).mp active,calm,began,goes⟩

end

/-! ### Looks and recovery actions over a run -/

theorem timely_le {first second : List LteTurn} (timely : Timely (first ++ second)) {early late : LteTurn} (before : early ∈ first)
    (behind : late ∈ second) : early.answer.instant ≤ late.answer.instant := by
  rw [Timely,List.isChain_iff_pairwise,List.map_append,List.pairwise_append] at timely
  exact timely.2.2 _ (List.mem_map_of_mem before) _ (List.mem_map_of_mem behind)

theorem timely_parts {first second : List LteTurn} (timely : Timely (first ++ second)) : Timely first ∧ Timely second := by
  simp only [Timely,List.isChain_iff_pairwise,List.map_append,List.pairwise_append] at timely ⊢
  exact ⟨timely.1,timely.2.1⟩

section
variable {config : LteConfig} {w after : Watchdog} {ticks : List (List LteTurn)} {change drop : Nat}
  {before : Option (List Nat × Option Nat)}

/-- Without an outage the revert has not been tried. -/
theorem untried_run (default_ : config.watchdogGraceSecs = 120) (ran : run (tickOnce config) w ticks = some after)
    (start : w.state.tunnelDisconnectSince = none → w.state.triedPrechangeRevert = false) :
    after.state.tunnelDisconnectSince = none → after.state.triedPrechangeRevert = false := by
  induction ticks generalizing w with
  | nil =>
    cases ran
    exact start
  | cons turns ticks ih =>
    obtain ⟨mid,stepped,later⟩ := run_cons_iff.mp ran
    refine ih later fun none_ => ?_
    have outage : ∀ {s : WatchdogState} {noted : Nat}, s.tunnelDisconnectSince = some noted → Keeps s mid.state →
        mid.state.triedPrechangeRevert = false := by
      intro s noted down kept
      rcases kept with ⟨same,-⟩ | ⟨-,tried⟩
      · rw [none_,down] at same
        cases same
      · exact tried
    rcases tick_shape default_ stepped with ⟨-,kept⟩ | ⟨skip,user,up,forgot,noted,front,rest,-,-,-,-,goes⟩
    · rcases kept with ⟨same,tried⟩ | ⟨-,tried⟩
      · rw [tried]
        exact start (same.symm.trans none_)
      · exact tried
    · cases goes with
      | waits _ kept => exact outage rfl kept
      | tried _ _ kept => exact outage rfl kept
      | checks _ _ _ _ _ kept => exact outage rfl kept

/-- The only look of a tick that finds an outage is the first turn past the grace. -/
theorem Goes.check {s t : WatchdogState} {noted : Nat} {front rest : List LteTurn} (goes : Goes s noted front rest t) {turn : LteTurn}
    (member : turn ∈ rest) (checks : Checks turn.question) :
    (∃ looked ∈ front, noted + secs 120 ≤ looked.answer.instant) ∧
      ∃ answer, turn = ⟨.shared (.prechangeInfo (some noted)),answer⟩ := by
  cases goes with
  | waits none_ _ =>
    rw [none_] at member
    cases member
  | tried _ quiet _ => exact absurd checks (quiet turn member)
  | checks answer later past shape quiet _ =>
    rw [shape] at member
    rcases List.mem_cons.mp member with here | behind
    · exact ⟨past,answer,here⟩
    · exact absurd checks (quiet turn behind)

/-- A turn of two parts put together is in the second or in the first. -/
theorem split_either {α : Type} {first second early late : List α} {x : α} (whole : first ++ second = early ++ x :: late) :
    (∃ more, early = first ++ more ∧ second = more ++ x :: late) ∨ ∃ more, first = early ++ x :: more := by
  rcases List.append_eq_append_iff.mp whole with ⟨more,begun,ended⟩ | ⟨more,begun,ended⟩
  · exact .inl ⟨more,begun,ended⟩
  · cases more with
    | nil => exact .inl ⟨[],by rw [begun,List.append_nil,List.append_nil],ended.symm⟩
    | cons y more =>
      obtain ⟨rfl,-⟩ := List.cons.inj ended
      exact .inr ⟨more,begun⟩

/-- What is neither before the look nor the look comes after it. -/
theorem stands_before {α : Type} {first later early late : List α} {look x : α} (whole : first ++ look :: later = early ++ x :: late)
    (out : x ∉ first) (other : x ≠ look) : look ∈ early := by
  rcases split_either whole with ⟨more,rfl,ended⟩ | ⟨more,rfl⟩
  · cases more with
    | nil => exact absurd (List.cons.inj ended).1.symm other
    | cons y more =>
      obtain ⟨rfl,-⟩ := List.cons.inj ended
      simp
  · exact absurd (by simp) out

/-- A recovery action comes after a look, here or in the tick in which the revert was tried. -/
theorem look_before_run (default_ : config.watchdogGraceSecs = 120) (ran : run (tickOnce config) w ticks = some after)
    {early late : List LteTurn} {turn : LteTurn} (whole : ticks.flatten = early ++ turn :: late) (recovers : Recovers turn.question) :
    w.state.triedPrechangeRevert = true ∨ ∃ look ∈ early, Checks look.question := by
  induction ticks generalizing w early with
  | nil => simp at whole
  | cons turns ticks ih =>
    obtain ⟨mid,stepped,later⟩ := run_cons_iff.mp ran
    rw [List.flatten_cons] at whole
    rcases split_either whole with ⟨more,rfl,ended⟩ | ⟨more,rfl⟩
    · -- the action is in a later tick
      rcases ih later ended with tried | ⟨look,member,checks⟩
      · rcases tick_shape default_ stepped with ⟨-,kept⟩ | ⟨skip,user,up,forgot,noted,front,rest,rfl,-,-,-,goes⟩
        · rcases kept with ⟨-,same⟩ | ⟨-,never⟩
          · exact .inl (same.symm.trans tried)
          · rw [never] at tried
            cases tried
        · cases goes with
          | waits _ kept =>
            rcases kept with ⟨-,same⟩ | ⟨-,never⟩
            · exact .inl (same.symm.trans tried)
            · rw [never] at tried
              cases tried
          | tried before _ _ => exact .inl before
          | checks answer later _ shape _ _ =>
            refine .inr ⟨⟨.shared (.prechangeInfo (some noted)),answer⟩,?_,trivial⟩
            rw [shape]
            simp
      · exact .inr ⟨look,List.mem_append_right _ member,checks⟩
    · -- the action is in this tick
      rcases tick_shape default_ stepped with ⟨calm,-⟩ | ⟨skip,user,up,forgot,noted,front,rest,shape,-,calm,-,goes⟩
      · exact absurd recovers (calm turn (by simp)).2
      have opening : turn ∉ [⟨.shared .skipTick,skip⟩,⟨.shared .userSuppressed,user⟩,⟨.connected,up⟩,
          ⟨.shared .forgetStability,forgot⟩] ++ front := by
        intro member
        rcases List.mem_append.mp member with member | member
        · simp only [List.mem_cons,List.not_mem_nil,or_false] at member
          rcases member with rfl | rfl | rfl | rfl <;> exact recovers
        · exact (calm turn member).2 recovers
      rw [← List.append_assoc] at shape
      cases goes with
      | waits rest_ _ =>
        rw [rest_,List.append_nil] at shape
        exact absurd (by rw [← shape]; simp) opening
      | tried before _ _ => exact .inl before
      | checks answer later _ rest_ _ _ =>
        rw [rest_] at shape
        refine .inr ⟨_,stands_before shape.symm opening ?_,trivial⟩
        rintro rfl
        exact recovers

/-! ### When the outage was noted -/

/-- A tick that notes an outage, after it has found no user activity. -/
def Notes (turns : List LteTurn) (noted : Nat) : Prop :=
  ∃ skip user up forgot clock later, turns = ⟨.shared .skipTick,skip⟩ :: ⟨.shared .userSuppressed,user⟩ :: ⟨.connected,up⟩ ::
    ⟨.shared .forgetStability,forgot⟩ :: ⟨.clock,clock⟩ :: later ∧ user.value = false ∧ clock.instant = noted

/-- The outage that a tick finds is the one noted before, or it notes one. -/
def Outage (w : Watchdog) (turns : List LteTurn) (noted : Nat) : Prop :=
  w.state.tunnelDisconnectSince = some noted ∨ (w.state.tunnelDisconnectSince = none ∧ Notes turns noted)

/-- The outage of a tick is the one it leaves noted and the one that it looks at, two minutes later at the earliest. -/
theorem tick_outage {turns : List LteTurn} (default_ : config.watchdogGraceSecs = 120) (timely : Timely turns)
    (stepped : tickOnce config w turns = some after) :
    (∀ noted, after.state.tunnelDisconnectSince = some noted → Outage w turns noted) ∧
      ∀ look ∈ turns, Checks look.question → ∃ noted answer, look = ⟨.shared (.prechangeInfo (some noted)),answer⟩ ∧
        Outage w turns noted ∧ noted + secs 120 ≤ answer.instant := by
  have left : ∀ {s t : WatchdogState} {since noted : Nat}, s.tunnelDisconnectSince = some since → Keeps s t →
      t.tunnelDisconnectSince = some noted → since = noted := by
    intro s t since noted down kept found
    rcases kept with ⟨same,-⟩ | ⟨none_,-⟩
    · exact Option.some.inj (down.symm.trans (same.symm.trans found))
    · rw [none_] at found
      cases found
  rcases tick_shape default_ stepped with ⟨calm,kept⟩ | ⟨skip,user,up,forgot,since,front,rest,rfl,idle,calm,began,goes⟩
  · refine ⟨fun noted found => ?_,fun look member checks => absurd checks (calm look member).1⟩
    rcases kept with ⟨same,-⟩ | ⟨none_,-⟩
    · exact .inl (same.symm.trans found)
    · rw [none_] at found
      cases found
  · have outage : Outage w ([⟨.shared .skipTick,skip⟩,⟨.shared .userSuppressed,user⟩,⟨.connected,up⟩,
        ⟨.shared .forgetStability,forgot⟩] ++ (front ++ rest)) since := by
      refine began.imp id fun ⟨none_,clock,later,shape,read⟩ => ⟨none_,skip,user,up,forgot,clock,later ++ rest,?_,idle,read⟩
      rw [shape]
      rfl
    refine ⟨fun noted found => ?_,fun look member checks => ?_⟩
    · have same : since = noted := by
        cases goes with
        | waits _ kept => exact left rfl kept found
        | tried _ _ kept => exact left rfl kept found
        | checks _ _ _ _ _ kept => exact left rfl kept found
      exact same ▸ outage
    · have behind : look ∈ rest := by
        rcases List.mem_append.mp member with member | member
        · simp only [List.mem_cons,List.not_mem_nil,or_false] at member
          rcases member with rfl | rfl | rfl | rfl <;> exact checks.elim
        · rcases List.mem_append.mp member with member | member
          · exact absurd checks (calm look member).1
          · exact member
      obtain ⟨⟨looked,near,past⟩,answer,rfl⟩ := goes.check behind checks
      have ordered := timely_le (timely_parts timely).2 near behind
      exact ⟨since,answer,rfl,outage,past.trans ordered⟩

/-- A tick notes an outage before the change, after the suppression, or it straddles the change. -/
theorem notes_late {turns : List LteTurn} {noted : Nat} (timely : Timely turns)
    (seen : ∀ turn ∈ turns, Seen change drop before turn) (notes : Notes turns noted) :
    Straddles change turns ∨ noted ≤ change ∨ change + secs 120 ≤ noted := by
  obtain ⟨skip,user,up,forgot,clock,later,rfl,idle,rfl⟩ := notes
  have ordered : user.instant ≤ clock.instant := by
    have parts : Timely ([⟨.shared .skipTick,skip⟩,⟨.shared .userSuppressed,user⟩] ++
      (⟨.connected,up⟩ :: ⟨.shared .forgetStability,forgot⟩ :: ⟨.clock,clock⟩ :: later)) := timely
    have asked : (⟨.shared .userSuppressed,user⟩ : LteTurn) ∈ [⟨.shared .skipTick,skip⟩,⟨.shared .userSuppressed,user⟩] := by simp
    have read : (⟨.clock,clock⟩ : LteTurn) ∈ ⟨.connected,up⟩ :: ⟨.shared .forgetStability,forgot⟩ :: ⟨.clock,clock⟩ :: later := by simp
    exact timely_le parts asked read
  rcases Nat.lt_or_ge user.instant change with first | first
  · rcases Nat.lt_or_ge change clock.instant with behind | behind
    · exact .inl ⟨first,behind⟩
    · exact .inr (.inl behind)
  · obtain ⟨lte,changed,found⟩ := seen ⟨.shared .userSuppressed,user⟩ (by simp) first
    obtain ⟨acted,recent,late⟩ := changed.acted
    have quiet : ¬ user.instant - acted < userActivitySuppression := by
      have same := found.symm.trans idle
      simpa [userSuppressed,recent] using same
    have two : userActivitySuppression = secs 120 := rfl
    refine .inr (.inr ?_)
    omega

/-- A look in time needs an outage noted after the change, which no tick notes but one that straddles it. -/
theorem raced_of_look (default_ : config.watchdogGraceSecs = 120) (ran : run (tickOnce config) w ticks = some after)
    (timely : Timely ticks.flatten) (seen : ∀ turn ∈ ticks.flatten, Seen change drop before turn)
    (noted : ∀ since, w.state.tunnelDisconnectSince = some since → since ≤ change ∨ change + secs 120 ≤ since)
    {since : Nat} {answer : Answer (.shared (.prechangeInfo (some since)))}
    (looked : ⟨.shared (.prechangeInfo (some since)),answer⟩ ∈ ticks.flatten) (behind : change < since)
    (open_ : answer.instant < change + prechangeRevertWindow) : Raced config w change ticks := by
  have window : prechangeRevertWindow < secs 120 + secs 120 := by decide
  induction ticks generalizing w with
  | nil => cases looked
  | cons turns ticks ih =>
    obtain ⟨mid,stepped,later⟩ := run_cons_iff.mp ran
    rw [List.flatten_cons] at timely seen looked
    obtain ⟨here,next⟩ := timely_parts timely
    obtain ⟨seenHere,seenNext⟩ := List.forall_mem_append.mp seen
    obtain ⟨leaves,looks⟩ := tick_outage default_ here stepped
    -- the tick straddles the change, or the outages it finds are none of those that the look needs
    have outages : Raced config w change (turns :: ticks) ∨
        ∀ since, Outage w turns since → since ≤ change ∨ change + secs 120 ≤ since := by
      by_cases straddles : w.state.tunnelDisconnectSince = none ∧ Straddles change turns
      · exact .inl ⟨[],turns,ticks,w,rfl,rfl,straddles⟩
      · refine .inr fun since outage => ?_
        rcases outage with old | ⟨none_,notes⟩
        · exact noted since old
        · exact (notes_late here seenHere notes).resolve_left fun found => straddles ⟨none_,found⟩
    rcases outages with raced | outages
    · exact raced
    rcases List.mem_append.mp looked with looked | looked
    · obtain ⟨since',answer',same,outage,past⟩ := looks _ looked trivial
      cases same
      rcases outages since outage with first | late
      · omega
      · omega
    · obtain ⟨early,tick,late,v,rfl,began,straddles⟩ :=
        ih later next seenNext (fun since found => outages since (leaves since found)) looked
      exact ⟨turns :: early,tick,late,v,rfl,run_cons_iff.mpr ⟨mid,stepped,began⟩,straddles⟩

/-- From a tick that straddles the change on, the looks are for an outage noted after it. -/
theorem looks_after (default_ : config.watchdogGraceSecs = 120) (ran : run (tickOnce config) w ticks = some after)
    (timely : Timely ticks.flatten) (noted : ∀ since, w.state.tunnelDisconnectSince = some since → change < since)
    (late : ∀ turn ∈ ticks.flatten, change < turn.answer.instant) :
    ∀ look ∈ ticks.flatten, Checks look.question → ∃ since answer,
      look = ⟨.shared (.prechangeInfo (some since)),answer⟩ ∧ change < since ∧ change < answer.instant := by
  induction ticks generalizing w with
  | nil => exact List.forall_mem_nil _
  | cons turns ticks ih =>
    obtain ⟨mid,stepped,later⟩ := run_cons_iff.mp ran
    rw [List.flatten_cons] at timely late ⊢
    obtain ⟨here,next⟩ := timely_parts timely
    obtain ⟨lateHere,lateNext⟩ := List.forall_mem_append.mp late
    obtain ⟨leaves,looks⟩ := tick_outage default_ here stepped
    have outages : ∀ since, Outage w turns since → change < since := by
      rintro since (old | ⟨-,skip,user,up,forgot,clock,rest,rfl,-,rfl⟩)
      · exact noted since old
      · exact lateHere ⟨.clock,clock⟩ (by simp)
    refine List.forall_mem_append.mpr ⟨fun look member checks => ?_,?_⟩
    · obtain ⟨since,answer,rfl,outage,-⟩ := looks look member checks
      exact ⟨since,answer,rfl,outages since outage,lateHere _ member⟩
    · exact ih later next (fun since found => outages since (leaves since found)) lateNext

theorem looks_raced {tick : List LteTurn} {late : List (List LteTurn)} (default_ : config.watchdogGraceSecs = 120)
    (ran : run (tickOnce config) w (tick :: late) = some after) (timely : Timely (tick :: late).flatten)
    (none_ : w.state.tunnelDisconnectSince = none) (straddles : Straddles change tick) :
    ∀ look ∈ (tick :: late).flatten, Checks look.question → ∃ since answer,
      look = ⟨.shared (.prechangeInfo (some since)),answer⟩ ∧ change < since ∧ change < answer.instant := by
  obtain ⟨mid,stepped,later⟩ := run_cons_iff.mp ran
  rw [List.flatten_cons] at timely ⊢
  obtain ⟨here,next⟩ := timely_parts timely
  obtain ⟨leaves,looks⟩ := tick_outage default_ here stepped
  have outages : ∀ since, Outage w tick since → change < since := by
    rintro since (old | ⟨-,skip,user,up,forgot,clock,rest,rfl,-,rfl⟩)
    · rw [none_] at old
      cases old
    · exact straddles.2
  have behind : ∃ turn ∈ tick, change < turn.answer.instant := by
    unfold Straddles at straddles
    split at straddles
    · next clock _ => exact ⟨⟨.clock,clock⟩,by simp,straddles.2⟩
    · exact straddles.elim
  obtain ⟨turn,member,read⟩ := behind
  refine List.forall_mem_append.mpr ⟨fun look looked checks => ?_,?_⟩
  · obtain ⟨since,answer,rfl,outage,past⟩ := looks look looked checks
    have after_ := outages since outage
    exact ⟨since,answer,rfl,after_,by omega⟩
  · refine looks_after default_ later next (fun since found => outages since (leaves since found)) fun turn' member' => ?_
    exact read.trans_le (timely_le timely member member')

/-- The look after the change finds the bands before it: for an outage noted after the change, while the window is open. -/
theorem begins_iff {since : Option Nat} {answer : Answer (.shared (.prechangeInfo since))}
    (seen : Seen change drop before ⟨.shared (.prechangeInfo since),answer⟩) (behind : change ≤ answer.instant) :
    begins ⟨.shared (.prechangeInfo since),answer⟩ = true ↔
      before.isSome = true ∧ answer.instant < change + prechangeRevertWindow ∧ since.any (change < ·) = true := by
  obtain ⟨lte,changed,found⟩ := seen behind
  have info : begins ⟨.shared (.prechangeInfo since),answer⟩ = (prechangeInfo answer.instant since lte).isSome :=
    congrArg Option.isSome found
  have window : answer.instant - change < prechangeRevertWindow ↔ answer.instant < change + prechangeRevertWindow := by omega
  rw [info,prechangeInfo,changed.changed,changed.bands,← window]
  cases before with
  | none => simp
  | some bands =>
    dsimp only
    split
    · next held => simp [held]
    · next held => simpa using held

/-- The revert comes first if and only if a tick straddles the change, the bands before it are
    known, and the look comes before the window is closed. -/
theorem revert_first_iff {exhausted : Bool} (default_ : config.watchdogGraceSecs = 120)
    (ran : run (tickOnce config) ⟨{},exhausted⟩ ticks = some after) (timely : Timely ticks.flatten) (up : change ≤ drop)
    (seen : ∀ turn ∈ ticks.flatten, Seen change drop before turn)
    (acts : ∃ turn ∈ ticks.flatten, drop < turn.answer.instant ∧ Recovers turn.question) :
    RevertFirst change drop ticks.flatten ↔
      Raced config ⟨{},exhausted⟩ change ticks ∧ before.isSome = true ∧ InTime change ticks.flatten := by
  constructor
  · intro first
    obtain ⟨turn,member,behind,recovers⟩ := acts
    obtain ⟨early,late,whole⟩ := List.append_of_mem member
    obtain ⟨revert,earlier,made,reverts⟩ := first early turn late whole behind recovers
    have member' : revert ∈ ticks.flatten := by
      rw [whole]
      exact List.mem_append_left _ earlier
    have look : ∃ since answer, revert = ⟨.shared (.prechangeInfo since),answer⟩ := by
      unfold begins at reverts
      split at reverts
      · exact ⟨_,_,rfl⟩
      · cases reverts
    obtain ⟨since,answer,rfl⟩ := look
    obtain ⟨known,open_,noted⟩ := (begins_iff (seen _ member') made).mp reverts
    cases since with
    | none => cases noted
    | some since =>
      have noted : change < since := of_decide_eq_true noted
      refine ⟨raced_of_look default_ ran timely seen (fun since found => ?_) member' noted open_,known,_,member',trivial,made,open_⟩
      cases found
  · rintro ⟨⟨before_,tick,later,w,rfl,began,none_,straddles⟩,known,inTime⟩ early turn late whole behind recovers
    obtain ⟨look,member,checks,made,open_⟩ := inTime
    rw [List.flatten_append] at whole member timely seen
    obtain ⟨mid,began',onward⟩ := run_append_iff.mp ran
    cases began'.symm.trans began
    -- the ticks before the straddling one are over before the change
    have early_ : ∀ turn ∈ before_.flatten, turn.answer.instant < change := by
      intro turn earlier
      unfold Straddles at straddles
      split at straddles
      · next skip user up forgot clock rest =>
        have asked : (⟨.shared .userSuppressed,user⟩ : LteTurn) ∈ (List.flatten ((⟨.shared .skipTick,skip⟩ ::
            ⟨.shared .userSuppressed,user⟩ :: ⟨.connected,up⟩ :: ⟨.shared .forgetStability,forgot⟩ :: ⟨.clock,clock⟩ :: rest) :: later)) := by
          simp
        exact (timely_le timely earlier asked).trans_lt straddles.1
      · exact straddles.elim
    have looks := looks_raced default_ onward (timely_parts timely).2 none_ straddles
    have reverts : ∀ look ∈ (tick :: later).flatten, Checks look.question → look.answer.instant < change + prechangeRevertWindow →
        change ≤ look.answer.instant ∧ begins look = true := by
      intro look member checks open_
      obtain ⟨since,answer,rfl,noted,made⟩ := looks look member checks
      refine ⟨made.le,(begins_iff (seen _ (List.mem_append_right _ member)) made.le).mpr ⟨known,open_,?_⟩⟩
      exact decide_eq_true noted
    have untried : w.state.triedPrechangeRevert = false := untried_run default_ began (fun _ => rfl) none_
    rcases split_either whole with ⟨more,rfl,ended⟩ | ⟨more,ended⟩
    · have member : look ∈ (tick :: later).flatten := by
        rcases List.mem_append.mp member with earlier | member
        · exact absurd (early_ look earlier) (Nat.not_lt.mpr made)
        · exact member
      rcases look_before_run default_ onward ended recovers with tried | ⟨look',member',checks'⟩
      · rw [untried] at tried
        cases tried
      have ordered := (timely_parts timely).2
      rw [ended] at member ordered
      rcases List.mem_append.mp member with member | member
      · exact ⟨look,List.mem_append_right _ member,reverts look (by rw [ended]; exact List.mem_append_left _ member) checks open_⟩
      · -- the action comes before the look in time, and so does the look before the action
        have first := timely_le ordered member' List.mem_cons_self
        have second : turn.answer.instant ≤ look.answer.instant := by
          rcases List.mem_cons.mp member with rfl | member
          · exact Nat.le_refl _
          · rw [← List.singleton_append] at ordered
            exact timely_le (timely_parts ordered).2 List.mem_cons_self member
        refine ⟨look',List.mem_append_right _ member',reverts look' (by rw [ended]; exact List.mem_append_left _ member') checks' ?_⟩
        omega
    · have earlier : turn ∈ before_.flatten := by
        rw [ended]
        simp
      have := early_ turn earlier
      omega

end

/-! ### A change, and the ticks after it -/

instance : DecidablePred Recovers := fun question => by
  unfold Recovers
  split <;> infer_instance

instance : DecidablePred Checks := fun question => by
  unfold Checks
  split <;> infer_instance

/-- A user's change of the bands 3 and 7 to the band 20. -/
def userChanged : LteState := userChange (secs 1000) (secs 30) [3,7] none ⟨[20],none⟩ {}

/-- Five seconds after the change the tunnel drops, with the modem registered. The tick that
    begins five seconds before the change takes fifteen to look at the tunnel. -/
def dropped (clock : Nat) (question : Ask) : Answer question × Nat :=
  let looked := match question with
    | .connected => if clock = secs 995 then secs 1010 else clock
    | _ => clock
  let reply : question.Reply := match question with
    | .command .registration => some "+CEREG: 0,1".toList
    | .connected => decide (looked ≤ secs 1005)
    | .shared .userSuppressed => decide (secs 1000 ≤ clock) && userSuppressed clock userChanged
    | .shared (.prechangeInfo since) => prechangeInfo clock since userChanged
    | question => plainReply question
  (⟨looked,looked / secs 1,reply⟩,looked)

/-- What the surroundings tell after the change is so by the state that the change left. -/
def Tells (change drop : Nat) (lte : LteState) (turn : LteTurn) : Prop :=
  change ≤ turn.answer.instant →
    match turn with
    | ⟨.connected,answer⟩ => answer.value = true ↔ answer.instant ≤ drop
    | ⟨.shared .userSuppressed,answer⟩ => answer.value = userSuppressed answer.instant lte
    | ⟨.shared (.prechangeInfo since),answer⟩ => answer.value = prechangeInfo answer.instant since lte
    | _ => True

instance {change drop : Nat} {lte : LteState} : DecidablePred (Tells change drop lte) := fun turn => by
  unfold Tells
  refine @instDecidableForall _ _ inferInstance ?_
  split <;> infer_instance

theorem seen_of_tells {change drop : Nat} {before : Option (List Nat × Option Nat)} {lte : LteState} {turn : LteTurn}
    (changed : Changed change before lte) (tells : Tells change drop lte turn) : Seen change drop before turn := by
  intro behind
  have told := tells behind
  split
  · exact told
  · exact ⟨lte,changed,told⟩
  · exact ⟨lte,changed,told⟩
  · trivial

/-- A tick every thirty seconds, and one that is at its look when the bands are changed. -/
def quiet : List (List LteTurn) × Watchdog :=
  ticksAt outageConfig dropped {} ((List.range 11).map fun n => secs (990 + 30 * n))

def racing : List (List LteTurn) × Watchdog :=
  ticksAt outageConfig dropped {} ((List.range 6).map fun n => secs (995 + 30 * n))

theorem quiet_facts : Timely quiet.1.flatten ∧ Spaced quiet.1 ∧
    (∀ turn ∈ quiet.1.flatten, Tells (secs 1000) (secs 1005) userChanged turn) ∧
    (∃ turn ∈ quiet.1.flatten, secs 1005 < turn.answer.instant ∧ Recovers turn.question) ∧
    ∀ turn ∈ quiet.1.flatten, begins turn = false := by decide +kernel

theorem racing_facts : Timely racing.1.flatten ∧
    (∀ turn ∈ racing.1.flatten, Tells (secs 1000) (secs 1005) userChanged turn) ∧
    (∃ turn ∈ racing.1.flatten, secs 1005 < turn.answer.instant ∧ Recovers turn.question) ∧
    ∃ turn ∈ racing.1.flatten, Checks turn.question ∧ secs 1000 ≤ turn.answer.instant ∧
      turn.answer.instant < secs 1000 + prechangeRevertWindow := by decide +kernel

theorem revert_first_racing : RevertFirst (secs 1000) (secs 1005) racing.1.flatten := by
  obtain ⟨timely,tells,acts,inTime⟩ := racing_facts
  have changed : Changed (secs 1000) (some ([3,7],none)) userChanged := changed_userChange (List.cons_ne_nil 3 [7])
  have raced : Raced outageConfig ⟨{},false⟩ (secs 1000) racing.1 :=
    ⟨[],racing.1.headD [],racing.1.tail,{},rfl,rfl,rfl,by decide,by decide⟩
  exact (revert_first_iff rfl run_ticksAt timely (by decide) (fun turn member => seen_of_tells changed (tells turn member)) acts).mpr
    ⟨raced,rfl,inTime⟩

/-- The bands are changed and the tunnel drops; four minutes later the look finds the window
    closed, and the first action is another one. -/
theorem quiet_acts_otherwise : ¬ ∀ (config : LteConfig) (exhausted : Bool) (ticks : List (List LteTurn)) (after : Watchdog)
    (change drop : Nat) (before : Option (List Nat × Option Nat)), config.watchdogGraceSecs = 120 →
    run (tickOnce config) ⟨{},exhausted⟩ ticks = some after → Timely ticks.flatten → Spaced ticks → change ≤ drop →
    (∀ turn ∈ ticks.flatten, Seen change drop before turn) → before.isSome = true →
    RevertFirst change drop ticks.flatten := by
  intro claim
  obtain ⟨timely,spaced,tells,⟨turn,member,behind,recovers⟩,none_⟩ := quiet_facts
  have changed : Changed (secs 1000) (some ([3,7],none)) userChanged := changed_userChange (List.cons_ne_nil 3 [7])
  have first := claim outageConfig false quiet.1 quiet.2 (secs 1000) (secs 1005) (some ([3,7],none)) rfl run_ticksAt timely spaced
    (by decide) (fun turn member => seen_of_tells changed (tells turn member)) rfl
  obtain ⟨early,late,whole⟩ := List.append_of_mem member
  obtain ⟨revert,earlier,-,reverts⟩ := first early turn late whole behind recovers
  rw [none_ revert (by rw [whole]; exact List.mem_append_left _ earlier)] at reverts
  cases reverts

end Sctl.PrechangeRevert
