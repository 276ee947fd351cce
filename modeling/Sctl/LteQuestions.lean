import Sctl.LteWatchdog

/-!
What the programs ask. Most questions are routine: they write no bands, spawn
no task and bring no band list to the shared state. Each program asks routine
questions and the band writes that its arguments say, so a kind of question
that has these is the kind of the whole program. The lemmas are stated for any
such kind; what a development wants to know of all questions of a program
follows from them.
-/
namespace Sctl.LteQuestions
open LteBands LteShared LtePrograms LteWatchdog Dialogues

/-- Questions that write no bands, spawn nothing and leave the shared state alone. -/
def Plain : Ask → Prop
  | .command (.writeBands _) | .spawn _ | .shared _ => False
  | _ => True

/-- The accesses by which a scan tells how it gets on. -/
def Telling : Region → Prop
  | .scanAborted | .scanBand _ | .scanProgress .. => True
  | _ => False

/-- Questions that write no bands, spawn nothing, track no stability and bring no band list. -/
def Routine : Ask → Prop
  | .command (.writeBands _) | .spawn _ => False
  | .shared .promoteStable | .shared (.additiveChange ..) | .shared (.userChange ..) | .shared (.polled ..) => False
  | _ => True

section
variable {kind : Ask → Prop}

/-- A question that is asked alone. -/
theorem alone {some : Ask → Prop} (kinds : ∀ question, some question → kind question) {question : Ask}
    (held : some question) : Asks kind (ask question) fun _ => True :=
  ⟨kinds question held,fun _ => trivial⟩

/-- What is said of routine questions is said of plain ones. -/
theorem plain_of (routine : ∀ question, Routine question → kind question) (question : Ask) (plain : Plain question) :
    kind question := by
  refine routine question ?_
  cases question with
  | command command =>
    cases command with
    | writeBands hex => exact absurd plain id
    | _ => trivial
  | shared region => exact absurd plain id
  | spawn task => exact absurd plain id
  | _ => trivial

/-- Questions to neither the modem nor the shared state. -/
def Mute : Ask → Prop
  | .command _ | .spawn _ | .shared _ => False
  | _ => True

theorem Mute.plain {question : Ask} (mute : Mute question) : Plain question := by
  cases question with
  | command command => exact mute.elim
  | spawn task => exact mute.elim
  | shared region => exact mute.elim
  | _ => trivial

/-- A restart of the interface asks nothing of the modem. -/
theorem restart_asks (mute : ∀ question, Mute question → kind question) {config : InterfaceConfig} {site : Site} :
    Asks kind (actionRestartInterface config site) fun _ => True := by
  unfold actionRestartInterface ask
  refine ⟨mute _ trivial,fun _ => ?_⟩
  cases config.restartCmd with
  | some custom =>
    refine ⟨mute _ trivial,fun reply => ?_⟩
    obtain ⟨_,_,_ | _ | _⟩ := reply <;> trivial
  | none =>
    refine ⟨mute _ trivial,fun down => ?_⟩
    obtain ⟨_,_,_ | _⟩ := down
    · trivial
    · refine ⟨mute _ trivial,fun _ => ⟨mute _ trivial,fun up => ?_⟩⟩
      obtain ⟨_,_,_ | _⟩ := up <;> trivial

section
variable (plain : ∀ question, Plain question → kind question)
include plain

section
variable {config : InterfaceConfig} {bands : List Nat} {priority : Option Nat}

theorem actionRestartInterface_asks {site : Site} : Asks kind (actionRestartInterface config site) fun _ => True :=
  restart_asks fun _ mute => plain _ mute.plain

/-- A verified write returns what it read back, which is what was asked for. -/
theorem verifiedSetBands_asks (write : kind (.command (.writeBands (bandsToHex bands)))) :
    Asks kind (verifiedSetBands bands) fun result => ∀ found, result = some found →
      (∃ response, found.bands = parseBandConfig response) ∧ bandsToHex found.bands = bandsToHex bands := by
  refine asks_require.mpr ⟨write,by simp,fun _ => asks_call (alone plain trivial) fun _ => ?_⟩
  refine asks_require.mpr ⟨plain _ trivial,by simp,fun response => ?_⟩
  split
  · next same =>
    rintro _ ⟨⟩
    exact ⟨⟨response,rfl⟩,same⟩
  · refine asks_call ⟨plain _ trivial,fun _ => trivial⟩ fun _ => asks_call (alone plain trivial) fun _ => ?_
    refine asks_require.mpr ⟨write,by simp,fun _ => asks_require.mpr ⟨plain _ trivial,by simp,fun again => ?_⟩⟩
    split
    · next same =>
      rintro _ ⟨⟩
      exact ⟨⟨again,rfl⟩,same⟩
    · exact asks_call ⟨plain _ trivial,fun _ => trivial⟩ fun _ => by simp

/-- The same where only the questions count. -/
theorem verified_asks (write : kind (.command (.writeBands (bandsToHex bands)))) :
    Asks kind (verifiedSetBands bands) fun _ => True :=
  asks_mono (verifiedSetBands_asks plain write) fun _ _ => trivial

theorem send_asks {sent : Command} (held : Plain (.command sent)) : Asks kind (send sent) fun _ => True :=
  ⟨plain _ held,fun _ => trivial⟩

theorem setPriority_asks : Asks kind (setPriority priority) fun _ => True := send_asks plain trivial

theorem restorePriority_asks : Asks kind (restorePriority priority) fun _ => True := by
  cases priority with
  | none => trivial
  | some band => exact send_asks plain trivial

theorem now_asks : Asks kind now fun _ => True := ⟨plain _ trivial,fun _ => trivial⟩

theorem awaitRegistration_asks {start timeout n : Nat} :
    Asks kind (awaitRegistration start timeout n) fun _ => True := by
  induction n with
  | zero => trivial
  | succ n ih =>
    refine asks_call (now_asks plain) fun instant => ?_
    split
    · trivial
    · refine asks_call (alone plain trivial) fun _ => asks_call (alone plain trivial) fun reply => ?_
      split
      · trivial
      · exact ih

/-- A fast band change: it returns the old bands, and bands that it read back. -/
theorem applyFrom_asks {oldResponse : List Char} (write : kind (.command (.writeBands (bandsToHex bands)))) :
    Asks kind (applyFrom bands priority oldResponse) fun result => ∀ config old oldPriority gone,
      result = some (config,old,oldPriority,gone) →
        (∃ response, config.enabledBands = parseBandConfig response) ∧ old = parseBandConfig oldResponse := by
  refine asks_call (alone plain trivial) fun _ => asks_require.mpr ⟨plain _ trivial,by simp,fun priorityResponse => ?_⟩
  refine asks_call (alone plain trivial) fun _ => ?_
  -- both ways of writing the bands go on alike
  have finish : ∀ found : VerifiedSetResult, (∃ response, found.bands = parseBandConfig response) →
      Asks kind (do
        onlyIf found.didDeregister (send .register)
        sleep (secs 1)
        setPriority priority
        pure (some ((⟨found.bands,priority⟩ : BandConfig),parseBandConfig oldResponse,parseBandpri priorityResponse,
          found.didDeregister))) fun result => ∀ config old oldPriority gone, result = some (config,old,oldPriority,gone) →
            (∃ response, config.enabledBands = parseBandConfig response) ∧ old = parseBandConfig oldResponse := by
    intro found read
    have gone : Asks kind (onlyIf found.didDeregister (send .register)) fun _ => True := by
      cases found.didDeregister with
      | true => exact send_asks plain trivial
      | false => trivial
    refine asks_call gone fun _ => asks_call (alone plain trivial) fun _ => asks_call (setPriority_asks plain) fun _ => ?_
    rintro _ _ _ _ ⟨⟩
    exact ⟨read,rfl⟩
  split
  · refine asks_bind.mpr ?_
    refine asks_require.mpr ⟨write,by simp,fun _ => asks_call (alone plain trivial) fun _ => ?_⟩
    exact asks_require.mpr ⟨plain _ trivial,by simp,fun response => finish _ ⟨response,rfl⟩⟩
  · refine asks_bind.mpr (asks_mono (verifiedSetBands_asks plain write) fun result held => ?_)
    cases result with
    | none => simp
    | some found => exact finish found (held found rfl).1

theorem tunnelBack_asks {request : ScanRequest} : Asks kind (tunnelBack request) fun _ => True := by
  unfold tunnelBack
  split
  · trivial
  · exact alone plain trivial

theorem pollRegistration_asks {n : Nat} : Asks kind (pollRegistration n) fun _ => True := by
  induction n with
  | zero => trivial
  | succ n ih =>
    refine asks_call (alone plain trivial) fun _ => asks_call (alone plain trivial) fun reply => ?_
    split
    · trivial
    · exact ih

theorem scanBands_asks {request : ScanRequest} {results : List ScanBandResult}
    (tells : ∀ region, Telling region → kind (.shared region))
    (writes : ∀ band ∈ bands, kind (.command (.writeBands (bandsToHex [band])))) :
    Asks kind (scanBands request bands results) fun _ => True := by
  induction bands generalizing results with
  | nil => trivial
  | cons band rest ih =>
    have told : ∀ asked : Region, Telling asked → Asks kind (region asked) fun _ => True :=
      fun asked telling => ⟨tells asked telling,fun _ => trivial⟩
    have onward : ∀ results, Asks kind (scanBands request rest results) fun _ => True :=
      fun results => ih fun other member => writes other (by simp [member])
    have stopped : Asks kind (region .scanAborted >>= fun _ => pure results) fun _ => True :=
      asks_call (told _ trivial) fun _ => trivial
    refine asks_call (tunnelBack_asks plain) fun back => ?_
    split
    · exact stopped
    · refine asks_call (told _ trivial) fun _ => ?_
      refine asks_call (verified_asks plain (writes band (by simp))) fun written => ?_
      cases written with
      | none => exact onward _
      | some result =>
        refine asks_call (tunnelBack_asks plain) fun back => ?_
        split
        · exact stopped
        · refine asks_call (send_asks plain trivial) fun _ => asks_call (alone plain trivial) fun _ => ?_
          refine asks_call (send_asks plain trivial) fun _ => asks_call (now_asks plain) fun started => ?_
          refine asks_call (pollRegistration_asks plain) fun registered => asks_call (now_asks plain) fun ended => ?_
          refine asks_call ?_ fun _ => asks_call (told _ trivial) fun _ => onward _
          cases registered with
          | false => trivial
          | true =>
            refine asks_call (alone plain trivial) fun _ => asks_call (send_asks plain trivial) fun _ => ?_
            cases request.includeSpeedTest with
            | false => trivial
            | true => exact alone plain trivial

theorem awaitDataPath_asks {start n : Nat} : Asks kind (awaitDataPath start n) fun _ => True := by
  induction n with
  | zero => trivial
  | succ n ih =>
    refine asks_call (now_asks plain) fun instant => ?_
    split
    · trivial
    · refine asks_call (alone plain trivial) fun reply => ?_
      split
      · refine asks_call (alone plain trivial) fun has => ?_
        split
        · trivial
        · exact asks_call (alone plain trivial) fun _ => ih
      · exact asks_call (alone plain trivial) fun _ => ih

theorem restoreBands_asks (write : kind (.command (.writeBands (bandsToHex bands)))) :
    Asks kind (restoreBands config bands priority) fun _ => True := by
  refine asks_call (alone plain trivial) fun _ => asks_call (verified_asks plain write) fun _ => ?_
  refine asks_call (restorePriority_asks plain) fun _ => asks_call (alone plain trivial) fun up => ?_
  split
  · trivial
  · refine asks_call (send_asks plain trivial) fun _ => asks_call (alone plain trivial) fun _ => ?_
    refine asks_call (send_asks plain trivial) fun _ => asks_call (now_asks plain) fun start => ?_
    refine asks_call (awaitDataPath_asks plain) fun up => ?_
    split
    · trivial
    · refine asks_call (actionRestartInterface_asks plain) fun _ => asks_call (alone plain trivial) fun _ => ?_
      exact asks_call (alone plain trivial) fun _ => trivial

/-- The band configuration that the poller reads has the bands of a reply. -/
theorem readBandConfig_asks : Asks kind readBandConfig fun found => ∀ config, found = some config →
    ∃ response, config.enabledBands = parseBandConfig response := by
  refine asks_bind.mpr ⟨plain _ trivial,fun reply => ?_⟩
  refine asks_call (alone plain trivial) fun priority => ?_
  obtain ⟨_,_,_ | response⟩ := reply
  · simp
  · simp only [Option.map_some,Option.getD_some,Dialogue.pure_eq,asks_done]
    split
    · simp
    · rintro _ ⟨⟩
      exact ⟨response,rfl⟩

end

section
variable {config : LteConfig} {bands : List Nat} {priority : Option Nat} {state : WatchdogState} {site : Site}

theorem cooldownElapsed_asks {level : Nat} : Asks kind (cooldownElapsed state level) fun _ => True := by
  unfold cooldownElapsed
  cases state.lastActionAt with
  | none => trivial
  | some last => exact asks_call (now_asks plain) fun _ => trivial

theorem recordAction_asks {action : Outcome} : Asks kind (recordAction state action) fun _ => True :=
  asks_call (now_asks plain) fun _ => trivial

theorem resetEpisode_asks {reset : Reset} : Asks kind (resetEpisode reset state) fun _ => True :=
  asks_call (alone plain trivial) fun _ => trivial

theorem verifyRecovery_asks {timeout : Nat} : Asks kind (verifyRecovery timeout) fun _ => True := by
  have passes : ∀ start n, Asks kind (verifyRecovery.go timeout start n) fun _ => True := by
    intro start n
    induction n with
    | zero => trivial
    | succ n ih =>
      refine asks_call (now_asks plain) fun instant => ?_
      split
      · refine asks_call (alone plain trivial) fun _ => asks_call (alone plain trivial) fun hasIp => ?_
        refine asks_call (alone plain trivial) fun connected => ?_
        split
        · trivial
        · exact ih
      · trivial
  exact asks_call (now_asks plain) fun start => passes start _

theorem actionReregister_asks : Asks kind (actionReregister site state) fun _ => True := by
  refine asks_call (alone plain trivial) fun _ => asks_call (alone plain trivial) fun reply => ?_
  cases reply <;> trivial

theorem actionAirplaneCycle_asks : Asks kind (actionAirplaneCycle site state) fun _ => True := by
  refine asks_call (alone plain trivial) fun _ => asks_call (alone plain trivial) fun off => ?_
  cases off with
  | none => trivial
  | some _ =>
    refine asks_call (alone plain trivial) fun _ => asks_call (alone plain trivial) fun on => ?_
    cases on <;> trivial

theorem awaitDevice_asks {n : Nat} : Asks kind (awaitDevice n) fun _ => True := by
  induction n with
  | zero => trivial
  | succ n ih =>
    refine asks_call (alone plain trivial) fun _ => asks_call (alone plain trivial) fun present => ?_
    split
    · exact asks_call (alone plain trivial) fun _ => asks_call (alone plain trivial) fun _ => trivial
    · exact ih

theorem actionUsbPowerCycle_asks : Asks kind (actionUsbPowerCycle site) fun _ => True := by
  refine asks_call (alone plain trivial) fun _ => asks_call (alone plain trivial) fun present => ?_
  split
  · refine asks_call (alone plain trivial) fun off => ?_
    split
    · refine asks_call (alone plain trivial) fun _ => asks_call (alone plain trivial) fun on => ?_
      split
      · exact asks_call (awaitDevice_asks plain) fun _ => trivial
      · trivial
    · trivial
  · trivial

theorem readCurrentBands_asks : Asks kind readCurrentBands fun _ => True := by
  refine asks_require.mpr ⟨plain _ trivial,trivial,fun response => ?_⟩
  split
  · trivial
  · exact asks_call (alone plain trivial) fun _ => trivial

theorem awaitAddress_asks {n : Nat} : Asks kind (awaitAddress n) fun _ => True := by
  induction n with
  | zero => trivial
  | succ n ih =>
    refine asks_call (alone plain trivial) fun has => ?_
    split
    · trivial
    · exact asks_call (alone plain trivial) fun _ => ih

theorem awaitData_asks {interface : InterfaceConfig} {start n : Nat} :
    Asks kind (awaitData interface start n) fun _ => True := by
  induction n with
  | zero => trivial
  | succ n ih =>
    refine asks_call (now_asks plain) fun instant => ?_
    split
    · refine asks_call (alone plain trivial) fun connected => ?_
      split
      · trivial
      · refine asks_call (alone plain trivial) fun reply => ?_
        split
        · refine asks_call (awaitAddress_asks plain) fun up => ?_
          split
          · trivial
          · refine asks_call (actionRestartInterface_asks plain) fun _ => ?_
            exact asks_call (alone plain trivial) fun _ => alone plain trivial
        · exact asks_call (alone plain trivial) fun _ => ih
    · trivial

/-- A revert writes its bands unless there are none. -/
theorem applyBandConfig_asks {interface : InterfaceConfig}
    (write : bands ≠ [] → kind (.command (.writeBands (bandsToHex bands)))) :
    Asks kind (applyBandConfig interface bands priority) fun _ => True := by
  unfold applyBandConfig
  split
  · trivial
  · next some =>
    refine asks_call (verified_asks plain (write some)) fun written => ?_
    cases written with
    | none => trivial
    | some result =>
      refine asks_call (setPriority_asks plain) fun _ => asks_call (alone plain trivial) fun connected => ?_
      split
      · trivial
      · refine asks_call (send_asks plain trivial) fun _ => asks_call (alone plain trivial) fun _ => ?_
        refine asks_call (send_asks plain trivial) fun _ => asks_call (now_asks plain) fun start => ?_
        exact awaitData_asks plain

theorem diagnose_asks : Asks kind (diagnose state) fun _ => True := by
  refine asks_call (alone plain trivial) fun answered => ?_
  cases answered with
  | none =>
    refine asks_call (alone plain trivial) fun present => ?_
    split <;> trivial
  | some _ =>
    have path : Asks kind diagnoseDataPath fun _ => True := by
      refine asks_call (alone plain trivial) fun has => ?_
      split
      · refine asks_call (alone plain trivial) fun reachable => ?_
        split <;> trivial
      · trivial
    have searching : Asks kind (diagnoseSearching state) fun _ => True := by
      unfold diagnoseSearching
      cases state.searchingSince with
      | none => trivial
      | some since => exact asks_call (now_asks plain) fun _ => trivial
    have waiting : Asks kind reconnectingWithAddress fun _ => True := by
      refine asks_call (alone plain trivial) fun reconnecting => ?_
      split
      · exact alone plain trivial
      · trivial
    refine asks_call waiting fun reconnecting => ?_
    split
    · trivial
    · refine asks_call (alone plain trivial) fun reply => ?_
      split
      · exact searching
      · trivial
      · trivial
      · exact path
      · exact path
      · trivial
      · trivial

theorem afterCooldown_asks {level : Nat} {act : Site → Lte Dispatch}
    (acts : ∀ site, Asks kind (act site) fun _ => True) : Asks kind (afterCooldown state level act) fun _ => True := by
  refine asks_call (cooldownElapsed_asks plain) fun elapsed => ?_
  split
  · exact acts _
  · trivial

theorem dispatch_asks {disconnectSecs : Nat} {symptom : Symptom} :
    Asks kind (dispatch config disconnectSecs state symptom) fun _ => True := by
  obtain ⟨next,_,_,same | same | ⟨_,same⟩ | ⟨_,same⟩ | ⟨_,same⟩⟩ := dispatch_choice config disconnectSecs state symptom
  · rw [same]
    trivial
  · rw [same]
    refine afterCooldown_asks plain fun site => asks_call (alone plain trivial) fun present => ?_
    split
    · exact asks_call (actionUsbPowerCycle_asks plain) fun _ => trivial
    · trivial
  · rw [same]
    exact afterCooldown_asks plain fun site => asks_call (actionReregister_asks plain) fun _ => trivial
  · rw [same]
    exact afterCooldown_asks plain fun site => asks_call (actionAirplaneCycle_asks plain) fun _ => trivial
  · rw [same]
    exact afterCooldown_asks plain fun site => asks_call (actionRestartInterface_asks plain) fun _ => trivial

theorem nudge_asks {level : Nat} : Asks kind (nudge config level) fun _ => True := by
  unfold nudge
  rw [asks_onlyIf]
  split
  · refine asks_call (alone plain trivial) fun _ => asks_call (alone plain trivial) fun has => ?_
    split
    · trivial
    · exact asks_call (actionRestartInterface_asks plain) fun _ => trivial
  · trivial

/-- The answer to an outage, past the reverts, is plain. -/
theorem respond_asks {disconnectSecs : Nat} {watchdog : Watchdog} :
    Asks kind (respond config disconnectSecs watchdog state) fun _ => True := by
  refine asks_call (diagnose_asks plain) fun symptom => asks_call (dispatch_asks plain) fun dispatched => ?_
  cases dispatched with
  | wait state => trivial
  | acted action level state =>
    refine asks_call (recordAction_asks plain) fun state => asks_call (nudge_asks plain) fun _ => ?_
    refine asks_call (verifyRecovery_asks plain) fun verified => ?_
    split
    · exact asks_call (resetEpisode_asks plain) fun _ => trivial
    · split
      · dsimp only
        split <;> trivial
      · trivial

theorem since_asks {field : Option Nat} : Asks kind (since field) fun _ => True := by
  cases field with
  | some instant => trivial
  | none => exact now_asks plain

theorem effectiveGrace_asks : Asks kind (effectiveGrace config state) fun _ => True := by
  refine asks_call (alone plain trivial) fun reply => ?_
  split
  · exact asks_call (since_asks plain) fun _ => trivial
  · trivial

theorem tieredReset_asks {watchdog : Watchdog} {connected : Nat} :
    Asks kind (tieredReset watchdog connected) fun _ => True := by
  unfold tieredReset
  split
  · split
    · refine asks_call (resetEpisode_asks plain) fun state => asks_call ?_ fun _ => trivial
      rw [asks_onlyIf]
      split
      · exact alone plain trivial
      · trivial
    · split
      · exact asks_call (resetEpisode_asks plain) fun _ => trivial
      · trivial
  · trivial

end

end

section
variable (routine : ∀ question, Routine question → kind question)
include routine

section
variable {config : InterfaceConfig} {bands : List Nat} {priority : Option Nat}

theorem endSuppression_asks {condition : Bool} : Asks kind (onlyIf condition (region .endSuppression)) fun _ => True := by
  cases condition with
  | true => exact alone routine trivial
  | false => trivial

theorem recoverDataPathPub_asks (write : kind (.command (.writeBands (bandsToHex bands)))) :
    Asks kind (recoverDataPathPub config bands) fun _ => True := by
  refine asks_call (alone routine trivial) fun _ => asks_call (actionRestartInterface_asks (plain_of routine)) fun _ => ?_
  refine asks_call (alone routine trivial) fun _ => asks_call (alone routine trivial) fun reply => ?_
  refine asks_call ?_ fun _ => asks_call (alone routine trivial) fun _ => trivial
  rw [asks_onlyIf]
  split
  · exact asks_call (verified_asks (plain_of routine) write) fun _ => trivial
  · trivial

theorem monitorRegistration_asks {old : List Nat} {timeout : Nat}
    (write : kind (.command (.writeBands (bandsToHex bands)))) (back : kind (.command (.writeBands (bandsToHex old)))) :
    Asks kind (monitorRegistration config bands old priority timeout) fun _ => True := by
  refine asks_call (now_asks (plain_of routine)) fun start => asks_call (awaitRegistration_asks (plain_of routine)) fun registered => ?_
  split
  · exact asks_call (recoverDataPathPub_asks routine write) fun _ => alone routine trivial
  · refine asks_call (alone routine trivial) fun reply => asks_call ?_ fun _ => alone routine trivial
    rw [asks_onlyIf]
    split
    · refine asks_call (verified_asks (plain_of routine) back) fun _ => asks_call (restorePriority_asks (plain_of routine)) fun _ => ?_
      exact asks_call (send_asks (plain_of routine) trivial) fun _ => recoverDataPathPub_asks routine back
    · trivial

/-- A safe band change, from the reply that it may go back to. -/
theorem safeChangeFrom_asks {watched : Bool} {timeout : Nat} {oldResponse : List Char}
    (write : kind (.command (.writeBands (bandsToHex bands))))
    (back : kind (.command (.writeBands (bandsToHex (parseBandConfig oldResponse))))) :
    Asks kind (safeChangeFrom watched bands priority timeout oldResponse) fun _ => True := by
  refine asks_require.mpr ⟨routine _ trivial,trivial,fun priorityResponse => ?_⟩
  refine asks_call (verified_asks (plain_of routine) write) fun written => ?_
  cases written with
  | none => trivial
  | some result =>
    refine asks_call (send_asks (plain_of routine) trivial) fun _ => asks_call (setPriority_asks (plain_of routine)) fun _ => ?_
    refine asks_call (now_asks (plain_of routine)) fun start => asks_call (awaitRegistration_asks (plain_of routine)) fun registered => ?_
    split
    · refine asks_call (endSuppression_asks routine) fun _ => asks_call (alone routine trivial) fun reply => ?_
      cases reply <;> trivial
    · refine asks_call (verified_asks (plain_of routine) back) fun _ => asks_call (restorePriority_asks (plain_of routine)) fun _ => ?_
      exact asks_call (endSuppression_asks routine) fun _ => trivial

/-- A scan, from the bands that it goes back to. -/
theorem scanFrom_asks {request : ScanRequest} {startedAt : Nat}
    (writes : ∀ band ∈ request.bands, kind (.command (.writeBands (bandsToHex [band]))))
    (back : kind (.command (.writeBands (bandsToHex bands)))) :
    Asks kind (scanFrom config request startedAt bands) fun _ => True := by
  refine asks_call (alone routine trivial) fun reply => asks_call (alone routine trivial) fun _ => ?_
  refine asks_call (scanBands_asks (plain_of routine) (fun asked telling => routine _ (by cases asked <;> trivial)) writes) fun results => asks_call (restoreBands_asks (plain_of routine) back) fun _ => ?_
  exact alone routine trivial

theorem detectSimChange_asks {previous : Option (List Char)}
    (write : kind (.command (.writeBands (bandsToHex BandMode.auto.bands)))) :
    Asks kind (detectSimChange previous) fun _ => True := by
  refine asks_call (alone routine trivial) fun reply => ?_
  cases Option.bind reply parseQccid with
  | none => trivial
  | some iccid =>
    rw [onlySome,asks_onlyIf]
    split
    · refine asks_call (alone routine trivial) fun _ => asks_call (alone routine trivial) fun _ => ?_
      have written : Asks kind (send (.writeBands (bandsToHex BandMode.auto.bands))) fun _ => True := ⟨write,fun _ => trivial⟩
      refine asks_call written fun _ => asks_call (send_asks (plain_of routine) trivial) fun _ => ?_
      exact send_asks (plain_of routine) trivial
    · trivial

end

section
variable {config : LteConfig} {bands : List Nat} {priority : Option Nat} {state : WatchdogState}

theorem revertTo_asks {action : Outcome} (write : bands ≠ [] → kind (.command (.writeBands (bandsToHex bands)))) :
    Asks kind (revertTo config bands priority action state) fun _ => True := by
  refine asks_call (applyBandConfig_asks (plain_of routine) write) fun applied => ?_
  split
  · refine asks_call (alone routine trivial) fun _ => asks_call (recordAction_asks (plain_of routine)) fun state => ?_
    refine asks_call (alone routine trivial) fun _ => asks_call (verifyRecovery_asks (plain_of routine)) fun verified => ?_
    split
    · exact asks_call (resetEpisode_asks (plain_of routine)) fun _ => trivial
    · trivial
  · trivial

section
variable (write : ∀ hex, kind (.command (.writeBands hex)))
include write

theorem prechangeRevert_asks : Asks kind (prechangeRevert config state) fun _ => True := by
  unfold prechangeRevert
  split
  · trivial
  · refine asks_call (alone routine trivial) fun info => ?_
    split
    · trivial
    · exact revertTo_asks routine fun _ => write _

theorem safeRevert_asks : Asks kind (safeRevert config state) fun _ => True := by
  unfold safeRevert
  split
  · trivial
  · refine asks_call (alone routine trivial) fun info => ?_
    split
    · trivial
    · refine asks_call (readCurrentBands_asks (plain_of routine)) fun current => ?_
      split
      · trivial
      · exact revertTo_asks routine fun _ => write _

/-- A tick that sees the tunnel down asks routine questions and writes bands. -/
theorem disconnectedTick_asks {watchdog : Watchdog} : Asks kind (disconnectedTick config watchdog) fun _ => True := by
  refine asks_call (alone routine trivial) fun forgot => asks_call (since_asks (plain_of routine)) fun began => ?_
  refine asks_call (now_asks (plain_of routine)) fun instant => asks_call (effectiveGrace_asks (plain_of routine)) fun grace => ?_
  dsimp only
  split
  · trivial
  · refine asks_call (prechangeRevert_asks routine write) fun stage => ?_
    cases stage with
    | ended state => trivial
    | onward state =>
      refine asks_call (safeRevert_asks routine write) fun stage => ?_
      cases stage with
      | ended state => trivial
      | onward state => exact respond_asks (plain_of routine)

end

end

end

end

end Sctl.LteQuestions
