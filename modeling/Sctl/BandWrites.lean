import Sctl.LteQuestions
import Sctl.LteSystem

/-!
The write that disables every LTE band. A band list that a reply could not be
read as is empty, and its mask is zero. Where such a list is kept as the one to
go back to, the write comes when the change is rolled back or the scan ends;
where every band list that is asked for has a band in range and every one that
is kept could be read, no program ever writes the mask zero, whatever the
replies to the other commands.
-/
namespace Sctl.BandWrites
open LteBands LteShared LtePrograms LteWatchdog LteQuestions LteSystem Dialogues Pools Runs

/-- Some band of the list has a bit in the mask. -/
def Usable (bands : List Nat) : Prop := ∃ band ∈ bands, InMask band

instance : DecidablePred Usable := fun _ => inferInstanceAs (Decidable (∃ _ ∈ _, _))

/-- What is stored: no list at all, or a usable one. -/
def Fit (bands : List Nat) : Prop := bands = [] ∨ Usable bands

/-- The modem is told to enable no band. -/
def disables : Ask → Bool
  | .command (.writeBands hex) => hex = ['0']
  | _ => false

theorem usable_hex {bands : List Nat} (usable : Usable bands) : bandsToHex bands ≠ ['0'] :=
  fun zero => bandMask_eq_zero_iff.mp (bandsToHex_eq_zero_iff.mp zero) usable

theorem fit_parseBandConfig (response : List Char) : Fit (parseBandConfig response) := by
  by_cases read : parseBandConfig response = []
  · exact .inl read
  · obtain ⟨band,member⟩ := List.exists_mem_of_ne_nil _ read
    exact .inr ⟨band,member,mem_parseBandConfig member⟩

theorem usable_of_fit {bands : List Nat} (fit : Fit bands) (some : bands ≠ []) : Usable bands := fit.resolve_left some

theorem usable_auto : Usable BandMode.auto.bands := ⟨1,by decide,by decide⟩

/-- The band lists that an access brings to the shared state are fit. -/
def RegionFits : Region → Prop
  | .additiveChange cached _ config => Fit cached ∧ Fit config.enabledBands
  | .userChange _ current _ config => Fit current ∧ Fit config.enabledBands
  | .polled signal _ => ∀ config, signal.bandConfig = some config → Fit config.enabledBands
  | _ => True

/-- The band lists that a task is given are usable. -/
def TaskFits : Task → Prop
  | .monitor expected old _ => Usable expected ∧ Usable old
  | .recover expected => Usable expected
  | .scan request => ∀ band ∈ request.bands, InMask band

/-- No question disables the bands, and none passes on a list that would. -/
def Fits : Ask → Prop
  | .command (.writeBands hex) => hex ≠ ['0']
  | .shared region => RegionFits region
  | .spawn task => TaskFits task
  | _ => True

/-- The band lists that the shared state tells are fit. -/
def FitReply (turn : LteTurn) : Prop :=
  match turn with
  | ⟨.shared (.prechangeInfo _),answer⟩ => ∀ found, answer.value = some found → Fit found.1
  | ⟨.shared .safeInfo,answer⟩ => ∀ found, answer.value = some found → Fit found.1
  | ⟨.shared .cachedBands,answer⟩ => Fit answer.value.1
  | ⟨.shared .polledConfig,answer⟩ => ∀ config, answer.value = some config → Fit config.enabledBands
  | _ => True

theorem fits_routine (question : Ask) (routine : Routine question) : Fits question := by
  cases question with
  | command command =>
    cases command with
    | writeBands hex => exact absurd routine (by simp [Routine])
    | _ => trivial
  | shared region =>
    cases region with
    | additiveChange _ _ _ => exact absurd routine (by simp [Routine])
    | userChange _ _ _ _ => exact absurd routine (by simp [Routine])
    | polled _ _ => exact absurd routine (by simp [Routine])
    | _ => trivial
  | spawn task => exact absurd routine (by simp [Routine])
  | _ => trivial

theorem fits_plain (question : Ask) (plain : Plain question) : Fits question := plain_of fits_routine question plain

/-- What is remembered of a thread: whether it has read the bands, and whether all its questions fit. -/
structure Watched where
  hasRead : Bool
  fit : Prop

/-- The bands that a job keeps to go back to are those it reads first. A band change is
    given up when the modem does not answer; a scan goes on without them. -/
def keeps (job : Job) (turn : LteTurn) : Bool :=
  match job, turn with
  | .setBands _, ⟨.command .readBands,answer⟩ => answer.value.all fun response => parseBandConfig response ≠ []
  | .safeSetBands .., ⟨.command .readBands,answer⟩ => answer.value.all fun response => parseBandConfig response ≠ []
  | .task (.scan _), ⟨.command .readBands,answer⟩ => answer.value.any fun response => parseBandConfig response ≠ []
  | _, _ => true

/-- The watch over the threads of a job: what it reads first it can keep, and all it asks fits. -/
def bandWatch (job : Job) : Watch Ask Answer Watched where
  allows seen turn := FitReply turn ∧ (seen.hasRead = false → keeps job turn = true)
  track seen turn := ⟨seen.hasRead || turn.question = .command .readBands,seen.fit ∧ Fits turn.question⟩
  fine seen := seen.fit

section
variable {job : Job} {seen : Watched} {α : Type}

/-- A program that asks only what fits, whatever it reads. -/
theorem guarantees_fits {program : Lte α} {leaf : α → Prop} (asks : Asks Fits program leaf) (fit : seen.fit) :
    Guarantees (bandWatch job) program seen fun value later => leaf value ∧ later.fit := by
  have keeps : ∀ (seen : Watched) (turn : LteTurn), seen.fit → Fits turn.question → (bandWatch job).allows seen turn →
      (bandWatch job).fine ((bandWatch job).track seen turn) ∧ ((bandWatch job).track seen turn).fit :=
    fun _ _ held kind _ => ⟨⟨held,kind⟩,⟨held,kind⟩⟩
  exact guarantees_of_asks keeps asks fit

/-- The rest of a program that asks only what fits. -/
theorem rest_guarantees {program : Lte α} (asks : Asks Fits program fun _ => True) (fit : seen.fit) :
    Guarantees (bandWatch job) program seen fun _ later => later.fit :=
  guarantees_mono (guarantees_fits asks fit) fun _ _ held => held.2

end

section
variable {bands : List Nat} {seen : Watched}

/-- A scan that could read the bands it keeps asks only what fits. -/
theorem bandScan_guarantees {config : InterfaceConfig} {request : ScanRequest}
    (inMask : ∀ band ∈ request.bands, InMask band) (fit : seen.fit) (unread : seen.hasRead = false) :
    Guarantees (bandWatch (.task (.scan request))) (bandScan config request) seen fun _ later => later.fit := by
  refine guarantees_epochNow.mpr fun looked _ => ⟨⟨fit,trivial⟩,guarantees_command.mpr fun reply allowed => ?_⟩
  have kept : reply.value.any (fun response => parseBandConfig response ≠ []) = true :=
    allowed.2 (by simp [bandWatch,unread])
  obtain ⟨response,answered,kept⟩ := (Option.any_eq_true _ _).mp kept
  have usable : Usable ((reply.value.map parseBandConfig).getD []) := by
    rw [answered]
    exact usable_of_fit (fit_parseBandConfig response) (of_decide_eq_true kept)
  refine ⟨⟨⟨fit,trivial⟩,trivial⟩,rest_guarantees ?_ ⟨⟨fit,trivial⟩,trivial⟩⟩
  refine scanFrom_asks fits_routine (fun band member => ?_) (usable_hex usable)
  exact usable_hex ⟨band,by simp,inMask band member⟩

theorem addBands_fits {params : SetBandsParams} {cached : List Nat} {cachedPriority serving : Option Nat}
    (usable : Usable params.mode.bands) (fit : Fit cached) :
    Asks Fits (addBands params cached cachedPriority serving) fun _ => True := by
  refine asks_call ?_ fun _ => asks_require.mpr ⟨usable_hex usable,trivial,fun _ => asks_call ?_ fun _ => ?_⟩
  · cases serving <;> simp [onlySome,Fits]
  · cases params.priorityBand <;> simp [onlySome,Fits]
  · exact asks_call ⟨⟨fit,.inr usable⟩,fun _ => trivial⟩ fun _ => trivial

/-- A band request for a usable list, or one that is refused, asks only what fits. -/
theorem setBands_guarantees {params : SetBandsParams}
    (sane : (params.tunnelConnected ∧ ¬ params.force) ∨ Usable params.mode.bands) (fit : seen.fit)
    (unread : seen.hasRead = false) :
    Guarantees (bandWatch (.setBands params)) (setBands params) seen fun _ later => later.fit := by
  unfold setBands
  split
  · exact fit
  · next accepted =>
    have usable : Usable params.mode.bands := sane.resolve_left accepted
    refine guarantees_region.mpr fun answer allowed => ⟨⟨fit,trivial⟩,?_⟩
    obtain ⟨instant,epoch,cached,cachedPriority,serving⟩ := answer
    have fitCached : Fit cached := allowed.1
    dsimp only
    split
    · exact rest_guarantees (addBands_fits usable fitCached) ⟨fit,trivial⟩
    · rw [applyBandsFast,guarantees_bind,guarantees_require]
      intro reply allowed
      refine ⟨⟨⟨fit,trivial⟩,trivial⟩,fun _ => ⟨⟨fit,trivial⟩,trivial⟩,fun response answered => ?_⟩
      have kept : reply.value.all (fun response => parseBandConfig response ≠ []) = true :=
        allowed.2 (by simp [bandWatch,unread])
      rw [answered,Option.all_some,decide_eq_true_eq] at kept
      have usableOld : Usable (parseBandConfig response) := usable_of_fit (fit_parseBandConfig response) kept
      rw [← guarantees_bind]
      refine rest_guarantees (asks_bind.mpr (asks_mono (applyFrom_asks fits_plain (usable_hex usable)) ?_))
        ⟨⟨fit,trivial⟩,trivial⟩
      intro result found
      cases result with
      | none => trivial
      | some found' =>
        obtain ⟨config,old,oldPriority,gone⟩ := found'
        obtain ⟨⟨again,read⟩,rfl⟩ := found _ _ _ _ rfl
        have change : ∀ wait, Asks Fits (region (.userChange wait (parseBandConfig response) oldPriority config))
            fun _ => True :=
          fun wait => ⟨⟨.inr usableOld,read ▸ fit_parseBandConfig again⟩,fun _ => trivial⟩
        cases gone with
        | true => exact asks_call (change _) fun _ => asks_call ⟨⟨usable,usableOld⟩,fun _ => trivial⟩ fun _ => trivial
        | false => exact asks_call (change _) fun _ => asks_call ⟨usable,fun _ => trivial⟩ fun _ => trivial

theorem safeSetBands_guarantees {watched : Bool} {priority : Option Nat} {timeout : Nat} (usable : Usable bands)
    (fit : seen.fit) (unread : seen.hasRead = false) :
    Guarantees (bandWatch (.safeSetBands watched bands priority timeout)) (safeSetBands watched bands priority timeout) seen
      fun _ later => later.fit := by
  have start : Guarantees (bandWatch (.safeSetBands watched bands priority timeout))
      (onlyIf watched (region (.suppressUntil (timeout + secs 5)))) seen
      fun _ later => later.fit ∧ later.hasRead = false := by
    cases watched with
    | true => exact fun _ _ => ⟨⟨fit,trivial⟩,⟨fit,trivial⟩,by simp [bandWatch,unread]⟩
    | false => exact ⟨fit,unread⟩
  refine guarantees_call start fun _ later ⟨fit,unread⟩ => ?_
  rw [doSafeSetBands,guarantees_bind,guarantees_require]
  intro reply allowed
  have finish : ∀ result : Option BandConfig,
      Asks Fits (onlyIf (watched && result.isNone) (region .endSuppression) >>= fun _ => pure result) fun _ => True :=
    fun result => asks_call (endSuppression_asks fits_routine) fun _ => trivial
  refine ⟨⟨fit,trivial⟩,fun _ => rest_guarantees (finish none) ⟨fit,trivial⟩,fun response answered => ?_⟩
  have kept : reply.value.all (fun response => parseBandConfig response ≠ []) = true := allowed.2 unread
  rw [answered,Option.all_some,decide_eq_true_eq] at kept
  have old : Usable (parseBandConfig response) := usable_of_fit (fit_parseBandConfig response) kept
  rw [← guarantees_bind]
  refine rest_guarantees (asks_call ?_ finish) ⟨fit,trivial⟩
  exact safeChangeFrom_asks fits_routine (usable_hex usable) (usable_hex old)

/-- A scan request passes on bands of the mask, or is refused. -/
theorem scan_fits {request : ScanRequest} {tunnelUp : Bool}
    (sane : (tunnelUp ∧ ¬ request.force) ∨ ∀ band ∈ request.bands, InMask band) :
    Asks Fits (LtePrograms.scan request tunnelUp) fun _ => True := by
  unfold LtePrograms.scan
  split
  · trivial
  · next accepted =>
    refine asks_call (alone fits_routine trivial) fun running => ?_
    split
    · trivial
    · exact asks_call ⟨sane.resolve_left accepted,fun _ => trivial⟩ fun _ => trivial

/-- A poll stores what it read, or what was stored. -/
theorem poll_guarantees {job : Job} {rsrp : Option Int} {freqBand : Option Nat} {save : Bool} (fit : seen.fit) :
    Guarantees (bandWatch job) (poll rsrp freqBand save) seen fun _ later => later.fit := by
  have stored : ∀ config : Option BandConfig, (∀ found, config = some found → Fit found.enabledBands) →
      Asks Fits (region (.polled ⟨rsrp,freqBand,config⟩ save)) fun _ => True :=
    fun config fits => ⟨fits,fun _ => trivial⟩
  refine guarantees_question.mpr fun active _ => ⟨⟨fit,trivial⟩,?_⟩
  refine guarantees_command.mpr fun reply _ => ⟨⟨⟨fit,trivial⟩,trivial⟩,?_⟩
  cases reply.value.bind parseCsq with
  | none => exact ⟨⟨fit,trivial⟩,trivial⟩
  | some _ =>
    refine guarantees_call (rest_guarantees (send_asks fits_plain trivial) ⟨⟨fit,trivial⟩,trivial⟩) fun _ _ fit => ?_
    split
    · refine guarantees_region.mpr fun cached allowed => ⟨⟨fit,trivial⟩,?_⟩
      exact rest_guarantees (stored _ allowed.1) ⟨fit,trivial⟩
    · refine rest_guarantees ?_ fit
      refine asks_bind.mpr (asks_mono (readBandConfig_asks fits_plain) fun config read => stored config fun found same => ?_)
      obtain ⟨response,bands⟩ := read found same
      rw [bands]
      exact fit_parseBandConfig response

end

section
variable {job : Job} {config : LteConfig} {state : WatchdogState} {watchdog : Watchdog} {seen : Watched}

/-- A revert goes back to the bands that the shared state told. -/
theorem prechangeRevert_guarantees (fit : seen.fit) :
    Guarantees (bandWatch job) (prechangeRevert config state) seen fun _ later => later.fit := by
  unfold prechangeRevert
  split
  · exact fit
  · rw [guarantees_region]
    refine fun answer allowed => ⟨⟨fit,trivial⟩,?_⟩
    obtain ⟨instant,epoch,_ | ⟨bands,priority⟩⟩ := answer
    · exact ⟨fit,trivial⟩
    · have told : Fit bands := allowed.1 _ rfl
      refine rest_guarantees (revertTo_asks fits_routine fun some => ?_) ⟨fit,trivial⟩
      exact usable_hex (usable_of_fit told some)

theorem safeRevert_guarantees (fit : seen.fit) :
    Guarantees (bandWatch job) (safeRevert config state) seen fun _ later => later.fit := by
  unfold safeRevert
  split
  · exact fit
  · rw [guarantees_region]
    refine fun answer allowed => ⟨⟨fit,trivial⟩,?_⟩
    obtain ⟨instant,epoch,_ | ⟨bands,priority⟩⟩ := answer
    · exact ⟨fit,trivial⟩
    · have told : Fit bands := allowed.1 _ rfl
      refine rest_guarantees (asks_call (readCurrentBands_asks fits_plain) fun current => ?_) ⟨fit,trivial⟩
      split
      · trivial
      · exact revertTo_asks fits_routine fun some => usable_hex (usable_of_fit told some)

theorem tick_guarantees (fit : seen.fit) :
    Guarantees (bandWatch job) (tick config watchdog) seen fun _ later => later.fit := by
  have onward : ∀ {α β : Type} {first : Lte α} {rest : α → Lte β} {seen : Watched}, seen.fit →
      Asks Fits first (fun _ => True) →
      (∀ value later, later.fit → Guarantees (bandWatch job) (rest value) later fun _ last => last.fit) →
      Guarantees (bandWatch job) (first >>= rest) seen fun _ last => last.fit :=
    fun fit asks rest => guarantees_call (rest_guarantees asks fit) rest
  refine onward fit (alone fits_routine trivial) fun skipped _ fit => ?_
  split
  · exact fit
  · refine onward fit (alone fits_routine trivial) fun active _ fit => ?_
    split
    · exact fit
    · refine onward fit (alone fits_routine trivial) fun connected _ fit => ?_
      split
      · refine rest_guarantees ?_ fit
        refine asks_call (since_asks fits_plain) fun began => asks_call (now_asks fits_plain) fun instant => ?_
        refine asks_call (tieredReset_asks fits_plain) fun watchdog => ?_
        exact asks_call ⟨trivial,fun _ => trivial⟩ fun _ => trivial
      · refine onward fit (alone fits_routine trivial) fun _ _ fit => ?_
        refine onward fit (since_asks fits_plain) fun began _ fit => ?_
        refine onward fit (now_asks fits_plain) fun instant _ fit => ?_
        refine onward fit (effectiveGrace_asks fits_plain) fun grace _ fit => ?_
        dsimp only
        split
        · exact fit
        · refine guarantees_call (prechangeRevert_guarantees fit) fun stage _ fit => ?_
          cases stage with
          | ended state => exact fit
          | onward state =>
            refine guarantees_call (safeRevert_guarantees fit) fun stage _ fit => ?_
            cases stage with
            | ended state => exact fit
            | onward state => exact rest_guarantees (respond_asks fits_plain) fit

theorem loop_guarantees {n : Nat} (fit : seen.fit) :
    Guarantees (bandWatch job) (loop config n watchdog) seen fun _ later => later.fit := by
  induction n generalizing watchdog seen with
  | zero => exact fit
  | succ n ih => exact guarantees_call (tick_guarantees fit) fun after later fit => ih fit

end

/-- Every band list that the shared state holds is fit. -/
structure SharedFits (shared : Shared) : Prop where
  safeBands : ∀ safe, shared.lte.safeBands = some safe → Fit safe.bands
  safeFile : ∀ safe, shared.safeFile = some safe → Fit safe.bands
  preChange : ∀ before, shared.lte.preChangeBands = some before → Fit before.1
  cached : ∀ config, shared.lte.cachedConfig = some config → Fit config.enabledBands
  atConnect : ∀ bands, shared.lte.bandsAtConnect = some bands → Fit bands

section
variable {shared : Shared} {now epoch : Nat}

/-- The band lists of a state are those of another. -/
theorem SharedFits.of_same {after : Shared} (fits : SharedFits shared) (safe : after.lte.safeBands = shared.lte.safeBands)
    (file : after.safeFile = shared.safeFile) (before : after.lte.preChangeBands = shared.lte.preChangeBands)
    (signal : after.lte.signal = shared.lte.signal)
    (connect : after.lte.bandsAtConnect = shared.lte.bandsAtConnect ∨ after.lte.bandsAtConnect = none) :
    SharedFits after where
  safeBands found := safe ▸ fits.safeBands found
  safeFile found := file ▸ fits.safeFile found
  preChange found := before ▸ fits.preChange found
  cached found := by
    rw [LteState.cachedConfig,signal]
    exact fits.cached found
  atConnect found held := by
    rcases connect with same | none
    · exact fits.atConnect found (same ▸ held)
    · simp [none] at held

theorem SharedFits.forget (fits : SharedFits shared) :
    SharedFits { shared with lte := { shared.lte with bandStableSince := none, bandsAtConnect := none } } :=
  fits.of_same rfl rfl rfl rfl (.inr rfl)

/-- Promoted bands are fit when they are promoted. -/
theorem promoteSafeBands_fits {bands : List Nat} {priority : Option Nat} {rsrp : Option Int} (fits : SharedFits shared)
    (fit : Fit bands) : SharedFits (promoteSafeBands epoch bands priority rsrp shared) := by
  unfold promoteSafeBands
  split
  · refine ⟨?_,?_,fits.preChange,fits.cached,fits.atConnect⟩ <;> rintro _ ⟨⟩ <;> exact fit
  · exact fits

theorem promoteStable_fits (fits : SharedFits shared) : SharedFits (promoteStable now epoch shared) := by
  have tracked : SharedFits { shared with lte := shared.lte.trackStability now } := by
    unfold LteState.trackStability
    split
    · refine ⟨fits.safeBands,fits.safeFile,fits.preChange,fits.cached,fun bands held => ?_⟩
      simp only [Option.or_eq_some_iff,Option.map_eq_some_iff] at held
      rcases held with held | ⟨_,config,held,rfl⟩
      · exact fits.atConnect bands held
      · exact fits.cached config held
    · exact fits
  unfold promoteStable
  dsimp only
  split
  · exact tracked
  · split
    · split
      · next bands chosen =>
        refine SharedFits.forget (promoteSafeBands_fits tracked (tracked.atConnect bands ?_))
        unfold LteState.toPromote at chosen
        split at chosen
        · split at chosen
          · cases chosen
          · simp_all
        · simp_all
        · cases chosen
      · exact tracked.forget
    · exact tracked

theorem recordBandChange_preChange (now : Nat) {lte : LteState} {current : List Nat} {priority : Option Nat} {before : List Nat × Option Nat}
    (fit : ∀ before, lte.preChangeBands = some before → Fit before.1) (fitCurrent : Fit current)
    (held : (lte.recordBandChange now .user current priority).preChangeBands = some before) : Fit before.1 := by
  unfold LteState.recordBandChange at held
  dsimp only at held
  split at held
  · exact fit before held
  · cases held
    exact fitCurrent

/-- A fit configuration may replace the cached one. -/
theorem SharedFits.cache {config : BandConfig} (fits : SharedFits shared) (fit : Fit config.enabledBands) :
    SharedFits { shared with lte := { shared.lte with
      signal := shared.lte.signal.map fun signal => { signal with bandConfig := some config } } } := by
  refine ⟨fits.safeBands,fits.safeFile,fits.preChange,fun found held => ?_,fits.atConnect⟩
  have same : found = config := by
    simp only [LteState.cachedConfig] at held
    cases signal : shared.lte.signal with
    | none => simp [signal] at held
    | some last => simpa [signal] using held.symm
  exact same ▸ fit

/-- Accesses that bring fit lists leave fit lists. -/
theorem access_fits {region : Region} (fits : SharedFits shared) (brings : RegionFits region) :
    SharedFits (access now epoch shared region).2 := by
  cases region with
  | skipTick =>
    obtain ⟨status,same⟩ := skipTick_status now epoch shared.lte
    rw [access,same]
    exact fits.of_same rfl rfl rfl rfl (.inl rfl)
  | promoteStable => exact promoteStable_fits fits
  | forgetStability => exact fits.of_same rfl rfl rfl rfl (.inr rfl)
  | recordRevert => exact fits.of_same rfl rfl rfl rfl (.inr rfl)
  | additiveChange cached priority config =>
    have recorded : SharedFits { shared with
        lte := { shared.lte with
          lastUserActionAt := some now, bandActionUntil := some (now + secs 15) }.recordBandChange now .user cached priority } :=
      ⟨fits.safeBands,fits.safeFile,fun _ held => recordBandChange_preChange now fits.preChange brings.1 held,fits.cached,
        fun _ held => by simp [LteState.recordBandChange] at held⟩
    exact (promoteSafeBands_fits recorded brings.2).cache brings.2
  | userChange wait current priority config =>
    have recorded : SharedFits { shared with
        lte := { shared.lte with
          lastUserActionAt := some now, registrationPending := true,
          bandActionUntil := some (now + wait) }.recordBandChange now .user current priority } :=
      ⟨fits.safeBands,fits.safeFile,fun _ held => recordBandChange_preChange now fits.preChange brings.1 held,fits.cached,
        fun _ held => by simp [LteState.recordBandChange] at held⟩
    exact recorded.cache brings.2
  | polled signal save =>
    have stored : SharedFits { shared with lte := { shared.lte with signal := some signal } } :=
      ⟨fits.safeBands,fits.safeFile,fits.preChange,brings,fits.atConnect⟩
    cases save with
    | true => exact stored.of_same rfl rfl rfl rfl (.inl rfl)
    | false => exact stored
  | clearSimData => exact ⟨fits.safeBands,nofun,fits.preChange,fits.cached,fits.atConnect⟩
  | simChange =>
    exact ⟨nofun,fits.safeFile,nofun,fits.cached,nofun⟩
  | _ => exact fits.of_same rfl rfl rfl rfl (.inl rfl)

/-- What is told of a fit state is fit. -/
theorem fitReply_of_told {turn : LteTurn} (fits : SharedFits shared) (told : Told shared turn) : FitReply turn := by
  obtain ⟨question,answer⟩ := turn
  cases question with
  | shared region =>
    have held : answer.value = (access answer.instant answer.epoch shared region).1 := told
    cases region with
    | prechangeInfo disconnectSince =>
      intro found value
      rw [held,access] at value
      unfold prechangeInfo at value
      split at value
      · next stored =>
        split at value
        · cases value
          exact fits.preChange _ stored
        · cases value
      · cases value
    | safeInfo =>
      intro found value
      rw [held] at value
      obtain ⟨safe,stored,rfl⟩ := Option.map_eq_some_iff.mp value
      exact fits.safeBands safe stored
    | cachedBands =>
      change Fit answer.value.1
      rw [held,access]
      cases cached : shared.lte.cachedConfig with
      | none => exact .inl (by simp)
      | some config => exact fits.cached config cached
    | polledConfig =>
      intro config value
      exact fits.cached config (held.symm.trans value)
    | _ => trivial
  | _ => trivial

theorem load_fits (fits : SharedFits shared) : SharedFits shared.load :=
  ⟨fits.safeFile,fits.safeFile,nofun,nofun,nofun⟩

end

/-- What is asked of a job when it begins: bands in range, unless it is refused. -/
def JobSane : Job → Prop
  | .setBands params => (params.tunnelConnected ∧ ¬ params.force) ∨ Usable params.mode.bands
  | .safeSetBands _ bands _ _ => Usable bands
  | .scan request tunnelUp => (tunnelUp ∧ ¬ request.force) ∨ ∀ band ∈ request.bands, InMask band
  | .task task => TaskFits task
  | _ => True

instance : DecidablePred JobSane
  | .setBands _ => inferInstanceAs (Decidable (_ ∨ _))
  | .safeSetBands .. => inferInstanceAs (Decidable (Usable _))
  | .scan .. => inferInstanceAs (Decidable (_ ∨ _))
  | .task (.monitor ..) => inferInstanceAs (Decidable (_ ∧ _))
  | .task (.recover _) => inferInstanceAs (Decidable (Usable _))
  | .task (.scan _) => inferInstanceAs (Decidable (∀ _ ∈ _, _))
  | .watchdog .. | .checkScan | .poll .. | .detectSimChange _ => .isTrue trivial

/-- The thread has read the modem's bands. -/
def hasRead (thread : LteThread) : Bool := thread.asked.any fun turn => turn.question = .command .readBands

/-- The condition on an event: a job that begins is sane, and a thread that reads the bands
    for the first time can keep what it reads. -/
def Sane (provider : Provider) : Event → Prop
  | .begin job => JobSane job
  | .turn place turn _ =>
    (provider.threads place).all (fun thread => hasRead thread || keeps thread.label turn) = true
  | .drift _ | .restart => True

instance (provider : Provider) : DecidablePred (Sane provider)
  | .begin job => inferInstanceAs (Decidable (JobSane job))
  | .turn .. => inferInstanceAs (Decidable (_ = true))
  | .drift _ | .restart => .isTrue trivial

/-- What is remembered of a thread. -/
def seenOf (thread : LteThread) : Watched := thread.asked.foldl (bandWatch thread.label).track ⟨false,True⟩

/-- All that is left of the thread fits. -/
def ThreadFits (thread : LteThread) : Prop :=
  Guarantees (bandWatch thread.label) thread.rest (seenOf thread) fun _ later => later.fit

theorem hasRead_foldl {job : Job} {turns : List LteTurn} {seen : Watched} :
    (turns.foldl (bandWatch job).track seen).hasRead =
      (seen.hasRead || turns.any fun turn => turn.question = .command .readBands) := by
  induction turns generalizing seen with
  | nil => simp
  | cons turn turns ih => rw [List.foldl_cons,ih,List.any_cons,← Bool.or_assoc]; rfl

theorem hasRead_seenOf (thread : LteThread) : (seenOf thread).hasRead = hasRead thread := by
  rw [seenOf,hasRead_foldl,Bool.false_or]
  rfl

/-- A sane job asks only what fits. -/
theorem job_guarantees {config : LteConfig} {job : Job} (sane : JobSane job) : ThreadFits (.begin job (job.program config)) := by
  have done : ∀ {α : Type} {program : Lte α} {seen : Watched},
      Guarantees (bandWatch job) program seen (fun _ later => later.fit) →
      Guarantees (bandWatch job) (program >>= fun _ => pure ()) seen fun _ later => later.fit :=
    fun held => guarantees_call held fun _ _ fit => fit
  cases job with
  | watchdog exhausted ticks => exact done (loop_guarantees trivial)
  | checkScan => exact done (rest_guarantees (alone fits_routine trivial) trivial)
  | poll rsrp freqBand save => exact poll_guarantees trivial
  | setBands params => exact done (setBands_guarantees sane trivial rfl)
  | scan request tunnelUp => exact done (rest_guarantees (scan_fits sane) trivial)
  | safeSetBands watched bands priority timeout => exact done (safeSetBands_guarantees sane trivial rfl)
  | detectSimChange previous =>
    exact rest_guarantees (detectSimChange_asks fits_routine (usable_hex usable_auto)) trivial
  | task task =>
    cases task with
    | monitor expected old oldPriority =>
      exact rest_guarantees (monitorRegistration_asks fits_routine (usable_hex sane.1) (usable_hex sane.2)) trivial
    | recover expected =>
      refine rest_guarantees (asks_call (alone fits_routine trivial) fun _ => ?_) trivial
      refine asks_call (alone fits_routine trivial) fun hasIp => asks_call (alone fits_routine trivial) fun up => ?_
      refine asks_call ?_ fun _ => alone fits_routine trivial
      rw [asks_onlyIf]
      split
      · exact recoverDataPathPub_asks fits_routine (usable_hex sane)
      · trivial
    | scan request => exact bandScan_guarantees sane trivial rfl

/-- The invariant: what is stored fits, and so does all that the threads have left to ask. -/
structure Fitting (provider : Provider) : Prop where
  shared : SharedFits provider.shared
  threads : Everywhere (fun _ => ThreadFits) provider.threads

/-- The event is a write that disables every band. -/
def disabling : Event → Bool
  | .turn _ turn _ => disables turn.question
  | _ => false

/-- One event under the condition: it disables nothing, and the invariant stays. -/
theorem step_fits {config : LteConfig} {provider next : Provider} {event : Event} (fitting : Fitting provider)
    (sane : Sane provider event) (stepped : step config provider event = some next) :
    disabling event = false ∧ Fitting next := by
  cases event with
  | begin job =>
    obtain ⟨place,_,_,rfl⟩ := step_begin.mp stepped
    exact ⟨rfl,fitting.shared,everywhere_put fitting.threads (job_guarantees sane) fun _ _ _ held => held⟩
  | turn place turn took =>
    obtain ⟨thread,question,follow,reply,has,left,rfl,_,told,rfl⟩ := step_turn.mp stepped
    have held : ThreadFits thread := fitting.threads place thread has
    rw [ThreadFits,left] at held
    have allowed : (bandWatch thread.label).allows (seenOf thread) ⟨question,reply⟩ := by
      refine ⟨fitReply_of_told fitting.shared told,fun unread => ?_⟩
      rw [hasRead_seenOf] at unread
      simpa [Sane,has,unread] using sane
    obtain ⟨⟨_,fits⟩,onward⟩ := held reply allowed
    refine ⟨?_,?_,everywhere_turn fitting.threads ?_ (fun _ _ _ held => held) ?_⟩
    · cases question with
      | command command =>
        cases command with
        | writeBands hex => simpa [disabling,disables,Fits] using fits
        | _ => rfl
      | _ => rfl
    · cases question with
      | shared region => exact access_fits fitting.shared fits
      | _ => exact fitting.shared
    · unfold ThreadFits seenOf Thread.after
      rw [List.foldl_append]
      exact onward
    · intro task spawned
      dsimp only at spawned
      subst spawned
      exact @job_guarantees config (.task task) fits
  | drift modem =>
    cases stepped
    exact ⟨rfl,fitting.shared,fitting.threads⟩
  | restart =>
    cases stepped
    exact ⟨rfl,load_fits fitting.shared,nofun⟩

/-- In every run of the provider whose requests ask for bands in range, and whose first
    reads of the bands to go back to can be read, no band write disables every band. -/
theorem bands_stay_enabled (config : LteConfig) (modem : Modem) (events : List Event) (provider : Provider)
    (ran : run (step config) (fresh modem) events = some provider) (sane : Along (step config) Sane (fresh modem) events) :
    ∀ event ∈ events, disabling event = false := by
  have start : Fitting (fresh modem) := ⟨⟨nofun,nofun,nofun,nofun,nofun⟩,nofun⟩
  generalize fresh modem = first at ran sane start
  induction events generalizing first with
  | nil => simp
  | cons event events ih =>
    obtain ⟨next,stepped,later⟩ := run_cons_iff.mp ran
    obtain ⟨met,rest⟩ := sane next stepped
    obtain ⟨harmless,fitting⟩ := step_fits start met stepped
    intro other member
    rcases List.mem_cons.mp member with rfl | within
    · exact harmless
    · exact ih next later rest fitting other within

def providerConfig : LteConfig := { interface := ⟨"wwan0",true,none⟩ }

/-- A modem that reads its bands as 4 and 12. -/
def readable : (question : Ask) → question.Reply
  | .command .readBands => some "+QCFG: \"band\",0x260,0x808,0x0\r\nOK".toList
  | question => plainReply question

/-- A modem that answers no command. -/
def silent : (question : Ask) → question.Reply
  | .command _ => none
  | question => plainReply question

/-- A scan of band 4 whose first two commands the modem answers as given. -/
def scanned (first : (question : Ask) → question.Reply) : List Event × Nat × Provider :=
  play providerConfig [.event (.begin (.scan ⟨[4],false,false⟩ false)),.talk .request 2 plainReply,
    .talk (.task 1) 3 first,.talk (.task 1) 14 readable] (0,fresh ⟨0x808,none⟩)

theorem bands_stay_enabled_scanned : (scanned readable).1.any disabling = false := by
  refine List.any_eq_false.mpr fun event member => ?_
  simp [bands_stay_enabled providerConfig ⟨0x808,none⟩ (scanned readable).1 (scanned readable).2.2 run_play
    (by decide +kernel) event member]

/-- The scan cannot read the bands, and in the end writes back the empty list that it kept. -/
theorem unread_scan_disables : ¬ ∀ (config : LteConfig) (modem : Modem) (events : List Event) (provider : Provider),
    run (step config) (fresh modem) events = some provider → ∀ event ∈ events, disabling event = false := by
  intro claim
  have disabled : (scanned silent).1.any disabling = true := by decide +kernel
  obtain ⟨event,member,disables⟩ := List.any_eq_true.mp disabled
  rw [claim providerConfig ⟨0x808,none⟩ (scanned silent).1 (scanned silent).2.2 run_play event member] at disables
  cases disables

end Sctl.BandWrites
