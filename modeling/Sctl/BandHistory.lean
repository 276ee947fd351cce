import Mathlib.Data.List.Basic
import Sctl.CellReports
import Sctl.Rings
import Sctl.Runs
import Sctl.Tables

/-!
The history of each band (`server/src/lte.rs`): every poll of the modem records what the
serving cell and its neighbours show of their bands, every tenth poll writes the history
to a file, and a restart reads it back. An entry tells the best and the latest strength,
how often the band was seen, and the latest observations. The counters do not overflow.
-/
namespace Sctl.BandHistory
open Runs
open CellReports (NeighborCell)

def maxBandObservations : Nat := 20

structure BandObservation (F : Type) where
  rsrp : Int
  rsrq : Option Int
  sinr : Option F
  pci : Nat
  recordedAt : Nat
  serving : Bool

structure BandHistoryEntry (F : Type) where
  band : Nat
  bestRsrp : Int
  latestRsrp : Int
  observationCount : Nat
  lastSeen : Nat
  recent : List (BandObservation F)

abbrev History (F : Type) := Table Nat (BandHistoryEntry F)

/-- What the history takes from an `LteSignal`. -/
structure LteSignal (F : Type) where
  freqBand : Option Nat
  rsrp : Option Int
  rsrq : Option Int
  sinr : Option F
  pci : Option Nat
  neighbors : List (NeighborCell F)
  recordedAt : Nat

/-- Each entry is a band and the first and last of its channels. -/
def earfcnTable : List (Nat × Nat × Nat) :=
  [(1,0,599),(2,600,1199),(3,1200,1949),(4,1950,2399),(5,2400,2649),(7,2750,3449),(8,3450,3799),(12,5010,5179),(13,5180,5279),
    (14,5280,5379),(17,5730,5849),(20,6150,6449),(25,8040,8689),(26,8690,9039),(28,9210,9659),(29,9660,9769),(30,9770,9869),
    (66,66436,67335),(71,68586,68935)]

def earfcnToBand (earfcn : Nat) : Option Nat :=
  earfcnTable.findSome? fun e => if e.2.1 ≤ earfcn ∧ earfcn ≤ e.2.2 then some e.1 else none

section
variable {F : Type}

/-- An observation goes into the entry of its band. -/
def record (history : History F) (band : Nat) (obs : BandObservation F) : History F :=
  let entry := (history.lookup band).getD ⟨band,obs.rsrp,obs.rsrp,0,obs.recordedAt,[]⟩
  history.insert band { entry with
    latestRsrp := obs.rsrp
    bestRsrp := if obs.rsrp > entry.bestRsrp then obs.rsrp else entry.bestRsrp
    observationCount := entry.observationCount + 1
    lastSeen := obs.recordedAt
    recent := Rings.push maxBandObservations entry.recent obs }

def recordServing (history : History F) (signal : LteSignal F) : History F :=
  match signal.freqBand, signal.rsrp, signal.pci with
  | some band, some rsrp, some pci => record history band ⟨rsrp,signal.rsrq,signal.sinr,pci,signal.recordedAt,true⟩
  | _, _, _ => history

def recordNeighbor (now : Nat) (history : History F) (neighbor : NeighborCell F) : History F :=
  match earfcnToBand neighbor.earfcn with
  | none => history
  | some band =>
    match neighbor.rsrp with
    | none => history
    | some rsrp => record history band ⟨rsrp,neighbor.rsrq,neighbor.sinr,neighbor.pci,now,false⟩

def updateBandHistory (history : History F) (signal : LteSignal F) : History F :=
  signal.neighbors.foldl (recordNeighbor signal.recordedAt) (recordServing history signal)

/-! ### Polls and restarts -/

structure State (F : Type) where
  history : History F
  pollsSinceSave : Nat
  /-- The file, if there is one. -/
  file : Option (History F)
  /-- The signals that the history accounts for. -/
  seen : List (LteSignal F)
  /-- The signals that the file accounts for. -/
  saved : List (LteSignal F)
  /-- The file was last written or removed as it should be. -/
  clean : Bool

def start : State F := ⟨∅,0,none,[],[],true⟩

inductive Action (F : Type)
  /-- A signal was read; `written` says what becomes of the file when it is due. -/
  | poll (signal : LteSignal F) (written : Bool)
  /-- A band scan saves. -/
  | save (written : Bool)
  /-- Another SIM card is in the modem; its history begins. -/
  | simChange (removed : Bool)
  | restart

/-- `save_lte_data`; a file that cannot be written stays as it was. -/
def State.saveLteData (s : State F) (written : Bool) : State F :=
  if written then { s with file := some s.history, saved := s.seen, clean := true } else { s with clean := false }

/-- `load_lte_data`, of the entries in the file. -/
def loadLteData (entries : List (BandHistoryEntry F)) : History F :=
  entries.foldl (fun history entry => history.insert entry.band entry) ∅

def step (s : State F) : Action F → Option (State F)
  | .poll signal written =>
    let s := { s with
      history := updateBandHistory s.history signal
      pollsSinceSave := s.pollsSinceSave + 1
      seen := s.seen ++ [signal] }
    some (if 10 ≤ s.pollsSinceSave then { s with pollsSinceSave := 0 }.saveLteData written else s)
  | .save written => some (s.saveLteData written)
  | .simChange removed =>
    some (if removed then { s with history := ∅, file := none, seen := [], saved := [], clean := true }
      else { s with history := ∅, seen := [], clean := false })
  | .restart =>
    let entries := (s.file.getD ∅).entries.map Sigma.snd
    some { s with history := loadLteData entries, pollsSinceSave := 0, seen := s.saved, clean := true }

/-! ### What the entries tell -/

abbrev Observations (F : Type) := List (Nat × BandObservation F)

/-- What a signal shows of its serving cell. -/
def servingOf (signal : LteSignal F) : Observations F :=
  match signal.freqBand, signal.rsrp, signal.pci with
  | some band, some rsrp, some pci => [(band,⟨rsrp,signal.rsrq,signal.sinr,pci,signal.recordedAt,true⟩)]
  | _, _, _ => []

def neighborOf (now : Nat) (n : NeighborCell F) : Option (Nat × BandObservation F) :=
  (earfcnToBand n.earfcn).bind fun band => n.rsrp.map fun rsrp => (band,⟨rsrp,n.rsrq,n.sinr,n.pci,now,false⟩)

/-- What signals show of the bands, in order. -/
def observations (signals : List (LteSignal F)) : Observations F :=
  signals.flatMap fun signal => servingOf signal ++ signal.neighbors.filterMap (neighborOf signal.recordedAt)

/-- What is seen of one band. -/
def ofBand (band : Nat) (all : Observations F) : List (BandObservation F) := (all.filter fun o => o.1 = band).map Prod.snd

/-- The entry tells what was observed. -/
structure Summarises (band : Nat) (obs : List (BandObservation F)) (entry : BandHistoryEntry F) : Prop where
  band : entry.band = band
  best : (∃ o ∈ obs, o.rsrp = entry.bestRsrp) ∧ ∀ o ∈ obs, o.rsrp ≤ entry.bestRsrp
  latest : obs.getLast?.map BandObservation.rsrp = some entry.latestRsrp
  lastSeen : obs.getLast?.map BandObservation.recordedAt = some entry.lastSeen
  count : entry.observationCount = obs.length
  recent : entry.recent = Rings.latest maxBandObservations obs

/-- There is an entry for exactly the bands that were observed, and each tells all of it. -/
def Accounts (history : History F) (all : Observations F) : Prop :=
  ∀ band, match history.lookup band with
    | none => ofBand band all = []
    | some entry => Summarises band (ofBand band all) entry

/-- What every run keeps. -/
structure Faithful (s : State F) : Prop where
  history : Accounts s.history (observations s.seen)
  file : Accounts (s.file.getD ∅) (observations s.saved)
  /-- A restart forgets fewer than ten polls, the last ones, unless the file could not be written. -/
  lost : s.clean = true → s.saved <+: s.seen ∧ s.seen.length < s.saved.length + 10

variable {s t : State F} {history : History F} {all : Observations F} {band : Nat} {obs : BandObservation F}

theorem ofBand_append (band : Nat) (first second : Observations F) :
    ofBand band (first ++ second) = ofBand band first ++ ofBand band second := by
  simp [ofBand]

theorem observations_append (first second : List (LteSignal F)) :
    observations (first ++ second) = observations first ++ observations second := List.flatMap_append

theorem Summarises.snoc {earlier : List (BandObservation F)} {entry : BandHistoryEntry F} (tells : Summarises band earlier entry) :
    Summarises band (earlier ++ [obs]) { entry with
      latestRsrp := obs.rsrp
      bestRsrp := if obs.rsrp > entry.bestRsrp then obs.rsrp else entry.bestRsrp
      observationCount := entry.observationCount + 1
      lastSeen := obs.recordedAt
      recent := Rings.push maxBandObservations entry.recent obs } := by
  obtain ⟨⟨o,member,attained⟩,bound⟩ := tells.best
  have best : (∃ o ∈ earlier ++ [obs], o.rsrp = if obs.rsrp > entry.bestRsrp then obs.rsrp else entry.bestRsrp) ∧
      ∀ o ∈ earlier ++ [obs], o.rsrp ≤ if obs.rsrp > entry.bestRsrp then obs.rsrp else entry.bestRsrp := by
    by_cases better : obs.rsrp > entry.bestRsrp
    · simp only [if_pos better]
      refine ⟨⟨obs,by simp,rfl⟩,List.forall_mem_append.mpr ⟨fun o old => ?_,List.forall_mem_singleton.mpr (Int.le_refl _)⟩⟩
      have least := bound o old
      omega
    · simp only [if_neg better]
      exact ⟨⟨o,List.mem_append_left _ member,attained⟩,
        List.forall_mem_append.mpr ⟨bound,List.forall_mem_singleton.mpr (Int.not_lt.mp better)⟩⟩
  exact ⟨tells.band,best,by simp,by simp,by simp [tells.count],by rw [tells.recent,Rings.push_latest]⟩

/-- The first observation of a band begins its entry. -/
theorem summarises_first (band : Nat) (obs : BandObservation F) : Summarises band [obs]
    ⟨band,if obs.rsrp > obs.rsrp then obs.rsrp else obs.rsrp,obs.rsrp,1,obs.recordedAt,Rings.push maxBandObservations [] obs⟩ := by
  refine ⟨rfl,?_,rfl,rfl,rfl,?_⟩
  · rw [ite_self]
    simp
  · exact (congrArg (Rings.push maxBandObservations · obs) Rings.latest_nil.symm).trans (Rings.push_latest [] obs)

theorem Accounts.record (accounts : Accounts history all) (band : Nat) (obs : BandObservation F) :
    Accounts (record history band obs) (all ++ [(band,obs)]) := by
  intro other
  have here := accounts other
  rw [BandHistory.record,Table.lookup_insert_eq,ofBand_append]
  by_cases same : other = band
  · subst same
    have one : ofBand other [(other,obs)] = [obs] := by simp [ofBand]
    rw [if_pos rfl,one]
    cases found : history.lookup other with
    | none =>
      rw [found] at here
      dsimp only at here ⊢
      rw [here,List.nil_append]
      exact summarises_first other obs
    | some entry =>
      rw [found] at here
      exact here.snoc
  · have none_ : ofBand other [(band,obs)] = [] := by simp [ofBand,Ne.symm same]
    rw [if_neg same,none_,List.append_nil]
    exact here

theorem Accounts.neighbors (accounts : Accounts history all) (now : Nat) (neighbors : List (NeighborCell F)) :
    Accounts (neighbors.foldl (recordNeighbor now) history) (all ++ neighbors.filterMap (neighborOf now)) := by
  induction neighbors generalizing history all with
  | nil => simpa using accounts
  | cons n rest ih =>
    rw [List.foldl_cons,List.filterMap_cons]
    unfold recordNeighbor neighborOf
    cases earfcnToBand n.earfcn with
    | none => exact ih accounts
    | some band =>
      cases n.rsrp with
      | none => exact ih accounts
      | some rsrp =>
        have after := ih (accounts.record band ⟨rsrp,n.rsrq,n.sinr,n.pci,now,false⟩)
        rwa [List.append_assoc] at after

theorem Accounts.update (accounts : Accounts history all) (signal : LteSignal F) :
    Accounts (updateBandHistory history signal) (all ++ observations [signal]) := by
  have serving : Accounts (recordServing history signal) (all ++ servingOf signal) := by
    unfold recordServing servingOf
    split
    · exact accounts.record _ _
    · simpa using accounts
  have after := serving.neighbors signal.recordedAt signal.neighbors
  rw [List.append_assoc] at after
  simpa [observations,updateBandHistory] using after

theorem accounts_empty : Accounts (∅ : History F) [] := fun _ => rfl

/-! ### The file -/

theorem lookup_foldl_insert (entries : List (Σ _ : Nat, BandHistoryEntry F)) (distinct : entries.NodupKeys)
    (keyed : ∀ e ∈ entries, e.2.band = e.1) (history : History F) (band : Nat) :
    ((entries.map Sigma.snd).foldl (fun history entry => history.insert entry.band entry) history).lookup band =
      (entries.dlookup band).or (history.lookup band) := by
  induction entries generalizing history with
  | nil => rfl
  | cons e rest ih =>
    obtain ⟨key,entry⟩ := e
    obtain ⟨fresh,distinct⟩ := List.nodupKeys_cons.mp distinct
    have here : entry.band = key := keyed ⟨key,entry⟩ List.mem_cons_self
    rw [List.map_cons,List.foldl_cons,ih distinct (fun e member => keyed e (List.mem_cons_of_mem _ member)),here,Table.lookup_insert_eq]
    by_cases same : band = key
    · subst same
      rw [List.dlookup_eq_none.mpr fresh,List.dlookup_cons_eq,if_pos rfl]
      rfl
    · rw [List.dlookup_cons_ne rest (⟨key,entry⟩ : Σ _ : Nat, BandHistoryEntry F) same,if_neg same]

/-- What was written is read back. -/
theorem loadLteData_entries (accounts : Accounts history all) : Accounts (loadLteData (history.entries.map Sigma.snd)) all := by
  have keyed : ∀ e ∈ history.entries, e.2.band = e.1 := by
    intro e member
    have here := accounts e.1
    rw [Table.lookup_eq_some_iff.mpr member] at here
    exact here.band
  intro band
  rw [loadLteData,lookup_foldl_insert _ history.nodupKeys keyed]
  have here := accounts band
  rwa [show (history.entries.dlookup band).or ((∅ : History F).lookup band) = history.lookup band from Option.or_none]

/-! ### What every run keeps -/

structure Sound (s : State F) : Prop where
  faithful : Faithful s
  /-- The polls that are not saved yet are counted. -/
  counted : s.clean = true → s.seen.length ≤ s.saved.length + s.pollsSinceSave
  due : s.pollsSinceSave < 10

theorem Sound.save (sound : Sound s) (written : Bool) : Sound (s.saveLteData written) := by
  cases written with
  | true => exact ⟨⟨sound.faithful.history,sound.faithful.history,fun _ => ⟨List.prefix_rfl,Nat.lt_add_of_pos_right (by decide)⟩⟩,
      fun _ => Nat.le_add_right _ _,sound.due⟩
  | false => exact ⟨⟨sound.faithful.history,sound.faithful.file,nofun⟩,nofun,sound.due⟩

theorem step_sound (s : State F) (a : Action F) (t : State F) (sound : Sound s) (stepped : step s a = some t) : Sound t := by
  have faithful := sound.faithful
  cases a with
  | poll signal written =>
    have history : Accounts (updateBandHistory s.history signal) (observations (s.seen ++ [signal])) := by
      rw [observations_append]
      exact faithful.history.update signal
    have length : (s.seen ++ [signal]).length = s.seen.length + 1 := List.length_append
    have due := sound.due
    simp only [step,Option.some.injEq] at stepped
    subst stepped
    split_ifs with full
    · cases written with
      | true =>
        exact ⟨⟨history,history,fun _ => ⟨List.prefix_rfl,Nat.lt_add_of_pos_right (by decide)⟩⟩,fun _ => Nat.le_add_right _ _,
          (by decide : 0 < 10)⟩
      | false => exact ⟨⟨history,faithful.file,nofun⟩,nofun,(by decide : 0 < 10)⟩
    · have few : s.pollsSinceSave + 1 < 10 := Nat.lt_of_not_le full
      refine ⟨⟨history,faithful.file,fun clean => ⟨?_,?_⟩⟩,fun clean => ?_,few⟩
      · exact (faithful.lost clean).1.trans (List.prefix_append _ _)
      · have counted := sound.counted clean
        show (s.seen ++ [signal]).length < s.saved.length + 10
        omega
      · have counted := sound.counted clean
        show (s.seen ++ [signal]).length ≤ s.saved.length + (s.pollsSinceSave + 1)
        omega
  | save written =>
    cases stepped
    exact sound.save written
  | simChange removed =>
    cases removed with
    | true =>
      cases stepped
      exact ⟨⟨accounts_empty,accounts_empty,fun _ => ⟨List.prefix_rfl,(by decide : 0 < 0 + 10)⟩⟩,fun _ => Nat.zero_le _,sound.due⟩
    | false =>
      cases stepped
      exact ⟨⟨accounts_empty,faithful.file,nofun⟩,nofun,sound.due⟩
  | restart =>
    cases stepped
    exact ⟨⟨loadLteData_entries faithful.file,faithful.file,fun _ => ⟨List.prefix_rfl,Nat.lt_add_of_pos_right (by decide)⟩⟩,
      fun _ => Nat.le_refl _,(by decide : 0 < 10)⟩

theorem start_sound : Sound (start : State F) :=
  ⟨⟨accounts_empty,accounts_empty,fun _ => ⟨List.prefix_rfl,(by decide : 0 < 0 + 10)⟩⟩,fun _ => Nat.le_refl _,(by decide : 0 < 10)⟩

end
end Sctl.BandHistory
