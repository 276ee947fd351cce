import Mathlib.Data.List.Basic
import Sctl.Fields
import Sctl.Rings
import Sctl.Runs
import Sctl.Texts

/-!
GPS fixes from the modem (`server/src/gps.rs`): the reply to `AT+QGPSLOC=2`, and the
poller with the state that it shares. The poller enables the receiver in up to three
attempts, polls at its interval, enables the receiver again after three failures in a
row, and does not poll while the handle of the modem is dead, until it gets another
one. Floating-point numbers and their parser are parameters; times are left out.
-/
namespace Sctl.GpsPoller
open Runs
abbrev Text := List Char

structure GpsFix (F : Type) where
  latitude : F
  longitude : F
  altitude : F
  speedKmh : F
  course : F
  hdop : F
  satellites : Nat
  utc : Text
  date : Text
  fixType : Nat

/-! ### The reply to a poll -/

/-- The number that the digits write after `value`, with the text of the first error. -/
def readU32 : Nat → Text → Except Text Nat
  | value, [] => .ok value
  | value, c :: rest =>
    match Texts.toDigit 10 c with
    | none => .error "invalid digit found in string".toList
    | some digit =>
      if value * 10 + digit < 2 ^ 32 then readU32 (value * 10 + digit) rest
      else .error ("number too large to fit ".toList ++ "in target type".toList)

/-- `u32::from_str`, with the text of its errors. -/
def parseU32 : Text → Except Text Nat
  | [] => .error ("cannot parse integer ".toList ++ "from empty string".toList)
  | ['+'] => .error "invalid digit found in string".toList
  | '+' :: digits => readU32 0 digits
  | digits => readU32 0 digits

section
variable {F : Type} (parseF64 : Text → Except Text F)

/-- A part that is parsed, or the error that names it. -/
def named {α : Type} (name : Text) (parsed : Except Text α) : Except Text α :=
  parsed.mapError fun e => "bad ".toList ++ name ++ ": ".toList ++ e

/-- The fields of a location, with the text that they stand in. -/
def parseFields (data : Text) : Except Text (GpsFix F) :=
  match data.splitOn ',' with
  | utc :: lat :: lon :: hdop :: alt :: fix :: cog :: spkm :: _ :: date :: nsat :: _ => do
    let latitude ← named "lat".toList (parseF64 lat)
    let longitude ← named "lon".toList (parseF64 lon)
    let hdop ← named "hdop".toList (parseF64 hdop)
    let altitude ← named "alt".toList (parseF64 alt)
    let fixType ← named "fix".toList (parseU32 fix)
    let course ← named "cog".toList (parseF64 cog)
    let speedKmh ← named "spkm".toList (parseF64 spkm)
    let satellites ← named "nsat".toList (parseU32 (Texts.trim nsat))
    return ⟨latitude,longitude,altitude,speedKmh,course,hdop,satellites,utc,date,fixType⟩
  | parts =>
    .error ("expected 11 fields in ".toList ++ "QGPSLOC, got ".toList ++ (toString parts.length).toList ++ ": ".toList ++ data)

def name : Text := "+QGPSLOC".toList

def mark : Text := name ++ [':']

def parseQgpsloc (response : Text) : Except Text (GpsFix F) :=
  match (Texts.lines response).find? fun l => Texts.contains l mark with
  | some line =>
    match Fields.data line with
    | some data => parseFields parseF64 data
    | none => .error "malformed +QGPSLOC line".toList
  | none =>
    if Texts.contains response "516".toList ∧ Texts.contains response "ERROR".toList then .error "searching".toList
    else if Texts.contains response "ERROR".toList then .error ("modem error: ".toList ++ Texts.trim response)
    else .error ("no +QGPSLOC in response: ".toList ++ Texts.trim response)

end

/-! ### Reading a location back -/

/-- What the modem shows of a location, field by field. -/
structure Reading where
  utc : Text
  lat : Text
  lon : Text
  hdop : Text
  alt : Text
  fix : Text
  cog : Text
  spkm : Text
  spkn : Text
  date : Text
  nsat : Text

def Reading.fields (r : Reading) : List Text :=
  [r.utc,r.lat,r.lon,r.hdop,r.alt,r.fix,r.cog,r.spkm,r.spkn,r.date,r.nsat]

def Reading.line (r : Reading) : Text := Fields.line name r.fields

/-- The numbers of the reading are those of the fix. -/
structure Shows {F : Type} (parseF64 : Text → Except Text F) (r : Reading) (fix : GpsFix F) : Prop where
  latitude : parseF64 r.lat = .ok fix.latitude
  longitude : parseF64 r.lon = .ok fix.longitude
  hdop : parseF64 r.hdop = .ok fix.hdop
  altitude : parseF64 r.alt = .ok fix.altitude
  fixType : parseU32 r.fix = .ok fix.fixType
  course : parseF64 r.cog = .ok fix.course
  speedKmh : parseF64 r.spkm = .ok fix.speedKmh
  satellites : parseU32 r.nsat = .ok fix.satellites
  utc : fix.utc = r.utc
  date : fix.date = r.date

section
variable {F : Type} {parseF64 : Text → Except Text F} {r : Reading}

theorem named_ok {α : Type} {name : Text} {parsed : Except Text α} {a : α} : named name parsed = .ok a ↔ parsed = .ok a := by
  cases parsed <;> simp [named,Except.mapError]

theorem bind_ok {α β : Type} {first : Except Text α} {rest : α → Except Text β} {b : β} :
    (first >>= rest) = .ok b ↔ ∃ a, first = .ok a ∧ rest a = .ok b := by
  cases first <;> simp [bind,Except.bind]

theorem parseFields_iff {fix : GpsFix F} (all : ∀ field ∈ r.fields, Fields.isField field = true) :
    parseFields parseF64 (Fields.body r.fields) = .ok fix ↔ Shows parseF64 r fix := by
  have trimmed : Texts.trim r.nsat = r.nsat :=
    Fields.trim_dark (Fields.isField_iff.mp (all r.nsat (by simp [Reading.fields]))).2
  rw [parseFields,Fields.split_body all (List.cons_ne_nil _ _)]
  simp only [Reading.fields,bind_ok,named_ok,trimmed,pure,Except.pure,Except.ok.injEq]
  constructor
  · rintro ⟨latitude,lat,longitude,lon,hdop,dop,altitude,alt,fixType,type,course,cog,speedKmh,spkm,satellites,nsat,rfl⟩
    exact ⟨lat,lon,dop,alt,type,cog,spkm,nsat,rfl,rfl⟩
  · intro shows
    obtain ⟨latitude,longitude,altitude,speedKmh,course,hdop,satellites,utc,date,fixType⟩ := fix
    obtain rfl := shows.utc
    obtain rfl := shows.date
    exact ⟨_,shows.latitude,_,shows.longitude,_,shows.hdop,_,shows.altitude,_,shows.fixType,_,shows.course,_,shows.speedKmh,_,
      shows.satellites,rfl⟩

/-- The first line with a location decides, whatever stands around it: it is read as the fix that it shows. -/
theorem location_read {response : Text} {before after : List Text} (all : ∀ field ∈ r.fields, Fields.isField field = true)
    (lines : Texts.lines response = before ++ r.line :: after) (earlier : ∀ l ∈ before, Texts.contains l mark = false)
    (fix : GpsFix F) : parseQgpsloc parseF64 response = .ok fix ↔ Shows parseF64 r fix := by
  have here : Texts.contains r.line mark = true :=
    Texts.contains_iff.mpr ⟨[],' ' :: Fields.body r.fields,by simp [Reading.line,Fields.line,mark]⟩
  have found : (Texts.lines response).find? (fun l => Texts.contains l mark) = some r.line := by
    rw [lines,List.find?_append,List.find?_eq_none.mpr (fun l member => by rw [earlier l member]; decide),Option.none_or]
    simp only [List.find?_cons,here]
  unfold parseQgpsloc
  rw [found]
  dsimp only
  rw [Reading.line,Fields.data_line all (List.cons_ne_nil _ _) (by decide)]
  exact parseFields_iff all

/-- A reading with nine satellites. -/
def nineSatellites : Reading :=
  ⟨"061951.0".toList,"45.1".toList,"-66.2".toList,"0.7".toList,"62.2".toList,"2".toList,"0.0".toList,"0.1".toList,"0.1".toList,
    "110513".toList,"09".toList⟩

/-- The fix after the echo of the command, with a parser that keeps the text of a number. -/
theorem location_read_echo : parseQgpsloc .ok ("AT+QGPSLOC=2\r\n".toList ++ nineSatellites.line ++ "\r\nOK\r\n".toList) =
    .ok ⟨"45.1".toList,"-66.2".toList,"62.2".toList,"0.1".toList,"0.0".toList,"0.7".toList,9,"061951.0".toList,"110513".toList,2⟩ := by
  have lines : Texts.lines ("AT+QGPSLOC=2\r\n".toList ++ nineSatellites.line ++ "\r\nOK\r\n".toList) =
      ["AT+QGPSLOC=2".toList] ++ nineSatellites.line :: ["OK".toList] := by decide
  exact (location_read (Texts.forall_of_all (by decide)) lines (Texts.forall_of_all (by decide)) _).mpr
    ⟨rfl,rfl,rfl,rfl,rfl,rfl,rfl,rfl,rfl,rfl⟩

end

/-! ### The poller -/

inductive GpsStatus
  | active
  | searching
  | error
  | disabled
deriving DecidableEq

structure GpsState (F : Type) where
  status : GpsStatus
  lastFix : Option (GpsFix F)
  history : List (GpsFix F)
  historyMax : Nat
  fixesTotal : Nat
  errorsTotal : Nat
  lastError : Option Text

section
variable {F : Type}

namespace GpsState

def new (historySize : Nat) : GpsState F := ⟨.disabled,none,[],historySize,0,0,none⟩

def pushFix (g : GpsState F) (fix : GpsFix F) : GpsState F :=
  { g with
    history := Rings.push g.historyMax g.history fix
    lastFix := some fix
    fixesTotal := g.fixesTotal + 1
    status := .active }

def setSearching (g : GpsState F) : GpsState F := { g with status := .searching }

def recordError (g : GpsState F) (msg : Text) (escalate : Bool) : GpsState F :=
  { g with
    errorsTotal := g.errorsTotal + 1
    lastError := some msg
    status := if escalate then .error else g.status }

end GpsState

/-- Where the poller stands. -/
inductive Pc
  /-- It has sent the command that enables the receiver, for the n-th time. -/
  | enabling (attempt : Nat)
  | waiting
  /-- It waits for another handle. -/
  | dead
  | polling
  | reenabling
deriving DecidableEq

/-- What a poll came to. -/
inductive Outcome (F : Type)
  | fix (fix : GpsFix F)
  | searching
  | failed (e : Text)

structure State (F : Type) where
  gps : GpsState F
  pc : Pc
  consecutiveErrors : Nat
  consecutiveChannelErrors : Nat
  /-- What the polls came to. -/
  outcomes : List (Outcome F)

def start (historySize : Nat) (autoEnable : Bool) : State F :=
  ⟨.new historySize,if autoEnable then .enabling 1 else .waiting,0,0,[]⟩

/-- What ends a wait for another handle. -/
inductive Wake
  | refreshed
  /-- Nobody can send another one: the poller opens the modem itself, or cannot. -/
  | reopened
  | reopenFailed
  | recovered
deriving DecidableEq

inductive Action
  | enabled (answer : Except Text Text)
  /-- The interval is over; `refreshed` says that there is another handle. -/
  | tick (refreshed alive : Bool)
  | wake (by_ : Wake)
  | polled (answer : Except Text Text)
  | reenabled (answer : Except Text Text)

/-- The receiver is on, as the reply to the command that enables it says. -/
def isOn (resp : Text) : Bool := Texts.contains resp "OK".toList || Texts.contains resp "504".toList

/-- The error says that the thread of the handle is gone. -/
def channelGone (e : Text) : Bool :=
  Texts.contains e "I/O thread gone".toList || Texts.contains e "reply channel dropped".toList

/-- The attempt to enable the receiver failed. -/
def State.retry (s : State F) (attempt : Nat) : State F :=
  { s with pc := if attempt < 3 then .enabling (attempt + 1) else .waiting }

/-- A poll failed. -/
def State.fail (s : State F) (e : Text) : State F :=
  let consecutive := s.consecutiveErrors + 1
  { s with
    gps := s.gps.recordError e (3 ≤ consecutive)
    consecutiveErrors := if 3 ≤ consecutive then 0 else consecutive
    pc := if 3 ≤ consecutive then .reenabling else .waiting
    outcomes := s.outcomes ++ [.failed e] }

variable (parseF64 : Text → Except Text F)

def step (s : State F) : Action → Option (State F)
  | .enabled answer =>
    match s.pc with
    | .enabling attempt =>
      match answer with
      | .ok resp =>
        -- a reply with an error is tried again, any other one counts as enabled
        if !isOn resp && Texts.contains resp "ERROR".toList then some (s.retry attempt)
        else some { s with gps := s.gps.setSearching, pc := .waiting }
      | .error e => some ({ s with gps := if attempt = 3 then s.gps.recordError e true else s.gps }.retry attempt)
    | _ => none
  | .tick refreshed alive =>
    match s.pc with
    | .waiting =>
      let channelErrors := if refreshed then 0 else s.consecutiveChannelErrors
      some { s with
        consecutiveChannelErrors := channelErrors
        pc := if !alive || decide (3 ≤ channelErrors) then .dead else .polling }
    | _ => none
  | .wake by_ =>
    match s.pc with
    | .dead =>
      some { s with consecutiveChannelErrors := if by_ = .reopenFailed then s.consecutiveChannelErrors else 0, pc := .polling }
    | _ => none
  | .polled answer =>
    match s.pc with
    | .polling =>
      match answer with
      | .ok resp =>
        let s := { s with consecutiveChannelErrors := 0 }
        match parseQgpsloc parseF64 resp with
        | .ok fix =>
          some { s with gps := s.gps.pushFix fix, consecutiveErrors := 0, pc := .waiting, outcomes := s.outcomes ++ [.fix fix] }
        | .error e =>
          if e = "searching".toList then
            some { s with gps := s.gps.setSearching, consecutiveErrors := 0, pc := .waiting, outcomes := s.outcomes ++ [.searching] }
          else some (s.fail e)
      | .error e =>
        let channelErrors := if channelGone e then s.consecutiveChannelErrors + 1 else s.consecutiveChannelErrors
        some ({ s with consecutiveChannelErrors := channelErrors }.fail e)
    | _ => none
  | .reenabled answer =>
    match s.pc with
    | .reenabling =>
      match answer with
      | .ok resp => some { s with gps := if isOn resp then s.gps.setSearching else s.gps, pc := .waiting }
      | .error _ => some { s with pc := .waiting }
    | _ => none

/-! ### What the shared state tells -/

def fixOf : Outcome F → Option (GpsFix F)
  | .fix fix => some fix
  | _ => none

def fixes (outcomes : List (Outcome F)) : List (GpsFix F) := outcomes.filterMap fixOf

def isFailure : Outcome F → Bool
  | .failed _ => true
  | _ => false

/-- The failures at the end. -/
def failing (outcomes : List (Outcome F)) : List (Outcome F) := outcomes.rtakeWhile isFailure

/-- What a reader of the shared state learns about the polls so far. -/
structure Tells (s : State F) : Prop where
  /-- The history are the last fixes, the last fix is the newest, and all are counted. -/
  history : s.gps.history = Rings.latest s.gps.historyMax (fixes s.outcomes)
  lastFix : s.gps.lastFix = (fixes s.outcomes).getLast?
  fixesTotal : s.gps.fixesTotal = (fixes s.outcomes).length
  /-- `Active` means that the last poll that did not fail was a fix, and fewer than three have failed since. -/
  active : s.gps.status = .active → (failing s.outcomes).length < 3 ∧
    ∃ earlier fix, s.outcomes = earlier ++ .fix fix :: failing s.outcomes
  /-- `Error` means that the last three polls failed, unless the receiver could not be enabled and no poll
      has succeeded since. -/
  error : s.gps.status = .error → 3 ≤ (failing s.outcomes).length ∨ failing s.outcomes = s.outcomes
  /-- Every failure is counted, and the failure to enable the receiver once. -/
  errorsTotal : s.outcomes.countP isFailure ≤ s.gps.errorsTotal ∧ s.gps.errorsTotal ≤ s.outcomes.countP isFailure + 1
  /-- The receiver is enabled again after every third failure in a row. -/
  thirds : s.consecutiveErrors = (failing s.outcomes).length % 3
  reenabling : s.pc = .reenabling → failing s.outcomes ≠ [] ∧ s.consecutiveErrors = 0

/-! ### What every run keeps -/

variable {parseF64}
variable {s t : State F}

theorem failing_snoc (outcomes : List (Outcome F)) (o : Outcome F) :
    failing (outcomes ++ [o]) = if isFailure o then failing outcomes ++ [o] else [] := List.rtakeWhile_concat ..

theorem fixes_snoc (outcomes : List (Outcome F)) (o : Outcome F) :
    fixes (outcomes ++ [o]) = fixes outcomes ++ (fixOf o).toList := by
  rw [fixes,List.filterMap_append]
  cases o <;> rfl

/-- The failure to enable the receiver comes before all polls and is counted once. -/
structure Sound (s : State F) : Prop where
  tells : Tells s
  /-- While the receiver is enabled for the first time nothing was polled. -/
  first : ∀ attempt, s.pc = .enabling attempt → s.outcomes = [] ∧ s.gps.errorsTotal = 0 ∧ s.gps.status = .disabled ∧ attempt ≤ 3

/-- A poll failed. -/
theorem Sound.fail (sound : Sound s) (e : Text) (channelErrors : Nat) :
    Sound ({ s with consecutiveChannelErrors := channelErrors }.fail e) := by
  have tells := sound.tells
  have thirds := tells.thirds
  have errorsTotal := tells.errorsTotal
  have failing_ : failing (s.outcomes ++ [.failed e]) = failing s.outcomes ++ [.failed e] := failing_snoc ..
  have fixes_ : fixes (s.outcomes ++ [.failed e]) = fixes s.outcomes := by rw [fixes_snoc]; exact List.append_nil _
  have length : (failing s.outcomes ++ [Outcome.failed e]).length = (failing s.outcomes).length + 1 := by simp
  have counted : (s.outcomes ++ [Outcome.failed e]).countP isFailure = s.outcomes.countP isFailure + 1 := by
    rw [List.countP_append]
    rfl
  refine ⟨⟨?_,?_,?_,?_,?_,?_,?_,?_⟩,?_⟩ <;> simp only [State.fail,GpsState.recordError,failing_,fixes_,length,counted,decide_eq_true_eq]
  · exact tells.history
  · exact tells.lastFix
  · exact tells.fixesTotal
  · intro active
    split_ifs at active
    obtain ⟨short,earlier,fix,split⟩ := tells.active active
    exact ⟨by omega,earlier,fix,by rw [← List.cons_append,← List.append_assoc,← split]⟩
  · intro error
    split_ifs at error
    · exact .inl (by omega)
    · rcases tells.error error with many | all
      · exact .inl (by omega)
      · exact .inr (by rw [all])
  · omega
  · split_ifs <;> omega
  · split_ifs with third
    · exact fun _ => ⟨by simp,rfl⟩
    · nofun
  · split_ifs <;> nofun

/-- A poll brought a fix, or none yet. -/
theorem Sound.succeed (sound : Sound s) {o : Outcome F} (success : isFailure o = false) {gps : GpsState F} {channelErrors : Nat}
    (same : ∀ fix, o = .fix fix → gps = s.gps.pushFix fix) (searching : o = .searching → gps = s.gps.setSearching) :
    Sound { s with
      gps := gps
      consecutiveErrors := 0
      consecutiveChannelErrors := channelErrors
      pc := .waiting
      outcomes := s.outcomes ++ [o] } := by
  have tells := sound.tells
  have failing_ : failing (s.outcomes ++ [o]) = [] := by rw [failing_snoc,success]; rfl
  have counted : (s.outcomes ++ [o]).countP isFailure = s.outcomes.countP isFailure := by
    rw [List.countP_append,List.countP_singleton,success]
    rfl
  cases o with
  | failed e => cases success
  | fix fix =>
    obtain rfl := same fix rfl
    have fixes_ : fixes (s.outcomes ++ [.fix fix]) = fixes s.outcomes ++ [fix] := fixes_snoc ..
    refine ⟨⟨?_,?_,?_,?_,?_,?_,?_,nofun⟩,nofun⟩ <;> simp only [GpsState.pushFix,failing_,fixes_,counted]
    · rw [tells.history,Rings.push_latest]
    · rw [List.getLast?_concat]
    · rw [tells.fixesTotal,List.length_append]
      rfl
    · exact fun _ => ⟨Nat.zero_lt_succ 2,s.outcomes,fix,rfl⟩
    · nofun
    · exact tells.errorsTotal
    · rfl
  | searching =>
    obtain rfl := searching rfl
    have fixes_ : fixes (s.outcomes ++ [Outcome.searching]) = fixes s.outcomes := by rw [fixes_snoc]; exact List.append_nil _
    refine ⟨⟨?_,?_,?_,?_,?_,?_,?_,nofun⟩,nofun⟩ <;> simp only [GpsState.setSearching,failing_,fixes_,counted]
    · exact tells.history
    · exact tells.lastFix
    · exact tells.fixesTotal
    · nofun
    · nofun
    · exact tells.errorsTotal
    · rfl

/-- The poller goes on elsewhere, or the receiver is on and the status says so. -/
theorem Sound.move (sound : Sound s) {pc : Pc} {gps : GpsState F} {channelErrors : Nat}
    (same : gps = s.gps ∨ gps = s.gps.setSearching) (apart : ∀ attempt, pc ≠ .enabling attempt) (other : pc ≠ .reenabling) :
    Sound { s with gps := gps, consecutiveChannelErrors := channelErrors, pc := pc } := by
  have tells := sound.tells
  refine ⟨?_,fun attempt at_ => absurd at_ (apart attempt)⟩
  rcases same with rfl | rfl
  · exact { tells with reenabling := fun at_ => absurd at_ other }
  · exact { tells with active := nofun, error := nofun, reenabling := fun at_ => absurd at_ other }

theorem Sound.retry (sound : Sound s) {attempt : Nat} (enabling : s.pc = .enabling attempt) {gps : GpsState F}
    (same : gps = s.gps ∨ attempt = 3 ∧ ∃ e, gps = s.gps.recordError e true) : Sound ({ s with gps := gps }.retry attempt) := by
  have tells := sound.tells
  obtain ⟨nothing,errors,disabled,within⟩ := sound.first attempt enabling
  rcases same with rfl | ⟨rfl,e,rfl⟩
  · unfold State.retry
    split_ifs with more
    · refine ⟨{ tells with reenabling := nofun },fun next at_ => ⟨nothing,errors,disabled,?_⟩⟩
      obtain rfl : attempt + 1 = next := Pc.enabling.inj at_
      exact more
    · exact ⟨{ tells with reenabling := nofun },nofun⟩
  · refine ⟨⟨tells.history,tells.lastFix,tells.fixesTotal,nofun,fun _ => .inr ?_,?_,tells.thirds,nofun⟩,nofun⟩
    · show failing s.outcomes = s.outcomes
      rw [nothing]
      rfl
    · show s.outcomes.countP isFailure ≤ s.gps.errorsTotal + 1 ∧ s.gps.errorsTotal + 1 ≤ s.outcomes.countP isFailure + 1
      rw [nothing,errors]
      exact ⟨Nat.zero_le 1,Nat.le_refl 1⟩

theorem step_sound (s : State F) (a : Action) (t : State F) (sound : Sound s) (stepped : step parseF64 s a = some t) : Sound t := by
  cases a with
  | enabled answer =>
    cases at_ : s.pc with
    | enabling attempt =>
      simp only [step,at_] at stepped
      cases answer with
      | ok resp =>
        dsimp only at stepped
        split_ifs at stepped
        · cases stepped
          exact sound.retry at_ (.inl rfl)
        · cases stepped
          exact sound.move (.inr rfl) nofun nofun
      | error e =>
        cases stepped
        refine sound.retry at_ ?_
        by_cases last : attempt = 3
        · exact .inr ⟨last,e,by rw [if_pos last]⟩
        · exact .inl (by rw [if_neg last])
    | _ => simp only [step,at_] at stepped; cases stepped
  | tick refreshed alive =>
    cases at_ : s.pc with
    | waiting =>
      simp only [step,at_] at stepped
      cases stepped
      by_cases blocked : (!alive || decide (3 ≤ if refreshed then 0 else s.consecutiveChannelErrors)) = true
      · rw [if_pos blocked]
        exact sound.move (.inl rfl) nofun nofun
      · rw [if_neg blocked]
        exact sound.move (.inl rfl) nofun nofun
    | _ => simp only [step,at_] at stepped; cases stepped
  | wake by_ =>
    cases at_ : s.pc with
    | dead =>
      simp only [step,at_] at stepped
      cases stepped
      exact sound.move (.inl rfl) nofun nofun
    | _ => simp only [step,at_] at stepped; cases stepped
  | polled answer =>
    cases at_ : s.pc with
    | polling =>
      simp only [step,at_] at stepped
      cases answer with
      | ok resp =>
        dsimp only at stepped
        cases parsed : parseQgpsloc parseF64 resp with
        | ok fix =>
          rw [parsed] at stepped
          cases stepped
          exact sound.succeed rfl (fun _ same => by cases same; rfl) nofun
        | error e =>
          rw [parsed] at stepped
          dsimp only at stepped
          split_ifs at stepped
          · cases stepped
            exact sound.succeed rfl nofun fun _ => rfl
          · cases stepped
            exact sound.fail e 0
      | error e =>
        cases stepped
        exact sound.fail e _
    | _ => simp only [step,at_] at stepped; cases stepped
  | reenabled answer =>
    cases at_ : s.pc with
    | reenabling =>
      simp only [step,at_] at stepped
      cases answer with
      | ok resp =>
        cases stepped
        refine sound.move ?_ nofun nofun
        split
        · exact .inr rfl
        · exact .inl rfl
      | error e =>
        cases stepped
        exact sound.move (.inl rfl) nofun nofun
    | _ => simp only [step,at_] at stepped; cases stepped

theorem start_sound (historySize : Nat) (autoEnable : Bool) : Sound (start historySize autoEnable : State F) where
  tells := {
    history := Rings.latest_nil.symm
    lastFix := rfl
    fixesTotal := rfl
    active := nofun
    error := nofun
    errorsTotal := ⟨Nat.le_refl 0,Nat.zero_le 1⟩
    thirds := rfl
    reenabling := by
      intro at_
      cases autoEnable <;> cases at_ }
  first := by
    intro attempt at_
    cases autoEnable with
    | true =>
      obtain rfl : 1 = attempt := Pc.enabling.inj at_
      exact ⟨rfl,rfl,rfl,by decide⟩
    | false => cases at_

end
end Sctl.GpsPoller
