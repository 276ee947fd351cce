import Sctl.Texts
import Mathlib.Data.List.Infix

/-!
How long the tunnel client sleeps between attempts to connect. The delay is kept
from one turn to the next, and a window of durations, in which failed attempts
stand beside real connections, may override it.
-/
namespace Sctl.TunnelPacing
open Sctl.Texts (contains)

/-! ### The loop -/

/-- `reconnect_delay_secs` and `reconnect_max_delay_secs`. -/
structure TunnelConfig where
  reconnectDelaySecs : Nat
  reconnectMaxDelaySecs : Nat

inductive DisconnectReason
  | relayShutdown
  | wsClose
  | pongTimeout
  | writerExit
  | readError

inductive ConnectError
  | permanent (msg : String)
  | transient (msg : String)

/-- What `connect_and_run` returns. -/
inductive Outcome
  | ok (reason : DisconnectReason)
  | err (e : ConnectError)

structure Attempt where
  outcome : Outcome
  durationSecs : Nat

def flapWindow : Nat := 10
def flapThresholdSecs : Nat := 30
def flapCheckCount : Nat := 3

/-- The texts of an interface that is down. -/
def bindUnavailable (msg : String) : Bool :=
  contains msg.toList "bind_address".toList && contains msg.toList "not available".toList ||
    contains msg.toList "Address not available".toList || contains msg.toList "os error 99".toList

/-- What is carried from one turn to the next; the oldest duration comes first. -/
structure Loop where
  delay : Nat
  connectionDurations : List Nat

def initial (config : TunnelConfig) : Loop := ⟨config.reconnectDelaySecs,[]⟩

/-- The delay after an outcome and whether it escalates; a permanent error ends the loop. -/
def delayAfter (delay : Nat) : Outcome → Option (Nat × Bool)
  | .ok _ => some (0,false)
  | .err (.permanent _) => none
  | .err (.transient msg) => if bindUnavailable msg then some (5,false) else some (delay,true)

def track (durations : List Nat) (duration : Nat) : List Nat :=
  (if flapWindow ≤ durations.length then durations.tail else durations) ++ [duration]

def allShort (durations : List Nat) : Bool :=
  decide (flapCheckCount ≤ durations.length) && (durations.reverse.take flapCheckCount).all (· < flapThresholdSecs)

/-- A turn that sleeps: for how long, and the loop after that, unless doubling the delay overflows. -/
def turn (config : TunnelConfig) (s : Loop) (a : Attempt) : Option (Nat × Option Loop) :=
  (delayAfter s.delay a.outcome).map fun (delay,escalateBackoff) =>
    let durations := track s.connectionDurations a.durationSecs
    if allShort durations then (60,some ⟨config.reconnectDelaySecs,durations⟩)
    else if escalateBackoff then
      (delay,if delay * 2 < 2 ^ 64 then some ⟨min (delay * 2) config.reconnectMaxDelaySecs,durations⟩ else none)
    else (delay,some ⟨config.reconnectDelaySecs,durations⟩)

/-- The loop after attempts, the newest of which comes first. -/
def loop (config : TunnelConfig) : List Attempt → Option Loop
  | [] => some (initial config)
  | a :: earlier => (loop config earlier).bind fun s => (turn config s a).bind Prod.snd

/-- What is slept after the newest attempt. -/
def slept (config : TunnelConfig) : List Attempt → Option Nat
  | [] => none
  | a :: earlier => (loop config earlier).bind fun s => (turn config s a).map Prod.fst

/-! ### What is promised -/

def established (a : Attempt) : Option Nat :=
  match a.outcome with
  | .ok _ => some a.durationSecs
  | .err _ => none

def isBindError (a : Attempt) : Bool :=
  match a.outcome with
  | .err (.transient msg) => bindUnavailable msg
  | _ => false

/-- Any other transient error. -/
def isOtherError (a : Attempt) : Bool :=
  match a.outcome with
  | .err (.transient msg) => !bindUnavailable msg
  | _ => false

/-- The newest three of some durations are there and short. -/
def ThreeShort (durations : List Nat) : Prop :=
  flapCheckCount ≤ durations.length ∧ ∀ d ∈ durations.take flapCheckCount, d < flapThresholdSecs

/-- The last three established connections were short. -/
def Flapping (history : List Attempt) : Prop := ThreeShort (history.filterMap established)

/-- How many other transient errors there are in a row. -/
def consecutive (history : List Attempt) : Nat := (history.takeWhile isOtherError).length

/-- The sleep that is announced. -/
structure Announced (config : TunnelConfig) (history : List Attempt) (sleep : Nat) : Prop where
  bind : history.head?.any isBindError = true → sleep = 5
  other : history.head?.any isOtherError = true →
    sleep = min (config.reconnectDelaySecs * 2 ^ (consecutive history - 1)) config.reconnectMaxDelaySecs
  bounded : sleep ≤ config.reconnectMaxDelaySecs

/-- A minute in a flap, and else the announced sleep. -/
def Right (config : TunnelConfig) (history : List Attempt) (sleep : Nat) : Prop :=
  (Flapping history → sleep = 60) ∧ (¬Flapping history → Announced config history sleep)

/-- Every sleep of a run is right. -/
def Paced (config : TunnelConfig) (attempts : List Attempt) : Prop :=
  ∀ history, history <:+ attempts → ∀ sleep, slept config history = some sleep → Right config history sleep

def isPermanent (a : Attempt) : Bool :=
  match a.outcome with
  | .err (.permanent _) => true
  | _ => false

/-- At each attempt: the last three attempts were short exactly when the last three
    connections were, and where an interface is down outside a flap, 5 s are not too long. -/
def Steady (config : TunnelConfig) (attempts : List Attempt) : Prop :=
  ∀ history, history <:+ attempts → history ≠ [] → history.all (fun a => !isPermanent a) = true →
    (ThreeShort (history.map Attempt.durationSecs) ↔ Flapping history) ∧
    (history.head?.any isBindError = true → ¬Flapping history → 5 ≤ config.reconnectMaxDelaySecs)

/-! ### The window -/

theorem track_eq (ds : List Nat) (d : Nat) : track (ds.take flapWindow).reverse d = ((d :: ds).take flapWindow).reverse := by
  have cons : (d :: ds).take flapWindow = d :: ds.take 9 := rfl
  rw [cons,List.reverse_cons,track]
  congr 1
  by_cases full : flapWindow ≤ ds.length
  · have size : (ds.take flapWindow).length = 10 := by
      rw [List.length_take]
      exact Nat.min_eq_left full
    rw [List.length_reverse,size,if_pos (show flapWindow ≤ 10 from Nat.le_refl _),List.tail_reverse,List.dropLast_eq_take,size,List.take_take]
    rfl
  · have few : ds.length < 10 := Nat.lt_of_not_le full
    rw [if_neg (by rw [List.length_reverse,List.length_take]; exact fun le => full (Nat.le_trans le (Nat.min_le_right _ _))),
      List.take_of_length_le (show ds.length ≤ flapWindow from Nat.le_of_lt few),List.take_of_length_le (by omega)]

theorem allShort_iff (ds : List Nat) : allShort (ds.take flapWindow).reverse = true ↔ ThreeShort ds := by
  have window : (ds.take flapWindow).take flapCheckCount = ds.take flapCheckCount := by
    rw [List.take_take]
    rfl
  have size : flapCheckCount ≤ (ds.take flapWindow).length ↔ flapCheckCount ≤ ds.length := by
    rw [List.length_take]
    simp only [flapCheckCount,flapWindow]
    omega
  rw [allShort,ThreeShort,List.length_reverse,List.reverse_reverse,window,Bool.and_eq_true,decide_eq_true_eq,size]
  simp

/-! ### One turn -/

/-- What a turn does. -/
inductive Turned (config : TunnelConfig) (s : Loop) (a : Attempt) (sleep : Nat) : Option Loop → Prop
  | flap (short : allShort (track s.connectionDurations a.durationSecs) = true) (minute : sleep = 60) :
      Turned config s a sleep (some ⟨config.reconnectDelaySecs,track s.connectionDurations a.durationSecs⟩)
  | steady (long : allShort (track s.connectionDurations a.durationSecs) = false) (calm : isOtherError a = false)
      (bind : isBindError a = true → sleep = 5) (connected : isBindError a = false → sleep = 0) :
      Turned config s a sleep (some ⟨config.reconnectDelaySecs,track s.connectionDurations a.durationSecs⟩)
  | escalates (long : allShort (track s.connectionDurations a.durationSecs) = false) (other : isOtherError a = true)
      (same : sleep = s.delay) (fits : sleep * 2 < 2 ^ 64) :
      Turned config s a sleep
        (some ⟨min (sleep * 2) config.reconnectMaxDelaySecs,track s.connectionDurations a.durationSecs⟩)
  | overflows (long : allShort (track s.connectionDurations a.durationSecs) = false) (other : isOtherError a = true)
      (same : sleep = s.delay) (large : 2 ^ 64 ≤ sleep * 2) : Turned config s a sleep none

theorem turn_cases {config : TunnelConfig} {s : Loop} {a : Attempt} {sleep : Nat} {next : Option Loop}
    (turned : turn config s a = some (sleep,next)) : isPermanent a = false ∧ Turned config s a sleep next := by
  obtain ⟨⟨delay,escalates⟩,after,same⟩ := Option.map_eq_some_iff.mp turned
  have calm : isOtherError a = escalates ∧ isPermanent a = false ∧
      (isBindError a = true → delay = 5) ∧ (escalates = false → isBindError a = false → delay = 0) ∧
      (escalates = true → delay = s.delay) := by
    unfold delayAfter at after
    unfold isOtherError isPermanent isBindError
    cases outcome : a.outcome with
    | ok reason => rw [outcome] at after; cases after; simp
    | err e =>
      cases e with
      | permanent msg => rw [outcome] at after; cases after
      | transient msg =>
        rw [outcome] at after
        dsimp only at after ⊢
        split_ifs at after with down <;> cases after <;> simp [down]
  obtain ⟨kind,lasting,bind,connected,carried⟩ := calm
  refine ⟨lasting,?_⟩
  dsimp only at same
  split_ifs at same with short escalating fits
  · cases same
    exact .flap short rfl
  · cases same
    subst escalating
    exact .escalates (by simpa using short) kind (carried rfl) fits
  · cases same
    subst escalating
    exact .overflows (by simpa using short) kind (carried rfl) (Nat.le_of_not_lt fits)
  · cases same
    have none : escalates = false := by simpa using escalating
    exact .steady (by simpa using short) (kind.trans none) bind (connected none)

theorem turn_isSome {config : TunnelConfig} {s : Loop} {a : Attempt} (lasting : isPermanent a = false) :
    ∃ sleep next, turn config s a = some (sleep,next) := by
  have some : ∃ after, delayAfter s.delay a.outcome = some after := by
    unfold delayAfter
    unfold isPermanent at lasting
    cases outcome : a.outcome with
    | ok reason => exact ⟨_,rfl⟩
    | err e =>
      cases e with
      | permanent msg => rw [outcome] at lasting; cases lasting
      | transient msg =>
        dsimp only
        split_ifs <;> exact ⟨_,rfl⟩
  obtain ⟨after,found⟩ := some
  exact ⟨_,_,by rw [turn,found]; rfl⟩

/-! ### A run -/

theorem loop_durations {config : TunnelConfig} {history : List Attempt} {s : Loop} (ran : loop config history = some s) :
    s.connectionDurations = ((history.map Attempt.durationSecs).take flapWindow).reverse := by
  induction history generalizing s with
  | nil => cases ran; rfl
  | cons a earlier ih =>
    obtain ⟨before,reached,turned⟩ := Option.bind_eq_some_iff.mp ran
    obtain ⟨⟨sleep,next⟩,taken,rfl⟩ := Option.bind_eq_some_iff.mp turned
    have tracked := track_eq (earlier.map Attempt.durationSecs) a.durationSecs
    rw [← ih reached] at tracked
    rw [List.map_cons,← tracked]
    cases (turn_cases taken).2 <;> rfl

/-- The window of the code is about attempts. -/
theorem short_iff {config : TunnelConfig} {earlier : List Attempt} {s : Loop} (ran : loop config earlier = some s) (a : Attempt) :
    allShort (track s.connectionDurations a.durationSecs) = true ↔ ThreeShort ((a :: earlier).map Attempt.durationSecs) := by
  rw [loop_durations ran,track_eq,allShort_iff]
  rfl

theorem loop_lasting {config : TunnelConfig} {history : List Attempt} {s : Loop} (ran : loop config history = some s) :
    history.all (fun a => !isPermanent a) = true := by
  induction history generalizing s with
  | nil => rfl
  | cons a earlier ih =>
    obtain ⟨before,reached,turned⟩ := Option.bind_eq_some_iff.mp ran
    obtain ⟨⟨sleep,next⟩,taken,-⟩ := Option.bind_eq_some_iff.mp turned
    rw [List.all_cons,ih reached,(turn_cases taken).1]
    rfl

theorem bind_of_other {a : Attempt} (error : isOtherError a = true) : isBindError a = false := by
  unfold isOtherError at error
  unfold isBindError
  cases outcome : a.outcome with
  | ok reason => rfl
  | err e =>
    cases e with
    | permanent msg => rfl
    | transient msg =>
      rw [outcome] at error
      simpa using error

theorem established_error {a : Attempt} (error : isOtherError a = true) : established a = none := by
  unfold isOtherError at error
  unfold established
  cases outcome : a.outcome with
  | ok reason => rw [outcome] at error; cases error
  | err e => rfl

/-- A failed attempt does not change which connections were the last. -/
theorem flapping_error {a : Attempt} (error : isOtherError a = true) (earlier : List Attempt) :
    Flapping (a :: earlier) ↔ Flapping earlier := by
  rw [Flapping,List.filterMap_cons,established_error error]
  rfl

theorem steady_tail {config : TunnelConfig} {a : Attempt} {earlier : List Attempt} (steady : Steady config (a :: earlier)) :
    Steady config earlier :=
  fun history past => steady history (past.trans (List.suffix_cons a earlier))

/-- Outside a flap the delay has doubled with every error of the row. -/
theorem delay_eq {config : TunnelConfig} {history : List Attempt} {s : Loop}
    (ordered : config.reconnectDelaySecs ≤ config.reconnectMaxDelaySecs) (steady : Steady config history)
    (ran : loop config history = some s) (calm : ¬Flapping history) :
    s.delay = min (config.reconnectDelaySecs * 2 ^ consecutive history) config.reconnectMaxDelaySecs := by
  induction history generalizing s with
  | nil =>
    cases ran
    have row : consecutive [] = 0 := rfl
    rw [row,Nat.pow_zero,Nat.mul_one]
    exact (Nat.min_eq_left ordered).symm
  | cons a earlier ih =>
    have lasting := loop_lasting ran
    obtain ⟨before,reached,turned⟩ := Option.bind_eq_some_iff.mp ran
    obtain ⟨⟨sleep,next⟩,taken,same⟩ := Option.bind_eq_some_iff.mp turned
    have here := steady (a :: earlier) (List.suffix_refl _) (List.cons_ne_nil _ _) lasting
    cases (turn_cases taken).2 with
    | flap short => exact absurd (here.1.mp ((short_iff reached a).mp short)) calm
    | steady long none =>
      cases same
      have row : consecutive (a :: earlier) = 0 := by rw [consecutive,List.takeWhile_cons,none]; rfl
      rw [row,Nat.pow_zero,Nat.mul_one]
      exact (Nat.min_eq_left ordered).symm
    | escalates long other carried =>
      cases same
      have row : consecutive (a :: earlier) = consecutive earlier + 1 := by
        rw [consecutive,List.takeWhile_cons,other]
        rfl
      have delay := ih (steady_tail steady) reached (fun flapping => calm ((flapping_error other earlier).mpr flapping))
      dsimp only
      rw [row,carried,delay,Nat.pow_succ,← Nat.mul_assoc]
      omega
    | overflows => cases same

/-- Each sleep of a run whose attempts are steady. -/
theorem right_of_steady {config : TunnelConfig} {history : List Attempt} {sleep : Nat}
    (ordered : config.reconnectDelaySecs ≤ config.reconnectMaxDelaySecs) (steady : Steady config history)
    (sleeps : slept config history = some sleep) : Right config history sleep := by
  cases history with
  | nil => cases sleeps
  | cons a earlier =>
    obtain ⟨before,reached,turned⟩ := Option.bind_eq_some_iff.mp sleeps
    obtain ⟨⟨sleep',next⟩,taken,rfl⟩ := Option.map_eq_some_iff.mp turned
    obtain ⟨lasting,cases'⟩ := turn_cases taken
    have all : (a :: earlier).all (fun a => !isPermanent a) = true := by
      rw [List.all_cons,loop_lasting reached,lasting]
      rfl
    obtain ⟨window,bounded⟩ := steady (a :: earlier) (List.suffix_refl _) (List.cons_ne_nil _ _) all
    have short := short_iff reached a
    have errors : isOtherError a = true → ¬Flapping (a :: earlier) →
        before.delay = min (config.reconnectDelaySecs * 2 ^ (consecutive (a :: earlier) - 1)) config.reconnectMaxDelaySecs := by
      intro other calm
      have row : consecutive (a :: earlier) = consecutive earlier + 1 := by
        rw [consecutive,List.takeWhile_cons,other]
        rfl
      rw [row,Nat.add_sub_cancel]
      exact delay_eq ordered (steady_tail steady) reached fun flapping => calm ((flapping_error other earlier).mpr flapping)
    refine ⟨fun flapping => ?_,fun calm => ?_⟩
    · have quick := short.mpr (window.mpr flapping)
      cases cases' with
      | flap _ minute => exact minute
      | steady long => rw [long] at quick; cases quick
      | escalates long => rw [long] at quick; cases quick
      | overflows long => rw [long] at quick; cases quick
    · cases cases' with
      | flap quick => exact absurd (window.mp (short.mp quick)) calm
      | steady _ none bind connected =>
        refine ⟨fun down => bind (by simpa using down),fun other => ?_,?_⟩
        · rw [List.head?_cons,Option.any_some,none] at other
          cases other
        · cases down : isBindError a with
          | true => rw [bind down]; exact bounded (by simpa using down) calm
          | false => rw [connected down]; exact Nat.zero_le _
      | escalates _ other same =>
        have delay := errors other calm
        refine ⟨fun down => ?_,fun _ => same.trans delay,by rw [same,delay]; exact Nat.min_le_right _ _⟩
        rw [List.head?_cons,Option.any_some,bind_of_other other] at down
        cases down
      | overflows _ other same =>
        have delay := errors other calm
        refine ⟨fun down => ?_,fun _ => same.trans delay,by rw [same,delay]; exact Nat.min_le_right _ _⟩
        rw [List.head?_cons,Option.any_some,bind_of_other other] at down
        cases down

theorem paced_of_steady {config : TunnelConfig} {attempts : List Attempt}
    (ordered : config.reconnectDelaySecs ≤ config.reconnectMaxDelaySecs) (steady : Steady config attempts) :
    Paced config attempts :=
  fun _ past _ sleeps => right_of_steady ordered (fun h before => steady h (before.trans past)) sleeps

/-! ### Where a minute is longer than the maximum -/

theorem delay_le {config : TunnelConfig} {history : List Attempt} {s : Loop}
    (ordered : config.reconnectDelaySecs ≤ config.reconnectMaxDelaySecs) (ran : loop config history = some s) :
    s.delay ≤ config.reconnectMaxDelaySecs := by
  cases history with
  | nil => cases ran; exact ordered
  | cons a earlier =>
    obtain ⟨before,-,turned⟩ := Option.bind_eq_some_iff.mp ran
    obtain ⟨⟨sleep,next⟩,taken,same⟩ := Option.bind_eq_some_iff.mp turned
    cases (turn_cases taken).2 with
    | flap => cases same; exact ordered
    | steady => cases same; exact ordered
    | escalates => cases same; exact Nat.min_le_right _ _
    | overflows => cases same

/-- The loop goes on as long as no error is permanent. -/
theorem loop_goes_on {config : TunnelConfig} (ordered : config.reconnectDelaySecs ≤ config.reconnectMaxDelaySecs)
    (small : config.reconnectMaxDelaySecs < 60) {history : List Attempt} (lasting : history.all (fun a => !isPermanent a) = true) :
    ∃ s, loop config history = some s := by
  induction history with
  | nil => exact ⟨_,rfl⟩
  | cons a earlier ih =>
    rw [List.all_cons,Bool.and_eq_true,Bool.not_eq_true'] at lasting
    obtain ⟨before,reached⟩ := ih lasting.2
    obtain ⟨sleep,next,taken⟩ := @turn_isSome config before a lasting.1
    have le := delay_le ordered reached
    have goes : loop config (a :: earlier) = next := by
      rw [loop,reached,Option.bind_some,taken]
      rfl
    rw [goes]
    cases (turn_cases taken).2 with
    | flap => exact ⟨_,rfl⟩
    | steady => exact ⟨_,rfl⟩
    | escalates => exact ⟨_,rfl⟩
    | overflows _ _ same large => omega

/-- A sleep that is right shows the window to be right. -/
theorem steady_of_paced {config : TunnelConfig} {attempts : List Attempt}
    (ordered : config.reconnectDelaySecs ≤ config.reconnectMaxDelaySecs) (small : config.reconnectMaxDelaySecs < 60)
    (paced : Paced config attempts) : Steady config attempts := by
  intro history past nonempty lasting
  cases history with
  | nil => exact absurd rfl nonempty
  | cons a earlier =>
    have both := lasting
    rw [List.all_cons,Bool.and_eq_true,Bool.not_eq_true'] at both
    obtain ⟨before,reached⟩ := loop_goes_on ordered small both.2
    obtain ⟨sleep,next,taken⟩ := @turn_isSome config before a both.1
    have sleeps : slept config (a :: earlier) = some sleep := by
      rw [slept,reached,Option.bind_some,taken]
      rfl
    obtain ⟨minute,announced⟩ := paced (a :: earlier) past sleep sleeps
    have short := short_iff reached a
    have le := delay_le ordered reached
    have long : allShort (track before.connectionDurations a.durationSecs) = false → sleep ≤ 5 ∨ sleep ≤ config.reconnectMaxDelaySecs := by
      intro long
      cases (turn_cases taken).2 with
      | flap quick => rw [long] at quick; cases quick
      | steady _ _ bind connected =>
        left
        cases down : isBindError a with
        | true => exact Nat.le_of_eq (bind down)
        | false => rw [connected down]; exact Nat.zero_le _
      | escalates _ _ same => exact .inr (by rw [same]; exact le)
      | overflows _ _ same => exact .inr (by rw [same]; exact le)
    have sixty : allShort (track before.connectionDurations a.durationSecs) = true → sleep = 60 := by
      intro quick
      cases (turn_cases taken).2 with
      | flap _ minute => exact minute
      | steady long => rw [quick] at long; cases long
      | escalates long => rw [quick] at long; cases long
      | overflows long => rw [quick] at long; cases long
    refine ⟨⟨fun quick => ?_,fun flapping => ?_⟩,fun down calm => ?_⟩
    · by_contra calm
      have bounded := (announced calm).bounded
      rw [sixty (short.mpr quick)] at bounded
      omega
    · by_contra slow
      have same := minute flapping
      rcases long (by simpa using fun quick => slow (short.mp quick)) with few | few <;> omega
    · have right := announced calm
      have five := right.bind down
      have bounded := right.bounded
      omega

/-- Every run of steady attempts sleeps as announced; and where the maximum is less
    than a minute, only those do. -/
theorem paced_iff (config : TunnelConfig) (attempts : List Attempt)
    (ordered : config.reconnectDelaySecs ≤ config.reconnectMaxDelaySecs) :
    (Steady config attempts → Paced config attempts) ∧
      (config.reconnectMaxDelaySecs < 60 → (Paced config attempts ↔ Steady config attempts)) :=
  ⟨paced_of_steady ordered,fun small => ⟨steady_of_paced ordered small,paced_of_steady ordered⟩⟩

/-- A relay that refuses connections at once. -/
def refused : Attempt := ⟨.err (.transient "Connection refused (os error 111)"),0⟩

/-- A connection of an hour. -/
def connected : Attempt := ⟨.ok .pongTimeout,3600⟩

/-- Three refused attempts are taken for three short connections: a minute, where 8 s
    are announced and 30 s are the maximum. -/
theorem refused_not_paced :
    slept ⟨2,30⟩ [refused,refused,refused] = some 60 ∧ ¬Flapping [refused,refused,refused] ∧
      ¬Paced ⟨2,30⟩ [refused,refused,refused] := by
  have minute : slept ⟨2,30⟩ [refused,refused,refused] = some 60 := by decide +kernel
  have calm : ¬Flapping [refused,refused,refused] := fun flapping => absurd flapping.1 (by decide)
  refine ⟨minute,calm,fun paced => ?_⟩
  exact absurd ((paced _ (List.suffix_refl _) 60 minute).2 calm).bounded (by decide)

theorem paced_after_connections :
    (Steady ⟨2,30⟩ [refused,connected,refused,connected] → Paced ⟨2,30⟩ [refused,connected,refused,connected]) ∧
      (30 < 60 → (Paced ⟨2,30⟩ [refused,connected,refused,connected] ↔ Steady ⟨2,30⟩ [refused,connected,refused,connected])) :=
  paced_iff ⟨2,30⟩ [refused,connected,refused,connected] (by decide)

end Sctl.TunnelPacing
