import Sctl.Runs
import Sctl.ConnectionManager

/-!
The sockets of the web client. The handlers of a socket and what follows a health
check run whenever the browser gets to them, and they act on the client as it is
then, whichever socket it has by that time.
-/
namespace Sctl.WsClient
open Runs

inductive ReadyState
  | connecting
  | opened
  | closing
  | closed
  deriving DecidableEq

inductive ConnectionStatus
  | disconnected
  | connecting
  | connected
  | reconnecting
  | device_offline
  deriving DecidableEq

/-- Without a bound on the attempts there is `Infinity`. -/
structure ReconnectConfig where
  enabled : Bool := true
  maxAttempts : Option Nat := none

structure Config where
  wsUrl : String
  reconnect : ReconnectConfig := {}

/-- All sockets ever made, by number, the timers that the browser has not fired and how many
    there were, and the health checks in flight. It is noted whether `disconnect` was called with no
    later `connect`, whether a socket was opened since, and whether an event of another socket than
    the stored one changed the status or was dispatched. -/
structure Client where
  ws : Option Nat := none
  status : ConnectionStatus := .disconnected
  intentionalClose : Bool := false
  reconnectAttempt : Nat := 0
  reconnectTimer : Option Nat := none
  visibilityHandler : Bool := true
  sockets : List ReadyState := []
  timers : List Nat := []
  timerCounter : Nat := 0
  preflights : Nat := 0
  ended : Bool := false
  late : Bool := false
  foreign : Bool := false

def start : Client := {}

def ReadyState.live : ReadyState → Bool
  | .connecting | .opened => true
  | .closing | .closed => false

namespace Client

/-- The stored socket is connecting or open. -/
def wsLive (s : Client) : Bool := (s.ws.bind fun n => s.sockets[n]?).any ReadyState.live

def openWs (s : Client) : Client :=
  { s with sockets := s.sockets ++ [.connecting], ws := some s.sockets.length, late := s.late || s.ended }

/-- The status at a new attempt; an offline device stays shown as that. -/
def trying (s : Client) : Client := if s.status = .device_offline then s else { s with status := .connecting }

def connect (c : Config) (s : Client) : Client :=
  if s.wsLive then s
  else
    let s := { s with intentionalClose := false }
    if (ConnectionManager.getRelayBaseUrl c.wsUrl).isSome then { s.trying with preflights := s.preflights + 1 }
    else s.trying.openWs

def retries (c : Config) (s : Client) : Bool :=
  c.reconnect.enabled && c.reconnect.maxAttempts.all fun most => decide (s.reconnectAttempt < most)

def scheduleReconnect (c : Config) (s : Client) : Client :=
  if s.retries c then
    { s with
      status := if s.status = .device_offline then s.status else .reconnecting
      reconnectAttempt := s.reconnectAttempt + 1
      reconnectTimer := some s.timerCounter
      timers := s.timers ++ [s.timerCounter]
      timerCounter := s.timerCounter + 1 }
  else { s with status := .disconnected }

def clearTimer (s : Client) : Client :=
  match s.reconnectTimer with
  | none => s
  | some timer => { s with timers := s.timers.filter (· ≠ timer), reconnectTimer := none }

/-- `close()` on a socket that is not closed. -/
def close (s : Client) : Client :=
  match s.ws with
  | none => s
  | some n => { s with sockets := s.sockets.modify n fun state => if state.live then .closing else state }

def disconnect (s : Client) : Client :=
  { close (clearTimer { s with intentionalClose := true }) with visibilityHandler := false, ws := none, status := .disconnected }

def onopen (s : Client) : Client := { s with reconnectAttempt := 0, status := .connected }

/-- A frame, as far as the status hangs on it. -/
inductive Frame
  | notJson
  | deviceDisconnected
  | other

def onmessage (s : Client) : Frame → Client
  | .deviceDisconnected => { s with status := .device_offline }
  | .notJson | .other => s

def onclose (c : Config) (s : Client) : Client :=
  let wasNeverOpen := s.status = .connecting ∨ s.status = .device_offline
  let s := { s with ws := none }
  if s.intentionalClose then { s with status := .disconnected }
  else if wasNeverOpen ∧ (ConnectionManager.getRelayBaseUrl c.wsUrl).isSome ∧ s.status ≠ .device_offline then
    scheduleReconnect c { s with status := .device_offline }
  else scheduleReconnect c s

/-- An event of a socket is noted if it is not the stored one and the status changes or a message
    is dispatched. -/
def noted (s t : Client) (n : Nat) (dispatched : Bool) : Client :=
  { t with foreign := s.foreign || (s.ws != some n && (dispatched || t.status != s.status)) }

end Client

/-- How a health check ends. -/
inductive Health
  | ok
  | notOk
  | fails

inductive Action
  | connect
  | disconnect
  /-- The page becomes visible. -/
  | visible
  | timer (timer : Nat)
  | preflight (health : Health)
  | opens (n : Nat)
  | message (n : Nat) (frame : Client.Frame)
  /-- The peer starts to close. -/
  | closing (n : Nat)
  | closes (n : Nat)

def step (c : Config) (s : Client) : Action → Option Client
  | .connect => some ({ s with ended := false }.connect c)
  | .disconnect => some { s.disconnect with ended := true }
  | .visible =>
    if s.visibilityHandler ∧ (s.status = .reconnecting ∨ s.status = .device_offline) then some (s.clearTimer.connect c)
    else some s
  | .timer timer =>
    if timer ∈ s.timers then some ({ s with timers := s.timers.filter (· ≠ timer), reconnectTimer := none }.connect c) else none
  | .preflight health =>
    match s.preflights with
    | 0 => none
    | preflights + 1 =>
      let s := { s with preflights }
      if s.intentionalClose then some s
      else
        match health with
        | .notOk => some ({ s with status := .device_offline }.scheduleReconnect c)
        | .ok | .fails => some s.openWs
  | .opens n =>
    if s.sockets[n]? = some .connecting then some (s.noted { s.onopen with sockets := s.sockets.set n .opened } n false) else none
  | .message n frame =>
    if s.sockets[n]? = some .opened then
      some (s.noted (s.onmessage frame) n (match frame with | .notJson => false | .deviceDisconnected | .other => true))
    else none
  | .closing n => if s.sockets[n]? = some .opened then some { s with sockets := s.sockets.set n .closing } else none
  | .closes n =>
    match s.sockets[n]? with
    | some .connecting | some .opened | some .closing =>
      some (s.noted ({ s with sockets := s.sockets.set n .closed }.onclose c) n false)
    | some .closed | none => none

/-- Every socket that is connecting or open is the stored one, nothing of another one reached the
    client, at most one timer is pending, and no socket was opened after a disconnect. -/
structure OneSocket (s : Client) : Prop where
  live : ∀ (n : Nat) (state : ReadyState), s.sockets[n]? = some state → state.live = true → s.ws = some n
  own : s.foreign = false
  timer : s.timers.length ≤ 1
  quiet : s.late = false

/-- A close that was not asked for leaves the status as it is. -/
def Unmoved (c : Config) (s : Client) : Prop :=
  if s.intentionalClose ∨ s.retries c = false then s.status = .disconnected
  else s.status = .reconnecting ∨ s.status = .device_offline

/-- No timer is pending where another one is set. -/
def Waits (c : Config) (s : Client) : Prop := s.intentionalClose = false → s.retries c = true → s.timers = []

/-- A socket that closes is the stored one, or the stored one is not live and the status stays;
    no timer is pending where the next one is set; and no socket is live when a health check lets
    another one be opened. -/
def Keeps (c : Config) (s : Client) : Action → Prop
  | .closes n => (s.ws ≠ some n → s.wsLive = false ∧ Unmoved c s) ∧ Waits c s
  | .preflight .notOk => Waits c s
  | .preflight .ok | .preflight .fails => s.intentionalClose = false → s.wsLive = false
  | _ => True

/-! ### The parts of a step -/

/-- The pending timer is the stored one, and after a disconnect there is none, and nobody listens. -/
structure Tidy (s : Client) : Prop where
  timers : s.timers = s.reconnectTimer.toList
  ended : s.ended = true → s.intentionalClose = true ∧ s.timers = [] ∧ s.visibilityHandler = false

section
variable {c : Config} {s t : Client} {a : Action}

theorem wsLive_iff : s.wsLive = true ↔ ∃ n state, s.ws = some n ∧ s.sockets[n]? = some state ∧ state.live = true := by
  simp only [Client.wsLive,Option.any_eq_true,Option.bind_eq_some_iff]
  constructor
  · rintro ⟨state,⟨n,here,found⟩,live⟩
    exact ⟨n,state,here,found,live⟩
  · rintro ⟨n,state,here,found,live⟩
    exact ⟨state,⟨n,here,found⟩,live⟩

/-- Where the stored socket is not live no socket is. -/
theorem none_live (one : OneSocket s) (idle : s.wsLive = false) (n : Nat) (state : ReadyState) (found : s.sockets[n]? = some state) :
    state.live = false := by
  by_contra live
  have live : state.live = true := by simpa using live
  have stored := wsLive_iff.mpr ⟨n,state,one.live n state found live,found,live⟩
  rw [idle] at stored
  cases stored

/-- A socket is opened alone exactly if none was live. -/
theorem openWs_iff (one : OneSocket s) (running : s.ended = false) : OneSocket s.openWs ↔ s.wsLive = false := by
  constructor
  · intro after
    by_contra live
    obtain ⟨n,state,here,found,live⟩ := wsLive_iff.mp (by simpa using live)
    have bound := (List.getElem?_eq_some_iff.mp found).1
    have still : s.openWs.sockets[n]? = some state := by
      show (s.sockets ++ [_])[n]? = some state
      rw [List.getElem?_append_left bound,found]
    have same : some s.sockets.length = some n := after.live n state still live
    cases same
    exact absurd bound (Nat.lt_irrefl _)
  · intro idle
    refine ⟨?_,one.own,one.timer,?_⟩
    · intro n state found live
      have found : (s.sockets ++ [_])[n]? = some state := found
      rw [List.getElem?_append] at found
      split at found
      · rw [none_live one idle n state found] at live
        cases live
      · rw [List.getElem?_singleton] at found
        split at found
        · show some s.sockets.length = some n
          congr 1
          omega
        · cases found
    · show (s.late || s.ended) = false
      rw [one.quiet,running]
      rfl

theorem openWs_tidy (tidy : Tidy s) : Tidy s.openWs := ⟨tidy.timers,tidy.ended⟩

/-- A timer is set alone exactly if none was pending. -/
theorem scheduleReconnect_timers (c : Config) (few : s.timers.length ≤ 1) :
    (s.scheduleReconnect c).timers.length ≤ 1 ↔ (s.retries c = true → s.timers = []) := by
  unfold Client.scheduleReconnect
  split
  · next retries =>
    show (s.timers ++ [_]).length ≤ 1 ↔ _
    rw [List.length_append,List.length_singleton]
    constructor
    · intro one _
      exact List.eq_nil_of_length_eq_zero (by omega)
    · intro free
      rw [free retries]
      exact Nat.le_refl 1
  · next stays => exact iff_of_true few fun retries => absurd retries stays

theorem scheduleReconnect_rest (c : Config) (s : Client) : ∃ status attempt timer timers counter, s.scheduleReconnect c =
    { s with status := status, reconnectAttempt := attempt, reconnectTimer := timer, timers := timers, timerCounter := counter } := by
  unfold Client.scheduleReconnect
  split
  · exact ⟨_,_,_,_,_,rfl⟩
  · exact ⟨_,s.reconnectAttempt,s.reconnectTimer,s.timers,s.timerCounter,rfl⟩

theorem scheduleReconnect_iff (one : OneSocket s) :
    OneSocket (s.scheduleReconnect c) ↔ (s.retries c = true → s.timers = []) := by
  rw [← scheduleReconnect_timers c one.timer]
  constructor
  · exact OneSocket.timer
  · intro few
    obtain ⟨status,attempt,timer,timers,counter,rest⟩ := scheduleReconnect_rest c s
    rw [rest] at few ⊢
    exact ⟨one.live,one.own,few,one.quiet⟩

theorem scheduleReconnect_tidy (few : (s.scheduleReconnect c).timers.length ≤ 1) (running : s.ended = false)
    (stored : s.timers = s.reconnectTimer.toList) : Tidy (s.scheduleReconnect c) := by
  unfold Client.scheduleReconnect at few ⊢
  split at few
  · next retries =>
    rw [if_pos retries]
    have few : (s.timers ++ [_]).length ≤ 1 := few
    rw [List.length_append,List.length_singleton] at few
    have free : s.timers = [] := List.eq_nil_of_length_eq_zero (by omega)
    refine ⟨?_,fun ended => absurd (running.symm.trans ended) Bool.false_ne_true⟩
    show s.timers ++ [_] = _
    rw [free]
    rfl
  · next stays =>
    rw [if_neg stays]
    exact ⟨stored,fun ended => absurd (running.symm.trans ended) Bool.false_ne_true⟩

theorem scheduleReconnect_status (c : Config) (s : Client) : (s.scheduleReconnect c).status =
    if s.retries c = true then if s.status = .device_offline then s.status else .reconnecting else .disconnected := by
  unfold Client.scheduleReconnect
  split <;> rfl

theorem clearTimer_spec (one : OneSocket s) (tidy : Tidy s) : OneSocket s.clearTimer ∧ Tidy s.clearTimer ∧
    s.clearTimer.timers = [] ∧ s.clearTimer.reconnectTimer = none ∧ s.clearTimer.ended = s.ended ∧
      s.clearTimer.intentionalClose = s.intentionalClose := by
  have timers := tidy.timers
  unfold Client.clearTimer
  cases stored : s.reconnectTimer with
  | none =>
    rw [stored] at timers
    exact ⟨one,tidy,timers,stored,rfl,rfl⟩
  | some timer =>
    rw [stored] at timers
    have none_ : s.timers.filter (· ≠ timer) = [] := by simp [timers]
    dsimp only
    rw [none_]
    exact ⟨⟨one.live,one.own,Nat.zero_le 1,one.quiet⟩,⟨rfl,fun ended => ⟨(tidy.ended ended).1,rfl,(tidy.ended ended).2.2⟩⟩,rfl,rfl,rfl,rfl⟩

/-- A call to `connect` keeps one socket. -/
theorem connect_spec (c : Config) (one : OneSocket s) (tidy : Tidy s) (running : s.ended = false) :
    OneSocket (s.connect c) ∧ Tidy (s.connect c) := by
  unfold Client.connect
  split
  · exact ⟨one,tidy⟩
  · next idle =>
    have idle : s.wsLive = false := by simpa using idle
    have trying : OneSocket ({ s with intentionalClose := false } : Client).trying ∧
        Tidy ({ s with intentionalClose := false } : Client).trying ∧
        ({ s with intentionalClose := false } : Client).trying.wsLive = false ∧
        ({ s with intentionalClose := false } : Client).trying.ended = false := by
      have apart : s.ended = true → False := fun ended => absurd (running.symm.trans ended) Bool.false_ne_true
      unfold Client.trying
      split
      · exact ⟨⟨one.live,one.own,one.timer,one.quiet⟩,⟨tidy.timers,fun ended => (apart ended).elim⟩,idle,running⟩
      · exact ⟨⟨one.live,one.own,one.timer,one.quiet⟩,⟨tidy.timers,fun ended => (apart ended).elim⟩,idle,running⟩
    obtain ⟨one',tidy',idle',running'⟩ := trying
    dsimp only
    split
    · exact ⟨⟨one'.live,one'.own,one'.timer,one'.quiet⟩,⟨tidy'.timers,tidy'.ended⟩⟩
    · exact ⟨(openWs_iff one' running').mpr idle',openWs_tidy tidy'⟩

/-! ### One step -/

/-- A state that keeps one socket if the one before does, and exactly under the condition. -/
def Exact (t : Client) (kept : Prop) : Prop := (OneSocket t ↔ kept) ∧ (OneSocket t → Tidy t)

theorem exact_of (spec : OneSocket t ∧ Tidy t) : Exact t True := ⟨iff_of_true spec.1 trivial,fun _ => spec.2⟩

/-- The stored socket is closing now, and no other one was live. -/
theorem close_gone (one : OneSocket s) (n : Nat) (state : ReadyState) (found : s.close.sockets[n]? = some state) :
    state.live = false := by
  by_contra live
  have live : state.live = true := by simpa using live
  unfold Client.close at found
  cases stored : s.ws with
  | none =>
    rw [stored] at found
    cases stored.symm.trans (one.live n state found live)
  | some m =>
    rw [stored] at found
    have found : (s.sockets.modify m fun state => if state.live then .closing else state)[n]? = some state := found
    rw [List.getElem?_modify] at found
    obtain ⟨old,there,rfl⟩ := Option.map_eq_some_iff.mp found
    by_cases closing : m = n
    · rw [if_pos closing] at live
      cases old <;> cases live
    · rw [if_neg closing] at live
      have here := one.live n old there live
      rw [stored] at here
      exact closing (Option.some.inj here)

theorem close_rest (s : Client) : s.close = { s with sockets := s.close.sockets } := by
  unfold Client.close
  split <;> rfl

theorem disconnect_spec (one : OneSocket s) (tidy : Tidy s) :
    OneSocket { s.disconnect with ended := true } ∧ Tidy { s.disconnect with ended := true } := by
  have meant : OneSocket { s with intentionalClose := true } ∧ Tidy { s with intentionalClose := true } :=
    ⟨⟨one.live,one.own,one.timer,one.quiet⟩,⟨tidy.timers,fun ended => ⟨rfl,(tidy.ended ended).2⟩⟩⟩
  obtain ⟨one',_,timers,timer,_,intentional⟩ := clearTimer_spec meant.1 meant.2
  have gone := close_gone one'
  unfold Client.disconnect
  rw [close_rest]
  refine ⟨⟨?_,one'.own,one'.timer,one'.quiet⟩,?_,fun _ => ⟨intentional,timers,rfl⟩⟩
  · intro n state found live
    cases (gone n state found).symm.trans live
  · show Client.timers _ = Option.toList (Client.reconnectTimer _)
    rw [timers,timer]
    rfl

/-- An event of a live socket is one of the stored socket. -/
theorem noted_own (one : OneSocket s) {n : Nat} {state : ReadyState} (found : s.sockets[n]? = some state) (live : state.live = true)
    (t : Client) (dispatched : Bool) : (s.noted t n dispatched).foreign = false := by
  have stored := one.live n state found live
  show (s.foreign || (s.ws != some n && _)) = false
  rw [one.own,stored]
  simp

theorem live_set (one : OneSocket s) {n : Nat} {state : ReadyState} (found : s.sockets[n]? = some state) {next : ReadyState}
    (less : next.live = true → state.live = true) (m : Nat) (state' : ReadyState) (found' : (s.sockets.set n next)[m]? = some state')
    (live : state'.live = true) : s.ws = some m ∧ (m = n → next.live = true) := by
  rw [Tasks.getElem?_set_eq found] at found'
  by_cases same : m = n
  · subst same
    rw [if_pos rfl] at found'
    cases found'
    exact ⟨one.live m state found (less live),fun _ => live⟩
  · rw [if_neg same] at found'
    exact ⟨one.live m state' found' live,fun other => absurd other same⟩

theorem opens_spec (one : OneSocket s) (tidy : Tidy s) {n : Nat} (found : s.sockets[n]? = some .connecting) :
    OneSocket (s.noted { s.onopen with sockets := s.sockets.set n .opened } n false) ∧
      Tidy (s.noted { s.onopen with sockets := s.sockets.set n .opened } n false) := by
  refine ⟨⟨?_,noted_own one found rfl _ _,one.timer,one.quiet⟩,tidy.timers,tidy.ended⟩
  intro m state found' live
  exact (live_set one found (fun _ => rfl) m state found' live).1

theorem message_spec (one : OneSocket s) (tidy : Tidy s) {n : Nat} (found : s.sockets[n]? = some .opened) (frame : Client.Frame)
    (dispatched : Bool) : OneSocket (s.noted (s.onmessage frame) n dispatched) ∧ Tidy (s.noted (s.onmessage frame) n dispatched) := by
  have own := noted_own one found rfl (s.onmessage frame) dispatched
  cases frame <;> exact ⟨⟨one.live,own,one.timer,one.quiet⟩,tidy.timers,tidy.ended⟩

theorem closing_spec (one : OneSocket s) (tidy : Tidy s) {n : Nat} (found : s.sockets[n]? = some .opened) :
    OneSocket { s with sockets := s.sockets.set n .closing } ∧ Tidy { s with sockets := s.sockets.set n .closing } := by
  refine ⟨⟨?_,one.own,one.timer,one.quiet⟩,tidy.timers,tidy.ended⟩
  intro m state found' live
  exact (live_set one found (fun none_ => by cases none_) m state found' live).1

theorem preflight_exact (one : OneSocket s) (tidy : Tidy s) (health : Health) (preflights : Nat)
    (stepped : step c s (.preflight health) = some t) (left : s.preflights = preflights + 1) :
    Exact t (Keeps c s (.preflight health)) := by
  have apart : OneSocket { s with preflights } ∧ Tidy { s with preflights } :=
    ⟨⟨one.live,one.own,one.timer,one.quiet⟩,tidy.timers,tidy.ended⟩
  simp only [step,left] at stepped
  by_cases intentional : s.intentionalClose = true
  · rw [if_pos intentional] at stepped
    cases stepped
    refine ⟨iff_of_true apart.1 ?_,fun _ => apart.2⟩
    cases health <;> exact fun other => absurd (other.symm.trans intentional) Bool.false_ne_true
  · rw [if_neg intentional] at stepped
    have meant : s.intentionalClose = false := by simpa using intentional
    have running : s.ended = false := by
      by_contra ended
      exact intentional (tidy.ended (by simpa using ended)).1
    have opened : Exact ({ s with preflights } : Client).openWs (s.intentionalClose = false → s.wsLive = false) := by
      refine ⟨(openWs_iff apart.1 running).trans ?_,fun _ => openWs_tidy apart.2⟩
      exact ⟨fun idle _ => idle,fun idle => idle meant⟩
    cases health with
    | ok => cases stepped; exact opened
    | fails => cases stepped; exact opened
    | notOk =>
      cases stepped
      have offline : OneSocket ({ s with preflights, status := .device_offline } : Client) ∧
          Tidy ({ s with preflights, status := .device_offline } : Client) :=
        ⟨⟨one.live,one.own,one.timer,one.quiet⟩,tidy.timers,tidy.ended⟩
      refine ⟨(scheduleReconnect_iff offline.1).trans ?_,fun after => scheduleReconnect_tidy after.timer running offline.2.timers⟩
      exact ⟨fun free _ retries => free retries,fun free retries => free meant retries⟩

theorem onclose_asked (c : Config) (intentional : s.intentionalClose = true) :
    s.onclose c = { s with ws := none, status := .disconnected } := by
  unfold Client.onclose
  exact if_pos intentional

/-- The status in which a close that was not asked for finds the client. -/
def lost (c : Config) (s : Client) : ConnectionStatus :=
  if s.status = .connecting ∧ (ConnectionManager.getRelayBaseUrl c.wsUrl).isSome then .device_offline else s.status

theorem onclose_lost (c : Config) (meant : s.intentionalClose = false) :
    s.onclose c = Client.scheduleReconnect c { s with ws := none, status := lost c s } := by
  unfold Client.onclose lost
  dsimp only
  rw [if_neg (by rw [meant]; exact Bool.false_ne_true)]
  by_cases never : s.status = .connecting ∧ (ConnectionManager.getRelayBaseUrl c.wsUrl).isSome
  · rw [if_pos never,if_pos ⟨.inl never.1,never.2,by rw [never.1]; decide⟩]
  · rw [if_neg never,if_neg]
    rintro ⟨trying | offline,relay,online⟩
    · exact never ⟨trying,relay⟩
    · exact online offline

theorem lost_cases (c : Config) (s : Client) : lost c s = s.status ∨ s.status = .connecting ∧ lost c s = .device_offline := by
  unfold lost
  split
  · next never => exact .inr ⟨never.1,rfl⟩
  · exact .inl rfl

theorem onclose_rest (c : Config) (s : Client) : ∃ status attempt timer timers counter, s.onclose c =
    { s with ws := none, status := status, reconnectAttempt := attempt, reconnectTimer := timer, timers := timers, timerCounter := counter } := by
  by_cases intentional : s.intentionalClose = true
  · exact ⟨_,_,_,_,_,onclose_asked c intentional⟩
  · rw [onclose_lost c (by simpa using intentional)]
    obtain ⟨status,attempt,timer,timers,counter,rest⟩ := scheduleReconnect_rest c { s with ws := none, status := lost c s }
    exact ⟨status,attempt,timer,timers,counter,rest⟩

theorem onclose_status (c : Config) (s : Client) : (s.onclose c).status = s.status ↔ Unmoved c s := by
  unfold Unmoved
  by_cases intentional : s.intentionalClose = true
  · rw [onclose_asked c intentional,if_pos (.inl intentional)]
    exact eq_comm
  · rw [onclose_lost c (by simpa using intentional),scheduleReconnect_status]
    show (if s.retries c = true then if lost c s = .device_offline then lost c s else .reconnecting else .disconnected) = s.status ↔ _
    by_cases retries : s.retries c = true
    · have again : ¬ (s.intentionalClose = true ∨ s.retries c = false) := by
        rintro (asked | stays)
        · exact intentional asked
        · cases stays.symm.trans retries
      rw [if_pos retries,if_neg again]
      rcases lost_cases c s with same | ⟨trying,offline⟩
      · rw [same]
        by_cases offline : s.status = .device_offline
        · simp [offline]
        · simp only [offline,if_false,or_false]
          exact eq_comm
      · rw [offline,trying]
        decide
    · rw [if_neg retries,if_pos (.inr (by simpa using retries))]
      exact eq_comm

/-- A close is followed by the setting of a timer, if it was not asked for. -/
theorem onclose_timers (c : Config) (few : s.timers.length ≤ 1) : (s.onclose c).timers.length ≤ 1 ↔ Waits c s := by
  unfold Waits
  by_cases intentional : s.intentionalClose = true
  · rw [onclose_asked c intentional]
    exact iff_of_true few fun meant => absurd (meant.symm.trans intentional) Bool.false_ne_true
  · have meant : s.intentionalClose = false := by simpa using intentional
    have scheduled := scheduleReconnect_timers (s := { s with ws := none, status := lost c s }) c few
    rw [onclose_lost c meant]
    exact scheduled.trans ⟨fun free _ => free,fun free => free meant⟩

theorem onclose_tidy (tidy : Tidy s) (few : (s.onclose c).timers.length ≤ 1) : Tidy (s.onclose c) := by
  by_cases intentional : s.intentionalClose = true
  · rw [onclose_asked c intentional]
    exact ⟨tidy.timers,fun ended => ⟨intentional,(tidy.ended ended).2⟩⟩
  · have meant : s.intentionalClose = false := by simpa using intentional
    have running : s.ended = false := by
      by_contra ended
      exact intentional (tidy.ended (by simpa using ended)).1
    rw [onclose_lost c meant] at few ⊢
    exact scheduleReconnect_tidy few running tidy.timers

/-- A close is fine exactly if it is one of the stored socket, or of no account, and if its timer
    is the only one. -/
theorem closes_exact (one : OneSocket s) (tidy : Tidy s) {n : Nat} {state : ReadyState} (found : s.sockets[n]? = some state) :
    Exact (s.noted ({ s with sockets := s.sockets.set n .closed }.onclose c) n false) (Keeps c s (.closes n)) := by
  have timers := onclose_timers (s := { s with sockets := s.sockets.set n .closed }) c one.timer
  have status := onclose_status c { s with sockets := s.sockets.set n .closed }
  have after := @onclose_tidy c { s with sockets := s.sockets.set n .closed } ⟨tidy.timers,tidy.ended⟩
  obtain ⟨status',attempt,timer,timers',counter,rest⟩ := onclose_rest c { s with sockets := s.sockets.set n .closed }
  rw [rest] at timers status after ⊢
  have timers : timers'.length ≤ 1 ↔ Waits c s := timers
  have status : status' = s.status ↔ Unmoved c s := status
  -- the sockets that are still live are the stored one, and not the one that closes
  have lives : ∀ (m : Nat) (state' : ReadyState), (s.sockets.set n .closed)[m]? = some state' → state'.live = true →
      s.ws = some m ∧ m ≠ n := by
    intro m state' found' live
    have here := live_set one found (fun none_ => by cases none_) m state' found' live
    exact ⟨here.1,fun same => by cases here.2 same⟩
  refine ⟨⟨fun kept => ⟨fun other => ?_,timers.mp kept.timer⟩,?_⟩,fun kept => ?_⟩
  · constructor
    · by_contra live
      obtain ⟨m,state',stored,there,live⟩ := wsLive_iff.mp (by simpa using live)
      have apart : m ≠ n := fun same => other (same ▸ stored)
      have still : (s.sockets.set n .closed)[m]? = some state' := by
        rw [Tasks.getElem?_set_eq found,if_neg apart,there]
      cases kept.live m state' still live
    · have own : (s.foreign || (s.ws != some n && (false || status' != s.status))) = false := kept.own
      rw [one.own] at own
      exact status.mp (by simpa [other] using own)
  · rintro ⟨apart,waits⟩
    refine ⟨fun m state' found' live => ?_,?_,timers.mpr waits,one.quiet⟩
    · obtain ⟨stored,different⟩ := lives m state' found' live
      have other : s.ws ≠ some n := fun same => different (Option.some.inj (stored.symm.trans same))
      have there : s.sockets[m]? = some state' := by
        have found' : (s.sockets.set n .closed)[m]? = some state' := found'
        rwa [Tasks.getElem?_set_eq found,if_neg different] at found'
      have idle := wsLive_iff.mpr ⟨m,state',stored,there,live⟩
      rw [(apart other).1] at idle
      cases idle
    · show (s.foreign || (s.ws != some n && (false || status' != s.status))) = false
      rw [one.own]
      by_cases same : s.ws = some n
      · simp [same]
      · simp [status.mpr (apart same).2]
  · have tidy' := after kept.timer
    exact ⟨tidy'.timers,tidy'.ended⟩

/-- What one step does to one socket. -/
theorem step_exact (one : OneSocket s) (tidy : Tidy s) (stepped : step c s a = some t) : Exact t (Keeps c s a) := by
  cases a with
  | connect =>
    cases stepped
    exact exact_of (connect_spec c ⟨one.live,one.own,one.timer,one.quiet⟩
      ⟨tidy.timers,fun none_ => by cases none_⟩ rfl)
  | disconnect => cases stepped; exact exact_of (disconnect_spec one tidy)
  | visible =>
    simp only [step] at stepped
    split at stepped
    · next listens =>
      cases stepped
      obtain ⟨one',tidy',_,_,ended,_⟩ := clearTimer_spec one tidy
      refine exact_of (connect_spec c one' tidy' ?_)
      rw [ended]
      by_contra over_
      have deaf := (tidy.ended (by simpa using over_)).2.2
      rw [listens.1] at deaf
      cases deaf
    · cases stepped; exact exact_of ⟨one,tidy⟩
  | timer timer =>
    simp only [step] at stepped
    split at stepped
    · next pending =>
      cases stepped
      -- it is the only one
      have alone : s.timers.filter (· ≠ timer) = [] := by
        have stored := tidy.timers
        cases field : s.reconnectTimer with
        | none => rw [stored,field] at pending; cases pending
        | some other =>
          rw [stored,field] at pending ⊢
          have same := List.mem_singleton.mp pending
          simp [same]
      have running : s.ended = false := by
        by_contra over_
        have none_ := (tidy.ended (by simpa using over_)).2.1
        rw [none_] at pending
        cases pending
      rw [alone]
      refine exact_of (connect_spec c ⟨one.live,one.own,Nat.zero_le 1,one.quiet⟩ ⟨rfl,fun ended => ?_⟩ running)
      cases running.symm.trans ended
    · cases stepped
  | preflight health =>
    cases left : s.preflights with
    | zero => simp only [step,left] at stepped; cases stepped
    | succ preflights => exact preflight_exact one tidy health preflights stepped left
  | opens n =>
    simp only [step] at stepped
    split at stepped
    · next found => cases stepped; exact exact_of (opens_spec one tidy found)
    · cases stepped
  | message n frame =>
    simp only [step] at stepped
    split at stepped
    · next found => cases stepped; exact exact_of (message_spec one tidy found frame _)
    · cases stepped
  | closing n =>
    simp only [step] at stepped
    split at stepped
    · next found => cases stepped; exact exact_of (closing_spec one tidy found)
    · cases stepped
  | closes n =>
    simp only [step] at stepped
    split at stepped
    · next found => cases stepped; exact closes_exact one tidy found
    · next found => cases stepped; exact closes_exact one tidy found
    · next found => cases stepped; exact closes_exact one tidy found
    · cases stepped
    · cases stepped

end

theorem start_one : OneSocket start where
  live n state found := by simp [start] at found
  own := rfl
  timer := Nat.zero_le 1
  quiet := rfl

theorem start_tidy : Tidy start := ⟨rfl,fun ended => by cases ended⟩

/-- The client keeps one socket exactly in the runs in which no socket closes behind the stored one,
    no timer is set while another is pending, and no health check finds a live socket. -/
theorem one_socket_iff_along (c : Config) (as : List Action) :
    Always (step c) OneSocket start as ↔ Along (step c) (Keeps c) start as := by
  have keeps : ∀ s a t, (OneSocket s → Tidy s) → OneSocket s → step c s a = some t → (OneSocket t → Tidy t) :=
    fun _ _ _ tidy one stepped => (step_exact one (tidy one) stepped).2
  have exactly : ∀ s a t, (OneSocket s → Tidy s) → OneSocket s → step c s a = some t → (OneSocket t ↔ Keeps c s a) :=
    fun _ _ _ tidy one stepped => (step_exact one (tidy one) stepped).1
  exact always_iff_along_with keeps exactly (fun _ => start_tidy) start_one

/-- Two calls to `connect` while the first health check is in flight open two sockets. -/
theorem two_sockets : ¬ ∀ (c : Config) (as : List Action), Always (step c) OneSocket start as := by
  intro all
  let relay : Config := { wsUrl := "ws://h/d/S/api/ws" }
  let as : List Action := [.connect,.connect,.preflight .ok,.preflight .ok]
  have ran : (run (step relay) start as).map (fun s => (s.sockets,s.ws)) = some ([.connecting,.connecting],some 1) := by
    decide +kernel
  obtain ⟨s,ran,fields⟩ := Option.map_eq_some_iff.mp ran
  have sockets : s.sockets = [.connecting,.connecting] := congrArg Prod.fst fields
  have one : OneSocket s := always_last (all relay as) ran
  have first := one.live 0 .connecting (by rw [sockets]; rfl) rfl
  have second := one.live 1 .connecting (by rw [sockets]; rfl) rfl
  cases first.symm.trans second

end Sctl.WsClient
