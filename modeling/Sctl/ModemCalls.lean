import Sctl.AtResponses
import Sctl.GpsPoller
import Sctl.Runs
import Sctl.Servers

/-!
Commands to the modem (`server/src/modem.rs`): every handle of a modem sends its requests
to one I/O thread through a channel for 32 of them, and the thread executes one at a
time. It may die while it logs a response. A caller may be dropped wherever it waits;
its command is executed all the same once it is in the channel.
-/
namespace Sctl.ModemCalls
open Runs AtResponses

structure AtRequest where
  command : Text
  /-- In seconds. -/
  timeout : Nat

abbrev State := Servers.State AtRequest (Except String Text)

def capacity : Nat := 32

inductive Action
  | commandWithTimeout (command : Text) (timeout : Nat)
  | send (n : Nat)
  | take
  /-- The thread executes its command, with what the port does meanwhile. -/
  | execute (call : Call) (turns : List Turn)
  | abandon (n : Nat)
  /-- Every handle is gone. -/
  | close

/-- `command`. -/
def Action.command (command : Text) : Action := .commandWithTimeout command 5

/-- The request that the thread executes. -/
def current (s : State) : Option AtRequest :=
  match s.worker with
  | .busy n => s.requests[n]?
  | _ => none

/-- What the thread sends, if it lives. -/
def sentOf : Outcome → Option (Except String Text)
  | .replied result => some result
  | .panicked => none

def step (debugging : Bool) (s : State) : Action → Option State
  | .commandWithTimeout command timeout => Servers.step capacity s (.call ⟨command,timeout⟩)
  | .send n => Servers.step capacity s (.send n)
  | .take => Servers.step capacity s .take
  | .execute call turns =>
    match current s with
    | some request =>
      if call.timeout = request.timeout then
        (handle debugging call turns).bind fun outcome => Servers.step capacity s (.serve (sentOf outcome))
      else none
    | none => none
  | .abandon n => Servers.step capacity s (.abandon n)
  | .close => Servers.step capacity s .stop

/-- What a caller gets. -/
def result (device : String) : Servers.Phase (Except String Text) → Option (Except String Text)
  | .answered result => some result
  | .refused => some (.error ("modem " ++ device ++ " I/O thread gone"))
  | .dropped => some (.error ("modem " ++ device ++ " reply channel dropped"))
  | _ => none

def isAlive (s : State) : Bool := s.worker ≠ .gone

/-- The command of a call was executed, in its own time, with this result. -/
def Executed (s : State) (n : Nat) (result : Except String Text) : Prop :=
  ∃ request, s.requests[n]? = some request ∧ ∃ call turns, call.timeout = request.timeout ∧ executeAt call turns = some result

/-- What every run keeps. -/
structure Answered (debugging : Bool) (device : String) (s : State) : Prop where
  served : Servers.Served capacity s
  /-- A caller gets what the port answered to its own command, or learns that the thread is gone, which it is. -/
  own : ∀ n phase r, s.phase n = some phase → result device phase = some r →
    Executed s n r ∨ (isAlive s = false ∧ ∃ e, r = .error e ∧ GpsPoller.channelGone e.toList = true)
  /-- The thread dies of nothing but a response that it cannot log. -/
  died : ∀ n, (n,none) ∈ s.served → debugging = true ∧ ∃ resp, Executed s n (.ok resp) ∧ excerpt resp = none

variable {debugging : Bool} {device : String} {s t : State} {n : Nat}

/-- A dead thread is recognized by its errors. -/
theorem channelGone_result {phase : Servers.Phase (Except String Text)} {r : Except String Text}
    (gone : phase = .refused ∨ phase = .dropped) (told : result device phase = some r) :
    ∃ e, r = .error e ∧ GpsPoller.channelGone e.toList = true := by
  rcases gone with rfl | rfl
  · cases told
    refine ⟨_,rfl,?_⟩
    rw [GpsPoller.channelGone,Bool.or_eq_true]
    exact .inl (Texts.contains_iff.mpr ⟨("modem " ++ device ++ " ").toList,[],by simp [String.toList_append]⟩)
  · cases told
    refine ⟨_,rfl,?_⟩
    rw [GpsPoller.channelGone,Bool.or_eq_true]
    exact .inr (Texts.contains_iff.mpr ⟨("modem " ++ device ++ " ").toList,[],by simp [String.toList_append]⟩)

theorem Executed.mono {r : Except String Text} (more : s.requests <+: t.requests) (executed : Executed s n r) : Executed t n r := by
  obtain ⟨request,found,how⟩ := executed
  obtain ⟨later,split⟩ := more
  refine ⟨request,?_,how⟩
  rw [← split,List.getElem?_append_left (List.getElem?_eq_some_iff.mp found).1]
  exact found

structure Sound (debugging : Bool) (s : State) : Prop where
  sound : Servers.Sound capacity s
  replied : ∀ n r, (n,some r) ∈ s.served → Executed s n r
  died : ∀ n, (n,none) ∈ s.served → debugging = true ∧ ∃ resp, Executed s n (.ok resp) ∧ excerpt resp = none

theorem Sound.answered (sound : Sound debugging s) (device : String) : Answered debugging device s where
  served := sound.sound.served
  own n phase r here told := by
    have gone : phase = .refused ∨ phase = .dropped → isAlive s = false := by
      intro turned
      have dead := sound.sound.served.phases.gone n (by rw [here]; simpa using turned)
      simp [isAlive,dead]
    cases phase with
    | answered reply =>
      cases told
      exact .inl (sound.replied n r (sound.sound.served.phases.own n r here))
    | refused => exact .inr ⟨gone (.inl rfl),channelGone_result (.inl rfl) told⟩
    | dropped => exact .inr ⟨gone (.inr rfl),channelGone_result (.inr rfl) told⟩
    | sending => cases told
    | awaiting => cases told
    | abandoned => cases told
  died := sound.died

/-- A step that executes nothing. -/
theorem Sound.other (sound : Sound debugging s) {a : Servers.Action AtRequest (Except String Text)}
    (stepped : Servers.step capacity s a = some t) (apart : ∀ reply, a ≠ .serve reply) : Sound debugging t := by
  obtain ⟨more,⟨-,same⟩ | ⟨reply,-,serves,-,-⟩⟩ := Servers.step_log stepped
  · refine ⟨Servers.step_sound s a t sound.sound stepped,fun n r member => ?_,fun n member => ?_⟩
    · exact (sound.replied n r (same ▸ member)).mono more
    · obtain ⟨logs,resp,executed,panics⟩ := sound.died n (same ▸ member)
      exact ⟨logs,resp,executed.mono more,panics⟩
  · exact absurd serves (apart reply)

theorem handle_cases {call : Call} {turns : List Turn} {outcome : Outcome} (handled : handle debugging call turns = some outcome) :
    ∃ result, executeAt call turns = some result ∧ (sentOf outcome = some result ∨
      sentOf outcome = none ∧ debugging = true ∧ ∃ resp, result = .ok resp ∧ excerpt resp = none) := by
  unfold handle at handled
  obtain ⟨result,executed,rfl⟩ := Option.map_eq_some_iff.mp handled
  refine ⟨result,executed,?_⟩
  cases result with
  | error e => exact .inl rfl
  | ok resp =>
    by_cases panics : (debugging && (excerpt resp).isNone) = true
    · simp only [if_pos panics]
      rw [Bool.and_eq_true,Option.isNone_iff_eq_none] at panics
      exact .inr ⟨rfl,panics.1,resp,rfl,panics.2⟩
    · simp only [if_neg panics]
      exact .inl rfl

theorem step_sound (s : State) (a : Action) (t : State) (sound : Sound debugging s) (stepped : step debugging s a = some t) :
    Sound debugging t := by
  cases a with
  | execute call turns =>
    simp only [step] at stepped
    cases here : current s with
    | none => rw [here] at stepped; cases stepped
    | some request =>
      rw [here] at stepped
      dsimp only at stepped
      split_ifs at stepped with own
      obtain ⟨outcome,handled,served⟩ := Option.bind_eq_some_iff.mp stepped
      obtain ⟨result,executed,sent⟩ := handle_cases handled
      obtain ⟨more,⟨apart,-⟩ | ⟨reply,n,serves,busy,log⟩⟩ := Servers.step_log served
      · exact absurd rfl (apart _)
      · obtain rfl := Servers.Action.serve.inj serves
        -- the command of the n-th call is the one that was executed
        have here : s.requests[n]? = some request := by rwa [current,busy] at here
        have ran : Executed t n result := Executed.mono more ⟨request,here,call,turns,own,executed⟩
        refine ⟨Servers.step_sound s _ t sound.sound served,fun m r member => ?_,fun m member => ?_⟩
        all_goals
          rw [log] at member
          rcases List.mem_append.mp member with old | new
        · exact (sound.replied m r old).mono more
        · obtain ⟨rfl,told⟩ := Prod.mk.inj (List.mem_singleton.mp new)
          rcases sent with replied | ⟨silent,-⟩
          · rw [replied] at told
            cases told
            exact ran
          · cases told.trans silent
        · obtain ⟨logs,resp,executed,panics⟩ := sound.died m old
          exact ⟨logs,resp,executed.mono more,panics⟩
        · obtain ⟨rfl,told⟩ := Prod.mk.inj (List.mem_singleton.mp new)
          rcases sent with replied | ⟨-,logs,resp,rfl,panics⟩
          · cases told.trans replied
          · exact ⟨logs,resp,ran,panics⟩
  | commandWithTimeout command timeout => exact sound.other (a := .call ⟨command,timeout⟩) stepped (nofun)
  | send n => exact sound.other (a := .send n) stepped (nofun)
  | take => exact sound.other (a := .take) stepped (nofun)
  | abandon n => exact sound.other (a := .abandon n) stepped (nofun)
  | close => exact sound.other (a := .stop) stepped (nofun)

/-- Each caller gets what the modem answered to its own command, whatever the others do. -/
theorem commands_answered (debugging : Bool) (device : String) (as : List Action) :
    Always (step debugging) (Answered debugging device) Servers.start as :=
  always_of_preserves step_sound (fun _ sound => sound.answered device)
    ⟨Servers.start_sound capacity,nofun,nofun⟩

end Sctl.ModemCalls
