import Sctl.Runs
import Sctl.Tables

/-!
The count of event streams (`server/src/routes/events.rs`). `event_stream` reads it and
adds to it in two steps; the end of the stream inside, the wrapper that sees this end and
the wrapper's drop each take from it. A step here is one access to the count.
-/
namespace Sctl.EventStreams
open Runs

/-- `MAX_SSE_CONNECTIONS`. -/
def maxSseConnections : UInt32 := 64

/-- What the receiver of the broadcast channel gives when it is polled. -/
inductive Received
  | pending
  | value
  | lagged
  | closed

/-- `DropCounterStream`, and whether the stream inside has come to its end. -/
structure DropCounterStream where
  innerEnded : Bool
  decremented : Bool
deriving DecidableEq

/-- Where a request stands. -/
inductive Request
  /-- The count was below the limit when it was read. -/
  | checked
  | rejected
  | streaming (stream : DropCounterStream)
  | dropped

structure State where
  sseConnections : UInt32
  /-- A sender of the channel is left. -/
  open_ : Bool
  requests : List Request
  /-- A decrement has found the count at zero. -/
  wrapped : Bool

def start : State := ⟨0,true,[],false⟩

inductive Action
  /-- A request comes in and reads the count. -/
  | load
  /-- It counts itself in, and its stream is made. -/
  | add (i : Nat)
  /-- The stream inside is polled. -/
  | poll (i : Nat) (found : Received)
  /-- The poll goes on in the wrapper, which sees that the stream inside has ended. -/
  | seeEnd (i : Nat)
  | drop (i : Nat)
  /-- The last sender is gone. -/
  | close

/-- The `fetch_sub`. -/
def State.decrement (s : State) : State :=
  { s with sseConnections := s.sseConnections - 1, wrapped := s.wrapped || s.sseConnections == 0 }

def State.put (s : State) (i : Nat) (request : Request) : State := { s with requests := s.requests.set i request }

def step (s : State) : Action → Option State
  | .load =>
    let current := s.sseConnections
    some { s with requests := s.requests ++ [if maxSseConnections ≤ current then .rejected else .checked] }
  | .add i =>
    match s.requests[i]? with
    | some .checked => some ({ s with sseConnections := s.sseConnections + 1 }.put i (.streaming ⟨false,false⟩))
    | _ => none
  | .poll i found =>
    match s.requests[i]? with
    | some (.streaming ⟨false,decremented⟩) =>
      match found with
      | .closed => if s.open_ then none else some (s.decrement.put i (.streaming ⟨true,decremented⟩))
      | _ => some s
    | _ => none
  | .seeEnd i =>
    match s.requests[i]? with
    | some (.streaming ⟨true,false⟩) => some (s.decrement.put i (.streaming ⟨true,true⟩))
    | _ => none
  | .drop i =>
    match s.requests[i]? with
    | some (.streaming ⟨innerEnded,decremented⟩) =>
      -- a poll that has begun goes on to its end first
      if innerEnded = true ∧ decremented = false then none
      else some ((if decremented then s else s.decrement).put i .dropped)
    | _ => none
  | .close => some { s with open_ := false }

/-- The request was accepted and its stream has neither ended nor been dropped. -/
def isOpen : Request → Bool
  | .streaming stream => !stream.innerEnded
  | _ => false

def openStreams (s : State) : Nat := s.requests.countP isOpen

/-- The count is that of the open streams, has never gone below zero and is within the limit. -/
structure Counted (s : State) : Prop where
  exact_ : s.sseConnections.toNat = openStreams s
  unwrapped : s.wrapped = false
  limited : s.sseConnections ≤ maxSseConnections

/-- The step counts a request in below the limit, and no stream is seen to its end. -/
def Safe (s : State) : Action → Prop
  | .add _ => openStreams s < 64
  | .seeEnd _ => False
  | _ => True

/-! ### What a step does to the count -/

section Steps
variable {s t : State} {i : Nat} {request next : Request}

theorem openStreams_put (found : s.requests[i]? = some request) (next : Request) :
    openStreams (s.put i next) + (if isOpen request then 1 else 0) = openStreams s + if isOpen next then 1 else 0 := by
  obtain ⟨before,after,whole,-,set⟩ := Tasks.set_split found next
  simp only [openStreams,State.put,set]
  rw [whole,List.countP_append,List.countP_append,List.countP_cons,List.countP_cons]
  omega

/-- A stream that was open takes one from the count when it ends or goes. -/
theorem Counted.leave (counted : Counted s) (found : s.requests[i]? = some request) (was : isOpen request = true)
    (closed : isOpen next = false) : Counted (s.decrement.put i next) := by
  have streams := openStreams_put found next
  simp only [was,closed,if_true,Bool.false_eq_true,if_false] at streams
  have count := counted.exact_
  have some_ : 1 ≤ s.sseConnections.toNat := by omega
  have less : (s.sseConnections - 1).toNat = s.sseConnections.toNat - 1 := UInt32.toNat_sub_of_le _ _ some_
  have limit : s.sseConnections.toNat ≤ 64 := counted.limited
  refine ⟨?_,?_,?_⟩
  · show (s.sseConnections - 1).toNat = openStreams (s.put i next)
    omega
  · have nonzero : s.sseConnections ≠ 0 := by
      intro zero
      rw [zero] at some_
      exact absurd some_ (by decide)
    show (s.wrapped || s.sseConnections == 0) = false
    simp [counted.unwrapped,nonzero]
  · show (s.sseConnections - 1).toNat ≤ 64
    omega

/-- Where none was open, one is taken too many. -/
theorem Counted.not_twice (counted : Counted s) (found : s.requests[i]? = some request) (was : isOpen request = false)
    (closed : isOpen next = false) : ¬ Counted (s.decrement.put i next) := by
  intro again
  have streams := openStreams_put found next
  simp only [was,closed,Bool.false_eq_true,if_false] at streams
  have count := counted.exact_
  have count' : (s.sseConnections - 1).toNat = openStreams (s.put i next) := again.exact_
  have nonzero : (s.wrapped || s.sseConnections == 0) = false := again.unwrapped
  simp only [Bool.or_eq_false_iff,beq_eq_false_iff_ne] at nonzero
  have some_ : 1 ≤ s.sseConnections.toNat := by
    rcases Nat.eq_zero_or_pos s.sseConnections.toNat with zero | some_
    · exact absurd (UInt32.toNat_inj.mp zero) nonzero.2
    · exact some_
  have less : (s.sseConnections - 1).toNat = s.sseConnections.toNat - 1 := UInt32.toNat_sub_of_le _ _ some_
  omega

/-- What is no open stream, before or after, leaves the count right. -/
theorem Counted.keep (counted : Counted s) (found : s.requests[i]? = some request) (was : isOpen request = false)
    (closed : isOpen next = false) : Counted (s.put i next) := by
  have streams := openStreams_put found next
  simp only [was,closed,Bool.false_eq_true,if_false] at streams
  exact ⟨counted.exact_.trans streams.symm,counted.unwrapped,counted.limited⟩

/-- A request that counts itself in keeps to the limit exactly when fewer streams are open. -/
theorem Counted.add_iff (counted : Counted s) (found : s.requests[i]? = some .checked) :
    Counted ({ s with sseConnections := s.sseConnections + 1 }.put i (.streaming ⟨false,false⟩)) ↔ openStreams s < 64 := by
  have streams := openStreams_put found (.streaming ⟨false,false⟩)
  simp only [isOpen,Bool.not_false,if_true,Bool.false_eq_true,if_false] at streams
  have count := counted.exact_
  have limit : s.sseConnections.toNat ≤ 64 := counted.limited
  have more : (s.sseConnections + 1).toNat = s.sseConnections.toNat + 1 := by
    rw [UInt32.toNat_add]
    exact Nat.mod_eq_of_lt (show s.sseConnections.toNat + 1 < 2 ^ 32 by omega)
  constructor
  · intro again
    have limit' : (s.sseConnections + 1).toNat ≤ 64 := again.limited
    omega
  · intro room
    refine ⟨?_,counted.unwrapped,?_⟩
    · show (s.sseConnections + 1).toNat = openStreams (s.put i (.streaming ⟨false,false⟩))
      omega
    · show (s.sseConnections + 1).toNat ≤ 64
      omega

/-- The wrapper takes from the count only after the stream inside has ended. -/
def Request.Sound : Request → Prop
  | .streaming stream => stream.decremented = true → stream.innerEnded = true
  | _ => True

def Sound (s : State) : Prop := ∀ request ∈ s.requests, request.Sound

theorem sound_put (sound : Sound s) (same : t.requests = s.requests.set i next) (sound' : next.Sound) : Sound t := by
  intro request member
  rw [same] at member
  rcases List.mem_or_eq_of_mem_set member with member | rfl
  · exact sound request member
  · exact sound'

theorem sound_step (s : State) (a : Action) (t : State) (sound : Sound s) (stepped : step s a = some t) : Sound t := by
  cases a with
  | load =>
    cases stepped
    intro request member
    rcases List.mem_append.mp member with member | member
    · exact sound request member
    · rw [List.mem_singleton.mp member]
      split <;> trivial
  | add i =>
    simp only [step] at stepped
    split at stepped
    · cases stepped
      exact sound_put sound rfl nofun
    · cases stepped
  | poll i received =>
    simp only [step] at stepped
    split at stepped
    · next decremented found =>
      cases received with
      | closed =>
        simp only [Option.ite_none_left_eq_some] at stepped
        cases stepped.2
        exact sound_put sound rfl fun _ => rfl
      | _ => cases stepped; exact sound
    · cases stepped
  | seeEnd i =>
    simp only [step] at stepped
    split at stepped
    · cases stepped
      exact sound_put sound rfl fun _ => rfl
    · cases stepped
  | drop i =>
    simp only [step] at stepped
    split at stepped
    · split at stepped
      · cases stepped
      · cases stepped
        split
        · exact sound_put sound rfl trivial
        · exact sound_put sound rfl trivial
    · cases stepped
  | close =>
    cases stepped
    exact sound

/-- One step keeps the count right exactly when it is safe. -/
theorem counted_step_iff (s : State) (a : Action) (t : State) (sound : Sound s) (counted : Counted s)
    (stepped : step s a = some t) : Counted t ↔ Safe s a := by
  cases a with
  | load =>
    cases stepped
    have streams : openStreams { s with requests := s.requests ++ [if maxSseConnections ≤ s.sseConnections then .rejected else .checked] } =
        openStreams s := by
      simp only [openStreams,List.countP_append]
      split <;> rfl
    exact iff_of_true ⟨counted.exact_.trans streams.symm,counted.unwrapped,counted.limited⟩ trivial
  | add i =>
    simp only [step] at stepped
    split at stepped
    · next found =>
      cases stepped
      exact counted.add_iff found
    · cases stepped
  | poll i received =>
    simp only [step] at stepped
    split at stepped
    · next decremented found =>
      cases received with
      | closed =>
        simp only [Option.ite_none_left_eq_some] at stepped
        cases stepped.2
        exact iff_of_true (counted.leave found rfl rfl) trivial
      | _ => cases stepped; exact iff_of_true counted trivial
    · cases stepped
  | seeEnd i =>
    simp only [step] at stepped
    split at stepped
    · next found =>
      cases stepped
      exact iff_of_false (counted.not_twice found rfl rfl) id
    · cases stepped
  | drop i =>
    simp only [step] at stepped
    split at stepped
    · next innerEnded decremented found =>
      split at stepped
      · cases stepped
      · next whole =>
        cases stepped
        refine iff_of_true ?_ trivial
        cases decremented with
        | true =>
          -- the end of the stream has been counted
          have ended : innerEnded = true := sound _ (List.mem_of_getElem? found) rfl
          exact counted.keep found (by simp [isOpen,ended]) rfl
        | false =>
          have running : innerEnded = false := by simpa using whole
          exact counted.leave found (by simp [isOpen,running]) rfl
    · cases stepped
  | close =>
    cases stepped
    exact iff_of_true ⟨counted.exact_,counted.unwrapped,counted.limited⟩ trivial

end Steps

/-- The count is right throughout a run exactly when every request is counted in below the
    limit and no stream is seen to its end. -/
theorem streams_counted_iff (as : List Action) : Always step Counted start as ↔ Along step Safe start as :=
  always_iff_along sound_step counted_step_iff (fun _ member => absurd member List.not_mem_nil) ⟨rfl,rfl,by decide⟩

/-- A stream that ends because the channel is closed takes two from the count of one. -/
theorem ended_twice : ¬ ∀ as : List Action, Always step Counted start as := by
  intro claim
  have ended : run step start [.load,.add 0,.close,.poll 0 .closed,.seeEnd 0] =
      some ⟨4294967295,false,[.streaming ⟨true,true⟩],true⟩ := rfl
  exact absurd (always_last (claim _) ended).unwrapped (by decide)

end Sctl.EventStreams
