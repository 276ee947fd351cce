import Sctl.Runs
import Sctl.LteQuestions

/-!
Band changes that fail, against a modem that keeps a band mask, a priority band and
whether it was deregistered. Any command can fail, one that failed may have taken
effect all the same, and a band write that was answered may have been ignored, as it
is while a data session is active.
-/
namespace Sctl.BandRollbacks
open Texts LteBands LteShared LtePrograms LteQuestions Dialogues Runs

/-- What the modem keeps. -/
@[ext]
structure Radio where
  mask : Nat
  priority : Option Nat
  deregistered : Bool
  small : mask < 2 ^ 128
deriving DecidableEq

/-- A turn of a program, and whether the modem did what it was told. -/
structure Exchange where
  turn : LteTurn
  took : Bool

theorem fromStrRadix_lt {radix limit n : Nat} {text : List Char} (read : fromStrRadix radix limit text = some n)
    (positive : 0 < limit) : n < limit := by
  have digits : ∀ (text : List Char) (value : Nat), value < limit → readDigits radix limit value text = some n → n < limit := by
    intro text
    induction text with
    | nil =>
      intro value below read
      cases read
      exact below
    | cons c rest ih =>
      intro value _ read
      rw [readDigits,Option.bind_eq_some_iff] at read
      obtain ⟨digit,_,read⟩ := read
      split at read
      · next below => exact ih _ below read
      · cases read
  unfold fromStrRadix at read
  split at read
  · cases read
  · cases read
  · exact digits _ 0 positive read
  · exact digits _ 0 positive read

def Radio.setMask (m : Radio) (hex : List Char) : Radio :=
  match read : fromStrRadix 16 (2 ^ 128) hex with
  | some mask => { m with mask := mask, small := fromStrRadix_lt read (by decide) }
  | none => m

/-- What a turn does to the modem. -/
def after (m : Radio) (x : Exchange) : Radio :=
  match x.turn with
  | ⟨.command (.writeBands hex),_⟩ => if x.took then m.setMask hex else m
  | ⟨.command (.writePriority band),answer⟩ =>
    if x.took || answer.value.isSome then { m with priority := if band = 0 then none else some band } else m
  | ⟨.command .deregister,answer⟩ => if x.took || answer.value.isSome then { m with deregistered := true } else m
  | ⟨.command .register,answer⟩ => if x.took || answer.value.isSome then { m with deregistered := false } else m
  | _ => m

/-- What the modem answers to a reading is what it keeps; without a priority it names none, or 0. -/
def tells (m : Radio) (turn : LteTurn) : Bool :=
  match turn with
  | ⟨.command .readBands,answer⟩ => answer.value.all fun reply => parseBandConfig reply = maskBands m.mask
  | ⟨.command .readPriority,answer⟩ => answer.value.all fun reply => (parseBandpri reply).filter (· ≠ 0) = m.priority
  | _ => true

/-- A turn with this modem. -/
def exchange (m : Radio) (x : Exchange) : Option Radio := if tells m x.turn then some (after m x) else none

/-- The exchanges are a whole run of the program that begins with the modem `m`, returns the
    value and leaves it as `m'`. -/
def Plays {α : Type} (program : Lte α) (m : Radio) (xs : List Exchange) (value : α) (m' : Radio) : Prop :=
  program.Ends (xs.map Exchange.turn) value ∧ run exchange m xs = some m'

section
variable {α β : Type} {m m' : Radio} {xs : List Exchange}

theorem exchange_iff {x : Exchange} : exchange m x = some m' ↔ tells m x.turn = true ∧ m' = after m x := by
  unfold exchange
  by_cases told : tells m x.turn = true
  · simp [told,eq_comm]
  · simp [told]

theorem plays_done {found value : α} : Plays (.done found) m xs value m' ↔ xs = [] ∧ found = value ∧ m' = m := by
  constructor
  · rintro ⟨ended,ran⟩
    obtain ⟨none_,same⟩ := Dialogue.ends_done.mp ended
    obtain rfl := List.map_eq_nil_iff.mp none_
    cases ran
    exact ⟨rfl,same,rfl⟩
  · rintro ⟨rfl,rfl,rfl⟩
    exact ⟨rfl,rfl⟩

theorem plays_ask {question : Ask} {next : Answer question → Lte α} {value : α} :
    Plays (.ask question next) m xs value m' ↔ ∃ answer took rest, xs = ⟨⟨question,answer⟩,took⟩ :: rest ∧
      tells m ⟨question,answer⟩ = true ∧ Plays (next answer) (after m ⟨⟨question,answer⟩,took⟩) rest value m' := by
  constructor
  · rintro ⟨ended,ran⟩
    obtain ⟨answer,turns,split,onward⟩ := Dialogue.ends_ask.mp ended
    obtain ⟨⟨turn,took⟩,rest,rfl,rfl,rfl⟩ := List.map_eq_cons_iff.mp split
    obtain ⟨r,stepped,later⟩ := run_cons_iff.mp ran
    obtain ⟨tells,rfl⟩ := exchange_iff.mp stepped
    exact ⟨answer,took,rest,rfl,tells,onward,later⟩
  · rintro ⟨answer,took,rest,rfl,tells,onward,later⟩
    exact ⟨Dialogue.ends_ask.mpr ⟨answer,_,rfl,onward⟩,run_cons_iff.mpr ⟨_,exchange_iff.mpr ⟨tells,rfl⟩,later⟩⟩

theorem plays_bind {first : Lte α} {rest : α → Lte β} {value : β} : Plays (first >>= rest) m xs value m' ↔
    ∃ early late mid r, xs = early ++ late ∧ Plays first m early mid r ∧ Plays (rest mid) r late value m' := by
  constructor
  · rintro ⟨ended,ran⟩
    obtain ⟨early,late,mid,split,before,onward⟩ := Dialogue.ends_bind.mp ended
    obtain ⟨xs,ys,rfl,rfl,rfl⟩ := List.map_eq_append_iff.mp split
    obtain ⟨r,first,second⟩ := run_append_iff.mp ran
    exact ⟨xs,ys,mid,r,rfl,⟨before,first⟩,onward,second⟩
  · rintro ⟨early,late,mid,r,rfl,⟨before,first⟩,onward,second⟩
    exact ⟨Dialogue.ends_bind.mpr ⟨_,_,mid,List.map_append,before,onward⟩,run_append_iff.mpr ⟨r,first,second⟩⟩

theorem plays_send {sent : Command} : Plays (send sent) m xs () m' ↔ ∃ answer took,
    xs = [⟨⟨.command sent,answer⟩,took⟩] ∧ tells m ⟨.command sent,answer⟩ = true ∧ m' = after m ⟨⟨.command sent,answer⟩,took⟩ := by
  unfold send
  rw [plays_ask]
  constructor
  · rintro ⟨answer,took,rest,rfl,told,rest⟩
    obtain ⟨rfl,_,rfl⟩ := plays_done.mp rest
    exact ⟨answer,took,rfl,told,rfl⟩
  · rintro ⟨answer,took,rfl,told,rfl⟩
    exact ⟨answer,took,[],rfl,told,plays_done.mpr ⟨rfl,rfl,rfl⟩⟩

theorem plays_command {sent : Command} {rest : Option (List Char) → Lte α} {value : α} :
    Plays (command sent >>= rest) m xs value m' ↔ ∃ answer took later, xs = ⟨⟨.command sent,answer⟩,took⟩ :: later ∧
      tells m ⟨.command sent,answer⟩ = true ∧ Plays (rest answer.value) (after m ⟨⟨.command sent,answer⟩,took⟩) later value m' :=
  plays_ask

/-- A question that changes nothing of what the modem keeps, and reads nothing of it. -/
def Quiet : Ask → Prop
  | .command (.writeBands _) | .command (.writePriority _) | .command .deregister | .command .register
  | .command .readBands | .command .readPriority => False
  | _ => True

/-- The band writes of a run, and which of them were taken. -/
def taken (xs : List Exchange) : List Bool :=
  xs.filterMap fun x => match x.turn.question with
    | .command (.writeBands _) => some x.took
    | _ => none

theorem after_quiet {x : Exchange} (quiet : Quiet x.turn.question) : after m x = m := by
  obtain ⟨⟨question,answer⟩,took⟩ := x
  cases question with
  | command command =>
    cases command with
    | writeBands hex => exact quiet.elim
    | writePriority band => exact quiet.elim
    | deregister => exact quiet.elim
    | register => exact quiet.elim
    | _ => rfl
  | _ => rfl

theorem plays_quiet {program : Lte α} {value : α} (asks : Asks Quiet program fun _ => True)
    (played : Plays program m xs value m') : m' = m ∧ taken xs = [] := by
  induction program generalizing m xs with
  | done found =>
    obtain ⟨rfl,_,rfl⟩ := plays_done.mp played
    exact ⟨rfl,rfl⟩
  | ask question next ih =>
    obtain ⟨answer,took,rest,rfl,_,onward⟩ := plays_ask.mp played
    rw [after_quiet (x := ⟨⟨question,answer⟩,took⟩) asks.1] at onward
    obtain ⟨rfl,none_⟩ := ih answer (asks.2 answer) onward
    refine ⟨rfl,?_⟩
    unfold taken at none_ ⊢
    rw [List.filterMap_cons_none,none_]
    have quiet := asks.1
    cases question with
    | command command =>
      cases command with
      | writeBands hex => exact quiet.elim
      | _ => rfl
    | _ => rfl

/-! ### A verified write -/

theorem bandMask_lt (bands : List Nat) : bandMask bands < 2 ^ 128 := by
  apply Nat.lt_pow_two_of_testBit
  intro bit large
  rw [testBit_bandMask]
  simp
  omega

/-- The modem with these bands. -/
def Radio.tuned (m : Radio) (bands : List Nat) : Radio := { m with mask := bandMask bands, small := bandMask_lt bands }

theorem setMask_bandsToHex (bands : List Nat) : m.setMask (bandsToHex bands) = m.tuned bands := by
  have read : fromStrRadix 16 (2 ^ 128) (bandsToHex bands) = some (bandMask bands) := fromStrRadix_upperHex (bandMask_lt bands)
  unfold Radio.setMask
  split
  · next mask found =>
    cases found.symm.trans read
    rfl
  · next none_ => cases none_.symm.trans read

/-- The bands that are read are the ones asked for. -/
theorem read_iff {bands : List Nat} : bandsToHex (maskBands m.mask) = bandsToHex bands ↔ m.mask = bandMask bands := by
  constructor
  · intro same
    have masks := upperHex_injective same
    rwa [bandMask_maskBands m.small] at masks
  · intro same
    rw [bandsToHex,bandMask_maskBands m.small,same]
    rfl

theorem plays_require {sent : Command} {rest : List Char → Lte (Option α)} {value : Option α} :
    Plays (require sent rest) m xs value m' ↔ ∃ answer took later, xs = ⟨⟨.command sent,answer⟩,took⟩ :: later ∧
      tells m ⟨.command sent,answer⟩ = true ∧
      (answer.value = none ∧ later = [] ∧ value = none ∧ m' = after m ⟨⟨.command sent,answer⟩,took⟩ ∨
        ∃ response, answer.value = some response ∧
          Plays (rest response) (after m ⟨⟨.command sent,answer⟩,took⟩) later value m') := by
  refine plays_ask.trans (exists_congr fun answer => exists_congr fun took => exists_congr fun later => ?_)
  refine and_congr_right fun _ => and_congr_right fun _ => ?_
  obtain ⟨instant,epoch,reply⟩ := answer
  cases reply with
  | none =>
    show Plays (.done none) _ _ _ _ ↔ _
    rw [plays_done]
    simp [eq_comm]
  | some response =>
    show Plays (rest response) _ _ _ _ ↔ _
    simp

/-- `verified_set_bands` from the deregistration on. -/
def retrySetBands (bands : List Nat) : Lte (Option VerifiedSetResult) := do
  send .deregister
  sleep (secs 1 / 2)
  require (.writeBands (bandsToHex bands)) fun _ =>
    require .readBands fun again =>
      if bandsToHex (parseBandConfig again) = bandsToHex bands then
        pure (some ⟨parseBandConfig again,true⟩)
      else do
        send .register
        pure none

/-- The modem after a band write. -/
def written (m : Radio) (bands : List Nat) (took : Bool) : Radio := if took then m.tuned bands else m

theorem after_write {bands : List Nat} {answer : Answer (.command (.writeBands (bandsToHex bands)))} {took : Bool} :
    after m ⟨⟨.command (.writeBands (bandsToHex bands)),answer⟩,took⟩ = written m bands took := by
  simp only [after,written,setMask_bandsToHex]

/-- What the modem reads back as. -/
theorem told_bands {answer : Answer (.command .readBands)} {reply : List Char} (told : tells m ⟨.command .readBands,answer⟩ = true)
    (answered : answer.value = some reply) : parseBandConfig reply = maskBands m.mask := by
  simpa [tells,answered] using told

/-- The first stage of a verified write: it fails, is done, or goes on with the retry. -/
theorem verified_plays {bands : List Nat} {result : Option VerifiedSetResult}
    (played : Plays (verifiedSetBands bands) m xs result m') : ∃ write took later,
      xs = ⟨⟨.command (.writeBands (bandsToHex bands)),write⟩,took⟩ :: later ∧
      (write.value = none ∧ later = [] ∧ result = none ∧ m' = written m bands took ∨
        ∃ pause paused read quiet rest, write.value.isSome = true ∧
          later = ⟨⟨.sleep (secs 1),pause⟩,paused⟩ :: ⟨⟨.command .readBands,read⟩,quiet⟩ :: rest ∧
          (read.value = none ∧ rest = [] ∧ result = none ∧ m' = written m bands took ∨
            read.value.isSome = true ∧ (written m bands took).mask = bandMask bands ∧ rest = [] ∧ result.isSome = true ∧
              m' = written m bands took ∨
            read.value.isSome = true ∧ (written m bands took).mask ≠ bandMask bands ∧
              Plays (retrySetBands bands) (written m bands took) rest result m')) := by
  obtain ⟨write,took,later,rfl,_,⟨failed,rfl,rfl,rfl⟩ | ⟨_,wrote,onward⟩⟩ := plays_require.mp played
  · exact ⟨write,took,[],rfl,.inl ⟨failed,rfl,rfl,after_write⟩⟩
  · rw [after_write] at onward
    obtain ⟨pause,paused,later,rfl,_,onward⟩ := plays_ask.mp onward
    obtain ⟨read,quiet,rest,rfl,told,back⟩ := plays_require.mp onward
    refine ⟨write,took,_,rfl,.inr ⟨pause,paused,read,quiet,rest,by simp [wrote],rfl,?_⟩⟩
    rcases back with ⟨failed,rfl,rfl,rfl⟩ | ⟨response,answered,checked⟩
    · exact .inl ⟨failed,rfl,rfl,rfl⟩
    · have shown := told_bands told answered
      have same : bandsToHex (parseBandConfig response) = bandsToHex bands ↔ (written m bands took).mask = bandMask bands := by
        rw [shown]
        exact read_iff
      by_cases fits : (written m bands took).mask = bandMask bands
      · rw [if_pos (same.mpr fits)] at checked
        obtain ⟨rfl,rfl,rfl⟩ := plays_done.mp checked
        exact .inr (.inl ⟨by simp [answered],fits,rfl,rfl,rfl⟩)
      · rw [if_neg (mt same.mp fits)] at checked
        exact .inr (.inr ⟨by simp [answered],fits,checked⟩)

/-- The modem after a command that it obeyed or not. -/
def told (m : Radio) (deregistered obeyed : Bool) : Radio := if obeyed then { m with deregistered := deregistered } else m

/-- The retry. -/
theorem retry_plays {bands : List Nat} {result : Option VerifiedSetResult} (played : Plays (retrySetBands bands) m xs result m') :
    ∃ off obeyed pause paused write took later, xs = ⟨⟨.command .deregister,off⟩,obeyed⟩ :: ⟨⟨.sleep (secs 1 / 2),pause⟩,paused⟩ ::
        ⟨⟨.command (.writeBands (bandsToHex bands)),write⟩,took⟩ :: later ∧
      ∃ r, r = written (told m true (obeyed || off.value.isSome)) bands took ∧
      (write.value = none ∧ later = [] ∧ result = none ∧ m' = r ∨
        ∃ read quiet rest, write.value.isSome = true ∧ later = ⟨⟨.command .readBands,read⟩,quiet⟩ :: rest ∧
          (read.value = none ∧ rest = [] ∧ result = none ∧ m' = r ∨
            read.value.isSome = true ∧ r.mask = bandMask bands ∧ rest = [] ∧ result.isSome = true ∧ m' = r ∨
            read.value.isSome = true ∧ r.mask ≠ bandMask bands ∧ result = none ∧ ∃ on obeyed,
              rest = [⟨⟨.command .register,on⟩,obeyed⟩] ∧ m' = told r false (obeyed || on.value.isSome))) := by
  obtain ⟨off,obeyed,later,rfl,_,onward⟩ := plays_ask.mp played
  obtain ⟨pause,paused,later,rfl,_,onward⟩ := plays_ask.mp onward
  obtain ⟨write,took,later,rfl,_,wrote⟩ := plays_require.mp onward
  rw [after_write] at wrote
  refine ⟨off,obeyed,pause,paused,write,took,later,rfl,_,rfl,?_⟩
  rcases wrote with ⟨failed,rfl,rfl,rfl⟩ | ⟨_,answered,onward⟩
  · exact .inl ⟨failed,rfl,rfl,rfl⟩
  · obtain ⟨read,quiet,rest,rfl,shown,back⟩ := plays_require.mp onward
    refine .inr ⟨read,quiet,rest,by simp [answered],rfl,?_⟩
    rcases back with ⟨failed,rfl,rfl,rfl⟩ | ⟨response,answered,checked⟩
    · exact .inl ⟨failed,rfl,rfl,rfl⟩
    · have same : bandsToHex (parseBandConfig response) = bandsToHex bands ↔
          (written (told m true (obeyed || off.value.isSome)) bands took).mask = bandMask bands := by
        rw [told_bands shown answered]
        exact read_iff
      by_cases fits : (written (told m true (obeyed || off.value.isSome)) bands took).mask = bandMask bands
      · rw [if_pos (same.mpr fits)] at checked
        obtain ⟨rfl,rfl,rfl⟩ := plays_done.mp checked
        exact .inr (.inl ⟨by simp [answered],fits,rfl,rfl,rfl⟩)
      · rw [if_neg (mt same.mp fits)] at checked
        obtain ⟨on,obeyed,later,rfl,_,done⟩ := plays_ask.mp checked
        obtain ⟨rfl,rfl,rfl⟩ := plays_done.mp done
        exact .inr (.inr ⟨by simp [answered],fits,rfl,on,obeyed,rfl,rfl⟩)

/-- What the modem was told it did, or it answered that it did. -/
def obeyed (x : Exchange) : Bool :=
  match x.turn with
  | ⟨.command _,answer⟩ => x.took || answer.value.isSome
  | _ => true

/-- A command that did not fail. -/
def answered (x : Exchange) : Bool :=
  match x.turn with
  | ⟨.command _,answer⟩ => answer.value.isSome
  | _ => true

/-- The exchange deregisters the modem. -/
def deregisters (x : Exchange) : Bool := x.turn.question = .command .deregister && obeyed x

/-- What a deregistered modem needs to be registered again: the answers of the commands, and of
    the registration only that it was obeyed. -/
def goesOn (x : Exchange) : Bool := if x.turn.question = .command .register then obeyed x else answered x

/-- No command fails after one that deregistered the modem. -/
def Recovers (xs : List Exchange) : Prop := ∀ x rest, x :: rest <:+ xs → deregisters x = true → ∀ y ∈ rest, goesOn y = true

theorem recovers_nil : Recovers [] := fun _ _ suffix => by simp at suffix

theorem recovers_cons {x : Exchange} :
    Recovers (x :: xs) ↔ (deregisters x = true → ∀ y ∈ xs, goesOn y = true) ∧ Recovers xs := by
  constructor
  · intro held
    exact ⟨held x xs List.suffix_rfl,fun y rest suffix => held y rest (suffix.trans (List.suffix_cons x xs))⟩
  · rintro ⟨first,later⟩ y rest suffix
    rcases List.suffix_cons_iff.mp suffix with same | suffix
    · cases same
      exact first
    · exact later y rest suffix

instance decidableRecovers : (xs : List Exchange) → Decidable (Recovers xs)
  | [] => .isTrue recovers_nil
  | _ :: rest =>
    have := decidableRecovers rest
    decidable_of_iff _ recovers_cons.symm

theorem recovers_other {x : Exchange} (other : x.turn.question ≠ .command .deregister) : Recovers (x :: xs) ↔ Recovers xs := by
  rw [recovers_cons]
  simp [deregisters,other]

theorem written_deregistered {bands : List Nat} {took : Bool} : (written m bands took).deregistered = m.deregistered := by
  cases took <;> rfl

theorem told_deregistered {off obeyed : Bool} : (told m off obeyed).deregistered = if obeyed then off else m.deregistered := by
  cases obeyed <;> rfl

section
variable {took : Bool} {bands : List Nat}

theorem goesOn_sleep {d : Nat} {answer : Answer (.sleep d)} : goesOn ⟨⟨.sleep d,answer⟩,took⟩ = true := by
  rw [goesOn,if_neg (by simp)]
  rfl

theorem goesOn_writeBands {mask : List Char} {answer : Answer (.command (.writeBands mask))} :
    goesOn ⟨⟨.command (.writeBands mask),answer⟩,took⟩ = answer.value.isSome := by
  rw [goesOn,if_neg (by simp)]
  rfl

theorem goesOn_readBands {answer : Answer (.command .readBands)} :
    goesOn ⟨⟨.command .readBands,answer⟩,took⟩ = answer.value.isSome := by
  rw [goesOn,if_neg (by simp)]
  rfl

theorem goesOn_register {answer : Answer (.command .register)} :
    goesOn ⟨⟨.command .register,answer⟩,took⟩ = (took || answer.value.isSome) := by
  rw [goesOn,if_pos rfl]
  rfl

theorem deregisters_deregister {answer : Answer (.command .deregister)} :
    deregisters ⟨⟨.command .deregister,answer⟩,took⟩ = (took || answer.value.isSome) := by
  rw [deregisters,decide_eq_true rfl,Bool.true_and]
  rfl

end

/-- A verified write that fails leaves the modem deregistered exactly where a command failed
    after the one that deregistered it. -/
theorem verified_err {bands : List Nat} (played : Plays (verifiedSetBands bands) m xs none m') :
    (m'.deregistered = true → m.deregistered = true) ↔ m.deregistered = true ∨ Recovers xs := by
  obtain ⟨write,took,later,rfl,⟨_,rfl,_,rfl⟩ | ⟨pause,paused,read,quiet,rest,_,rfl,back⟩⟩ := verified_plays played
  · simp [written_deregistered,recovers_other,recovers_nil]
  · rw [recovers_other (by simp),recovers_other (by simp),recovers_other (by simp)]
    rcases back with ⟨_,rfl,_,rfl⟩ | ⟨_,_,_,impossible,_⟩ | ⟨_,_,retried⟩
    · simp [written_deregistered,recovers_nil]
    · cases impossible
    · obtain ⟨off,obeyed,pause,paused,again,wrote,later,rfl,r,rfl,ended⟩ := retry_plays retried
      rw [recovers_cons,recovers_other (by simp),recovers_other (by simp),deregisters_deregister]
      -- whether the modem was deregistered decides, not how that is known
      generalize (obeyed || off.value.isSome) = silent at *
      rcases ended with ⟨failed,rfl,_,rfl⟩ | ⟨read,quiet,rest,wrote_,rfl,⟨failed,rfl,_,rfl⟩ | ⟨_,_,_,impossible,_⟩ | ⟨shown,_,_,on,heard,rfl,rfl⟩⟩
      · simp only [written_deregistered,told_deregistered,recovers_nil,List.forall_mem_cons,goesOn_sleep,goesOn_writeBands,failed]
        cases silent <;> simp
      · rw [recovers_other (by simp)]
        simp only [written_deregistered,told_deregistered,recovers_nil,List.forall_mem_cons,goesOn_sleep,goesOn_writeBands,goesOn_readBands,
          failed]
        cases silent <;> simp
      · cases impossible
      · rw [recovers_other (by simp),recovers_other (by simp)]
        simp only [written_deregistered,told_deregistered,recovers_nil,List.forall_mem_cons,goesOn_sleep,goesOn_writeBands,goesOn_readBands,
          goesOn_register,shown,wrote_]
        generalize (heard || on.value.isSome) = back
        cases silent <;> cases back <;> simp

/-! ### Rollbacks whose commands are answered -/

theorem taken_append (xs ys : List Exchange) : taken (xs ++ ys) = taken xs ++ taken ys := List.filterMap_append

/-- All commands were answered. -/
def Answered (xs : List Exchange) : Prop := ∀ x ∈ xs, answered x = true

instance : Decidable (Answered xs) := inferInstanceAs (Decidable (∀ x ∈ xs, answered x = true))

theorem answered_append (xs ys : List Exchange) : Answered (xs ++ ys) ↔ Answered xs ∧ Answered ys := List.forall_mem_append

theorem answered_cons {x : Exchange} : Answered (x :: xs) ↔ answered x = true ∧ Answered xs := List.forall_mem_cons

theorem answered_command {sent : Command} {answer : Answer (.command sent)} {took : Bool} :
    answered ⟨⟨.command sent,answer⟩,took⟩ = true ↔ ∃ reply, answer.value = some reply :=
  Option.isSome_iff_exists

theorem tuned_same {bands : List Nat} (same : m.mask = bandMask bands) : m.tuned bands = m := Radio.ext same.symm rfl rfl

theorem written_same {bands : List Nat} {took : Bool} (same : m.mask = bandMask bands) : written m bands took = m := by
  cases took
  · rfl
  · exact tuned_same same

/-- A verified write whose commands are answered: nothing is left to do, it is taken at
    once, only from the deregistered modem, or not at all. -/
theorem verified_answered {bands : List Nat} {result : Option VerifiedSetResult} (played : Plays (verifiedSetBands bands) m xs result m')
    (all : Answered xs) :
    (m.mask = bandMask bands ∧ (∃ took, taken xs = [took]) ∧ m' = m) ∨
    (m.mask ≠ bandMask bands ∧ taken xs = [true] ∧ m' = m.tuned bands) ∨
    (m.mask ≠ bandMask bands ∧ taken xs = [false,true] ∧ m' = { m.tuned bands with deregistered := true }) ∨
    (m.mask ≠ bandMask bands ∧ taken xs = [false,false] ∧ m' = { m with deregistered := false }) := by
  obtain ⟨write,took,later,rfl,⟨failed,rfl,_,rfl⟩ | ⟨pause,paused,read,quiet,rest,_,rfl,back⟩⟩ := verified_plays played
  · simp [Answered,answered,failed] at all
  · by_cases same : m.mask = bandMask bands
    · rw [written_same same] at back
      rcases back with ⟨failed,rfl,_,rfl⟩ | ⟨_,_,rfl,_,rfl⟩ | ⟨_,wrong,_⟩
      · simp [Answered,answered,failed] at all
      · exact .inl ⟨same,⟨took,rfl⟩,rfl⟩
      · exact absurd same wrong
    · rcases back with ⟨failed,rfl,_,rfl⟩ | ⟨_,right,rfl,_,rfl⟩ | ⟨_,wrong,retried⟩
      · simp [Answered,answered,failed] at all
      · cases took
        · exact absurd right same
        · exact .inr (.inl ⟨same,rfl,rfl⟩)
      · cases took
        · obtain ⟨off,obeyed,pause,paused,again,wrote,later,rfl,r,rfl,ended⟩ := retry_plays retried
          have off_ : off.value.isSome = true := all ⟨⟨.command .deregister,off⟩,obeyed⟩ (by simp)
          rcases ended with ⟨failed,rfl,_,rfl⟩ | ⟨read,quiet,rest,_,rfl,⟨failed,rfl,_,rfl⟩ | ⟨_,right,rfl,_,rfl⟩ | ⟨_,wrong,_,on,heard,rfl,rfl⟩⟩
          · simp [Answered,answered,failed] at all
          · simp [Answered,answered,failed] at all
          · cases wrote
            · simp [written,told,off_] at right
              exact absurd right same
            · exact .inr (.inr (.inl ⟨same,rfl,by simp [written,told,off_,Radio.tuned]⟩))
          · have on_ : on.value.isSome = true := all ⟨⟨.command .register,on⟩,heard⟩ (by simp)
            cases wrote
            · exact .inr (.inr (.inr ⟨same,rfl,by simp [written,told,off_,on_]⟩))
            · exact absurd rfl wrong
        · exact absurd rfl wrong

/-- The caller's record of the modem: the bands and the priority as they were read. -/
def Remembers (m : Radio) (old : List Nat) (oldPriority : Option Nat) : Prop :=
  old = maskBands m.mask ∧ oldPriority.filter (· ≠ 0) = m.priority

theorem Remembers.mask {old : List Nat} {oldPriority : Option Nat} (remembers : Remembers m old oldPriority) :
    bandMask old = m.mask := by
  rw [remembers.1,bandMask_maskBands m.small]

/-- The priority write of a rollback, answered. -/
theorem restore_answered {oldPriority : Option Nat} (played : Plays (restorePriority oldPriority) m xs () m')
    (all : Answered xs) : taken xs = [] ∧
      m' = { m with priority := if oldPriority = none then m.priority else oldPriority.filter (· ≠ 0) } := by
  cases oldPriority with
  | none =>
    obtain ⟨rfl,_,rfl⟩ := plays_done.mp played
    exact ⟨rfl,rfl⟩
  | some band =>
    obtain ⟨answer,took,rfl,_,rfl⟩ := plays_send.mp played
    have answered_ : answer.value.isSome = true := all _ (List.mem_singleton_self _)
    refine ⟨rfl,?_⟩
    by_cases zero : band = 0
    · simp [after,answered_,zero,Option.filter]
    · simp [after,answered_,zero,Option.filter]

/-- The registration, answered. -/
theorem register_answered (played : Plays (send .register) m xs () m') (all : Answered xs) :
    taken xs = [] ∧ m' = { m with deregistered := false } := by
  obtain ⟨answer,took,rfl,_,rfl⟩ := plays_send.mp played
  have answered_ : answer.value.isSome = true := all _ (List.mem_singleton_self _)
  exact ⟨rfl,by simp [after,answered_]⟩

theorem quiet_mute (question : Ask) (mute : Mute question) : Quiet question := by
  cases question with
  | command command => exact mute.elim
  | _ => trivial

theorem region_quiet (shared : Region) : Asks Quiet (region shared) fun _ => True := ⟨trivial,fun _ => trivial⟩

theorem sleep_quiet (wait : Nat) : Asks Quiet (sleep wait) fun _ => True := ⟨trivial,fun _ => trivial⟩

theorem hasIpv4_quiet : Asks Quiet interfaceHasIpv4 fun _ => True := ⟨trivial,fun _ => trivial⟩

/-- A program that changes nothing, and what comes after it. -/
theorem plays_quiet_bind {first : Lte α} {rest : α → Lte β} {value : β} (asks : Asks Quiet first fun _ => True)
    (played : Plays (first >>= rest) m xs value m') : ∃ early late mid, xs = early ++ late ∧ taken xs = taken late ∧
      Plays first m early mid m ∧ Plays (rest mid) m late value m' := by
  obtain ⟨early,late,mid,r,rfl,before,onward⟩ := plays_bind.mp played
  obtain ⟨rfl,none_⟩ := plays_quiet asks before
  refine ⟨early,late,mid,rfl,?_,before,onward⟩
  rw [taken_append,none_,List.nil_append]

/-- The recovery of the data path, answered: the bands are written again only where they differ. -/
theorem recover_answered {config : InterfaceConfig} {bands : List Nat} (played : Plays (recoverDataPathPub config bands) m xs () m')
    (all : Answered xs) : (m.mask = bandMask bands ∧ taken xs = [] ∧ m' = m) ∨
      (m.mask ≠ bandMask bands ∧ ∃ part result, taken xs = taken part ∧ Answered part ∧ Plays (verifiedSetBands bands) m part result m') := by
  obtain ⟨start,late,_,rfl,first,_,restarts⟩ := plays_quiet_bind (region_quiet _) played
  obtain ⟨restart,late,_,rfl,second,_,pauses⟩ := plays_quiet_bind (restart_asks quiet_mute) restarts
  obtain ⟨pause,late,_,rfl,third,_,reads⟩ := plays_quiet_bind (sleep_quiet _) pauses
  obtain ⟨answer,took,late,rfl,told,writes⟩ := plays_command.mp reads
  obtain ⟨written,last,_,r,rfl,wrote,ends⟩ := plays_bind.mp writes
  obtain ⟨rest,none_,_,rfl,fifth,_,nothing⟩ := plays_quiet_bind hasIpv4_quiet ends
  obtain ⟨rfl,_,rfl⟩ := plays_done.mp nothing
  have same := first.trans (second.trans third)
  have wrote_ : taken (⟨⟨.command .readBands,answer⟩,took⟩ :: (written ++ (rest ++ []))) = taken written := by
    show taken (written ++ _) = _
    rw [taken_append,fifth]
    exact List.append_nil _
  simp only [answered_append,answered_cons,answered_command] at all
  obtain ⟨_,_,_,⟨reply,replied⟩,all,_⟩ := all
  have readable : bandsToHex (parseBandConfig (answer.value.getD [])) = bandsToHex bands ↔ m.mask = bandMask bands := by
    rw [replied,Option.getD_some,told_bands told replied]
    exact read_iff
  rw [same,wrote_]
  by_cases right : m.mask = bandMask bands
  · rw [onlyIf,if_neg (by simp [readable.mpr right])] at wrote
    obtain ⟨rfl,_,rfl⟩ := plays_done.mp wrote
    exact .inl ⟨right,rfl,rfl⟩
  · rw [onlyIf,if_pos (by simpa using mt readable.mp right)] at wrote
    obtain ⟨part,none_,result,r,rfl,verified,ended⟩ := plays_bind.mp wrote
    obtain ⟨rfl,_,rfl⟩ := plays_done.mp ended
    rw [List.append_nil] at all ⊢
    exact .inr ⟨right,part,result,rfl,all,verified⟩

/-! ### The rollbacks of the two programs -/

/-- How a safe band change gets to its end: with a result, or with the bands and the priority
    that it rolls back to. -/
inductive Attempt where
  | ended (result : Option BandConfig)
  | timedOut (old : List Nat) (oldPriority : Option Nat)
deriving DecidableEq

/-- `safe_set_bands` from the write to its rollback, with the bands and the priority that were read. -/
def attemptFrom (watched : Bool) (bands : List Nat) (priority : Option Nat) (timeout : Nat) (old : List Nat)
    (oldPriority : Option Nat) : Lte Attempt := do
  match ← verifiedSetBands bands with
  | none => pure (.ended none)
  | some _ =>
    send .register
    setPriority priority
    let start ← now
    if ← awaitRegistration start timeout (passes timeout (secs 3)) then
      onlyIf watched (region .endSuppression)
      match ← command .readBands with
      | some response => pure (.ended (some ⟨parseBandConfig response,priority⟩))
      | none => pure (.ended (some ⟨bands,priority⟩))
    else pure (.timedOut old oldPriority)

/-- `safe_set_bands` up to its rollback. -/
def attempt (watched : Bool) (bands : List Nat) (priority : Option Nat) (timeout : Nat) : Lte Attempt := do
  onlyIf watched (region (.suppressUntil (timeout + secs 5)))
  match ← command .readBands with
  | none => pure (.ended none)
  | some oldResponse =>
    match ← command .readPriority with
    | none => pure (.ended none)
    | some priorityResponse =>
      attemptFrom watched bands priority timeout (parseBandConfig oldResponse) (parseBandpri priorityResponse)

/-- The rollback of `safe_set_bands`. -/
def rollBack (watched : Bool) (old : List Nat) (oldPriority : Option Nat) : Lte (Option BandConfig) := do
  let _ ← verifiedSetBands old
  restorePriority oldPriority
  onlyIf watched (region .endSuppression)
  onlyIf watched (region .endSuppression)
  pure none

/-- `safe_set_bands` is its first part, and its rollback where that timed out. -/
theorem safeSetBands_eq (watched : Bool) (bands : List Nat) (priority : Option Nat) (timeout : Nat) :
    safeSetBands watched bands priority timeout = attempt watched bands priority timeout >>= fun reached =>
      match reached with
      | .ended result => onlyIf (watched && result.isNone) (region .endSuppression) >>= fun _ => pure result
      | .timedOut old oldPriority => rollBack watched old oldPriority := by
  unfold safeSetBands attempt attemptFrom doSafeSetBands safeChangeFrom require
  simp only [Dialogue.bind_after]
  congr
  funext _
  congr
  funext old
  cases old with
  | none => rfl
  | some oldResponse =>
    simp only [Dialogue.bind_after]
    congr
    funext prior
    cases prior with
    | none => rfl
    | some priorityResponse =>
      simp only [Dialogue.bind_after]
      congr
      funext written
      cases written with
      | none => rfl
      | some result =>
        simp only [Dialogue.bind_after]
        congr
        funext _
        congr
        funext _
        congr
        funext start
        congr
        funext registered
        cases registered with
        | true =>
          simp only [Dialogue.bind_after,if_true]
          congr
          funext _
          congr
          funext reply
          cases reply <;> simp
        | false =>
          simp [rollBack,Dialogue.bind_after]

/-- `monitor_registration` up to its rollback: whether it rolls back. -/
def watchRegistration (config : InterfaceConfig) (expected : List Nat) (timeout : Nat) : Lte Bool := do
  let start ← now
  if ← awaitRegistration start timeout (passes timeout (secs 3)) then
    recoverDataPathPub config expected
    pure false
  else
    let response := (← command .readBands).getD []
    pure (bandsToHex (parseBandConfig response) = bandsToHex expected)

/-- The rollback of `monitor_registration`. -/
def monitorRollback (config : InterfaceConfig) (old : List Nat) (oldPriority : Option Nat) : Lte Unit := do
  let _ ← verifiedSetBands old
  restorePriority oldPriority
  send .register
  recoverDataPathPub config old

/-- `monitor_registration` is its first part, and its rollback where that says so. -/
theorem monitorRegistration_eq (config : InterfaceConfig) (expected old : List Nat) (oldPriority : Option Nat) (timeout : Nat) :
    monitorRegistration config expected old oldPriority timeout = watchRegistration config expected timeout >>= fun fails =>
      onlyIf fails (monitorRollback config old oldPriority) >>= fun _ => region .endBandChange := by
  unfold monitorRegistration watchRegistration monitorRollback
  simp only [Dialogue.bind_after]
  congr
  funext start
  congr
  funext registered
  cases registered with
  | true =>
    simp only [Dialogue.bind_after,if_true]
    rfl
  | false => rfl

/-- What is left of a run after the first of two programs. -/
theorem plays_rest {first : Lte α} {rest : α → Lte β} {front back : List Exchange} {mid : α} {value : β} {r : Radio}
    (played : Plays (first >>= rest) m (front ++ back) value m') (before : Plays first m front mid r) :
    Plays (rest mid) r back value m' := by
  obtain ⟨early,late,found,r',split,first',onward⟩ := plays_bind.mp played
  have turns : early.map Exchange.turn ++ late.map Exchange.turn = front.map Exchange.turn ++ back.map Exchange.turn := by
    rw [← List.map_append,← List.map_append,split]
  obtain ⟨same,rfl,_⟩ := Dialogue.ends_unique first'.1 before.1 turns
  obtain ⟨rfl,rfl⟩ := List.append_inj split (by simpa using congrArg List.length same.symm)
  cases first'.2.symm.trans before.2
  exact onward

theorem onlyIf_quiet {condition : Bool} {program : Lte Unit} (quiet : Asks Quiet program fun _ => True) :
    Asks Quiet (onlyIf condition program) fun _ => True := by
  rw [asks_onlyIf]
  split
  · exact quiet
  · trivial

theorem attemptFrom_asks {watched : Bool} {bands old : List Nat} {priority oldPriority : Option Nat} {timeout : Nat} :
    Asks (fun _ => True) (attemptFrom watched bands priority timeout old oldPriority) fun reached =>
      ∀ found foundPriority, reached = .timedOut found foundPriority → found = old ∧ foundPriority = oldPriority := by
  have any {α : Type} (program : Lte α) : Asks (fun _ => True) program fun _ => True := asks_anything fun _ => trivial
  refine asks_call (any _) fun written => ?_
  cases written with
  | none => exact fun _ _ impossible => by cases impossible
  | some result =>
    refine asks_call (any _) fun _ => asks_call (any _) fun _ => asks_call (any _) fun start => asks_call (any _) fun registered => ?_
    cases registered with
    | true =>
      refine asks_call (any _) fun _ => asks_call (any _) fun reply => ?_
      cases reply <;> exact fun _ _ impossible => by cases impossible
    | false =>
      intro _ _ same
      cases same
      exact ⟨rfl,rfl⟩

/-- A safe band change that times out remembers the modem as it was. -/
theorem attempt_remembers {watched : Bool} {bands old : List Nat} {priority oldPriority : Option Nat} {timeout : Nat}
    (played : Plays (attempt watched bands priority timeout) m xs (.timedOut old oldPriority) m') : Remembers m old oldPriority := by
  obtain ⟨_,_,_,rfl,_,_,reads⟩ := plays_quiet_bind (onlyIf_quiet (region_quiet _)) played
  obtain ⟨⟨instant,epoch,reply⟩,took,late,rfl,told,onward⟩ := plays_command.mp reads
  cases reply with
  | none =>
    obtain ⟨_,impossible,_⟩ := plays_done.mp onward
    cases impossible
  | some oldResponse =>
    obtain ⟨⟨instant,epoch,reply⟩,took,late,rfl,known,onward⟩ := plays_command.mp onward
    cases reply with
    | none =>
      obtain ⟨_,impossible,_⟩ := plays_done.mp onward
      cases impossible
    | some priorityResponse =>
      obtain ⟨rfl,rfl⟩ := asks_ends attemptFrom_asks onward.1 old oldPriority rfl
      exact ⟨told_bands told rfl,by simpa [tells,after] using known⟩

/-- What a fast band change hands to the monitor remembers the modem as it was. -/
theorem applyBandsFast_remembers {bands old : List Nat} {priority oldPriority : Option Nat} {config : BandConfig} {off : Bool}
    (played : Plays (applyBandsFast bands priority) m xs (some (config,old,oldPriority,off)) m') : Remembers m old oldPriority := by
  obtain ⟨answer,took,late,rfl,told,⟨_,_,impossible,_⟩ | ⟨oldResponse,replied,waits⟩⟩ := plays_require.mp played
  · cases impossible
  obtain ⟨_,_,_,rfl,_,_,asks⟩ := plays_quiet_bind (sleep_quiet _) waits
  obtain ⟨again,took,late,rfl,known,⟨_,_,impossible,_⟩ | ⟨priorityResponse,prior,onward⟩⟩ := plays_require.mp asks
  · cases impossible
  have any {α : Type} (program : Lte α) : Asks (fun _ => True) program fun _ => True := asks_anything fun _ => trivial
  have priority_ : (parseBandpri priorityResponse).filter (· ≠ 0) = m.priority := by simpa [tells,after,prior] using known
  have remembers : Remembers m (parseBandConfig oldResponse) (parseBandpri priorityResponse) := ⟨told_bands told replied,priority_⟩
  refine asks_ends (?_ : Asks (fun _ => True) _ fun result => ∀ config old oldPriority off,
    result = some (config,old,oldPriority,off) → Remembers m old oldPriority) onward.1 config old oldPriority off rfl
  refine asks_call (any _) fun _ => ?_
  split
  all_goals
    refine asks_call (any _) fun written => ?_
    cases written with
    | none => exact fun _ _ _ _ impossible => by cases impossible
    | some found =>
      refine asks_call (any _) fun _ => asks_call (any _) fun _ => asks_call (any _) fun _ => ?_
      intro _ _ _ _ same
      cases same
      exact remembers

/-- A modem whose priority was written back, against the one that is remembered. -/
theorem restored_iff {old : List Nat} {oldPriority priority : Option Nat} (remembers : Remembers m old oldPriority)
    (restored : m'.priority = if oldPriority = none then priority else oldPriority.filter (· ≠ 0)) :
    m' = m ↔ (m'.deregistered = m.deregistered ∧ m'.mask = m.mask) ∧ (oldPriority = none → priority = none) := by
  have same : m'.priority = m.priority ↔ (oldPriority = none → priority = none) := by
    rw [restored,← remembers.2]
    cases oldPriority with
    | none => simp
    | some band => simp
  rw [Radio.ext_iff,same]
  tauto

/-- The rollback of `safe_set_bands`, with all its commands answered. -/
theorem rollBack_undoes {watched : Bool} {old : List Nat} {oldPriority : Option Nat} {value : Option BandConfig} {r : Radio}
    (remembers : Remembers m old oldPriority) (played : Plays (rollBack watched old oldPriority) r xs value m') (all : Answered xs) :
    m' = m ↔ ((r.deregistered = m.deregistered ∧ (r.mask = m.mask ∨ (taken xs).head? = some true)) ∨
        (m.deregistered = true ∧ r.mask ≠ m.mask ∧ taken xs = [false,true])) ∧
      (oldPriority = none → r.priority = none) := by
  obtain ⟨writes,_,_,r1,rfl,verified,restores⟩ := plays_bind.mp played
  obtain ⟨prior,_,_,r2,rfl,restored,ends⟩ := plays_bind.mp restores
  obtain ⟨told,_,_,rfl,first,_,ends⟩ := plays_quiet_bind (onlyIf_quiet (region_quiet _)) ends
  obtain ⟨again,_,_,rfl,second,_,ends⟩ := plays_quiet_bind (onlyIf_quiet (region_quiet _)) ends
  obtain ⟨rfl,_,rfl⟩ := plays_done.mp ends
  simp only [answered_append] at all
  obtain ⟨silent,rfl⟩ := restore_answered restored all.2.1
  have same : taken (writes ++ (prior ++ (told ++ (again ++ [])))) = taken writes := by
    rw [taken_append,taken_append,silent,first,second]
    exact List.append_nil _
  have mask := remembers.mask
  rw [same,restored_iff remembers rfl]
  rcases verified_answered verified all.1 with ⟨right,⟨took,wrote⟩,rfl⟩ | ⟨wrong,wrote,rfl⟩ | ⟨wrong,wrote,rfl⟩ | ⟨wrong,wrote,rfl⟩
  · rw [wrote]
    simp [right,mask]
  · rw [mask] at wrong
    simp [wrote,wrong,Radio.tuned,mask]
  · rw [mask] at wrong
    simp [wrote,wrong,Radio.tuned,mask]
  · rw [mask] at wrong
    simp [wrote,wrong]

/-- The rollback of `monitor_registration`, with all its commands answered. -/
theorem monitorRollback_undoes {config : InterfaceConfig} {old : List Nat} {oldPriority : Option Nat} {r : Radio}
    (remembers : Remembers m old oldPriority) (played : Plays (monitorRollback config old oldPriority) r xs () m') (all : Answered xs) :
    m' = m ↔ ((m.deregistered = false ∧ (r.mask = m.mask ∨ true ∈ (taken xs).take 3)) ∨
        (m.deregistered = true ∧ r.mask ≠ m.mask ∧ taken xs = [false,false,false,true])) ∧
      (oldPriority = none → r.priority = none) := by
  obtain ⟨writes,_,_,r1,rfl,verified,restores⟩ := plays_bind.mp played
  obtain ⟨prior,_,_,r2,rfl,restored,registers⟩ := plays_bind.mp restores
  obtain ⟨on,recovery,_,r3,rfl,registered,recovers⟩ := plays_bind.mp registers
  simp only [answered_append] at all
  obtain ⟨silent,rfl⟩ := restore_answered restored all.2.1
  obtain ⟨quiet,rfl⟩ := register_answered registered all.2.2.1
  rw [taken_append,taken_append,taken_append,silent,quiet,List.nil_append,List.nil_append]
  have mask := remembers.mask
  rcases verified_answered verified all.1 with ⟨right,⟨took,wrote⟩,rfl⟩ | ⟨wrong,wrote,rfl⟩ | ⟨wrong,wrote,rfl⟩ | ⟨wrong,wrote,rfl⟩
  · obtain ⟨_,none_,rfl⟩ | ⟨wrong,_⟩ := recover_answered recovers all.2.2.2
    · rw [restored_iff remembers rfl,wrote,none_]
      simp [right,mask]
    · exact absurd right wrong
  · obtain ⟨_,none_,rfl⟩ | ⟨again,_⟩ := recover_answered recovers all.2.2.2
    · rw [restored_iff remembers rfl,wrote,none_]
      rw [mask] at wrong
      simp [wrong,Radio.tuned,mask]
    · exact absurd rfl again
  · obtain ⟨_,none_,rfl⟩ | ⟨again,_⟩ := recover_answered recovers all.2.2.2
    · rw [restored_iff remembers rfl,wrote,none_]
      rw [mask] at wrong
      simp [wrong,Radio.tuned,mask]
    · exact absurd rfl again
  · obtain ⟨right,_⟩ | ⟨_,part,result,same,answered_,verified⟩ := recover_answered recovers all.2.2.2
    · exact absurd right wrong
    · rw [same,wrote]
      rcases verified_answered verified answered_ with ⟨right,_⟩ | ⟨_,again,rfl⟩ | ⟨_,again,rfl⟩ | ⟨_,again,rfl⟩
      · exact absurd right wrong
      all_goals
        rw [restored_iff remembers rfl,again]
        rw [mask] at wrong
        simp [wrong,Radio.tuned,mask]

end

/-- What a failed band change leaves of the modem. -/
theorem band_changes_undone_iff (bands : List Nat) :
    (∀ (m m' : Radio) (xs : List Exchange), Plays (verifiedSetBands bands) m xs none m' →
      ((m'.deregistered = true → m.deregistered = true) ↔ m.deregistered = true ∨ Recovers xs)) ∧
    (∀ (watched : Bool) (old : List Nat) (priority oldPriority : Option Nat) (timeout : Nat) (value : Option BandConfig)
      (m r m' : Radio) (front back : List Exchange),
      Plays (attempt watched bands priority timeout) m front (.timedOut old oldPriority) r →
      Plays (safeSetBands watched bands priority timeout) m (front ++ back) value m' → Answered back →
      (m' = m ↔ ((r.deregistered = m.deregistered ∧ (r.mask = m.mask ∨ (taken back).head? = some true)) ∨
          (m.deregistered = true ∧ r.mask ≠ m.mask ∧ taken back = [false,true])) ∧
        (oldPriority = none → r.priority = none))) ∧
    (∀ (config : InterfaceConfig) (old : List Nat) (priority oldPriority : Option Nat) (timeout : Nat) (found : BandConfig)
      (off : Bool) (m m1 m2 r m' : Radio) (change front back : List Exchange),
      Plays (applyBandsFast bands priority) m change (some (found,old,oldPriority,off)) m1 →
      Plays (watchRegistration config bands timeout) m2 front true r →
      Plays (monitorRegistration config bands old oldPriority timeout) m2 (front ++ back) () m' → Answered back →
      (m' = m ↔ ((m.deregistered = false ∧ (r.mask = m.mask ∨ true ∈ (taken back).take 3)) ∨
          (m.deregistered = true ∧ r.mask ≠ m.mask ∧ taken back = [false,false,false,true])) ∧
        (oldPriority = none → r.priority = none))) := by
  refine ⟨fun m m' xs played => verified_err played,?_,?_⟩
  · intro watched old priority oldPriority timeout value m r m' front back tried played all
    rw [safeSetBands_eq] at played
    have rolled := plays_rest played tried
    exact rollBack_undoes (attempt_remembers tried) rolled all
  · intro config old priority oldPriority timeout found off m m1 m2 r m' change front back changed watched played all
    rw [monitorRegistration_eq] at played
    have rest := plays_rest played watched
    obtain ⟨rolled,last,_,_,rfl,back,ends⟩ := plays_bind.mp rest
    obtain ⟨rfl,silent⟩ := plays_quiet (region_quiet _) ends
    rw [taken_append,silent,List.append_nil]
    exact monitorRollback_undoes (applyBandsFast_remembers changed) back ((answered_append _ _).mp all).1

/-- The exchanges of a program whose commands are answered, and obeyed, as the script says. -/
def scripted {α : Type} : Lte α → List (Option (List Char) × Bool) → List Exchange × α
  | .done value, _ => ([],value)
  | .ask (.command sent) next, (reply,took) :: script =>
    let rest := scripted (next ⟨0,0,reply⟩) script
    (⟨⟨.command sent,⟨0,0,reply⟩⟩,took⟩ :: rest.1,rest.2)
  | .ask question next, script =>
    let rest := scripted (next ⟨0,0,plainReply question⟩) script
    (⟨⟨question,⟨0,0,plainReply question⟩⟩,true⟩ :: rest.1,rest.2)

theorem scripted_plays {α : Type} (program : Lte α) (script : List (Option (List Char) × Bool)) {m m' : Radio}
    (ran : run exchange m (scripted program script).1 = some m') :
    Plays program m (scripted program script).1 (scripted program script).2 m' := by
  refine ⟨?_,ran⟩
  clear ran
  induction program, script using scripted.induct with
  | case1 value script => rfl
  | case2 sent next reply took script ih => exact Dialogue.ends_ask.mpr ⟨_,_,rfl,ih⟩
  | case3 question next script other ih =>
    rw [scripted]
    · exact Dialogue.ends_ask.mpr ⟨_,_,rfl,ih⟩
    · exact other

/-- A modem with one band, and no priority. -/
def onBand4 (deregistered : Bool) : Radio := ⟨8,none,deregistered,by decide⟩

def saysBand (mask : String) : Option (List Char) × Bool := (some ("+QCFG: \"band\",0x0,".toList ++ mask.toList ++ ",0x0".toList),true)

def ok : Option (List Char) × Bool := (some "OK".toList,true)

def ignored : Option (List Char) × Bool := (some "OK".toList,false)

/-- The band after a change, and whether it has a priority. -/
def onBand2 (deregistered : Bool) (priority : Option Nat) : Radio := ⟨2,priority,deregistered,by decide⟩

/-- A verified write that fails where the first write is ignored, the modem deregistered, and the second failed or answered. -/
def retried (last : List (Option (List Char) × Bool)) : List Exchange × Option VerifiedSetResult :=
  scripted (verifiedSetBands [2]) ([ignored,saysBand "0x8",ok] ++ last)

/-- A safe band change that times out at once, and its rollback. -/
def timesOut (priority : Option Nat) : List Exchange × Attempt :=
  scripted (attempt false [2] priority 0) [saysBand "0x8",ok,ok,saysBand "0x2",ok,ok]

def rolledBack : List Exchange × Option BandConfig := scripted (rollBack false [4] none) [ok,saysBand "0x8"]

def interface : InterfaceConfig := ⟨"wwan0",true,some "true"⟩

/-- A fast band change, the monitor's wait after it, and its rollback. -/
def changed : List Exchange × Option (BandConfig × List Nat × Option Nat × Bool) :=
  scripted (applyBandsFast [2] none) [saysBand "0x8",ok,ok,saysBand "0x2",ok]

def expired : List Exchange × Bool := scripted (watchRegistration interface [2] 0) [saysBand "0x2"]

def monitored : List Exchange × Unit :=
  scripted (monitorRollback interface [4] none >>= fun _ => region .endBandChange) [ok,saysBand "0x8",ok,saysBand "0x8"]

/-- The scripts as the modem carries them out. -/
theorem scripts_run :
    run exchange (onBand4 false) (retried [(none,false)]).1 = some (onBand4 true) ∧
    run exchange (onBand4 false) (retried [ignored,saysBand "0x8",ok]).1 = some (onBand4 false) ∧
    (∀ priority ∈ [none,some 2], run exchange (onBand4 false) (timesOut priority).1 = some (onBand2 false priority) ∧
      (timesOut priority).2 = .timedOut [4] none ∧ run exchange (onBand2 false priority) rolledBack.1 = some ⟨8,priority,false,by decide⟩) ∧
    changed.2 = some (⟨[2],none⟩,[4],none,false) ∧ expired.2 = true ∧
    ∀ deregistered, run exchange (onBand4 deregistered) changed.1 = some (onBand2 deregistered none) ∧
      run exchange (onBand2 deregistered none) expired.1 = some (onBand2 deregistered none) ∧
      run exchange (onBand2 deregistered none) monitored.1 = some (onBand4 false) := by
  decide +kernel

section
variable {priority : Option Nat} (deregistered : Bool)

theorem retried_fails : Plays (verifiedSetBands [2]) (onBand4 false) (retried [(none,false)]).1 none (onBand4 true) :=
  scripted_plays _ _ scripts_run.1

theorem retried_registers :
    Plays (verifiedSetBands [2]) (onBand4 false) (retried [ignored,saysBand "0x8",ok]).1 none (onBand4 false) :=
  scripted_plays _ _ scripts_run.2.1

theorem timesOut_plays (all : priority ∈ [none,some 2]) :
    Plays (attempt false [2] priority 0) (onBand4 false) (timesOut priority).1 (.timedOut [4] none) (onBand2 false priority) := by
  obtain ⟨ran,value,_⟩ := scripts_run.2.2.1 priority all
  exact value ▸ scripted_plays _ _ ran

theorem rolledBack_plays (all : priority ∈ [none,some 2]) :
    Plays (safeSetBands false [2] priority 0) (onBand4 false) ((timesOut priority).1 ++ rolledBack.1) none
      ⟨8,priority,false,by decide⟩ := by
  obtain ⟨_,_,ran⟩ := scripts_run.2.2.1 priority all
  rw [safeSetBands_eq]
  exact plays_bind.mpr ⟨_,_,_,_,rfl,timesOut_plays all,scripted_plays (rollBack false [4] none) _ ran⟩

theorem changed_plays : Plays (applyBandsFast [2] none) (onBand4 deregistered) changed.1
    (some (⟨[2],none⟩,[4],none,false)) (onBand2 deregistered none) := by
  obtain ⟨_,_,_,value,_,all⟩ := scripts_run
  exact value ▸ scripted_plays _ _ (all deregistered).1

theorem expired_plays : Plays (watchRegistration interface [2] 0) (onBand2 deregistered none) expired.1 true
    (onBand2 deregistered none) := by
  obtain ⟨_,_,_,_,value,all⟩ := scripts_run
  exact value ▸ scripted_plays _ _ (all deregistered).2.1

theorem monitored_plays : Plays (monitorRegistration interface [2] [4] none 0) (onBand2 deregistered none)
    (expired.1 ++ monitored.1) () (onBand4 false) := by
  obtain ⟨_,_,_,_,_,all⟩ := scripts_run
  rw [monitorRegistration_eq]
  exact plays_bind.mpr ⟨_,_,_,_,rfl,expired_plays deregistered,
    scripted_plays (monitorRollback interface [4] none >>= fun _ => region .endBandChange) _ (all deregistered).2.2⟩

end

/-- Failed changes that leave the modem as it was: a retry that registers again, a rollback without
    a priority, and a monitor's rollback of a registered modem. -/
theorem band_changes_undone_tried :
    Recovers (retried [ignored,saysBand "0x8",ok]).1 ∧ (taken rolledBack.1).head? = some true ∧ true ∈ (taken monitored.1).take 3 := by
  obtain ⟨verified,safe,monitor⟩ := band_changes_undone_iff [2]
  refine ⟨((verified _ _ _ retried_registers).mp id).resolve_left (by decide),?_,?_⟩
  · obtain ⟨⟨_,mask⟩ | ⟨gone,_⟩,_⟩ := (safe false [4] none none 0 none _ _ _ _ _ (timesOut_plays (by simp))
      (rolledBack_plays (by simp)) (by decide +kernel)).mp rfl
    · exact mask.resolve_left (by decide)
    · cases gone
  · obtain ⟨⟨_,mask⟩ | ⟨gone,_⟩,_⟩ := (monitor interface [4] none none 0 _ _ _ _ _ _ _ _ _ _ (changed_plays false)
      (expired_plays false) (monitored_plays false) (by decide +kernel)).mp rfl
    · exact mask.resolve_left (by decide)
    · cases gone

/-- A retry whose write fails leaves the modem deregistered; a rollback to no priority leaves the new
    one; and the monitor's rollback registers a modem that was not. -/
theorem failed_changes_stay :
    (¬ ∀ (bands : List Nat) (m m' : Radio) (xs : List Exchange), Plays (verifiedSetBands bands) m xs none m' →
      m'.deregistered = true → m.deregistered = true) ∧
    (¬ ∀ (watched : Bool) (bands old : List Nat) (priority oldPriority : Option Nat) (timeout : Nat) (value : Option BandConfig)
      (m r m' : Radio) (front back : List Exchange),
      Plays (attempt watched bands priority timeout) m front (.timedOut old oldPriority) r →
      Plays (safeSetBands watched bands priority timeout) m (front ++ back) value m' → Answered back → m' = m) ∧
    ¬ ∀ (config : InterfaceConfig) (bands old : List Nat) (priority oldPriority : Option Nat) (timeout : Nat) (found : BandConfig)
      (off : Bool) (m m1 m2 r m' : Radio) (change front back : List Exchange),
      Plays (applyBandsFast bands priority) m change (some (found,old,oldPriority,off)) m1 →
      Plays (watchRegistration config bands timeout) m2 front true r →
      Plays (monitorRegistration config bands old oldPriority timeout) m2 (front ++ back) () m' → Answered back → m' = m := by
  refine ⟨?_,?_,?_⟩
  · intro all
    have gone := all [2] _ _ _ retried_fails (by decide)
    exact absurd gone (by decide)
  · intro all
    have same := all false [2] [4] (some 2) none 0 none _ _ _ _ _ (timesOut_plays (by simp)) (rolledBack_plays (by simp))
      (by decide +kernel)
    exact absurd same (by decide)
  · intro all
    have same := all interface [2] [4] none none 0 _ _ _ _ _ _ _ _ _ _ (changed_plays true) (expired_plays true)
      (monitored_plays true) (by decide +kernel)
    exact absurd same (by decide)

end Sctl.BandRollbacks
