import Sctl.SessionManager

/-!
What a restart finds of a session. The tasks of the session start before its
journal is created and the hook is installed, so what they push first never
reaches the file; the journal's writer takes the entries from the queue, and
when the server dies only the file is left. The writer keeps up: no task pushes
while the queue is full, and no write fails.
-/
namespace Sctl.Recovery
open Sctl.Journals Sctl.Readers Sctl.Runs Sctl.SessionBuffer Sctl.SessionManager Sctl.Utf8

structure State where
  exits : SessionExit.State
  /-- The entries that the file of the journal holds after its header. -/
  file : Option (List JournalEntry)
  /-- The session is in the table of the session manager. -/
  inserted : Bool
  died : Bool

inductive Action
  | session (a : SessionExit.Action)
  | createJournal
  | setJournal
  | insert
  | writeEntry
  | die

def start (session : ManagedSession) (exitEvents : Bool) : State :=
  ⟨SessionExit.start session exitEvents,none,false,false⟩

def State.buffer (s : State) : OutputBuffer := s.exits.session.buffer

def queueOf (b : OutputBuffer) : List JournalEntry := (b.journal.map JournalChannel.queued).getD []

/-- The entries that went to the journal: those in the file and those in the queue. -/
def State.journaled (s : State) : List JournalEntry := s.file.getD [] ++ queueOf s.buffer

def State.hooked (s : State) : Bool := s.buffer.journal.isSome

/-- What an action pushes. -/
def pushes (x : SessionExit.State) : SessionExit.Action → Option (OutputStream × String × Nat)
  | .push stream now => (x.pipes stream).inHand.map fun chunk => (stream,fromUtf8Lossy chunk,now)
  | .pushExit now =>
    match x.watcher with
    | .recorded result => some (.system,SessionExit.exitLine result,now)
    | _ => none
  | _ => none

def roomy (b : OutputBuffer) : Bool := b.journal.all fun channel => channel.queued.length < channel.capacity

/-- An exit code is an `i32`. -/
def inRange (code : Int) : Bool := -2 ^ 31 ≤ code && code < 2 ^ 31

/-- The session manager ends a session that is in its table; the kernel gives an
    exit code of 32 bits; a push finds room in the queue. -/
def admits (s : State) : SessionExit.Action → Bool
  | .sweep => s.inserted
  | .kill => s.inserted
  | .exit code => code.all inRange
  | a => (pushes s.exits a).isNone || roomy s.buffer

def step (s : State) (a : Action) : Option State :=
  if s.died then none
  else match a with
    | .session a => if admits s a then (SessionExit.step s.exits a).map fun exits => { s with exits } else none
    | .createJournal => if s.file = none then some { s with file := some [] } else none
    | .setJournal =>
      if s.file.isSome ∧ s.hooked = false then
        let session := s.exits.session
        some { s with exits := { s.exits with session := { session with
          buffer := session.buffer.setJournal ⟨[],10000⟩ } } }
      else none
    | .insert => if s.hooked then some { s with inserted := true } else none
    | .writeEntry =>
      match s.file, s.buffer.journal with
      | some written, some ⟨entry :: rest,capacity⟩ =>
        let session := s.exits.session
        some { s with
          file := some (written ++ [entry])
          exits := { s.exits with session := { session with buffer := session.buffer.setJournal ⟨rest,capacity⟩ } } }
      | _, _ => none
    | .die => some { s with died := true }

/-! ### What a step of the session pushes -/

def afterPush (b : OutputBuffer) : Option (OutputStream × String × Nat) → OutputBuffer
  | some (stream,data,now) => b.push stream data now
  | none => b

def entryOf (b : OutputBuffer) : Option (OutputStream × String × Nat) → List OutputEntry
  | some (stream,data,now) => [⟨b.nextSeq,stream,data,now⟩]
  | none => []

/-- What a step of the session does to its entries. -/
structure Pushing (x y : SessionExit.State) (pushed : Option (OutputStream × String × Nat)) : Prop where
  buffer : y.session.buffer = afterPush x.session.buffer pushed
  entries : y.session.pushed = x.session.pushed ++ entryOf x.session.buffer pushed

theorem step_pushes {x y : SessionExit.State} {a : SessionExit.Action} (stepped : SessionExit.step x a = some y) :
    Pushing x y (pushes x a) := by
  cases a with
  | push stream now =>
    obtain ⟨chunk,inHand,-,rfl⟩ := SessionExit.step_push stepped
    simp only [pushes,inHand,Option.map_some]
    exact ⟨rfl,rfl⟩
  | pushExit now =>
    obtain ⟨result,recorded,-,rfl⟩ := SessionExit.step_pushExit stepped
    simp only [pushes,recorded]
    exact ⟨rfl,rfl⟩
  | wait result =>
    obtain ⟨-,-,-,rfl⟩ := SessionExit.step_wait stepped
    exact ⟨rfl,(List.append_nil _).symm⟩
  | recordCode =>
    obtain ⟨result,-,-,rfl⟩ := SessionExit.step_recordCode stepped
    exact ⟨rfl,(List.append_nil _).symm⟩
  | flipStatus =>
    obtain ⟨code,-,-,rfl⟩ := SessionExit.step_flipStatus stepped
    exact ⟨rfl,(List.append_nil _).symm⟩
  | announce =>
    obtain ⟨code,-,-,rfl⟩ := SessionExit.step_announce stepped
    exact ⟨rfl,(List.append_nil _).symm⟩
  | endOfFile stream | readError stream error =>
    simp only [SessionExit.step,Option.ite_none_right_eq_some,Option.some.injEq] at stepped
    obtain ⟨-,rfl⟩ := stepped
    cases stream <;> exact ⟨rfl,(List.append_nil _).symm⟩
  | write stream bytes | exit code | read stream count | sweep | kill | killEnds late =>
    simp only [SessionExit.step,Option.ite_none_right_eq_some,Option.some.injEq] at stepped
    obtain ⟨-,rfl⟩ := stepped
    exact ⟨rfl,(List.append_nil _).symm⟩

/-! ### What reaches the journal -/

def State.pushed (s : State) : List JournalEntry := s.exits.session.pushed.map .fromOutputEntry

/-- What a step pushes. -/
def newEntries (s : State) : Action → List OutputEntry
  | .session a => entryOf s.buffer (pushes s.exits a)
  | _ => []

theorem session_step {s t : State} {a : SessionExit.Action} (stepped : step s (.session a) = some t) :
    ∃ y, SessionExit.step s.exits a = some y ∧ admits s a = true ∧ t = { s with exits := y } := by
  simp only [step] at stepped
  split at stepped
  · cases stepped
  · split at stepped
    · next admitted =>
      obtain ⟨y,moved,rfl⟩ := Option.map_eq_some_iff.mp stepped
      exact ⟨y,moved,admitted,rfl⟩
    · cases stepped

theorem admits_room {s : State} {a : SessionExit.Action} (admitted : admits s a = true) (some_ : pushes s.exits a ≠ none) :
    roomy s.buffer = true := by
  cases a with
  | push stream now | pushExit now =>
    simp only [admits,Bool.or_eq_true,Option.isNone_iff_eq_none] at admitted
    exact admitted.resolve_left some_
  | write stream bytes | exit code | read stream count | endOfFile stream | readError stream error | wait result
  | recordCode | flipStatus | announce | sweep | kill | killEnds late => exact absurd rfl some_

/-- Every push adds one entry, and one for the journal once the hook is there. -/
structure Growing (s t : State) (new : List OutputEntry) : Prop where
  pushed : t.exits.session.pushed = s.exits.session.pushed ++ new
  journaled : t.journaled = s.journaled ++ if s.hooked then new.map .fromOutputEntry else []

theorem queueOf_push {b : OutputBuffer} (room : roomy b = true) (stream : OutputStream) (data : String) (now : Nat) :
    queueOf (b.push stream data now) =
      queueOf b ++ if b.journal.isSome then [.fromOutputEntry ⟨b.nextSeq,stream,data,now⟩] else [] := by
  cases hook : b.journal with
  | none => simp [queueOf,OutputBuffer.push,hook]
  | some channel =>
    have space : channel.queued.length < channel.capacity := by simpa [roomy,hook] using room
    simp [queueOf,OutputBuffer.push,hook,JournalChannel.trySend,space]

theorem growing_session {s : State} {y : SessionExit.State} {pushed : Option (OutputStream × String × Nat)}
    (pushing : Pushing s.exits y pushed) (room : pushed ≠ none → roomy s.buffer = true) :
    Growing s { s with exits := y } (entryOf s.buffer pushed) where
  pushed := pushing.entries
  journaled := by
    have buffer : State.buffer { s with exits := y } = afterPush s.buffer pushed := pushing.buffer
    rw [State.journaled,State.journaled,buffer]
    cases pushed with
    | none => simp [afterPush,entryOf]
    | some p =>
      obtain ⟨stream,data,now⟩ := p
      rw [afterPush,queueOf_push (room (by simp)),← List.append_assoc]
      rfl

/-- What the other steps leave as it is. -/
theorem growing_none {s t : State} (pushed : t.exits.session.pushed = s.exits.session.pushed)
    (journaled : t.journaled = s.journaled) : Growing s t [] :=
  ⟨by rw [pushed,List.append_nil],by rw [journaled]; simp⟩

theorem growing_step {s t : State} {a : Action} (stepped : step s a = some t) : Growing s t (newEntries s a) := by
  cases a with
  | session a =>
    obtain ⟨y,moved,admitted,rfl⟩ := session_step stepped
    exact growing_session (step_pushes moved) (admits_room admitted)
  | createJournal =>
    simp only [step,Option.ite_none_left_eq_some,Option.ite_none_right_eq_some,Option.some.injEq] at stepped
    obtain ⟨-,missing,rfl⟩ := stepped
    exact growing_none rfl (by simp [State.journaled,State.buffer,missing])
  | setJournal =>
    simp only [step,Option.ite_none_left_eq_some,Option.ite_none_right_eq_some,Option.some.injEq] at stepped
    obtain ⟨-,⟨-,unhooked⟩,rfl⟩ := stepped
    have empty : s.exits.session.buffer.journal = none := Option.isNone_iff_eq_none.mp (Option.isSome_eq_false_iff.mp unhooked)
    exact growing_none rfl (by simp [State.journaled,State.buffer,queueOf,OutputBuffer.setJournal,empty])
  | insert =>
    simp only [step,Option.ite_none_left_eq_some,Option.ite_none_right_eq_some,Option.some.injEq] at stepped
    obtain ⟨-,-,rfl⟩ := stepped
    exact growing_none rfl rfl
  | die =>
    simp only [step,Option.ite_none_left_eq_some,Option.some.injEq] at stepped
    obtain ⟨-,rfl⟩ := stepped
    exact growing_none rfl rfl
  | writeEntry =>
    simp only [step,Option.ite_none_left_eq_some] at stepped
    obtain ⟨-,stepped⟩ := stepped
    split at stepped
    · next written entry rest capacity file journal =>
      cases stepped
      have held : s.exits.session.buffer.journal = some ⟨entry :: rest,capacity⟩ := journal
      exact growing_none rfl (by simp [State.journaled,State.buffer,queueOf,OutputBuffer.setJournal,file,held])
    · cases stepped

/-- What every run keeps: entries reach the journal only through the hook, which is
    installed once the file is there. -/
structure Linked (s : State) : Prop where
  suffix : ∃ early, s.pushed = early ++ s.journaled
  hooked : s.hooked = true → s.file.isSome = true
  unhooked : s.hooked = false → s.journaled = []

theorem hooked_push {b : OutputBuffer} {pushed : Option (OutputStream × String × Nat)} :
    (afterPush b pushed).journal.isSome = b.journal.isSome := by
  cases pushed with
  | none => rfl
  | some p => exact Option.isSome_map

theorem hooked_step {s t : State} {a : Action} (hooked : s.hooked = true → s.file.isSome = true)
    (stepped : step s a = some t) :
    (s.hooked = true → t.hooked = true) ∧ (t.hooked = true → t.file.isSome = true) := by
  cases a with
  | session a =>
    obtain ⟨y,moved,-,rfl⟩ := session_step stepped
    have buffer : State.hooked { s with exits := y } = s.hooked := by
      simp only [State.hooked,State.buffer,(step_pushes moved).buffer]
      exact hooked_push
    rw [buffer]
    exact ⟨id,hooked⟩
  | createJournal =>
    simp only [step,Option.ite_none_left_eq_some,Option.ite_none_right_eq_some,Option.some.injEq] at stepped
    obtain ⟨-,-,rfl⟩ := stepped
    exact ⟨id,fun _ => rfl⟩
  | setJournal =>
    simp only [step,Option.ite_none_left_eq_some,Option.ite_none_right_eq_some,Option.some.injEq] at stepped
    obtain ⟨-,⟨file,-⟩,rfl⟩ := stepped
    exact ⟨fun _ => rfl,fun _ => file⟩
  | insert =>
    simp only [step,Option.ite_none_left_eq_some,Option.ite_none_right_eq_some,Option.some.injEq] at stepped
    obtain ⟨-,-,rfl⟩ := stepped
    exact ⟨id,hooked⟩
  | die =>
    simp only [step,Option.ite_none_left_eq_some,Option.some.injEq] at stepped
    obtain ⟨-,rfl⟩ := stepped
    exact ⟨id,hooked⟩
  | writeEntry =>
    simp only [step,Option.ite_none_left_eq_some] at stepped
    obtain ⟨-,stepped⟩ := stepped
    split at stepped
    · cases stepped
      exact ⟨fun _ => rfl,fun _ => rfl⟩
    · cases stepped

theorem linked_step {s t : State} {a : Action} (linked : Linked s) (stepped : step s a = some t) : Linked t := by
  have growing := growing_step stepped
  have pushed : t.pushed = s.pushed ++ (newEntries s a).map .fromOutputEntry := by
    rw [State.pushed,growing.pushed,List.map_append]
    rfl
  obtain ⟨keeps,file⟩ := hooked_step linked.hooked stepped
  obtain ⟨early,whole⟩ := linked.suffix
  cases hook : s.hooked with
  | true =>
    have journaled := growing.journaled
    rw [if_pos hook] at journaled
    refine ⟨⟨early,by rw [pushed,journaled,whole,List.append_assoc]⟩,file,fun off => ?_⟩
    rw [keeps hook] at off
    cases off
  | false =>
    have journaled := growing.journaled
    rw [hook,linked.unhooked hook] at journaled
    have nothing : t.journaled = [] := by simpa using journaled
    exact ⟨⟨t.pushed,by rw [nothing,List.append_nil]⟩,file,fun _ => nothing⟩

theorem linked_start {session : ManagedSession} {bufferSize : Nat} {exitEvents : Bool}
    (spawned : session = .spawn bufferSize ∨ session = .spawnPty bufferSize) : Linked (start session exitEvents) := by
  have nothing : (start session exitEvents).journaled = [] := by obtain rfl | rfl := spawned <;> rfl
  refine ⟨⟨(start session exitEvents).pushed,by rw [nothing,List.append_nil]⟩,fun hook => ?_,fun _ => nothing⟩
  obtain rfl | rfl := spawned <;> cases hook

/-- Every push finds the hook installed. -/
def hookedFirst (s : State) : Action → Bool
  | .session a => (pushes s.exits a).isNone || s.hooked
  | _ => true

theorem newEntries_eq_nil {s : State} {a : Action} : (hookedFirst s a = true ↔ newEntries s a = [] ∨ s.hooked = true) := by
  cases a with
  | session a =>
    simp only [hookedFirst,newEntries,Bool.or_eq_true,Option.isNone_iff_eq_none]
    cases pushes s.exits a with
    | none => simp [entryOf]
    | some p => simp [entryOf]
  | createJournal | setJournal | insert | writeEntry | die => simp [hookedFirst,newEntries]

/-- The journal is complete exactly when no entry came before the hook. -/
theorem journaled_all_iff {session : ManagedSession} {bufferSize : Nat} {exitEvents : Bool} {actions : List Action} {s : State}
    (spawned : session = .spawn bufferSize ∨ session = .spawnPty bufferSize)
    (ran : run step (start session exitEvents) actions = some s) :
    s.pushed = s.journaled ↔ Along step (fun s a => hookedFirst s a = true) (start session exitEvents) actions := by
  have grows : ∀ s a t, Linked s → step s a = some t →
      (t.pushed = t.journaled ↔ s.pushed = s.journaled ∧ hookedFirst s a = true) := by
    intro s a t linked stepped
    have growing := growing_step stepped
    have pushed : t.pushed = s.pushed ++ (newEntries s a).map .fromOutputEntry := by
      rw [State.pushed,growing.pushed,List.map_append]
      rfl
    rw [newEntries_eq_nil,pushed,growing.journaled]
    by_cases hook : s.hooked = true
    · simp [hook]
    · have nothing : s.journaled = [] := linked.unhooked (by simpa using hook)
      simp [hook,nothing]
  refine @last_iff_along _ _ step Linked (fun s => s.pushed = s.journaled) (fun s a => hookedFirst s a = true)
    (fun _ _ _ => linked_step) ?_ ?_ _ _ _ (linked_start spawned) ?_ ran
  · intro s a t linked same stepped
    rw [grows s a t linked stepped]
    exact and_iff_right same
  · intro s a t linked stepped same
    exact ((grows s a t linked stepped).mp same).1
  · obtain rfl | rfl := spawned <;> rfl

/-! ### The buffer that is rebuilt -/

def key (e : OutputEntry) : Nat × OutputStream × String := (e.seq,e.stream,e.data)

/-- Two buffers that differ at most in the times of their entries and in their journals. -/
structure SameKeys (b c : OutputBuffer) : Prop where
  entries : c.entries.map key = b.entries.map key
  nextSeq : c.nextSeq = b.nextSeq
  maxEntries : c.maxEntries = b.maxEntries

theorem sameKeys_push {b c : OutputBuffer} (same : SameKeys b c) (stream : OutputStream) (data : String) (now later : Nat) :
    SameKeys (b.push stream data now) (c.push stream data later) where
  entries := by
    have length : c.entries.length = b.entries.length := by simpa using congrArg List.length same.entries
    have kept : c.kept.map key = b.kept.map key := by
      unfold OutputBuffer.kept
      rw [same.maxEntries,length]
      split
      · rw [List.map_drop,List.map_drop,same.entries]
      · exact same.entries
    simp [OutputBuffer.push,kept,key,same.nextSeq]
  nextSeq := congrArg (· + 1) same.nextSeq
  maxEntries := same.maxEntries

theorem rebuilt_append {bufferSize now : Nat} (entries : List OutputEntry) (e : OutputEntry) :
    rebuilt bufferSize (entries ++ [e]) now = (rebuilt bufferSize entries now).push e.stream e.data now := by
  simp [rebuilt]

theorem rebuilt_nextSeq {bufferSize now : Nat} (entries : List OutputEntry) :
    (rebuilt bufferSize entries now).nextSeq = entries.length + 1 := by
  induction entries using List.reverseRecOn with
  | nil => rfl
  | append_singleton entries e ih =>
    have next : (rebuilt bufferSize (entries ++ [e]) now).nextSeq = (rebuilt bufferSize entries now).nextSeq + 1 := by
      rw [rebuilt_append]; rfl
    rw [next,ih,List.length_append,List.length_singleton]

/-- The buffer is what its entries would build from nothing. -/
def Mirrored (bufferSize : Nat) (s : State) : Prop :=
  ∀ now, SameKeys s.buffer (rebuilt bufferSize s.exits.session.pushed now)

theorem mirrored_frame {bufferSize : Nat} {s t : State} (mirrored : Mirrored bufferSize s)
    (pushed : t.exits.session.pushed = s.exits.session.pushed) (entries : t.buffer.entries = s.buffer.entries)
    (nextSeq : t.buffer.nextSeq = s.buffer.nextSeq) (maxEntries : t.buffer.maxEntries = s.buffer.maxEntries) :
    Mirrored bufferSize t := by
  intro now
  rw [pushed]
  obtain ⟨same,next,most⟩ := mirrored now
  exact ⟨by rw [same,entries],by rw [next,nextSeq],by rw [most,maxEntries]⟩

theorem mirrored_step {bufferSize : Nat} {s t : State} {a : Action} (mirrored : Mirrored bufferSize s)
    (stepped : step s a = some t) : Mirrored bufferSize t := by
  cases a with
  | session a =>
    obtain ⟨y,moved,-,rfl⟩ := session_step stepped
    have pushing := step_pushes moved
    generalize pushes s.exits a = pushed at pushing
    have buffer : State.buffer { s with exits := y } = afterPush s.buffer pushed := pushing.buffer
    cases pushed with
    | none =>
      have pushed : y.session.pushed = s.exits.session.pushed := by rw [pushing.entries,entryOf,List.append_nil]
      have same : State.buffer { s with exits := y } = s.buffer := buffer
      exact mirrored_frame mirrored pushed (by rw [same]) (by rw [same]) (by rw [same])
    | some p =>
      obtain ⟨stream,data,first⟩ := p
      intro now
      rw [buffer,pushing.entries]
      simp only [entryOf,afterPush,rebuilt_append]
      exact sameKeys_push (mirrored now) stream data first now
  | createJournal =>
    simp only [step,Option.ite_none_left_eq_some,Option.ite_none_right_eq_some,Option.some.injEq] at stepped
    obtain ⟨-,-,rfl⟩ := stepped
    exact mirrored
  | setJournal =>
    simp only [step,Option.ite_none_left_eq_some,Option.ite_none_right_eq_some,Option.some.injEq] at stepped
    obtain ⟨-,-,rfl⟩ := stepped
    exact mirrored_frame mirrored rfl rfl rfl rfl
  | insert =>
    simp only [step,Option.ite_none_left_eq_some,Option.ite_none_right_eq_some,Option.some.injEq] at stepped
    obtain ⟨-,-,rfl⟩ := stepped
    exact mirrored
  | die =>
    simp only [step,Option.ite_none_left_eq_some,Option.some.injEq] at stepped
    obtain ⟨-,rfl⟩ := stepped
    exact mirrored
  | writeEntry =>
    simp only [step,Option.ite_none_left_eq_some] at stepped
    obtain ⟨-,stepped⟩ := stepped
    split at stepped
    · cases stepped
      exact mirrored_frame mirrored rfl rfl rfl rfl
    · cases stepped

/-- The recovered buffer holds the same entries, and a client that attaches again with any
    number gets the same ones after it, and the same count of those that are gone. -/
structure Restored (live recovered : OutputBuffer) : Prop where
  same : recovered.entries.map key = live.entries.map key
  missed : ∀ since, (recovered.readSince since).1.map key = (live.readSince since).1.map key
  dropped : ∀ since, (recovered.readSince since).2 = (live.readSince since).2

theorem seqs_of_keys {b c : OutputBuffer} (same : c.entries.map key = b.entries.map key) :
    c.entries.map OutputEntry.seq = b.entries.map OutputEntry.seq := by
  have seqs := congrArg (List.map Prod.fst) same
  simpa [Function.comp_def,key] using seqs

theorem nextSeq_of_keys {b c : OutputBuffer} (same : c.entries.map key = b.entries.map key) : c.nextSeq = b.nextSeq := by
  have length : c.entries.length = b.entries.length := by simpa using congrArg List.length same
  have seqs := seqs_of_keys same
  cases held : b.entries with
  | nil =>
    have empty : c.entries = [] := List.length_eq_zero_iff.mp (by rw [length,held]; rfl)
    rw [b.live held,c.live empty]
  | cons e rest =>
    have positive : 0 < b.entries.length := by rw [held]; simp
    rw [c.sequenced,b.sequenced,length] at seqs
    have first := congrArg List.head? seqs
    rw [List.head?_range',List.head?_range',if_neg (by omega),if_neg (by omega),Option.some.injEq] at first
    have room := b.room
    have room' := c.room
    omega

theorem restored_iff {b c : OutputBuffer} : Restored b c ↔ c.entries.map key = b.entries.map key := by
  refine ⟨Restored.same,fun same => ⟨same,fun since => ?_,fun since => ?_⟩⟩
  · have kept : ∀ d : OutputBuffer, (d.readSince since).1.map key = (d.entries.map key).filter fun k => since < k.1 := by
      intro d
      rw [List.filter_map]
      rfl
    rw [kept,kept,same]
  · have length : c.entries.length = b.entries.length := by simpa using congrArg List.length same
    have oldest : c.oldestAvailable = b.oldestAvailable := by
      rw [c.oldestAvailable_eq,b.oldestAvailable_eq,nextSeq_of_keys same,length]
    simp only [OutputBuffer.readSince,oldest]

/-- What the journal holds rebuilds the buffer exactly when it holds all that was pushed. -/
theorem restored_rebuilt_iff {bufferSize now : Nat} {s : State} (linked : Linked s) (mirrored : Mirrored bufferSize s) :
    Restored s.buffer (rebuilt bufferSize (s.journaled.map toOutputEntry) now) ↔ s.pushed = s.journaled := by
  rw [restored_iff]
  constructor
  · intro same
    have next := nextSeq_of_keys same
    have live := (mirrored now).nextSeq
    rw [rebuilt_nextSeq] at next live
    obtain ⟨early,whole⟩ := linked.suffix
    have lengths := congrArg List.length whole
    simp only [State.pushed,List.length_map,List.length_append] at lengths next
    have none_ : early = [] := List.length_eq_zero_iff.mp (by omega)
    rw [whole,none_,List.nil_append]
  · intro all
    have back : s.journaled.map toOutputEntry = s.exits.session.pushed := by
      rw [← all,State.pushed,List.map_map]
      simp [Function.comp_def]
    rw [back]
    exact (mirrored now).entries

/-! ### The end of a session -/

def Reported (s : State) : Prop := s.journaled.any tellsExit = true

def begun : SessionExit.Watcher → Bool
  | .waiting => false
  | _ => true

/-- The process is gone, or the watcher has given up on it. -/
def ended (s : State) : Bool := s.exits.process ≠ .running || begun s.exits.watcher

/-- What `wait` returned, until the exit line is pushed. -/
def waited : SessionExit.Watcher → Option (Except String (Option Int))
  | .waited result => some result
  | .recorded result => some result
  | _ => none

/-- What every run keeps about the end of its session. -/
structure Fated (s : State) : Prop where
  untold : s.exits.watcher.past = false → ¬ Reported s
  flipped : s.exits.session.status = .exited → s.exits.watcher.past = true
  aborted : s.exits.session.exitWatcher = false → s.exits.watcher.past = true ∨ s.exits.process ≠ .running
  exited : ∀ code, s.exits.process = .exited (some code) → inRange code = true
  returned : ∀ code, waited s.exits.watcher = some (.ok (some code)) → inRange code = true

/-- A step of the session that its end does not show in. -/
structure Quiet (x y : SessionExit.State) : Prop where
  watcher : y.watcher = x.watcher
  process : y.process = x.process
  status : y.session.status = x.session.status
  exitWatcher : y.session.exitWatcher = x.session.exitWatcher

theorem inRange_iff {code : Int} : inRange code = true ↔ -2 ^ 31 ≤ code ∧ code < 2 ^ 31 := by
  simp [inRange]

/-- Exactly the line of a process whose wait returned tells an exit code. -/
theorem tellsExit_exitLine {seq now : Nat} {result : Except String (Option Int)}
    (range : ∀ code, result = .ok (some code) → inRange code = true) :
    tellsExit (.fromOutputEntry ⟨seq,.system,SessionExit.exitLine result,now⟩) = result.isOk := by
  cases result with
  | error e => simp [tellsExit,JournalEntry.fromOutputEntry,parseExitCode_waitError,Except.isOk,Except.toBool]
  | ok code =>
    have line : (parseExitCode (SessionExit.exitLine (.ok code))).isSome = true := by
      cases code with
      | none =>
        have unknown : SessionExit.exitLine (.ok none) = SessionExit.exitLine (.ok (some (-1))) := rfl
        rw [unknown,parseExitCode_exitLine (by omega) (by omega)]
        rfl
      | some code =>
        obtain ⟨least,most⟩ := inRange_iff.mp (range code rfl)
        rw [parseExitCode_exitLine least most]
        rfl
    simp [tellsExit,JournalEntry.fromOutputEntry,line,Except.isOk,Except.toBool]

theorem tellsExit_program {e : OutputEntry} (program : e.stream ≠ .system) : tellsExit (.fromOutputEntry e) = false := by
  obtain ⟨seq,stream,data,now⟩ := e
  cases stream with
  | stdout | stderr => simp [tellsExit,JournalEntry.fromOutputEntry]
  | system => exact absurd rfl program

/-- The steps of a session that have nothing to do with its end. -/
def quiet : SessionExit.Action → Bool
  | .write _ _ | .read _ _ | .push _ _ | .endOfFile _ | .readError _ _ | .kill => true
  | _ => false

theorem quiet_step {x y : SessionExit.State} {a : SessionExit.Action} (calm : quiet a = true)
    (stepped : SessionExit.step x a = some y) : Quiet x y := by
  cases a with
  | push stream now =>
    obtain ⟨chunk,-,-,rfl⟩ := SessionExit.step_push stepped
    exact ⟨rfl,rfl,rfl,rfl⟩
  | endOfFile stream | readError stream error =>
    simp only [SessionExit.step,Option.ite_none_right_eq_some,Option.some.injEq] at stepped
    obtain ⟨-,rfl⟩ := stepped
    cases stream <;> exact ⟨rfl,rfl,rfl,rfl⟩
  | write stream bytes | read stream count | kill =>
    simp only [SessionExit.step,Option.ite_none_right_eq_some,Option.some.injEq] at stepped
    obtain ⟨-,rfl⟩ := stepped
    exact ⟨rfl,rfl,rfl,rfl⟩
  | exit code | wait result | recordCode | pushExit now | flipStatus | announce | sweep | killEnds late => cases calm

/-- Only the exit watcher pushes to the stream of the system. -/
theorem pushes_program {x y : SessionExit.State} {a : SessionExit.Action} (other : ∀ now, a ≠ .pushExit now)
    (stepped : SessionExit.step x a = some y) : ∀ p, pushes x a = some p → p.1 ≠ .system := by
  intro p pushed
  cases a with
  | push stream now =>
    obtain ⟨chunk,inHand,reads,-⟩ := SessionExit.step_push stepped
    simp only [pushes,inHand,Option.map_some,Option.some.injEq] at pushed
    subst pushed
    rintro rfl
    exact absurd reads Bool.false_ne_true
  | pushExit now => exact absurd rfl (other now)
  | write stream bytes | exit code | read stream count | endOfFile stream | readError stream error | wait result
  | recordCode | flipStatus | announce | sweep | kill | killEnds late => cases pushed

theorem reported_growing {s t : State} {new : List OutputEntry} (growing : Growing s t new) :
    Reported t ↔ Reported s ∨ (s.hooked = true ∧ (new.map JournalEntry.fromOutputEntry).any tellsExit = true) := by
  rw [Reported,growing.journaled,List.any_append,Bool.or_eq_true,Reported]
  cases s.hooked <;> simp

/-- No other step reports an exit. -/
theorem reported_other {s t : State} {a : Action} (other : ∀ now, a ≠ .session (.pushExit now)) (stepped : step s a = some t) :
    Reported t ↔ Reported s := by
  rw [reported_growing (growing_step stepped)]
  refine or_iff_left fun both => ?_
  cases a with
  | session a =>
    obtain ⟨y,moved,-,rfl⟩ := session_step stepped
    have program := pushes_program (fun now same => other now (by rw [same])) moved
    simp only [newEntries] at both
    cases pushed : pushes s.exits a with
    | none => simp [pushed,entryOf] at both
    | some p =>
      simp only [pushed,entryOf,List.map_cons,List.map_nil,List.any_cons,List.any_nil,Bool.or_false] at both
      rw [tellsExit_program (program p pushed)] at both
      cases both.2
  | createJournal | setJournal | insert | writeEntry | die => cases both.2

/-- The exit line is journaled when the hook is there, and tells a code when the wait returned. -/
theorem reported_pushExit {s t : State} {now : Nat} {result : Except String (Option Int)} (fated : Fated s)
    (recorded : s.exits.watcher = .recorded result) (stepped : step s (.session (.pushExit now)) = some t) :
    Reported t ↔ s.hooked = true ∧ result.isOk = true := by
  have range : ∀ code, result = .ok (some code) → inRange code = true :=
    fun code same => fated.returned code (by rw [recorded,same]; rfl)
  have unreported : ¬ Reported s := fated.untold (by rw [recorded]; rfl)
  rw [reported_growing (growing_step stepped)]
  simp [unreported,newEntries,pushes,recorded,entryOf,tellsExit_exitLine range]

theorem past_begun {watcher : SessionExit.Watcher} (past : watcher.past = true) : begun watcher = true := by
  cases watcher with
  | waiting => cases past
  | waited result | recorded result | told code | flipped code | ended => rfl

/-- The session as the steps about its journal leave it. -/
theorem journal_step {s t : State} {a : Action} (other : ∀ a', a ≠ .session a') (stepped : step s a = some t) :
    Quiet s.exits t.exits ∧ (t.died = true ↔ a = .die) := by
  cases a with
  | session a => exact absurd rfl (other a)
  | createJournal | setJournal | insert =>
    simp only [step,Option.ite_none_left_eq_some,Option.ite_none_right_eq_some,Option.some.injEq] at stepped
    obtain ⟨living,-,rfl⟩ := stepped
    exact ⟨⟨rfl,rfl,rfl,rfl⟩,by simpa using living⟩
  | die =>
    simp only [step,Option.ite_none_left_eq_some,Option.some.injEq] at stepped
    obtain ⟨-,rfl⟩ := stepped
    exact ⟨⟨rfl,rfl,rfl,rfl⟩,by simp⟩
  | writeEntry =>
    simp only [step,Option.ite_none_left_eq_some] at stepped
    obtain ⟨living,stepped⟩ := stepped
    split at stepped
    · cases stepped
      exact ⟨⟨rfl,rfl,rfl,rfl⟩,by simpa using living⟩
    · cases stepped

theorem fated_quiet {s t : State} (fated : Fated s) (quiet : Quiet s.exits t.exits) (reported : Reported t ↔ Reported s) :
    Fated t where
  untold := by rw [quiet.watcher,reported]; exact fated.untold
  flipped := by rw [quiet.watcher,quiet.status]; exact fated.flipped
  aborted := by rw [quiet.exitWatcher,quiet.watcher,quiet.process]; exact fated.aborted
  exited := by rw [quiet.process]; exact fated.exited
  returned := by rw [quiet.watcher]; exact fated.returned

/-- While the watcher has pushed nothing. -/
theorem fated_ahead {s t : State} (fated : Fated s) (before : s.exits.watcher.past = false) (reported : Reported t ↔ Reported s)
    (process : t.exits.process = s.exits.process) (status : t.exits.session.status = s.exits.session.status)
    (exitWatcher : t.exits.session.exitWatcher = s.exits.session.exitWatcher)
    (returned : ∀ code, waited t.exits.watcher = some (.ok (some code)) → inRange code = true) : Fated t where
  untold _ := reported.not.mpr (fated.untold before)
  flipped exited := by
    rw [fated.flipped (status ▸ exited)] at before
    cases before
  aborted gone := by
    rw [process]
    exact .inr ((fated.aborted (exitWatcher ▸ gone)).resolve_left (by rw [before]; simp))
  exited := by rw [process]; exact fated.exited
  returned := returned

/-- Once the exit line is pushed. -/
theorem fated_past {s : State} (past : s.exits.watcher.past = true)
    (exited : ∀ code, s.exits.process = .exited (some code) → inRange code = true) : Fated s where
  untold before := by rw [past] at before; cases before
  flipped _ := past
  aborted _ := .inl past
  exited := exited
  returned code returned := by
    cases watcher : s.exits.watcher with
    | waiting | waited result | recorded result => rw [watcher] at past; cases past
    | told code | flipped code | ended => rw [watcher] at returned; cases returned

theorem fated_step {s t : State} {a : Action} (fated : Fated s) (stepped : step s a = some t) : Fated t := by
  by_cases own : ∃ a', a = .session a'
  · obtain ⟨a,rfl⟩ := own
    obtain ⟨y,moved,admitted,rfl⟩ := session_step stepped
    cases a with
    | write stream bytes | read stream count | push stream now | endOfFile stream | readError stream error | kill =>
      exact fated_quiet fated (quiet_step rfl moved) (reported_other (fun _ same => by cases same) stepped)
    | exit code =>
      have reported := reported_other (fun _ same => by cases same) stepped
      simp only [SessionExit.step,Option.ite_none_right_eq_some,Option.some.injEq] at moved
      obtain ⟨-,rfl⟩ := moved
      refine ⟨fun before => reported.not.mpr (fated.untold before),fated.flipped,fun _ => .inr (by simp),?_,fated.returned⟩
      rintro code ⟨⟩
      exact admitted
    | wait result =>
      have reported := reported_other (fun _ same => by cases same) stepped
      obtain ⟨waiting,-,returns,rfl⟩ := SessionExit.step_wait moved
      have before : s.exits.watcher.past = false := by rw [waiting]; rfl
      refine fated_ahead fated before reported rfl rfl rfl ?_
      rintro code ⟨⟩
      simp only [SessionExit.waitReturns] at returns
      split at returns
      · cases returns
      · next left gone => exact fated.exited code (by rw [gone,← of_decide_eq_true returns])
      · simp at returns
    | recordCode =>
      have reported := reported_other (fun _ same => by cases same) stepped
      obtain ⟨result,waited_,-,rfl⟩ := SessionExit.step_recordCode moved
      have before : s.exits.watcher.past = false := by rw [waited_]; rfl
      refine fated_ahead fated before reported rfl rfl rfl ?_
      rintro code ⟨⟩
      exact fated.returned code (by rw [waited_]; rfl)
    | pushExit now =>
      obtain ⟨result,-,-,rfl⟩ := SessionExit.step_pushExit moved
      exact fated_past rfl fated.exited
    | flipStatus =>
      obtain ⟨code,-,-,rfl⟩ := SessionExit.step_flipStatus moved
      exact fated_past rfl fated.exited
    | announce =>
      obtain ⟨code,-,-,rfl⟩ := SessionExit.step_announce moved
      exact fated_past rfl fated.exited
    | sweep =>
      have reported := reported_other (fun _ same => by cases same) stepped
      simp only [SessionExit.step,Option.ite_none_right_eq_some,Option.some.injEq] at moved
      obtain ⟨⟨-,exited⟩,rfl⟩ := moved
      have past : s.exits.watcher.past = true := fated.flipped exited
      exact ⟨fun before => reported.not.mpr (fated.untold before),fun _ => past,fun _ => .inl past,fated.exited,fated.returned⟩
    | killEnds late =>
      have reported := reported_other (fun _ same => by cases same) stepped
      simp only [SessionExit.step,Option.ite_none_right_eq_some,Option.some.injEq] at moved
      obtain ⟨⟨-,ends⟩,rfl⟩ := moved
      refine ⟨fun before => reported.not.mpr (fated.untold before),fated.flipped,fun _ => ?_,?_,fated.returned⟩
      · rcases ends with rfl | exited
        · right
          by_cases running : s.exits.process = .running
          · simp [running]
          · simp [running]
        · exact .inl (fated.flipped exited)
      · intro code gone
        dsimp only at gone
        split at gone
        · cases gone
        · exact fated.exited code gone
  · have other : ∀ a', a ≠ .session a' := fun a' same => own ⟨a',same⟩
    exact fated_quiet fated (journal_step other stepped).1 (reported_other (fun now => other _) stepped)

theorem fated_start {session : ManagedSession} {bufferSize : Nat} {exitEvents : Bool}
    (spawned : session = .spawn bufferSize ∨ session = .spawnPty bufferSize) : Fated (start session exitEvents) where
  untold _ := by obtain rfl | rfl := spawned <;> exact Bool.false_ne_true
  flipped exited := by obtain rfl | rfl := spawned <;> cases exited
  aborted gone := by obtain rfl | rfl := spawned <;> cases gone
  exited _ gone := by cases gone
  returned _ returned := by cases returned

/-! ### After a restart -/

section
variable {serde : Serde} {metadata : SessionMetadata} {session : ManagedSession} {bufferSize : Nat} {exitEvents : Bool}
  {actions : List Action} {s : State} {written : List JournalEntry} {dir : Directory} {id : String}

/-- A file that the writer has finished holds all that went to the journal. -/
theorem journaled_written (file : s.file = some written) (drained : queueOf s.buffer = []) : s.journaled = written := by
  simp [State.journaled,file,drained]

theorem recovered_arch (header : serde.metadata.Reads metadata) (reads : ∀ entry ∈ written, serde.entry.Reads entry)
    (found : dir.lookup id = some (journalText serde metadata written)) :
    (⟨id,metadata,written.map toOutputEntry,exitCodeOf written⟩ : ArchivedSession) ∈ recoverSessions serde dir :=
  mem_recoverSessions.mpr ⟨_,found,recoverSingleJournal_journalText header reads⟩

/-- A restart restores the buffer of a session that was running when the server died, and with
    it what a client that attaches again gets, exactly when the hook was installed before the
    first entry and the session is not among the oldest ones beyond the limit. -/
theorem recovery_restores_iff {maxSessions now : Nat} {order : List (String × Nat) → List (String × Nat)}
    (spawned : session = .spawn bufferSize ∨ session = .spawnPty bufferSize)
    (ran : run step (start session exitEvents) actions = some s) (untold : s.exits.watcher.past = false)
    (file : s.file = some written) (drained : queueOf s.buffer = []) (header : serde.metadata.Reads metadata)
    (reads : ∀ entry ∈ written, serde.entry.Reads entry)
    (found : dir.lookup id = some (journalText serde metadata written)) :
    (∃ e, (recoverFromJournal maxSessions bufferSize now order ∅ (recoverSessions serde dir)).lookup id = some e ∧
        Restored s.buffer e.session.buffer) ↔
      Along step (fun s a => hookedFirst s a = true) (start session exitEvents) actions ∧
        id ∉ excess maxSessions order (loadArchived bufferSize now ∅ (recoverSessions serde dir)) := by
  have linked : Linked s := run_preserves (fun _ _ _ => linked_step) (linked_start spawned) ran
  have fated : Fated s := run_preserves (fun _ _ _ => fated_step) (fated_start spawned) ran
  have mirrored : Mirrored bufferSize s := by
    refine run_preserves (fun _ _ _ => mirrored_step) (fun now => ?_) ran
    obtain rfl | rfl := spawned <;> exact ⟨rfl,rfl,rfl⟩
  have whole := journaled_written file drained
  have running : exitCodeOf written = none := by
    have silent := fated.untold untold
    rw [Reported,whole,← exitCodeOf_isSome] at silent
    simpa using silent
  have member := recovered_arch header reads found
  have loaded := @loadArchived_running bufferSize now ∅ (recoverSessions serde dir) _ running member
    fun other also same => recoverSessions_one member also same
  rw [← journaled_all_iff spawned ran,← @restored_rebuilt_iff bufferSize now s linked mirrored,whole,lookup_recoverFromJournal]
  dsimp only at loaded
  split
  · next beyond => simp [beyond]
  · next kept =>
    rw [loaded]
    simp [kept,archivedEntry,archived]

end

/-! In the runs below, what `serde_json` writes is given for texts without a character to escape,
and it reads what it wrote. -/

def readBack {Value : Type} (text : Value → List Char) (known : List Value) : Format Value :=
  ⟨text,fun line => match known.find? fun value => text value = line with
    | some value => .ok value
    | none => .error "expected value"⟩

def quoted (text : String) : List Char := '"' :: text.toList ++ ['"']

def metadataText (m : SessionMetadata) : List Char :=
  "\x7b\"v\":".toList ++ (toString m.v).toList ++ ",\"pid\":".toList ++ (toString m.pid).toList ++
    ",\"shell\":".toList ++ quoted m.shell ++ ",\"wd\":".toList ++ quoted m.workingDir ++
    ",\"persistent\":".toList ++ (toString m.persistent).toList ++ ",\"pty\":".toList ++ (toString m.pty).toList ++
    ",\"created\":".toList ++ (toString m.created).toList ++ ['\x7d']

def entryText (e : JournalEntry) : List Char :=
  "\x7b\"s\":".toList ++ (toString e.s).toList ++ ",\"t\":".toList ++ ['"',e.t,'"'] ++ ",\"d\":".toList ++ quoted e.d ++
    ",\"ts\":".toList ++ (toString e.ts).toList ++ ['\x7d']

def shellMetadata : SessionMetadata := ⟨1,7,"/bin/sh","/",true,false,5⟩

def plainSerde (known : List JournalEntry) : Serde := ⟨readBack metadataText [shellMetadata],readBack entryText known⟩

/-- The journal of one session, in a directory of its own. -/
def onlyJournal (known written : List JournalEntry) : Directory :=
  (∅ : Directory).insert "s" (journalText (plainSerde known) shellMetadata written)

/-- A program writes two bytes, and the server dies. -/
def hookThenWrite : List Action :=
  [.createJournal,.setJournal,.insert,.session (.write .stdout [0x68,0x69]),.session (.read .stdout 2),
    .session (.push .stdout 3),.writeEntry,.die]

/-- It writes its first byte before its journal is there. -/
def writeThenHook : List Action :=
  [.session (.write .stdout [0x68,0x69]),.session (.read .stdout 1),.session (.push .stdout 3),.createJournal,.setJournal,
    .insert,.session (.read .stdout 1),.session (.push .stdout 4),.writeEntry,.die]

def played (actions : List Action) : Option State := run step (start (.spawn 16) false) actions

def bothBytes : JournalEntry := ⟨1,'o',"hi",3⟩

def secondByte : JournalEntry := ⟨2,'o',"i",4⟩

theorem recovery_restores_played :
    ∃ e, (recoverFromJournal 4 16 9 id ∅ (recoverSessions (plainSerde [bothBytes])
      (onlyJournal [bothBytes] [bothBytes]))).lookup "s" = some e ∧
      Restored ((played hookThenWrite).get (by decide +kernel)).buffer e.session.buffer :=
  (@recovery_restores_iff (plainSerde [bothBytes]) shellMetadata (.spawn 16) 16 false hookThenWrite
    ((played hookThenWrite).get (by decide +kernel)) [bothBytes] (onlyJournal [bothBytes] [bothBytes]) "s" 4 9 id
    (.inl rfl) (Option.some_get _).symm (by decide +kernel) (by decide +kernel) (by decide +kernel) (by decide +kernel)
    (by decide +kernel) (by decide +kernel)).mpr ⟨by decide +kernel,by decide +kernel⟩

/-- The second byte comes back under the number of the first one, which is gone. -/
theorem recovery_renumbers :
    ¬ ∀ (serde : Serde) (metadata : SessionMetadata) (session : ManagedSession) (bufferSize : Nat) (exitEvents : Bool)
        (actions : List Action) (s : State) (written : List JournalEntry) (dir : Directory) (id : String),
      session = .spawn bufferSize ∨ session = .spawnPty bufferSize → run step (start session exitEvents) actions = some s →
      s.exits.watcher.past = false → s.file = some written → queueOf s.buffer = [] → serde.metadata.Reads metadata →
      (∀ entry ∈ written, serde.entry.Reads entry) → dir.lookup id = some (journalText serde metadata written) →
      ∃ e, (recoverFromJournal 4 bufferSize 9 (fun ids => ids) ∅ (recoverSessions serde dir)).lookup id = some e ∧
        Restored s.buffer e.session.buffer := by
  intro claim
  obtain ⟨e,found,restored⟩ := claim (plainSerde [secondByte]) shellMetadata (.spawn 16) 16 false writeThenHook
    ((played writeThenHook).get (by decide +kernel)) [secondByte] (onlyJournal [secondByte] [secondByte]) "s"
    (.inl rfl) (Option.some_get _).symm (by decide +kernel) (by decide +kernel) (by decide +kernel) (by decide +kernel)
    (by decide +kernel) (by decide +kernel)
  have live : ((played writeThenHook).get (by decide +kernel)).buffer.entries.map key =
      [(1,.stdout,"h"),(2,.stdout,"i")] := by decide +kernel
  have recovered : ((recoverFromJournal 4 16 9 (fun ids => ids) ∅ (recoverSessions (plainSerde [secondByte])
      (onlyJournal [secondByte] [secondByte]))).lookup "s").map (fun e => e.session.buffer.entries.map key) =
        some [(1,.stdout,"i")] := by decide +kernel
  rw [found,Option.map_some,restored.same,live] at recovered
  exact absurd recovered (by decide)

end Sctl.Recovery
