import Sctl.Files
import Sctl.Runs
import Sctl.Tables

/-!
Data in memory that is saved to a file now and then. A change sets a flag; a
save clears the flag, takes the lock of the data, writes the encoded data to a
temporary file and renames it over the file. Any of these steps can fail, saves
can overlap where they share the lock, and a flag can be set after the lock of
the change is released. What must hold is that without a save or a change under
way the flag is set or the file has the data.
-/
namespace Sctl.WriteBehind
open Sctl.Files Sctl.Runs

inductive Name
  | file
  | temporary
deriving DecidableEq

/-- A text format; what it writes it reads back. -/
structure Codec (Data : Type) where
  encode : Data → Option Bytes
  decode : Bytes → Option Data
  reads : ∀ d text, encode d = some text → decode text = some d

/-- What a store is made of: its format, the data without a file, its changes, whether saves
    exclude each other, and whether a change sets the flag only after its lock. -/
structure Design (Data Change : Type) where
  codec : Codec Data
  empty : Data
  /-- The data after a change, if it changes anything. -/
  apply : Change → Data → Option Data
  exclusive : Bool
  lateFlag : Bool

/-- Where a save is. -/
inductive Phase
  | waiting
  | locked (text : Bytes)
  | writing (text : Bytes) (ino written : Nat)
  | ended (saved : Bool)
deriving DecidableEq

def Phase.holds : Phase → Bool
  | .locked _ | .writing .. => true
  | .waiting | .ended _ => false

def Phase.finished : Phase → Bool
  | .ended _ => true
  | _ => false

structure State (Data : Type) where
  data : Data
  dirty : Bool
  /-- Changes that have released the lock and not set the flag. -/
  marking : Nat
  disk : Disk Name
  saves : List Phase

inductive Action (Change : Type)
  | change (c : Change)
  | mark
  /-- A save looks at the flag and clears it. -/
  | swap
  | lock (save : Nat)
  | create (save now : Nat)
  | write (save now count : Nat)
  | rename (save : Nat)
  /-- The file cannot be created, written or renamed. -/
  | fail (save : Nat)

variable {Data Change : Type}

def State.move (s : State Data) (save : Nat) (phase : Phase) : State Data := { s with saves := s.saves.set save phase }

def step (design : Design Data Change) (s : State Data) : Action Change → Option (State Data)
  | .change c =>
    if s.saves.any Phase.holds then none
    else match design.apply c s.data with
      | none => some s
      | some data =>
        if design.lateFlag then some { s with data, marking := s.marking + 1 } else some { s with data, dirty := true }
  | .mark => if s.marking = 0 then none else some { s with dirty := true, marking := s.marking - 1 }
  | .swap => if s.dirty then some { s with dirty := false, saves := s.saves ++ [.waiting] } else some s
  | .lock save =>
    match s.saves[save]? with
    | some .waiting =>
      if design.exclusive && s.saves.any Phase.holds then none
      else match design.codec.encode s.data with
        | some text => some (s.move save (.locked text))
        | none => some (s.move save (.ended false))
    | _ => none
  | .create save now =>
    match s.saves[save]? with
    | some (.locked text) =>
      let opened := s.disk.create .temporary now
      some { s.move save (.writing text opened.2 0) with disk := opened.1 }
    | _ => none
  | .write save now count =>
    match s.saves[save]? with
    | some (.writing text ino written) =>
      if written + count ≤ text.length then
        some { s.move save (.writing text ino (written + count)) with
          disk := s.disk.update ino fun f =>
            { f with content := writeAt f.content written ((text.drop written).take count), mtime := now } }
      else none
    | _ => none
  | .rename save =>
    match s.saves[save]? with
    | some (.writing text _ written) =>
      if written = text.length then
        (s.disk.rename .temporary .file).map fun disk => { s.move save (.ended true) with disk }
      else none
    | _ => none
  | .fail save =>
    match s.saves[save]? with
    | some phase => if phase.holds then some (s.move save (.ended false)) else none
    | none => none

/-- What a start finds in a file. -/
def restoredAt (design : Design Data Change) (disk : Disk Name) (name : Name) : Data :=
  ((disk.file? name).bind fun f => design.codec.decode f.content).getD design.empty

/-- A start, where `prune` drops what has become too old. -/
def start (design : Design Data Change) (prune : Data → Data) (disk : Disk Name) : State Data :=
  ⟨prune (restoredAt design disk .file),false,0,disk,[]⟩

def State.idle (s : State Data) : Prop := ∀ phase ∈ s.saves, phase.finished = true

/-- No save is under way, and where changes are waited for, no change either. -/
def State.quiet (waits : Bool) (s : State Data) : Prop := (waits = true → s.marking = 0) ∧ s.idle

/-- With nothing under way the flag is set, or the file has the data. -/
def Persisted (waits : Bool) (design : Design Data Change) (s : State Data) : Prop :=
  s.quiet waits → s.dirty = false → restoredAt design s.disk .file = s.data

/-- Nothing else is under way and the flag is not set, so a save that ends must leave the data. -/
def last (waits : Bool) (s : State Data) (save : Nat) : Prop :=
  (waits = true → s.marking = 0) ∧ (∀ n phase, s.saves[n]? = some phase → n ≠ save → phase.finished = true) ∧ s.dirty = false

/-- A save that gives up does so with the flag set again or the data in the file already; one that
    renames moves a file that has the data. A change that nobody waits for and that sets the flag
    late is made while the flag is set or a save is under way. -/
def EndsWell (waits : Bool) (design : Design Data Change) (s : State Data) : Action Change → Prop
  | .change c => waits = false → design.lateFlag = true → s.idle → s.dirty = false →
      ∀ data, design.apply c s.data = some data → restoredAt design s.disk .file = data
  | .fail save => last waits s save → restoredAt design s.disk .file = s.data
  | .lock save => design.codec.encode s.data = none → last waits s save → restoredAt design s.disk .file = s.data
  | .rename save => last waits s save → restoredAt design s.disk .temporary = s.data
  | _ => True

/-- The same where saves exclude each other, so that only a failure can leave something else. -/
def FailsWell (waits : Bool) (design : Design Data Change) (s : State Data) : Action Change → Prop
  | .rename _ => True
  | a => EndsWell waits design s a

section
variable {waits : Bool} {design : Design Data Change} {s t : State Data} {a : Action Change} {save n : Nat} {phase : Phase}

/-! ### One step -/

/-- A save that goes on is under way. -/
theorem not_quiet_move {p : Phase} (here : s.saves[save]? = some p) (onward : phase.finished = false)
    (saves : t.saves = s.saves.set save phase) : ¬ t.quiet waits := by
  intro quiet
  have bound := (List.getElem?_eq_some_iff.mp here).1
  have there : t.saves[save]? = some phase := by rw [saves,List.getElem?_set_self bound]
  rw [quiet.2 phase (List.mem_of_getElem? there)] at onward
  cases onward

/-- A save that ends is the last one exactly if nothing is under way after it. -/
theorem quiet_ended {p : Phase} {saved : Bool} (here : s.saves[save]? = some p) (marking : t.marking = s.marking)
    (dirty : t.dirty = s.dirty) (saves : t.saves = s.saves.set save (.ended saved)) :
    (t.quiet waits ∧ t.dirty = false) ↔ last waits s save := by
  have bound := (List.getElem?_eq_some_iff.mp here).1
  simp only [State.quiet,State.idle,last,marking,dirty,saves,and_assoc]
  refine and_congr_right fun _ => and_congr_left fun _ => ?_
  constructor
  · intro all n phase at_ other
    have still : (s.saves.set save (.ended saved))[n]? = some phase := by
      rw [List.getElem?_set_ne (Ne.symm other)]
      exact at_
    exact all phase (List.mem_of_getElem? still)
  · intro others phase member
    obtain ⟨n,at_⟩ := List.mem_iff_getElem?.mp member
    by_cases same : n = save
    · subst same
      rw [List.getElem?_set_self bound] at at_
      cases at_
      rfl
    · rw [List.getElem?_set_ne (Ne.symm same)] at at_
      exact others n phase at_ same

/-- What holds with nothing under way, after the end of a save. -/
theorem persisted_ended (t : State Data) {p : Phase} {saved : Bool} (here : s.saves[save]? = some p) (marking : t.marking = s.marking)
    (dirty : t.dirty = s.dirty) (saves : t.saves = s.saves.set save (.ended saved)) (data : t.data = s.data) :
    Persisted waits design t ↔ (last waits s save → restoredAt design t.disk .file = s.data) := by
  have ended : (t.quiet waits ∧ t.dirty = false) ↔ last waits s save := quiet_ended here marking dirty saves
  rw [Persisted,← and_imp,ended,data]

theorem persisted_busy (busy : ¬ t.quiet waits) : Persisted waits design t := fun quiet => absurd quiet busy

theorem rename_restored {disk : Disk Name} (renamed : s.disk.rename .temporary .file = some disk) :
    restoredAt design disk .file = restoredAt design s.disk .temporary := by
  obtain ⟨ino,source,target,files,-⟩ := Disk.rename_moves renamed
  simp only [restoredAt,Disk.file?,source,target,files]

theorem persisted_step (persisted : Persisted waits design s) (stepped : step design s a = some t) :
    Persisted waits design t ↔ EndsWell waits design s a := by
  cases a with
  | change c =>
    simp only [step] at stepped
    split at stepped
    · cases stepped
    · split at stepped
      · next same =>
        cases stepped
        refine iff_of_true persisted fun _ _ _ _ data changed => ?_
        rw [same] at changed
        cases changed
      · next data changed =>
        split at stepped
        · next late =>
          cases stepped
          cases waits with
          | true => exact iff_of_true (persisted_busy fun quiet => Nat.succ_ne_zero _ (quiet.1 rfl)) (nomatch ·)
          | false =>
            constructor
            · intro after _ _ idle clean data' changed'
              rw [changed] at changed'
              cases changed'
              exact after ⟨(nomatch ·),idle⟩ clean
            · intro well quiet clean
              exact well rfl late quiet.2 clean data changed
        · next late =>
          cases stepped
          refine iff_of_true (fun _ clean => by cases clean) fun _ late' => ?_
          exact absurd late' late
  | mark =>
    refine iff_of_true ?_ trivial
    simp only [step,Option.ite_none_left_eq_some,Option.some.injEq] at stepped
    obtain ⟨-,rfl⟩ := stepped
    exact fun _ clean => by cases clean
  | swap =>
    refine iff_of_true ?_ trivial
    simp only [step] at stepped
    split at stepped
    · cases stepped
      refine persisted_busy fun quiet => ?_
      have finished := quiet.2 .waiting (List.mem_append_right _ (List.mem_singleton_self _))
      cases finished
    · cases stepped
      exact persisted
  | lock save =>
    simp only [step] at stepped
    split at stepped
    · next here =>
      split at stepped
      · cases stepped
      · split at stepped
        · next text encoded =>
          cases stepped
          refine iff_of_true (persisted_busy (not_quiet_move here rfl rfl)) fun failed => ?_
          rw [encoded] at failed
          cases failed
        · next failed =>
          cases stepped
          refine (persisted_ended (s.move save (.ended false)) here rfl rfl rfl rfl).trans ?_
          exact ⟨fun ends _ => ends,fun ends => ends failed⟩
    · cases stepped
  | create save now =>
    simp only [step] at stepped
    split at stepped
    · next text here =>
      cases stepped
      exact iff_of_true (persisted_busy (not_quiet_move here rfl rfl)) trivial
    · cases stepped
  | write save now count =>
    simp only [step] at stepped
    split at stepped
    · next text ino written here =>
      rw [Option.ite_none_right_eq_some] at stepped
      obtain ⟨-,moved⟩ := stepped
      cases moved
      exact iff_of_true (persisted_busy (not_quiet_move here rfl rfl)) trivial
    · cases stepped
  | rename save =>
    simp only [step] at stepped
    split at stepped
    · next text ino written here =>
      rw [Option.ite_none_right_eq_some,Option.map_eq_some_iff] at stepped
      obtain ⟨-,disk,renamed,rfl⟩ := stepped
      refine (persisted_ended { s.move save (.ended true) with disk } here rfl rfl rfl rfl).trans ?_
      rw [rename_restored renamed]
      rfl
    · cases stepped
  | fail save =>
    simp only [step] at stepped
    split at stepped
    · next phase here =>
      rw [Option.ite_none_right_eq_some] at stepped
      obtain ⟨-,moved⟩ := stepped
      cases moved
      exact persisted_ended (s.move save (.ended false)) here rfl rfl rfl rfl
    · cases stepped

/-- Nothing is forgotten exactly as long as the start drops nothing and every save that ends last
    ends well. -/
theorem persisted_iff {prune : Data → Data} {disk : Disk Name} {actions : List (Action Change)} :
    Always (step design) (Persisted waits design) (start design prune disk) actions ↔
      prune (restoredAt design disk .file) = restoredAt design disk .file ∧
        Along (step design) (EndsWell waits design) (start design prune disk) actions := by
  have first : Persisted waits design (start design prune disk) ↔
      prune (restoredAt design disk .file) = restoredAt design disk .file := by
    constructor
    · intro persisted
      exact (persisted ⟨fun _ => rfl,fun _ member => by cases member⟩ rfl).symm
    · intro whole _ _
      exact whole.symm
  have onward : Persisted waits design (start design prune disk) →
      (Always (step design) (Persisted waits design) (start design prune disk) actions ↔
        Along (step design) (EndsWell waits design) (start design prune disk) actions) :=
    fun persisted => always_iff_along (fun _ _ _ _ _ => trivial)
      (fun _ _ _ _ persisted stepped => persisted_step persisted stepped) trivial persisted
  rw [← first]
  constructor
  · intro all
    exact ⟨always_first all,(onward (always_first all)).mp all⟩
  · rintro ⟨persisted,along⟩
    exact (onward persisted).mpr along

/-! ### Saves that exclude each other -/

/-- One save at most has the lock, and the temporary file has what it has written of the data. -/
structure Alone (design : Design Data Change) (s : State Data) : Prop where
  one : ∀ (m n : Nat) (p q : Phase), s.saves[m]? = some p → s.saves[n]? = some q → p.holds = true → q.holds = true → m = n
  locked : ∀ (n : Nat) (text : Bytes), s.saves[n]? = some (.locked text) → design.codec.encode s.data = some text
  writing : ∀ (n : Nat) (text : Bytes) (ino written : Nat), s.saves[n]? = some (.writing text ino written) →
    design.codec.encode s.data = some text ∧ s.disk.names .temporary = some ino ∧
      (s.disk.files ino).content = text.take written ∧ written ≤ text.length

/-- One save moves while no other one has the lock. -/
theorem alone_move {p : Phase} (here : s.saves[save]? = some p) (saves : t.saves = s.saves.set save phase)
    (others : ∀ n q, n ≠ save → s.saves[n]? = some q → q.holds = false)
    (locked : ∀ text, phase = .locked text → design.codec.encode t.data = some text)
    (writing : ∀ text ino written, phase = .writing text ino written → design.codec.encode t.data = some text ∧
      t.disk.names .temporary = some ino ∧ (t.disk.files ino).content = text.take written ∧ written ≤ text.length) :
    Alone design t := by
  have found : ∀ n q, t.saves[n]? = some q → q.holds = true → n = save ∧ q = phase := by
    intro n q at_ holds
    rw [saves,Tasks.getElem?_set_eq here] at at_
    by_cases same : n = save
    · rw [if_pos same] at at_
      exact ⟨same,(Option.some.inj at_).symm⟩
    · rw [if_neg same] at at_
      rw [others n q same at_] at holds
      cases holds
  constructor
  · intro m n p q first second holds holds'
    rw [(found m p first holds).1,(found n q second holds').1]
  · intro n text at_
    exact locked text (found n _ at_ rfl).2.symm
  · intro n text ino written at_
    exact writing text ino written (found n _ at_ rfl).2.symm

theorem Alone.others {p : Phase} (alone : Alone design s) (here : s.saves[save]? = some p) (holds : p.holds = true) :
    ∀ n q, n ≠ save → s.saves[n]? = some q → q.holds = false := by
  intro n q other at_
  by_contra held
  exact other (alone.one n save q p at_ here (Bool.eq_true_of_not_eq_false held) holds)

/-- What does not touch the saves, while none has the lock. -/
theorem alone_free (saves : t.saves = s.saves) (free : s.saves.any Phase.holds = false) : Alone design t := by
  have none_ : ∀ (n : Nat) (p : Phase), t.saves[n]? = some p → p.holds = false := by
    intro n p at_
    rw [saves] at at_
    exact Bool.eq_false_of_not_eq_true (List.any_eq_false.mp free p (List.mem_of_getElem? at_))
  constructor
  · intro m n p q at_ _ holds
    rw [none_ m p at_] at holds
    cases holds
  · intro n text at_
    cases none_ n _ at_
  · intro n text ino written at_
    cases none_ n _ at_

theorem writing_after {content text : Bytes} {written count : Nat} (so : content = text.take written)
    (within : written + count ≤ text.length) :
    writeAt content written ((text.drop written).take count) = text.take (written + count) := by
  by_cases nothing : count = 0
  · subst nothing
    simp [writeAt,so]
  · have some_ : (text.drop written).take count ≠ [] := by
      rw [← List.length_pos_iff,List.length_take,List.length_drop]
      omega
    have length : content.length = written := by rw [so,List.length_take]; omega
    have beyond : content.drop (written + ((text.drop written).take count).length) = [] :=
      List.drop_eq_nil_iff.mpr (by omega)
    rw [writeAt,if_neg some_,beyond,List.append_nil,length,Nat.sub_self,List.replicate_zero,List.append_nil,
      List.take_of_length_le (by omega),so,List.take_add]

theorem alone_step (exclusive : design.exclusive = true) (alone : Alone design s) (stepped : step design s a = some t) :
    Alone design t := by
  cases a with
  | change c =>
    simp only [step] at stepped
    split at stepped
    · cases stepped
    · next free =>
      have free' : s.saves.any Phase.holds = false := Bool.eq_false_of_not_eq_true free
      split at stepped
      · cases stepped
        exact alone
      · split at stepped
        · cases stepped
          exact alone_free rfl free'
        · cases stepped
          exact alone_free rfl free'
  | mark =>
    simp only [step,Option.ite_none_left_eq_some,Option.some.injEq] at stepped
    obtain ⟨-,rfl⟩ := stepped
    exact ⟨alone.one,alone.locked,alone.writing⟩
  | swap =>
    simp only [step] at stepped
    split at stepped
    · cases stepped
      have old : ∀ (n : Nat) (p : Phase), (s.saves ++ [.waiting])[n]? = some p → p.holds = true → s.saves[n]? = some p := by
        intro n p at_ holds
        rw [List.getElem?_append] at at_
        split at at_
        · exact at_
        · rw [List.mem_singleton.mp (List.mem_of_getElem? at_)] at holds
          cases holds
      constructor
      · intro m n p q first second holds holds'
        exact alone.one m n p q (old m p first holds) (old n q second holds') holds holds'
      · exact fun n text at_ => alone.locked n text (old n _ at_ rfl)
      · exact fun n text ino written at_ => alone.writing n text ino written (old n _ at_ rfl)
    · cases stepped
      exact alone
  | lock save =>
    simp only [step] at stepped
    split at stepped
    · next here =>
      rw [exclusive,Bool.true_and] at stepped
      split at stepped
      · cases stepped
      · next free =>
        have others : ∀ n q, n ≠ save → s.saves[n]? = some q → q.holds = false := by
          intro n q _ at_
          exact Bool.eq_false_of_not_eq_true fun holds =>
            free (List.any_eq_true.mpr ⟨q,List.mem_of_getElem? at_,holds⟩)
        split at stepped
        · next text encoded =>
          cases stepped
          refine alone_move here rfl others (fun text' same => ?_) fun text ino written same => by cases same
          cases same
          exact encoded
        · cases stepped
          exact alone_move here rfl others (fun text same => by cases same) fun text ino written same => by cases same
    · cases stepped
  | create save now =>
    simp only [step] at stepped
    split at stepped
    · next text here =>
      cases stepped
      refine alone_move here rfl (alone.others here rfl) (fun text same => by cases same) ?_
      intro text' ino written same
      cases same
      obtain ⟨named,empty⟩ := Disk.create_opens s.disk .temporary now
      exact ⟨alone.locked save text here,named,by rw [empty]; rfl,Nat.zero_le _⟩
    · cases stepped
  | write save now count =>
    simp only [step] at stepped
    split at stepped
    · next text ino written here =>
      rw [Option.ite_none_right_eq_some] at stepped
      obtain ⟨within,moved⟩ := stepped
      cases moved
      refine alone_move here rfl (alone.others here rfl) (fun text same => by cases same) ?_
      intro text' ino' written' same
      cases same
      obtain ⟨encoded,named,content,-⟩ := alone.writing save text ino written here
      refine ⟨encoded,named,?_,within⟩
      simp only [Disk.update,Function.update_self]
      exact writing_after content within
    · cases stepped
  | rename save =>
    simp only [step] at stepped
    split at stepped
    · next text ino written here =>
      rw [Option.ite_none_right_eq_some,Option.map_eq_some_iff] at stepped
      obtain ⟨-,disk,-,rfl⟩ := stepped
      exact alone_move here rfl (alone.others here rfl) (fun text same => by cases same) fun text ino written same => by cases same
    · cases stepped
  | fail save =>
    simp only [step] at stepped
    split at stepped
    · next phase here =>
      rw [Option.ite_none_right_eq_some] at stepped
      obtain ⟨holds,moved⟩ := stepped
      cases moved
      exact alone_move here rfl (alone.others here holds) (fun text same => by cases same) fun text ino written same => by cases same
    · cases stepped

/-- A save that is alone moves a file that has the data. -/
theorem endsWell_iff (alone : Alone design s) (stepped : step design s a = some t) :
    EndsWell waits design s a ↔ FailsWell waits design s a := by
  cases a with
  | rename save =>
    refine iff_of_true (fun _ => ?_) trivial
    simp only [step] at stepped
    split at stepped
    · next text ino written here =>
      rw [Option.ite_none_right_eq_some] at stepped
      obtain ⟨whole,-⟩ := stepped
      obtain ⟨encoded,named,content,-⟩ := alone.writing save text ino written here
      rw [restoredAt,Disk.file?,named,Option.map_some,Option.bind_some,content,whole,List.take_length,
        design.codec.reads s.data text encoded]
      rfl
    · cases stepped
  | change c | mark | swap | lock save | create save now | write save now count | fail save => rfl

theorem persisted_exclusive_iff (exclusive : design.exclusive = true) {prune : Data → Data} {disk : Disk Name}
    {actions : List (Action Change)} :
    Always (step design) (Persisted waits design) (start design prune disk) actions ↔
      prune (restoredAt design disk .file) = restoredAt design disk .file ∧
        Along (step design) (FailsWell waits design) (start design prune disk) actions := by
  have alone : Alone design (start design prune disk) := @alone_free _ _ _ (start design prune disk) _ rfl rfl
  rw [persisted_iff]
  refine and_congr_right fun _ => along_congr (fun _ _ _ alone stepped => alone_step exclusive alone stepped)
    (fun _ _ _ alone stepped => endsWell_iff alone stepped) alone

end

end Sctl.WriteBehind
