import Sctl.ServerSupervisor

/-!
What becomes of a signal that the supervisor of the server gets. Every child that
was started has its own signal task, which is never stopped and sends to the pid
of its child, whether the supervisor has waited for that child or not.
-/
namespace Sctl.SupervisorSignals
open Runs ServerSupervisor

/-- The task was woken and did not call `kill` yet. -/
def InHand : Listener → Prop
  | .woken _ | .stored _ => True
  | _ => False

instance (l : Listener) : Decidable (InHand l) := by
  cases l <;> unfold InHand <;> infer_instance

/-- Nothing is sent to the pid of a child that was waited for, no child is started after
    the signal, and what came while the child ran was sent to it or will be next. -/
structure Served (c : Child) : Prop where
  live : ∀ sig gone, c.sent = some (sig,gone) → gone = false
  early : c.late = false
  told : ∀ sig, c.met = some sig → c.sent = some (sig,false) ∨
    c.reaped = false ∧ (c.listener = .woken sig ∨ c.listener = .stored sig)

def AllServed (s : State) : Prop := ∀ c ∈ s.children, Served c

/-- A step of a signal task that was woken. -/
def Action.ofTask : Action → Prop
  | .store _ | .kill _ => True
  | _ => False

variable (cfg : SupervisorConfig)

/-- The signal goes where it is to go, whatever the tasks that it woke do next. -/
def Forwards (s : State) : Prop :=
  ∀ next : List Action, (∀ a ∈ next, Action.ofTask a) → Always (step cfg) AllServed s next

/-- When the signal comes, the tasks that listen are exactly the one of the child that runs;
    and when `wait` returns for a child that met the signal, its task has sent it. -/
def Timely (s : State) : Action → Prop
  | .signal _ => ∀ c ∈ s.children, c.listener = .listening ↔ c.reaped = false
  | .reap _ => ∀ c ∈ s.children, c.met ≠ none → c.sent ≠ none
  | _ => True

instance (s : State) (a : Action) : Decidable (Timely s a) := by
  apply ServerSupervisor.Action.casesOn (motive := fun a => Decidable (Timely s a)) a <;> intros <;> unfold Timely <;> infer_instance

/-! ### The steps -/

variable {cfg}

theorem step_over {s t : State} {a : Action} (stepped : step cfg s a = some t) : s.phase.over = false := by
  by_contra ended
  simp [step,ended] at stepped

/-- What a step does to the children and to what the loop knows of the signal. -/
theorem step_children {s t : State} {a : Action} (stepped : step cfg s a = some t) :
    match a with
    | .spawn pid => t.got = s.got ∧ t.shuttingDown = s.shuttingDown ∧ (∃ since, s.phase = .starting since) ∧
        match pid with
        | some pid => t.children = s.children ++ [Child.new pid s.got.isSome] ∧ ∃ since, t.phase = .running since
        | none => t.children = s.children ∧ t.phase = .stopped
    | .listen i => t.got = s.got ∧ t.shuttingDown = s.shuttingDown ∧ t.phase = s.phase ∧
        ∃ c, s.children[i]? = some c ∧ c.listener = .spawned ∧ t.children = s.children.modify i Child.listen
    | .signal sig => t.got = some sig ∧ t.shuttingDown = s.shuttingDown ∧ s.got = none ∧
        t.children = s.children.map (Child.wake sig) ∧
        ((∃ c ∈ s.children, c.listener = .listening) ∧ t.phase = s.phase ∨
          (∀ c ∈ s.children, c.listener ≠ .listening) ∧ t.phase = .killed)
    | .store i => t.got = s.got ∧ t.shuttingDown = true ∧ t.phase = s.phase ∧
        ∃ c sig, s.children[i]? = some c ∧ c.listener = .woken sig ∧ t.children = s.children.modify i (Child.store sig)
    | .kill i => t.got = s.got ∧ t.shuttingDown = s.shuttingDown ∧ t.phase = s.phase ∧
        ∃ c sig, s.children[i]? = some c ∧ c.listener = .stored sig ∧ t.children = s.children.modify i (Child.kill sig)
    | .reap status => t.got = s.got ∧ t.shuttingDown = s.shuttingDown ∧ (∃ since, s.phase = .running since) ∧
        (∃ uptime, t.phase = .waited status uptime) ∧ t.children = s.children.map Child.reap
    | .judge _ _ => t.got = s.got ∧ t.shuttingDown = s.shuttingDown ∧ t.children = s.children ∧
        (∃ status uptime, s.phase = .waited status uptime) ∧
        (t.phase = .stopped ∨ s.shuttingDown = false ∧ ∃ uptime wakes, t.phase = .sleeping uptime wakes)
    | .wake => t.got = s.got ∧ t.shuttingDown = s.shuttingDown ∧ t.children = s.children ∧
        (∃ uptime wakes, s.phase = .sleeping uptime wakes) ∧
        (t.phase = .stopped ∨ s.shuttingDown = false ∧ ∃ since, t.phase = .starting since)
    | .pass _ => t.got = s.got ∧ t.shuttingDown = s.shuttingDown ∧ t.children = s.children ∧ t.phase = s.phase := by
  have going := step_over stepped
  unfold step at stepped
  simp only [going,Bool.false_eq_true,if_false] at stepped
  cases a with
  | pass n =>
    cases stepped
    exact ⟨rfl,rfl,rfl,rfl⟩
  | spawn pid =>
    dsimp only at stepped ⊢
    split at stepped
    · rename_i since there
      cases stepped
      cases pid with
      | none => exact ⟨rfl,rfl,⟨since,there⟩,rfl,rfl⟩
      | some pid => exact ⟨rfl,rfl,⟨since,there⟩,rfl,since,rfl⟩
    · cases stepped
  | listen i =>
    dsimp only at stepped ⊢
    split at stepped
    · rename_i c found
      split at stepped
      · rename_i fresh
        cases stepped
        exact ⟨rfl,rfl,rfl,c,found,fresh,rfl⟩
      · cases stepped
    · cases stepped
  | signal sig =>
    dsimp only at stepped ⊢
    split at stepped
    · rename_i none_
      cases stepped
      refine ⟨rfl,rfl,none_,rfl,?_⟩
      unfold signal
      by_cases heard : ∃ c ∈ s.children, c.listener = .listening
      · exact .inl ⟨heard,by simp only [heard,if_true]⟩
      · refine .inr ⟨?_,by simp only [heard,if_false]⟩
        intro c member listening
        exact heard ⟨c,member,listening⟩
    · cases stepped
  | store i =>
    dsimp only at stepped ⊢
    split at stepped
    · rename_i sig found
      obtain ⟨c,there,woken⟩ := Option.map_eq_some_iff.mp found
      cases stepped
      exact ⟨rfl,rfl,rfl,c,sig,there,woken,rfl⟩
    · cases stepped
  | kill i =>
    dsimp only at stepped ⊢
    split at stepped
    · rename_i sig found
      obtain ⟨c,there,stored⟩ := Option.map_eq_some_iff.mp found
      cases stepped
      exact ⟨rfl,rfl,rfl,c,sig,there,stored,rfl⟩
    · cases stepped
  | reap status =>
    dsimp only at stepped ⊢
    split at stepped
    · rename_i since there
      cases stepped
      exact ⟨rfl,rfl,⟨since,there⟩,⟨_,rfl⟩,rfl⟩
    · cases stepped
  | judge unix written =>
    dsimp only at stepped ⊢
    split at stepped
    · rename_i status uptime there
      cases stepped
      unfold judge
      cases down : s.shuttingDown with
      | true => simp [there]
      | false =>
        cases why : status.reason with
        | none => simp [there]
        | some reason => simp [crash,there,down]
    · cases stepped
  | wake =>
    dsimp only at stepped ⊢
    split at stepped
    · rename_i uptime wakes there
      split at stepped
      · cases stepped
        unfold wake
        cases down : s.shuttingDown with
        | true => simp [there]
        | false => simp [there]
      · cases stepped
    · cases stepped

/-! ### What holds along every run -/

theorem mem_modify {children : List Child} {i : Nat} {f : Child → Child} {c : Child} (member : c ∈ children.modify i f) :
    c ∈ children ∨ ∃ b, children[i]? = some b ∧ c = f b := by
  obtain ⟨j,found⟩ := List.mem_iff_getElem?.mp member
  by_cases same : i = j
  · subst same
    rw [List.getElem?_modify_eq] at found
    obtain ⟨b,there,is⟩ := Option.map_eq_some_iff.mp found
    exact .inr ⟨b,there,is.symm⟩
  · rw [List.getElem?_modify_ne _ _ same] at found
    exact .inl (List.mem_of_getElem? found)

theorem modify_mem {children : List Child} {f : Child → Child} {c : Child} (i : Nat) (member : c ∈ children) :
    c ∈ children.modify i f ∨ children[i]? = some c ∧ f c ∈ children.modify i f := by
  obtain ⟨j,found⟩ := List.mem_iff_getElem?.mp member
  by_cases same : i = j
  · subst same
    refine .inr ⟨found,List.mem_of_getElem? (i := i) ?_⟩
    rw [List.getElem?_modify_eq,found]
    rfl
  · refine .inl (List.mem_of_getElem? (i := j) ?_)
    rw [List.getElem?_modify_ne _ _ same]
    exact found

/-- A child and its task, given `shutting_down` and the signal that came. -/
structure Sound (down : Bool) (got : Option Signal) (c : Child) : Prop where
  once : c.sent ≠ none → c.listener = .done
  noted : c.sent ≠ none ∨ (∃ sig, c.listener = .stored sig) → down = true
  woken : c.reaped = false → ∀ sig, c.listener = .woken sig ∨ c.listener = .stored sig → c.met = some sig
  silent : got = none → c.met = none ∧ c.sent = none ∧ ¬ InHand c.listener ∧ c.late = false

/-- Some child runs, for which `wait` did not return yet. -/
def Attended : Phase → Prop
  | .running _ => True
  | _ => False

structure Good (s : State) : Prop where
  sound : ∀ c ∈ s.children, Sound s.shuttingDown s.got c
  current : Attended s.phase → ∃ c ∈ s.children, c.reaped = false
  gone : s.phase.over = false → ¬ Attended s.phase → ∀ c ∈ s.children, c.reaped = true

variable {down : Bool} {got : Option Signal} {c : Child}

theorem Sound.listen (sound : Sound down got c) (fresh : c.listener = .spawned) : Sound down got c.listen where
  once sent := by simpa [fresh] using sound.once sent
  noted told := by
    rcases told with sent | ⟨sig,stored⟩
    · exact sound.noted (.inl sent)
    · simp [Child.listen] at stored
  woken _ sig hand := by simp [Child.listen] at hand
  silent none_ := by
    obtain ⟨met,sent,_,late⟩ := sound.silent none_
    exact ⟨met,sent,by simp [Child.listen,InHand],late⟩

theorem Sound.wake {sig : Signal} (sound : Sound down none c) : Sound down (some sig) (c.wake sig) := by
  obtain ⟨met,sent,idle,late⟩ := sound.silent rfl
  refine ⟨?_,?_,?_,nofun⟩
  · simp [Child.wake,sent]
  · rintro (told | ⟨other,stored⟩)
    · exact absurd sent told
    · by_cases listening : c.listener = .listening
      · simp [Child.wake,listening] at stored
      · simp only [Child.wake,listening,if_false] at stored
        exact sound.noted (.inr ⟨other,stored⟩)
  · intro runs other hand
    have runs : c.reaped = false := runs
    by_cases listening : c.listener = .listening
    · simp only [Child.wake,listening,runs] at hand ⊢
      rcases hand with hand | hand
      · simp only [if_true,Listener.woken.injEq] at hand
        simp [hand]
      · simp at hand
    · simp only [Child.wake,listening,if_false] at hand
      rcases hand with hand | hand
      · simp [hand,InHand] at idle
      · simp [hand,InHand] at idle

theorem Sound.store {sig : Signal} (sound : Sound down got c) (woken : c.listener = .woken sig) :
    Sound true got (c.store sig) where
  once sent := by simpa [woken] using sound.once sent
  noted _ := rfl
  woken runs other hand := by
    have same : sig = other := by simpa [Child.store] using hand
    exact sound.woken runs other (.inl (same ▸ woken))
  silent none_ := absurd (sound.silent none_).2.2.1 (by simp [woken,InHand])

theorem Sound.kill {sig : Signal} (sound : Sound down got c) (stored : c.listener = .stored sig) :
    Sound down got (c.kill sig) where
  once _ := rfl
  noted _ := sound.noted (.inr ⟨sig,stored⟩)
  woken _ other hand := by simp [Child.kill] at hand
  silent none_ := absurd (sound.silent none_).2.2.1 (by simp [stored,InHand])

theorem Sound.reap (sound : Sound down got c) : Sound down got c.reap :=
  ⟨sound.once,sound.noted,nofun,sound.silent⟩

theorem Sound.noting (sound : Sound down got c) : Sound true got c :=
  ⟨sound.once,fun _ => rfl,sound.woken,sound.silent⟩

theorem Sound.new (pid : Pid) : Sound down got (Child.new pid got.isSome) := by
  refine ⟨nofun,?_,?_,?_⟩
  · simp [Child.new]
  · simp [Child.new]
  · rintro rfl
    simp [Child.new,InHand]

theorem Good.start : Good .start where
  sound _ member := nomatch member
  current attended := nomatch attended
  gone _ _ _ member := nomatch member

/-- A step of one task leaves it to its child whether it runs. -/
theorem Good.task {s t : State} {i : Nat} {f : Child → Child} {b : Child} (good : Good s) (going : s.phase.over = false)
    (phase : t.phase = s.phase) (there : s.children[i]? = some b) (children : t.children = s.children.modify i f)
    (same : ∀ c, (f c).reaped = c.reaped) (others : ∀ c ∈ s.children, Sound t.shuttingDown t.got c)
    (own : Sound t.shuttingDown t.got (f b)) : Good t where
  sound c member := by
    rw [children] at member
    rcases mem_modify member with member | ⟨b',there',rfl⟩
    · exact others c member
    · cases there.symm.trans there'
      exact own
  current attended := by
    rw [phase] at attended
    rw [children]
    obtain ⟨c,member,runs⟩ := good.current attended
    rcases modify_mem i member with still | ⟨_,changed⟩
    · exact ⟨c,still,runs⟩
    · exact ⟨_,changed,(same c).trans runs⟩
  gone _ idle c member := by
    rw [phase] at idle
    rw [children] at member
    rcases mem_modify member with member | ⟨b',there',rfl⟩
    · exact good.gone going idle c member
    · exact (same b').trans (good.gone going idle b' (List.mem_of_getElem? there'))

theorem Good.step {s t : State} {a : Action} (good : Good s) (stepped : step cfg s a = some t) : Good t := by
  have going := step_over stepped
  have effect := step_children stepped
  cases a with
  | pass n =>
    obtain ⟨got,down,children,phase⟩ := effect
    refine ⟨?_,?_,?_⟩
    · rw [got,down,children]; exact good.sound
    · rw [phase,children]; exact good.current
    · rw [phase,children]; exact good.gone
  | spawn pid =>
    obtain ⟨got,down,⟨since,starting⟩,effect⟩ := effect
    have idle := good.gone going (by simp [starting,Attended])
    cases pid with
    | none =>
      obtain ⟨children,phase⟩ := effect
      refine ⟨?_,by simp [phase,Attended],by simp [phase,Phase.over]⟩
      rw [got,down,children]
      exact good.sound
    | some pid =>
      obtain ⟨children,since,phase⟩ := effect
      refine ⟨?_,?_,by simp [phase,Attended]⟩
      · rw [got,down,children]
        intro c member
        rcases List.mem_append.mp member with member | member
        · exact good.sound c member
        · cases List.mem_singleton.mp member
          exact Sound.new pid
      · intro _
        exact ⟨Child.new pid s.got.isSome,by simp [children],rfl⟩
  | listen i =>
    obtain ⟨got,down,phase,b,there,fresh,children⟩ := effect
    apply good.task going phase there children (fun _ => rfl)
    · rw [got,down]
      exact good.sound
    · rw [got,down]
      exact (good.sound b (List.mem_of_getElem? there)).listen fresh
  | signal sig =>
    obtain ⟨got,down,none_,children,phase⟩ := effect
    refine ⟨?_,?_,?_⟩
    · rw [got,down,children]
      intro c member
      obtain ⟨b,there,rfl⟩ := List.mem_map.mp member
      have sound := good.sound b there
      rw [none_] at sound
      exact sound.wake
    · intro attended
      rcases phase with ⟨_,same⟩ | ⟨_,killed⟩
      · rw [same] at attended
        obtain ⟨c,member,runs⟩ := good.current attended
        exact ⟨c.wake sig,by rw [children]; exact List.mem_map_of_mem member,runs⟩
      · rw [killed] at attended
        cases attended
    · intro live idle c member
      rcases phase with ⟨_,same⟩ | ⟨_,killed⟩
      · rw [children] at member
        rw [same] at idle
        obtain ⟨b,there,rfl⟩ := List.mem_map.mp member
        exact good.gone going idle b there
      · simp [killed,Phase.over] at live
  | store i =>
    obtain ⟨got,down,phase,b,sig,there,woken,children⟩ := effect
    apply good.task going phase there children (fun _ => rfl)
    · rw [got,down]
      exact fun c member => (good.sound c member).noting
    · rw [got,down]
      exact (good.sound b (List.mem_of_getElem? there)).store woken
  | kill i =>
    obtain ⟨got,down,phase,b,sig,there,stored,children⟩ := effect
    apply good.task going phase there children (fun _ => rfl)
    · rw [got,down]
      exact good.sound
    · rw [got,down]
      exact (good.sound b (List.mem_of_getElem? there)).kill stored
  | reap status =>
    obtain ⟨got,down,_,⟨uptime,phase⟩,children⟩ := effect
    refine ⟨?_,by simp [phase,Attended],?_⟩
    · rw [got,down,children]
      intro c member
      obtain ⟨b,there,rfl⟩ := List.mem_map.mp member
      exact (good.sound b there).reap
    · intro _ _ c member
      rw [children] at member
      obtain ⟨b,there,rfl⟩ := List.mem_map.mp member
      rfl
  | judge unix written =>
    obtain ⟨got,down,children,⟨status,uptime,waited⟩,phase⟩ := effect
    have idle := good.gone going (by simp [waited,Attended])
    refine ⟨?_,?_,?_⟩
    · rw [got,down,children]; exact good.sound
    · rcases phase with phase | ⟨_,_,_,phase⟩
      · simp [phase,Attended]
      · simp [phase,Attended]
    · rw [children]
      exact fun _ _ => idle
  | wake =>
    obtain ⟨got,down,children,⟨uptime,wakes,sleeping⟩,phase⟩ := effect
    have idle := good.gone going (by simp [sleeping,Attended])
    refine ⟨?_,?_,?_⟩
    · rw [got,down,children]; exact good.sound
    · rcases phase with phase | ⟨_,_,phase⟩
      · simp [phase,Attended]
      · simp [phase,Attended]
    · rw [children]
      exact fun _ _ => idle

/-! ### What the tasks may do next -/

/-- A child is served, and stays so whatever its task does next. -/
structure Kept (c : Child) : Prop where
  served : Served c
  spent : c.reaped = true → ¬ InHand c.listener

/-- Once the supervisor has ended, no task has a signal for a child that was waited for. -/
def Settled (s : State) : Prop := s.phase.over = true → ∀ c ∈ s.children, c.reaped = true → ¬ InHand c.listener

theorem Kept.store {sig : Signal} (kept : Kept c) (woken : c.listener = .woken sig) : Kept (c.store sig) := by
  refine ⟨⟨kept.served.live,kept.served.early,fun other met => ?_⟩,fun gone => ?_⟩
  · rcases kept.served.told other met with sent | ⟨runs,hand⟩
    · exact .inl sent
    · rw [woken] at hand
      have same : sig = other := by simpa using hand
      exact .inr ⟨runs,.inr (by rw [← same]; rfl)⟩
  · exact absurd (show InHand c.listener by simp [woken,InHand]) (kept.spent gone)

theorem Kept.kill {sig : Signal} (kept : Kept c) (sound : Sound down got c) (stored : c.listener = .stored sig) :
    Kept (c.kill sig) := by
  have runs : c.reaped = false := by
    by_contra gone
    exact kept.spent (by simpa using gone) (by simp [stored,InHand])
  refine ⟨⟨fun other gone sent => ?_,kept.served.early,fun other met => ?_⟩,fun _ => by simp [Child.kill,InHand]⟩
  · have same : (sig,c.reaped) = (other,gone) := Option.some.inj sent
    rw [← (Prod.mk.inj same).2]
    exact runs
  · have own : c.met = some sig := sound.woken runs sig (.inr stored)
    have same : some sig = some other := own.symm.trans met
    refine .inl ?_
    show some (sig,c.reaped) = some (other,false)
    rw [runs,Option.some.inj same]

/-- A task that has stored the signal sends it to its pid, waited for or not. -/
theorem stray {s : State} {i : Nat} {sig : Signal} (going : s.phase.over = false) (found : s.children[i]? = some c)
    (stored : c.listener = .stored sig) (gone : c.reaped = true) : ¬ Always (step cfg) AllServed s [.kill i] := by
  intro all
  have stepped : step cfg s (.kill i) = some { s with children := s.children.modify i (Child.kill sig) } := by
    simp [step,going,found,stored]
  have killed : c.kill sig ∈ s.children.modify i (Child.kill sig) := by
    apply List.mem_of_getElem? (i := i)
    rw [List.getElem?_modify_eq,found]
    rfl
  have live := (always_first (all.2 _ stepped) _ killed).live sig c.reaped rfl
  simp [gone] at live

/-- A step of a task that was woken keeps the children. -/
theorem kept_task {s t : State} {a : Action} (good : Good s) (kept : ∀ c ∈ s.children, Kept c) (task : Action.ofTask a)
    (stepped : step cfg s a = some t) : ∀ c ∈ t.children, Kept c := by
  have effect := step_children stepped
  intro c member
  cases a with
  | store i =>
    obtain ⟨_,_,_,b,sig,there,woken,children⟩ := effect
    rw [children] at member
    rcases mem_modify member with member | ⟨b',there',rfl⟩
    · exact kept c member
    · cases there.symm.trans there'
      exact (kept b (List.mem_of_getElem? there)).store woken
  | kill i =>
    obtain ⟨_,_,_,b,sig,there,stored,children⟩ := effect
    rw [children] at member
    rcases mem_modify member with member | ⟨b',there',rfl⟩
    · exact kept c member
    · cases there.symm.trans there'
      have here := List.mem_of_getElem? there
      exact (kept b here).kill (good.sound b here) stored
  | _ => exact task.elim

/-- Whatever the tasks do next, each child is served: no task has a signal for a child that was waited for. -/
theorem forwards_iff {s : State} (good : Good s) (settled : Settled s) :
    Forwards cfg s ↔ ∀ c ∈ s.children, Kept c := by
  constructor
  · intro all c member
    refine ⟨always_first (all [] (by simp)) c member,fun gone hand => ?_⟩
    by_cases ended : s.phase.over = true
    · exact settled ended c member gone hand
    have going : s.phase.over = false := by simpa using ended
    obtain ⟨i,found⟩ := List.mem_iff_getElem?.mp member
    cases state : c.listener with
    | stored sig => exact stray going found state gone (all [.kill i] (by simp [Action.ofTask]))
    | woken sig =>
      have stepped : step cfg s (.store i) =
          some { s with shuttingDown := true, children := s.children.modify i (Child.store sig) } := by
        simp [step,going,found,state]
      have changed : (s.children.modify i (Child.store sig))[i]? = some (c.store sig) := by
        rw [List.getElem?_modify_eq,found]
        rfl
      have stored : (c.store sig).listener = .stored sig := rfl
      have rest := (all [.store i,.kill i] (by simp [Action.ofTask])).2 _ stepped
      exact stray (by exact going) changed stored gone rest
    | _ => simp [state,InHand] at hand
  · intro kept next tasks
    have keeps : ∀ s a t, (Good s ∧ ∀ c ∈ s.children, Kept c) → Action.ofTask a → step cfg s a = some t →
        Good t ∧ ∀ c ∈ t.children, Kept c :=
      fun s a t before task stepped => ⟨before.1.step stepped,kept_task before.1 before.2 task stepped⟩
    have enough : ∀ s : State, (Good s ∧ ∀ c ∈ s.children, Kept c) → AllServed s :=
      fun s before c member => (before.2 c member).served
    exact always_of_keeps keeps enough ⟨good,kept⟩ (along_of_forall tasks)

/-! ### A step -/

/-- What the loop knows once the signal has come. -/
def Known (s : State) : Prop :=
  s.got ≠ none → match s.phase with
    | .starting _ | .sleeping _ _ => False
    | .waited _ _ => s.shuttingDown = true
    | .running _ => ∃ c ∈ s.children, c.reaped = false ∧ c.met ≠ none
    | _ => True

theorem settled_step {s t : State} {a : Action} (good : Good s) (kept : ∀ c ∈ s.children, Kept c)
    (stepped : step cfg s a = some t) : Settled t := by
  have going := step_over stepped
  have effect := step_children stepped
  intro ended c member gone
  cases a with
  | pass n =>
    rw [effect.2.2.2,going] at ended
    cases ended
  | spawn pid =>
    obtain ⟨_,_,_,effect⟩ := effect
    cases pid with
    | none =>
      rw [effect.1] at member
      exact (kept c member).spent gone
    | some pid =>
      obtain ⟨_,since,phase⟩ := effect
      simp [phase,Phase.over] at ended
  | listen i =>
    rw [effect.2.2.1,going] at ended
    cases ended
  | signal sig =>
    obtain ⟨_,_,none_,children,⟨_,phase⟩ | ⟨unheard,_⟩⟩ := effect
    · rw [phase,going] at ended
      cases ended
    · rw [children] at member
      obtain ⟨b,there,rfl⟩ := List.mem_map.mp member
      have idle := ((good.sound b there).silent none_).2.2.1
      simpa [Child.wake,unheard b there] using idle
  | store i =>
    rw [effect.2.2.1,going] at ended
    cases ended
  | kill i =>
    rw [effect.2.2.1,going] at ended
    cases ended
  | reap status =>
    obtain ⟨_,_,_,⟨uptime,phase⟩,_⟩ := effect
    simp [phase,Phase.over] at ended
  | judge unix written =>
    rw [effect.2.2.1] at member
    exact (kept c member).spent gone
  | wake =>
    rw [effect.2.2.1] at member
    exact (kept c member).spent gone

/-- The children are kept by a step if and only if it is timely. -/
theorem kept_step_iff {s t : State} {a : Action} (good : Good s) (known : Known s) (kept : ∀ c ∈ s.children, Kept c)
    (stepped : step cfg s a = some t) : (∀ c ∈ t.children, Kept c) ↔ Timely s a := by
  have going := step_over stepped
  have effect := step_children stepped
  cases a with
  | pass n =>
    rw [effect.2.2.1]
    exact iff_of_true kept trivial
  | spawn pid =>
    obtain ⟨_,_,⟨since,starting⟩,effect⟩ := effect
    cases pid with
    | none =>
      rw [effect.1]
      exact iff_of_true kept trivial
    | some pid =>
      have unsignalled : s.got = none := by
        by_contra came
        have := known came
        simp [starting] at this
      rw [effect.1]
      refine iff_of_true (fun c member => ?_) trivial
      rcases List.mem_append.mp member with member | member
      · exact kept c member
      · cases List.mem_singleton.mp member
        exact ⟨⟨nofun,by simp [Child.new,unsignalled],nofun⟩,nofun⟩
  | listen i =>
    obtain ⟨_,_,_,b,there,fresh,children⟩ := effect
    rw [children]
    refine iff_of_true (fun c member => ?_) trivial
    rcases mem_modify member with member | ⟨b',there',rfl⟩
    · exact kept c member
    · cases there.symm.trans there'
      have own := (kept b (List.mem_of_getElem? there)).served
      refine ⟨⟨own.live,own.early,fun sig met => ?_⟩,fun _ => by simp [Child.listen,InHand]⟩
      rcases own.told sig met with sent | ⟨_,hand⟩
      · exact .inl sent
      · simp [fresh] at hand
  | signal sig =>
    obtain ⟨_,_,none_,children,_⟩ := effect
    rw [children,List.forall_mem_map]
    show (∀ c ∈ s.children, Kept (c.wake sig)) ↔ ∀ c ∈ s.children, c.listener = .listening ↔ c.reaped = false
    refine forall₂_congr fun c member => ?_
    obtain ⟨met,sent,idle,late⟩ := (good.sound c member).silent none_
    constructor
    · intro after
      constructor
      · intro listening
        by_contra gone
        refine after.spent (by simpa [Child.wake] using gone) ?_
        simp [Child.wake,listening,InHand]
      · intro runs
        by_contra deaf
        rcases after.served.told sig (by simp [Child.wake,runs]) with sent' | ⟨_,hand⟩
        · simp [Child.wake,sent] at sent'
        · simp only [Child.wake,deaf,if_false] at hand
          rcases hand with hand | hand
          · simp [hand,InHand] at idle
          · simp [hand,InHand] at idle
    · intro exactly
      refine ⟨⟨?_,late,fun other met' => ?_⟩,fun gone => ?_⟩
      · simp [Child.wake,sent]
      · by_cases gone : c.reaped = true
        · simp [Child.wake,gone] at met'
        · have runs : c.reaped = false := by simpa using gone
          have same : sig = other := by simpa [Child.wake,runs] using met'
          exact .inr ⟨runs,.inl (by simp [Child.wake,exactly.mpr runs,same])⟩
      · have deaf : c.listener ≠ .listening := by
          intro listening
          have gone : c.reaped = true := gone
          simp [exactly.mp listening] at gone
        simpa [Child.wake,deaf] using idle
  | store i => exact iff_of_true (kept_task (a := .store i) good kept trivial stepped) trivial
  | kill i => exact iff_of_true (kept_task (a := .kill i) good kept trivial stepped) trivial
  | reap status =>
    obtain ⟨_,_,_,_,children⟩ := effect
    rw [children,List.forall_mem_map]
    show (∀ c ∈ s.children, Kept c.reap) ↔ ∀ c ∈ s.children, c.met ≠ none → c.sent ≠ none
    refine forall₂_congr fun c member => ?_
    have sound := good.sound c member
    have before := kept c member
    constructor
    · intro after met
      obtain ⟨sig,met⟩ := Option.ne_none_iff_exists'.mp met
      rcases after.served.told sig met with sent | ⟨runs,_⟩
      · exact fun none_ => nomatch none_.symm.trans sent
      · cases runs
    · intro sent
      refine ⟨⟨before.served.live,before.served.early,fun sig met => ?_⟩,fun _ hand => ?_⟩
      · have done := sound.once (sent fun none_ => nomatch none_.symm.trans met)
        rcases before.served.told sig met with sent | ⟨_,hand⟩
        · exact .inl sent
        · simp [done] at hand
      · have hand : InHand c.listener := hand
        by_cases gone : c.reaped = true
        · exact before.spent gone hand
        · have runs : c.reaped = false := by simpa using gone
          have met : c.met ≠ none := by
            cases state : c.listener with
            | woken sig => simp [sound.woken runs sig (.inl state)]
            | stored sig => simp [sound.woken runs sig (.inr state)]
            | _ => simp [state,InHand] at hand
          simp [sound.once (sent met),InHand] at hand
  | judge unix written =>
    rw [effect.2.2.1]
    exact iff_of_true kept trivial
  | wake =>
    rw [effect.2.2.1]
    exact iff_of_true kept trivial

/-- A child that runs and met the signal is there after a step of one task as well. -/
theorem met_modify {children : List Child} {f : Child → Child} (i : Nat) (same : ∀ c, (f c).reaped = c.reaped ∧ (f c).met = c.met)
    (there : ∃ c ∈ children, c.reaped = false ∧ c.met ≠ none) :
    ∃ c ∈ children.modify i f, c.reaped = false ∧ c.met ≠ none := by
  obtain ⟨c,member,runs,met⟩ := there
  rcases modify_mem i member with still | ⟨_,changed⟩
  · exact ⟨c,still,runs,met⟩
  · exact ⟨f c,changed,(same c).1.trans runs,by rw [(same c).2]; exact met⟩

theorem Known.task {s t : State} {i : Nat} {f : Child → Child} (known : Known s) (got : t.got = s.got)
    (down : s.shuttingDown = true → t.shuttingDown = true) (phase : t.phase = s.phase)
    (children : t.children = s.children.modify i f) (same : ∀ c, (f c).reaped = c.reaped ∧ (f c).met = c.met) : Known t := by
  intro came
  rw [got] at came
  have before := known came
  rw [phase]
  cases state : s.phase with
  | running since =>
    rw [state] at before
    rw [children]
    exact met_modify i same before
  | waited status uptime =>
    rw [state] at before
    exact down before
  | starting since =>
    rw [state] at before
    exact before
  | sleeping uptime wakes =>
    rw [state] at before
    exact before
  | _ => trivial

theorem known_step {s t : State} {a : Action} (good : Good s) (known : Known s) (timely : Timely s a)
    (stepped : step cfg s a = some t) : Known t := by
  have going := step_over stepped
  have effect := step_children stepped
  cases a with
  | pass n =>
    obtain ⟨got,down,children,phase⟩ := effect
    intro came
    rw [phase,children,down]
    exact known (got ▸ came)
  | spawn pid =>
    obtain ⟨got,_,⟨since,starting⟩,_⟩ := effect
    intro came
    have before := known (got ▸ came)
    simp [starting] at before
  | listen i =>
    obtain ⟨got,down,phase,b,_,_,children⟩ := effect
    exact known.task got (fun set => down.trans set) phase children (fun _ => ⟨rfl,rfl⟩)
  | signal sig =>
    obtain ⟨_,_,_,children,⟨⟨c,heard,listening⟩,phase⟩ | ⟨_,phase⟩⟩ := effect
    · intro _
      have runs := (timely c heard).mp listening
      have attended : Attended s.phase := by
        by_contra idle
        exact absurd (good.gone going idle c heard) (by simp [runs])
      rw [phase]
      cases state : s.phase with
      | running since =>
        refine ⟨c.wake sig,?_,runs,by simp [Child.wake,runs]⟩
        rw [children]
        exact List.mem_map_of_mem heard
      | _ => simp [state,Attended] at attended
    · intro _
      rw [phase]
      trivial
  | store i =>
    obtain ⟨got,down,phase,b,sig,_,_,children⟩ := effect
    exact known.task got (fun _ => down) phase children (fun _ => ⟨rfl,rfl⟩)
  | kill i =>
    obtain ⟨got,down,phase,b,sig,_,_,children⟩ := effect
    exact known.task got (fun set => down.trans set) phase children (fun _ => ⟨rfl,rfl⟩)
  | reap status =>
    obtain ⟨got,down,⟨since,running⟩,⟨uptime,phase⟩,_⟩ := effect
    intro came
    have before := known (got ▸ came)
    rw [running] at before
    obtain ⟨c,member,_,met⟩ := before
    rw [phase]
    exact down.trans ((good.sound c member).noted (.inl (timely c member met)))
  | judge unix written =>
    obtain ⟨got,_,_,⟨status,uptime,waited⟩,phase⟩ := effect
    intro came
    have before := known (got ▸ came)
    rw [waited] at before
    rcases phase with phase | ⟨up,_⟩
    · rw [phase]
      trivial
    · cases up.symm.trans before
  | wake =>
    obtain ⟨got,_,_,⟨uptime,wakes,sleeping⟩,_⟩ := effect
    intro came
    have before := known (got ▸ came)
    simp [sleeping] at before

variable (cfg) in
/-- What holds of a state of a run whose signal went where it is to go so far. -/
def Steady (s : State) : Prop := Good s ∧ (Forwards cfg s → Known s ∧ Settled s)

theorem forwards_step_iff {s t : State} {a : Action} (steady : Steady cfg s) (now : Forwards cfg s)
    (stepped : step cfg s a = some t) : Forwards cfg t ↔ Timely s a := by
  obtain ⟨good,more⟩ := steady
  obtain ⟨known,settled⟩ := more now
  have kept := (forwards_iff good settled).mp now
  rw [forwards_iff (good.step stepped) (settled_step good kept stepped)]
  exact kept_step_iff good known kept stepped

theorem Steady.step {s t : State} {a : Action} (steady : Steady cfg s) (now : Forwards cfg s)
    (stepped : step cfg s a = some t) : Steady cfg t := by
  obtain ⟨good,more⟩ := steady
  obtain ⟨known,settled⟩ := more now
  have kept := (forwards_iff good settled).mp now
  refine ⟨good.step stepped,fun after => ⟨?_,settled_step good kept stepped⟩⟩
  exact known_step good known ((forwards_step_iff ⟨good,more⟩ now stepped).mp after) stepped

/-- What the signal tasks do is what they are to do throughout a run, whatever they do next in
    it, if and only if the signal comes when the task of the child that runs listens and no other,
    and that task has sent it when `wait` returns. -/
theorem signals_forwarded_iff (cfg : SupervisorConfig) (as : List Action) :
    Always (step cfg) (Forwards cfg) .start as ↔ Along (step cfg) Timely .start as := by
  have settled : Settled .start := nofun
  have first : Forwards cfg .start := (forwards_iff Good.start settled).mpr nofun
  apply always_iff_along_with (fun s a t (steady : Steady cfg s) now stepped => steady.step now stepped)
    (fun s a t steady now stepped => forwards_step_iff steady now stepped) _ first
  exact ⟨Good.start,fun _ => ⟨fun came => absurd rfl came,settled⟩⟩

/-- A child that was started and whose task listens. -/
def started (pid : Pid) (child : Nat) : List Action := [.spawn (some pid),.listen child]

/-- The first child crashes and a second one is started; then SIGTERM comes. The task of the
    first child sends it to the pid that was waited for. -/
theorem signal_to_waited_pid : ∃ t, run (step ⟨60,120⟩) .start (started 7 0 ++ [.reap (.code 1),.judge 0 true,.pass (secs 1),
    .wake] ++ started 8 1 ++ [.signal .sigterm,.store 0,.kill 0]) = some t ∧
      t.children.map (fun c => (c.pid,c.reaped,c.sent)) = [(7,true,some (.sigterm,true)),(8,false,none)] ∧ ¬ AllServed t := by
  obtain ⟨t,ran,children⟩ := Option.map_eq_some_iff.mp (show (run (step ⟨60,120⟩) .start (started 7 0 ++ [.reap (.code 1),
    .judge 0 true,.pass (secs 1),.wake] ++ started 8 1 ++ [.signal .sigterm,.store 0,.kill 0])).map State.children =
      some [⟨7,.done,true,false,none,some (.sigterm,true)⟩,⟨8,.woken .sigterm,false,false,some .sigterm,none⟩] by decide +kernel)
  refine ⟨t,ran,by simp [children],fun all => ?_⟩
  have live := (all ⟨7,.done,true,false,none,some (.sigterm,true)⟩ (by simp [children])).live _ _ rfl
  cases live

end Sctl.SupervisorSignals
