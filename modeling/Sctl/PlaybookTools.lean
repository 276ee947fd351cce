import Sctl.PlaybookScripts

/-!
A call of a playbook tool: the MCP client looks the playbook up by the tool's
name among the cached playbooks of all devices, chooses the device to run it on,
and sends the rendered script there. The cache is a hash map, which is gone
through in any order.
-/
namespace Sctl.PlaybookTools
open PlaybookScripts

structure Playbook where
  name : Text
  /-- The parameters, in the order in which their map is gone through. -/
  params : List (Text × ParamDef)
  script : Text
  sourceDevice : Text

def Playbook.toolName (pb : Playbook) : Text := "pb_".toList ++ pb.name

/-- The cache: each device has one entry, with playbooks that were fetched from it. -/
structure Cache where
  entries : List (Text × List Playbook)
  distinct : (entries.map Prod.fst).Nodup
  source : ∀ entry ∈ entries, ∀ pb ∈ entry.2, pb.sourceDevice = entry.1

/-- The arguments of a call: the texts of those that are not `null`, and the device if one is given. -/
structure Args where
  texts : Table Text Text
  device : Option Text

section Call
variable (configured : Text → Bool) (order : List (Text × List Playbook)) (toolName : Text) (args : Args)

def findByToolName : Option Playbook := (order.flatMap Prod.snd).find? fun pb => pb.toolName == toolName

/-- `handle_playbook_exec`, up to the device that the script is sent to. -/
def handlePlaybookExec : Except Text (Text × Text) :=
  match findByToolName order toolName with
  | none => .error ("Playbook tool '".toList ++ toolName ++ "' not found. Try calling playbook_list to refresh.".toList)
  | some pb =>
    let device := args.device.getD pb.sourceDevice
    if configured device then (renderScript args.texts pb.params pb.script).map fun script => (device,script)
    else .error ("Unknown device: '".toList ++ device ++ ['\x27'])

/-- The script that a call runs, if it runs one. -/
def ranScript : Option Text := (handlePlaybookExec configured order toolName args).toOption.map Prod.snd

end Call

/-- The playbook of a device that has the tool's name: the first one, as for the call. -/
def own (cache : Cache) (device toolName : Text) : Option Playbook :=
  (cache.entries.find? fun entry => entry.1 == device).bind fun entry => entry.2.find? fun pb => pb.toolName == toolName

/-- Whatever the order of the cache, a script that runs is the rendering of the device's own
    playbook where it has one, and the script is always the same. -/
structure RunsOwn (configured : Text → Bool) (cache : Cache) (toolName : Text) (args : Args) : Prop where
  own : ∀ order, order.Perm cache.entries → ∀ device script, handlePlaybookExec configured order toolName args = .ok (device,script) →
    ∀ pb, own cache device toolName = some pb → renderScript args.texts pb.params pb.script = .ok script
  same : ∀ order order', order.Perm cache.entries → order'.Perm cache.entries →
    ranScript configured order toolName args = ranScript configured order' toolName args

/-- What the call runs when it finds this playbook. -/
def outcome (configured : Text → Bool) (args : Args) (pb : Playbook) : Option Text :=
  if configured (args.device.getD pb.sourceDevice) then (renderScript args.texts pb.params pb.script).toOption else none

section
variable {configured : Text → Bool} {cache : Cache} {order rest : List (Text × List Playbook)} {toolName : Text} {args : Args}
variable {entry : Text × List Playbook} {pb : Playbook}

theorem ranScript_found (found : findByToolName order toolName = some pb) :
    ranScript configured order toolName args = outcome configured args pb := by
  simp only [ranScript,handlePlaybookExec,found,outcome]
  split
  · cases renderScript args.texts pb.params pb.script <;> rfl
  · rfl

/-- The playbook that is found is the first one of its device. -/
theorem found_own (found : findByToolName order toolName = some pb) :
    ∃ entry ∈ order, entry.2.find? (fun pb => pb.toolName == toolName) = some pb := by
  rw [findByToolName] at found
  induction order with
  | nil => cases found
  | cons entry rest ih =>
    rw [List.flatMap_cons,List.find?_append] at found
    cases here : entry.2.find? fun pb => pb.toolName == toolName with
    | none =>
      rw [here,Option.none_or] at found
      obtain ⟨other,member,first⟩ := ih found
      exact ⟨other,List.mem_cons_of_mem entry member,first⟩
    | some pb' =>
      rw [here,Option.some_or] at found
      exact ⟨entry,List.mem_cons_self,here.trans found⟩

/-- Any device that has the playbook can come first. -/
theorem found_first (member : entry ∈ cache.entries) (first : entry.2.find? (fun pb => pb.toolName == toolName) = some pb) :
    ∃ order, order.Perm cache.entries ∧ findByToolName order toolName = some pb := by
  obtain ⟨before,after,whole⟩ := List.append_of_mem member
  refine ⟨entry :: (before ++ after),?_,?_⟩
  · rw [whole]
    exact List.perm_middle.symm
  · rw [findByToolName,List.flatMap_cons,List.find?_append,first]
    rfl

theorem own_entry (member : entry ∈ cache.entries) : own cache entry.1 toolName = entry.2.find? fun pb => pb.toolName == toolName := by
  have there : cache.entries.find? (fun other => other.1 == entry.1) = some entry := by
    cases found : cache.entries.find? fun other => other.1 == entry.1 with
    | none => exact absurd (List.find?_eq_none.mp found entry member) (by simp)
    | some other =>
      have same : other.1 = entry.1 := by simpa using List.find?_some found
      rw [List.inj_on_of_nodup_map cache.distinct (List.mem_of_find?_eq_some found) member same]
  rw [own,there]
  rfl

theorem entry_of_own {device : Text} (found : own cache device toolName = some pb) :
    ∃ entry ∈ cache.entries, entry.1 = device ∧ entry.2.find? (fun pb => pb.toolName == toolName) = some pb := by
  obtain ⟨entry,there,first⟩ := Option.bind_eq_some_iff.mp found
  exact ⟨entry,List.mem_of_find?_eq_some there,by simpa using List.find?_some there,first⟩

/-- Some device's own playbook is found if any device has one. -/
theorem found_some (reordered : order.Perm cache.entries) (found : findByToolName order toolName = some pb) :
    ∃ device, pb.sourceDevice = device ∧ own cache device toolName = some pb := by
  obtain ⟨entry,member,first⟩ := found_own found
  have member' := reordered.mem_iff.mp member
  refine ⟨entry.1,cache.source entry member' pb (List.mem_of_find?_eq_some first),?_⟩
  rw [own_entry member',first]

theorem found_of_own {device : Text} (reordered : order.Perm cache.entries) (there : own cache device toolName = some pb) :
    ∃ pb', findByToolName order toolName = some pb' := by
  obtain ⟨entry,member,-,first⟩ := entry_of_own there
  have within : pb ∈ order.flatMap Prod.snd :=
    List.mem_flatMap.mpr ⟨entry,reordered.mem_iff.mpr member,List.mem_of_find?_eq_some first⟩
  rw [← Option.isSome_iff_exists,findByToolName,List.find?_isSome]
  exact ⟨pb,within,by simpa using List.find?_some first⟩

/-- A call runs the device's own playbook in every order exactly if the playbooks of that
    name, of all devices, come to the same script. -/
theorem own_playbook_iff : RunsOwn configured cache toolName args ↔
    ∀ device device' pb pb', own cache device toolName = some pb → own cache device' toolName = some pb' →
      outcome configured args pb = outcome configured args pb' := by
  constructor
  · intro runs device device' pb pb' there there'
    obtain ⟨entry,member,-,first⟩ := entry_of_own there
    obtain ⟨entry',member',-,first'⟩ := entry_of_own there'
    obtain ⟨order,reordered,found⟩ := found_first member first
    obtain ⟨order',reordered',found'⟩ := found_first member' first'
    have same := runs.same order order' reordered reordered'
    rwa [ranScript_found found,ranScript_found found'] at same
  · intro agree
    constructor
    · intro order reordered device script ran pb there
      simp only [handlePlaybookExec] at ran
      split at ran
      · cases ran
      · next pb' found =>
        obtain ⟨source,named,there'⟩ := found_some reordered found
        split at ran
        · next known =>
          cases rendered : renderScript args.texts pb'.params pb'.script with
          | error message => rw [rendered] at ran; cases ran
          | ok script' =>
            rw [rendered] at ran
            cases ran
            cases given : args.device with
            | none =>
              have same : own cache pb'.sourceDevice toolName = some pb := by rwa [given] at there
              rw [named,there'] at same
              cases same
              exact rendered
            | some device =>
              -- the device that is asked for has the playbook itself
              have asked : own cache device toolName = some pb := by rwa [given] at there
              have same := agree source device pb' pb there' asked
              have known' : configured device = true := by rwa [given] at known
              simp only [outcome,given,Option.getD_some,if_pos known',rendered] at same
              cases own_ : renderScript args.texts pb.params pb.script with
              | error message => rw [own_] at same; cases same
              | ok script => rw [own_] at same; cases same; rfl
        · cases ran
    · intro order order' reordered reordered'
      cases found : findByToolName order toolName with
      | none =>
        cases found' : findByToolName order' toolName with
        | none => simp only [ranScript,handlePlaybookExec,found,found']
        | some pb' =>
          obtain ⟨device,-,there⟩ := found_some reordered' found'
          obtain ⟨pb,some_⟩ := found_of_own reordered there
          rw [found] at some_
          cases some_
      | some pb =>
        obtain ⟨device,-,there⟩ := found_some reordered found
        obtain ⟨pb',found'⟩ := found_of_own reordered' there
        obtain ⟨device',-,there'⟩ := found_some reordered' found'
        rw [ranScript_found found,ranScript_found found']
        exact agree device device' pb pb' there there'

end

/-- Two devices with a playbook of one name. -/
def twoDevices : Cache where
  entries := [("attic".toList,[⟨"restart".toList,[],"wifi down".toList,"attic".toList⟩]),
    ("cellar".toList,[⟨"restart".toList,[],"reboot".toList,"cellar".toList⟩])]
  distinct := by decide
  source := by decide

/-- Asked for the cellar's playbook, the call can send the attic's script there. -/
theorem other_playbook_run :
    ¬ ∀ (configured : Text → Bool) (cache : Cache) (toolName : Text) (args : Args), RunsOwn configured cache toolName args := by
  intro all
  have runs := all (fun _ => true) twoDevices "pb_restart".toList ⟨∅,some "cellar".toList⟩
  have sent : handlePlaybookExec (fun _ => true) twoDevices.entries "pb_restart".toList ⟨∅,some "cellar".toList⟩ =
      .ok ("cellar".toList,"wifi down".toList) := by decide +kernel
  have there : own twoDevices "cellar".toList "pb_restart".toList = some ⟨"restart".toList,[],"reboot".toList,"cellar".toList⟩ := rfl
  have script := runs.own twoDevices.entries (List.Perm.refl _) _ _ sent _ there
  have rendered : renderScript ∅ [] "reboot".toList = .ok "reboot".toList := by decide +kernel
  rw [rendered] at script
  have same : "reboot".toList = "wifi down".toList := Except.ok.inj script
  exact absurd same (by decide)

end Sctl.PlaybookTools
