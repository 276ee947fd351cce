import Sctl.Runs
import Sctl.PlaybookScripts

/-!
The playbook files of the server: a playbook is written, read and removed under
the name in the URL, and listed under the name that its file gives. Documents
are parsed here; the YAML of the frontmatter is read by a library.
-/
namespace Sctl.PlaybookStore
open Runs PlaybookScripts Texts

/-- The frontmatter; what a parameter is made of is up to the reader of YAML. -/
structure FrontMatter (Param : Type) where
  name : Text
  description : Text
  params : List (Text × Param)

/-- The reader of YAML, `serde_yaml::from_str`, with the text of its error. -/
abbrev Yaml (Param : Type) := Text → Except Text (FrontMatter Param)

/-! ### Documents -/

def isNameChar (c : Char) : Bool := c.isAlphanum || c == '-' || c == '_'

/-- The lines of the first fenced shell block; those of the block come in reverse. -/
def scriptFrom : Option (List Text) → List Text → Except Text Text
  | some _, [] => .error "Unclosed code block".toList
  | none, [] => .error "No ```sh or ```bash code block found".toList
  | none, line :: rest =>
    if "```sh".toList.isPrefixOf (trim line) || "```bash".toList.isPrefixOf (trim line) then scriptFrom (some []) rest
    else scriptFrom none rest
  | some block, line :: rest =>
    if "```".toList.isPrefixOf (trim line) then .ok (['\n'].intercalate block.reverse)
    else scriptFrom (some (line :: block)) rest

def extractScriptBlock (body : Text) : Except Text Text := scriptFrom none (lines body)

/-- The frontmatter and the body of a document. -/
def splitDocument (markdown : Text) : Except Text (Text × Text) :=
  if !"---".toList.isPrefixOf (trimStart markdown) then .error "Missing YAML frontmatter (must start with ---)".toList
  else
    match splitOnce "\n---".toList ((trimStart markdown).drop 3) with
    | none => .error "Missing closing --- for frontmatter".toList
    | some parts => .ok parts

section Store
variable {Param : Type} (yaml : Yaml Param)

/-- What the server checks of the frontmatter. -/
def checkFrontMatter (fm : FrontMatter Param) : Except Text (FrontMatter Param) :=
  if trim fm.name = [] then .error "Playbook name is empty".toList
  else if trim fm.description = [] then .error "Playbook description is empty".toList
  else if !fm.name.all isNameChar then
    .error ("Invalid playbook name '".toList ++ fm.name ++ "': only alphanumeric, hyphens, and underscores allowed".toList)
  else .ok fm

def parsePlaybook (markdown : Text) : Except Text (FrontMatter Param × Text) := do
  let (yamlStr,body) ← splitDocument markdown
  let fm ← (yaml yamlStr).mapError ("YAML parse error: ".toList ++ ·)
  let fm ← checkFrontMatter fm
  let script ← extractScriptBlock body
  return (fm,script)

/-! ### Files -/

/-- A file: its characters, and whether part of another one follows, so that it is not UTF-8. -/
structure File where
  text : Text
  torn : Bool
deriving DecidableEq

/-- `read_to_string`. -/
def File.read (file : File) : Option Text := if file.torn then none else some file.text

/-- The files of the directory, by their names without `.md`. -/
abbrev Files := Table Text File

inductive ApiError
  | invalidRequest
  | fileTooLarge
  | invalidContent (reason : Text)
  | notFound
  | ioError
deriving DecidableEq

structure Summary where
  name : Text
  description : Text
  params : List Text
deriving DecidableEq

structure Detail (Param : Type) where
  fm : FrontMatter Param
  script : Text
  rawContent : Text

def validatePlaybookName (name : Text) : Bool := name != [] && name.all isNameChar

def summaryOf (file : File) : Option Summary :=
  match file.read.map (parsePlaybook yaml) with
  | some (.ok (fm,_)) => some ⟨fm.name,fm.description,fm.params.map Prod.fst⟩
  | _ => none

/-- The entries of the directory come in any order; nothing below depends on it. -/
def listPlaybooks (files : Files) : List Summary := files.entries.filterMap fun entry => summaryOf yaml entry.2

def getPlaybook (files : Files) (name : Text) : Except ApiError (Detail Param) :=
  if !validatePlaybookName name then .error .invalidRequest
  else
    match files.lookup name with
    | none => .error .notFound
    | some file =>
      match file.read with
      | none => .error .ioError
      | some content =>
        match parsePlaybook yaml content with
        | .error reason => .error (.invalidContent reason)
        | .ok (fm,script) => .ok ⟨fm,script,content⟩

/-- How a write ends: it is done, it fails with nothing changed, or it fails when the file
    has been emptied and so many characters are written, and perhaps a part of the next one. -/
inductive WriteEnd
  | done
  | refused
  | cut (chars : Nat) (torn : Bool)

def WriteEnd.leaves (body : Text) : WriteEnd → Option File
  | .done => some ⟨body,false⟩
  | .refused => none
  | .cut chars torn => some ⟨body.take chars,torn⟩

def maxPlaybookSize : Nat := 1024 * 1024

/-- Whether a put gets to its write. -/
def admitted (name body : Text) : Except ApiError Unit :=
  if !validatePlaybookName name then .error .invalidRequest
  else if maxPlaybookSize < byteLength body then .error .fileTooLarge
  else
    match parsePlaybook yaml body with
    | .error reason => .error (.invalidContent reason)
    | .ok _ => .ok ()

/-- The file that a put leaves, if it comes to one. -/
def written (name body : Text) (ends : WriteEnd) : Option File :=
  match admitted yaml name body with
  | .error _ => none
  | .ok _ => ends.leaves body

def putPlaybook (files : Files) (name body : Text) (ends : WriteEnd) : Except ApiError Unit × Files :=
  match admitted yaml name body with
  | .error e => (.error e,files)
  | .ok _ =>
    let answer := match ends with
      | .done => .ok ()
      | _ => .error .ioError
    match ends.leaves body with
    | some file => (answer,files.insert name file)
    | none => (answer,files)

/-- Removing a file can fail though it is there. -/
def deletePlaybook (files : Files) (name : Text) (fails : Bool) : Except ApiError Unit × Files :=
  if !validatePlaybookName name then (.error .invalidRequest,files)
  else if (files.lookup name).isNone then (.error .notFound,files)
  else if fails then (.error .ioError,files)
  else (.ok (),files.erase name)

inductive Action
  | put (name body : Text) (ends : WriteEnd)
  | delete (name : Text) (fails : Bool)

def step (files : Files) : Action → Option Files
  | .put name body ends => some (putPlaybook yaml files name body ends).2
  | .delete name fails => some (deletePlaybook files name fails).2

/-- The list has each name once, and what it lists is got and removed under its name. -/
structure Coherent (files : Files) : Prop where
  once : ((listPlaybooks yaml files).map Summary.name).Nodup
  got : ∀ summary ∈ listPlaybooks yaml files, ∃ detail, getPlaybook yaml files summary.name = .ok detail ∧
    detail.fm.name = summary.name
  removed : ∀ summary ∈ listPlaybooks yaml files, (deletePlaybook files summary.name false).1 = .ok () ∧
    (listPlaybooks yaml files).Perm (summary :: listPlaybooks yaml (deletePlaybook files summary.name false).2)

/-- What a put leaves has the name of the URL inside, if it reads as a playbook at all. -/
def WritesOwnName : Action → Prop
  | .put name body ends => ∀ file, written yaml name body ends = some file → ∀ summary, summaryOf yaml file = some summary →
      summary.name = name
  | .delete .. => True

/-- Every file that reads as a playbook has its own name inside. -/
def OwnNames (files : Files) : Prop := ∀ name file, files.lookup name = some file → ∀ summary, summaryOf yaml file = some summary →
  summary.name = name

/-! ### What a document says -/

variable {yaml} {fm : FrontMatter Param} {files : Files} {name body script : Text} {ends : WriteEnd} {file : File} {summary : Summary}

theorem checkFrontMatter_eq_ok {fm' : FrontMatter Param} (passed : checkFrontMatter fm = .ok fm') :
    fm' = fm ∧ validatePlaybookName fm.name = true := by
  unfold checkFrontMatter at passed
  split at passed
  · cases passed
  · next some_ =>
    split at passed
    · cases passed
    · split at passed
      · cases passed
      · next valid =>
        cases passed
        have named : fm.name ≠ [] := by
          rintro empty
          exact some_ (by rw [empty]; rfl)
        refine ⟨rfl,?_⟩
        rw [validatePlaybookName,Bool.and_eq_true]
        exact ⟨bne_iff_ne.mpr named,by simpa using valid⟩

theorem bind_eq_ok {Error First Second : Type} {x : Except Error First} {f : First → Except Error Second} {b : Second} :
    x >>= f = .ok b ↔ ∃ a, x = .ok a ∧ f a = .ok b := by
  cases x with
  | error e => exact ⟨nofun,nofun⟩
  | ok a => exact ⟨fun same => ⟨a,rfl,same⟩,fun ⟨_,there,same⟩ => by cases there; exact same⟩

theorem mapError_eq_ok {Error Error' First : Type} {x : Except Error First} {f : Error → Error'} {a : First} :
    x.mapError f = .ok a ↔ x = .ok a := by
  cases x with
  | error e => exact ⟨nofun,nofun⟩
  | ok a' => exact ⟨fun same => by cases same; rfl,fun same => by cases same; rfl⟩

theorem parsePlaybook_eq_ok {markdown : Text} : parsePlaybook yaml markdown = .ok (fm,script) ↔
    ∃ yamlStr body, splitDocument markdown = .ok (yamlStr,body) ∧ yaml yamlStr = .ok fm ∧ checkFrontMatter fm = .ok fm ∧
      extractScriptBlock body = .ok script := by
  unfold parsePlaybook
  rw [bind_eq_ok]
  constructor
  · rintro ⟨⟨yamlStr,body⟩,split_,later⟩
    obtain ⟨fm',read,later⟩ := bind_eq_ok.mp later
    obtain ⟨fm'',passed,later⟩ := bind_eq_ok.mp later
    obtain ⟨script',block,same⟩ := bind_eq_ok.mp later
    obtain ⟨rfl,-⟩ := checkFrontMatter_eq_ok passed
    cases same
    exact ⟨yamlStr,body,split_,mapError_eq_ok.mp read,passed,block⟩
  · rintro ⟨yamlStr,body,split_,read,passed,block⟩
    refine ⟨(yamlStr,body),split_,bind_eq_ok.mpr ⟨fm,mapError_eq_ok.mpr read,?_⟩⟩
    exact bind_eq_ok.mpr ⟨fm,passed,bind_eq_ok.mpr ⟨script,block,rfl⟩⟩

theorem summaryOf_eq_some : summaryOf yaml file = some summary ↔ ∃ content fm script, file.read = some content ∧
    parsePlaybook yaml content = .ok (fm,script) ∧ summary = ⟨fm.name,fm.description,fm.params.map Prod.fst⟩ := by
  unfold summaryOf
  cases read : file.read with
  | none => simp
  | some content =>
    rw [Option.map_some]
    constructor
    · intro found
      split at found
      · next fm script parsed =>
        cases found
        exact ⟨content,fm,script,rfl,Option.some.inj parsed,rfl⟩
      · cases found
    · rintro ⟨content',fm,script,same,parsed,rfl⟩
      cases same
      rw [parsed]

/-! ### A coherent directory -/

theorem mem_listPlaybooks : summary ∈ listPlaybooks yaml files ↔ ∃ name file, files.lookup name = some file ∧
    summaryOf yaml file = some summary := by
  rw [listPlaybooks,List.mem_filterMap]
  constructor
  · rintro ⟨⟨name,file⟩,member,found⟩
    exact ⟨name,file,Table.lookup_eq_some_iff.mpr member,found⟩
  · rintro ⟨name,file,there,found⟩
    exact ⟨⟨name,file⟩,Table.lookup_eq_some_iff.mp there,found⟩

/-- What is listed has a name that the other calls take. -/
theorem listed_valid (found : summaryOf yaml file = some summary) : validatePlaybookName summary.name = true := by
  obtain ⟨content,fm,script,-,parsed,rfl⟩ := summaryOf_eq_some.mp found
  obtain ⟨yamlStr,body,-,-,passed,-⟩ := parsePlaybook_eq_ok.mp parsed
  exact (checkFrontMatter_eq_ok passed).2

/-- A file that reads as a playbook is got under its name. -/
theorem getPlaybook_found (there : files.lookup name = some file) (found : summaryOf yaml file = some summary)
    (valid : validatePlaybookName name = true) : ∃ detail, getPlaybook yaml files name = .ok detail ∧ detail.fm.name = summary.name := by
  obtain ⟨content,fm,script,read,parsed,rfl⟩ := summaryOf_eq_some.mp found
  refine ⟨⟨fm,script,content⟩,?_,rfl⟩
  rw [getPlaybook,if_neg (by rw [valid]; decide)]
  simp only [there,read,parsed]

theorem getPlaybook_eq_ok {detail : Detail Param} (got : getPlaybook yaml files name = .ok detail) :
    ∃ file summary, files.lookup name = some file ∧ summaryOf yaml file = some summary ∧ detail.fm.name = summary.name := by
  unfold getPlaybook at got
  split at got
  · cases got
  · split at got
    · cases got
    · next file there =>
      split at got
      · cases got
      · next content read =>
        split at got
        · cases got
        · next fm script parsed =>
          cases got
          exact ⟨file,_,there,summaryOf_eq_some.mpr ⟨content,fm,script,read,parsed,rfl⟩,rfl⟩

theorem once_of_ownNames (own : OwnNames yaml files) : ((listPlaybooks yaml files).map Summary.name).Nodup := by
  rw [List.Nodup,List.pairwise_map,listPlaybooks,List.pairwise_filterMap]
  have keys : files.entries.Pairwise fun entry other => entry.1 ≠ other.1 := List.pairwise_map.mp files.nodupKeys
  refine List.Pairwise.imp_of_mem (fun {entry other} member member' differ summary found summary' found' same => ?_) keys
  have named := own _ _ (Table.lookup_eq_some_iff.mpr member) summary found
  have named' := own _ _ (Table.lookup_eq_some_iff.mpr member') summary' found'
  exact differ (named.symm.trans (same.trans named'))

theorem deletePlaybook_found (there : files.lookup name = some file) (valid : validatePlaybookName name = true) :
    deletePlaybook files name false = (.ok (),files.erase name) := by
  rw [deletePlaybook,if_neg (by rw [valid]; decide),there]
  rfl

/-- Removing a file takes its entry, if it has one, out of the list. -/
theorem list_erase (there : files.lookup name = some file) :
    (listPlaybooks yaml files).Perm ((summaryOf yaml file).toList ++ listPlaybooks yaml (files.erase name)) := by
  have key : name ∈ files.entries.keys := List.mem_keys_of_mem (Table.lookup_eq_some_iff.mp there)
  obtain ⟨file',before,after,-,whole,rest⟩ := List.exists_of_kerase key
  have same : file' = file := by
    have member : Sigma.mk name file' ∈ files.entries := by rw [whole]; simp
    exact Option.some.inj ((Table.lookup_eq_some_iff.mpr member).symm.trans there)
  subst same
  have erased : (files.erase name).entries = before ++ after := rest
  rw [listPlaybooks,listPlaybooks,whole,erased,List.filterMap_append,List.filterMap_append,List.filterMap_cons]
  cases summaryOf yaml file' with
  | none => exact List.Perm.refl _
  | some summary => exact List.perm_middle

theorem coherent_iff : Coherent yaml files ↔ OwnNames yaml files := by
  constructor
  · intro coherent name file there summary found
    have listed : summary ∈ listPlaybooks yaml files := mem_listPlaybooks.mpr ⟨name,file,there,found⟩
    obtain ⟨detail,got,named⟩ := coherent.got summary listed
    obtain ⟨file',summary',there',found',named'⟩ := getPlaybook_eq_ok got
    by_contra differ
    -- the file under the listed name lists the same name, and is still there without this one
    have other : (files.erase name).lookup summary.name = some file' := by
      rw [Table.lookup_erase_eq,if_neg differ,there']
    have twice : summary'.name ∈ (listPlaybooks yaml (files.erase name)).map Summary.name :=
      List.mem_map_of_mem (mem_listPlaybooks.mpr ⟨summary.name,file',other,found'⟩)
    have gone := @list_erase Param yaml files _ _ there
    rw [found] at gone
    have once := (gone.map Summary.name).nodup_iff.mp coherent.once
    rw [← named',named] at twice
    exact (List.nodup_cons.mp once).1 twice
  · intro own
    refine ⟨once_of_ownNames own,fun summary listed => ?_,fun summary listed => ?_⟩
    · obtain ⟨name,file,there,found⟩ := mem_listPlaybooks.mp listed
      have named := own name file there summary found
      subst named
      exact getPlaybook_found there found (listed_valid found)
    · obtain ⟨name,file,there,found⟩ := mem_listPlaybooks.mp listed
      have named := own name file there summary found
      subst named
      rw [deletePlaybook_found there (listed_valid found)]
      have gone := @list_erase Param yaml files _ _ there
      rw [found] at gone
      exact ⟨rfl,gone⟩

/-! ### A step -/

theorem putPlaybook_files : (putPlaybook yaml files name body ends).2 =
    (written yaml name body ends).elim files fun file => files.insert name file := by
  unfold putPlaybook written
  cases admitted yaml name body with
  | error e => rfl
  | ok _ => cases ends <;> rfl

theorem deletePlaybook_files {fails : Bool} : (deletePlaybook files name fails).2 = files ∨
    (deletePlaybook files name fails).2 = files.erase name := by
  unfold deletePlaybook
  split_ifs
  · exact .inl rfl
  · exact .inl rfl
  · exact .inl rfl
  · exact .inr rfl

theorem ownNames_insert (own : OwnNames yaml files) : OwnNames yaml (files.insert name file) ↔
    ∀ summary, summaryOf yaml file = some summary → summary.name = name := by
  constructor
  · intro after summary found
    exact after name file (by rw [Table.lookup_insert_eq,if_pos rfl]) summary found
  · intro named other file' there summary found
    rw [Table.lookup_insert_eq] at there
    split at there
    · next same =>
      cases there
      rw [same]
      exact named summary found
    · exact own other file' there summary found

theorem step_ownNames {t : Files} {a : Action} (own : OwnNames yaml files) (stepped : step yaml files a = some t) :
    OwnNames yaml t ↔ WritesOwnName yaml a := by
  cases a with
  | put name body ends =>
    cases stepped
    rw [putPlaybook_files,WritesOwnName]
    cases written yaml name body ends with
    | none => exact iff_of_true own nofun
    | some file =>
      show OwnNames yaml (files.insert name file) ↔ _
      rw [ownNames_insert own]
      exact ⟨fun named _ same => by cases same; exact named,fun named => named file rfl⟩
  | delete name fails =>
    cases stepped
    refine iff_of_true ?_ trivial
    rcases @deletePlaybook_files files name fails with same | same
    · rw [same]
      exact own
    · rw [same]
      intro other file there summary found
      rw [Table.lookup_erase_eq] at there
      split at there
      · cases there
      · exact own other file there summary found

theorem ownNames_empty : OwnNames yaml ∅ := by
  intro name file there
  cases there

variable (yaml) in
/-- The store is coherent in every state that a history of puts and deletes passes exactly
    if what each put leaves has the name of the URL inside. -/
theorem store_coherent_iff (as : List Action) : Always (step yaml) (Coherent yaml) ∅ as ↔ Along (step yaml) (fun _ => WritesOwnName yaml) ∅ as := by
  have exactly : ∀ files a t, True → Coherent yaml files → step yaml files a = some t → (Coherent yaml t ↔ WritesOwnName yaml a) := by
    intro files a t _ coherent stepped
    rw [coherent_iff] at coherent ⊢
    exact step_ownNames coherent stepped
  exact always_iff_along (fun _ _ _ _ _ => trivial) exactly trivial (coherent_iff.mpr ownNames_empty)

/-! ### Puts under their own name -/

/-- The front of a text has the same first occurrence, if it has one. -/
theorem splitOnce_take {sought text before after : Text} {n : Nat} (found : splitOnce sought (text.take n) = some (before,after)) :
    ∃ more, splitOnce sought text = some (before,more) := by
  induction text generalizing n before with
  | nil => exact ⟨after,by rwa [List.take_nil] at found⟩
  | cons c rest ih =>
    cases n with
    | zero =>
      rw [List.take_zero,splitOnce] at found
      split_ifs at found with empty
      cases found
      exact ⟨c :: rest,by rw [splitOnce,empty]; rfl⟩
    | succ n =>
      rw [List.take_succ_cons,splitOnce] at found
      split_ifs at found with here
      · cases found
        rw [List.isPrefixOf_iff_prefix] at here
        have start : sought <+: c :: rest := here.trans (List.take_prefix (n + 1) (c :: rest))
        exact ⟨_,by rw [splitOnce,if_pos (List.isPrefixOf_iff_prefix.mpr start)]⟩
      · obtain ⟨⟨first,second⟩,later,same⟩ := Option.map_eq_some_iff.mp found
        cases same
        obtain ⟨more,whole⟩ := ih later
        -- an occurrence that starts the text would be in its front, as the later one is
        have short : sought.length ≤ n := by
          have lengths := congrArg List.length (splitOnce_eq_some later)
          simp only [List.length_append,List.length_take] at lengths
          omega
        have missing : ¬ sought.isPrefixOf (c :: rest) = true := by
          intro start
          rw [List.isPrefixOf_iff_prefix] at start here
          have within : sought <+: (c :: rest).take (n + 1) := List.prefix_take_iff.mpr ⟨start,by omega⟩
          rw [List.take_succ_cons] at within
          exact here within
        exact ⟨more,by rw [splitOnce,if_neg missing,whole]; rfl⟩

theorem dropWhile_take {p : Char → Bool} (text : Text) (n : Nat) : ∃ m, (text.take n).dropWhile p = (text.dropWhile p).take m := by
  induction text generalizing n with
  | nil => exact ⟨0,by simp⟩
  | cons c rest ih =>
    cases n with
    | zero => exact ⟨0,by simp⟩
    | succ n =>
      by_cases dropped : p c = true
      · obtain ⟨m,same⟩ := ih n
        exact ⟨m,by rw [List.take_succ_cons,List.dropWhile_cons_of_pos dropped,List.dropWhile_cons_of_pos dropped,same]⟩
      · exact ⟨n + 1,by rw [List.take_succ_cons,List.dropWhile_cons_of_neg dropped,List.dropWhile_cons_of_neg dropped,List.take_succ_cons]⟩

/-- A document that is cut has the same frontmatter, if it still has one. -/
theorem splitDocument_take {n : Nat} {yamlStr rest : Text} (split_ : splitDocument (body.take n) = .ok (yamlStr,rest)) :
    ∃ more, splitDocument body = .ok (yamlStr,more) := by
  obtain ⟨m,trimmed⟩ : ∃ m, trimStart (body.take n) = (trimStart body).take m := dropWhile_take body n
  simp only [splitDocument,trimmed] at split_ ⊢
  split at split_
  · cases split_
  · next opened =>
    have opened : "---".toList.isPrefixOf ((trimStart body).take m) = true := by simpa using opened
    have start : "---".toList.isPrefixOf (trimStart body) = true := by
      rw [List.isPrefixOf_iff_prefix] at opened ⊢
      exact opened.trans (List.take_prefix m _)
    rw [if_neg (by rw [start]; decide)]
    rw [List.drop_take] at split_
    split at split_
    · cases split_
    · next parts found =>
      cases split_
      obtain ⟨more,whole⟩ := splitOnce_take found
      exact ⟨more,by rw [whole]⟩

/-- A playbook that is put under the name it gives itself is put under its own name, also
    when only a part of it is written. -/
theorem writesOwnName_of_body (parsed : parsePlaybook yaml body = .ok (fm,script)) (own : fm.name = name) :
    WritesOwnName yaml (.put name body ends) := by
  intro file left summary found
  obtain ⟨yamlStr,behind,split_,read,-,-⟩ := parsePlaybook_eq_ok.mp parsed
  obtain ⟨content,fm',script',text,parsed',rfl⟩ := summaryOf_eq_some.mp found
  obtain ⟨yamlStr',behind',split',read',-,-⟩ := parsePlaybook_eq_ok.mp parsed'
  have front : ∃ n, content = body.take n := by
    unfold written at left
    split at left
    · cases left
    · cases ends with
      | done =>
        cases left
        cases text
        exact ⟨body.length,(List.take_length).symm⟩
      | refused => cases left
      | cut chars torn =>
        cases left
        simp only [File.read,Option.ite_none_left_eq_some] at text
        exact ⟨chars,(Option.some.inj text.2).symm⟩
  obtain ⟨n,rfl⟩ := front
  obtain ⟨more,same⟩ := splitDocument_take split'
  rw [same] at split_
  cases split_
  rw [read] at read'
  cases read'
  exact own

end Store

/-- A reader of the one document below. -/
def oneDocument : Yaml Unit := fun _ => .ok ⟨"b".toList,"first".toList,[]⟩

def fencedScript : Text := "---\nname: b\ndescription: first\n---\n```sh\nls\n```\n".toList

/-- The playbook `b` that is put under `a` is listed as `b`, and there is no `b` to get. -/
theorem put_under_other_name : ¬ ∀ (Param : Type) (yaml : Yaml Param) (as : List Action),
    Always (step yaml) (Coherent yaml) ∅ as := by
  intro all
  have coherent := (all Unit oneDocument [.put "a".toList fencedScript .done]).2 _ rfl
  have left : written oneDocument "a".toList fencedScript .done = some ⟨fencedScript,false⟩ := by decide +kernel
  have listed : summaryOf oneDocument ⟨fencedScript,false⟩ = some ⟨"b".toList,"first".toList,[]⟩ := by decide +kernel
  have own : OwnNames oneDocument (putPlaybook oneDocument ∅ "a".toList fencedScript .done).2 := coherent_iff.mp (always_first coherent)
  rw [putPlaybook_files,left] at own
  have same : "b".toList = "a".toList := (ownNames_insert ownNames_empty).mp own _ listed
  exact absurd same (by decide)

end Sctl.PlaybookStore
