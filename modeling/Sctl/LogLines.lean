import Sctl.Texts
import Sctl.Utf8

/-!
How log lines are stripped (`server/src/routes/diagnostics.rs`): `strip_tracing_prefix`,
which slices at a fixed byte, and `strip_ansi_escapes`. A slice that does not begin at
a character has no value here.
-/
namespace Sctl.LogLines
open Texts Utf8

/-! ### The slices -/

/-- `s[n..]`, which panics inside a character and beyond the end. -/
def sliceFrom : Nat → List Char → Option (List Char)
  | 0,text => some text
  | _ + 1,[] => none
  | n + 1,c :: rest => if c.utf8Size ≤ n + 1 then sliceFrom (n + 1 - c.utf8Size) rest else none

/-- The text before the first `": "` and the text behind it. -/
def cutMark : List Char → Option (List Char × List Char)
  | [] => none
  | c :: rest =>
    if c = ':' ∧ rest.head? = some ' ' then some ([],rest.tail)
    else (cutMark rest).map fun parts => (c :: parts.1,parts.2)

/-- The first step of `strip_tracing_prefix`. -/
def stripStamp (s : List Char) : Option (List Char) :=
  if 30 < byteLength s ∧ (encode s)[4]? = some 45 then
    (sliceFrom 20 s).map fun tail =>
      match cutMark tail with
      | some (_,rest) => rest
      | none => s
  else some s

/-- The second step, which strips what is left of a module's path. -/
def stripPath (result : List Char) : List Char :=
  match cutMark result with
  | some (before,rest) => if contains before "::".toList then rest else result
  | none => result

/-- `strip_tracing_prefix`. -/
def stripTracingPrefix (s : List Char) : Option (List Char) := (stripStamp s).map stripPath

/-- `strip_ansi_escapes`. -/
def stripAnsiEscapes : List Char → List Char
  | [] => []
  | c :: rest =>
    if c = '\x1b' then
      if rest.head? = some '[' then stripAnsiEscapes (rest.tail.dropWhile fun c => !c.isAlpha).tail
      else stripAnsiEscapes rest
    else c :: stripAnsiEscapes rest
termination_by text => text.length
decreasing_by
  · have shorter := (List.dropWhile_suffix (fun c : Char => !c.isAlpha) (l := rest.tail)).length_le
    simp only [List.length_tail,List.length_cons] at shorter ⊢
    omega
  · simp
  · simp

/-- What is left of a text stands in it in the same order, and without an escape character. -/
theorem stripAnsiEscapes_sublist (text : List Char) : (stripAnsiEscapes text).Sublist text ∧ '\x1b' ∉ stripAnsiEscapes text := by
  induction text using stripAnsiEscapes.induct with
  | case1 => simp [stripAnsiEscapes]
  | case2 rest opens ih =>
    rw [stripAnsiEscapes,if_pos rfl,if_pos opens]
    refine ⟨ih.1.trans ?_,ih.2⟩
    exact (List.tail_sublist _).trans ((List.dropWhile_sublist _).trans ((List.tail_sublist rest).trans (List.sublist_cons_self _ rest)))
  | case3 rest other ih =>
    rw [stripAnsiEscapes,if_pos rfl,if_neg other]
    exact ⟨ih.1.trans (List.sublist_cons_self _ rest),ih.2⟩
  | case4 c rest plain ih =>
    rw [stripAnsiEscapes,if_neg plain]
    refine ⟨ih.1.cons_cons c,?_⟩
    rw [List.mem_cons,not_or]
    exact ⟨Ne.symm plain,ih.2⟩

/-! ### Where a slice panics -/

/-- The byte begins a character, or stands right behind the text. -/
def Boundary (n : Nat) (text : List Char) : Prop := ∃ before after, text = before ++ after ∧ byteLength before = n

theorem byteLength_cons (c : Char) (text : List Char) : byteLength (c :: text) = c.utf8Size + byteLength text := rfl

theorem sliceFrom_append (before after : List Char) : sliceFrom (byteLength before) (before ++ after) = some after := by
  induction before with
  | nil => cases after <;> rfl
  | cons c before ih =>
    have some_ := c.utf8Size_pos
    obtain ⟨n,size⟩ := Nat.exists_eq_add_of_le' (show 1 ≤ byteLength (c :: before) by rw [byteLength_cons]; omega)
    rw [size,List.cons_append,sliceFrom,← size,byteLength_cons,if_pos (Nat.le_add_right _ _),Nat.add_sub_cancel_left]
    exact ih

theorem sliceFrom_eq_none {n : Nat} {text : List Char} : sliceFrom n text = none ↔ ¬ Boundary n text := by
  constructor
  · rintro panics ⟨before,after,rfl,rfl⟩
    rw [sliceFrom_append] at panics
    cases panics
  · intro inside
    induction text generalizing n with
    | nil =>
      cases n with
      | zero => exact absurd ⟨[],[],rfl,rfl⟩ inside
      | succ n => rfl
    | cons c rest ih =>
      cases n with
      | zero => exact absurd ⟨[],c :: rest,rfl,rfl⟩ inside
      | succ n =>
        rw [sliceFrom]
        split
        · next fits =>
          refine ih fun ⟨before,after,whole,size⟩ => inside ⟨c :: before,after,by rw [whole]; rfl,?_⟩
          rw [byteLength_cons,size]
          omega
        · rfl

/-- The fifth byte is a hyphen and the twentieth lies inside a character. -/
def Splits (s : List Char) : Prop := 30 < byteLength s ∧ (encode s)[4]? = some 45 ∧ ¬ Boundary 20 s

theorem stripTracingPrefix_eq_none {s : List Char} : stripTracingPrefix s = none ↔ Splits s := by
  rw [stripTracingPrefix,Option.map_eq_none_iff,stripStamp,Splits]
  split
  · next long =>
    rw [Option.map_eq_none_iff,sliceFrom_eq_none,and_iff_right long.1,and_iff_right long.2]
  · next short => exact iff_of_false nofun fun splits => short ⟨splits.1,splits.2.1⟩

/-! ### Formatted lines -/

inductive Level
  | trace
  | debug
  | info
  | warn
  | error

def Level.text : Level → List Char
  | .trace => "TRACE".toList
  | .debug => "DEBUG".toList
  | .info => "INFO".toList
  | .warn => "WARN".toList
  | .error => "ERROR".toList

/-- The segments of a module's path. -/
def joinPath : List (List Char) → List Char
  | [] => []
  | [segment] => segment
  | segment :: rest => segment ++ ':' :: ':' :: joinPath rest

/-- The parts of a line as the formatter of the tracing library writes it. -/
structure Line where
  /-- The timestamp with its `Z`. -/
  stamp : List Char
  /-- The blanks between the timestamp and the level, beside the first. -/
  padding : Nat
  level : Level
  /-- The name of a span and its fields. -/
  span : Option (List Char × List Char)
  path : List (List Char)
  message : List Char
  /-- What an ISO timestamp consists of. -/
  numeric : ∀ c ∈ stamp, c.isDigit = true ∨ c ∈ ['-','T',':','.','Z']
  hyphen : stamp[4]? = some '-'
  enough : 20 ≤ stamp.length
  zone : stamp.getLast? = some 'Z'
  single : contains stamp "::".toList = false
  fieldsPlain : ∀ name fields, span = some (name,fields) → ':' ∉ name ∧ cutMark fields = none
  segmented : path ≠ []
  segmentsPlain : ∀ segment ∈ path, segment ≠ [] ∧ ':' ∉ segment ∧ ' ' ∉ segment

def Line.pathText (line : Line) : List Char := joinPath line.path

/-- What stands in front of the level's blank. -/
def Line.lead (line : Line) : List Char := List.replicate (line.padding + 1) ' ' ++ line.level.text

/-- What stands behind it. -/
def Line.body (line : Line) : List Char :=
  let target := line.pathText ++ ':' :: ' ' :: line.message
  match line.span with
  | none => target
  | some (name,fields) => name ++ '{' :: fields ++ ['}'] ++ ':' :: ' ' :: target

def Line.text (line : Line) : List Char := line.stamp ++ (line.lead ++ ' ' :: line.body)

/-- With a span the path has a `::`; without one the line is longer than thirty bytes and the
    message has no `::` before its own first `": "`. -/
def Line.Exact (line : Line) : Prop :=
  match line.span with
  | none => 30 < byteLength line.text ∧ ∀ before rest, cutMark line.message = some (before,rest) → contains before "::".toList = false
  | some _ => 2 ≤ line.path.length

/-! ### The first mark -/

theorem cutMark_append {first second : List Char} (clean : cutMark first = none)
    (joint : first.getLast? = some ':' → second.head? ≠ some ' ') :
    cutMark (first ++ second) = (cutMark second).map fun parts => (first ++ parts.1,parts.2) := by
  induction first with
  | nil => simp
  | cons c rest ih =>
    rw [cutMark] at clean
    split at clean
    · cases clean
    · next other =>
      have here : ¬ (c = ':' ∧ (rest ++ second).head? = some ' ') := by
        rintro ⟨rfl,blank⟩
        cases rest with
        | nil => exact joint rfl blank
        | cons d rest => exact other ⟨rfl,blank⟩
      rw [List.cons_append,cutMark,if_neg here,ih (Option.map_eq_none_iff.mp clean) fun last => joint ?_]
      · cases cutMark second <;> rfl
      · rw [List.getLast?_cons,last]
        rfl

theorem cutMark_mark {before : List Char} (clean : cutMark before = none) (after : List Char) :
    cutMark (before ++ ':' :: ' ' :: after) = some (before,after) := by
  rw [cutMark_append clean fun _ => by simp]
  simp [cutMark]

theorem cutMark_of_blank {text : List Char} (free : ' ' ∉ text) : cutMark text = none := by
  induction text with
  | nil => rfl
  | cons c rest ih =>
    rw [List.mem_cons,not_or] at free
    rw [cutMark,if_neg fun mark => free.2 (List.mem_of_mem_head? mark.2),ih free.2]
    rfl

theorem cutMark_of_colon {text : List Char} (free : ':' ∉ text) : cutMark text = none := by
  induction text with
  | nil => rfl
  | cons c rest ih =>
    rw [List.mem_cons,not_or] at free
    rw [cutMark,if_neg fun mark => free.1 mark.1.symm,ih free.2]
    rfl

theorem length_of_cutMark {text before rest : List Char} (found : cutMark text = some (before,rest)) :
    rest.length + 2 ≤ text.length := by
  induction text generalizing before with
  | nil => cases found
  | cons c text ih =>
    rw [cutMark] at found
    split at found
    · next mark =>
      cases found
      have some_ : text ≠ [] := fun empty => by simp [empty] at mark
      have long := List.length_pos_iff.mpr some_
      simp only [List.length_tail,List.length_cons]
      omega
    · obtain ⟨parts,inner,same⟩ := Option.map_eq_some_iff.mp found
      cases same
      have shorter := ih inner
      rw [List.length_cons]
      omega

/-! ### What the steps do to a line -/

theorem length_le_byteLength (text : List Char) : text.length ≤ byteLength text := by
  induction text with
  | nil => exact Nat.le_refl 0
  | cons c rest ih =>
    have some_ := c.utf8Size_pos
    rw [byteLength_cons,List.length_cons]
    omega

theorem byteLength_ascii {text : List Char} (ascii : ∀ c ∈ text, c.utf8Size = 1) : byteLength text = text.length := by
  induction text with
  | nil => rfl
  | cons c rest ih =>
    rw [byteLength_cons,List.length_cons,ascii c List.mem_cons_self,ih fun d member => ascii d (List.mem_cons_of_mem c member),
      Nat.add_comm]

theorem length_encode (text : List Char) : (encode text).length = byteLength text := by
  induction text with
  | nil => rfl
  | cons c rest ih => rw [encode_cons,List.length_append,String.length_utf8EncodeChar,ih,byteLength_cons]

theorem Line.stamp_ascii (line : Line) : ∀ c ∈ line.stamp, c.utf8Size = 1 ∧ c ≠ ' ' := by
  intro c member
  rcases line.numeric c member with digit | mark
  · have low : c.toNat ≤ 57 := by simp [Char.isDigit] at digit; exact digit.2
    refine ⟨Char.utf8Size_eq_one_iff.mpr (UInt32.le_iff_toNat_le.mpr ?_),?_⟩
    · change c.toNat ≤ 127
      omega
    · rintro rfl
      cases digit
  · exact forall_of_all (P := fun c : Char => c.utf8Size = 1 ∧ c ≠ ' ') (by decide) c mark

/-- The fifth byte of a line is the hyphen of its timestamp. -/
theorem Line.fifth (line : Line) : (encode line.text)[4]? = some 45 := by
  have parted : line.stamp = line.stamp.take 4 ++ '-' :: line.stamp.drop 5 := by
    obtain ⟨bound,hyphen⟩ := List.getElem?_eq_some_iff.mp line.hyphen
    conv_lhs => rw [← List.take_append_drop 4 line.stamp,List.drop_eq_getElem_cons bound,hyphen]
  have four : (encode (line.stamp.take 4)).length = 4 := by
    rw [length_encode,byteLength_ascii fun c member => (line.stamp_ascii c (List.mem_of_mem_take member)).1,List.length_take]
    have enough := line.enough
    omega
  rw [Line.text,parted,List.append_assoc,encode_append,List.getElem?_append_right (by omega),four]
  rfl

/-- No mark stands in front of the level's blank, at whatever byte of the timestamp one begins. -/
theorem Line.cutMark_lead (line : Line) {stamp : List Char} (part_of : stamp <:+ line.stamp) (rest : List Char) :
    cutMark (stamp ++ (line.lead ++ ' ' :: rest)) = (cutMark rest).map fun parts => (stamp ++ (line.lead ++ [' ']) ++ parts.1,parts.2) := by
  have blank : ' ' ∉ stamp := fun member => (line.stamp_ascii ' ' (part_of.subset member)).2 rfl
  have colon : ':' ∉ line.lead ++ [' '] := by
    have letters : ':' ∉ line.level.text := by cases line.level <;> decide
    simp [Line.lead,letters]
  have zone : stamp.getLast? ≠ some ':' := by
    intro last
    obtain ⟨before,whole⟩ := part_of
    have z := line.zone
    rw [← whole,List.getLast?_append,last] at z
    cases z
  have shape : stamp ++ (line.lead ++ ' ' :: rest) = stamp ++ ((line.lead ++ [' ']) ++ rest) := by simp
  rw [shape,cutMark_append (cutMark_of_blank blank) fun last => absurd last zone,cutMark_append (cutMark_of_colon colon) fun last => ?_]
  · cases cutMark rest <;> simp
  · simp at last

/-- The path of a module has a `::` exactly when it has two parts. -/
theorem Line.contains_path (line : Line) : contains line.pathText "::".toList = true ↔ 2 ≤ line.path.length := by
  have plain := line.segmentsPlain
  rw [Line.pathText]
  match shape : line.path with
  | [] => exact absurd shape line.segmented
  | [segment] =>
    have free := (plain segment (by simp [shape])).2.1
    exact iff_of_false (by rw [joinPath,contains_eq_false (show ':' ∈ "::".toList by decide) free]; decide) (by simp)
  | first :: second :: more =>
    exact iff_of_true (contains_iff.mpr ⟨first,joinPath (second :: more),by simp [joinPath]⟩) (by simp)

/-- No blank stands in a path, so no mark does. -/
theorem Line.cutMark_path (line : Line) : cutMark line.pathText = none := by
  have free : ∀ path : List (List Char), (∀ segment ∈ path, ' ' ∉ segment) → ' ' ∉ joinPath path := by
    intro path plain
    induction path with
    | nil => exact List.not_mem_nil
    | cons segment rest ih =>
      have here := plain segment List.mem_cons_self
      have later := ih fun other member => plain other (List.mem_cons_of_mem segment member)
      cases rest with
      | nil => exact here
      | cons next rest => simp [joinPath,here,later]
  exact cutMark_of_blank (free line.path fun segment member => (line.segmentsPlain segment member).2.2)

theorem Line.path_length (line : Line) : 1 ≤ line.pathText.length ∧ (2 ≤ line.path.length → 4 ≤ line.pathText.length) := by
  have plain := line.segmentsPlain
  rw [Line.pathText]
  match shape : line.path with
  | [] => exact absurd shape line.segmented
  | [segment] =>
    have some_ := List.length_pos_iff.mpr (plain segment (by simp [shape])).1
    exact ⟨some_,fun two => absurd two (by simp)⟩
  | first :: second :: more =>
    have some_ := List.length_pos_iff.mpr (plain first (by simp [shape])).1
    have some_' := List.length_pos_iff.mpr (plain second (by simp [shape])).1
    have more_ : 1 ≤ (joinPath (second :: more)).length := by
      cases more with
      | nil => exact some_'
      | cons third more => simp only [joinPath,List.length_append,List.length_cons]; omega
    have whole : (joinPath (first :: second :: more)).length = first.length + (joinPath (second :: more)).length + 2 := by
      simp only [joinPath,List.length_append,List.length_cons]
      omega
    omega

theorem Line.lead_length (line : Line) : 5 ≤ line.lead.length := by
  have level : 4 ≤ line.level.text.length := by cases line.level <;> decide
  rw [Line.lead,List.length_append,List.length_replicate]
  omega

theorem Line.text_length (line : Line) : line.text.length = line.stamp.length + line.lead.length + 1 + line.body.length := by
  simp only [Line.text,List.length_append,List.length_cons]
  omega

/-- With a span, or with a path of two parts, a line is longer than thirty bytes. -/
theorem Line.long (line : Line) (parts : line.span ≠ none ∨ 2 ≤ line.path.length) : 30 < byteLength line.text := by
  have bytes := length_le_byteLength line.text
  have whole := line.text_length
  have enough := line.enough
  have lead := line.lead_length
  have path := line.path_length
  have body : 6 ≤ line.body.length := by
    rw [Line.body]
    cases span : line.span with
    | none =>
      have two := path.2 (parts.resolve_left fun some_ => some_ span)
      simp only [List.length_append,List.length_cons]
      omega
    | some nameFields =>
      simp only [List.length_append,List.length_cons]
      omega
  omega

/-- What the first step leaves of a line that is long enough. -/
theorem Line.stripStamp_long (line : Line) (long : 30 < byteLength line.text) {before rest : List Char}
    (cut : cutMark line.body = some (before,rest)) : stripStamp line.text = some rest := by
  have twenty : byteLength (line.stamp.take 20) = 20 := by
    rw [byteLength_ascii fun c member => (line.stamp_ascii c (List.mem_of_mem_take member)).1,List.length_take,Nat.min_eq_left line.enough]
  have slice : sliceFrom 20 line.text = some (line.stamp.drop 20 ++ (line.lead ++ ' ' :: line.body)) := by
    have parted := sliceFrom_append (line.stamp.take 20) (line.stamp.drop 20 ++ (line.lead ++ ' ' :: line.body))
    rwa [twenty,← List.append_assoc,List.take_append_drop] at parted
  rw [stripStamp,if_pos ⟨long,line.fifth⟩,slice,Option.map_some,line.cutMark_lead (List.drop_suffix 20 line.stamp),cut]
  rfl

theorem stripPath_mark {before : List Char} (clean : cutMark before = none) (rest : List Char) :
    stripPath (before ++ ':' :: ' ' :: rest) = if contains before "::".toList then rest else before ++ ':' :: ' ' :: rest := by
  rw [stripPath,cutMark_mark clean]

/-- The second step leaves a text as it is exactly when no `::` stands before its first mark. -/
theorem stripPath_eq_self_iff {text : List Char} :
    stripPath text = text ↔ ∀ before rest, cutMark text = some (before,rest) → contains before "::".toList = false := by
  rw [stripPath]
  cases found : cutMark text with
  | none => simp
  | some parts =>
    obtain ⟨before,rest⟩ := parts
    have shorter := length_of_cutMark found
    simp only [Option.some.injEq,Prod.mk.injEq,and_imp]
    constructor
    · rintro same _ _ rfl rfl
      by_contra holds
      rw [if_pos (Bool.not_eq_false _ ▸ holds)] at same
      rw [same] at shorter
      omega
    · intro missing
      rw [missing before rest rfl rfl]
      rfl

/-- A line that is too short for the first step is left as it is. -/
theorem Line.stripPath_short (line : Line) (plain : line.span = none) (short : ¬ 30 < byteLength line.text) :
    stripPath line.text = line.text := by
  have one : contains line.pathText "::".toList = false := by
    by_contra two
    exact short (line.long (.inr (line.contains_path.mp (Bool.not_eq_false _ ▸ two))))
  refine stripPath_eq_self_iff.mpr fun before rest cut => ?_
  have body : cutMark line.body = some (line.pathText,line.message) := by
    rw [Line.body,plain]
    exact cutMark_mark line.cutMark_path _
  rw [Line.text,line.cutMark_lead List.suffix_rfl,body] at cut
  cases cut
  have shape : line.stamp ++ (line.lead ++ [' ']) ++ line.pathText =
      line.stamp ++ ' ' :: (List.replicate line.padding ' ' ++ line.level.text ++ ' ' :: line.pathText) := by
    simp [Line.lead,List.replicate_succ]
  have level : ':' ∉ List.replicate line.padding ' ' ++ line.level.text := by
    have letters : ':' ∉ line.level.text := by cases line.level <;> decide
    simp [letters]
  rw [shape,contains_apart (by decide),contains_apart (by decide),line.single,one,
    contains_eq_false (show ':' ∈ "::".toList by decide) level]
  rfl

/-- What is stripped of a line is its prefix exactly when the line is exact. -/
theorem Line.strip_iff (line : Line) : stripTracingPrefix line.text = some line.message ↔ line.Exact := by
  have shorter : line.message.length + 3 ≤ line.body.length := by
    have path := line.path_length
    rw [Line.body]
    split <;> simp only [List.length_append,List.length_cons] <;> omega
  have whole := line.text_length
  rw [stripTracingPrefix,Line.Exact]
  cases span : line.span with
  | none =>
    have body : cutMark line.body = some (line.pathText,line.message) := by
      rw [Line.body,span]
      exact cutMark_mark line.cutMark_path _
    by_cases long : 30 < byteLength line.text
    · rw [line.stripStamp_long long body,Option.map_some,Option.some.injEq,stripPath_eq_self_iff]
      exact (and_iff_right long).symm
    · have kept : stripStamp line.text = some line.text := if_neg fun both => long both.1
      rw [kept,Option.map_some,line.stripPath_short span long,Option.some.injEq]
      refine iff_of_false (fun same => ?_) fun both => long both.1
      rw [same] at whole
      omega
  | some nameFields =>
    obtain ⟨name,fields⟩ := nameFields
    have plain := line.fieldsPlain name fields span
    have target : cutMark line.body = some (name ++ '{' :: fields ++ ['}'],line.pathText ++ ':' :: ' ' :: line.message) := by
      have clean : cutMark (name ++ '{' :: fields ++ ['}']) = none := by
        have shape : name ++ '{' :: fields ++ ['}'] = (name ++ ['{']) ++ (fields ++ ['}']) := by simp
        have front : ':' ∉ name ++ ['{'] := by simp [plain.1]
        rw [shape,cutMark_append (cutMark_of_colon front) fun last => by simp at last,cutMark_append plain.2 fun _ => by simp]
        rfl
      rw [Line.body,span]
      exact cutMark_mark clean _
    rw [line.stripStamp_long (line.long (.inl (by rw [span]; nofun))) target,Option.map_some,Option.some.injEq,
      stripPath_mark line.cutMark_path,← line.contains_path]
    by_cases two : contains line.pathText "::".toList = true
    · rw [if_pos two]
      exact iff_of_true rfl two
    · rw [if_neg two]
      refine iff_of_false (fun same => ?_) two
      have lengths := congrArg List.length same
      simp only [List.length_append,List.length_cons] at lengths
      omega

/-- A text panics exactly when the slice falls inside a character, and the prefix of a line is
    stripped exactly when the line is exact. -/
theorem stripping_iff (s : List Char) (line : Line) :
    (stripTracingPrefix s = none ↔ Splits s) ∧ (stripTracingPrefix line.text = some line.message ↔ line.Exact) :=
  ⟨stripTracingPrefix_eq_none,line.strip_iff⟩

/-- A text whose fifth byte is a hyphen and whose twentieth lies inside a character. -/
theorem stripping_panics : ¬ ((∀ s : List Char, stripTracingPrefix s ≠ none) ∧
    ∀ line : Line, stripTracingPrefix line.text = some line.message) := by
  rintro ⟨never,-⟩
  exact never "wifi-scan aborted: \u00e9chec du lien radio".toList (by decide +kernel)

end Sctl.LogLines
