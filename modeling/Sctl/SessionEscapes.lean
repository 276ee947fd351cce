import Mathlib.Data.List.Basic
import Mathlib.Tactic.SplitIfs

/-!
The escapes in what is sent to a session. The scanner takes characters one at a
time, so a bad `\u` ends at the character that shows it to be bad, and that
character has been taken too.
-/
namespace Sctl.SessionEscapes

/-! ### The scanner -/

/-- A character that is pushed, with the text that it stands for. -/
structure Token where
  written : List Char
  char : Char
  deriving DecidableEq

def literal (c : Char) : Token := ⟨[c],c⟩

/-- `is_ascii_hexdigit`. -/
def isHex (c : Char) : Bool := c.isDigit || ('a' ≤ c && c ≤ 'f') || ('A' ≤ c && c ≤ 'F')

def digit (c : Char) : Nat :=
  if c.isDigit then c.toNat - '0'.toNat
  else if 'a' ≤ c then c.toNat - 'a'.toNat + 10
  else c.toNat - 'A'.toNat + 10

/-- `from_str_radix(hex, 16)`; four digits never overflow. -/
def fromStrRadix (hex : List Char) : Nat := hex.foldl (fun n d => 16 * n + digit d) 0

/-- `char::from_u32`. -/
def fromU32 (n : Nat) : Option Char := if n.isValidChar then some (Char.ofNat n) else none

/-- What a backslash and one more character stand for. -/
def short (c : Char) : Option Char :=
  if c = 't' then some '\t'
  else if c = 'n' then some '\n'
  else if c = 'r' then some '\r'
  else if c = '\\' then some '\\'
  else none

/-- Where the scanner is: between two escapes, after a backslash, or after a `\u`
    and the digits that have been collected. -/
inductive Mode
  | text
  | slash
  | hex (hex : List Char)

def scan : Mode → List Char → List Token
  | .text,[] => []
  | .text,c :: chars => if c = '\\' then scan .slash chars else literal c :: scan .text chars
  | .slash,[] => [literal '\\']
  | .slash,c :: chars =>
    if c = 'u' then scan (.hex []) chars
    else
      match short c with
      | some ch => ⟨['\\',c],ch⟩ :: scan .text chars
      | none => literal '\\' :: literal c :: scan .text chars
  | .hex hex,[] => ('\\' :: 'u' :: hex).map literal
  | .hex hex,h :: chars =>
    if isHex h then
      if hex.length + 1 < 4 then scan (.hex (hex ++ [h])) chars
      else
        match fromU32 (fromStrRadix (hex ++ [h])) with
        | some ch => ⟨'\\' :: 'u' :: (hex ++ [h]),ch⟩ :: scan .text chars
        | none => ('\\' :: 'u' :: (hex ++ [h])).map literal ++ scan .text chars
    else ('\\' :: 'u' :: (hex ++ [h])).map literal ++ scan .text chars

/-- All that is pushed. -/
def pushed (input : String) : List Token := scan .text input.toList

def unescapeControlChars (input : String) : String := String.ofList ((pushed input).map Token.char)

/-! ### What escapes mean -/

/-- The handled pattern that a text begins with. -/
def handled : List Char → Option Token
  | '\\' :: 'u' :: a :: b :: c :: d :: _ =>
    if [a,b,c,d].all isHex then (fromU32 (fromStrRadix [a,b,c,d])).map fun ch => ⟨['\\','u',a,b,c,d],ch⟩ else none
  | '\\' :: c :: _ => (short c).map fun ch => ⟨['\\',c],ch⟩
  | _ => none

/-- That pattern, or the first character as it is. -/
def first (c : Char) (chars : List Char) : Token := (handled (c :: chars)).getD (literal c)

def textOf (tokens : List Token) : List Char := tokens.flatMap Token.written

/-- Every token is the pattern that the text begins with there; where it begins with
    none, the token is the character itself. -/
def Decodes : List Token → Prop
  | [] => True
  | t :: rest => (∃ c chars, t.written ++ textOf rest = c :: chars ∧ t = first c chars) ∧ Decodes rest

/-- The tokens of a text from left to right, after `skip` of its characters. -/
def segment : Nat → List Char → List Token
  | _,[] => []
  | skip + 1,_ :: chars => segment skip chars
  | 0,c :: chars => first c chars :: segment ((first c chars).written.length - 1) chars

/-- How far a malformed `\u` goes on after its backslash: one `u` and fewer than four digits. -/
def malformed : List Char → Option Nat
  | '\\' :: 'u' :: rest => if (rest.takeWhile isHex).length < 4 then some ((rest.takeWhile isHex).length + 1) else none
  | _ => none

/-- No handled pattern comes right after an odd number of malformed `\u` in a row;
    `odd` says whether such a row ends here, `skip` how much of the text is past. -/
def Paired : Bool → Nat → List Char → Prop
  | _,_,[] => True
  | odd,skip + 1,_ :: chars => Paired odd skip chars
  | odd,0,c :: chars =>
    match malformed (c :: chars) with
    | some more => Paired (!odd) more chars
    | none =>
      match handled (c :: chars) with
      | some t => odd = false ∧ Paired false (t.written.length - 1) chars
      | none => Paired false 0 chars

/-- The ways to write one character. -/
inductive Form : Char → List Char → Prop
  | backslash : Form '\\' ['\\','\\']
  | itself {c : Char} (other : c ≠ '\\') : Form c [c]
  | tab : Form '\t' ['\\','t']
  | newline : Form '\n' ['\\','n']
  | carriageReturn : Form '\r' ['\\','r']
  | unicode {c h₁ h₂ h₃ h₄ : Char} (other : c ≠ '\\') (digits : [h₁,h₂,h₃,h₄].all isHex = true)
      (value : fromStrRadix [h₁,h₂,h₃,h₄] = c.toNat) : Form c ['\\','u',h₁,h₂,h₃,h₄]

/-- The ways to write a text. -/
inductive Escapes : List Char → List Char → Prop
  | nil : Escapes [] []
  | cons {c : Char} {form s escaped : List Char} (here : Form c form) (rest : Escapes s escaped) :
      Escapes (c :: s) (form ++ escaped)

/-! ### Tokens and their text -/

theorem textOf_cons (t : Token) (rest : List Token) : textOf (t :: rest) = t.written ++ textOf rest := rfl

theorem textOf_literals (chars : List Char) (rest : List Token) : textOf (chars.map literal ++ rest) = chars ++ textOf rest := by
  induction chars with
  | nil => rfl
  | cons c chars ih =>
    rw [List.map_cons,List.cons_append,textOf_cons,ih]
    rfl

/-- What the scanner holds but has not pushed. -/
def pending : Mode → List Char
  | .text => []
  | .slash => ['\\']
  | .hex hex => '\\' :: 'u' :: hex

/-- Nothing is lost. -/
theorem textOf_scan (mode : Mode) (chars : List Char) : textOf (scan mode chars) = pending mode ++ chars := by
  induction chars generalizing mode with
  | nil =>
    cases mode with
    | text => rfl
    | slash => rfl
    | hex hex => simpa [scan,pending,show textOf [] = [] from rfl] using textOf_literals ('\\' :: 'u' :: hex) []
  | cons c chars ih =>
    cases mode with
    | text =>
      rw [scan]
      split_ifs with slash
      · rw [ih,slash]; rfl
      · rw [textOf_cons,ih]; rfl
    | slash =>
      rw [scan]
      split_ifs with unicode
      · rw [ih,unicode]; rfl
      · split
        · rw [textOf_cons,ih]; rfl
        · rw [textOf_cons,textOf_cons,ih]; rfl
    | hex hex =>
      rw [scan]
      split_ifs
      · rw [ih]; simp [pending]
      · split
        · rw [textOf_cons,ih]; simp [pending]
        · rw [textOf_literals,ih]; simp [pending]
      · rw [textOf_literals,ih]; simp [pending]

/-- A handled pattern is a backslash and more, and the text begins with it. -/
theorem handled_written {text : List Char} {t : Token} (found : handled text = some t) :
    ∃ c more rest, t.written = '\\' :: c :: more ∧ text = t.written ++ rest := by
  unfold handled at found
  split at found
  · split_ifs at found
    obtain ⟨ch,-,rfl⟩ := Option.map_eq_some_iff.mp found
    exact ⟨_,_,_,rfl,rfl⟩
  · obtain ⟨ch,-,rfl⟩ := Option.map_eq_some_iff.mp found
    exact ⟨_,_,_,rfl,rfl⟩
  · cases found

theorem first_written (c : Char) (chars : List Char) : ∃ more rest, (first c chars).written = c :: more ∧ chars = more ++ rest := by
  unfold first
  cases found : handled (c :: chars) with
  | none => exact ⟨[],chars,rfl,rfl⟩
  | some t =>
    obtain ⟨d,more,rest,written,same⟩ := handled_written found
    rw [written] at same
    obtain ⟨rfl,rfl⟩ := List.cons.inj same
    exact ⟨d :: more,rest,written,rfl⟩

theorem segment_skip (skip : List Char) (chars : List Char) : segment skip.length (skip ++ chars) = segment 0 chars := by
  induction skip with
  | nil => rfl
  | cons c rest ih => exact ih

/-- The first token, and then the tokens of the rest. -/
theorem segment_cons {c : Char} {chars more rest : List Char} (written : (first c chars).written = c :: more)
    (after : chars = more ++ rest) : segment 0 (c :: chars) = first c chars :: segment 0 rest := by
  rw [segment,written,List.length_cons,Nat.add_sub_cancel]
  congr 1
  rw [after,segment_skip]

/-- There is one way to decode a text. -/
theorem decodes_iff (tokens : List Token) : Decodes tokens ↔ tokens = segment 0 (textOf tokens) := by
  induction tokens with
  | nil => simp [Decodes,textOf,segment]
  | cons t rest ih =>
    rw [Decodes,ih,textOf_cons]
    constructor
    · rintro ⟨⟨c,chars,text,here⟩,below⟩
      obtain ⟨more,others,written,after⟩ := first_written c chars
      rw [text,segment_cons written after,← here]
      have same : textOf rest = others := by
        rw [here,written,after] at text
        simpa using text
      rw [← same,← below]
    · intro all
      cases text : t.written ++ textOf rest with
      | nil => rw [text] at all; cases all
      | cons c chars =>
        obtain ⟨more,others,written,after⟩ := first_written c chars
        rw [text,segment_cons written after] at all
        obtain ⟨here,below⟩ := List.cons.inj all
        have same : textOf rest = others := by
          rw [here,written,after] at text
          simpa using text
        exact ⟨⟨c,chars,rfl,here⟩,by rw [same]; exact below⟩

/-! ### A text after its first token -/

/-- Only a backslash begins a pattern. -/
theorem handled_other {c : Char} (other : c ≠ '\\') (chars : List Char) : handled (c :: chars) = none := by
  cases found : handled (c :: chars) with
  | none => rfl
  | some t =>
    obtain ⟨d,more,rest,written,same⟩ := handled_written found
    rw [written] at same
    exact absurd (List.cons.inj same).1 other

theorem malformed_other {c : Char} (other : c ≠ '\\') (chars : List Char) : malformed (c :: chars) = none := by
  unfold malformed
  split
  case h_1 rest same => exact absurd (List.cons.inj same).1 other
  case h_2 => rfl

/-- Where no pattern begins, the first character is a token. -/
theorem segment_literal {c : Char} {chars : List Char} (none : handled (c :: chars) = none) :
    segment 0 (c :: chars) = literal c :: segment 0 chars := by
  have here : first c chars = literal c := by rw [first,none]; rfl
  exact (@segment_cons c chars [] chars (by rw [here]; rfl) rfl).trans (by rw [here])

theorem segment_literals {plain : List Char} (others : ∀ c ∈ plain, c ≠ '\\') (chars : List Char) :
    segment 0 (plain ++ chars) = plain.map literal ++ segment 0 chars := by
  induction plain with
  | nil => rfl
  | cons c rest ih =>
    rw [List.cons_append,segment_literal (handled_other (others c (by simp)) _),
      ih fun d member => others d (List.mem_cons_of_mem _ member)]
    rfl

theorem segment_handled {text rest : List Char} {t : Token} (found : handled text = some t) (after : text = t.written ++ rest) :
    segment 0 text = t :: segment 0 rest := by
  obtain ⟨c,more,-,written,-⟩ := handled_written found
  rw [written] at after
  subst after
  have here : first '\\' (c :: more ++ rest) = t := by
    rw [first]
    rw [show handled ('\\' :: (c :: more ++ rest)) = some t from found]
    rfl
  have cons := @segment_cons '\\' (c :: more ++ rest) (c :: more) rest (by rw [here,written]) rfl
  rw [here] at cons
  exact cons

theorem paired_skip (odd : Bool) (skip chars : List Char) : Paired odd skip.length (skip ++ chars) ↔ Paired odd 0 chars := by
  induction skip with
  | nil => rfl
  | cons c rest ih =>
    rw [List.cons_append,List.length_cons,Paired]
    exact ih

theorem paired_literal {c : Char} {chars : List Char} (well : malformed (c :: chars) = none) (none : handled (c :: chars) = none)
    (odd : Bool) : Paired odd 0 (c :: chars) ↔ Paired false 0 chars := by
  rw [Paired,well,none]

theorem paired_literals {plain : List Char} (others : ∀ c ∈ plain, c ≠ '\\') (chars : List Char) :
    Paired false 0 (plain ++ chars) ↔ Paired false 0 chars := by
  induction plain with
  | nil => rfl
  | cons c rest ih =>
    have here := others c (by simp)
    rw [List.cons_append,paired_literal (malformed_other here _) (handled_other here _)]
    exact ih fun d member => others d (List.mem_cons_of_mem _ member)

theorem paired_handled {text rest : List Char} {t : Token} (well : malformed text = none) (found : handled text = some t)
    (after : text = t.written ++ rest) (odd : Bool) : Paired odd 0 text ↔ odd = false ∧ Paired false 0 rest := by
  obtain ⟨c,more,-,written,-⟩ := handled_written found
  rw [written] at after
  subst after
  rw [List.cons_append,Paired,← List.cons_append,well,found]
  refine and_congr_right fun _ => ?_
  rw [written]
  exact paired_skip false (c :: more) rest

theorem paired_malformed {digits rest : List Char} (bad : malformed ('\\' :: 'u' :: (digits ++ rest)) = some (digits.length + 1))
    (odd : Bool) : Paired odd 0 ('\\' :: 'u' :: (digits ++ rest)) ↔ Paired (!odd) 0 rest := by
  rw [Paired,bad]
  exact paired_skip (!odd) ('u' :: digits) rest

/-! ### Digits -/

theorem isHex_ne {c : Char} (hex : isHex c = true) : c ≠ '\\' := by
  rintro rfl
  revert hex
  decide

theorem scan_hex {hex digits : List Char} (all : digits.all isHex = true) (few : hex.length + digits.length < 4)
    (chars : List Char) : scan (.hex hex) (digits ++ chars) = scan (.hex (hex ++ digits)) chars := by
  induction digits generalizing hex with
  | nil => rw [List.nil_append,List.append_nil]
  | cons d rest ih =>
    obtain ⟨here,below⟩ := Bool.and_eq_true_iff.mp (by simpa using all : (isHex d && rest.all isHex) = true)
    rw [List.length_cons] at few
    rw [List.cons_append,scan,if_pos here,if_pos (by omega),ih below (by rw [List.length_append,List.length_singleton]; omega),
      List.append_assoc]
    rfl

/-- Digits end at the end of the text or at another character. -/
def Ends (rest : List Char) : Prop := rest = [] ∨ ∃ o more, isHex o = false ∧ rest = o :: more

theorem ends_dropWhile (chars : List Char) : Ends (chars.dropWhile isHex) := by
  cases tail : chars.dropWhile isHex with
  | nil => exact .inl rfl
  | cons o rest =>
    have notHex := List.head_dropWhile_not isHex (show chars.dropWhile isHex ≠ [] by rw [tail]; exact List.cons_ne_nil _ _)
    exact .inr ⟨o,rest,by simpa [tail] using notHex,rfl⟩

/-- Four digits, or fewer. -/
theorem digits_cases (chars : List Char) :
    (∃ a b c d rest, [a,b,c,d].all isHex = true ∧ chars = a :: b :: c :: d :: rest) ∨
    ∃ digits rest, digits.all isHex = true ∧ digits.length < 4 ∧ Ends rest ∧ chars = digits ++ rest := by
  have split : chars.takeWhile isHex ++ chars.dropWhile isHex = chars := List.takeWhile_append_dropWhile
  have all : (chars.takeWhile isHex).all isHex = true := List.all_takeWhile
  by_cases few : (chars.takeWhile isHex).length < 4
  · exact .inr ⟨_,_,all,few,ends_dropWhile chars,split.symm⟩
  · left
    match taken : chars.takeWhile isHex with
    | [] => rw [taken] at few; simp at few
    | [_] => rw [taken] at few; simp at few
    | [_,_] => rw [taken] at few; simp at few
    | [_,_,_] => rw [taken] at few; simp at few
    | a :: b :: c :: d :: more =>
      refine ⟨a,b,c,d,more ++ chars.dropWhile isHex,?_,?_⟩
      · rw [taken] at all
        simp only [List.all_cons,Bool.and_eq_true] at all
        simp only [List.all_cons,List.all_nil,Bool.and_eq_true]
        exact ⟨all.1,all.2.1,all.2.2.1,all.2.2.2.1,trivial⟩
      · rw [taken] at split
        exact split.symm

theorem takeWhile_digits {digits rest : List Char} (all : digits.all isHex = true) (ends : Ends rest) :
    (digits ++ rest).takeWhile isHex = digits := by
  induction digits with
  | nil =>
    rcases ends with rfl | ⟨o,more,other,rfl⟩
    · rfl
    · simp [other]
  | cons d digits ih =>
    obtain ⟨here,below⟩ := Bool.and_eq_true_iff.mp (by simpa using all : (isHex d && digits.all isHex) = true)
    simp [here,ih below]

/-- Fewer than four digits make no pattern. -/
theorem handled_malformed {digits : List Char} (few : digits.length < 4) (rest : List Char)
    (ends : Ends rest) : handled ('\\' :: 'u' :: (digits ++ rest)) = none := by
  unfold handled
  split
  case h_1 a b c d others same =>
    rw [if_neg]
    intro all
    simp only [List.cons.injEq,true_and] at same
    rcases ends with rfl | ⟨o,more,other,rfl⟩
    · have size := congrArg List.length same
      simp at size
      omega
    · -- the character after the digits is one of the four
      have bad : o ∈ [a,b,c,d] := by
        match digits with
        | [] => simp at same; simp [same]
        | [_] => simp at same; simp [same]
        | [_,_] => simp at same; simp [same]
        | [_,_,_] => simp at same; simp [same]
        | _ :: _ :: _ :: _ :: _ => simp at few; omega
      rw [List.all_eq_true.mp all o bad] at other
      cases other
  case h_2 c others different same =>
    obtain ⟨-,rest'⟩ := List.cons.inj same
    obtain ⟨rfl,-⟩ := List.cons.inj rest'
    rfl
  case h_3 => rfl

theorem malformed_digits {digits rest : List Char} (all : digits.all isHex = true) (few : digits.length < 4)
    (ends : Ends rest) :
    malformed ('\\' :: 'u' :: (digits ++ rest)) = some (digits.length + 1) := by
  rw [malformed,takeWhile_digits all ends,if_pos few]

theorem malformed_cases {text : List Char} {more : Nat} (bad : malformed text = some more) :
    ∃ digits rest, digits.all isHex = true ∧ digits.length < 4 ∧ Ends rest ∧ text = '\\' :: 'u' :: (digits ++ rest) := by
  unfold malformed at bad
  split at bad
  case h_1 chars =>
    split_ifs at bad with few
    exact ⟨_,_,List.all_takeWhile,few,ends_dropWhile chars,by rw [List.takeWhile_append_dropWhile]⟩
  case h_2 => cases bad

theorem malformed_of_handled {text : List Char} {t : Token} (found : handled text = some t) : malformed text = none := by
  cases bad : malformed text with
  | none => rfl
  | some more =>
    obtain ⟨digits,rest,-,few,ends,rfl⟩ := malformed_cases bad
    rw [handled_malformed few rest ends] at found
    cases found

/-! ### The scanner against the tokens -/

theorem iff_step {text chars : List Char} {tokens : List Token} (scanned : scan .text text = tokens ++ scan .text chars)
    (segments : segment 0 text = tokens ++ segment 0 chars) (paired : Paired false 0 text ↔ Paired false 0 chars)
    (below : scan .text chars = segment 0 chars ↔ Paired false 0 chars) :
    scan .text text = segment 0 text ↔ Paired false 0 text := by
  rw [paired,← below,scanned,segments]
  exact List.append_right_inj tokens

theorem scan_slash (chars : List Char) : scan .text ('\\' :: chars) = scan .slash chars := by rw [scan,if_pos rfl]

theorem scan_unicode (chars : List Char) : scan .text ('\\' :: 'u' :: chars) = scan (.hex []) chars := by
  rw [scan_slash,scan,if_pos rfl]

theorem short_slash {c : Char} (none : short c = none) : c ≠ '\\' := by
  rintro rfl
  cases none

theorem handled_short {c : Char} (other : c ≠ 'u') (chars : List Char) :
    handled ('\\' :: c :: chars) = (short c).map fun ch => ⟨['\\',c],ch⟩ := by
  unfold handled
  split
  case h_1 same => exact absurd (List.cons.inj (List.cons.inj same).2).1 other
  case h_2 same =>
    obtain ⟨rfl,-⟩ := List.cons.inj (List.cons.inj same).2
    rfl
  case h_3 different => exact absurd rfl (different c chars)

theorem malformed_short {c : Char} (other : c ≠ 'u') (chars : List Char) : malformed ('\\' :: c :: chars) = none := by
  unfold malformed
  split
  case h_1 same => exact absurd (List.cons.inj (List.cons.inj same).2).1 other
  case h_2 => rfl

/-- A backslash, and then no `u`. -/
theorem scan_short {c : Char} {chars : List Char} (other : c ≠ 'u')
    (below : scan .text chars = segment 0 chars ↔ Paired false 0 chars) :
    scan .text ('\\' :: c :: chars) = segment 0 ('\\' :: c :: chars) ↔ Paired false 0 ('\\' :: c :: chars) := by
  have pattern := handled_short other chars
  have well := malformed_short other chars
  have scanned := scan_slash (c :: chars)
  conv at scanned => rhs; rw [scan,if_neg other]
  cases stands : short c with
  | some ch =>
    rw [stands] at pattern scanned
    have segments := @segment_handled _ chars _ pattern rfl
    have paired := paired_handled well pattern (by rfl : '\\' :: c :: chars = ['\\',c] ++ chars) false
    exact @iff_step _ _ [⟨['\\',c],ch⟩] scanned segments (paired.trans (and_iff_right rfl)) below
  | none =>
    rw [stands] at pattern scanned
    have plain : ∀ d ∈ [c], d ≠ '\\' := by simpa using short_slash stands
    refine @iff_step _ _ [literal '\\',literal c] scanned ?_ ?_ below
    · rw [segment_literal pattern,show c :: chars = [c] ++ chars from rfl,segment_literals plain chars]
      rfl
    · rw [paired_literal well pattern]
      exact paired_literals plain chars

theorem plain_digits {digits : List Char} (all : digits.all isHex = true) : ∀ e ∈ 'u' :: digits, e ≠ '\\' := by
  intro e member
  rcases List.mem_cons.mp member with rfl | hex
  · decide
  · exact isHex_ne (List.all_eq_true.mp all e hex)

/-- Four digits: a pattern, or six characters that stand for themselves. -/
theorem scan_digits {a b c d : Char} {chars : List Char} (all : [a,b,c,d].all isHex = true)
    (below : scan .text chars = segment 0 chars ↔ Paired false 0 chars) :
    scan .text ('\\' :: 'u' :: a :: b :: c :: d :: chars) = segment 0 ('\\' :: 'u' :: a :: b :: c :: d :: chars) ↔
      Paired false 0 ('\\' :: 'u' :: a :: b :: c :: d :: chars) := by
  have last : isHex d = true := List.all_eq_true.mp all d (by simp)
  have three : [a,b,c].all isHex = true := List.all_eq_true.mpr fun e member =>
    List.all_eq_true.mp all e (by simp only [List.mem_cons] at member ⊢; tauto)
  have scanned : scan .text ('\\' :: 'u' :: a :: b :: c :: d :: chars) = scan (.hex []) ([a,b,c] ++ d :: chars) :=
    scan_unicode _
  rw [scan_hex three (by simp),List.nil_append] at scanned
  conv at scanned => rhs; rw [scan,if_pos last,if_neg (by simp)]
  have pattern : handled ('\\' :: 'u' :: a :: b :: c :: d :: chars) =
      (fromU32 (fromStrRadix [a,b,c,d])).map fun ch => ⟨['\\','u',a,b,c,d],ch⟩ := by
    rw [handled,if_pos all]
  have well : malformed ('\\' :: 'u' :: a :: b :: c :: d :: chars) = none := by
    simp only [List.all_cons,List.all_nil,Bool.and_true,Bool.and_eq_true] at all
    simp [malformed,all.1,all.2.1,all.2.2.1,all.2.2.2]
  cases code : fromU32 (fromStrRadix [a,b,c,d]) with
  | some ch =>
    rw [code] at pattern
    rw [show [a,b,c] ++ [d] = [a,b,c,d] from rfl,code] at scanned
    have segments := @segment_handled _ chars _ pattern rfl
    have paired := @paired_handled _ chars _ well pattern rfl false
    exact @iff_step _ _ [⟨['\\','u',a,b,c,d],ch⟩] scanned segments (paired.trans (and_iff_right rfl)) below
  | none =>
    rw [code] at pattern
    rw [show [a,b,c] ++ [d] = [a,b,c,d] from rfl,code] at scanned
    have plain := plain_digits all
    refine @iff_step _ _ (['\\','u',a,b,c,d].map literal) scanned ?_ ?_ below
    · rw [segment_literal pattern]
      exact congrArg (literal '\\' :: ·) (segment_literals plain chars)
    · rw [paired_literal well pattern]
      exact paired_literals plain chars

/-- Fewer than four digits, as tokens. -/
theorem segment_malformed {digits rest : List Char} (all : digits.all isHex = true) (few : digits.length < 4)
    (ends : Ends rest) :
    segment 0 ('\\' :: 'u' :: (digits ++ rest)) = ('\\' :: 'u' :: digits).map literal ++ segment 0 rest := by
  rw [segment_literal (handled_malformed few rest ends)]
  exact congrArg (literal '\\' :: ·) (segment_literals (plain_digits all) rest)

/-- Fewer than four digits and the end. -/
theorem scan_truncated {digits : List Char} (all : digits.all isHex = true) (few : digits.length < 4) :
    scan .text ('\\' :: 'u' :: digits) = segment 0 ('\\' :: 'u' :: digits) ↔ Paired false 0 ('\\' :: 'u' :: digits) := by
  have scanned : scan .text ('\\' :: 'u' :: digits) = scan (.hex []) (digits ++ []) := by
    rw [List.append_nil]
    exact scan_unicode digits
  rw [scan_hex all (by simpa using few),List.nil_append] at scanned
  conv at scanned => rhs; rw [scan]
  have segments := @segment_malformed digits [] all few (.inl rfl)
  have paired := paired_malformed (malformed_digits all few (.inl rfl)) false
  rw [List.append_nil] at segments paired
  refine iff_of_true ?_ (paired.mpr (by simp [Paired]))
  rw [scanned,segments,segment,List.append_nil]

/-- Fewer than four digits and then something else. Where that is a backslash which
    begins a pattern, the scanner takes it for itself; where it begins another
    malformed `\u`, the rest of that one is plain text to the scanner. -/
theorem scan_malformed {digits chars : List Char} {o : Char} (all : digits.all isHex = true) (few : digits.length < 4)
    (other : isHex o = false) (below : scan .text chars = segment 0 chars ↔ Paired false 0 chars) :
    scan .text ('\\' :: 'u' :: (digits ++ o :: chars)) = segment 0 ('\\' :: 'u' :: (digits ++ o :: chars)) ↔
      Paired false 0 ('\\' :: 'u' :: (digits ++ o :: chars)) := by
  have ends : Ends (o :: chars) := .inr ⟨o,chars,other,rfl⟩
  have scanned := scan_unicode (digits ++ o :: chars)
  rw [scan_hex all (by simpa using few),List.nil_append] at scanned
  conv at scanned => rhs; rw [scan,if_neg (by rw [other]; exact Bool.false_ne_true)]
  have segments := segment_malformed all few ends
  have paired := paired_malformed (malformed_digits all few ends) false
  cases found : handled (o :: chars) with
  | none =>
    refine @iff_step _ _ (('\\' :: 'u' :: (digits ++ [o])).map literal) scanned ?_ ?_ below
    · rw [segments,segment_literal found]
      simp
    · rw [paired,Bool.not_false]
      cases bad : malformed (o :: chars) with
      | none => exact paired_literal bad found true
      | some more =>
        obtain ⟨digits',rest,all',few',ends',same⟩ := malformed_cases bad
        obtain ⟨rfl,rfl⟩ := List.cons.inj same
        rw [paired_malformed (malformed_digits all' few' ends') true]
        exact (paired_literals (plain_digits all') rest).symm
  | some t =>
    obtain ⟨c,more,rest,written,after⟩ := handled_written found
    have quiet := paired_handled (malformed_of_handled found) found after (!false)
    refine iff_of_false (fun same => ?_) fun holds => ?_
    · -- one character against a pattern
      rw [scanned,segments,segment_handled found after] at same
      have heads : literal o :: scan .text chars = t :: segment 0 rest := by
        simpa using same
      have one := congrArg Token.written (List.cons.inj heads).1
      rw [written] at one
      cases one
    · cases (quiet.mp (paired.mp holds)).1

/-- Every pattern is decoded, and nothing else is, exactly when no pattern comes
    right after an odd number of malformed `\u`. -/
theorem scan_iff (text : List Char) : scan .text text = segment 0 text ↔ Paired false 0 text := by
  induction size : text.length using Nat.strongRecOn generalizing text with
  | ind size₀ ih =>
    have below : ∀ chars : List Char, chars.length < text.length →
        (scan .text chars = segment 0 chars ↔ Paired false 0 chars) := fun chars shorter => ih chars.length (size ▸ shorter) chars rfl
    match text with
    | [] => simp [scan,segment,Paired]
    | c :: chars =>
      by_cases slash : c = '\\'
      · subst slash
        match chars with
        | [] => simp [scan,segment,first,handled,literal,Paired,malformed]
        | d :: rest =>
          by_cases unicode : d = 'u'
          · subst unicode
            rcases digits_cases rest with ⟨h₁,h₂,h₃,h₄,more,all,rfl⟩ | ⟨digits,more,all,few,ends,rfl⟩
            · exact scan_digits all (below more (by simp only [List.length_cons]; omega))
            · rcases ends with rfl | ⟨o,others,other,rfl⟩
              · rw [List.append_nil]
                exact scan_truncated all few
              · refine scan_malformed all few other (below others ?_)
                simp only [List.length_cons,List.length_append]
                omega
          · exact scan_short unicode (below rest (by simp only [List.length_cons]; omega))
      · have pattern := handled_other slash chars
        have scanned : scan .text (c :: chars) = literal c :: scan .text chars := by rw [scan,if_neg slash]
        exact @iff_step _ _ [literal c] scanned (segment_literal pattern) (paired_literal (malformed_other slash chars) pattern false)
          (below chars (by simp))

/-! ### Round trip -/

theorem fromU32_toNat (c : Char) : fromU32 c.toNat = some c := by
  have valid : c.toNat.isValidChar := c.valid
  rw [fromU32,if_pos valid,Char.ofNat_toNat]

/-- One character, however it is written. -/
theorem scan_form {c : Char} {form : List Char} (written : Form c form) (rest : List Char) :
    ∃ t, t.char = c ∧ scan .text (form ++ rest) = t :: scan .text rest := by
  cases written with
  | backslash => exact ⟨⟨['\\','\\'],'\\'⟩,rfl,rfl⟩
  | itself other => exact ⟨literal c,rfl,by rw [List.singleton_append,scan,if_neg other]⟩
  | tab => exact ⟨⟨['\\','t'],'\t'⟩,rfl,rfl⟩
  | newline => exact ⟨⟨['\\','n'],'\n'⟩,rfl,rfl⟩
  | carriageReturn => exact ⟨⟨['\\','r'],'\r'⟩,rfl,rfl⟩
  | @unicode _ h₁ h₂ h₃ h₄ other digits value =>
    have last : isHex h₄ = true := List.all_eq_true.mp digits h₄ (by simp)
    have three : [h₁,h₂,h₃].all isHex = true := List.all_eq_true.mpr fun e member =>
      List.all_eq_true.mp digits e (by simp only [List.mem_cons] at member ⊢; tauto)
    have scanned : scan .text (['\\','u',h₁,h₂,h₃,h₄] ++ rest) = scan (.hex []) ([h₁,h₂,h₃] ++ h₄ :: rest) := scan_unicode _
    rw [scan_hex three (by simp),List.nil_append] at scanned
    conv at scanned => rhs; rw [scan,if_pos last,if_neg (by simp),show [h₁,h₂,h₃] ++ [h₄] = [h₁,h₂,h₃,h₄] from rfl,value,fromU32_toNat]
    exact ⟨_,rfl,scanned⟩

theorem unescape_escaped {s escaped : List Char} (written : Escapes s escaped) : (scan .text escaped).map Token.char = s := by
  induction written with
  | nil => rfl
  | cons here rest ih =>
    obtain ⟨t,same,scanned⟩ := scan_form here _
    rw [scanned,List.map_cons,same,ih]

/-- A text that was escaped is restored, and every pattern of an input is decoded
    while all else stays literal, exactly when no handled pattern of the input comes
    right after an odd number of malformed `\u` in a row. -/
theorem unescape_iff (input : String) :
    (∀ s : String, Escapes s.toList input.toList → unescapeControlChars input = s) ∧ Decodes (pushed input) ↔
      Paired false 0 input.toList := by
  have restores : ∀ s : String, Escapes s.toList input.toList → unescapeControlChars input = s := by
    intro s written
    rw [unescapeControlChars,pushed,unescape_escaped written,String.ofList_toList]
  rw [and_iff_right restores,decodes_iff,pushed,textOf_scan]
  exact scan_iff input.toList

/-- A tab after a truncated `\u` stays the two characters that were written. -/
theorem tab_swallowed :
    unescapeControlChars "\\u00\\t" = "\\u00\\t" ∧ handled ("\\t".toList) = some ⟨['\\','t'],'\t'⟩ ∧
      ¬Decodes (pushed "\\u00\\t") := by
  refine ⟨by decide +kernel,rfl,?_⟩
  rw [decodes_iff]
  decide +kernel

end Sctl.SessionEscapes
