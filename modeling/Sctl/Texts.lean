import Mathlib.Logic.Basic
import Mathlib.Data.List.Basic
import Mathlib.Data.List.Infix
import Mathlib.Algebra.Group.Nat.Defs

/-!
The text operations of the Rust standard library that line-based parsers use,
over lists of characters: lines, splitting at a character, trimming, and
numbers read and written in a radix.
-/
namespace Sctl.Texts

/-- `char::is_whitespace`: the characters with the Unicode property White_Space. -/
def isWhitespace (c : Char) : Bool :=
  (0x09 ≤ c.toNat && c.toNat ≤ 0x0D) || (0x2000 ≤ c.toNat && c.toNat ≤ 0x200A) ||
    [0x20,0x85,0xA0,0x1680,0x2028,0x2029,0x202F,0x205F,0x3000].contains c.toNat

/-- A finished line, held in reverse, without the carriage return before its line feed. -/
def endLine : List Char → List Char
  | '\r' :: line => line.reverse
  | line => line.reverse

def linesAfter : List Char → List Char → List (List Char)
  | [], [] => []
  | line, [] => [line.reverse]
  | line, c :: rest => if c = '\n' then endLine line :: linesAfter [] rest else linesAfter (c :: line) rest

/-- `str::lines`: a last line without a line feed keeps its carriage return. -/
def lines (text : List Char) : List (List Char) := linesAfter [] text

/-- `str::contains`, for a text sought. -/
def contains (text sought : List Char) : Bool := text.tails.any fun tail => sought.isPrefixOf tail

/-- `str::len`, in bytes. -/
def byteLength (text : List Char) : Nat := text.foldr (fun c n => c.utf8Size + n) 0

def trimBy (drop : Char → Bool) (text : List Char) : List Char :=
  ((text.dropWhile drop).reverse.dropWhile drop).reverse

/-- `str::trim`. -/
def trim : List Char → List Char := trimBy isWhitespace

/-- `str::trim_start`. -/
def trimStart (text : List Char) : List Char := text.dropWhile isWhitespace

/-- `str::trim_matches`, for one character. -/
def trimMatches (c : Char) : List Char → List Char := trimBy (· == c)

/-- `str::trim_start_matches`, for a text: it goes as often as it stands in front. -/
def trimStartMatches (mark text : List Char) : List Char := go text.length text
where
  go : Nat → List Char → List Char
    | 0, text => text
    | n + 1, text => if mark.isPrefixOf text then go n (text.drop mark.length) else text

/-- `char::to_digit`. -/
def toDigit (radix : Nat) (c : Char) : Option Nat :=
  let value :=
    if '0'.toNat ≤ c.toNat ∧ c.toNat ≤ '9'.toNat then c.toNat - '0'.toNat
    else if 'a'.toNat ≤ c.toNat ∧ c.toNat ≤ 'z'.toNat then c.toNat - 'a'.toNat + 10
    else if 'A'.toNat ≤ c.toNat ∧ c.toNat ≤ 'Z'.toNat then c.toNat - 'A'.toNat + 10
    else radix
  if value < radix then some value else none

/-- The number that the digits write after `value`, below `limit` throughout. -/
def readDigits (radix limit : Nat) : Nat → List Char → Option Nat
  | value, [] => some value
  | value, c :: rest => (toDigit radix c).bind fun digit =>
      if value * radix + digit < limit then readDigits radix limit (value * radix + digit) rest else none

/-- `from_str_radix` and `parse` of an unsigned type with `limit` values: a plus
    sign may lead, and an empty text, another character or an overflow is an error. -/
def fromStrRadix (radix limit : Nat) : List Char → Option Nat
  | [] => none
  | ['+'] => none
  | '+' :: digits => readDigits radix limit 0 digits
  | digits => readDigits radix limit 0 digits

/-- `parse` of a signed type whose values are below `limit` and not below `-limit`. -/
def parseSigned (limit : Nat) : List Char → Option Int
  | ['-'] => none
  | '-' :: digits => (readDigits 10 (limit + 1) 0 digits).map fun n => -n
  | text => (fromStrRadix 10 limit text).map fun n => n

/-- The `{:X}` format. -/
def upperHex (n : Nat) : List Char := (Nat.toDigits 16 n).map Char.toUpper

private theorem digit_value {digit : Nat} (small : digit < 16) :
    toDigit 16 (Char.toUpper digit.digitChar) = some digit := by
  revert small digit
  decide

private theorem decimal_value {digit : Nat} (small : digit < 10) : toDigit 10 digit.digitChar = some digit := by
  revert small digit
  decide

theorem readDigits_append {radix limit value : Nat} {first second : List Char} :
    readDigits radix limit value (first ++ second) =
      (readDigits radix limit value first).bind fun mid => readDigits radix limit mid second := by
  induction first generalizing value with
  | nil => simp [readDigits]
  | cons c rest ih =>
    simp only [List.cons_append,readDigits]
    cases toDigit radix c with
    | none => rfl
    | some digit =>
      simp only [Option.bind_some]
      split
      · exact ih
      · rfl

/-- Digits read back, in whichever characters they are written. -/
theorem readDigits_toDigits {radix limit n : Nat} {write : Char → Char} (two : 1 < radix)
    (back : ∀ digit < radix, toDigit radix (write digit.digitChar) = some digit) (small : n < limit) :
    readDigits radix limit 0 ((Nat.toDigits radix n).map write) = some n := by
  induction n using Nat.strongRecOn with
  | _ n ih =>
    rw [Nat.toDigits_eq_if two]
    by_cases digit : n < radix
    · simp [digit,readDigits,back n digit,small]
    · have before : n / radix < n := Nat.div_lt_self (by omega) two
      have earlier := ih (n / radix) before (by omega)
      have whole : n / radix * radix + n % radix = n := Nat.div_add_mod' n radix
      simp [digit,readDigits_append,earlier,readDigits,back _ (Nat.mod_lt n (by omega)),whole,small]

/-- What is written in upper-case hexadecimal reads back. -/
theorem readDigits_upperHex {n limit : Nat} (small : n < limit) : readDigits 16 limit 0 (upperHex n) = some n :=
  readDigits_toDigits (by decide) (fun _ => digit_value) small

/-- A text of digits is a number as a whole. -/
theorem fromStrRadix_of_readDigits {radix limit n : Nat} {text : List Char} (some_ : text ≠ [])
    (read : readDigits radix limit 0 text = some n) : fromStrRadix radix limit text = some n := by
  cases text with
  | nil => contradiction
  | cons c rest =>
    by_cases plus : c = '+'
    · subst plus
      simp [readDigits,toDigit] at read
    · unfold fromStrRadix
      split
      · contradiction
      · simp_all
      · simp_all
      · exact read

theorem fromStrRadix_upperHex {n limit : Nat} (small : n < limit) : fromStrRadix 16 limit (upperHex n) = some n :=
  fromStrRadix_of_readDigits (by simp [upperHex]) (readDigits_upperHex small)

theorem readDigits_decimal {n limit : Nat} (small : n < limit) : readDigits 10 limit 0 (Nat.toDigits 10 n) = some n := by
  have read := @readDigits_toDigits 10 limit n id (by decide) (fun _ => decimal_value) small
  rwa [List.map_id] at read

theorem toString_ofNat (n : Nat) : (toString (Int.ofNat n)).toList = Nat.toDigits 10 n := by
  simp [toString,Int.repr,Nat.repr]

theorem toString_negSucc (n : Nat) : (toString (Int.negSucc n)).toList = '-' :: Nat.toDigits 10 (n + 1) := by
  simp [toString,Int.repr,Nat.repr]

/-- A number in decimal reads back with its sign. -/
theorem parseSigned_toString {limit : Nat} {n : Int} (least : -limit ≤ n) (most : n < limit) :
    parseSigned limit (toString n).toList = some n := by
  cases n with
  | ofNat n =>
    have small : n < limit := by simpa using most
    have read := fromStrRadix_of_readDigits Nat.toDigits_ne_nil (readDigits_decimal small)
    rw [toString_ofNat]
    unfold parseSigned
    split
    · next minus => rw [minus] at read; simp [fromStrRadix,readDigits,toDigit] at read
    · next minus => rw [minus] at read; simp [fromStrRadix,readDigits,toDigit] at read
    · rw [read]; rfl
  | negSucc n =>
    have small : n + 1 < limit + 1 := by omega
    have read := readDigits_decimal small
    rw [toString_negSucc]
    unfold parseSigned
    split
    · next alone => simp [Nat.toDigits_ne_nil] at alone
    · next digits =>
      obtain ⟨-,rfl⟩ := List.cons.inj digits
      rw [read]
      rfl
    · next other => exact absurd rfl (other _)

/-- A property of each character of a fixed text is decided character by character. -/
theorem forall_of_all {α : Type} {P : α → Prop} [DecidablePred P] {text : List α}
    (all : text.all (fun c => decide (P c)) = true) : ∀ c ∈ text, P c := by
  simpa using all

theorem trimBy_eq_self {drop : Char → Bool} {text : List Char} (kept : ∀ c ∈ text, drop c = false) :
    trimBy drop text = text := by
  have stays : ∀ some_ : List Char, (∀ c ∈ some_, drop c = false) → some_.dropWhile drop = some_ := by
    intro some_ all
    cases some_ with
    | nil => rfl
    | cons c rest => simp [all c List.mem_cons_self]
  rw [trimBy,stays text kept,stays _ (by simpa using kept),List.reverse_reverse]

theorem isWhitespace_digit {c : Char} (digit : c.isDigit = true) : isWhitespace c = false := by
  have least : 48 ≤ c.toNat := by simp [Char.isDigit] at digit; exact digit.1
  have most : c.toNat ≤ 57 := by simp [Char.isDigit] at digit; exact digit.2
  simp only [isWhitespace,List.contains_eq_mem,List.mem_cons,List.not_mem_nil,or_false]
  simp only [Bool.or_eq_false_iff,Bool.and_eq_false_imp,decide_eq_true_eq,decide_eq_false_iff_not]
  omega

/-- No number has a character that `trim` drops. -/
theorem trim_toString (n : Int) : trim (toString n).toList = (toString n).toList := by
  have digits : ∀ m, ∀ c ∈ Nat.toDigits 10 m, isWhitespace c = false := fun m c member =>
    isWhitespace_digit (Nat.isDigit_of_mem_toDigits (by decide) (by decide) member)
  refine trimBy_eq_self fun c member => ?_
  cases n with
  | ofNat n => exact digits n c (toString_ofNat n ▸ member)
  | negSucc n =>
    rw [toString_negSucc] at member
    rcases List.mem_cons.mp member with rfl | within
    · decide
    · exact digits (n + 1) c within

theorem upperHex_injective {n m : Nat} (same : upperHex n = upperHex m) : n = m := by
  have left := @readDigits_upperHex n (n + m + 1) (by omega)
  have right := @readDigits_upperHex m (n + m + 1) (by omega)
  rw [same,right] at left
  exact (Option.some.inj left).symm

/-! ### Lines -/

theorem linesAfter_line {held text rest : List Char} (oneLine : '\n' ∉ text) :
    linesAfter held (text ++ '\n' :: rest) = endLine (text.reverse ++ held) :: linesAfter [] rest := by
  induction text generalizing held with
  | nil => simp [linesAfter]
  | cons c text ih =>
    have other : c ≠ '\n' := fun same => oneLine (by simp [same])
    have later : '\n' ∉ text := fun member => oneLine (List.mem_cons_of_mem c member)
    simp [linesAfter,other,ih later]

theorem endLine_reverse {text : List Char} (noReturn : text.getLast? ≠ some '\r') : endLine text.reverse = text := by
  unfold endLine
  split
  · next line same =>
    have last : text.getLast? = some '\r' := by rw [← List.head?_reverse,same]; rfl
    exact absurd last noReturn
  · exact List.reverse_reverse text

/-- Texts that are written line by line are the lines that are read. -/
theorem lines_written {texts : List (List Char)} (oneLine : ∀ text ∈ texts, '\n' ∉ text)
    (noReturn : ∀ text ∈ texts, text.getLast? ≠ some '\r') : lines (texts.flatMap fun text => text ++ ['\n']) = texts := by
  induction texts with
  | nil => rfl
  | cons text rest ih =>
    have later := ih (fun other member => oneLine other (List.mem_cons_of_mem text member))
      (fun other member => noReturn other (List.mem_cons_of_mem text member))
    rw [lines] at later ⊢
    rw [List.flatMap_cons,List.append_assoc,List.singleton_append,linesAfter_line (oneLine text List.mem_cons_self),
      List.append_nil,endLine_reverse (noReturn text List.mem_cons_self),later]

/-! ### A text in another one -/

theorem contains_iff {text sought : List Char} : contains text sought = true ↔ sought <:+: text := by
  simp only [contains,List.any_eq_true,List.mem_tails,List.isPrefixOf_iff_prefix,List.infix_iff_prefix_suffix]
  exact ⟨fun ⟨tail,suffix_,prefix_⟩ => ⟨tail,prefix_,suffix_⟩,fun ⟨tail,prefix_,suffix_⟩ => ⟨tail,suffix_,prefix_⟩⟩

/-- A text without a character does not reach over it. -/
theorem contains_apart {c : Char} {sought : List Char} (free : c ∉ sought) (before after : List Char) :
    contains (before ++ c :: after) sought = (contains before sought || contains after sought) := by
  rw [Bool.eq_iff_iff,Bool.or_eq_true]
  simp only [contains_iff]
  constructor
  · rintro ⟨lead,trail,whole⟩
    rw [List.append_assoc,List.append_eq_append_iff] at whole
    rcases whole with ⟨more,within,rest⟩ | ⟨more,beyond,rest⟩
    · rw [List.append_eq_append_iff] at rest
      rcases rest with ⟨last,same,-⟩ | ⟨last,same,beyond⟩
      · exact .inl ⟨lead,last,by rw [within,same,List.append_assoc]⟩
      · cases last with
        | nil => exact .inl ⟨lead,[],by rw [within,same]; simp⟩
        | cons d last =>
          cases (List.cons.inj beyond).1
          exact absurd (by rw [same]; simp) free
    · cases more with
      | nil =>
        cases sought with
        | nil => exact .inl List.nil_infix
        | cons d sought =>
          cases (List.cons.inj rest).1
          exact absurd List.mem_cons_self free
      | cons d more =>
        exact .inr ⟨more,trail,by rw [List.append_assoc]; exact (List.cons.inj rest).2.symm⟩
  · rintro (inside | inside)
    · exact inside.trans (List.prefix_append _ _).isInfix
    · exact inside.trans ((List.suffix_cons c after).trans (List.suffix_append before _)).isInfix

theorem contains_eq_false {c : Char} {text sought : List Char} (member : c ∈ sought) (missing : c ∉ text) :
    contains text sought = false := by
  rw [← Bool.not_eq_true,contains_iff]
  exact fun inside => missing (inside.subset member)

end Sctl.Texts
