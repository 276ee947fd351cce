import Mathlib.Data.List.Basic
import Mathlib.Data.UInt

/-!
Lossy decoding of UTF-8. Bytes that cannot be part of a character are replaced
by U+FFFD, one for each maximal start of a character, as `from_utf8_lossy`
documents it. The decoder reads a byte at a time and remembers the character
that it is inside of; the end of the bytes gives a character up. Decoding is
undone by encoding, and what is lost when bytes are decoded in parts is counted
by the bytes that start a character.
-/
namespace Sctl.Utf8

def replacementCharacter : Char := '\uFFFD'

/-- A character whose first bytes are read: their bits, the number of bytes to
    come and the range of the next one, which is a continuation byte. -/
structure Begun where
  bits : Nat
  owed : Nat
  low : Nat
  high : Nat
  low_continues : 128 ≤ low
  high_continues : high < 192
deriving DecidableEq

def isContinuation (b : UInt8) : Bool := 128 ≤ b.toNat && b.toNat < 192

/-- The range of the byte after a first one, without overlong forms and surrogates. -/
def secondLow (first : Nat) : Nat := if first = 0xE0 then 0xA0 else if first = 0xF0 then 0x90 else 0x80
def secondHigh (first : Nat) : Nat := if first = 0xED then 0x9F else if first = 0xF4 then 0x8F else 0xBF

theorem secondLow_continues (first : Nat) : 128 ≤ secondLow first := by unfold secondLow; split_ifs <;> decide

theorem secondHigh_continues (first : Nat) : secondHigh first < 192 := by unfold secondHigh; split_ifs <;> decide

def begin_ (first bits owed : Nat) : Begun :=
  ⟨bits,owed,secondLow first,secondHigh first,secondLow_continues first,secondHigh_continues first⟩

/-- A byte between two characters. -/
def feedFirst (b : UInt8) : List Char × Option Begun :=
  let n := b.toNat
  if n < 0x80 then ([Char.ofNat n],none)
  else if 0xC2 ≤ n ∧ n ≤ 0xDF then ([],some (begin_ n (n - 0xC0) 1))
  else if 0xE0 ≤ n ∧ n ≤ 0xEF then ([],some (begin_ n (n - 0xE0) 2))
  else if 0xF0 ≤ n ∧ n ≤ 0xF4 then ([],some (begin_ n (n - 0xF0) 3))
  else ([replacementCharacter],none)

/-- What a byte completes, and the character it leaves begun. -/
def feed (begun : Option Begun) (b : UInt8) : List Char × Option Begun :=
  match begun with
  | none => feedFirst b
  | some p =>
    if p.low ≤ b.toNat ∧ b.toNat ≤ p.high then
      let bits := p.bits * 64 + (b.toNat - 0x80)
      if p.owed = 1 then ([Char.ofNat bits],none) else ([],some ⟨bits,p.owed - 1,0x80,0xBF,by decide,by decide⟩)
    else (replacementCharacter :: (feedFirst b).1,(feedFirst b).2)

def decodeFrom : Option Begun → List UInt8 → List Char
  | none, [] => []
  | some _, [] => [replacementCharacter]
  | begun, b :: rest => (feed begun b).1 ++ decodeFrom (feed begun b).2 rest

def fromUtf8Lossy (bytes : List UInt8) : String := String.ofList (decodeFrom none bytes)

def encode (text : List Char) : List UInt8 := text.flatMap String.utf8EncodeChar

@[simp] theorem encode_nil : encode [] = [] := rfl

@[simp] theorem encode_cons (c : Char) (text : List Char) :
    encode (c :: text) = String.utf8EncodeChar c ++ encode text := rfl

theorem encode_append (first second : List Char) : encode (first ++ second) = encode first ++ encode second := by
  simp [encode]

/-! ### Encoding is undone -/

theorem decodeFrom_cons (begun : Option Begun) (b : UInt8) (rest : List UInt8) :
    decodeFrom begun (b :: rest) = (feed begun b).1 ++ decodeFrom (feed begun b).2 rest := by
  cases begun <;> rfl

theorem toNat_ofNat {n : Nat} (small : n < 256) : (UInt8.ofNat n).toNat = n := by
  simp [Nat.mod_eq_of_lt small]

theorem decodeFrom_ascii {n : Nat} (low : n < 0x80) (rest : List UInt8) :
    decodeFrom none (UInt8.ofNat n :: rest) = Char.ofNat n :: decodeFrom none rest := by
  have value := toNat_ofNat (show n < 256 by omega)
  simp only [decodeFrom_cons,feed,feedFirst,value,if_pos low]
  rfl

/-- The first byte of a longer character. -/
theorem decodeFrom_first {n bits owed : Nat} (rest : List UInt8)
    (width : 0xC2 ≤ n ∧ n ≤ 0xDF ∧ bits + 0xC0 = n ∧ owed = 1 ∨ 0xE0 ≤ n ∧ n ≤ 0xEF ∧ bits + 0xE0 = n ∧ owed = 2 ∨
      0xF0 ≤ n ∧ n ≤ 0xF4 ∧ bits + 0xF0 = n ∧ owed = 3) :
    decodeFrom none (UInt8.ofNat n :: rest) = decodeFrom (some (begin_ n bits owed)) rest := by
  have value := toNat_ofNat (show n < 256 by omega)
  have high : ¬ n < 0x80 := by omega
  simp only [decodeFrom_cons,feed,feedFirst,value,if_neg high]
  obtain ⟨low,up,rfl,rfl⟩ | ⟨low,up,rfl,rfl⟩ | ⟨low,up,rfl,rfl⟩ := width
  · rw [if_pos ⟨low,up⟩,Nat.add_sub_cancel]; rfl
  · rw [if_neg (by omega),if_pos ⟨low,up⟩,Nat.add_sub_cancel]; rfl
  · rw [if_neg (by omega),if_neg (by omega),if_pos ⟨low,up⟩,Nat.add_sub_cancel]; rfl

/-- A byte inside a character that is not its last. -/
theorem decodeFrom_next {p : Begun} {n : Nat} (rest : List UInt8) (range : p.low ≤ n + 0x80 ∧ n + 0x80 ≤ p.high)
    (more : p.owed ≠ 1) : decodeFrom (some p) (UInt8.ofNat (n + 0x80) :: rest) =
      decodeFrom (some ⟨p.bits * 64 + n,p.owed - 1,0x80,0xBF,by decide,by decide⟩) rest := by
  have high := p.high_continues
  have value := toNat_ofNat (show n + 0x80 < 256 by omega)
  simp only [decodeFrom_cons,feed,value,if_pos range,if_neg more,Nat.add_sub_cancel]
  rfl

theorem decodeFrom_last {p : Begun} {n : Nat} (rest : List UInt8) (range : p.low ≤ n + 0x80 ∧ n + 0x80 ≤ p.high)
    (one : p.owed = 1) : decodeFrom (some p) (UInt8.ofNat (n + 0x80) :: rest) =
      Char.ofNat (p.bits * 64 + n) :: decodeFrom none rest := by
  have high := p.high_continues
  have value := toNat_ofNat (show n + 0x80 < 256 by omega)
  simp only [decodeFrom_cons,feed,value,if_pos range,if_pos one,Nat.add_sub_cancel]
  rfl

theorem char_scalar (c : Char) : c.val.toNat < 0xD800 ∨ 0xDFFF < c.val.toNat ∧ c.val.toNat < 0x110000 := c.valid

/-- The second bytes that a first one takes: no overlong form, no surrogate and nothing above U+10FFFF. -/
theorem begin_range {first n : Nat} (bits owed : Nat) (limb : n < 64) (three : first = 0xE0 → 0x20 ≤ n)
    (surrogate : first = 0xED → n < 0x20) (four : first = 0xF0 → 0x10 ≤ n) (top : first = 0xF4 → n < 0x10) :
    (begin_ first bits owed).low ≤ n + 0x80 ∧ n + 0x80 ≤ (begin_ first bits owed).high := by
  simp only [begin_,secondLow,secondHigh]
  split_ifs <;> omega

theorem limb_range {n : Nat} (limb : n < 64) : 0x80 ≤ n + 0x80 ∧ n + 0x80 ≤ 0xBF := by omega

theorem decodeFrom_utf8EncodeChar (c : Char) (rest : List UInt8) :
    decodeFrom none (String.utf8EncodeChar c ++ rest) = c :: decodeFrom none rest := by
  have scalar := char_scalar c
  have same (n : Nat) (value : n = c.val.toNat) : Char.ofNat n = c := by rw [value]; exact Char.ofNat_toNat c
  unfold String.utf8EncodeChar
  simp only
  generalize c.val.toNat = v at scalar same ⊢
  have limb (k : Nat) : k % 0x40 < 64 := Nat.mod_lt _ (by decide)
  split_ifs with one two three
  · rw [List.singleton_append,decodeFrom_ascii (by omega),same v rfl]
  · simp only [List.cons_append,List.nil_append]
    rw [decodeFrom_first _ (.inl ⟨by omega,by omega,rfl,rfl⟩)]
    rw [decodeFrom_last _ (begin_range _ _ (limb _) (by omega) (by omega) (by omega) (by omega)) rfl]
    rw [same _ (by simp only [begin_]; omega)]
  · simp only [List.cons_append,List.nil_append]
    rw [decodeFrom_first _ (.inr (.inl ⟨by omega,by omega,rfl,rfl⟩))]
    rw [decodeFrom_next _ (begin_range _ _ (limb _) (by omega) (by omega) (by omega) (by omega)) (by simp [begin_])]
    rw [decodeFrom_last _ (limb_range (limb _)) rfl]
    rw [same _ (by simp only [begin_]; omega)]
  · simp only [List.cons_append,List.nil_append]
    rw [decodeFrom_first _ (.inr (.inr ⟨by omega,by omega,rfl,rfl⟩))]
    rw [decodeFrom_next _ (begin_range _ _ (limb _) (by omega) (by omega) (by omega) (by omega)) (by simp [begin_])]
    rw [decodeFrom_next _ (limb_range (limb _)) (by simp [begin_])]
    rw [decodeFrom_last _ (limb_range (limb _)) rfl]
    rw [same _ (by simp only [begin_]; omega)]

theorem decodeFrom_encode (text : List Char) : decodeFrom none (encode text) = text := by
  induction text with
  | nil => rfl
  | cons c text ih => rw [encode_cons,decodeFrom_utf8EncodeChar,ih]

/-- Only the newline character has a newline byte. -/
theorem newline_mem_encode {text : List Char} (member : 10 ∈ encode text) : '\n' ∈ text := by
  obtain ⟨c,here,byte⟩ := List.mem_flatMap.mp member
  suffices c = '\n' by rwa [← this]
  have same (k : Nat) (low : k < 256) (equal : (10 : UInt8) = UInt8.ofNat k) : k = 10 := by
    rw [← toNat_ofNat low,← equal]
    rfl
  unfold String.utf8EncodeChar at byte
  simp only at byte
  have scalar := char_scalar c
  generalize read : c.val.toNat = v at byte scalar
  split_ifs at byte with one two three
  · have ten := same v (by omega) (by simpa using byte)
    exact Char.ext (UInt32.toNat_inj.mp (by rw [read,ten]; rfl))
  -- every byte of a longer character is above the ASCII range
  all_goals
    simp only [List.mem_cons,List.not_mem_nil,or_false] at byte
    rcases byte with first | rest
    · have := same _ (by omega) first
      omega
  · have := same _ (by omega) rest
    omega
  · rcases rest with second | third
    · have := same _ (by omega) second
      omega
    · have := same _ (by omega) third
      omega
  · rcases rest with second | third | fourth
    · have := same _ (by omega) second
      omega
    · have := same _ (by omega) third
      omega
    · have := same _ (by omega) fourth
      omega

/-! ### Bytes that start a character -/

def starts (bytes : List UInt8) : Nat := bytes.countP fun b => !isContinuation b

theorem starts_append (first second : List UInt8) : starts (first ++ second) = starts first + starts second :=
  List.countP_append ..

/-- A character is one byte that starts it and continuation bytes. -/
theorem utf8EncodeChar_starts (c : Char) :
    ∃ b rest, String.utf8EncodeChar c = b :: rest ∧ isContinuation b = false ∧ ∀ d ∈ rest, isContinuation d = true := by
  have scalar := char_scalar c
  unfold String.utf8EncodeChar
  simp only
  generalize c.val.toNat = v at scalar ⊢
  have tail (k : Nat) : isContinuation (UInt8.ofNat (k % 0x40 + 0x80)) = true := by
    simp only [isContinuation,toNat_ofNat (show k % 0x40 + 0x80 < 256 by omega)]
    simp; omega
  have head (k : Nat) (small : k < 256) (start : k < 128 ∨ 192 ≤ k) : isContinuation (UInt8.ofNat k) = false := by
    simp only [isContinuation,toNat_ofNat small]
    simp; omega
  split_ifs with one two three
  · exact ⟨_,_,rfl,head _ (by omega) (by omega),List.forall_mem_nil _⟩
  · exact ⟨_,_,rfl,head _ (by omega) (by omega),List.forall_mem_singleton.mpr (tail _)⟩
  · refine ⟨_,_,rfl,head _ (by omega) (by omega),?_⟩
    exact List.forall_mem_cons.mpr ⟨tail _,List.forall_mem_singleton.mpr (tail _)⟩
  · refine ⟨_,_,rfl,head _ (by omega) (by omega),?_⟩
    exact List.forall_mem_cons.mpr ⟨tail _,List.forall_mem_cons.mpr ⟨tail _,List.forall_mem_singleton.mpr (tail _)⟩⟩

theorem starts_encode (text : List Char) : starts (encode text) = text.length := by
  induction text with
  | nil => rfl
  | cons c text ih =>
    obtain ⟨b,rest,encoded,start,continue_⟩ := utf8EncodeChar_starts c
    have none_ : starts rest = 0 := by
      rw [starts,List.countP_eq_zero]
      intro d member
      simp [continue_ d member]
    rw [encode_cons,starts_append,ih,encoded]
    simp only [starts,List.countP_cons,start] at none_ ⊢
    simp [none_]; omega

/-- The character that stands for an unfinished one. -/
def pendingCount (begun : Option Begun) : Nat := if begun.isSome then 1 else 0

theorem feedFirst_count (b : UInt8) : (feedFirst b).1.length + pendingCount (feedFirst b).2 = 1 := by
  unfold feedFirst
  simp only
  split_ifs <;> rfl

theorem feed_count (begun : Option Begun) (b : UInt8) :
    pendingCount begun + (if isContinuation b then 0 else 1) ≤ (feed begun b).1.length + pendingCount (feed begun b).2 := by
  cases begun with
  | none =>
    rw [feed,feedFirst_count]
    simp only [pendingCount]
    split_ifs <;> simp_all
  | some p =>
    have low := p.low_continues
    have high := p.high_continues
    by_cases range : p.low ≤ b.toNat ∧ b.toNat ≤ p.high
    · have cont : isContinuation b = true := by simp [isContinuation]; omega
      simp only [feed,if_pos range,cont,if_true]
      split_ifs <;> simp [pendingCount]
    · have first := feedFirst_count b
      simp only [feed,if_neg range,pendingCount,List.length_cons] at first ⊢
      simp only [Option.isSome_some,if_true]
      split_ifs at first ⊢ <;> omega

/-- Every byte that starts a character, and the character begun before, gives at least one character. -/
theorem decodeFrom_length (begun : Option Begun) (bytes : List UInt8) :
    pendingCount begun + starts bytes ≤ (decodeFrom begun bytes).length := by
  induction bytes generalizing begun with
  | nil => cases begun <;> simp [pendingCount,starts,decodeFrom]
  | cons b rest ih =>
    have one := feed_count begun b
    have later := ih (feed begun b).2
    rw [decodeFrom_cons,List.length_append]
    simp only [starts,List.countP_cons] at later ⊢
    cases cont : isContinuation b <;> simp only [cont] at one ⊢ <;> simp at one ⊢ <;> omega

/-- A continuation byte between two characters is one more. -/
theorem decodeFrom_continuation {b : UInt8} (cont : isContinuation b = true) (rest : List UInt8) :
    starts (b :: rest) < (decodeFrom none (b :: rest)).length := by
  have one := feedFirst_count b
  have later := decodeFrom_length (feedFirst b).2 rest
  rw [decodeFrom_cons,List.length_append,feed]
  simp only [starts,List.countP_cons,cont] at later ⊢
  simp; omega

/-! ### Text in parts -/

/-- Whether bytes begin in the middle of a character. -/
def beginsInside (bytes : List UInt8) : Bool :=
  match bytes with
  | b :: _ => isContinuation b
  | [] => false

theorem encode_not_inside (text : List Char) : beginsInside (encode text) = false := by
  cases text with
  | nil => rfl
  | cons c text =>
    obtain ⟨b,rest,encoded,start,-⟩ := utf8EncodeChar_starts c
    simp [encoded,beginsInside,start]

/-- Encoded text that is cut before a byte that starts a character is cut between two characters. -/
theorem encode_cut {text : List Char} {first second : List UInt8} (whole : encode text = first ++ second)
    (start : beginsInside second = false) : ∃ n, first = encode (text.take n) ∧ second = encode (text.drop n) := by
  induction text generalizing first with
  | nil =>
    have empty : first = [] ∧ second = [] := List.append_eq_nil_iff.mp whole.symm
    exact ⟨0,by simp [empty]⟩
  | cons c text ih =>
    rw [encode_cons] at whole
    obtain ⟨b,rest,encoded,-,continue_⟩ := utf8EncodeChar_starts c
    obtain ⟨more,left,right⟩ | ⟨more,left,right⟩ := List.append_eq_append_iff.mp whole
    · -- The cut is after the first character.
      obtain ⟨n,early,late⟩ := ih right
      exact ⟨n + 1,by simp [left,early],by simpa using late⟩
    · cases more with
      | nil => exact ⟨1,by simpa using left.symm,by simpa using right⟩
      | cons d more =>
        cases first with
        | nil => exact ⟨0,rfl,by simpa using whole.symm⟩
        | cons d' first =>
          rw [encoded] at left
          have inside := continue_ d (by simp at left; simp [left])
          simp [right,beginsInside,inside] at start

/-- Every part ends where a character of the text ends. -/
def Aligned (text : List Char) (parts : List (List UInt8)) : Prop :=
  ∀ k, ∃ n, (parts.take k).flatten = encode (text.take n)

section
variable {text : List Char} {parts : List (List UInt8)}

theorem beginsInside_flatten {part : List UInt8} (nonempty : part ≠ []) (rest : List UInt8) :
    beginsInside (part ++ rest) = beginsInside part := by
  cases part with
  | nil => exact absurd rfl nonempty
  | cons b part => rfl

theorem flatten_not_inside (nonempty : ∀ part ∈ parts, part ≠ []) (start : ∀ part ∈ parts, beginsInside part = false) :
    beginsInside parts.flatten = false := by
  cases parts with
  | nil => rfl
  | cons part parts =>
    rw [List.flatten_cons,beginsInside_flatten (nonempty part (by simp))]
    exact start part (by simp)

theorem aligned_iff (nonempty : ∀ part ∈ parts, part ≠ []) (whole : parts.flatten = encode text) :
    Aligned text parts ↔ ∀ part ∈ parts, beginsInside part = false := by
  have cut (k : Nat) : encode text = (parts.take k).flatten ++ (parts.drop k).flatten := by
    rw [← List.flatten_append,List.take_append_drop,whole]
  constructor
  · intro aligned part member
    obtain ⟨k,bound,rfl⟩ := List.mem_iff_getElem.mp member
    obtain ⟨n,early⟩ := aligned k
    have late : (parts.drop k).flatten = encode (text.drop n) := by
      have both := cut k
      rw [early,← List.take_append_drop n text,encode_append,List.take_append_drop] at both
      exact (List.append_cancel_left both).symm
    have inside := encode_not_inside (text.drop n)
    rwa [← late,List.drop_eq_getElem_cons bound,List.flatten_cons,beginsInside_flatten (nonempty _ member)] at inside
  · intro start k
    have later := flatten_not_inside (fun part member => nonempty part (List.mem_of_mem_drop member))
      (fun part member => start part (List.mem_of_mem_drop (i := k) member))
    obtain ⟨n,early,-⟩ := encode_cut (cut k) later
    exact ⟨n,early⟩

theorem decode_parts_of_starts (nonempty : ∀ part ∈ parts, part ≠ []) (whole : parts.flatten = encode text)
    (start : ∀ part ∈ parts, beginsInside part = false) : parts.flatMap (decodeFrom none) = text := by
  induction parts generalizing text with
  | nil =>
    have empty := decodeFrom_encode text
    rw [← whole] at empty
    simpa [decodeFrom] using empty
  | cons part parts ih =>
    simp only [List.forall_mem_cons] at nonempty start
    obtain ⟨n,early,late⟩ := encode_cut whole.symm (flatten_not_inside nonempty.2 start.2)
    rw [List.flatMap_cons,ih nonempty.2 late start.2,early,decodeFrom_encode,List.take_append_drop]

/-- Parts that are decoded alone give one character for each start, and one more for a part that begins inside one. -/
theorem decode_parts_length (parts : List (List UInt8)) :
    starts parts.flatten + (parts.countP fun part => beginsInside part) ≤ (parts.flatMap (decodeFrom none)).length := by
  induction parts with
  | nil => simp [starts]
  | cons part parts ih =>
    rw [List.flatten_cons,starts_append,List.flatMap_cons,List.length_append,List.countP_cons]
    have here : starts part + (if beginsInside part then 1 else 0) ≤ (decodeFrom none part).length := by
      cases part with
      | nil => simp [starts,beginsInside]
      | cons b rest =>
        cases cont : isContinuation b with
        | true => simpa [beginsInside,cont,Nat.succ_le_iff] using decodeFrom_continuation cont rest
        | false => simpa [beginsInside,cont,pendingCount] using decodeFrom_length none (b :: rest)
    omega

/-- Text decoded in parts is the text exactly when it is parted between characters. -/
theorem decode_parts_iff (nonempty : ∀ part ∈ parts, part ≠ []) (whole : parts.flatten = encode text) :
    parts.flatMap (decodeFrom none) = text ↔ Aligned text parts := by
  rw [aligned_iff nonempty whole]
  constructor
  · intro same
    have count := decode_parts_length parts
    rw [whole,starts_encode,same] at count
    have zero : (parts.countP fun part => beginsInside part) = 0 := by omega
    simpa using List.countP_eq_zero.mp zero
  · exact decode_parts_of_starts nonempty whole

end
end Sctl.Utf8
