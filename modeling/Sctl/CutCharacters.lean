import Sctl.Utf8

/-!
Text that arrives as bytes in parts, each part decoded alone. A character whose
bytes are in one part is decoded; one that is cut gives replacement characters.
What arrives is described by where the parts end, a character at a time, so that
text in front and text behind can be looked at apart.
-/
namespace Sctl.CutCharacters
open Sctl.Utf8

/-- Where the parts end, in bytes. -/
def ends : Nat → List (List UInt8) → List Nat
  | _,[] => []
  | n,part :: parts => (n + part.length) :: ends (n + part.length) parts

/-- No part ends inside the character that begins at `n`. -/
def Uncut (cuts : List Nat) (n : Nat) (c : Char) : Prop := ∀ cut ∈ cuts, cut ≤ n ∨ n + c.utf8Size ≤ cut

instance (cuts : List Nat) (n : Nat) (c : Char) : Decidable (Uncut cuts n c) :=
  inferInstanceAs (Decidable (∀ cut ∈ cuts, cut ≤ n ∨ n + c.utf8Size ≤ cut))

def size (text : List Char) : Nat := (encode text).length

/-- The characters that are not cut. -/
def uncut (cuts : List Nat) : Nat → List Char → List Char
  | _,[] => []
  | n,c :: rest => if Uncut cuts n c then c :: uncut cuts (n + c.utf8Size) rest else uncut cuts (n + c.utf8Size) rest

/-- The characters that `n` bytes hold in full. -/
def within : Nat → List Char → List Char
  | _,[] => []
  | n,c :: rest => if c.utf8Size ≤ n then c :: within (n - c.utf8Size) rest else []

/-- What the parts are decoded to: replacement characters for each one that is cut. -/
inductive Lossy (cuts : List Nat) : Nat → List Char → List Char → Prop
  | nil {n : Nat} : Lossy cuts n [] []
  | whole {n : Nat} {c : Char} {rest raw : List Char} (uncut : Uncut cuts n c) (later : Lossy cuts (n + c.utf8Size) rest raw) :
      Lossy cuts n (c :: rest) (c :: raw)
  | cut {n : Nat} {c : Char} {rest raw : List Char} (k : Nat) (cut : ¬ Uncut cuts n c)
      (later : Lossy cuts (n + c.utf8Size) rest raw) :
      Lossy cuts n (c :: rest) (List.replicate k replacementCharacter ++ raw)

/-! ### Sizes -/

theorem size_cons (c : Char) (text : List Char) : size (c :: text) = c.utf8Size + size text := by
  rw [size,encode_cons,List.length_append,String.length_utf8EncodeChar,size]

theorem size_append (first second : List Char) : size (first ++ second) = size first + size second := by
  rw [size,encode_append,List.length_append,size,size]

theorem size_nil : size [] = 0 := rfl

theorem within_cons (n : Nat) (c : Char) (rest : List Char) :
    within n (c :: rest) = if c.utf8Size ≤ n then c :: within (n - c.utf8Size) rest else [] := rfl

theorem within_zero (text : List Char) : within 0 text = [] := by
  cases text with
  | nil => rfl
  | cons c text =>
    have some_ := c.utf8Size_pos
    rw [within_cons,if_neg (by omega)]

theorem within_append (first second : List Char) (n : Nat) : within (size first + n) (first ++ second) = first ++ within n second := by
  induction first with
  | nil => rw [size_nil,Nat.zero_add]; rfl
  | cons c first ih =>
    rw [size_cons,List.cons_append,within_cons,if_pos (by omega),show c.utf8Size + size first + n - c.utf8Size = size first + n by omega,ih]
    rfl

theorem within_prefix (n : Nat) (text : List Char) : within n text <+: text := by
  induction text generalizing n with
  | nil => exact List.prefix_rfl
  | cons c text ih =>
    rw [within_cons]
    split_ifs with room
    · exact List.cons_prefix_cons.mpr ⟨rfl,ih _⟩
    · exact List.nil_prefix

theorem size_within (n : Nat) (text : List Char) : size (within n text) ≤ n := by
  induction text generalizing n with
  | nil => exact Nat.zero_le n
  | cons c text ih =>
    rw [within_cons]
    split_ifs with room
    · have later := ih (n - c.utf8Size)
      rw [size_cons]
      omega
    · exact Nat.zero_le n

/-- Less than all the bytes leave characters out. -/
theorem within_short {n : Nat} {text : List Char} (short : n < size text) : ∃ c rest, text = within n text ++ c :: rest := by
  obtain ⟨rest,whole⟩ := within_prefix n text
  cases rest with
  | nil =>
    have most := size_within n text
    rw [List.append_nil] at whole
    rw [whole] at most
    omega
  | cons c rest => exact ⟨c,rest,whole.symm⟩

theorem within_enough {n : Nat} {text : List Char} (enough : size text ≤ n) : within n text = text := by
  have all := within_append text [] (n - size text)
  rwa [show size text + (n - size text) = n by omega,List.append_nil,within,List.append_nil] at all

theorem within_first {n : Nat} {first : List Char} (few : n < size first) (second : List Char) : within n (first ++ second) = within n first := by
  induction first generalizing n with
  | nil =>
    rw [size_nil] at few
    omega
  | cons c first ih =>
    rw [size_cons] at few
    rw [List.cons_append,within_cons,within_cons]
    split_ifs with room
    · rw [ih (by omega)]
    · rfl

/-! ### The characters that are not cut -/

section Uncut
variable {cuts : List Nat}

theorem uncut_cons (n : Nat) (c : Char) (rest : List Char) : uncut cuts n (c :: rest) =
    if Uncut cuts n c then c :: uncut cuts (n + c.utf8Size) rest else uncut cuts (n + c.utf8Size) rest := rfl

theorem uncut_append (n : Nat) (first second : List Char) :
    uncut cuts n (first ++ second) = uncut cuts n first ++ uncut cuts (n + size first) second := by
  induction first generalizing n with
  | nil => rfl
  | cons c first ih =>
    rw [List.cons_append,uncut_cons,uncut_cons,size_cons,ih,← Nat.add_assoc]
    split_ifs <;> rfl

theorem uncut_sublist (n : Nat) (text : List Char) : (uncut cuts n text).Sublist text := by
  induction text generalizing n with
  | nil => exact List.Sublist.refl []
  | cons c text ih =>
    rw [uncut_cons]
    split_ifs
    · exact (ih _).cons_cons c
    · exact (ih _).cons c

/-- A character of one byte is never cut. -/
theorem uncut_of_ascii {c : Char} (one : c.utf8Size = 1) (n : Nat) : Uncut cuts n c := by
  intro cut _
  omega

theorem uncut_ascii {text : List Char} (ascii : ∀ c ∈ text, c.utf8Size = 1) (n : Nat) : uncut cuts n text = text := by
  induction text generalizing n with
  | nil => rfl
  | cons c text ih =>
    rw [uncut_cons,if_pos (uncut_of_ascii (ascii c List.mem_cons_self) n),ih fun d member => ascii d (List.mem_cons_of_mem c member)]

/-- Text is left whole exactly when none of its characters is cut. -/
theorem uncut_eq_self_iff {n : Nat} {text : List Char} :
    uncut cuts n text = text ↔ ∀ before c after, text = before ++ c :: after → Uncut cuts (n + size before) c := by
  constructor
  · intro same before c after whole
    by_contra cut
    have lengths := congrArg List.length same
    have front := (@uncut_sublist cuts n before).length_le
    have back := (@uncut_sublist cuts (n + size before + c.utf8Size) after).length_le
    rw [whole,uncut_append,uncut_cons,if_neg cut,List.length_append,List.length_append,List.length_cons] at lengths
    omega
  · intro all
    induction text generalizing n with
    | nil => rfl
    | cons c text ih =>
      have first := all [] c text rfl
      rw [size_nil,Nat.add_zero] at first
      rw [uncut_cons,if_pos first,ih fun before d after whole => ?_]
      have later := all (c :: before) d after (by rw [whole]; rfl)
      rwa [size_cons,← Nat.add_assoc] at later

end Uncut

/-! ### What the parts are decoded to -/

section Decoding
variable {cuts : List Nat}

theorem Lossy.filter {n : Nat} {text raw : List Char} (lossy : Lossy cuts n text raw) :
    raw.filter (fun c => c ≠ replacementCharacter) = (uncut cuts n text).filter (fun c => c ≠ replacementCharacter) := by
  induction lossy with
  | nil => rfl
  | whole here _ ih => rw [uncut_cons,if_pos here,List.filter_cons,List.filter_cons,ih]
  | cut k here _ ih => rw [uncut_cons,if_neg here,List.filter_append,List.filter_replicate,ih]; simp

/-- Text in front and text behind are lossy apart. -/
theorem Lossy.append {n : Nat} {first second raw : List Char} (lossy : Lossy cuts n (first ++ second) raw) :
    ∃ front back, raw = front ++ back ∧ Lossy cuts n first front ∧ Lossy cuts (n + size first) second back := by
  induction first generalizing n raw with
  | nil => exact ⟨[],raw,rfl,.nil,lossy⟩
  | cons c first ih =>
    cases lossy with
    | whole here later =>
      obtain ⟨front,back,rfl,lossy,rest⟩ := ih later
      refine ⟨c :: front,back,rfl,.whole here lossy,?_⟩
      rwa [size_cons,← Nat.add_assoc]
    | cut k here later =>
      obtain ⟨front,back,rfl,lossy,rest⟩ := ih later
      refine ⟨_ ++ front,back,(List.append_assoc _ _ _).symm,.cut k here lossy,?_⟩
      rwa [size_cons,← Nat.add_assoc]

theorem Lossy.mem {n : Nat} {text raw : List Char} (lossy : Lossy cuts n text raw) {c : Char} (member : c ∈ raw) :
    c ∈ text ∨ c = replacementCharacter := by
  induction lossy with
  | nil => cases member
  | whole _ _ ih =>
    rcases List.mem_cons.mp member with rfl | later
    · exact .inl List.mem_cons_self
    · exact (ih later).imp (List.mem_cons_of_mem _) id
  | cut k _ _ ih =>
    rcases List.mem_append.mp member with lost | later
    · exact .inr (List.eq_of_mem_replicate lost)
    · exact (ih later).imp (List.mem_cons_of_mem _) id

theorem Lossy.ascii {n : Nat} {text raw : List Char} (lossy : Lossy cuts n text raw) (ascii : ∀ c ∈ text, c.utf8Size = 1) :
    raw = text := by
  induction lossy with
  | nil => rfl
  | whole _ _ ih => rw [ih fun d member => ascii d (List.mem_cons_of_mem _ member)]
  | cut k here _ _ => exact absurd (uncut_of_ascii (ascii _ List.mem_cons_self) _) here

/-- The first bytes of a character, without its last one. -/
theorem decodeFrom_part {c : Char} {part more : List UInt8} (encoded : String.utf8EncodeChar c = part ++ more) (some_ : part ≠ [])
    (unfinished : more ≠ []) : decodeFrom none part = [replacementCharacter] := by
  obtain ⟨b,part,rfl⟩ := List.exists_cons_of_ne_nil some_
  have scalar := char_scalar c
  have limb (k : Nat) : k % 0x40 < 64 := Nat.mod_lt _ (by decide)
  unfold String.utf8EncodeChar at encoded
  simp only at encoded
  generalize c.val.toNat = v at scalar encoded
  split_ifs at encoded with one two three
  · simp only [List.cons_append,List.cons.injEq] at encoded
    exact absurd (List.append_eq_nil_iff.mp encoded.2.symm).2 unfinished
  · simp only [List.cons_append,List.cons.injEq] at encoded
    obtain ⟨rfl,tail⟩ := encoded
    rw [decodeFrom_first _ (.inl ⟨by omega,by omega,rfl,rfl⟩)]
    cases part with
    | nil => rfl
    | cons b part =>
      simp only [List.cons_append,List.cons.injEq] at tail
      exact absurd (List.append_eq_nil_iff.mp tail.2.symm).2 unfinished
  · simp only [List.cons_append,List.cons.injEq] at encoded
    obtain ⟨rfl,tail⟩ := encoded
    rw [decodeFrom_first _ (.inr (.inl ⟨by omega,by omega,rfl,rfl⟩))]
    rcases part with - | ⟨b,- | ⟨b',part⟩⟩
    · rfl
    · simp only [List.cons_append,List.cons.injEq] at tail
      obtain ⟨rfl,-⟩ := tail
      rw [decodeFrom_next _ (begin_range _ _ (limb _) (by omega) (by omega) (by omega) (by omega)) (by simp [begin_])]
      rfl
    · simp only [List.cons_append,List.cons.injEq] at tail
      exact absurd (List.append_eq_nil_iff.mp tail.2.2.symm).2 unfinished
  · simp only [List.cons_append,List.cons.injEq] at encoded
    obtain ⟨rfl,tail⟩ := encoded
    rw [decodeFrom_first _ (.inr (.inr ⟨by omega,by omega,rfl,rfl⟩))]
    rcases part with - | ⟨b,- | ⟨b',- | ⟨b'',part⟩⟩⟩
    · rfl
    · simp only [List.cons_append,List.cons.injEq] at tail
      obtain ⟨rfl,-⟩ := tail
      rw [decodeFrom_next _ (begin_range _ _ (limb _) (by omega) (by omega) (by omega) (by omega)) (by simp [begin_])]
      rfl
    · simp only [List.cons_append,List.cons.injEq] at tail
      obtain ⟨rfl,rfl,-⟩ := tail
      rw [decodeFrom_next _ (begin_range _ _ (limb _) (by omega) (by omega) (by omega) (by omega)) (by simp [begin_])]
      rw [decodeFrom_next _ (limb_range (limb _)) (by simp [begin_])]
      rfl
    · simp only [List.cons_append,List.cons.injEq] at tail
      exact absurd (List.append_eq_nil_iff.mp tail.2.2.2.symm).2 unfinished

/-- A continuation byte between two characters. -/
theorem decodeFrom_inside {b : UInt8} (inside : isContinuation b = true) (rest : List UInt8) :
    decodeFrom none (b :: rest) = replacementCharacter :: decodeFrom none rest := by
  simp only [isContinuation,Bool.and_eq_true,decide_eq_true_eq] at inside
  simp only [decodeFrom_cons,feed,feedFirst]
  rw [if_neg (by omega),if_neg (by omega),if_neg (by omega),if_neg (by omega)]
  rfl

theorem ends_least {n m : Nat} {parts : List (List UInt8)} (member : m ∈ ends n parts) : n ≤ m := by
  induction parts generalizing n with
  | nil => cases member
  | cons part parts ih =>
    rcases List.mem_cons.mp member with rfl | later
    · exact Nat.le_add_right _ _
    · exact (Nat.le_add_right _ _).trans (ih later)

theorem ends_append (n : Nat) (first second : List (List UInt8)) :
    ends n (first ++ second) = ends n first ++ ends (n + first.flatten.length) second := by
  induction first generalizing n with
  | nil => rfl
  | cons part first ih =>
    rw [List.cons_append,ends,ends,ih,List.flatten_cons,List.length_append,Nat.add_assoc]
    rfl

theorem ends_last (n : Nat) {parts : List (List UInt8)} (some_ : parts ≠ []) : n + parts.flatten.length ∈ ends n parts := by
  induction parts generalizing n with
  | nil => exact absurd rfl some_
  | cons part parts ih =>
    rw [List.flatten_cons,List.length_append,← Nat.add_assoc,ends]
    by_cases more : parts = []
    · rw [more]
      exact List.mem_cons_self
    · exact List.mem_cons_of_mem _ (ih _ more)

theorem mem_ends {parts : List (List UInt8)} {m : Nat} (member : m ∈ ends 0 parts) :
    ∃ first rest, parts = first ++ rest ∧ first ≠ [] ∧ first.flatten.length = m := by
  have general : ∀ n, m ∈ ends n parts → ∃ first rest, parts = first ++ rest ∧ first ≠ [] ∧ n + first.flatten.length = m := by
    clear member
    induction parts with
    | nil => exact fun n member => by cases member
    | cons part parts ih =>
      intro n member
      rcases List.mem_cons.mp member with rfl | later
      · exact ⟨[part],parts,rfl,by simp,by simp⟩
      · obtain ⟨first,rest,rfl,-,total⟩ := ih _ later
        exact ⟨part :: first,rest,rfl,by simp,by rw [List.flatten_cons,List.length_append,← Nat.add_assoc,total]⟩
  simpa using general 0 member

/-- Parts behind others do not cut what those hold. -/
theorem ends_early {first rest : List (List UInt8)} {cut : Nat} (low : 0 < cut) (high : cut ≤ 0 + first.flatten.length) :
    cut ∈ ends 0 (first ++ rest) ↔ cut ∈ ends 0 first := by
  rw [ends_append,List.mem_append]
  refine ⟨fun either => ?_,.inl⟩
  rcases either with here | behind
  · exact here
  · have least := ends_least behind
    have last : cut = 0 + first.flatten.length := by omega
    have some_ : first ≠ [] := by
      rintro rfl
      rw [last] at low
      exact Nat.lt_irrefl _ low
    rw [last]
    exact ends_last 0 some_

/-- Parts that hold a byte, without the empty ones in front. -/
theorem first_byte {parts : List (List UInt8)} {b : UInt8} {rest : List UInt8} (whole : parts.flatten = b :: rest) (n : Nat) :
    ∃ part later, rest = part ++ later.flatten ∧
      parts.flatMap (decodeFrom none) = decodeFrom none (b :: part) ++ later.flatMap (decodeFrom none) ∧
      ∀ cut, n < cut → (cut ∈ ends n parts ↔ cut ∈ ends n ((b :: part) :: later)) := by
  induction parts with
  | nil => cases whole
  | cons part parts ih =>
    cases part with
    | nil =>
      obtain ⟨part,later,same,decoded,cuts⟩ := ih whole
      refine ⟨part,later,same,decoded,fun cut beyond => ?_⟩
      have other : cut ≠ n + ([] : List UInt8).length := Nat.ne_of_gt beyond
      rw [← cuts cut beyond,ends,List.mem_cons]
      exact ⟨fun member => member.resolve_left other,.inr⟩
    | cons d part =>
      obtain ⟨rfl,rfl⟩ := List.cons.inj whole
      exact ⟨part,parts,rfl,rfl,fun cut _ => Iff.rfl⟩

/-- Continuation bytes in front are one replacement character each. -/
theorem drop_inside {inside : List UInt8} (all : ∀ b ∈ inside, isContinuation b = true) {parts : List (List UInt8)} {rest : List UInt8}
    (whole : parts.flatten = inside ++ rest) (n : Nat) :
    ∃ later, later.flatten = rest ∧
      parts.flatMap (decodeFrom none) = List.replicate inside.length replacementCharacter ++ later.flatMap (decodeFrom none) ∧
      ∀ cut, n + inside.length < cut → (cut ∈ ends n parts ↔ cut ∈ ends (n + inside.length) later) := by
  induction inside generalizing parts n with
  | nil => exact ⟨parts,whole,rfl,fun cut _ => Iff.rfl⟩
  | cons b inside ih =>
    obtain ⟨part,later,same,decoded,cuts⟩ := first_byte whole n
    have first : (part :: later).flatten = inside ++ rest := same.symm
    obtain ⟨later',same',decoded',cuts'⟩ := ih (fun d member => all d (List.mem_cons_of_mem b member)) first (n + 1)
    refine ⟨later',same',?_,fun cut beyond => ?_⟩
    · rw [decoded,decodeFrom_inside (all b List.mem_cons_self),List.cons_append,← List.flatMap_cons,decoded']
      rfl
    · rw [List.length_cons] at beyond ⊢
      rw [cuts cut (by omega),show n + (inside.length + 1) = n + 1 + inside.length by omega,← cuts' cut (by omega)]
      rw [ends,ends,List.length_cons,show n + (part.length + 1) = n + 1 + part.length by omega]

theorem decode_empty {parts : List (List UInt8)} (empty : parts.flatten = []) : parts.flatMap (decodeFrom none) = [] := by
  rw [List.flatten_eq_nil_iff] at empty
  rw [List.flatMap_eq_nil_iff]
  intro part member
  rw [empty part member]
  rfl

/-- What parts at the start of a text are decoded to: the characters they hold in full,
    and replacement characters where they end inside one. -/
theorem decode_parts {text : List Char} {parts : List (List UInt8)} (part_of : parts.flatten <+: encode text) {cuts : List Nat}
    {n : Nat} (same : ∀ cut, n < cut → cut ≤ n + parts.flatten.length → (cut ∈ cuts ↔ cut ∈ ends n parts)) :
    ∃ raw k, parts.flatMap (decodeFrom none) = raw ++ List.replicate k replacementCharacter ∧
      Lossy cuts n (within parts.flatten.length text) raw ∧
      (size (within parts.flatten.length text) = parts.flatten.length → k = 0) := by
  induction text generalizing parts n with
  | nil =>
    have empty : parts.flatten = [] := List.prefix_nil.mp part_of
    exact ⟨[],0,decode_empty empty,.nil,fun _ => rfl⟩
  | cons c text ih =>
    rcases bytes : parts.flatten with - | ⟨b,rest⟩
    · refine ⟨[],0,decode_empty bytes,?_,fun _ => rfl⟩
      rw [List.length_nil,within_zero]
      exact .nil
    obtain ⟨part,later,rfl,decoded,cuts'⟩ := first_byte bytes n
    have encoded : (String.utf8EncodeChar c).length = c.utf8Size := String.length_utf8EncodeChar c
    have total : parts.flatten.length = (b :: part).length + later.flatten.length := by rw [bytes,← List.cons_append,List.length_append]
    rw [encode_cons,bytes,← List.cons_append] at part_of
    rw [← bytes,total]
    rw [total] at same
    by_cases long : c.utf8Size ≤ (b :: part).length
    · -- the character is in one part
      obtain ⟨part',shape⟩ : String.utf8EncodeChar c <+: b :: part :=
        List.prefix_of_prefix_length_le (List.prefix_append _ _) ((List.prefix_append _ _).trans part_of) (by omega)
      have sizes := congrArg List.length shape
      rw [List.length_append] at sizes
      rw [← shape,List.append_assoc,List.prefix_append_right_inj] at part_of
      obtain ⟨raw,k,decoded',lossy,exact_⟩ := @ih (part' :: later) part_of (n + c.utf8Size) fun cut low high => by
        rw [List.flatten_cons,List.length_append] at high
        rw [same cut (by omega) (by omega),cuts' cut (by omega),ends,ends,show n + c.utf8Size + part'.length = n + (b :: part).length by omega]
      have left : (part' :: later).flatten.length = (b :: part).length + later.flatten.length - c.utf8Size := by
        rw [List.flatten_cons,List.length_append]
        omega
      rw [left] at lossy exact_
      refine ⟨c :: raw,k,?_,?_,?_⟩
      · rw [decoded,← shape,decodeFrom_utf8EncodeChar,List.cons_append,← List.flatMap_cons,decoded']
        rfl
      · rw [within_cons,if_pos (by omega)]
        refine .whole (fun cut member => ?_) lossy
        by_contra inside
        have member' := (cuts' cut (by omega)).mp ((same cut (by omega) (by omega)).mp member)
        rw [ends,List.mem_cons] at member'
        rcases member' with here | behind
        · omega
        · have least := ends_least behind
          omega
      · rw [within_cons,if_pos (by omega),size_cons]
        intro whole
        exact exact_ (by omega)
    · obtain ⟨inside,shape⟩ : b :: part <+: String.utf8EncodeChar c :=
        List.prefix_of_prefix_length_le ((List.prefix_append _ _).trans part_of) (List.prefix_append _ _) (by omega)
      have sizes := congrArg List.length shape
      rw [List.length_append,encoded] at sizes
      have unfinished : inside ≠ [] := by
        rintro rfl
        rw [List.length_nil] at sizes
        omega
      have all : ∀ d ∈ inside, isContinuation d = true := by
        obtain ⟨first,rest,shape',-,continues⟩ := utf8EncodeChar_starts c
        rw [shape',List.cons_append,List.cons.injEq] at shape
        intro d member
        exact continues d (by rw [← shape.2]; exact List.mem_append_right _ member)
      have first := decodeFrom_part shape.symm (List.cons_ne_nil b part) unfinished
      have cut : ¬ Uncut cuts n c := by
        intro all
        have member : n + (b :: part).length ∈ cuts := by
          have low : n < n + (b :: part).length := by simp
          rw [same _ low (by omega),cuts' _ low,ends]
          exact List.mem_cons_self
        have more := List.length_pos_iff.mpr unfinished
        rcases all _ member with early | late
        · rw [List.length_cons] at early
          omega
        · omega
      rw [← shape,List.append_assoc,List.prefix_append_right_inj] at part_of
      by_cases beyond : inside.length ≤ later.flatten.length
      · -- the rest of the character is in later parts
        obtain ⟨rest,shape'⟩ : inside <+: later.flatten :=
          List.prefix_of_prefix_length_le (List.prefix_append _ _) part_of beyond
        obtain ⟨later',same',decoded',cuts''⟩ := drop_inside all shape'.symm (n + (b :: part).length)
        rw [← shape',List.prefix_append_right_inj,← same'] at part_of
        have sizes' := congrArg List.length shape'
        rw [List.length_append,← same'] at sizes'
        obtain ⟨raw,k,decoded'',lossy,exact_⟩ := @ih later' part_of (n + c.utf8Size) fun cut low high => by
          rw [same cut (by omega) (by omega),cuts' cut (by omega),ends,List.mem_cons,
            show n + c.utf8Size = n + (b :: part).length + inside.length by omega,← cuts'' cut (by omega)]
          exact ⟨fun member => member.resolve_left (by omega),.inr⟩
        have left : later'.flatten.length = (b :: part).length + later.flatten.length - c.utf8Size := by omega
        rw [left] at lossy exact_
        refine ⟨List.replicate (1 + inside.length) replacementCharacter ++ raw,k,?_,?_,?_⟩
        · rw [decoded,first,decoded',decoded'',List.replicate_add]
          simp
        · rw [within_cons,if_pos (by omega)]
          exact .cut _ cut lossy
        · rw [within_cons,if_pos (by omega),size_cons]
          intro whole
          exact exact_ (by omega)
      · have short : later.flatten <+: inside := List.prefix_of_prefix_length_le part_of (List.prefix_append _ _) (by omega)
        obtain ⟨later',same',decoded',-⟩ := drop_inside (fun d member => all d (short.subset member)) (List.append_nil _).symm
          (n + (b :: part).length)
        refine ⟨[],1 + later.flatten.length,?_,?_,?_⟩
        · rw [decoded,first,decoded',decode_empty same',List.replicate_add]
          simp
        · rw [within_cons,if_neg (by omega)]
          exact .nil
        · rw [within_cons,if_neg (by omega),size_nil,List.length_cons]
          intro whole
          omega

end Decoding

end Sctl.CutCharacters
