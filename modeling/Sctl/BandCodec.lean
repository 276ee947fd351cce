import Sctl.LtePrograms

/-!
What `bands_to_hex` writes and `parse_band_config` reads is one set of bands: the
reply to `AT+QCFG="band"` is read from the first line that names the setting, whose
third part is the mask.
-/
namespace Sctl.BandCodec
open Texts LteBands LteShared LtePrograms Dialogues

/-- The line `+QCFG: "band",<gsm>,0x<mask>,<tds>` of a reply. -/
def bandLine (gsm : List Char) (bands : List Nat) (tds : List Char) : List Char :=
  "+QCFG".toList ++ ':' :: (" \"band\"".toList ++ ',' :: (gsm ++ ',' :: ("0x".toList ++ bandsToHex bands ++ ',' :: tds)))

/-- A line from which the bands would be read. -/
def namesBand (line : List Char) : Bool := contains line "+QCFG:".toList && contains line "band".toList

/-- A field of the line: it holds neither of the characters at which the line is split. -/
def IsField (text : List Char) : Prop := ',' ∉ text ∧ ':' ∉ text

/-- The distinct bands of the mask, in increasing order. -/
def IsSet (bands found : List Nat) : Prop :=
  found.Pairwise (· < ·) ∧ ∀ band, band ∈ found ↔ band ∈ bands ∧ InMask band

/-! ### The mask as text -/

theorem toDigit_of_read {radix limit value n : Nat} {text : List Char} (read : readDigits radix limit value text = some n) :
    ∀ c ∈ text, toDigit radix c ≠ none := by
  induction text generalizing value with
  | nil => exact List.forall_mem_nil _
  | cons c text ih =>
    rw [readDigits,Option.bind_eq_some_iff] at read
    obtain ⟨digit,here,later⟩ := read
    split at later
    · refine List.forall_mem_cons.mpr ⟨?_,ih later⟩
      rw [here]
      exact Option.some_ne_none digit
    · cases later

/-- A text of hexadecimal digits holds none of the characters at which the line is split or trimmed. -/
theorem not_mem_upperHex {mask : Nat} {c : Char} (other : toDigit 16 c = none) : c ∉ upperHex mask :=
  fun member => toDigit_of_read (readDigits_upperHex (Nat.lt_succ_self mask)) c member other

theorem isWhitespace_digit16 {c : Char} (digit : toDigit 16 c ≠ none) : isWhitespace c = false := by
  have code : 48 ≤ c.toNat ∧ c.toNat ≤ 57 ∨ 97 ≤ c.toNat ∧ c.toNat ≤ 122 ∨ 65 ≤ c.toNat ∧ c.toNat ≤ 90 := by
    by_contra outside
    have zero : '0'.toNat = 48 ∧ '9'.toNat = 57 ∧ 'a'.toNat = 97 ∧ 'z'.toNat = 122 ∧ 'A'.toNat = 65 ∧ 'Z'.toNat = 90 := by decide
    have value : (if '0'.toNat ≤ c.toNat ∧ c.toNat ≤ '9'.toNat then c.toNat - '0'.toNat
        else if 'a'.toNat ≤ c.toNat ∧ c.toNat ≤ 'z'.toNat then c.toNat - 'a'.toNat + 10
        else if 'A'.toNat ≤ c.toNat ∧ c.toNat ≤ 'Z'.toNat then c.toNat - 'A'.toNat + 10 else 16) = 16 := by
      rw [if_neg (by omega),if_neg (by omega),if_neg (by omega)]
    refine digit ?_
    simp only [toDigit]
    rw [value]
    exact if_neg (Nat.lt_irrefl 16)
  simp only [isWhitespace,List.contains_eq_mem,List.mem_cons,List.not_mem_nil,or_false]
  simp only [Bool.or_eq_false_iff,Bool.and_eq_false_imp,decide_eq_true_eq,decide_eq_false_iff_not]
  omega

/-- A mark that stands in front once is taken off. -/
theorem trimStartMatches_once {mark text : List Char} (some_ : mark ≠ []) (apart : mark.isPrefixOf text = false) :
    trimStartMatches mark (mark ++ text) = text ∧ trimStartMatches mark text = text := by
  have rest : ∀ n, trimStartMatches.go mark n text = text := by
    intro n
    cases n with
    | zero => rfl
    | succ n => rw [trimStartMatches.go,apart,if_neg Bool.false_ne_true]
  refine ⟨?_,rest _⟩
  obtain ⟨c,mark,rfl⟩ := List.exists_cons_of_ne_nil some_
  have begins : (c :: mark).isPrefixOf (c :: mark ++ text) = true := by simp
  rw [trimStartMatches,List.cons_append,List.length_cons,trimStartMatches.go,← List.cons_append,begins,if_pos rfl,List.drop_left]
  exact rest _

/-- What is written of a mask is read back as the mask. -/
theorem mask_read {mask : Nat} (small : mask < 2 ^ 128) :
    fromStrRadix 16 (2 ^ 128) (trimStartMatches "0X".toList (trimStartMatches "0x".toList
      (trimMatches '"' (trim ("0x".toList ++ upperHex mask))))) = some mask := by
  have plain : ∀ c ∈ "0x".toList ++ upperHex mask, isWhitespace c = false := by
    intro c member
    rcases List.mem_append.mp member with lead | digit
    · exact (show ∀ c ∈ "0x".toList, isWhitespace c = false from forall_of_all (by decide)) c lead
    · exact isWhitespace_digit16 (toDigit_of_read (readDigits_upperHex (Nat.lt_succ_self mask)) c digit)
  have unquoted : ∀ c ∈ "0x".toList ++ upperHex mask, (c == '"') = false := by
    intro c member
    rcases List.mem_append.mp member with lead | digit
    · exact (show ∀ c ∈ "0x".toList, (c == '"') = false from forall_of_all (by decide)) c lead
    · exact beq_eq_false_iff_ne.mpr fun same => not_mem_upperHex (by decide) (same ▸ digit)
  have apart : ∀ {mark : List Char} {x : Char}, x ∈ mark → toDigit 16 x = none → mark.isPrefixOf (upperHex mask) = false := by
    intro mark x member other
    rw [← Bool.not_eq_true,List.isPrefixOf_iff_prefix]
    exact fun begins => not_mem_upperHex other (begins.subset member)
  have lower := trimStartMatches_once (show "0x".toList ≠ [] by decide) (apart (show 'x' ∈ "0x".toList by decide) (by decide))
  have upper := trimStartMatches_once (show "0X".toList ≠ [] by decide) (apart (show 'X' ∈ "0X".toList by decide) (by decide))
  rw [trim,trimBy_eq_self plain,trimMatches,trimBy_eq_self unquoted,lower.1,upper.2,fromStrRadix_upperHex small]

theorem bandMask_lt (bands : List Nat) : bandMask bands < 2 ^ 128 := by
  refine Nat.lt_pow_two_of_testBit _ fun bit large => ?_
  rw [testBit_bandMask,decide_eq_false_iff_not]
  exact fun held => absurd held.1 (Nat.not_lt.mpr large)

/-! ### The line -/

theorem namesBand_bandLine {gsm tds : List Char} {bands : List Nat} : namesBand (bandLine gsm bands tds) = true := by
  rw [namesBand,Bool.and_eq_true,contains_iff,contains_iff,bandLine]
  constructor
  · rw [List.append_cons,← show "+QCFG:".toList = "+QCFG".toList ++ [':'] by decide]
    exact (List.prefix_append _ _).isInfix
  · refine List.IsInfix.trans ?_ ((List.suffix_cons _ _).trans (List.suffix_append _ _)).isInfix
    refine List.IsInfix.trans ?_ (List.prefix_append _ _).isInfix
    exact ⟨[' ','"'],['"'],by decide⟩

/-- The third part of the line, once it is split. -/
theorem third_part {gsm tds : List Char} {bands : List Nat} (first : IsField gsm) (last : IsField tds) :
    ∃ data, ((bandLine gsm bands tds).splitOn ':')[1]? = some data ∧
      (data.splitOn ',')[2]? = some ("0x".toList ++ bandsToHex bands) := by
  have free : ∀ c, toDigit 16 c = none → c ∉ bandsToHex bands := fun c => not_mem_upperHex
  have digits : ∀ c, toDigit 16 c = none → c ∉ "0x".toList → c ∉ "0x".toList ++ bandsToHex bands := by
    intro c other lead member
    exact (List.mem_append.mp member).elim lead (free c other)
  have whole : ':' ∉ " \"band\"".toList ++ ',' :: (gsm ++ ',' :: ("0x".toList ++ bandsToHex bands ++ ',' :: tds)) := by
    intro member
    rcases List.mem_append.mp member with lead | member
    · exact absurd lead (by decide)
    rcases List.mem_append.mp (List.mem_of_ne_of_mem (by decide) member) with field | member
    · exact first.2 field
    rcases List.mem_append.mp (List.mem_of_ne_of_mem (by decide) member) with mask | member
    · exact digits ':' (by decide) (by decide) mask
    · exact last.2 (List.mem_of_ne_of_mem (by decide) member)
  refine ⟨" \"band\"".toList ++ ',' :: (gsm ++ ',' :: ("0x".toList ++ bandsToHex bands ++ ',' :: tds)),?_,?_⟩
  · rw [bandLine,List.splitOn_append_cons_self_of_not_mem (by decide),List.splitOn_eq_singleton whole]
    rfl
  · rw [List.splitOn_append_cons_self_of_not_mem (by decide),List.splitOn_append_cons_self_of_not_mem first.1,
      List.splitOn_append_cons_self_of_not_mem (digits ',' (by decide) (by decide))]
    rfl

/-- The bands of a reply are those of its first line that names the setting. -/
theorem parse_bandLine {response gsm tds : List Char} {bands : List Nat} {earlier later : List (List Char)}
    (shape : lines response = earlier ++ bandLine gsm bands tds :: later) (others : ∀ line ∈ earlier, namesBand line = false)
    (first : IsField gsm) (last : IsField tds) : parseBandConfig response = maskBands (bandMask bands) := by
  have found : (lines response).find? namesBand = some (bandLine gsm bands tds) := by
    rw [shape,List.find?_append,List.find?_eq_none.mpr fun line member => by rw [others line member]; exact Bool.false_ne_true,
      Option.none_or,List.find?_cons,namesBand_bandLine]
  obtain ⟨data,split,part⟩ := @third_part gsm tds bands first last
  unfold parseBandConfig
  rw [show (fun line => contains line "+QCFG:".toList && contains line "band".toList) = namesBand from rfl,found]
  simp only [Option.bind_eq_bind,Option.bind_some,split,List.getElem?_map,part,Option.map_some]
  rw [bandsToHex,mask_read (bandMask_lt bands)]
  rfl

theorem isSet_maskBands (bands : List Nat) : IsSet bands (maskBands (bandMask bands)) := by
  refine ⟨?_,fun band => ?_⟩
  · have ordered := (List.pairwise_lt_range (n := 128)).filter (bandMask bands).testBit
    exact ordered.map _ fun _ _ less => Nat.succ_lt_succ less
  · rw [mem_maskBands,testBit_bandMask,decide_eq_true_iff]
    constructor
    · rintro ⟨inside,-,member⟩
      have same : band - 1 + 1 = band := Nat.sub_add_cancel inside.1
      rw [same] at member
      exact ⟨member,inside⟩
    · rintro ⟨member,inside⟩
      have same : band - 1 + 1 = band := Nat.sub_add_cancel inside.1
      exact ⟨inside,by have := inside.2; omega,by rw [same]; exact member⟩

/-- The masks of two lists are one exactly when the lists ask for the same bands. -/
theorem bandsToHex_eq_iff {stored asked : List Nat} :
    bandsToHex stored = bandsToHex asked ↔ ∀ band, InMask band → (band ∈ stored ↔ band ∈ asked) := by
  have bits : ∀ {bands : List Nat} {band : Nat}, InMask band → ((bandMask bands).testBit (band - 1) = true ↔ band ∈ bands) := by
    intro bands band inside
    rw [testBit_bandMask,decide_eq_true_iff,Nat.sub_add_cancel inside.1]
    exact and_iff_right (by have := inside.2; have := inside.1; omega)
  constructor
  · intro same band inside
    rw [← bits inside,← bits inside,upperHex_injective same]
  · intro same
    refine congrArg upperHex (Nat.eq_of_testBit_eq fun bit => ?_)
    rw [testBit_bandMask,testBit_bandMask]
    exact decide_eq_decide.mpr (and_congr_right fun small => same (bit + 1) ⟨by omega,by omega⟩)

/-! ### The read-back -/

/-- The reply to the last read of the bands. -/
def readBack (turns : List LteTurn) : Option (List Char) :=
  (turns.filterMap fun turn => match turn with
    | ⟨.command .readBands,answer⟩ => some answer.value
    | _ => none).getLast?.join

theorem ends_require {α : Type} {sent : Command} {rest : List Char → Lte (Option α)} {turns : List LteTurn} {value : Option α} :
    (require sent rest).Ends turns value ↔ ∃ answer later, turns = ⟨.command sent,answer⟩ :: later ∧
      (answer.value = none ∧ later = [] ∧ value = none ∨
        ∃ response, answer.value = some response ∧ (rest response).Ends later value) := by
  rw [require,command,ends_question]
  refine exists_congr fun answer => exists_congr fun later => and_congr_right fun _ => ?_
  cases answer.value with
  | none => simp [Dialogue.ends_done,eq_comm]
  | some response => simp

/-- A run of `verified_set_bands` succeeds exactly when its last read-back has the mask that was asked for. -/
theorem verified_iff {asked : List Nat} {turns : List LteTurn} {value : Option VerifiedSetResult} {response : List Char}
    (ended : (verifiedSetBands asked).Ends turns value) (last : readBack turns = some response) :
    value.isSome = true ↔ bandsToHex (parseBandConfig response) = bandsToHex asked := by
  obtain ⟨write,turns,rfl,⟨-,rfl,-⟩ | ⟨accepted,-,ended⟩⟩ := ends_require.mp ended
  · cases last
  obtain ⟨pause,turns,rfl,ended⟩ := ends_question.mp ended
  obtain ⟨read,turns,rfl,⟨failed,rfl,-⟩ | ⟨found,answered,ended⟩⟩ := ends_require.mp ended
  · rw [readBack,List.filterMap_cons] at last
    simp [failed] at last
  split at ended
  · next same =>
    obtain ⟨rfl,rfl⟩ := Dialogue.ends_done.mp ended
    have reply : found = response := by simpa [readBack,answered] using last
    exact iff_of_true rfl (reply ▸ same)
  · next other =>
    -- once more, deregistered
    obtain ⟨gone,turns,rfl,ended⟩ := Dialogue.ends_ask.mp ended
    obtain ⟨pause',turns,rfl,ended⟩ := ends_question.mp ended
    obtain ⟨write',turns,rfl,⟨-,rfl,rfl⟩ | ⟨accepted',-,ended⟩⟩ := ends_require.mp ended
    · have reply : found = response := by simpa [readBack,answered] using last
      exact iff_of_false Bool.false_ne_true (reply ▸ other)
    obtain ⟨read',turns,rfl,⟨failed,rfl,-⟩ | ⟨again,answered',ended⟩⟩ := ends_require.mp ended
    · simp [readBack,failed] at last
    split at ended
    · next same =>
      obtain ⟨rfl,rfl⟩ := Dialogue.ends_done.mp ended
      have reply : again = response := by simpa [readBack,answered'] using last
      exact iff_of_true rfl (reply ▸ same)
    · next differs =>
      obtain ⟨back,turns,rfl,ended⟩ := Dialogue.ends_ask.mp ended
      obtain ⟨rfl,rfl⟩ := Dialogue.ends_done.mp ended
      have reply : again = response := by simpa [readBack,answered'] using last
      exact iff_of_false Bool.false_ne_true (reply ▸ differs)

/-- The bands of a reply are the distinct bands of the mask that was written, and the read-back
    of `verified_set_bands` succeeds exactly when the modem stored what was asked for. -/
theorem band_codec (response gsm tds : List Char) (bands : List Nat) (earlier later : List (List Char))
    (shape : lines response = earlier ++ bandLine gsm bands tds :: later) (others : ∀ line ∈ earlier, namesBand line = false)
    (first : IsField gsm) (last : IsField tds) :
    IsSet bands (parseBandConfig response) ∧ ∀ (asked : List Nat) (turns : List LteTurn) (value : Option VerifiedSetResult),
      (verifiedSetBands asked).Ends turns value → readBack turns = some response →
      (value.isSome = true ↔ ∀ band, InMask band → (band ∈ bands ↔ band ∈ asked)) := by
  have found := parse_bandLine shape others first last
  refine ⟨by rw [found]; exact isSet_maskBands bands,fun asked turns value ended read => ?_⟩
  have set := isSet_maskBands bands
  rw [verified_iff ended read,found,bandsToHex_eq_iff]
  refine forall_congr' fun band => imp_congr_right fun inside => ?_
  rw [set.2 band,and_iff_left inside]

/-- A reply of a modem that stored the band 4, as `AT+QCFG="band"` is answered. -/
def storedFour : List Char := "+QCFG: \"band\",0x260,0x8,0x0\r\nOK\r\n".toList

theorem band_codec_four : IsSet [4,4,200] (parseBandConfig storedFour) :=
  (band_codec storedFour "0x260".toList "0x0".toList [4,4,200] [] ["OK".toList] (by decide +kernel) (List.forall_mem_nil _)
    ⟨by decide,by decide⟩ ⟨by decide,by decide⟩).1

/-- The line of another setting in front, whose name begins alike, is read in its place. -/
theorem priority_read_for_bands : ¬ ∀ (response gsm tds : List Char) (bands : List Nat), bandLine gsm bands tds ∈ lines response →
    IsField gsm → IsField tds → IsSet bands (parseBandConfig response) := by
  intro claim
  have set := claim "+QCFG: \"bandpri\",4\r\n+QCFG: \"band\",0x260,0x8,0x0\r\nOK\r\n".toList "0x260".toList "0x0".toList [4]
    (by decide +kernel) ⟨by decide,by decide⟩ ⟨by decide,by decide⟩
  have four : 4 ∈ parseBandConfig "+QCFG: \"bandpri\",4\r\n+QCFG: \"band\",0x260,0x8,0x0\r\nOK\r\n".toList :=
    (set.2 4).mpr ⟨by decide,by decide⟩
  exact absurd four (by decide +kernel)

end Sctl.BandCodec
