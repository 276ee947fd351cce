import Sctl.AtResponses

/-!
A modem's reply in reads. The response is the reply's lines, whatever the reads, only
if no line looks final before the final one is there and no character of a line that
is kept is cut; the log shows it only if its byte 80 begins a character.
-/
namespace Sctl.AtReads
open Sctl.AtResponses Sctl.CutCharacters Sctl.Texts Sctl.Utf8

/-! ### Final results -/

/-- A final result begins with another letter than the echo of a command. -/
theorem final_letter {line : Text} (final : IsFinalResult line) : ∃ c, line.find? Char.isAlpha = some c ∧ c ≠ 'A' := by
  cases final with
  | ok => exact ⟨'O',by decide,by decide⟩
  | error => exact ⟨'E',by decide,by decide⟩
  | cme text => exact ⟨'C',by simp,by decide⟩
  | cms text => exact ⟨'C',by simp,by decide⟩

theorem echoes_letter {line : Text} (echoed : Echoes line) : line.find? Char.isAlpha = some 'A' := by
  obtain ⟨before,after,rfl,letters⟩ := echoed
  have none_ : before.find? Char.isAlpha = none := List.find?_eq_none.mpr fun c member => by simp [letters c member]
  rw [List.find?_append,none_]
  rfl

theorem keepsLine_final {line : Text} (final : IsFinalResult line) : keepsLine line = true := by
  obtain ⟨c,first,other⟩ := final_letter final
  refine keepsLine_iff.mpr ⟨⟨c,List.mem_of_find?_eq_some first,?_⟩,fun echoed => ?_⟩
  · by_contra white
    have letter := List.find?_some first
    rw [isAlpha_of_isWhitespace (Bool.not_eq_false _ ▸ white)] at letter
    cases letter
  · rw [echoes_letter echoed] at first
    exact other (Option.some.inj first).symm

theorem keepsLine_nil : keepsLine [] = false := by decide

theorem filter_last (part : Text) : (last part).filter keepsLine = [part].filter keepsLine := by
  rw [last]
  split_ifs with empty
  · rw [empty,List.filter_cons,keepsLine_nil]
    rfl
  · rfl

/-- Lines that are kept and joined read back. -/
theorem kept_joined {texts : List Text} (oneLine : ∀ line ∈ texts, '\n' ∉ line) :
    lines (['\r','\n'].intercalate (texts.filter keepsLine)) = texts.filter keepsLine := by
  refine lines_joined (fun line member => oneLine line (List.mem_of_mem_filter member)) fun line member empty => ?_
  have kept := (List.mem_filter.mp member).2
  rw [empty,keepsLine_nil] at kept
  cases kept

/-! ### The part of a reply that is read -/

section Part
variable {cuts : List Nat}

/-- The lines that are read in full and the part of the next one. -/
theorem within_sent (n : Nat) (texts : List Text) (short : n < size (sent texts)) :
    ∃ full line rest, texts = full ++ line :: rest ∧ size (sent full) ≤ n ∧ n < size (sent full) + size (line ++ ['\r','\n']) ∧
      within n (sent texts) = sent full ++ within (n - size (sent full)) (line ++ ['\r','\n']) := by
  induction texts generalizing n with
  | nil => exact absurd short (Nat.not_lt_zero n)
  | cons line texts ih =>
    rw [sent_cons,← List.append_assoc,size_append] at short
    rw [sent_cons,← List.append_assoc]
    by_cases full : size (line ++ ['\r','\n']) ≤ n
    · obtain ⟨full',line',rest,rfl,low,high,got⟩ := ih (n - size (line ++ ['\r','\n'])) (by omega)
      refine ⟨line :: full',line',rest,rfl,?_,?_,?_⟩
      · rw [sent_cons,← List.append_assoc,size_append]
        omega
      · rw [sent_cons,← List.append_assoc,@size_append (line ++ ['\r','\n']) (sent full')]
        omega
      · have parted := within_append (line ++ ['\r','\n']) (sent (full' ++ line' :: rest)) (n - size (line ++ ['\r','\n']))
        rw [show size (line ++ ['\r','\n']) + (n - size (line ++ ['\r','\n'])) = n by omega] at parted
        rw [parted,got,sent_cons,← List.append_assoc line,@size_append (line ++ ['\r','\n']) (sent full'),Nat.sub_sub,
          List.append_assoc (line ++ ['\r','\n'])]
    · refine ⟨[],line,texts,rfl,Nat.zero_le n,?_,?_⟩
      · rw [show size (sent []) = 0 from rfl]
        omega
      · rw [within_first (by omega)]
        rfl

/-- The part of a line that is not read in full is without its line feed. -/
theorem within_line {n : Nat} {line : Text} (short : n < size (line ++ ['\r','\n'])) :
    within n (line ++ ['\r','\n']) <+: line ++ ['\r'] := by
  have part := within_prefix n (line ++ ['\r','\n'])
  have most := size_within n (line ++ ['\r','\n'])
  rw [show line ++ ['\r','\n'] = line ++ ['\r'] ++ ['\n'] by simp] at part most short ⊢
  rcases List.prefix_concat_iff.mp part with whole | inside
  · rw [whole] at most
    omega
  · exact inside

theorem arrivedLines_append (n : Nat) (first second : List Text) :
    arrivedLines cuts n (first ++ second) = arrivedLines cuts n first ++ arrivedLines cuts (n + size (sent first)) second := by
  induction first generalizing n with
  | nil => rfl
  | cons line first ih =>
    rw [List.cons_append,arrivedLines,arrivedLines,ih,sent_cons,size_append,size_append,size_lineEnd,
      show n + (size line + (2 + size (sent first))) = n + size line + 2 + size (sent first) by omega]
    rfl

theorem arrivedLines_oneLine {texts : List Text} (oneLine : ∀ line ∈ texts, '\n' ∉ line) (n : Nat) :
    ∀ line ∈ arrivedLines cuts n texts, '\n' ∉ line := by
  induction texts generalizing n with
  | nil => exact List.forall_mem_nil _
  | cons line texts ih =>
    refine List.forall_mem_cons.mpr ⟨fun member => ?_,ih (fun other member => oneLine other (List.mem_cons_of_mem line member)) _⟩
    exact oneLine line List.mem_cons_self ((arrives_sublist n line).subset member)

/-- The lines of what is received. -/
theorem lines_received {full : List Text} {part : Text} (oneLine : ∀ line ∈ full, '\n' ∉ line) (oneLine' : '\n' ∉ part) :
    lines (arrives cuts 0 (sent full ++ part)) = arrivedLines cuts 0 full ++ last (arrives cuts (size (sent full)) part) := by
  rw [arrives_append,arrives_sent,Nat.zero_add]
  exact lines_sent (arrivedLines_oneLine oneLine 0) fun member => oneLine' ((arrives_sublist _ part).subset member)

variable {r : Reply}

theorem Reply_oneLine (r : Reply) : ∀ line ∈ r.lines, '\n' ∉ line := fun line member => (r.oneLine line member).2

theorem kept_lines (r : Reply) : r.lines.filter keepsLine = r.infos.filter keepsLine ++ [r.final] := by
  rw [Reply.lines,List.filter_append,List.filter_cons,keepsLine_final r.isFinal]
  rfl

theorem size_sent_lines (r : Reply) : size (sent r.lines) = r.finalEnd + 2 := by
  rw [Reply.lines,sent_append,sent_cons,size_append,size_append,size_append,size_lineEnd,Reply.finalEnd]
  exact (Nat.add_assoc _ _ _).symm

/-- A part of a line that is not kept is no final result. -/
theorem part_not_final {n : Nat} {line part final : Text} (dropped : keepsLine line = false) (begins : part <+: line ++ ['\r'])
    (isFinal : IsFinalResult final) : arrives cuts n part ≠ final := by
  intro same
  obtain ⟨c,first,other⟩ := final_letter isFinal
  obtain ⟨d,member,dark⟩ := (keepsLine_iff.mp (keepsLine_final isFinal)).1
  rw [← same,arrives_letter] at first
  rw [← Bool.not_eq_true,keepsLine_iff,not_and_not_right] at dropped
  have inside : d ∈ line := by
    rw [← same] at member
    have there := begins.subset ((arrives_sublist n part).subset member)
    rcases List.mem_append.mp there with here | back
    · exact here
    · rw [List.mem_singleton.mp back] at dark
      exact absurd dark (by decide)
  have letter := echoes_letter (dropped ⟨d,inside,dark⟩)
  obtain ⟨more,whole⟩ := begins
  have both := congrArg (List.find? Char.isAlpha) whole
  rw [List.find?_append,List.find?_append,first,letter] at both
  exact other (Option.some.inj both)

/-- The lines in front of a line of the reply: some of the information lines, or all of
    them when that is the final one. -/
theorem lines_front {full rest : List Text} {line : Text} (shape : r.lines = full ++ line :: rest) :
    (full = r.infos ∧ line = r.final) ∨ ∃ rest', r.infos = full ++ line :: rest' := by
  rcases List.eq_nil_or_concat rest with rfl | ⟨rest',f,rfl⟩
  · obtain ⟨same,final⟩ := List.append_inj' shape rfl
    exact .inl ⟨same.symm,(List.cons.inj final).1.symm⟩
  · have shape' : r.infos ++ [r.final] = (full ++ line :: rest') ++ [f] := by rw [← Reply.lines,shape]; simp
    exact .inr ⟨rest',(List.append_inj' shape' rfl).1⟩

/-- The final line cut short, or with its carriage return, does not arrive as it is. -/
theorem final_cut (r : Reply) {m : Nat} (early : m < size r.final ∨ m = size r.final + 1) (n : Nat) :
    arrives cuts n (within m (r.final ++ ['\r','\n'])) ≠ r.final := by
  intro same
  rcases early with short | return_
  · rw [within_first short] at same
    obtain ⟨c,rest,whole⟩ := within_short short
    have most := (@arrives_sublist cuts n (within m r.final)).length_le
    rw [same,whole,List.length_append,List.length_cons,← whole] at most
    omega
  · rw [return_,within_append,arrives_append,show within 1 ['\r','\n'] = ['\r'] by decide,
      arrives_ascii (show ∀ c ∈ ['\r'], c.utf8Size = 1 from forall_of_all (by decide))] at same
    refine (r.oneLine r.final (by simp)).1 ?_
    rw [← same]
    exact List.mem_append_right _ (by decide)

/-- What is received before the final line is there, or with its carriage return alone, is not the answer. -/
theorem spoiled (r : Reply) {n : Nat} (early : n < r.finalEnd ∨ n = r.finalEnd + 1) :
    stripEcho (arrives cuts 0 (within n (sent r.lines))) ≠ r.answer := by
  intro same
  have total := size_sent_lines r
  obtain ⟨full,line,rest,shape,low,high,got⟩ := within_sent n r.lines (by omega)
  have oneLine := Reply_oneLine r
  rw [shape] at oneLine
  have begins := within_line (show n - size (sent full) < size (line ++ ['\r','\n']) by omega)
  have clear : '\n' ∉ within (n - size (sent full)) (line ++ ['\r','\n']) := by
    intro member
    have there := begins.subset member
    have inside := oneLine line (by simp)
    simp [inside] at there
  have oneLine' : ∀ other ∈ full, '\n' ∉ other := fun other member => oneLine other (List.mem_append_left _ member)
  rw [got,stripEcho,lines_received oneLine' clear] at same
  have lists := congrArg lines same
  rw [Reply.answer,kept_joined (Reply_oneLine r),kept_joined ?_,List.filter_append,filter_last,kept_lines] at lists
  · have count := @kept_arrived_le cuts 0 full
    have sizes := congrArg List.length lists
    rw [List.length_append,List.length_append] at sizes
    rcases lines_front shape with ⟨rfl,rfl⟩ | ⟨rest',infos⟩
    · -- the part is of the final line
      have kept : ([arrives cuts (size (sent r.infos)) (within (n - size (sent r.infos)) (r.final ++ ['\r','\n']))].filter
          keepsLine) = [arrives cuts (size (sent r.infos)) (within (n - size (sent r.infos)) (r.final ++ ['\r','\n']))] := by
        rw [List.filter_cons] at sizes ⊢
        split_ifs at sizes ⊢ with arrived
        · rfl
        · simp at sizes
          omega
      rw [kept] at lists
      have final := (List.cons.inj (List.append_inj' lists rfl).2).1
      rw [Reply.finalEnd] at early
      exact final_cut r (by omega) _ final
    · rw [infos,List.filter_append,List.length_append] at sizes
      cases kept : keepsLine line with
      | true =>
        -- the final line is one more
        have one := List.length_filter_le keepsLine [arrives cuts (size (sent full)) (within (n - size (sent full)) (line ++ ['\r','\n']))]
        rw [List.filter_cons_of_pos kept] at sizes
        simp only [List.length_cons,List.length_nil] at sizes one
        omega
      | false =>
        have final : arrives cuts (size (sent full)) (within (n - size (sent full)) (line ++ ['\r','\n'])) = r.final := by
          rw [List.filter_cons] at lists sizes
          split_ifs at lists sizes with arrived
          · exact (List.cons.inj (List.append_inj' lists rfl).2).1
          · simp at sizes
            omega
        exact part_not_final kept begins r.isFinal final
  · intro other member
    rcases List.mem_append.mp member with front | back
    · exact arrivedLines_oneLine oneLine' 0 other front
    · rw [last] at back
      split_ifs at back with empty
      · cases back
      · rw [List.mem_singleton.mp back]
        exact fun newline => clear ((arrives_sublist _ _).subset newline)

/-- What is received with the final line whole is the answer exactly when each line that
    is kept arrives as it is. -/
theorem answer_iff (r : Reply) {n : Nat} (whole : n = r.finalEnd ∨ n = r.finalEnd + 2) :
    stripEcho (arrives cuts 0 (within n (sent r.lines))) = r.answer ↔
      ∀ first line rest, r.lines = first ++ line :: rest → keepsLine line = true → arrives cuts (size (sent first)) line = line := by
  have oneLine := Reply_oneLine r
  have received : (lines (arrives cuts 0 (within n (sent r.lines)))).filter keepsLine = (arrivedLines cuts 0 r.lines).filter keepsLine := by
    rcases whole with rfl | rfl
    · have parted : within r.finalEnd (sent r.lines) = sent r.infos ++ r.final := by
        have all := within_append (sent r.infos ++ r.final) ['\r','\n'] 0
        rw [within_zero,List.append_nil,Nat.add_zero,size_append,← Reply.finalEnd] at all
        rw [← all,Reply.lines,sent_append,sent_cons,List.append_assoc]
        rfl
      rw [parted,lines_received (fun line member => oneLine line (List.mem_append_left _ member)) (oneLine r.final (by simp [Reply.lines])),
        List.filter_append,filter_last,Reply.lines,arrivedLines_append,List.filter_append,Nat.zero_add]
      rfl
    · rw [within_enough (Nat.le_of_eq (size_sent_lines r))]
      have all := @lines_received cuts r.lines [] oneLine List.not_mem_nil
      rw [List.append_nil] at all
      rw [all]
      simp [arrives,uncut,sanitizeResponse,last]
  have iff := @kept_arrived_iff cuts 0 r.lines
  simp only [Nat.zero_add] at iff
  rw [stripEcho,received,Reply.answer,← iff]
  constructor
  · intro same
    have lists := congrArg lines same
    rwa [kept_joined (arrivedLines_oneLine oneLine 0),kept_joined oneLine] at lists
  · intro same
    rw [same]

theorem arrives_eq_self_iff {line : Text} (clear : '\r' ∉ line ∧ '\n' ∉ line) {n : Nat} :
    arrives cuts n line = line ↔ ∀ before c after, line = before ++ c :: after →
      isControl c = false ∧ c ≠ replacementCharacter ∧ Uncut cuts (n + size before) c := by
  have cleaned : sanitizeResponse line = line ↔ ∀ c ∈ line, isControl c = false ∧ c ≠ replacementCharacter := by
    rw [sanitizeResponse,List.filter_filter,List.filter_eq_self]
    refine forall₂_congr fun c member => ?_
    have noReturn : c ≠ '\r' := fun same => clear.1 (same ▸ member)
    have noFeed : c ≠ '\n' := fun same => clear.2 (same ▸ member)
    simp [noReturn,noFeed,and_comm]
  constructor
  · intro same
    have between := (sanitizeResponse_sublist (uncut cuts n line)).length_le
    rw [← arrives,same] at between
    have kept := (@uncut_sublist cuts n line).eq_of_length_le between
    rw [arrives,kept] at same
    intro before c after whole
    have printed := cleaned.mp same c (by rw [whole]; simp)
    exact ⟨printed.1,printed.2,uncut_eq_self_iff.mp kept before c after whole⟩
  · intro all
    rw [arrives,uncut_eq_self_iff.mpr fun before c after whole => (all before c after whole).2.2]
    refine cleaned.mpr fun c member => ?_
    obtain ⟨before,after,whole⟩ := List.append_of_mem member
    exact ⟨(all before c after whole).1,(all before c after whole).2.1⟩

end Part

/-! ### A final line looks final -/

theorem lines_suffix (front back : Text) : lines back <:+ lines (front ++ '\n' :: back) := by
  have general : ∀ held, linesAfter [] back <:+ linesAfter held (front ++ '\n' :: back) := by
    induction front with
    | nil =>
      intro held
      rw [List.nil_append,show linesAfter held ('\n' :: back) = endLine held :: linesAfter [] back by simp [linesAfter]]
      exact List.suffix_cons _ _
    | cons c front ih =>
      intro held
      by_cases feed : c = '\n'
      · rw [feed,show linesAfter held (('\n' :: front) ++ '\n' :: back) = endLine held :: linesAfter [] (front ++ '\n' :: back) by
          simp [linesAfter]]
        exact (ih []).trans (List.suffix_cons _ _)
      · rw [show linesAfter held ((c :: front) ++ '\n' :: back) = linesAfter (c :: held) (front ++ '\n' :: back) by
          simp [linesAfter,feed]]
        exact ih (c :: held)
  exact general []

/-- What does not begin or end with white space is still there when more is trimmed behind it. -/
theorem prefix_trim {first : Char} {middle : Text} {final : Char} (dark : isWhitespace first = false) (dark' : isWhitespace final = false)
    (behind : Text) : first :: middle ++ [final] <+: trim (first :: middle ++ [final] ++ behind) := by
  have front : (first :: middle ++ [final] ++ behind).dropWhile isWhitespace = first :: middle ++ [final] ++ behind := by
    rw [List.cons_append,List.cons_append,List.dropWhile_cons,dark]
    rfl
  rw [trim,trimBy,front,List.reverse_append,List.dropWhile_append]
  split_ifs with all
  · rw [List.reverse_append,List.reverse_singleton,List.singleton_append,List.dropWhile_cons,dark']
    simp
  · rw [List.reverse_append,List.reverse_reverse]
    exact List.prefix_append _ _

/-- A final line looks final whatever its text was decoded to, also with its carriage return. -/
theorem looksFinal_lossy {cuts : List Nat} {n : Nat} {line raw behind : Text} (final : IsFinalResult line) (lossy : Lossy cuts n line raw)
    (blank : behind = [] ∨ behind = ['\r']) : looksFinal (trim (raw ++ behind)) = true := by
  have plain : ∀ {line : Text} {raw : Text}, Lossy cuts n line raw → (∀ c ∈ line, c.utf8Size = 1) →
      looksFinal (trim (line ++ [])) = true → looksFinal (trim (line ++ ['\r'])) = true → looksFinal (trim (raw ++ behind)) = true := by
    intro line raw lossy ascii alone return_
    rw [lossy.ascii ascii]
    rcases blank with rfl | rfl
    · exact alone
    · exact return_
  cases final with
  | ok => exact plain lossy (forall_of_all (by decide)) (by decide) (by decide)
  | error => exact plain lossy (forall_of_all (by decide)) (by decide) (by decide)
  | cme text =>
    obtain ⟨front,back,rfl,whole,-⟩ := lossy.append
    rw [whole.ascii (forall_of_all (by decide))]
    have begins := @prefix_trim '+' "CME ERROR".toList ':' (by decide) (by decide) (" ".toList ++ back ++ behind)
    have shape : "+CME ERROR: ".toList ++ back ++ behind = '+' :: "CME ERROR".toList ++ [':'] ++ (" ".toList ++ back ++ behind) := by simp
    rw [← shape] at begins
    have mark : "+CME ERROR:".toList.isPrefixOf (trim ("+CME ERROR: ".toList ++ back ++ behind)) = true :=
      List.isPrefixOf_iff_prefix.mpr begins
    rw [looksFinal,mark]
    simp
  | cms text =>
    obtain ⟨front,back,rfl,whole,-⟩ := lossy.append
    rw [whole.ascii (forall_of_all (by decide))]
    have begins := @prefix_trim '+' "CMS ERROR".toList ':' (by decide) (by decide) (" ".toList ++ back ++ behind)
    have shape : "+CMS ERROR: ".toList ++ back ++ behind = '+' :: "CMS ERROR".toList ++ [':'] ++ (" ".toList ++ back ++ behind) := by simp
    rw [← shape] at begins
    have mark : "+CMS ERROR:".toList.isPrefixOf (trim ("+CMS ERROR: ".toList ++ back ++ behind)) = true :=
      List.isPrefixOf_iff_prefix.mpr begins
    rw [looksFinal,mark]
    simp

/-- When the final line is there, the response is complete. -/
theorem complete_at (r : Reply) {first : List (List UInt8)} (part_of : first.flatten <+: encode (sent r.lines))
    (late : r.finalEnd ≤ first.flatten.length) : responseIsComplete (first.flatMap (decodeFrom none)) = true := by
  have most := part_of.length_le
  rw [← size,size_sent_lines] at most
  obtain ⟨j,total⟩ := Nat.exists_eq_add_of_le late
  have parted : within first.flatten.length (sent r.lines) = sent r.infos ++ r.final ++ within j ['\r','\n'] := by
    rw [total,Reply.finalEnd,← size_append,Reply.lines,sent_append,sent_cons,← List.append_assoc,show sent [] = [] from rfl,
      List.append_nil]
    exact within_append _ _ j
  have tail : size (within j ['\r','\n']) = j ∧ ∀ c ∈ within j ['\r','\n'], c.utf8Size = 1 := by
    have three : j = 0 ∨ j = 1 ∨ j = 2 := by omega
    rcases three with rfl | rfl | rfl <;> exact ⟨by decide,forall_of_all (by decide)⟩
  obtain ⟨raw,k,decoded,lossy,exact_⟩ := @decode_parts _ _ part_of (ends 0 first) 0 fun cut _ _ => Iff.rfl
  rw [parted] at lossy exact_
  obtain rfl := exact_ (by rw [size_append,size_append,tail.1,total,Reply.finalEnd])
  obtain ⟨lead,back,rfl,lossy,plain⟩ := lossy.append
  obtain ⟨front,fin,rfl,lines_,lossy⟩ := lossy.append
  have feed : '\n' ∉ fin := by
    intro member
    rcases lossy.mem member with inside | other
    · exact (r.oneLine r.final (by simp)).2 inside
    · exact absurd other (by decide)
  rw [decoded,plain.ascii tail.2,List.replicate_zero,List.append_nil]
  have found : ∃ line ∈ lines (fin ++ within j ['\r','\n']), looksFinal (trim line) = true := by
    have looks := fun behind => @looksFinal_lossy _ _ _ _ behind r.isFinal lossy
    have some_ : ∀ behind, behind = [] ∨ behind = ['\r'] → fin ++ behind ≠ [] := by
      intro behind blank empty
      have here := looks behind blank
      rw [empty] at here
      exact absurd here (by decide)
    have three : j = 0 ∨ j = 1 ∨ j = 2 := by omega
    rcases three with rfl | rfl | rfl
    · refine ⟨fin ++ [],?_,looks [] (.inl rfl)⟩
      rw [show within 0 ['\r','\n'] = [] by decide,lines_last (by simpa using feed),last,if_neg (some_ [] (.inl rfl))]
      exact List.mem_singleton_self _
    · refine ⟨fin ++ ['\r'],?_,looks ['\r'] (.inr rfl)⟩
      rw [show within 1 ['\r','\n'] = ['\r'] by decide,lines_last (by simpa using feed),last,if_neg (some_ ['\r'] (.inr rfl))]
      exact List.mem_singleton_self _
    · refine ⟨fin,?_,by simpa using looks [] (.inl rfl)⟩
      have alone := @lines_sent [fin] [] (by simpa using feed) List.not_mem_nil
      rw [show fin ++ within 2 ['\r','\n'] = sent [fin] ++ [] by simp [sent,show within 2 ['\r','\n'] = ['\r','\n'] by decide],alone]
      exact List.mem_append_left _ (List.mem_singleton_self _)
  obtain ⟨line,member,looks⟩ := found
  rw [responseIsComplete,List.any_eq_true]
  refine ⟨line,?_,looks⟩
  rcases List.eq_nil_or_concat r.infos with none_ | ⟨infos,info,more⟩
  · rw [none_] at lines_
    cases lines_
    exact member
  · -- the lines in front end with a line feed
    rw [more,List.concat_eq_append,sent_append,show sent [info] = info ++ ['\r'] ++ ['\n'] by simp [sent],← List.append_assoc] at lines_
    obtain ⟨before,feed_,rfl,-,plain⟩ := lines_.append
    rw [plain.ascii (forall_of_all (by decide)),List.append_assoc,List.append_assoc]
    exact (lines_suffix before _).subset member

/-! ### The reading loop -/

/-- The text in which a line first looks final. -/
def settled : Text → List (List UInt8) → Option Text
  | _,[] => none
  | response,bytes :: reads =>
    if responseIsComplete (response ++ decodeFrom none bytes) then some (response ++ decodeFrom none bytes)
    else settled (response ++ decodeFrom none bytes) reads

theorem readLoop_eq {call : Call} {turns : List Turn} (works : ∀ t ∈ turns, t.Works call) {response : Text}
    (pending : responseIsComplete response = false) :
    readLoop call response turns = (settled response (readsOf turns)).map fun text => .ok (stripEcho (sanitizeResponse text)) := by
  induction turns generalizing response with
  | nil => rfl
  | cons t turns ih =>
    obtain ⟨open_,runs⟩ := works t List.mem_cons_self
    have later := fun other member => works other (List.mem_cons_of_mem t member)
    rw [readLoop,if_neg (Nat.not_le_of_lt open_)]
    cases read : t.read with
    | ok bytes fits =>
      have reads : readsOf (t :: turns) = bytes :: readsOf turns := by simp [readsOf,read]
      rw [reads,settled]
      cases complete : responseIsComplete (response ++ decodeFrom none bytes) with
      | true => simp [complete]
      | false => simpa [complete] using ih later complete
    | again =>
      have reads : readsOf (t :: turns) = readsOf turns := by simp [readsOf,read]
      rw [reads]
      simpa [pending] using ih later pending
    | failed e => exact absurd read (runs e)

/-- It is the text of the first reads whose text is complete. -/
theorem settled_some {reads : List (List UInt8)} {response text : Text} (found : settled response reads = some text) :
    ∃ first rest, reads = first ++ rest ∧ first ≠ [] ∧ text = response ++ first.flatMap (decodeFrom none) ∧ responseIsComplete text = true ∧
      ∀ first' rest', reads = first' ++ rest' → first' ≠ [] → first'.length < first.length →
        responseIsComplete (response ++ first'.flatMap (decodeFrom none)) = false := by
  induction reads generalizing response with
  | nil => cases found
  | cons bytes reads ih =>
    rw [settled] at found
    split_ifs at found with complete
    · cases found
      refine ⟨[bytes],reads,rfl,by simp,by simp,complete,fun first' rest' _ some_ short => ?_⟩
      have one := List.length_pos_iff.mpr some_
      rw [List.length_singleton] at short
      omega
    · obtain ⟨first,rest,rfl,some_,rfl,whole,before⟩ := ih found
      refine ⟨bytes :: first,rest,rfl,by simp,by simp,whole,fun first' rest' parted some_' short => ?_⟩
      rcases first' with - | ⟨bytes',first'⟩
      · exact absurd rfl some_'
      obtain ⟨rfl,parted'⟩ := List.cons.inj parted
      rw [List.flatMap_cons,← List.append_assoc]
      by_cases empty : first' = []
      · rw [empty,List.flatMap_nil,List.append_nil]
        exact Bool.not_eq_true _ ▸ complete
      · exact before first' rest' parted' empty (Nat.lt_of_succ_lt_succ short)

theorem settled_none {reads : List (List UInt8)} {response : Text} (none_ : settled response reads = none) (some_ : reads ≠ []) :
    responseIsComplete (response ++ reads.flatMap (decodeFrom none)) = false := by
  induction reads generalizing response with
  | nil => exact absurd rfl some_
  | cons bytes reads ih =>
    rw [settled] at none_
    split_ifs at none_ with complete
    rw [List.flatMap_cons,← List.append_assoc]
    by_cases empty : reads = []
    · rw [empty,List.flatMap_nil,List.append_nil]
      exact Bool.not_eq_true _ ▸ complete
    · exact ih none_ empty

/-! ### The response -/

section Response
variable {r : Reply} {reads : List (List UInt8)}

/-- What the first reads leave of the reply. -/
theorem sanitizeResponse_reads (whole : reads.flatten = encode (sent r.lines)) {first rest : List (List UInt8)}
    (parted : reads = first ++ rest) :
    sanitizeResponse (first.flatMap (decodeFrom none)) = arrives (ends 0 reads) 0 (within first.flatten.length (sent r.lines)) := by
  have part_of : first.flatten <+: encode (sent r.lines) := ⟨rest.flatten,by rw [← whole,parted,List.flatten_append]⟩
  obtain ⟨raw,k,decoded,lossy,-⟩ := @decode_parts _ _ part_of (ends 0 reads) 0 fun cut low high => by
    rw [parted]
    exact ends_early low high
  rw [decoded,sanitizeResponse_lossy lossy]

/-- Of two beginnings of the reads the one with fewer bytes has fewer reads. -/
theorem fewer_reads {first rest first' rest' : List (List UInt8)} (parted : reads = first ++ rest) (parted' : reads = first' ++ rest')
    (short : first'.flatten.length < first.flatten.length) : first'.length < first.length := by
  by_contra long
  obtain ⟨more,rfl⟩ : first <+: first' :=
    List.prefix_of_prefix_length_le ⟨rest,parted.symm⟩ ⟨rest',parted'.symm⟩ (Nat.le_of_not_lt long)
  rw [List.flatten_append,List.length_append] at short
  omega

theorem settled_answer_iff (whole : reads.flatten = encode (sent r.lines)) :
    (settled [] reads).map (fun text => stripEcho (sanitizeResponse text)) = some r.answer ↔ Harmless r reads := by
  have oneLine : ∀ {first rest : List Text} {line : Text}, r.lines = first ++ line :: rest → '\r' ∉ line ∧ '\n' ∉ line :=
    fun parted => r.oneLine _ (by rw [← Reply.lines,parted]; simp)
  have part_of : ∀ {first rest : List (List UInt8)}, reads = first ++ rest → first.flatten <+: encode (sent r.lines) :=
    fun {first rest} parted => ⟨rest.flatten,by rw [← whole,parted,List.flatten_append]⟩
  have most : ∀ {first rest : List (List UInt8)}, reads = first ++ rest → first.flatten.length ≤ r.finalEnd + 2 := by
    intro first rest parted
    have length := (part_of parted).length_le
    rwa [← size,size_sent_lines] at length
  constructor
  · intro answered
    obtain ⟨text,found,same⟩ := Option.map_eq_some_iff.mp answered
    obtain ⟨first,rest,parted,some_,rfl,complete,before⟩ := settled_some found
    rw [List.nil_append,sanitizeResponse_reads whole parted] at same
    have late : ¬ (first.flatten.length < r.finalEnd ∨ first.flatten.length = r.finalEnd + 1) := fun early => spoiled r early same
    have limit := most parted
    refine ⟨fun first' rest' parted' early => ?_,fun member => ?_,fun first' line rest' shape kept => ?_⟩
    · by_cases empty : first' = []
      · rw [empty]
        decide
      · exact before first' rest' parted' empty (fewer_reads parted parted' (by omega))
    · obtain ⟨first',rest',parted',some_',total⟩ := mem_ends member
      by_cases short : first.flatten.length < r.finalEnd + 1
      · have here : first.flatten.length = r.finalEnd := by omega
        have last_ := ends_last 0 some_
        rw [Nat.zero_add,here] at last_
        rw [parted,ends_append]
        exact List.mem_append_left _ last_
      · -- a read that ends behind the carriage return would have been the last one
        have fewer := fewer_reads parted parted' (by omega)
        have looks := complete_at r (part_of parted') (by omega)
        have waits := before first' rest' parted' some_' fewer
        rw [List.nil_append,looks] at waits
        cases waits
    · have lines_ := (answer_iff r (show _ by omega)).mp same
      exact (arrives_eq_self_iff (oneLine shape)).mp (lines_ first' line rest' shape kept)
  · intro harmless
    have all : reads = reads ++ [] := (List.append_nil _).symm
    have total : reads.flatten.length = r.finalEnd + 2 := by rw [whole,← size,size_sent_lines]
    have some_ : reads ≠ [] := by
      rintro rfl
      exact absurd total (Nat.succ_ne_zero _).symm
    rcases found : settled [] reads with - | text
    · have never := settled_none found some_
      rw [List.nil_append,complete_at r (part_of all) (by omega)] at never
      cases never
    · obtain ⟨first,rest,parted,-,rfl,complete,before⟩ := settled_some found
      have limit := most parted
      have late : r.finalEnd ≤ first.flatten.length := by
        by_contra early
        have waits := harmless.waits first rest parted (Nat.lt_of_not_le early)
        rw [List.nil_append,waits] at complete
        cases complete
      have feed : first.flatten.length ≠ r.finalEnd + 1 := by
        intro between
        have some_ : first ≠ [] := by
          rintro rfl
          exact absurd between (Nat.succ_ne_zero _).symm
        have member : r.finalEnd + 1 ∈ ends 0 reads := by
          have last_ := ends_last 0 some_
          rw [Nat.zero_add,between] at last_
          rw [parted,ends_append]
          exact List.mem_append_left _ last_
        obtain ⟨first',rest',parted',some_',total'⟩ := mem_ends (harmless.lineFeed member)
        have waits := before first' rest' parted' some_' (fewer_reads parted parted' (by omega))
        rw [List.nil_append,complete_at r (part_of parted') (by omega)] at waits
        cases waits
      rw [Option.map_some,List.nil_append,sanitizeResponse_reads whole parted]
      refine congrArg some ((answer_iff r (by omega)).mpr fun first' line rest' shape kept => ?_)
      exact (arrives_eq_self_iff (oneLine shape)).mpr (harmless.characters first' line rest' shape kept)

end Response

/-- The modem's thread answers with the lines of the reply if and only if the reads do it
    no harm, and byte 80 of the response, if it is logged, begins a character. -/
theorem at_response_iff (r : Reply) (debugging : Bool) (call : Call) (turns : List Turn) (flushed : call.flush = .ok ())
    (written : call.write = .ok ()) (works : ∀ t ∈ turns, t.Works call) (whole : (readsOf turns).flatten = encode (sent r.lines)) :
    handle debugging call turns = some (.replied (.ok r.answer)) ↔
      Harmless r (readsOf turns) ∧ (debugging = true → 80 < size r.answer → size (within 80 r.answer) = 80) := by
  have logged : (excerpt r.answer).isNone = false ↔ (80 < size r.answer → size (within 80 r.answer) = 80) := by
    rw [excerpt,sliceTo]
    split_ifs with long fits
    · simp [fits]
    · simp [long,fits]
    · simp [long]
  have ran : executeAt call turns = (settled [] (readsOf turns)).map fun text => .ok (stripEcho (sanitizeResponse text)) := by
    rw [executeAt,flushed,written]
    exact readLoop_eq works (by decide)
  rw [← settled_answer_iff whole,← logged,handle,ran,Option.map_map]
  cases settled [] (readsOf turns) with
  | none => simp
  | some text =>
    simp only [Option.map_some,Function.comp_apply,Option.some.injEq]
    constructor
    · intro replied
      split_ifs at replied with panics
      have same : stripEcho (sanitizeResponse text) = r.answer := by
        injection replied with inner
        injection inner
      rw [same] at panics
      refine ⟨same,fun debugs => ?_⟩
      rw [debugs,Bool.true_and] at panics
      exact (Bool.not_eq_true _).mp panics
    · rintro ⟨same,shown⟩
      rw [same]
      cases debugging with
      | false => rfl
      | true => simp [shown rfl]

/-! ### Replies that are cut -/

def aCall : Call := ⟨5,0,.ok (),.ok ()⟩

/-- `+CSQ: 15,99` and `OK`. -/
def signal : Reply where
  infos := ["+CSQ: 15,99".toList]
  final := "OK".toList
  oneLine := by decide +kernel
  isFinal := .ok
  others := by
    intro line member final
    rw [List.mem_singleton.mp member] at final
    cases final

def signalTurns : List Turn :=
  [⟨0,.ok (encode "+CSQ: 15,9".toList) (by decide +kernel)⟩,⟨10,.again⟩,⟨20,.ok (encode "9\r\nOK\r\n".toList) (by decide +kernel)⟩]

def refusal : Reply where
  infos := []
  final := "+CME ERROR: ".toList ++ "516".toList
  oneLine := by decide +kernel
  isFinal := .cme "516".toList
  others := List.forall_mem_nil _

def refusalTurns : List Turn :=
  [⟨0,.ok (encode "+CME ERROR: 5".toList) (by decide +kernel)⟩,⟨10,.ok (encode "16\r\n".toList) (by decide +kernel)⟩]

/-- A line of 79 bytes and a character of two. -/
def longName : Reply where
  infos := [List.replicate 79 'a' ++ ['é']]
  final := "OK".toList
  oneLine := by decide +kernel
  isFinal := .ok
  others := by
    intro line member final
    rw [List.mem_singleton.mp member] at final
    cases final

def longNameTurns : List Turn := [⟨0,.ok (encode (sent longName.lines)) (by decide +kernel)⟩]

theorem turns_work : ∀ turns ∈ [signalTurns,refusalTurns,longNameTurns], ∀ t ∈ turns, Turn.Works aCall t := by
  intro turns listed t member
  simp only [List.mem_cons,List.not_mem_nil,or_false] at listed
  rcases listed with rfl | rfl | rfl <;> simp only [signalTurns,refusalTurns,longNameTurns,List.mem_cons,List.not_mem_nil,or_false] at member
  · rcases member with rfl | rfl | rfl <;> exact ⟨by decide,fun e failed => by cases failed⟩
  · rcases member with rfl | rfl <;> exact ⟨by decide,fun e failed => by cases failed⟩
  · rw [member]
    exact ⟨by decide,fun e failed => by cases failed⟩

/-- A reply in two reads that is answered whole. -/
theorem at_response_signal :
    Harmless signal (readsOf signalTurns) ∧ (true = true → 80 < size signal.answer → size (within 80 signal.answer) = 80) :=
  (at_response_iff signal true aCall signalTurns rfl rfl (turns_work signalTurns (by simp)) (by decide +kernel)).mp (by decide +kernel)

/-- A final line cut inside its number is answered as far as it came, and the thread
    panics at a character across byte 80. -/
theorem refusal_cut :
    (∀ turns ∈ [refusalTurns,longNameTurns], ∀ t ∈ turns, Turn.Works aCall t) ∧
      (readsOf refusalTurns).flatten = encode (sent refusal.lines) ∧ refusal.answer = "+CME ERROR: 516".toList ∧
      handle true aCall refusalTurns = some (.replied (.ok "+CME ERROR: 5".toList)) ∧
      (readsOf longNameTurns).flatten = encode (sent longName.lines) ∧ handle true aCall longNameTurns = some .panicked :=
  ⟨fun turns listed => turns_work turns (List.mem_cons_of_mem _ listed),by decide +kernel⟩

end Sctl.AtReads
