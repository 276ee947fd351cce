import Mathlib.Data.List.Basic
import Mathlib.Data.List.Infix

/-!
Searching a text from its end, and where a text can occur: the last occurrence of
a text, and occurrences of a text that lacks a symbol in texts that have it.
-/
namespace Sctl.LastOccurrence

variable {Symbol : Type}

/-! ### Where a text occurs -/

section Occurrences
variable {sought before after first second : List Symbol} {c : Symbol}

/-- A text without a symbol occurs on one side of it. -/
theorem occurs_apart (free : c ∉ sought) (whole : first ++ c :: second = before ++ sought ++ after) :
    (∃ more, first = before ++ sought ++ more ∧ after = more ++ c :: second) ∨
      ∃ more, before = first ++ c :: more ∧ second = more ++ sought ++ after := by
  rw [List.append_assoc,List.append_eq_append_iff] at whole
  rcases whole with ⟨more,behind,rest⟩ | ⟨more,within,rest⟩
  · cases more with
    | nil =>
      cases sought with
      | nil =>
        rw [List.append_nil] at behind
        exact .inl ⟨[],by rw [behind]; simp,by simpa using rest.symm⟩
      | cons d sought =>
        cases (List.cons.inj rest).1
        exact absurd List.mem_cons_self free
    | cons d more =>
      obtain ⟨same,tail⟩ := List.cons.inj rest
      subst same
      exact .inr ⟨more,behind,by rw [tail,List.append_assoc]; rfl⟩
  · rw [List.append_eq_append_iff] at rest
    rcases rest with ⟨more',inside,tail⟩ | ⟨more',inside,tail⟩
    · exact .inl ⟨more',by rw [within,inside,List.append_assoc],tail⟩
    · cases more' with
      | nil =>
        rw [List.append_nil] at inside
        exact .inl ⟨[],by rw [within,inside]; simp,by simpa using tail.symm⟩
      | cons d more' =>
        cases (List.cons.inj tail).1
        exact absurd (by rw [inside]; simp) free

theorem not_occurs (member : c ∈ sought) (missing : c ∉ first) : first ≠ before ++ sought ++ after := by
  rintro rfl
  exact missing (by simp [member])

end Occurrences

/-! ### The last occurrence -/

section Last
variable [DecidableEq Symbol] {sought : List Symbol}

/-- The text in front of the last `sought` and the text behind it. -/
def splitLast (sought : List Symbol) : List Symbol → Option (List Symbol × List Symbol)
  | [] => if sought = [] then some ([],[]) else none
  | c :: rest =>
    match splitLast sought rest with
    | some (before,after) => some (c :: before,after)
    | none => if sought.isPrefixOf (c :: rest) then some ([],(c :: rest).drop sought.length) else none

/-- No occurrence starts behind this one. -/
def IsLast (sought text before : List Symbol) : Prop := ∀ front back, text = front ++ sought ++ back → front.length ≤ before.length

theorem splitLast_eq_none {text : List Symbol} (missing : splitLast sought text = none) : ¬ sought <:+: text := by
  induction text with
  | nil =>
    rw [splitLast] at missing
    split_ifs at missing with some_
    simpa using some_
  | cons c rest ih =>
    rw [splitLast] at missing
    cases later : splitLast sought rest with
    | some pair => rw [later] at missing; cases missing
    | none =>
      rw [later] at missing
      dsimp only at missing
      split_ifs at missing with here
      rw [List.isPrefixOf_iff_prefix] at here
      intro inside
      exact (List.infix_cons_iff.mp inside).elim here (ih later)

theorem splitLast_eq_some {text before after : List Symbol} (found : splitLast sought text = some (before,after)) :
    text = before ++ sought ++ after ∧ IsLast sought text before := by
  induction text generalizing before after with
  | nil =>
    rw [splitLast] at found
    split_ifs at found with empty
    cases found
    subst empty
    refine ⟨rfl,fun front back whole => ?_⟩
    have none_ : front = [] := (List.append_eq_nil_iff.mp (List.append_eq_nil_iff.mp whole.symm).1).1
    rw [none_]
  | cons c rest ih =>
    rw [splitLast] at found
    cases later : splitLast sought rest with
    | some pair =>
      rw [later] at found
      cases found
      obtain ⟨whole,last⟩ := ih later
      refine ⟨by rw [whole]; simp,fun front back split => ?_⟩
      cases front with
      | nil => exact Nat.zero_le _
      | cons d front => exact Nat.succ_le_succ (last front back (List.cons.inj split).2)
    | none =>
      rw [later] at found
      dsimp only at found
      split_ifs at found with here
      cases found
      rw [List.isPrefixOf_iff_prefix] at here
      refine ⟨by rw [List.nil_append,List.prefix_iff_eq_append.mp here],fun front back split => ?_⟩
      cases front with
      | nil => exact Nat.le_refl _
      | cons d front =>
        have inside : sought <:+: rest := ⟨front,back,(List.cons.inj split).2.symm⟩
        exact absurd inside (splitLast_eq_none later)

/-- An occurrence behind which no other starts is the one that is found. -/
theorem splitLast_of_last {before after : List Symbol} (last : IsLast sought (before ++ sought ++ after) before) :
    splitLast sought (before ++ sought ++ after) = some (before,after) := by
  cases found : splitLast sought (before ++ sought ++ after) with
  | none => exact absurd ⟨before,after,rfl⟩ (splitLast_eq_none found)
  | some pair =>
    obtain ⟨before',after'⟩ := pair
    obtain ⟨whole,last'⟩ := splitLast_eq_some found
    have length : before.length = before'.length :=
      Nat.le_antisymm (last' before after rfl) (last before' after' whole)
    rw [List.append_assoc,List.append_assoc] at whole
    obtain ⟨rfl,tail⟩ := List.append_inj whole length
    rw [List.append_cancel_left tail]

end Last
end Sctl.LastOccurrence
