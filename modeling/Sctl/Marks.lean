import Mathlib.Data.List.Basic
import Mathlib.Data.Nat.Basic

/-!
The greatest number that a reader has come across, as a fold over what it reads.
-/
namespace Sctl.Marks

/-- The mark is not below where it was, nor below anything that was read. -/
theorem le_foldl_max (seqs : List Nat) (first : Nat) : first ≤ seqs.foldl max first ∧ ∀ n ∈ seqs, n ≤ seqs.foldl max first := by
  induction seqs generalizing first with
  | nil => simp
  | cons n rest ih =>
    obtain ⟨least,all⟩ := ih (max first n)
    refine ⟨Nat.le_trans (Nat.le_max_left first n) least,fun m member => ?_⟩
    rcases List.mem_cons.mp member with rfl | later
    · exact Nat.le_trans (Nat.le_max_right first m) least
    · exact all m later

theorem foldl_max_le {seqs : List Nat} {first most : Nat} (least : first ≤ most) (all : ∀ n ∈ seqs, n ≤ most) :
    seqs.foldl max first ≤ most := by
  induction seqs generalizing first with
  | nil => exact least
  | cons n rest ih =>
    exact ih (Nat.max_le.mpr ⟨least,all n List.mem_cons_self⟩) fun m member => all m (List.mem_cons_of_mem n member)

theorem foldl_max_lt {seqs : List Nat} {first bound : Nat} (least : first < bound) (all : ∀ n ∈ seqs, n < bound) :
    seqs.foldl max first < bound := by
  have most := @foldl_max_le seqs first (bound - 1) (by omega) fun n member => Nat.le_sub_one_of_lt (all n member)
  omega

theorem foldl_max_eq (seqs : List Nat) (first : Nat) : seqs.foldl max first = max first (seqs.foldl max 0) := by
  induction seqs generalizing first with
  | nil => simp
  | cons n rest ih => rw [List.foldl_cons,List.foldl_cons,ih (max first n),ih (max 0 n)]; omega

end Sctl.Marks
