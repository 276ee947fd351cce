import Mathlib.Data.List.Flatten
import Mathlib.Data.List.Nodup
import Mathlib.Data.List.Pairwise
import Mathlib.Data.List.Perm.Basic

/-!
Pairs of keys, as an object holds them that maps the first key of each to the second and a
value: one pair for a first key, in the order in which they were added. A key is a member of
the pairs that it is the first or the second of; while the members are distinct, it is a
member of one pair at most.
-/
namespace Sctl.Pairings
variable {Key Value : Type}

structure Pair (Key Value : Type) where
  first : Key
  second : Key
  value : Value
deriving DecidableEq

def Pair.keys (e : Pair Key Value) : List Key := [e.first,e.second]

/-- Both keys of every pair. -/
def members (es : List (Pair Key Value)) : List Key := es.flatMap Pair.keys

@[simp] theorem members_nil : members ([] : List (Pair Key Value)) = [] := rfl

@[simp] theorem members_cons (e : Pair Key Value) (es : List (Pair Key Value)) :
    members (e :: es) = e.first :: e.second :: members es := rfl

theorem mem_members {es : List (Pair Key Value)} {k : Key} : k ∈ members es ↔ ∃ e ∈ es, k = e.first ∨ k = e.second := by
  simp [members,Pair.keys]

theorem first_mem {es : List (Pair Key Value)} {e : Pair Key Value} (member : e ∈ es) : e.first ∈ members es :=
  mem_members.mpr ⟨e,member,.inl rfl⟩

theorem second_mem {es : List (Pair Key Value)} {e : Pair Key Value} (member : e ∈ es) : e.second ∈ members es :=
  mem_members.mpr ⟨e,member,.inr rfl⟩

/-- While the members are distinct, no two pairs share a key. -/
theorem pair_unique {es : List (Pair Key Value)} (distinct : (members es).Nodup) {e e' : Pair Key Value} (member : e ∈ es)
    (member' : e' ∈ es) {k : Key} (of : k = e.first ∨ k = e.second) (of' : k = e'.first ∨ k = e'.second) : e = e' := by
  by_contra differ
  obtain ⟨_,apart⟩ := List.nodup_flatMap.mp distinct
  have : Std.Symm (fun e e' : Pair Key Value => List.Disjoint e.keys e'.keys) := ⟨fun _ _ apart k inside inside' => apart inside' inside⟩
  have disjoint : List.Disjoint e.keys e'.keys := apart.forall member member' differ
  have inside : k ∈ e.keys := by simpa [Pair.keys] using of
  have inside' : k ∈ e'.keys := by simpa [Pair.keys] using of'
  exact disjoint inside inside'

theorem keys_apart {es : List (Pair Key Value)} (distinct : (members es).Nodup) {e : Pair Key Value} (member : e ∈ es) :
    e.first ≠ e.second := by
  have own := (List.nodup_flatMap.mp distinct).1 e member
  simpa [Pair.keys] using own

variable [DecidableEq Key]

/-- The pair with the first key. -/
def lookup (k : Key) (es : List (Pair Key Value)) : Option (Pair Key Value) := es.find? fun e => e.first = k

/-- The pair that the key is a member of, one that it is the first of if there is one. -/
def pairOf (k : Key) (es : List (Pair Key Value)) : Option (Pair Key Value) :=
  (lookup k es).or (es.find? fun e => e.second = k)

/-- The pair put in the place of the one with its first key, or else added. -/
def set (e : Pair Key Value) : List (Pair Key Value) → List (Pair Key Value)
  | [] => [e]
  | x :: rest => if x.first = e.first then e :: rest else x :: set e rest

def erase (k : Key) (es : List (Pair Key Value)) : List (Pair Key Value) := es.filter fun e => e.first ≠ k

theorem lookup_some {k : Key} {es : List (Pair Key Value)} {e : Pair Key Value} (found : lookup k es = some e) :
    e ∈ es ∧ e.first = k :=
  ⟨List.mem_of_find?_eq_some found,by simpa using List.find?_some found⟩

theorem pairOf_some {k : Key} {es : List (Pair Key Value)} {e : Pair Key Value} (found : pairOf k es = some e) :
    e ∈ es ∧ (k = e.first ∨ k = e.second) := by
  rcases Option.or_eq_some_iff.mp found with first | ⟨_,second⟩
  · exact ⟨(lookup_some first).1,.inl (lookup_some first).2.symm⟩
  · refine ⟨List.mem_of_find?_eq_some second,.inr ?_⟩
    have same := List.find?_some second
    simpa using (of_decide_eq_true same).symm

theorem pairOf_isSome {k : Key} {es : List (Pair Key Value)} {e : Pair Key Value} (member : e ∈ es)
    (of : k = e.first ∨ k = e.second) : (pairOf k es).isSome := by
  rw [pairOf,Option.isSome_or,lookup,Bool.or_eq_true,List.find?_isSome,List.find?_isSome]
  rcases of with first | second
  · exact .inl ⟨e,member,by simp [first]⟩
  · exact .inr ⟨e,member,by simp [second]⟩

/-- While the members are distinct, a key's pair is the one that it is a member of. -/
theorem pairOf_eq {k : Key} {es : List (Pair Key Value)} (distinct : (members es).Nodup) {e : Pair Key Value} (member : e ∈ es)
    (of : k = e.first ∨ k = e.second) : pairOf k es = some e := by
  obtain ⟨e',found⟩ := Option.isSome_iff_exists.mp (pairOf_isSome member of)
  obtain ⟨member',of'⟩ := pairOf_some found
  rw [found,pair_unique distinct member member' of of']

theorem members_erase (k : Key) (es : List (Pair Key Value)) : (members (erase k es)).Sublist (members es) :=
  List.filter_sublist.flatMap _

theorem mem_erase {k : Key} {es : List (Pair Key Value)} {e : Pair Key Value} : e ∈ erase k es ↔ e ∈ es ∧ e.first ≠ k := by
  simp [erase]

theorem set_perm {e : Pair Key Value} {es : List (Pair Key Value)} (distinct : (members es).Nodup) :
    (set e es).Perm (e :: erase e.first es) := by
  induction es with
  | nil => exact .refl _
  | cons x rest ih =>
    obtain ⟨outside,_,distinct⟩ : x.first ∉ x.second :: members rest ∧ x.second ∉ members rest ∧ (members rest).Nodup := by
      simpa using distinct
    by_cases same : x.first = e.first
    · have whole : erase e.first (x :: rest) = rest := by
        rw [erase,List.filter_cons_of_neg (by simp [same]),List.filter_eq_self.mpr]
        intro other member
        refine decide_eq_true fun at_ => outside (List.mem_cons_of_mem _ ?_)
        exact mem_members.mpr ⟨other,member,.inl (same.trans at_.symm)⟩
      rw [set,if_pos same,whole]
    · have kept : erase e.first (x :: rest) = x :: erase e.first rest := List.filter_cons_of_pos (by simp [same])
      rw [set,if_neg same,kept]
      exact ((ih distinct).cons x).trans (.swap ..)

theorem members_set {e : Pair Key Value} {es : List (Pair Key Value)} (distinct : (members es).Nodup) :
    (members (set e es)).Perm (e.first :: e.second :: members (erase e.first es)) :=
  (set_perm distinct).flatMap_right Pair.keys

/-- A pair that is set keeps the members distinct exactly when its keys are two and in no other pair. -/
theorem members_set_nodup {e : Pair Key Value} {es : List (Pair Key Value)} (distinct : (members es).Nodup) :
    (members (set e es)).Nodup ↔
      e.first ≠ e.second ∧ e.first ∉ members (erase e.first es) ∧ e.second ∉ members (erase e.first es) := by
  rw [(members_set distinct).nodup_iff,List.nodup_cons,List.nodup_cons,List.mem_cons,not_or]
  have kept := distinct.sublist (members_erase e.first es)
  constructor
  · rintro ⟨⟨apart,free⟩,free',_⟩
    exact ⟨apart,free,free'⟩
  · rintro ⟨apart,free,free'⟩
    exact ⟨⟨apart,free⟩,free',kept⟩

/-- The members left are those of the other pairs. -/
theorem mem_members_erase {k j : Key} {es : List (Pair Key Value)} :
    j ∈ members (erase k es) ↔ ∃ e ∈ es, e.first ≠ k ∧ (j = e.first ∨ j = e.second) := by
  simp only [mem_members,mem_erase,and_assoc]

end Sctl.Pairings
