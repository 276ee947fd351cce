import Mathlib.Data.List.AList
import Mathlib.Algebra.Group.Nat.Defs

/-!
Finite tables with unique keys, as a hash map is used: look a key up, insert,
update in place, remove, visit every value, keep some of the entries and count
the values with a property. Mathlib's `AList` carries the uniqueness of the
keys; what is added here is the rest of that interface. Tasks that are numbered
in the order in which they start are a list; one of them moves on in place.
-/
namespace Sctl

/-- A finite map; `AList` keeps its keys distinct. -/
abbrev Table (Key Value : Type) := AList fun _ : Key => Value

namespace Table
variable {Key Value Image : Type}

/-- Every value rewritten, the keys kept. -/
def mapValues (f : Value → Image) (t : Table Key Value) : Table Key Image where
  entries := t.entries.map fun e => ⟨e.1,f e.2⟩
  nodupKeys := by
    have distinct := t.nodupKeys
    simpa [List.NodupKeys,List.keys,Function.comp_def] using distinct

/-- The entries whose key and value pass the test. -/
def keep (p : Key → Value → Bool) (t : Table Key Value) : Table Key Value where
  entries := t.entries.filter fun e => p e.1 e.2
  nodupKeys := t.nodupKeys.sublist (List.filter_sublist)

/-- How many values pass the test. -/
def count (p : Value → Bool) (t : Table Key Value) : Nat := t.entries.countP fun e => p e.2

theorem count_mapValues_le {t : Table Key Value} {p : Value → Bool} {f : Value → Value}
    (fewer : ∀ v, p (f v) = true → p v = true) : count p (mapValues f t) ≤ count p t := by
  simp only [count,mapValues,List.countP_map]
  exact List.countP_mono_left fun e _ holds => fewer e.2 holds

theorem count_keep_le (t : Table Key Value) (p : Value → Bool) (q : Key → Value → Bool) :
    count p (keep q t) ≤ count p t :=
  List.Sublist.countP_le List.filter_sublist

variable [DecidableEq Key]

/-- The value at a key rewritten in place; nothing happens without one. -/
def modify (k : Key) (f : Value → Value) (t : Table Key Value) : Table Key Value :=
  match t.lookup k with
  | some v => t.insert k (f v)
  | none => t

theorem lookup_eq_some_iff {t : Table Key Value} {k : Key} {v : Value} :
    t.lookup k = some v ↔ (⟨k,v⟩ : Σ _ : Key, Value) ∈ t.entries :=
  AList.mem_lookup_iff

theorem lookup_insert_eq (t : Table Key Value) (k k' : Key) (v : Value) :
    (t.insert k v).lookup k' = if k' = k then some v else t.lookup k' := by
  by_cases same : k' = k
  · subst same; simp
  · simp [same,AList.lookup_insert_ne same]

theorem lookup_erase_eq (t : Table Key Value) (k k' : Key) :
    (t.erase k).lookup k' = if k' = k then none else t.lookup k' := by
  by_cases same : k' = k
  · subst same; simp
  · simp [same,AList.lookup_erase_ne same]

theorem lookup_modify (t : Table Key Value) (k k' : Key) (f : Value → Value) :
    (modify k f t).lookup k' = if k' = k then (t.lookup k).map f else t.lookup k' := by
  unfold modify
  cases found : t.lookup k with
  | none =>
    by_cases same : k' = k
    · subst same; simp [found]
    · simp [same]
  | some v => rw [lookup_insert_eq]; simp

theorem lookup_mapValues (t : Table Key Value) (k : Key) (f : Value → Image) :
    (mapValues f t).lookup k = (t.lookup k).map f := by
  ext v
  rw [lookup_eq_some_iff,Option.map_eq_some_iff]
  simp only [mapValues,List.mem_map]
  constructor
  · rintro ⟨⟨k',w⟩,member,same⟩
    cases same
    exact ⟨w,lookup_eq_some_iff.mpr member,rfl⟩
  · rintro ⟨w,found,rfl⟩
    exact ⟨⟨k,w⟩,lookup_eq_some_iff.mp found,rfl⟩

theorem lookup_keep_iff {t : Table Key Value} {k : Key} {v : Value} {p : Key → Value → Bool} :
    (keep p t).lookup k = some v ↔ t.lookup k = some v ∧ p k v = true := by
  rw [lookup_eq_some_iff,lookup_eq_some_iff]
  simp [keep,List.mem_filter]

theorem lookup_keep (t : Table Key Value) (k : Key) (p : Key → Value → Bool) :
    (keep p t).lookup k = (t.lookup k).filter (p k) := by
  ext v
  rw [lookup_keep_iff,Option.filter_eq_some_iff]

/-! ### Counting -/

/-- A value counts for itself and the rest of the table for the rest. -/
theorem count_lookup {t : Table Key Value} {k : Key} {v : Value} (p : Value → Bool) (found : t.lookup k = some v) :
    count p t = (if p v then 1 else 0) + count p (t.erase k) := by
  have present : k ∈ t.entries.keys := AList.lookup_isSome.mp (by rw [found]; rfl)
  obtain ⟨w,left,right,_,whole,erased⟩ := List.exists_of_kerase present
  have here : w = v := by
    have member : (⟨k,w⟩ : Σ _ : Key, Value) ∈ t.entries := by rw [whole]; simp
    exact Option.some.inj ((lookup_eq_some_iff.mpr member).symm.trans found)
  subst here
  have rest : (t.erase k).entries = left ++ right := erased
  simp only [count,rest,whole,List.countP_append,List.countP_cons]
  omega

theorem count_insert_new {t : Table Key Value} {k : Key} {v : Value} (p : Value → Bool)
    (missing : t.lookup k = none) : count p (t.insert k v) = count p t + if p v then 1 else 0 := by
  rw [count,AList.entries_insert_of_notMem (AList.lookup_eq_none.mp missing),List.countP_cons]
  rfl

theorem count_modify {t : Table Key Value} {k : Key} {v : Value} (p : Value → Bool) (f : Value → Value)
    (found : t.lookup k = some v) :
    count p (modify k f t) + (if p v then 1 else 0) = count p t + if p (f v) then 1 else 0 := by
  have before := count_lookup p found
  have after : count p (modify k f t) = (if p (f v) then 1 else 0) + count p (t.erase k) := by
    have rest : (t.erase k).entries = List.kerase k t.entries := rfl
    simp only [modify,found,count,AList.entries_insert,List.countP_cons,rest]
    exact Nat.add_comm _ _
  omega

theorem count_eq_zero_iff {t : Table Key Value} {p : Value → Bool} :
    count p t = 0 ↔ ∀ k v, t.lookup k = some v → p v = false := by
  simp only [count,List.countP_eq_zero]
  constructor
  · intro none k v found
    simpa using none _ (lookup_eq_some_iff.mp found)
  · rintro none ⟨k,v⟩ member
    simpa using none k v (lookup_eq_some_iff.mpr member)

/-- A pair that a list finds at a key is in the list. -/
theorem mem_of_lookup {pairs : List (Key × Value)} {k : Key} {v : Value} (found : pairs.lookup k = some v) :
    (k,v) ∈ pairs := by
  obtain ⟨before,after,split,-⟩ := List.lookup_eq_some_iff.mp found
  rw [split]
  simp

theorem modify_missing {t : Table Key Value} {k : Key} (f : Value → Value) (missing : t.lookup k = none) :
    modify k f t = t := by
  simp [modify,missing]

/-! ### What every value of a table has -/

def All (P : Value → Prop) (t : Table Key Value) : Prop := ∀ k v, t.lookup k = some v → P v

variable {P : Value → Prop} {t : Table Key Value}

theorem all_empty : All P (∅ : Table Key Value) := by
  intro k v found
  rw [AList.lookup_empty] at found
  cases found

theorem all_insert {k : Key} {v : Value} (all : All P t) (holds : P v) : All P (t.insert k v) := by
  intro k' w found
  rw [lookup_insert_eq] at found
  split at found
  · cases found
    exact holds
  · exact all k' w found

theorem all_modify {k : Key} {f : Value → Value} (all : All P t) (keeps : ∀ v, P v → P (f v)) : All P (modify k f t) := by
  intro k' w found
  rw [lookup_modify] at found
  split at found
  · obtain ⟨v,here,rfl⟩ := Option.map_eq_some_iff.mp found
    exact keeps v (all k v here)
  · exact all k' w found

theorem all_mapValues {f : Value → Value} (all : All P t) (keeps : ∀ v, P v → P (f v)) : All P (mapValues f t) := by
  intro k w found
  rw [lookup_mapValues] at found
  obtain ⟨v,here,rfl⟩ := Option.map_eq_some_iff.mp found
  exact keeps v (all k v here)

theorem all_keep {p : Key → Value → Bool} (all : All P t) : All P (keep p t) :=
  fun k v found => all k v (lookup_keep_iff.mp found).1

theorem all_erase {k : Key} (all : All P t) : All P (t.erase k) := by
  intro k' v found
  rw [lookup_erase_eq] at found
  split at found
  · cases found
  · exact all k' v found

end Table

namespace Tasks
variable {Task : Type} {tasks : List Task} {n : Nat} {a : Task}

theorem getElem?_set_eq (found : tasks[n]? = some a) (b : Task) (m : Nat) :
    (tasks.set n b)[m]? = if m = n then some b else tasks[m]? := by
  have bound := (List.getElem?_eq_some_iff.mp found).1
  rw [List.getElem?_set]
  by_cases same : m = n
  · subst same; simp [bound]
  · simp [same,Ne.symm same]

/-- The tasks before and after the one that moves on. -/
theorem set_split (found : tasks[n]? = some a) (b : Task) :
    ∃ before after, tasks = before ++ a :: after ∧ tasks.take n = before ∧ tasks.set n b = before ++ b :: after := by
  obtain ⟨bound,here⟩ := List.getElem?_eq_some_iff.mp found
  obtain ⟨before,after,whole,length,set⟩ := List.exists_of_set bound
  rw [here] at whole
  exact ⟨before,after,whole,by rw [whole,← length]; simp,set⟩

end Tasks
end Sctl
