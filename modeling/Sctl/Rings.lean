import Mathlib.Data.List.DropRight
import Mathlib.Data.List.Nodup
import Sctl.Tables

/-!
Rings: lists of bounded size that forget their first item when another one comes
and there is no room. After any number of pushes the last items are there, and
one even where there is room for none. An index beside the ring, from the keys of
the items to the items, forgets a key together with its item; while the keys
differ it finds exactly what the ring holds.
-/
namespace Sctl.Rings
universe u v
variable {α : Type u} {size : Nat}

/-- The items without the first, if they fill the ring. -/
def kept (size : Nat) (held : List α) : List α := if size ≤ held.length then held.tail else held

def push (size : Nat) (held : List α) (x : α) : List α := kept size held ++ [x]

/-- What the ring holds of all that was pushed. -/
def latest (size : Nat) (pushed : List α) : List α := pushed.rtake (max 1 size)

theorem latest_suffix (pushed : List α) : latest size pushed <:+ pushed := List.drop_suffix _ _

theorem latest_length (pushed : List α) : (latest size pushed).length = min pushed.length (max 1 size) := by
  simp only [latest,List.rtake,List.length_drop]
  omega

theorem latest_nil : latest size ([] : List α) = [] := by simp [latest]

/-- A ring that is full forgets its first item, where it has room for one. -/
theorem kept_latest (pushed : List α) (x : α) : kept size (latest size pushed) ++ [x] = latest size (pushed ++ [x]) := by
  have length : (latest size pushed).length = min pushed.length (max 1 size) := latest_length pushed
  unfold kept
  by_cases full : size ≤ (latest size pushed).length
  · rw [if_pos full]
    by_cases empty : pushed = []
    · subst empty
      have none_ : 1 - max 1 size = 0 := by omega
      simp [latest,List.rtake,none_]
    · have some_ : 0 < pushed.length := List.length_pos_iff.mpr empty
      have room : (latest size pushed).length = max 1 size := by omega
      simp only [latest,List.rtake,List.tail_drop,List.length_append,List.length_singleton]
      rw [← List.drop_append_of_le_length (by omega)]
      congr 1
      omega
  · rw [if_neg full]
    have whole : latest size pushed = pushed := by
      refine (latest_suffix pushed).eq_of_length ?_
      omega
    rw [whole]
    refine ((latest_suffix (pushed ++ [x])).eq_of_length ?_).symm
    rw [latest_length,List.length_append]
    rw [whole] at full
    simp only [List.length_singleton]
    omega

theorem push_latest (pushed : List α) (x : α) : push size (latest size pushed) x = latest size (pushed ++ [x]) :=
  kept_latest pushed x

/-- An item is held as long as fewer items than the size came after it. -/
theorem mem_latest_of_few {earlier later : List α} {x : α} (few : later.length < max 1 size) :
    x ∈ latest size (earlier ++ x :: later) := by
  have split : (earlier ++ x :: later).length - max 1 size ≤ earlier.length := by
    rw [List.length_append,List.length_cons]
    omega
  rw [latest,List.rtake,List.drop_append_of_le_length split]
  simp

theorem latest_map {β : Type v} (f : α → β) (pushed : List α) : latest size (pushed.map f) = (latest size pushed).map f := by
  simp [latest,List.rtake,List.map_drop]

/-! ### An index beside a ring -/

section
variable {Key Item : Type} [DecidableEq Key] (key : Item → Key)

/-- The keys in the order in which their items came, and the items by their keys. -/
structure Index (Key Item : Type) where
  order : List Key
  map : Table Key Item

/-- An item is stored; the first one goes if there is no room. -/
def Index.store (size : Nat) (index : Index Key Item) (x : Item) : Index Key Item where
  order := kept size index.order ++ [key x]
  map := (if size ≤ index.order.length then index.order.head?.elim index.map index.map.erase else index.map).insert (key x) x

def Index.empty : Index Key Item := ⟨[],∅⟩

/-- The index finds what a ring of the size would hold. -/
structure Exact (size : Nat) (index : Index Key Item) (stored : List Item) : Prop where
  order : index.order = latest size (stored.map key)
  map : ∀ k x, index.map.lookup k = some x ↔ x ∈ latest size stored ∧ key x = k

variable {key} {index : Index Key Item} {stored : List Item}

theorem exact_empty : Exact key size Index.empty [] where
  order := latest_nil.symm
  map k x := by simp [Index.empty,latest_nil]

omit [DecidableEq Key] in
/-- The items that stay are those that the map keeps. -/
theorem mem_kept (distinct : (stored.map key).Nodup) (x : Item) :
    x ∈ kept size (latest size stored) ↔ x ∈ latest size stored ∧
      (size ≤ (latest size stored).length → ∀ first ∈ (latest size stored).head?, key x ≠ key first) := by
  have held : ((latest size stored).map key).Nodup := by
    rw [← latest_map]
    exact distinct.sublist (latest_suffix _).sublist
  unfold kept
  cases whole : latest size stored with
  | nil => simp
  | cons first rest =>
    rw [whole,List.map_cons,List.nodup_cons] at held
    by_cases full : size ≤ (first :: rest).length
    · rw [if_pos full]
      constructor
      · intro member
        refine ⟨List.mem_cons_of_mem first member,fun _ other here same => ?_⟩
        obtain rfl : first = other := Option.some.inj here
        exact held.1 (same ▸ List.mem_map_of_mem member)
      · rintro ⟨member,differ⟩
        rcases List.mem_cons.mp member with rfl | later
        · exact absurd rfl (differ full x rfl)
        · exact later
    · rw [if_neg full]
      exact ⟨fun member => ⟨member,fun other => absurd other full⟩,And.left⟩

/-- Storing an item under a new key keeps the index exact. -/
theorem Exact.store (exact_ : Exact key size index stored) (distinct : (stored.map key).Nodup) {x : Item}
    (new : key x ∉ stored.map key) : Exact key size (index.store key size x) (stored ++ [x]) where
  order := by
    simp only [Index.store,exact_.order,kept_latest,List.map_append,List.map_cons,List.map_nil]
  map := by
    intro k y
    have order := exact_.order
    rw [latest_map] at order
    rw [← push_latest,push,List.mem_append,List.mem_singleton,mem_kept distinct]
    simp only [Index.store,Table.lookup_insert_eq]
    by_cases here : k = key x
    · rw [if_pos here,Option.some_inj]
      constructor
      · rintro rfl
        exact ⟨.inr rfl,here.symm⟩
      · rintro ⟨⟨member,_⟩ | rfl,same⟩
        · exact absurd (List.mem_map_of_mem ((latest_suffix stored).subset member)) (same ▸ here ▸ new)
        · rfl
    · rw [if_neg here]
      have other : key y = k → y ≠ x := fun same equal => here (same ▸ congrArg key equal)
      have length : index.order.length = (latest size stored).length := by rw [order,List.length_map]
      have head : index.order.head? = (latest size stored).head?.map key := by rw [order,List.head?_map]
      rw [length,head]
      by_cases full : size ≤ (latest size stored).length
      · rw [if_pos full]
        cases first : (latest size stored).head? with
        | none =>
          rw [Option.map_none,Option.elim_none,exact_.map k y]
          simp only [reduceCtorEq,false_implies,implies_true,and_true,Option.mem_def]
          tauto
        | some oldest =>
          rw [Option.map_some,Option.elim_some,Table.lookup_erase_eq]
          by_cases gone : k = key oldest
          · rw [if_pos gone]
            simp only [reduceCtorEq,false_iff]
            rintro ⟨⟨_,differ⟩ | same,equal⟩
            · exact differ full oldest rfl (equal.trans gone)
            · exact other equal same
          · rw [if_neg gone,exact_.map k y]
            constructor
            · rintro ⟨member,same⟩
              refine ⟨.inl ⟨member,fun _ first' is equal => ?_⟩,same⟩
              obtain rfl : oldest = first' := Option.some.inj is
              exact gone (same.symm.trans equal)
            · rintro ⟨⟨member,_⟩ | same,equal⟩
              · exact ⟨member,equal⟩
              · exact absurd same (other equal)
      · rw [if_neg full,exact_.map k y]
        tauto

end

end Sctl.Rings
