import GiftExchange.SortedSet

set_option autoImplicit false

/-! # Finite maps kept in ascending order

A finite map is the list of its entries with strictly ascending keys, so two maps that answer alike are
equal and listing a map gives its entries in the order of the keys. A new value takes the place of the
one that is kept for its key. -/

namespace GiftExchange

/-- A finite map, as its entries in the order of their keys. -/
structure SortedMap (α β : Type) [Ranked α] where
  toList : List (α × β)
  ascending : toList.Pairwise fun a b => rank a.1 < rank b.1
  deriving DecidableEq

namespace SortedMap

variable {α β : Type} [Ranked α]

def empty : SortedMap α β := ⟨[], List.Pairwise.nil⟩

instance : EmptyCollection (SortedMap α β) := ⟨empty⟩

instance : Inhabited (SortedMap α β) := ⟨∅⟩

/-- The value that is kept for a key, if there is one. -/
def get? [DecidableEq α] (m : SortedMap α β) (key : α) : Option β := m.toList.lookup key

/-- The values in the order of their keys. -/
def values (m : SortedMap α β) : List β := m.toList.map (·.2)

/-- Puts an entry at its place among entries with ascending keys, instead of the one with its key. -/
def place (key : α) (value : β) : List (α × β) → List (α × β)
  | [] => [(key, value)]
  | entry :: rest =>
    if rank key < rank entry.1 then (key, value) :: entry :: rest
    else if rank entry.1 < rank key then entry :: place key value rest
    else (key, value) :: rest

theorem mem_place {key : α} {value : β} {x : α × β} {l : List (α × β)} (h : x ∈ place key value l) :
    x = (key, value) ∨ x ∈ l := by
  induction l with
  | nil => exact .inl (List.mem_singleton.1 h)
  | cons entry rest ih =>
    rw [place] at h
    split at h
    next => exact List.mem_cons.1 h
    next =>
      split at h
      next =>
        rcases List.mem_cons.1 h with rfl | h
        · exact .inr List.mem_cons_self
        · exact (ih h).imp_right (List.mem_cons_of_mem entry)
      next => exact (List.mem_cons.1 h).imp_right (List.mem_cons_of_mem entry)

theorem place_ascending {key : α} {value : β} {l : List (α × β)}
    (h : l.Pairwise fun a b => rank a.1 < rank b.1) :
    (place key value l).Pairwise fun a b => rank a.1 < rank b.1 := by
  induction l with
  | nil => exact List.pairwise_singleton _ _
  | cons entry rest ih =>
    obtain ⟨hentry, hrest⟩ := List.pairwise_cons.1 h
    rw [place]
    split
    next hbefore =>
      refine List.pairwise_cons.2 ⟨fun x hx => ?_, h⟩
      rcases List.mem_cons.1 hx with rfl | hx
      · exact hbefore
      · exact Nat.lt_trans hbefore (hentry x hx)
    next =>
      split
      next hbehind =>
        refine List.pairwise_cons.2 ⟨fun x hx => ?_, ih hrest⟩
        rcases mem_place hx with rfl | hx
        · exact hbehind
        · exact hentry x hx
      next =>
        have hsame : rank key = rank entry.1 := by omega
        exact List.pairwise_cons.2 ⟨fun x hx => hsame ▸ hentry x hx, hrest⟩

/-- The map with a value for a key, whether there was one before or not. -/
def insert (m : SortedMap α β) (key : α) (value : β) : SortedMap α β :=
  ⟨place key value m.toList, place_ascending m.ascending⟩

omit [Ranked α] in
theorem lookup_cons_eq [DecidableEq α] {entry : α × β} {other : α} {l : List (α × β)} :
    (entry :: l).lookup other = if other = entry.1 then some entry.2 else l.lookup other := by
  obtain ⟨key, value⟩ := entry
  by_cases h : other = key
  · rw [h, List.lookup_cons_self, if_pos rfl]
  · rw [List.lookup_cons, beq_false_of_ne h, if_neg h]

theorem lookup_place [DecidableEq α] {key other : α} {value : β} {l : List (α × β)} :
    (place key value l).lookup other = if other = key then some value else l.lookup other := by
  induction l with
  | nil => exact lookup_cons_eq
  | cons entry rest ih =>
    rw [place]
    split
    next => exact lookup_cons_eq
    next hbefore =>
      split
      next hbehind =>
        -- the entry in front has another key
        have hne : key ≠ entry.1 := fun heq => by
          rw [heq] at hbehind
          exact Nat.lt_irrefl _ hbehind
        rw [lookup_cons_eq, lookup_cons_eq, ih]
        by_cases hkey : other = key
        · rw [if_neg (hkey ▸ hne), if_pos hkey, if_pos hkey]
        · rw [if_neg hkey, if_neg hkey]
      next =>
        have hsame : key = entry.1 := rank_inj (by omega)
        rw [lookup_cons_eq, lookup_cons_eq, ← hsame]
        by_cases hkey : other = key
        · rw [if_pos hkey, if_pos hkey]
        · rw [if_neg hkey, if_neg hkey, if_neg hkey]

@[simp]
theorem get?_insert [DecidableEq α] {m : SortedMap α β} {key other : α} {value : β} :
    (m.insert key value).get? other = if other = key then some value else m.get? other :=
  lookup_place

end SortedMap

end GiftExchange
