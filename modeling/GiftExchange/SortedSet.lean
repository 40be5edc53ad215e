import GiftExchange.Id

set_option autoImplicit false

/-! # Finite sets kept in ascending order

A finite set is the strictly ascending list of its members, so two sets with the same members are
equal and listing a set gives its members in ascending order. The order comes from a rank, a number
that tells any two values apart. -/

namespace GiftExchange

/-- Values told apart by a number. -/
class Ranked (α : Type) where
  rank : α → Nat
  rank_inj : ∀ {a b : α}, rank a = rank b → a = b

export Ranked (rank rank_inj)

instance : Ranked Id where
  rank := Id.toNat
  rank_inj := fun {a b} h => by
    cases a; cases b
    exact congrArg Id.mk (BitVec.eq_of_toNat_eq h)

/-- A finite set, as the ascending list of its members. -/
structure SortedSet (α : Type) [Ranked α] where
  toList : List α
  ascending : toList.Pairwise fun a b => rank a < rank b
  deriving DecidableEq

namespace SortedSet

variable {α : Type} [Ranked α]

def empty : SortedSet α := ⟨[], List.Pairwise.nil⟩

instance : EmptyCollection (SortedSet α) := ⟨empty⟩

instance : Inhabited (SortedSet α) := ⟨∅⟩

instance : Membership α (SortedSet α) := ⟨fun s a => a ∈ s.toList⟩

instance [DecidableEq α] (a : α) (s : SortedSet α) : Decidable (a ∈ s) :=
  inferInstanceAs (Decidable (a ∈ s.toList))

def size (s : SortedSet α) : Nat := s.toList.length

def isEmpty (s : SortedSet α) : Bool := s.toList.isEmpty

/-- Puts a value at its place in an ascending list, unless it is there already. -/
def place (a : α) : List α → List α
  | [] => [a]
  | b :: rest =>
    if rank a < rank b then a :: b :: rest
    else if rank b < rank a then b :: place a rest
    else b :: rest

theorem mem_place {a x : α} {l : List α} : x ∈ place a l ↔ x = a ∨ x ∈ l := by
  induction l with
  | nil => simp [place]
  | cons b rest ih =>
    rw [place]
    split
    · simp
    · split
      · simp only [List.mem_cons, ih]
        exact or_left_comm
      · rename_i h₁ h₂
        have hab : a = b := rank_inj (by omega)
        subst hab
        simp

theorem place_ascending {a : α} {l : List α} (h : l.Pairwise fun a b => rank a < rank b) :
    (place a l).Pairwise fun a b => rank a < rank b := by
  induction l with
  | nil => simp [place]
  | cons b rest ih =>
    obtain ⟨hb, hrest⟩ := List.pairwise_cons.1 h
    rw [place]
    split
    · rename_i hab
      refine List.pairwise_cons.2 ⟨fun x hx => ?_, h⟩
      rcases List.mem_cons.1 hx with rfl | hx
      · exact hab
      · exact Nat.lt_trans hab (hb x hx)
    · split
      · rename_i hba
        refine List.pairwise_cons.2 ⟨fun x hx => ?_, ih hrest⟩
        rcases mem_place.1 hx with rfl | hx
        · exact hba
        · exact hb x hx
      · exact h

/-- The set with one more member. -/
def insert (s : SortedSet α) (a : α) : SortedSet α :=
  ⟨place a s.toList, place_ascending s.ascending⟩

@[simp]
theorem mem_insert {s : SortedSet α} {a x : α} : x ∈ s.insert a ↔ x = a ∨ x ∈ s :=
  mem_place

/-- The set without a value. -/
def erase [DecidableEq α] (s : SortedSet α) (a : α) : SortedSet α :=
  ⟨s.toList.filter (· != a), s.ascending.filter _⟩

@[simp]
theorem mem_erase [DecidableEq α] {s : SortedSet α} {a x : α} : x ∈ s.erase a ↔ x ∈ s ∧ x ≠ a := by
  show x ∈ s.toList.filter (· != a) ↔ x ∈ s.toList ∧ x ≠ a
  simp

/-- The set of the values in a list. -/
def ofList (l : List α) : SortedSet α :=
  l.foldl insert ∅

/-! ## Lists that are ascending already -/

theorem place_at_end {a : α} {l : List α} (h : ∀ b ∈ l, rank b < rank a) :
    place a l = l ++ [a] := by
  induction l with
  | nil => rfl
  | cons b rest ih =>
    obtain ⟨hb, hrest⟩ := List.forall_mem_cons.1 h
    rw [place, if_neg (by omega), if_pos hb, ih hrest, List.cons_append]

/-- Values that come in ascending order are put behind each other. -/
theorem toList_foldl_insert {s : SortedSet α} {l : List α}
    (h : (s.toList ++ l).Pairwise fun a b => rank a < rank b) :
    (l.foldl insert s).toList = s.toList ++ l := by
  induction l generalizing s with
  | nil => rw [List.foldl_nil, List.append_nil]
  | cons a rest ih =>
    have hlast : ∀ b ∈ s.toList, rank b < rank a := fun b hb =>
      (List.pairwise_append.1 h).2.2 b hb a List.mem_cons_self
    have hplace : (s.insert a).toList = s.toList ++ [a] := place_at_end hlast
    have hrest : (s.toList ++ a :: rest) = (s.insert a).toList ++ rest := by
      rw [hplace, List.append_assoc, List.singleton_append]
    rw [hrest] at h ⊢
    exact ih h

/-- A set is made again from the list of its members. -/
theorem ofList_toList (s : SortedSet α) : ofList s.toList = s := by
  obtain ⟨l, hascending⟩ := s
  have hlist : (ofList l).toList = l := toList_foldl_insert (s := ∅) hascending
  cases hmade : ofList l with
  | mk l' h' =>
    rw [hmade] at hlist
    cases hlist
    rfl

end SortedSet

/-- A set of identifiers. -/
abbrev IdSet := SortedSet Id

end GiftExchange
