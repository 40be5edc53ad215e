import GiftExchange.Conflicts
import Mathlib.Data.List.Nodup
import Mathlib.Data.Prod.Basic

set_option autoImplicit false

/-! # What is forbidden

A set is known by its members, and a map by its answers. Forbidding a pair changes the receivers of one
giver, so conflicts made from a list forbid the listed pairs and nothing else, and conflicts made from
participants forbid what the participants declare. Conflicts may be told in other names for the same
people: then the pairs of the new names are forbidden whose old names were. -/

namespace GiftExchange

/-! ## Sets -/

namespace SortedSet

variable {α β : Type} [Ranked α] [Ranked β]

/-- No member is listed twice. -/
theorem nodup_toList (s : SortedSet α) : s.toList.Nodup :=
  s.ascending.imp fun hlt heq => absurd (heq ▸ hlt) (Nat.lt_irrefl _)

/-- Sets with the same members are equal. -/
theorem ext {s t : SortedSet α} (h : ∀ a, a ∈ s ↔ a ∈ t) : s = t := by
  have hperm : s.toList.Perm t.toList :=
    (List.perm_ext_iff_of_nodup s.nodup_toList t.nodup_toList).2 h
  obtain ⟨l, hl⟩ := s
  obtain ⟨l', hl'⟩ := t
  cases hperm.eq_of_pairwise (fun a b _ _ hab hba => absurd hba (Nat.lt_asymm hab)) hl hl'
  rfl

theorem not_mem_empty {a : α} : a ∉ (∅ : SortedSet α) := List.not_mem_nil

theorem mem_ofList {l : List α} {a : α} : a ∈ ofList l ↔ a ∈ l := by
  have hfold : ∀ s : SortedSet α, a ∈ l.foldl insert s ↔ a ∈ l ∨ a ∈ s := by
    induction l with
    | nil => simp
    | cons b rest ih =>
      intro s
      rw [List.foldl_cons, ih, mem_insert, List.mem_cons, ← or_assoc]
      exact or_congr_left or_comm
  rw [ofList, hfold]
  exact or_iff_left not_mem_empty

/-- The members of a set under other names. -/
def map (f : α → β) (s : SortedSet α) : SortedSet β :=
  .ofList (s.toList.map f)

/-- Names that tell members apart are in the renamed set if the members are in the set. -/
theorem mem_map {f : α → β} (hf : Function.Injective f) {s : SortedSet α} {a : α} :
    f a ∈ s.map f ↔ a ∈ s := by
  rw [map, mem_ofList]
  exact List.mem_map_of_injective hf

theorem map_insert {f : α → β} (s : SortedSet α) (a : α) :
    (s.insert a).map f = (s.map f).insert (f a) := by
  refine ext fun b => ?_
  have hmem : ∀ x, x ∈ (s.insert a).toList ↔ x = a ∨ x ∈ s.toList := fun _ => mem_insert
  rw [mem_insert, map, mem_ofList, map, mem_ofList]
  simp only [List.mem_map, hmem, or_and_right, exists_or, exists_eq_left]
  exact or_congr_left eq_comm

end SortedSet

/-! ## Maps -/

namespace SortedMap

variable {α β : Type} [Ranked α] [DecidableEq α] {m m' : SortedMap α β} {key : α} {value : β}

/-- What is kept for a key stands in the list, and nowhere else in it the key. -/
theorem get?_eq_some_iff : m.get? key = some value ↔ (key, value) ∈ m.toList := by
  rw [get?, List.lookup_eq_some_iff]
  constructor
  · rintro ⟨front, behind, hlist, -⟩
    rw [hlist]
    exact List.mem_append_right front List.mem_cons_self
  · intro hmem
    obtain ⟨front, behind, hlist⟩ := List.append_of_mem hmem
    have hascending := m.ascending
    rw [hlist, List.pairwise_append] at hascending
    refine ⟨front, behind, hlist, fun entry hentry => bne_iff_ne.2 ?_⟩
    rintro rfl
    exact Nat.lt_irrefl _ (hascending.2.2 entry hentry (entry.1, value) List.mem_cons_self)

/-- Maps that answer alike are equal. -/
theorem ext (h : ∀ key, m.get? key = m'.get? key) : m = m' := by
  have hnodup : ∀ m : SortedMap α β, m.toList.Nodup := fun m =>
    m.ascending.imp fun hlt heq => absurd (heq ▸ hlt) (Nat.lt_irrefl _)
  have hperm : m.toList.Perm m'.toList :=
    (List.perm_ext_iff_of_nodup (hnodup m) (hnodup m')).2 fun (key, value) => by
      rw [← get?_eq_some_iff, ← get?_eq_some_iff, h]
  obtain ⟨l, hl⟩ := m
  obtain ⟨l', hl'⟩ := m'
  cases hperm.eq_of_pairwise (fun a b _ _ hab hba => absurd hba (Nat.lt_asymm hab)) hl hl'
  rfl

end SortedMap

/-! ## Conflicts -/

namespace Conflicts

variable {c : Conflicts} {giver receiver a b : Id}

theorem forbids_iff :
    c.forbids giver receiver = true ↔ ∃ set, c.of? giver = some set ∧ receiver ∈ set := by
  simp only [forbids, Option.any_eq_true, decide_eq_true_eq]

theorem forbids_empty : empty.forbids giver receiver = false := rfl

theorem of?_forbid : (c.forbid a b).of? giver =
    if giver = a then some (((c.of? a).getD ∅).insert b) else c.of? giver :=
  SortedMap.get?_insert

/-- One more pair is forbidden. -/
theorem forbids_forbid : (c.forbid a b).forbids giver receiver = true ↔
    c.forbids giver receiver = true ∨ (giver, receiver) = (a, b) := by
  rw [forbids_iff, of?_forbid, forbids_iff]
  by_cases hgiver : giver = a
  · subst hgiver
    cases c.of? giver with
    | none => simp [SortedSet.not_mem_empty]
    | some set => simp [or_comm]
  · simp [hgiver]

/-- Conflicts made from a list forbid the listed pairs. -/
theorem forbids_ofPairs {l : List (Id × Id)} :
    (ofPairs l).forbids giver receiver = true ↔ (giver, receiver) ∈ l := by
  have hfold : ∀ c : Conflicts,
      (l.foldl (fun c p => c.forbid p.1 p.2) c).forbids giver receiver = true ↔
        c.forbids giver receiver = true ∨ (giver, receiver) ∈ l := by
    induction l with
    | nil => simp
    | cons p rest ih =>
      intro c
      rw [List.foldl_cons, ih, forbids_forbid, List.mem_cons, or_assoc]
  rw [ofPairs, hfold, forbids_empty]
  exact or_iff_right Bool.false_ne_true

/-- The pairs that participants declare, in order and with repetitions. -/
def declared (ps : List Participant) : List (Id × Id) :=
  ps.flatMap fun p => p.conflicts.toList.map fun other => (p.id, other)

theorem mem_declared {ps : List Participant} :
    (giver, receiver) ∈ declared ps ↔ ∃ p ∈ ps, p.id = giver ∧ receiver ∈ p.conflicts := by
  rw [declared, List.mem_flatMap]
  refine exists_congr fun p => and_congr_right fun _ => ?_
  rw [List.mem_map]
  constructor
  · rintro ⟨other, hother, heq⟩
    cases heq
    exact ⟨rfl, hother⟩
  · rintro ⟨rfl, hreceiver⟩
    exact ⟨receiver, hreceiver, rfl⟩

/-- The participants' conflicts are the pairs that they declare. -/
theorem ofParticipants_eq_ofPairs (ps : List Participant) :
    ofParticipants ps = ofPairs (declared ps) := by
  rw [ofParticipants, ofPairs, declared, List.foldl_flatMap]
  simp only [List.foldl_map]

/-- Conflicts made from participants forbid what somebody with the giver's identifier declares. -/
theorem forbids_ofParticipants {ps : List Participant} :
    (ofParticipants ps).forbids giver receiver = true ↔
      ∃ p ∈ ps, p.id = giver ∧ receiver ∈ p.conflicts := by
  rw [ofParticipants_eq_ofPairs, forbids_ofPairs, mem_declared]

/-- The pairs that are forbidden, each once. -/
def pairs (c : Conflicts) : List (Id × Id) :=
  c.forbidden.toList.flatMap fun entry => entry.2.toList.map fun receiver => (entry.1, receiver)

theorem mem_pairs : (giver, receiver) ∈ c.pairs ↔ c.forbids giver receiver = true := by
  rw [forbids_iff, pairs, List.mem_flatMap]
  simp only [of?, SortedMap.get?_eq_some_iff, List.mem_map]
  constructor
  · rintro ⟨⟨_, set⟩, hentry, other, hother, heq⟩
    cases heq
    exact ⟨set, hentry, hother⟩
  · rintro ⟨set, hentry, hreceiver⟩
    exact ⟨(giver, set), hentry, receiver, hreceiver, rfl⟩

/-- The conflicts of everybody under another name. -/
def rename (f : Id → Id) (c : Conflicts) : Conflicts :=
  .ofPairs (c.pairs.map (Prod.map f f))

/-- Names that tell people apart have the conflicts of the people. -/
theorem forbids_rename {f : Id → Id} (hf : Function.Injective f) (c : Conflicts)
    (giver receiver : Id) :
    (c.rename f).forbids (f giver) (f receiver) = c.forbids giver receiver := by
  rw [Bool.eq_iff_iff, rename, forbids_ofPairs, ← mem_pairs]
  exact List.mem_map_of_injective (hf.prodMap hf) (a := (giver, receiver))

end Conflicts

end GiftExchange
