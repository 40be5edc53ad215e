import GiftExchange.Exchange.Problem
import GiftExchange.Settings
import Mathlib.Data.List.Nodup
import Mathlib.Tactic.SplitIfs

set_option autoImplicit false

/-! # What a check without findings says

An exchange has no problems exactly when no part of the check finds any. What the operations behind
the check rely on is then there: at least two participants, no identifier twice, nobody with a
defect. Settings without defect allow at least one attempt. -/

namespace GiftExchange

/-- A participant without defect has an identifier, all texts and an address of the right shape, and no
conflict with himself. -/
theorem Participant.defect?_eq_none_iff {p : Participant} :
    p.defect? = none ↔
      p.id ≠ Id.nil ∧ Text.isBlank p.name = false ∧ Text.isBlank p.nickname = false ∧
        Text.isBlank p.email = false ∧ Address.isWellFormed p.email = true ∧ p.id ∉ p.conflicts := by
  unfold defect?
  split_ifs <;> simp_all

namespace Exchange

variable {e : Exchange}

/-- The walk over the participants finds nothing when no identifier occurs twice, none was seen
before, and nobody has a defect. -/
theorem memberProblems_eq_nil_iff {seen : List Id} {ps : List Participant} :
    memberProblems seen ps = [] ↔
      (ps.map Participant.id).Nodup ∧ (∀ p ∈ ps, p.id ∉ seen) ∧ ∀ p ∈ ps, p.defect? = none := by
  induction ps generalizing seen with
  | nil => simp [memberProblems]
  | cons p rest ih =>
    have hseen : (if p.id ∈ seen then [Problem.duplicateParticipant p.id] else []) = [] ↔
        p.id ∉ seen := by
      by_cases h : p.id ∈ seen <;> simp [h]
    have hdefect : (p.defect?.map Problem.participant).toList = [] ↔ p.defect? = none := by
      cases p.defect? <;> simp
    rw [memberProblems, List.append_eq_nil_iff, List.append_eq_nil_iff, hseen, hdefect, ih,
      List.map_cons, List.nodup_cons, List.forall_mem_cons, List.forall_mem_cons]
    simp only [List.mem_cons, not_or, List.mem_map, not_exists, not_and]
    constructor
    · rintro ⟨⟨hnew, hsound⟩, hnodup, hrest, hall⟩
      exact ⟨⟨fun q hq => (hrest q hq).1, hnodup⟩, ⟨hnew, fun q hq => (hrest q hq).2⟩, hsound, hall⟩
    · rintro ⟨⟨hfirst, hnodup⟩, ⟨hnew, hrest⟩, hsound, hall⟩
      exact ⟨⟨hnew, hsound⟩, hnodup, fun q hq => ⟨hfirst q hq, hrest q hq⟩, hall⟩

/-- The walk reports an identifier as occurring twice only where one does. -/
theorem duplicateParticipant_not_mem_memberProblems {seen : List Id} {ps : List Participant}
    (hnodup : (ps.map Participant.id).Nodup) (hnew : ∀ p ∈ ps, p.id ∉ seen) (id : Id) :
    .duplicateParticipant id ∉ memberProblems seen ps := by
  induction ps generalizing seen with
  | nil => simp [memberProblems]
  | cons p rest ih =>
    rw [List.map_cons, List.nodup_cons] at hnodup
    rw [List.forall_mem_cons] at hnew
    have hrest : ∀ q ∈ rest, q.id ∉ p.id :: seen := by
      intro q hq hseen
      rcases List.mem_cons.1 hseen with heq | hseen
      · exact hnodup.1 (heq ▸ List.mem_map_of_mem hq)
      · exact hnew.2 q hq hseen
    rw [memberProblems, if_neg hnew.1, List.nil_append, List.mem_append, not_or]
    refine ⟨?_, ih hnodup.2 hrest⟩
    cases p.defect? with
    | none => simp
    | some defect => simp

/-- Where no identifier occurs twice, the check does not say that one does. -/
theorem duplicateParticipant_not_mem (h : e.ids.Nodup) (id : Id) :
    .duplicateParticipant id ∉ e.problems := by
  have hcontact : .duplicateParticipant id ∉ e.contactProblems := by
    unfold contactProblems
    split
    · simp
    · split <;> simp
    · simp
  have hcount : .duplicateParticipant id ∉ e.countProblems := by
    unfold countProblems
    split <;> simp
  have hmembers : .duplicateParticipant id ∉ memberProblems [] e.participants :=
    duplicateParticipant_not_mem_memberProblems h (by simp) id
  simp [problems, fieldProblems, hcontact, hcount, hmembers, foreignConflicts]

/-- The conflicts of a participant are sound when each is with himself or with a member. -/
theorem foreignConflicts_eq_nil_iff {members : List Id} {p : Participant} :
    foreignConflicts members p = [] ↔ ∀ other ∈ p.conflicts, other ≠ p.id → other ∈ members := by
  rw [foreignConflicts, List.map_eq_nil_iff, List.filter_eq_nil_iff]
  simp only [Bool.and_eq_true, bne_iff_ne, Bool.not_eq_true', not_and, Bool.not_eq_false,
    List.contains_iff_mem]
  rfl

theorem countProblems_eq_nil_iff :
    e.countProblems = [] ↔ minParticipants ≤ e.participants.length := by
  unfold countProblems
  by_cases h : e.participants.length < minParticipants
  · rw [if_pos h]
    exact iff_of_false (List.cons_ne_nil _ _) (Nat.not_le.2 h)
  · rw [if_neg h]
    exact iff_of_true rfl (Nat.not_lt.1 h)

theorem exists_two (h : minParticipants ≤ e.participants.length) :
    ∃ first second rest, e.participants = first :: second :: rest := by
  cases hmembers : e.participants with
  | nil =>
    rw [hmembers] at h
    cases h
  | cons first others =>
    cases others with
    | nil =>
      rw [hmembers] at h
      exact absurd h (by decide : ¬ minParticipants ≤ 1)
    | cons second rest => exact ⟨first, second, rest, rfl⟩

/-- An exchange has no problems when no part of the check finds any. -/
theorem problems_eq_nil_iff :
    e.problems = [] ↔
      e.fieldProblems = [] ∧ e.contactProblems = [] ∧
        minParticipants ≤ e.participants.length ∧ e.ids.Nodup ∧
        (∀ p ∈ e.participants, p.defect? = none) ∧
        ∀ p ∈ e.participants, foreignConflicts e.ids p = [] := by
  simp only [problems, List.append_eq_nil_iff, countProblems_eq_nil_iff,
    memberProblems_eq_nil_iff, List.flatMap_eq_nil_iff, List.not_mem_nil, not_false_eq_true,
    implies_true, true_and, and_assoc, ids]

end Exchange

theorem Settings.one_le_maxAttempts {s : Settings} (h : s.defect? = none) :
    1 ≤ s.maxAttempts := by
  by_contra hless
  have hfew : s.maxAttempts < 1 := UInt32.not_le.1 hless
  rw [defect?, if_pos hfew] at h
  split_ifs at h

end GiftExchange
