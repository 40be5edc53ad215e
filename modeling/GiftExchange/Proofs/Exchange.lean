import GiftExchange.Exchange.Group
import Mathlib.Data.List.Nodup

set_option autoImplicit false

/-! # Looking participants up and changing them

A lookup answers with a participant of the list that has the identifier. When no identifier occurs
twice it answers for everybody in the list, so looking up all identifiers gives the list back. An
edit is refused and leaves the exchange as it is, or changes nothing but the list of participants:
adding puts one at its end, replacing and updating leave the identifiers as they are, and removing
takes one identifier out. None of them makes an identifier occur twice. -/

namespace GiftExchange

namespace Exchange

variable {e : Exchange} {id : Id} {p : Participant}

/-! ## Lookups -/

theorem mem_of_participant? (h : e.participant? id = some p) :
    p ∈ e.participants ∧ p.id = id :=
  ⟨List.mem_of_find?_eq_some h, by simpa using List.find?_some h⟩

theorem isMember_iff : e.isMember id = true ↔ id ∈ e.ids := by
  rw [isMember, participant?, List.find?_isSome, ids, List.mem_map]
  simp

/-- A list without repeated identifiers is searched in full. -/
theorem participant?_eq_some_iff (h : e.ids.Nodup) :
    e.participant? id = some p ↔ p ∈ e.participants ∧ p.id = id := by
  constructor
  · exact mem_of_participant?
  · rintro ⟨hp, rfl⟩
    have hsome : (e.participant? p.id).isSome = true := isMember_iff.2 (List.mem_map_of_mem hp)
    obtain ⟨q, hq⟩ := Option.isSome_iff_exists.1 hsome
    obtain ⟨hmem, hid⟩ := mem_of_participant? hq
    rw [hq, List.inj_on_of_nodup_map h hmem hp hid]

theorem participant?_eq_none_iff : e.participant? id = none ↔ id ∉ e.ids := by
  rw [← isMember_iff, isMember, Option.not_isSome_iff_eq_none]

theorem exists_participant? (h : id ∈ e.ids) : ∃ p, e.participant? id = some p :=
  Option.isSome_iff_exists.1 (isMember_iff.2 h)

/-- Looking up all identifiers gives all participants. -/
theorem map_participant? (h : e.ids.Nodup) :
    e.ids.map e.participant? = e.participants.map some := by
  rw [ids, List.map_map]
  refine List.map_congr_left fun p hp => ?_
  exact (participant?_eq_some_iff h).2 ⟨hp, rfl⟩

/-! ## Edits -/

/-- Adding is refused because the identifier is taken, or puts somebody at the end. -/
theorem add_cases (e : Exchange) (p : Participant) :
    (p.id ∈ e.ids ∧ e.add p = (.error [.duplicateParticipant p.id], e)) ∨
      (p.id ∉ e.ids ∧ e.add p = (.ok (), { e with participants := e.participants ++ [p] })) := by
  rw [← isMember_iff]
  by_cases hp : e.isMember p.id = true
  · exact .inl ⟨hp, if_pos hp⟩
  · exact .inr ⟨hp, if_neg hp⟩

/-- Changing is refused because there is nobody, or changes one participant. -/
theorem update_cases (e : Exchange) (id : Id) (f : Participant → Participant) :
    (id ∉ e.ids ∧ e.update id f = (false, e)) ∨
      (id ∈ e.ids ∧
        e.update id f = (true, { e with participants := updateFirst id f e.participants })) := by
  rw [← isMember_iff]
  by_cases hid : e.isMember id = true
  · exact .inr ⟨hid, if_pos hid⟩
  · exact .inl ⟨hid, if_neg hid⟩

/-- Removing is refused because there is nobody, or takes out whoever is found. -/
theorem remove_cases (e : Exchange) (id : Id) :
    (id ∉ e.ids ∧ e.remove id = (none, e)) ∨
      (∃ removed, e.participant? id = some removed ∧
        e.remove id = (some removed, { e with participants :=
          (e.participants.eraseP (·.id == id)).map (·.removeConflict id) })) := by
  unfold remove
  cases hfound : e.participant? id with
  | none => exact .inl ⟨participant?_eq_none_iff.1 hfound, rfl⟩
  | some removed => exact .inr ⟨removed, rfl, rfl⟩

/-- Adding changes nothing but the participants; so do the other edits. -/
theorem add_eq_participants (e : Exchange) (p : Participant) :
    ∃ ps, (e.add p).2 = { e with participants := ps } := by
  obtain ⟨-, hadd⟩ | ⟨-, hadd⟩ := e.add_cases p
  · exact ⟨e.participants, by rw [hadd]⟩
  · exact ⟨_, by rw [hadd]⟩

theorem update_eq_participants (e : Exchange) (id : Id) (f : Participant → Participant) :
    ∃ ps, (e.update id f).2 = { e with participants := ps } := by
  obtain ⟨-, hupdate⟩ | ⟨-, hupdate⟩ := e.update_cases id f
  · exact ⟨e.participants, by rw [hupdate]⟩
  · exact ⟨_, by rw [hupdate]⟩

theorem remove_eq_participants (e : Exchange) (id : Id) :
    ∃ ps, (e.remove id).2 = { e with participants := ps } := by
  obtain ⟨-, hremove⟩ | ⟨removed, -, hremove⟩ := e.remove_cases id
  · exact ⟨e.participants, by rw [hremove]⟩
  · exact ⟨_, by rw [hremove]⟩

/-- An identifier that is taken cannot be added, and this is the only problem. -/
theorem add_eq_error_iff {problems : List Problem} :
    (e.add p).1 = .error problems ↔ p.id ∈ e.ids ∧ problems = [.duplicateParticipant p.id] := by
  obtain ⟨hp, hadd⟩ | ⟨hp, hadd⟩ := e.add_cases p
  · simp [hp, hadd, eq_comm]
  · simp [hp, hadd]

/-- Only a participant can be changed. -/
theorem update_eq_false_iff {f : Participant → Participant} :
    (e.update id f).1 = false ↔ id ∉ e.ids := by
  obtain ⟨hid, hupdate⟩ | ⟨hid, hupdate⟩ := e.update_cases id f
  · simp [hid, hupdate]
  · simp [hid, hupdate]

/-- Only a participant can be removed. -/
theorem remove_eq_none_iff : (e.remove id).1 = none ↔ id ∉ e.ids := by
  obtain ⟨hid, hremove⟩ | ⟨removed, hfound, hremove⟩ := e.remove_cases id
  · simp [hid, hremove]
  · simp [hremove, ← participant?_eq_none_iff, hfound]

/-- Only the one with the identifier is changed; when that one keeps it, all identifiers stay. -/
theorem map_id_updateFirst {f : Participant → Participant}
    (hf : ∀ p : Participant, p.id = id → (f p).id = id) (ps : List Participant) :
    (updateFirst id f ps).map Participant.id = ps.map Participant.id := by
  induction ps with
  | nil => rfl
  | cons p rest ih =>
    rw [updateFirst]
    by_cases hp : p.id = id
    · rw [if_pos hp, List.map_cons, List.map_cons, hf p hp, hp]
    · rw [if_neg hp, List.map_cons, List.map_cons, ih]

theorem ids_update {f : Participant → Participant}
    (hf : ∀ p : Participant, p.id = id → (f p).id = id) : (e.update id f).2.ids = e.ids := by
  obtain ⟨-, hupdate⟩ | ⟨-, hupdate⟩ := e.update_cases id f
  · rw [hupdate]
  · rw [hupdate]
    exact map_id_updateFirst hf e.participants

theorem ids_replace (e : Exchange) (p : Participant) : (e.replace p).2.ids = e.ids :=
  ids_update fun _ _ => rfl

theorem ids_add (h : p.id ∉ e.ids) : (e.add p).2.ids = e.ids ++ [p.id] := by
  obtain ⟨hp, -⟩ | ⟨-, hadd⟩ := e.add_cases p
  · exact absurd hp h
  · rw [hadd]
    simp [ids]

theorem ids_remove (e : Exchange) (id : Id) : (e.remove id).2.ids = e.ids.erase id := by
  obtain ⟨hid, hremove⟩ | ⟨removed, -, hremove⟩ := e.remove_cases id
  · rw [hremove, List.erase_of_not_mem hid]
  · rw [hremove]
    show ((e.participants.eraseP (·.id == id)).map (·.removeConflict id)).map Participant.id =
      (e.participants.map Participant.id).erase id
    rw [List.map_map, List.erase_eq_eraseP', List.eraseP_map]
    rfl

theorem nodup_ids_add (hnodup : e.ids.Nodup) (p : Participant) : (e.add p).2.ids.Nodup := by
  obtain ⟨-, hadd⟩ | ⟨hp, -⟩ := e.add_cases p
  · rwa [hadd]
  · rw [ids_add hp, ← List.concat_eq_append]
    exact hnodup.concat hp

theorem nodup_ids_remove (hnodup : e.ids.Nodup) (id : Id) : (e.remove id).2.ids.Nodup := by
  rw [ids_remove]
  exact hnodup.erase id

/-! ## Lookups behind an edit -/

theorem participant?_add (h : p.id ∉ e.ids) (id : Id) :
    (e.add p).2.participant? id = if p.id = id then some p else e.participant? id := by
  obtain ⟨hp, -⟩ | ⟨-, hadd⟩ := e.add_cases p
  · exact absurd hp h
  have hsplit : (e.participants ++ [p]).find? (·.id == id) =
      (e.participant? id).or (if p.id = id then some p else none) := by
    rw [List.find?_append, participant?, List.find?_singleton]
    simp
  rw [hadd]
  refine hsplit.trans ?_
  by_cases hid : p.id = id
  · rw [if_pos hid, if_pos hid, participant?_eq_none_iff.2 (hid ▸ h), Option.none_or]
  · rw [if_neg hid, if_neg hid, Option.or_none]

theorem find?_updateFirst {f : Participant → Participant}
    (hf : ∀ p : Participant, p.id = id → (f p).id = id) (ps : List Participant) (other : Id) :
    (updateFirst id f ps).find? (·.id == other) =
      if id = other then (ps.find? (·.id == id)).map f else ps.find? (·.id == other) := by
  induction ps with
  | nil => simp [updateFirst]
  | cons p rest ih =>
    rw [updateFirst]
    by_cases hp : p.id = id
    · rw [if_pos hp]
      by_cases hother : id = other
      · simp [hp, hf p hp, hother]
      · simp [hp, hf p hp, hother]
    · rw [if_neg hp]
      by_cases hsame : p.id = other
      · have hother : id ≠ other := fun heq => hp (hsame.trans heq.symm)
        simp [hsame, hother]
      · simp [hp, hsame, ih]

theorem participant?_update {f : Participant → Participant}
    (hf : ∀ p : Participant, p.id = id → (f p).id = id) (other : Id) :
    (e.update id f).2.participant? other =
      if id = other then (e.participant? id).map f else e.participant? other := by
  obtain ⟨hid, hupdate⟩ | ⟨-, hupdate⟩ := e.update_cases id f
  · rw [hupdate, participant?_eq_none_iff.2 hid, Option.map_none]
    split_ifs with hother
    · exact participant?_eq_none_iff.2 (hother ▸ hid)
    · rfl
  · rw [hupdate]
    exact find?_updateFirst hf e.participants other

theorem participant?_replace (h : p.id ∈ e.ids) (id : Id) :
    (e.replace p).2.participant? id = if p.id = id then some p else e.participant? id := by
  rw [replace, participant?_update fun _ _ => rfl]
  obtain ⟨q, hq⟩ := exists_participant? h
  rw [hq, Option.map_some]

/-- Taking somebody out does not keep others from being found. -/
theorem find?_eraseP_id {other : Id} (hother : id ≠ other) (ps : List Participant) :
    (ps.eraseP (·.id == id)).find? (·.id == other) = ps.find? (·.id == other) := by
  induction ps with
  | nil => rfl
  | cons p rest ih =>
    by_cases hp : p.id = id
    · simp [hp, hother]
    · rw [List.eraseP_cons_of_neg (by simpa using hp)]
      by_cases hsame : p.id = other
      · simp [hsame]
      · simp [hsame, ih]

/-- Behind a removal the one who is gone is not found, and the others have no conflict with this one
any more. -/
theorem participant?_remove (hnodup : e.ids.Nodup) (h : id ∈ e.ids) (other : Id) :
    (e.remove id).2.participant? other =
      if id = other then none else (e.participant? other).map (·.removeConflict id) := by
  by_cases hother : id = other
  · rw [if_pos hother, participant?_eq_none_iff, ids_remove, ← hother]
    exact hnodup.not_mem_erase
  obtain ⟨hid, -⟩ | ⟨removed, -, hremove⟩ := e.remove_cases id
  · exact absurd h hid
  · rw [if_neg hother, hremove]
    show ((e.participants.eraseP (·.id == id)).map (·.removeConflict id)).find? (·.id == other) =
      (e.participants.find? (·.id == other)).map (·.removeConflict id)
    rw [List.find?_map]
    exact congrArg (Option.map (·.removeConflict id)) (find?_eraseP_id hother e.participants)

end Exchange

theorem Participant.addConflict_id (p : Participant) (other : Id) :
    (p.addConflict other).id = p.id := by
  unfold addConflict
  split <;> rfl

end GiftExchange
