import GiftExchange.Address
import GiftExchange.Exchange.Basic
import GiftExchange.Proofs.Text.Blank

set_option autoImplicit false

/-! # Contacts and the shape of addresses

A contact is there when its text is set and not blank, and it is the trimmed text. An address that
has the shape holds no white space, so a well-formed text has the shape as it stands exactly when
there is nothing to trim off it. -/

namespace GiftExchange

/-! ## Contacts -/

theorem contact_eq_some_iff {value : Option String} {found : String} :
    contact value = some found ↔
      ∃ text, value = some text ∧ Text.isBlank text = false ∧ found = Text.trim text := by
  cases value with
  | none => simp [contact]
  | some text =>
    rw [contact, Option.map_some, Option.filter_eq_some_iff]
    constructor
    · rintro ⟨⟨⟩, hblank⟩
      exact ⟨text, rfl, by simpa [Text.isEmpty_trim] using hblank, rfl⟩
    · rintro ⟨_, ⟨⟩, hblank, rfl⟩
      exact ⟨rfl, by simp [Text.isEmpty_trim, hblank]⟩

theorem contact_eq_none_iff {value : Option String} :
    contact value = none ↔ ∀ text, value = some text → Text.isBlank text = true := by
  cases hcontact : contact value with
  | none =>
    refine iff_of_true rfl fun text hvalue => ?_
    by_contra hblank
    have hsome : contact value = some (Text.trim text) :=
      contact_eq_some_iff.2 ⟨text, hvalue, by simpa using hblank, rfl⟩
    rw [hcontact] at hsome
    cases hsome
  | some found =>
    obtain ⟨text, hvalue, hblank, -⟩ := contact_eq_some_iff.1 hcontact
    refine iff_of_false (by simp) fun hall => ?_
    rw [hall text hvalue] at hblank
    cases hblank

/-! ## Addresses -/

namespace Address

theorem hasInnerDot_iff {cs : List Char} :
    hasInnerDot cs = true ↔ ∃ host tail, cs = host ++ '.' :: tail ∧ host ≠ [] ∧ tail ≠ [] := by
  unfold hasInnerDot
  constructor
  · intro h
    cases cs with
    | nil => simp at h
    | cons c rest =>
      have hdot : '.' ∈ rest.dropLast := by simpa using h
      have hrest : rest ≠ [] := by
        rintro rfl
        simp at hdot
      obtain ⟨host, tail, hsplit⟩ := List.append_of_mem hdot
      refine ⟨c :: host, tail ++ [rest.getLast hrest], ?_, by simp, by simp⟩
      rw [List.cons_append, ← List.cons_append (a := '.'), ← List.append_assoc, ← hsplit,
        List.dropLast_concat_getLast]
  · rintro ⟨_ | ⟨c, host⟩, tail, rfl, hhost, htail⟩
    · exact absurd rfl hhost
    · simp [List.dropLast_append_of_ne_nil, List.dropLast_cons_of_ne_nil htail]

/-- The shape says: a local part, an at sign, and a domain with a dot that something stands on both
sides of; and in none of them white space or another at sign. -/
theorem hasShape_iff {cs : List Char} :
    hasShape cs = true ↔ ∃ front host tail, cs = front ++ '@' :: (host ++ '.' :: tail) ∧
      front ≠ [] ∧ host ≠ [] ∧ tail ≠ [] ∧ ∀ c ∈ front ++ host ++ tail, isPartChar c = true := by
  constructor
  · intro h
    unfold hasShape at h
    have hsplit := List.takeWhile_append_dropWhile (p := (· != '@')) (l := cs)
    cases hbehind : cs.dropWhile (· != '@') with
    | nil => simp [hbehind] at h
    | cons c domain =>
      -- the first character that is not left out is the at sign
      have hat : (c != '@') = false := by
        simpa [hbehind] using List.head_dropWhile_not (· != '@') (l := cs) (by simp [hbehind])
      simp only [hbehind, Bool.and_eq_true, List.all_eq_true] at h
      obtain ⟨⟨⟨hempty, hfront⟩, hdomain⟩, hdot⟩ := h
      obtain ⟨host, tail, rfl, hhost, htail⟩ := hasInnerDot_iff.1 hdot
      rw [hbehind, bne_eq_false_iff_eq.1 hat] at hsplit
      refine ⟨cs.takeWhile (· != '@'), host, tail, hsplit.symm, by simpa using hempty, hhost, htail,
        ?_⟩
      intro x hx
      rcases List.mem_append.1 hx with hx | hx
      · rcases List.mem_append.1 hx with hx | hx
        · exact hfront x hx
        · exact hdomain x (by simp [hx])
      · exact hdomain x (by simp [hx])
  · rintro ⟨front, host, tail, rfl, hfront, hhost, htail, hparts⟩
    have hchar : ∀ c ∈ front, (c != '@') = true := by
      intro c hc
      have hpart := hparts c (by simp [hc])
      rw [isPartChar, Bool.and_eq_true] at hpart
      exact hpart.1
    unfold hasShape
    rw [List.dropWhile_append_of_pos hchar, List.takeWhile_append_of_pos hchar]
    have hdot : hasInnerDot (host ++ '.' :: tail) = true :=
      hasInnerDot_iff.2 ⟨host, tail, rfl, hhost, htail⟩
    have hall : (∀ c ∈ host, isPartChar c = true) ∧ isPartChar '.' = true ∧
        ∀ c ∈ tail, isPartChar c = true :=
      ⟨fun c hc => hparts c (by simp [hc]), by decide, fun c hc => hparts c (by simp [hc])⟩
    simpa [hdot, hfront] using ⟨fun c hc => hparts c (by simp [hc]), hall⟩

theorem not_isBlankChar_of_hasShape {cs : List Char} (h : hasShape cs = true) :
    ∀ c ∈ cs, Text.isBlankChar c = false := by
  obtain ⟨front, host, tail, rfl, -, -, -, hparts⟩ := hasShape_iff.1 h
  have hpart : ∀ c ∈ front ++ host ++ tail, Text.isBlankChar c = false := by
    intro c hc
    have hchar := hparts c hc
    rw [isPartChar, Bool.and_eq_true, Bool.not_eq_true'] at hchar
    exact hchar.2
  intro c hc
  simp only [List.mem_append, List.mem_cons] at hc hpart
  rcases hc with hc | rfl | hc | rfl | hc
  · exact hpart c (.inl (.inl hc))
  · decide
  · exact hpart c (.inl (.inr hc))
  · decide
  · exact hpart c (.inr hc)

/-- A text with the shape has nothing to trim off. -/
theorem trim_of_hasShape {s : String} (h : hasShape s.toList = true) : Text.trim s = s := by
  rw [Text.trim, Text.trimChars_of_no_blank (not_isBlankChar_of_hasShape h), String.ofList_toList]

/-- Of the well-formed texts, those that are trimmed have the shape as they stand. -/
theorem hasShape_iff_trim {s : String} (h : isWellFormed s = true) :
    hasShape s.toList = true ↔ Text.trim s = s := by
  refine ⟨trim_of_hasShape, fun htrim => ?_⟩
  rw [isWellFormed, ← Text.toList_trim, htrim] at h
  exact h

/-- What trimming leaves of a well-formed text has the shape. -/
theorem hasShape_trim {s : String} (h : isWellFormed s = true) :
    hasShape (Text.trim s).toList = true := by
  rw [Text.toList_trim]
  exact h

end Address

/-- A contact is trimmed, so a well-formed one has the shape as it stands. -/
theorem hasShape_of_contact {value : Option String} {found : String} (h : contact value = some found)
    (hwell : Address.isWellFormed found = true) : Address.hasShape found.toList = true := by
  obtain ⟨text, -, -, rfl⟩ := contact_eq_some_iff.1 h
  apply (Address.hasShape_iff_trim hwell).2
  rw [Text.trim, Text.toList_trim, Text.trimChars_trimChars, ← Text.toList_trim, String.ofList_toList]

end GiftExchange
