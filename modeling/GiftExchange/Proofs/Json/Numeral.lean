import GiftExchange.Proofs.Json.Grammar

set_option autoImplicit false

/-! # Numerals are read as they are written

Each part of a numeral is read up to where it ends, which the next part shows: a part that is left
out leaves a character that cannot go on with the part before. Behind the whole numeral nothing may
follow that could go on with it (`Ends`). -/

namespace GiftExchange.Numeral

variable {ds cs rest : List Char}

/-- No numeral goes on here: neither a digit follows, nor a point, nor the letter of an exponent. -/
def Ends (rest : List Char) : Prop :=
  ∀ c ∈ rest.head?, c.isDigit = false ∧ c ≠ '.' ∧ c ≠ 'e' ∧ c ≠ 'E'

theorem ends_nil : Ends [] := nofun

theorem ends_cons {c : Char} (h : c.isDigit = false ∧ c ≠ '.' ∧ c ≠ 'e' ∧ c ≠ 'E')
    (rest : List Char) : Ends (c :: rest) := by
  rintro _ ⟨⟩
  exact h

theorem spanDigits_append (hds : ∀ c ∈ ds, c.isDigit = true)
    (hrest : ∀ c ∈ rest.head?, c.isDigit = false) : spanDigits (ds ++ rest) = (ds, rest) := by
  have hstop : rest.takeWhile Char.isDigit = [] ∧ rest.dropWhile Char.isDigit = rest := by
    cases rest with
    | nil => exact ⟨rfl, rfl⟩
    | cons c rest =>
      have hc : ¬ c.isDigit = true := by simp [hrest c rfl]
      exact ⟨List.takeWhile_cons_of_neg hc, List.dropWhile_cons_of_neg hc⟩
  rw [spanDigits, List.takeWhile_append_of_pos hds, List.dropWhile_append_of_pos hds, hstop.1,
    hstop.2, List.append_nil]

/-! ## Parts -/

theorem readWhole?_append (h : IsWhole ds) (hrest : ∀ c ∈ rest.head?, c.isDigit = false) :
    readWhole? (ds ++ rest) = some (ds, rest) := by
  obtain ⟨⟨hne, hdigits⟩, hzero⟩ := h
  rw [readWhole?, spanDigits_append hdigits hrest]
  split
  · rename_i hnil
    exact absurd (Prod.mk.inj hnil).1 hne
  · rename_i d others behind hleading
    rw [(Prod.mk.inj hleading).1] at hzero
    cases hzero rfl
  · rfl

theorem readFraction?_append {fraction : List Char} (h : FractionSpells fraction cs)
    (hrest : ∀ c ∈ rest.head?, c.isDigit = false ∧ c ≠ '.') :
    readFraction? (cs ++ rest) = some (fraction, rest) := by
  cases h with
  | none =>
    cases rest with
    | nil => rfl
    | cons c rest =>
      rw [List.nil_append, readFraction?]
      exact fun _ hpoint => (hrest c rfl).2 (List.cons.inj hpoint).1
  | digits h =>
    rw [List.cons_append, readFraction?, spanDigits_append h.2 fun c hc => (hrest c hc).1]
    obtain ⟨d, ds, rfl⟩ := List.exists_cons_of_ne_nil h.1
    rfl

theorem readExponentDigits?_append {negative : Bool} (h : AreDigits ds)
    (hrest : ∀ c ∈ rest.head?, c.isDigit = false) :
    readExponentDigits? negative (ds ++ rest) = some (some (negative, ds), rest) := by
  rw [readExponentDigits?, spanDigits_append h.2 hrest]
  obtain ⟨d, ds, rfl⟩ := List.exists_cons_of_ne_nil h.1
  rfl

/-- Behind the letter the sign decides, and a digit is none. -/
theorem readExponent?_letter {letter : Char} {negative : Bool} {sign : List Char}
    (hletter : letter = 'e' ∨ letter = 'E') (hsign : SignSpells negative sign) (h : AreDigits ds)
    (rest : List Char) :
    readExponent? (letter :: (sign ++ ds) ++ rest) = readExponentDigits? negative (ds ++ rest) := by
  cases hsign with
  | none =>
    obtain ⟨d, ds, rfl⟩ := List.exists_cons_of_ne_nil h.1
    have hd : d.isDigit = true := h.2 d List.mem_cons_self
    have hplus : d ≠ '+' := by
      rintro rfl
      cases hd
    have hminus : d ≠ '-' := by
      rintro rfl
      cases hd
    rcases hletter with rfl | rfl <;> simp [readExponent?, hplus, hminus]
  | plus => rcases hletter with rfl | rfl <;> rfl
  | minus => rcases hletter with rfl | rfl <;> rfl

theorem readExponent?_append {exponent : Option (Bool × List Char)} (h : ExponentSpells exponent cs)
    (hrest : Ends rest) : readExponent? (cs ++ rest) = some (exponent, rest) := by
  cases h with
  | none =>
    cases rest with
    | nil => rfl
    | cons c rest =>
      obtain ⟨-, -, hlower, hupper⟩ := hrest c rfl
      rw [List.nil_append, readExponent?]
      · exact fun _ h => hlower (List.cons.inj h).1
      · exact fun _ h => hupper (List.cons.inj h).1
  | digits hletter hsign h =>
    rw [readExponent?_letter hletter hsign h]
    exact readExponentDigits?_append h fun c hc => (hrest c hc).1

/-! ## Numerals -/

/-- An exponent, or what follows, does not go on with a fraction. -/
theorem head?_exponent {exponent : Option (Bool × List Char)} (h : ExponentSpells exponent cs)
    (hrest : Ends rest) : ∀ c ∈ (cs ++ rest).head?, c.isDigit = false ∧ c ≠ '.' := by
  cases h with
  | none => exact fun c hc => ⟨(hrest c hc).1, (hrest c hc).2.1⟩
  | digits hletter hsign h =>
    rintro _ ⟨⟩
    rcases hletter with rfl | rfl <;> decide

/-- A fraction, or what follows, does not go on with digits. -/
theorem head?_fraction {fraction : List Char} (h : FractionSpells fraction cs)
    (hrest : ∀ c ∈ rest.head?, c.isDigit = false) :
    ∀ c ∈ (cs ++ rest).head?, c.isDigit = false := by
  cases h with
  | none => exact hrest
  | digits h =>
    rintro _ ⟨⟩
    decide

theorem readUnsigned?_of_spells {n : Numeral} (h : UnsignedSpells n cs) (hrest : Ends rest) :
    readUnsigned? n.negative (cs ++ rest) = some (n, rest) := by
  cases h with
  | @parts fraction exponent hwhole hfraction hexponent =>
    have hbehind := head?_exponent hexponent hrest
    have hfollows : ∀ c ∈ (fraction ++ (exponent ++ rest)).head?, c.isDigit = false :=
      head?_fraction hfraction fun c hc => (hbehind c hc).1
    have hwholeRead := readWhole?_append hwhole hfollows
    rw [List.append_assoc, List.append_assoc]
    simp only [readUnsigned?, hwholeRead, readFraction?_append hfraction hbehind,
      readExponent?_append hexponent hrest, Option.bind_some, Option.map_some]

/-- A numeral is read up to its end. -/
theorem read?_of_spells {n : Numeral} (h : n.Spells cs) (hrest : Ends rest) :
    read? (cs ++ rest) = some (n, rest) := by
  cases h with
  | positive hsign h =>
    have hread := readUnsigned?_of_spells h hrest
    rw [hsign] at hread
    cases h with
    | parts hwhole hfraction hexponent =>
      obtain ⟨d, ds, hdigits⟩ := List.exists_cons_of_ne_nil hwhole.1.1
      have hd : d.isDigit = true := hwhole.1.2 d (by simp [hdigits])
      rw [hdigits] at hread ⊢
      rw [← hread, List.cons_append, List.cons_append, read?]
      intro _ hminus
      rw [(List.cons.inj hminus).1] at hd
      cases hd
  | negative hsign h =>
    have hread := readUnsigned?_of_spells h hrest
    rw [hsign] at hread
    exact hread

end GiftExchange.Numeral
