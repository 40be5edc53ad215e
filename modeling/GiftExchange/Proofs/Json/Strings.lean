import GiftExchange.Proofs.Json.Grammar
import GiftExchange.Proofs.Id

set_option autoImplicit false

/-! # Strings are read as they are written

The reader takes the pieces of a string one at a time (`readPieces?_of_spells`) and joins them. Joined
pieces are the characters whose UTF-16 units they write, and pieces that cannot be joined write the
units of no string (`joinPieces?_eq_some_iff`): a unit says by itself whether it is a character or
which half of a pair it is. -/

namespace GiftExchange.Tree

/-! ## Units and characters -/

theorem isHighSurrogate_iff {n : Nat} : isHighSurrogate n = true ↔ 0xD800 ≤ n ∧ n < 0xDC00 := by
  simp [isHighSurrogate]

theorem isLowSurrogate_iff {n : Nat} : isLowSurrogate n = true ↔ 0xDC00 ≤ n ∧ n < 0xE000 := by
  simp [isLowSurrogate]

/-- A character has one unit, which is no half of a pair, or it is written by a pair. -/
theorem utf16_cases (c : Char) :
    (utf16 c = [c.toNat] ∧ isHighSurrogate c.toNat = false ∧ isLowSurrogate c.toNat = false) ∨
      ∃ n m, utf16 c = [n, m] ∧ isHighSurrogate n = true ∧ isLowSurrogate m = true ∧
        Char.ofNat (0x10000 + (n - 0xD800) * 0x400 + (m - 0xDC00)) = c := by
  have hvalid : c.toNat < 0xD800 ∨ 0xDFFF < c.toNat ∧ c.toNat < 0x110000 := c.valid
  unfold utf16
  split
  · refine .inl ⟨rfl, ?_, ?_⟩
    · rw [← Bool.not_eq_true, isHighSurrogate_iff]
      omega
    · rw [← Bool.not_eq_true, isLowSurrogate_iff]
      omega
  · refine .inr ⟨_, _, rfl, isHighSurrogate_iff.2 (by omega), isLowSurrogate_iff.2 (by omega), ?_⟩
    have hsame : 0x10000 + (0xD800 + (c.toNat - 0x10000) / 0x400 - 0xD800) * 0x400 +
        (0xDC00 + (c.toNat - 0x10000) % 0x400 - 0xDC00) = c.toNat := by
      omega
    rw [hsame, Char.ofNat_toNat]

theorem toNat_ofNat_of_isValidChar {n : Nat} (h : n.isValidChar) : (Char.ofNat n).toNat = n := by
  rw [Char.ofNat, dif_pos h]
  rfl

theorem utf16_ne_nil (c : Char) : utf16 c ≠ [] := by
  unfold utf16
  split <;> simp

theorem utf16_ofNat {n : Nat} (hn : n < 0x10000) (hhigh : isHighSurrogate n = false)
    (hlow : isLowSurrogate n = false) : utf16 (Char.ofNat n) = [n] := by
  rw [← Bool.not_eq_true, isHighSurrogate_iff] at hhigh
  rw [← Bool.not_eq_true, isLowSurrogate_iff] at hlow
  have hvalid : n.isValidChar := by
    show n < 0xD800 ∨ 0xDFFF < n ∧ n < 0x110000
    omega
  rw [utf16, toNat_ofNat_of_isValidChar hvalid, if_pos hn]

theorem utf16_ofNat_pair {n m : Nat} (hhigh : isHighSurrogate n = true)
    (hlow : isLowSurrogate m = true) :
    utf16 (Char.ofNat (0x10000 + (n - 0xD800) * 0x400 + (m - 0xDC00))) = [n, m] := by
  rw [isHighSurrogate_iff] at hhigh
  rw [isLowSurrogate_iff] at hlow
  generalize hk : 0x10000 + (n - 0xD800) * 0x400 + (m - 0xDC00) = k
  have hvalid : k.isValidChar := by
    show k < 0xD800 ∨ 0xDFFF < k ∧ k < 0x110000
    omega
  have hfirst : 0xD800 + (k - 0x10000) / 0x400 = n := by omega
  have hsecond : 0xDC00 + (k - 0x10000) % 0x400 = m := by omega
  rw [utf16, toNat_ofNat_of_isValidChar hvalid, if_neg (by omega), hfirst, hsecond]

/-- Units that begin with a character's begin with this character. -/
theorem utf16_append_inj {c d : Char} {us vs : List Nat} (h : utf16 c ++ us = utf16 d ++ vs) :
    c = d ∧ us = vs := by
  obtain ⟨hc, hchigh, -⟩ | ⟨n, m, hc, hchigh, -, hcpair⟩ := utf16_cases c <;>
  obtain ⟨hd, hdhigh, -⟩ | ⟨n', m', hd, hdhigh, -, hdpair⟩ := utf16_cases d <;>
  rw [hc, hd] at h
  · obtain ⟨hsame, hrest⟩ := List.cons.inj h
    exact ⟨Char.toNat_inj.1 hsame, hrest⟩
  · rw [(List.cons.inj h).1, hdhigh] at hchigh
    cases hchigh
  · rw [(List.cons.inj h).1, hdhigh] at hchigh
    cases hchigh
  · obtain ⟨rfl, hbehind⟩ := List.cons.inj h
    obtain ⟨rfl, hrest⟩ := List.cons.inj hbehind
    exact ⟨hcpair.symm.trans hdpair, hrest⟩

/-! ## Pieces -/

theorem sameUnits_char_iff {c : Char} {ps : List Piece} {cs : List Char} :
    SameUnits (.char c :: ps) cs ↔ ∃ others, cs = c :: others ∧ SameUnits ps others := by
  unfold SameUnits
  rw [List.flatMap_cons, Piece.units]
  constructor
  · intro h
    cases cs with
    | nil =>
      obtain ⟨hc, -⟩ | ⟨n, m, hc, -⟩ := utf16_cases c <;> simp [hc] at h
    | cons d others =>
      rw [List.flatMap_cons] at h
      obtain ⟨rfl, hrest⟩ := utf16_append_inj h
      exact ⟨others, rfl, hrest⟩
  · rintro ⟨others, rfl, h⟩
    rw [List.flatMap_cons, h]

/-- A unit that is no half of a pair is a character. -/
theorem sameUnits_unit_iff {n : Nat} (hn : n < 0x10000) (hhigh : isHighSurrogate n = false)
    (hlow : isLowSurrogate n = false) {ps : List Piece} {cs : List Char} :
    SameUnits (.unit n :: ps) cs ↔ ∃ others, cs = Char.ofNat n :: others ∧ SameUnits ps others := by
  have hunits : (Piece.unit n).units = (Piece.char (Char.ofNat n)).units :=
    (utf16_ofNat hn hhigh hlow).symm
  rw [← sameUnits_char_iff, SameUnits, SameUnits, List.flatMap_cons, List.flatMap_cons, hunits]

/-- A first half and a second half are one character. -/
theorem sameUnits_pair_iff {n m : Nat} (hhigh : isHighSurrogate n = true)
    (hlow : isLowSurrogate m = true) {ps : List Piece} {cs : List Char} :
    SameUnits (.unit n :: .unit m :: ps) cs ↔
      ∃ others, cs = Char.ofNat (0x10000 + (n - 0xD800) * 0x400 + (m - 0xDC00)) :: others ∧
        SameUnits ps others := by
  rw [← sameUnits_char_iff, SameUnits, SameUnits, List.flatMap_cons, List.flatMap_cons,
    List.flatMap_cons, Piece.units, Piece.units, Piece.units, utf16_ofNat_pair hhigh hlow]
  rfl

/-- A unit in front of those of a string is a character, or a first half with the second behind. -/
theorem unit_cases {n : Nat} {us : List Nat} {cs : List Char} (h : n :: us = cs.flatMap utf16) :
    (isHighSurrogate n = false ∧ isLowSurrogate n = false) ∨
      (isHighSurrogate n = true ∧ isLowSurrogate n = false ∧
        ∃ m others, isLowSurrogate m = true ∧ us = m :: others) := by
  cases cs with
  | nil => cases h
  | cons c cs =>
    rw [List.flatMap_cons] at h
    obtain ⟨hc, hhigh, hlow⟩ | ⟨n', m, hc, hhigh, hlow, -⟩ := utf16_cases c
    · rw [hc] at h
      obtain ⟨rfl, -⟩ := List.cons.inj h
      exact .inl ⟨hhigh, hlow⟩
    · rw [hc] at h
      obtain ⟨rfl, hbehind⟩ := List.cons.inj h
      refine .inr ⟨hhigh, ?_, m, _, hlow, hbehind⟩
      rw [isHighSurrogate_iff] at hhigh
      rw [← Bool.not_eq_true, isLowSurrogate_iff]
      omega

/-- Behind a first half stands the unit of the second. -/
theorem next_of_sameUnits {n : Nat} {ps : List Piece} {cs : List Char}
    (hhigh : isHighSurrogate n = true) (h : SameUnits (.unit n :: ps) cs) :
    ∃ m rest, ps = .unit m :: rest ∧ isLowSurrogate m = true := by
  have hunits : n :: ps.flatMap Piece.units = cs.flatMap utf16 := h
  obtain ⟨hnone, -⟩ | ⟨-, -, m, others, hlow, hbehind⟩ := unit_cases hunits
  · rw [hhigh] at hnone
    cases hnone
  · rcases ps with _ | ⟨c | k, rest⟩
    · cases hbehind
    · -- a character does not begin with a second half
      rw [List.flatMap_cons, Piece.units] at hbehind
      obtain ⟨hone, -, hnot⟩ | ⟨k, l, hpair, hfirst, -, -⟩ := utf16_cases c
      · rw [hone] at hbehind
        rw [(List.cons.inj hbehind).1, hlow] at hnot
        cases hnot
      · rw [hpair] at hbehind
        rw [(List.cons.inj hbehind).1, isHighSurrogate_iff] at hfirst
        rw [isLowSurrogate_iff] at hlow
        omega
    · obtain ⟨rfl, -⟩ := List.cons.inj hbehind
      exact ⟨_, rest, rfl, hlow⟩

theorem map_cons_eq_some_iff {c : Char} {found : Option (List Char)} {P : List Char → Prop}
    (h : ∀ others, found = some others ↔ P others) {cs : List Char} :
    found.map (c :: ·) = some cs ↔ ∃ others, cs = c :: others ∧ P others := by
  rw [Option.map_eq_some_iff]
  constructor
  · rintro ⟨others, hfound, rfl⟩
    exact ⟨others, rfl, (h others).1 hfound⟩
  · rintro ⟨others, rfl, hothers⟩
    exact ⟨others, (h others).2 hothers, rfl⟩

/-- Pieces are joined to the characters with their units. -/
theorem joinPieces?_eq_some_iff {ps : List Piece} {cs : List Char}
    (hps : ∀ n, .unit n ∈ ps → n < 0x10000) : joinPieces? ps = some cs ↔ SameUnits ps cs := by
  have hlater : ∀ {p : Piece} {rest : List Piece}, (∀ n, .unit n ∈ p :: rest → n < 0x10000) →
      ∀ n, .unit n ∈ rest → n < 0x10000 :=
    fun h n hn => h n (List.mem_cons_of_mem _ hn)
  fun_induction joinPieces? ps generalizing cs with
  | case1 => cases cs with
    | nil => simp [SameUnits]
    | cons c cs => simp [SameUnits, utf16_ne_nil]
  | case2 c rest ih =>
    rw [sameUnits_char_iff]
    exact map_cons_eq_some_iff fun _ => ih (hlater hps)
  -- half of a pair alone is not joined, and no string has its unit there
  | case3 n rest hlow =>
    refine iff_of_false (by simp) fun h => ?_
    obtain ⟨-, hnot⟩ | ⟨-, hnot, -⟩ := unit_cases h <;> simp [hlow] at hnot
  | case4 n hnot hhigh m rest hlow ih =>
    rw [sameUnits_pair_iff hhigh hlow]
    exact map_cons_eq_some_iff fun _ => ih (hlater (hlater hps))
  | case5 n hnot hhigh m rest hlow =>
    refine iff_of_false (by simp) fun h => ?_
    obtain ⟨k, others, hsplit, hk⟩ := next_of_sameUnits hhigh h
    obtain ⟨⟨⟩, -⟩ := List.cons.inj hsplit
    exact hlow hk
  | case6 n rest hnot hhigh hother =>
    refine iff_of_false (by simp) fun h => ?_
    obtain ⟨k, others, hsplit, -⟩ := next_of_sameUnits hhigh h
    exact hother k others hsplit
  | case7 n rest hnot hhigh ih =>
    rw [sameUnits_unit_iff (hps n List.mem_cons_self) (by simpa using hhigh) (by simpa using hnot)]
    exact map_cons_eq_some_iff fun _ => ih (hlater hps)

/-- The pieces stand for what they are joined to. -/
theorem joined_of_standFor {ps : List Piece} (hps : ∀ n, .unit n ∈ ps → n < 0x10000)
    {s : Option String} (h : StandFor ps s) : (joinPieces? ps).map String.ofList = s := by
  cases s with
  | none =>
    cases hjoined : joinPieces? ps with
    | none => rfl
    | some cs => exact absurd ((joinPieces?_eq_some_iff hps).1 hjoined) (h cs)
  | some s => rw [(joinPieces?_eq_some_iff hps).2 h, Option.map_some, String.ofList_toList]

/-! ## Texts -/

theorem hexValue?_lt {c : Char} {n : Nat} (h : Text.hexValue? c = some n) : n < 16 := by
  have hlast : ∀ {first last : Char}, (decide (first ≤ c) && decide (c ≤ last)) = true →
      c.toNat ≤ last.toNat := by
    intro first last hrange
    rw [Bool.and_eq_true, decide_eq_true_eq, decide_eq_true_eq] at hrange
    exact hrange.2
  unfold Text.hexValue? at h
  split_ifs at h with hdigit hlower hupper <;> have hn := Option.some.inj h
  · have hc : c.toNat ≤ 57 := hlast hdigit
    omega
  · have hc : c.toNat ≤ 102 := hlast hlower
    omega
  · have hc : c.toNat ≤ 70 := hlast hupper
    omega

theorem hexUnit?_lt {a b c d : Char} {n : Nat} (h : hexUnit? a b c d = some n) : n < 0x10000 := by
  obtain ⟨i, hi, h⟩ := Option.bind_eq_some_iff.1 h
  obtain ⟨j, hj, h⟩ := Option.bind_eq_some_iff.1 h
  obtain ⟨k, hk, h⟩ := Option.bind_eq_some_iff.1 h
  obtain ⟨l, hl, rfl⟩ := Option.map_eq_some_iff.1 h
  have hi := hexValue?_lt hi
  have hj := hexValue?_lt hj
  have hk := hexValue?_lt hk
  have hl := hexValue?_lt hl
  omega

theorem unit_lt_of_spells {ps : List Piece} {cs : List Char} (h : PiecesSpell ps cs) :
    ∀ n, .unit n ∈ ps → n < 0x10000 := by
  induction h with
  | nil => simp
  | cons h _ ih =>
    intro n hn
    rcases List.mem_cons.1 hn with rfl | hn
    · cases h with
      | unit hhex => exact hexUnit?_lt hhex
    · exact ih n hn

theorem readPieces?_of_piece {p : Piece} {cs : List Char} (h : p.Spells cs) (rest : List Char) :
    readPieces? (cs ++ rest) = withPiece p (readPieces? rest) := by
  cases h with
  | @plain c hcontrol hquote hescape =>
    rw [List.singleton_append, readPieces?, if_neg (by simp [hescape, hcontrol])]
    -- what the reader looks for first begins with a quote or a backslash
    · exact hquote
    · exact fun _ _ _ _ _ h => absurd h hescape
    · exact fun _ _ h => absurd h hescape
  | @short c e h =>
    have hunit : e ≠ 'u' := by
      rintro rfl
      cases h
    rw [List.cons_append, List.cons_append, List.nil_append, readPieces?, h, Option.bind_some]
    exact fun _ _ _ _ _ he => absurd he hunit
  | unit h =>
    simp only [List.cons_append, List.nil_append, readPieces?, h, Option.bind_some]

theorem readPieces?_of_spells {ps : List Piece} {cs : List Char} (h : PiecesSpell ps cs)
    (rest : List Char) : readPieces? (cs ++ '"' :: rest) = some (ps, rest) := by
  induction h with
  | nil => rfl
  | cons h _ ih =>
    rw [List.append_assoc, readPieces?_of_piece h, ih]
    rfl

/-- A string is read up to its closing quote. -/
theorem readString_of_spells {s : Option String} {ps : List Piece} {cs : List Char}
    (hstand : StandFor ps s) (h : PiecesSpell ps cs) (rest : List Char) :
    readString (cs ++ '"' :: rest) = (.string s, rest) := by
  rw [readString, readPieces?_of_spells h]
  show (Tree.string ((joinPieces? ps).map String.ofList), rest) = _
  rw [joined_of_standFor (unit_lt_of_spells h) hstand]

end GiftExchange.Tree
