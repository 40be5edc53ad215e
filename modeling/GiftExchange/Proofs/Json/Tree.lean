import GiftExchange.Proofs.Json.Numeral
import GiftExchange.Proofs.Json.Strings

set_option autoImplicit false

/-! # Texts are read as they are written

Whoever writes a tree by the grammar, with whatever white space and whichever spellings, has it read
back whole (`Tree.ofText_of_writes`). Strings and numerals are read by lemmas of their own; arrays and
objects follow by induction over the tree, with fuel enough for every character. -/

namespace GiftExchange.Tree

variable {t : Tree} {fuel : Nat} {cs before behind rest : List Char} {c : Char}

/-! ## White space -/

theorem skipSpace_cons (h : isSpace c = false) (cs : List Char) : skipSpace (c :: cs) = c :: cs :=
  List.dropWhile_cons_of_neg (by simp [h])

theorem skipSpace_append (h : Blank before) (cs : List Char) :
    skipSpace (before ++ cs) = skipSpace cs :=
  List.dropWhile_append_of_pos h

/-- White space is skipped up to what stands behind it. -/
theorem skipSpace_blank (h : Blank before) (hc : isSpace c = false) (cs : List Char) :
    skipSpace (before ++ c :: cs) = c :: cs := by
  rw [skipSpace_append h, skipSpace_cons hc]

theorem isSpace_of_isDigit (h : c.isDigit = true) : isSpace c = false := by
  cases hspace : isSpace c with
  | false => rfl
  | true =>
    simp only [isSpace, Bool.or_eq_true, decide_eq_true_eq] at hspace
    rcases hspace with ((rfl | rfl) | rfl) | rfl <;> cases h

/-- White space goes on with no numeral. -/
theorem ends_blank (h : Blank behind) (hrest : Numeral.Ends rest) : Numeral.Ends (behind ++ rest) := by
  cases behind with
  | nil => exact hrest
  | cons c behind =>
    have hspace : isSpace c = true := h c List.mem_cons_self
    apply Numeral.ends_cons
    simp only [isSpace, Bool.or_eq_true, decide_eq_true_eq] at hspace
    rcases hspace with ((rfl | rfl) | rfl) | rfl <;> decide

/-! ## Single values -/

theorem readValue_blank (h : Blank before) (cs : List Char) :
    readValue (fuel + 1) (before ++ cs) = readValue (fuel + 1) cs := by
  rw [readValue, readValue, skipSpace_append h]

theorem readValue_string {s : Option String} (h : StringSpells s cs) (rest : List Char) :
    readValue (fuel + 1) (cs ++ rest) = (.string s, rest) := by
  cases h with
  | quoted hstand h =>
    rw [List.cons_append, readValue, skipSpace_cons (by decide), List.append_assoc]
    exact readString_of_spells hstand h rest

/-- A numeral begins with a digit or a minus sign. -/
theorem head_of_numeral {n : Numeral} (h : n.Spells cs) :
    ∃ d ds, cs = d :: ds ∧ (d.isDigit = true ∨ d = '-') := by
  cases h with
  | positive _ h =>
    cases h with
    | parts hwhole =>
      obtain ⟨d, ds, hdigits⟩ := List.exists_cons_of_ne_nil hwhole.1.1
      exact ⟨d, _, by rw [hdigits, List.cons_append], .inl (hwhole.1.2 d (by simp [hdigits]))⟩
  | negative _ h => exact ⟨_, _, rfl, .inr rfl⟩

theorem readValue_numeral {n : Numeral} (h : n.Spells cs) (hrest : Numeral.Ends rest) :
    readValue (fuel + 1) (cs ++ rest) = (.number n, rest) := by
  have hnumber : readNumber (cs ++ rest) = (.number n, rest) := by
    rw [readNumber, Numeral.read?_of_spells h hrest]
  obtain ⟨d, ds, rfl, hd⟩ := head_of_numeral h
  have hspace : isSpace d = false := by
    rcases hd with hd | rfl
    · exact isSpace_of_isDigit hd
    · decide
  rw [List.cons_append] at hnumber ⊢
  rw [readValue, skipSpace_cons hspace]
  -- a digit and a minus sign begin nothing but a number
  split
  case h_7 => exact hnumber
  all_goals
    rename_i heq
    rw [(List.cons.inj heq).1] at hd
    rcases hd with hd | hd <;> cases hd

/-- A value begins with neither white space nor a closing bracket. -/
theorem head_of_spells (h : t.Spells cs) :
    ∃ c others, cs = c :: others ∧ isSpace c = false ∧ c ≠ ']' := by
  cases t with
  | broken => cases h
  | null => exact ⟨_, _, h, by decide, by decide⟩
  | bool b => cases b <;> exact ⟨_, _, h, by decide, by decide⟩
  | number n =>
    obtain ⟨d, ds, rfl, hd⟩ := head_of_numeral h
    rcases hd with hd | rfl
    · refine ⟨d, ds, rfl, isSpace_of_isDigit hd, ?_⟩
      rintro rfl
      cases hd
    · exact ⟨_, _, rfl, by decide, by decide⟩
  | string s =>
    cases h with
    | quoted => exact ⟨_, _, rfl, by decide, by decide⟩
  | array items =>
    obtain ⟨inner, -, rfl⟩ := h
    exact ⟨_, _, rfl, by decide, by decide⟩
  | object members =>
    obtain ⟨inner, -, rfl⟩ := h
    exact ⟨_, _, rfl, by decide, by decide⟩

/-! ## Arrays and objects -/

/-- With fuel for all characters of a text the tree is read back, and what stands behind is left. -/
def ReadsBack (t : Tree) : Prop :=
  ∀ (fuel : Nat) {cs rest : List Char}, t.Spells cs → 2 * cs.length ≤ fuel → Numeral.Ends rest →
    readValue (fuel + 1) (cs ++ rest) = (t, rest)

/-- The characters that follow a value in an array or an object. -/
def Closes (c : Char) : Prop := c = ',' ∨ c = ']' ∨ c = '\x7d'

theorem Closes.not_isSpace (h : Closes c) : isSpace c = false := by
  rcases h with rfl | rfl | rfl <;> decide

theorem ends_closes (h : Closes c) (rest : List Char) : Numeral.Ends (c :: rest) := by
  apply Numeral.ends_cons
  rcases h with rfl | rfl | rfl <;> decide

/-- A value with white space around it is read, and what follows the white space is found. -/
theorem ReadsBack.padded (ht : t.ReadsBack) (h : Padded t.Spells cs) (fuel : Nat)
    (hfuel : 2 * cs.length ≤ fuel) (hc : Closes c) (rest : List Char) :
    ∃ others, readValue (fuel + 1) (cs ++ c :: rest) = (t, others) ∧
      skipSpace others = c :: rest := by
  cases h with
  | @around before inner behind hbefore h hbehind =>
    rw [List.length_append, List.length_append] at hfuel
    refine ⟨behind ++ c :: rest, ?_, skipSpace_blank hbehind hc.not_isSpace rest⟩
    rw [List.append_assoc, List.append_assoc, readValue_blank hbefore]
    exact ht fuel h (by omega) (ends_blank hbehind (ends_closes hc rest))

theorem readKey_padded {key : Tree} (h : Padded (KeySpells key) cs) (fuel : Nat)
    (rest : List Char) :
    ∃ s others, key = .string s ∧ readValue (fuel + 1) (cs ++ ':' :: rest) = (.string s, others) ∧
      skipSpace others = ':' :: rest := by
  cases h with
  | @around before inner behind hbefore h hbehind =>
    cases h with
    | string h =>
      refine ⟨_, behind ++ ':' :: rest, rfl, ?_, skipSpace_blank hbehind (by decide) rest⟩
      rw [List.append_assoc, List.append_assoc, readValue_blank hbefore]
      exact readValue_string h _

theorem readItems_last {others : List Char} (h : readValue fuel cs = (t, others))
    (hskip : skipSpace others = ']' :: rest) : readItems (fuel + 1) cs = ([t], rest) := by
  simp only [readItems, h, hskip]

theorem readItems_comma {others : List Char} (h : readValue fuel cs = (t, others))
    (hskip : skipSpace others = ',' :: rest) :
    readItems (fuel + 1) cs = (t :: (readItems fuel rest).1, (readItems fuel rest).2) := by
  simp only [readItems, h, hskip]

/-- Items that are read back one by one are read back as a list, up to the bracket. -/
theorem readItems_of_spells {items : List Tree} (hne : items ≠ []) (hitems : ∀ t ∈ items, t.ReadsBack)
    (h : ItemsSpell items cs) (hfuel : 2 * cs.length ≤ fuel) (rest : List Char) :
    readItems (fuel + 2) (cs ++ ']' :: rest) = (items, rest) := by
  induction items generalizing fuel cs with
  | nil => exact absurd rfl hne
  | cons t items ih =>
    obtain ⟨ht, hitems⟩ := List.forall_mem_cons.1 hitems
    cases items with
    | nil =>
      obtain ⟨others, hread, hskip⟩ := ht.padded h _ hfuel (.inr (.inl rfl)) rest
      exact readItems_last hread hskip
    | cons u items =>
      obtain ⟨first, later, hfirst, hlater, rfl⟩ := h
      rw [List.length_append, List.length_cons] at hfuel
      -- the comma pays for the step to the items behind it
      obtain ⟨fuel, rfl⟩ : ∃ k, fuel = k + 1 := ⟨fuel - 1, by omega⟩
      obtain ⟨others, hread, hskip⟩ :=
        ht.padded hfirst (fuel + 1) (by omega) (.inl rfl) (later ++ ']' :: rest)
      rw [List.append_assoc, List.cons_append, readItems_comma hread hskip,
        ih (List.cons_ne_nil u items) hitems hlater (by omega)]

/-- Items do not begin with the bracket that closes them. -/
theorem head_of_itemsSpell {items : List Tree} (h : ItemsSpell (t :: items) cs) (rest : List Char) :
    ∃ c others, skipSpace (cs ++ rest) = c :: others ∧ c ≠ ']' := by
  have hpadded : ∀ {cs rest : List Char}, Padded t.Spells cs →
      ∃ c others, skipSpace (cs ++ rest) = c :: others ∧ c ≠ ']' := by
    intro cs rest h
    cases h with
    | @around before inner behind hbefore h hbehind =>
      obtain ⟨c, others, rfl, hspace, hc⟩ := head_of_spells h
      refine ⟨c, others ++ (behind ++ rest), ?_, hc⟩
      rw [List.append_assoc, List.append_assoc, skipSpace_append hbefore, List.cons_append,
        skipSpace_cons hspace]
  cases items with
  | nil => exact hpadded h
  | cons u items =>
    obtain ⟨first, later, hfirst, -, rfl⟩ := h
    rw [List.append_assoc]
    exact hpadded hfirst

theorem readsBack_array {items : List Tree} (hitems : ∀ t ∈ items, t.ReadsBack) :
    (array items).ReadsBack := by
  rintro fuel _ rest ⟨inner, h, rfl⟩ hfuel -
  rw [List.length_cons, List.length_append, List.length_singleton] at hfuel
  have hbracket : ∀ cs, skipSpace ('[' :: cs) = '[' :: cs := fun _ => rfl
  rw [List.cons_append, List.append_assoc, List.singleton_append]
  cases items with
  | nil => simp only [readValue, hbracket, skipSpace_blank h (show isSpace ']' = false by decide)]
  | cons t items =>
    obtain ⟨fuel, rfl⟩ : ∃ k, fuel = k + 2 := ⟨fuel - 2, by omega⟩
    obtain ⟨c, others, hskip, hc⟩ := head_of_itemsSpell h (']' :: rest)
    have hread := readItems_of_spells (List.cons_ne_nil t items) hitems h
      (show 2 * inner.length ≤ fuel by omega) rest
    simp only [readValue, hbracket, hskip, hread]
    split
    · rename_i heq
      exact absurd (List.cons.inj heq).1 hc
    · rfl

theorem readMembers_last {key : Option String} {others behind later : List Char}
    (hkey : readValue fuel cs = (.string key, others)) (hcolon : skipSpace others = ':' :: behind)
    (h : readValue fuel behind = (t, later)) (hskip : skipSpace later = '\x7d' :: rest) :
    readMembers (fuel + 1) cs = ([(.string key, t)], rest) := by
  simp only [readMembers, hkey, hcolon, h, hskip]

theorem readMembers_comma {key : Option String} {others behind later : List Char}
    (hkey : readValue fuel cs = (.string key, others)) (hcolon : skipSpace others = ':' :: behind)
    (h : readValue fuel behind = (t, later)) (hskip : skipSpace later = ',' :: rest) :
    readMembers (fuel + 1) cs =
      ((.string key, t) :: (readMembers fuel rest).1, (readMembers fuel rest).2) := by
  simp only [readMembers, hkey, hcolon, h, hskip]

/-- The same for members, up to the brace. -/
theorem readMembers_of_spells {members : List (Tree × Tree)} (hne : members ≠ [])
    (hmembers : ∀ m ∈ members, m.2.ReadsBack) (h : MembersSpell members cs)
    (hfuel : 2 * cs.length ≤ fuel) (rest : List Char) :
    readMembers (fuel + 2) (cs ++ '\x7d' :: rest) = (members, rest) := by
  induction members generalizing fuel cs with
  | nil => exact absurd rfl hne
  | cons m members ih =>
    obtain ⟨key, value⟩ := m
    obtain ⟨(hvalue : value.ReadsBack), hothers⟩ := List.forall_mem_cons.1 hmembers
    cases members with
    | nil =>
      cases h with
      | @colon name written hname hwritten =>
        rw [List.length_append, List.length_cons] at hfuel
        rw [List.append_assoc, List.cons_append]
        obtain ⟨s, others, rfl, hkey, hcolon⟩ :=
          readKey_padded hname fuel (written ++ '\x7d' :: rest)
        obtain ⟨later, hread, hskip⟩ :=
          hvalue.padded hwritten fuel (by omega) (.inr (.inr rfl)) rest
        exact readMembers_last hkey hcolon hread hskip
    | cons next members =>
      obtain ⟨_, text, hfirst, htext, rfl⟩ := h
      cases hfirst with
      | @colon name written hname hwritten =>
        rw [List.length_append, List.length_append, List.length_cons, List.length_cons] at hfuel
        obtain ⟨fuel, rfl⟩ : ∃ k, fuel = k + 1 := ⟨fuel - 1, by omega⟩
        rw [List.append_assoc, List.append_assoc, List.cons_append, List.cons_append]
        obtain ⟨s, others, rfl, hkey, hcolon⟩ :=
          readKey_padded hname (fuel + 1) (written ++ ',' :: (text ++ '\x7d' :: rest))
        obtain ⟨later, hread, hskip⟩ :=
          hvalue.padded hwritten (fuel + 1) (by omega) (.inl rfl) (text ++ '\x7d' :: rest)
        rw [readMembers_comma hkey hcolon hread hskip,
          ih (List.cons_ne_nil next members) hothers htext (by omega)]

/-- Members begin with the quote of a key. -/
theorem head_of_membersSpell {m : Tree × Tree} {members : List (Tree × Tree)}
    (h : MembersSpell (m :: members) cs) (rest : List Char) :
    ∃ others, skipSpace (cs ++ rest) = '"' :: others := by
  have hmember : ∀ {key : Tree} {P : List Char → Prop} {cs rest : List Char}, MemberSpells key P cs →
      ∃ others, skipSpace (cs ++ rest) = '"' :: others := by
    intro key P cs rest h
    cases h with
    | @colon name value hkey hvalue =>
      cases hkey with
      | @around before inner behind hbefore h hbehind =>
        cases h with
        | string h =>
          cases h with
          | @quoted ps cs hstand h =>
            refine ⟨cs ++ ['"'] ++ (behind ++ (':' :: value ++ rest)), ?_⟩
            simp only [List.append_assoc, List.cons_append]
            rw [skipSpace_append hbefore, skipSpace_cons (by decide)]
  obtain ⟨key, value⟩ := m
  cases members with
  | nil => exact hmember h
  | cons next members =>
    obtain ⟨first, later, hfirst, -, rfl⟩ := h
    rw [List.append_assoc]
    exact hmember hfirst

theorem readsBack_object {members : List (Tree × Tree)} (hmembers : ∀ m ∈ members, m.2.ReadsBack) :
    (object members).ReadsBack := by
  rintro fuel _ rest ⟨inner, h, rfl⟩ hfuel -
  rw [List.length_cons, List.length_append, List.length_singleton] at hfuel
  have hbrace : ∀ cs, skipSpace ('\x7b' :: cs) = '\x7b' :: cs := fun _ => rfl
  rw [List.cons_append, List.append_assoc, List.singleton_append]
  cases members with
  | nil =>
    simp only [readValue, hbrace, skipSpace_blank h (show isSpace '\x7d' = false by decide)]
  | cons m members =>
    obtain ⟨fuel, rfl⟩ : ∃ k, fuel = k + 2 := ⟨fuel - 2, by omega⟩
    obtain ⟨others, hskip⟩ := head_of_membersSpell h ('\x7d' :: rest)
    have hread := readMembers_of_spells (List.cons_ne_nil m members) hmembers h
      (show 2 * inner.length ≤ fuel by omega) rest
    simp only [readValue, hbrace, hskip, hread]
    rfl

/-! ## Trees -/

theorem sizeOf_snd_lt {α β : Type} [SizeOf α] [SizeOf β] {m : α × β} {members : List (α × β)}
    (h : m ∈ members) : sizeOf m.2 < sizeOf members := by
  have hm : sizeOf m = 1 + sizeOf m.1 + sizeOf m.2 := rfl
  have hlist := List.sizeOf_lt_of_mem h
  omega

/-- Every tree is read back from its texts. -/
theorem readsBack : ∀ t : Tree, t.ReadsBack
  | .broken => fun _ _ _ h _ _ => absurd h id
  | .null => by
    rintro fuel _ rest rfl - -
    rfl
  | .bool true => by
    rintro fuel _ rest rfl - -
    rfl
  | .bool false => by
    rintro fuel _ rest rfl - -
    rfl
  | .number _ => fun _ _ _ h _ hrest => readValue_numeral h hrest
  | .string _ => fun _ _ rest h _ _ => readValue_string h rest
  | .array items => readsBack_array fun t _ => readsBack t
  | .object members => readsBack_object fun m hm =>
    have _ : sizeOf m.2 < sizeOf members := sizeOf_snd_lt hm
    readsBack m.2
termination_by t => sizeOf t

/-- **Whoever writes a tree has it read.** A text by the grammar, with white space around it or not,
is read as its tree, and nothing is left behind it. -/
theorem ofText_of_writes {text : String} (h : t.Writes text) : ofText text = (t, []) := by
  unfold Writes at h
  unfold ofText
  generalize text.toList = cs at h
  cases h with
  | @around before inner behind hbefore h hbehind =>
    have hnil : skipSpace behind = [] := by
      rw [← List.append_nil behind, skipSpace_append hbehind]
      rfl
    have hends : Numeral.Ends behind := by
      simpa using ends_blank hbehind Numeral.ends_nil
    have hfuel : 2 * inner.length ≤ 2 * (before ++ (inner ++ behind)).length + 1 := by
      rw [List.length_append, List.length_append]
      omega
    have hread := t.readsBack _ h hfuel hends
    simp only [readValue_blank hbefore, hread, hnil]

end GiftExchange.Tree
