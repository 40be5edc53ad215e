import GiftExchange.Pairing.Basic
import Mathlib.Data.List.Nodup

set_option autoImplicit false

/-! # The indexes of a pairing

A pairing keeps its pairs in a list and finds them through two indexes. `IndexedBy` says that an
index has the position of every pair under its key and nothing else, whatever the key is; a pairing
is `Indexed` when that holds of both sides. From it follow the facts that every lookup rests on:
nobody gives twice, nobody receives twice, and a lookup answers with a pair that is in the list.
Adding a pair keeps both indexes right as long as neither side of it is taken. A restriction does not
look at receivers, and need not: what it adds are different pairs of one pairing (`Chosen`). -/

namespace GiftExchange

/-! ## One index -/

/-- The index has the position of each pair under the key of the pair, and nothing else. -/
def IndexedBy (key : Pair → Id) (pairs : List Pair) (index : Std.TreeMap Id Nat) : Prop :=
  ∀ (id : Id) (i : Nat), index[id]? = some i ↔ (pairs.map key)[i]? = some id

namespace IndexedBy

variable {key : Pair → Id} {pairs : List Pair} {index : Std.TreeMap Id Nat}

theorem nil : IndexedBy key [] ∅ := by
  intro id i
  simp

/-- An indexed key is the key of one pair only. -/
theorem nodup (h : IndexedBy key pairs index) : (pairs.map key).Nodup := by
  rw [List.nodup_iff_getElem?_ne_getElem?]
  intro i j hij hj heq
  have hkey : (pairs.map key)[j]? = some (pairs.map key)[j] := List.getElem?_eq_getElem hj
  have hj' : index[(pairs.map key)[j]]? = some j := (h _ _).2 hkey
  have hi' : index[(pairs.map key)[j]]? = some i := (h _ _).2 (heq.trans hkey)
  exact absurd (Option.some.inj (hi'.symm.trans hj')) (Nat.ne_of_lt hij)

/-- The index holds no position beyond the list. -/
theorem lt_length (h : IndexedBy key pairs index) {id : Id} {i : Nat} (hi : index[id]? = some i) :
    i < pairs.length := by
  have hkey : (pairs.map key)[i]? = some id := (h id i).1 hi
  rw [← List.length_map key]
  exact (List.getElem?_eq_some_iff.1 hkey).1

theorem contains_iff (h : IndexedBy key pairs index) {id : Id} :
    index.contains id = true ↔ id ∈ pairs.map key := by
  rw [Std.TreeMap.contains_eq_isSome_getElem?, Option.isSome_iff_exists,
    List.mem_iff_getElem?]
  exact exists_congr fun i => h id i

/-- Following the index leads to the pair with the key. -/
theorem find_eq_some_iff (h : IndexedBy key pairs index) {id : Id} {p : Pair} :
    (index[id]?.bind fun i => pairs[i]?) = some p ↔ p ∈ pairs ∧ key p = id := by
  simp only [Option.bind_eq_some_iff, h id, List.getElem?_map, Option.map_eq_some_iff,
    List.mem_iff_getElem?]
  constructor
  · rintro ⟨i, ⟨q, hq, hkey⟩, hp⟩
    rw [hq] at hp
    cases hp
    exact ⟨⟨i, hq⟩, hkey⟩
  · rintro ⟨⟨i, hp⟩, hkey⟩
    exact ⟨i, ⟨p, hp, hkey⟩, hp⟩

/-- A pair with a new key is recorded at the position behind all others. -/
theorem append (h : IndexedBy key pairs index) {p : Pair} (hp : key p ∉ pairs.map key) :
    IndexedBy key (pairs ++ [p]) (index.insert (key p) pairs.length) := by
  intro id i
  rw [Std.TreeMap.getElem?_insert, List.map_append, List.map_singleton]
  by_cases hid : key p = id
  · subst hid
    rw [if_pos Std.ReflCmp.compare_self]
    rcases Nat.lt_trichotomy i (pairs.map key).length with hlt | rfl | hgt
    · -- an earlier position would make the key an old one
      rw [List.getElem?_append_left hlt]
      constructor
      · intro hi
        rw [List.length_map] at hlt
        exact absurd (Option.some.inj hi) (Nat.ne_of_gt hlt)
      · exact fun hi => absurd (List.mem_of_getElem? hi) hp
    · simp
    · rw [List.getElem?_eq_none (by rw [List.length_append]; exact hgt)]
      rw [List.length_map] at hgt
      simp [Nat.ne_of_lt hgt]
  · have hne : ¬ compare (key p) id = .eq := fun hc => hid (Std.LawfulEqOrd.eq_of_compare hc)
    rw [if_neg hne, h id i]
    rcases Nat.lt_trichotomy i (pairs.map key).length with hlt | rfl | hgt
    · rw [List.getElem?_append_left hlt]
    · simp [hid]
    · rw [List.getElem?_eq_none (Nat.le_of_lt hgt),
        List.getElem?_eq_none (by rw [List.length_append]; exact hgt)]

end IndexedBy

/-! ## Both indexes -/

/-- The giver and the receiver of a pair. -/
def Pair.ids (p : Pair) : Id × Id := (p.giver, p.receiver)

namespace Pairing

/-- Both indexes of the pairing agree with its list. -/
structure Indexed (s : Pairing) : Prop where
  byGiver : IndexedBy Pair.giver s.pairs s.byGiver
  byReceiver : IndexedBy Pair.receiver s.pairs s.byReceiver

/-- Somebody gives to somebody. -/
def Gives (s : Pairing) (giver receiver : Id) : Prop :=
  ∃ p ∈ s.pairs, p.giver = giver ∧ p.receiver = receiver

theorem indexed_empty : empty.Indexed :=
  ⟨IndexedBy.nil, IndexedBy.nil⟩

variable {s : Pairing}

theorem Indexed.push (h : s.Indexed) {p : Pair} (hg : p.giver ∉ s.pairs.map Pair.giver)
    (hr : p.receiver ∉ s.pairs.map Pair.receiver) : (s.push p).Indexed :=
  ⟨h.byGiver.append hg, h.byReceiver.append hr⟩

theorem Indexed.hasGiver_iff (h : s.Indexed) {id : Id} :
    s.hasGiver id = true ↔ id ∈ s.pairs.map Pair.giver :=
  h.byGiver.contains_iff

theorem Indexed.hasReceiver_iff (h : s.Indexed) {id : Id} :
    s.hasReceiver id = true ↔ id ∈ s.pairs.map Pair.receiver :=
  h.byReceiver.contains_iff

theorem Indexed.pairOf?_eq_some_iff (h : s.Indexed) {giver : Id} {p : Pair} :
    s.pairOf? giver = some p ↔ p ∈ s.pairs ∧ p.giver = giver :=
  h.byGiver.find_eq_some_iff

theorem Indexed.receiverOf?_eq_some_iff (h : s.Indexed) {giver receiver : Id} :
    s.receiverOf? giver = some receiver ↔ s.Gives giver receiver := by
  simp only [receiverOf?, Option.map_eq_some_iff, h.pairOf?_eq_some_iff, Gives, and_assoc]

theorem Indexed.giverOf?_eq_some_iff (h : s.Indexed) {giver receiver : Id} :
    s.giverOf? receiver = some giver ↔ s.Gives giver receiver := by
  simp only [giverOf?, Option.map_eq_some_iff, h.byReceiver.find_eq_some_iff, Gives, and_assoc]
  exact exists_congr fun p => and_congr_right fun _ => And.comm

/-- The list settles both indexes, so the same list answers every question alike. -/
theorem Indexed.lookups_congr {s' : Pairing} (h : s.Indexed) (h' : s'.Indexed)
    (hpairs : s'.pairs = s.pairs) (id : Id) :
    s'.pairOf? id = s.pairOf? id ∧ s'.receiverOf? id = s.receiverOf? id ∧
      s'.giverOf? id = s.giverOf? id ∧ s'.hasGiver id = s.hasGiver id ∧
      s'.hasReceiver id = s.hasReceiver id := by
  have hpair : s'.pairOf? id = s.pairOf? id := Option.ext fun p => by
    rw [h'.pairOf?_eq_some_iff, h.pairOf?_eq_some_iff, hpairs]
  refine ⟨hpair, by rw [receiverOf?, receiverOf?, hpair], Option.ext fun giver => ?_,
    Bool.eq_iff_iff.2 ?_, Bool.eq_iff_iff.2 ?_⟩
  · rw [h'.giverOf?_eq_some_iff, h.giverOf?_eq_some_iff, Gives, Gives, hpairs]
  · rw [h'.hasGiver_iff, h.hasGiver_iff, hpairs]
  · rw [h'.hasReceiver_iff, h.hasReceiver_iff, hpairs]

theorem insert_eq (s : Pairing) (p : Pair) :
    s.insert p =
      if s.hasGiver p.giver then .error (.duplicateGiver p.giver)
      else if s.hasReceiver p.receiver then .error (.duplicateReceiver p.receiver)
      else .ok (s.push p) := by
  unfold insert offer
  split_ifs <;> rfl

/-- Offering a pair is inserting it, with the pairing kept when that fails. -/
theorem offer_eq (s : Pairing) (p : Pair) :
    s.offer p =
      match s.insert p with
      | .ok t => (.ok (), t)
      | .error err => (.error err, s) := by
  rw [insert_eq, offer]
  split_ifs <;> rfl

/-- Only a pair with neither side taken is added, and it goes to the end. -/
theorem Indexed.insert_eq_ok_iff (h : s.Indexed) {p : Pair} {t : Pairing} :
    s.insert p = .ok t ↔
      p.giver ∉ s.pairs.map Pair.giver ∧ p.receiver ∉ s.pairs.map Pair.receiver ∧
        t = s.push p := by
  rw [← h.hasGiver_iff, ← h.hasReceiver_iff, insert_eq]
  by_cases hg : s.hasGiver p.giver = true
  · simp [hg]
  · by_cases hr : s.hasReceiver p.receiver = true
    · simp [hg, hr]
    · simp [hg, hr, eq_comm]

/-! ## Restrictions -/

/-- What a restriction of `s` has chosen so far: some of its pairs, recorded in both indexes. -/
structure Chosen (s chosen : Pairing) : Prop where
  indexed : chosen.Indexed
  subset : ∀ p ∈ chosen.pairs, p ∈ s.pairs

theorem chosen_empty : s.Chosen empty :=
  ⟨indexed_empty, fun _ hp => by cases hp⟩

/-- A new pair of `s` meets neither its giver nor its receiver among the chosen pairs, because both
stand in one pair of `s` only. -/
theorem Chosen.push {chosen : Pairing} (hc : s.Chosen chosen) (h : s.Indexed) {p : Pair}
    (hp : p ∈ s.pairs) (hnew : p ∉ chosen.pairs) : s.Chosen (chosen.push p) := by
  have hfree : ∀ key : Pair → Id, (s.pairs.map key).Nodup → key p ∉ chosen.pairs.map key := by
    intro key hnodup hmem
    obtain ⟨q, hq, hkey⟩ := List.mem_map.1 hmem
    have hqp : q = p := List.inj_on_of_nodup_map hnodup (hc.subset q hq) hp hkey
    exact hnew (hqp ▸ hq)
  refine ⟨hc.indexed.push (hfree _ h.byGiver.nodup) (hfree _ h.byReceiver.nodup), fun q hq => ?_⟩
  rcases List.mem_append.1 hq with hold | hlast
  · exact hc.subset q hold
  · rwa [List.mem_singleton.1 hlast]

/-- All that picking a giver can come to: there is no pair for it, or the pair is chosen already,
or it is added. -/
theorem Chosen.pick_cases {chosen : Pairing} (hc : s.Chosen chosen) (h : s.Indexed) (giver : Id) :
    (s.pairOf? giver = none ∧ s.pick chosen giver = chosen) ∨
    (∃ p ∈ chosen.pairs, s.pairOf? giver = some p ∧ s.pick chosen giver = chosen) ∨
    (∃ p ∉ chosen.pairs, s.pairOf? giver = some p ∧ s.pick chosen giver = chosen.push p) := by
  unfold pick
  by_cases hgiver : chosen.hasGiver giver = true
  · rw [if_pos hgiver]
    obtain ⟨p, hp, rfl⟩ := List.mem_map.1 (hc.indexed.hasGiver_iff.1 hgiver)
    exact .inr (.inl ⟨p, hp, h.pairOf?_eq_some_iff.2 ⟨hc.subset p hp, rfl⟩, rfl⟩)
  · rw [if_neg hgiver]
    cases hfound : s.pairOf? giver with
    | none => exact .inl ⟨rfl, rfl⟩
    | some p =>
      obtain ⟨-, rfl⟩ := h.pairOf?_eq_some_iff.1 hfound
      refine .inr (.inr ⟨p, fun hp => hgiver ?_, rfl, rfl⟩)
      exact hc.indexed.hasGiver_iff.2 (List.mem_map_of_mem hp)

theorem Chosen.foldl_pick {chosen : Pairing} (hc : s.Chosen chosen) (h : s.Indexed)
    (givers : List Id) :
    s.Chosen (givers.foldl s.pick chosen) ∧
      (givers.foldl s.pick chosen).pairs = chosen.pairs ++
        ((givers.filterMap s.pairOf?).filter (· ∉ chosen.pairs)).eraseDups := by
  induction givers generalizing chosen with
  | nil => exact ⟨hc, by simp⟩
  | cons giver rest ih =>
    rw [List.foldl_cons]
    obtain ⟨hnone, hpick⟩ | ⟨p, hp, hfound, hpick⟩ | ⟨p, hp, hfound, hpick⟩ :=
      hc.pick_cases h giver
    · rw [hpick, List.filterMap_cons_none hnone]
      exact ih hc
    · rw [hpick, List.filterMap_cons_some hfound, List.filter_cons_of_neg (by simpa using hp)]
      exact ih hc
    · obtain ⟨hrest, hpairs⟩ := ih (hc.push h (h.pairOf?_eq_some_iff.1 hfound).1 hp)
      rw [hpick, List.filterMap_cons_some hfound, List.filter_cons_of_pos (by simpa using hp),
        List.eraseDups_cons, List.filter_filter]
      refine ⟨hrest, ?_⟩
      -- the pair just added is skipped from here on
      have hskip : ∀ q : Pair, decide (q ∉ chosen.pairs ++ [p]) =
          ((!q == p) && decide (q ∉ chosen.pairs)) := by
        intro q
        by_cases hqp : q = p <;> simp [hqp]
      rw [hpairs, Pairing.push]
      simp only [List.append_assoc, List.singleton_append, hskip]

/-- A restriction is indexed, although its pairs are added without a look at their receivers. -/
theorem Indexed.restrict (h : s.Indexed) (givers : List Id) : (s.restrict givers).Indexed :=
  (chosen_empty.foldl_pick h givers).1.indexed

/-- A restriction has the pair of every listed giver who has one, at the first place where this
giver is listed. -/
theorem Indexed.restrict_pairs (h : s.Indexed) (givers : List Id) :
    (s.restrict givers).pairs = (givers.filterMap s.pairOf?).eraseDups := by
  rw [Pairing.restrict, (chosen_empty.foldl_pick h givers).2]
  simp [empty]

theorem eraseDups_of_nodup {α : Type} [DecidableEq α] {l : List α} (h : l.Nodup) :
    l.eraseDups = l := by
  induction l with
  | nil => rfl
  | cons a rest ih =>
    obtain ⟨hnew, hrest⟩ := List.nodup_cons.1 h
    have hkept : rest.filter (fun b => !b == a) = rest := by
      rw [List.filter_eq_self]
      rintro b hb
      have hne : b ≠ a := fun heq => hnew (heq ▸ hb)
      simpa using hne
    rw [List.eraseDups_cons, hkept, ih hrest]

/-- Givers who each have a pair, and none of whom is listed twice, are the givers of the
restriction to them. -/
theorem Indexed.restrict_givers (h : s.Indexed) {givers : List Id} (hnodup : givers.Nodup)
    (hhave : ∀ id ∈ givers, id ∈ s.pairs.map Pair.giver) :
    (s.restrict givers).pairs.map Pair.giver = givers := by
  have hfound : (givers.filterMap s.pairOf?).map Pair.giver = givers := by
    have hsome : ∀ id ∈ givers, (s.pairOf? id).map Pair.giver = some id := by
      intro id hid
      obtain ⟨p, hp, rfl⟩ := List.mem_map.1 (hhave id hid)
      rw [h.pairOf?_eq_some_iff.2 ⟨hp, rfl⟩, Option.map_some]
    rw [List.map_filterMap, List.filterMap_congr hsome, List.filterMap_some]
  have honce : (givers.filterMap s.pairOf?).Nodup := by
    apply List.Nodup.of_map Pair.giver
    rwa [hfound]
  rw [h.restrict_pairs, eraseDups_of_nodup honce, hfound]

/-- A restriction has no pairs but those of the pairing. -/
theorem Indexed.mem_of_mem_restrict (h : s.Indexed) {givers : List Id} {p : Pair}
    (hp : p ∈ (s.restrict givers).pairs) : p ∈ s.pairs :=
  (chosen_empty.foldl_pick h givers).1.subset p hp

/-- The pair of a giver is made of the giver and the receiver that is looked up. -/
theorem Indexed.pairOf?_eq_some_iff_receiverOf? (h : s.Indexed) {giver : Id} {p : Pair} :
    s.pairOf? giver = some p ↔ p.giver = giver ∧ s.receiverOf? giver = some p.receiver := by
  rw [h.pairOf?_eq_some_iff, h.receiverOf?_eq_some_iff]
  constructor
  · rintro ⟨hp, rfl⟩
    exact ⟨rfl, p, hp, rfl, rfl⟩
  · rintro ⟨rfl, q, hq, hgiver, hreceiver⟩
    obtain ⟨giver, receiver, hne⟩ := q
    cases hgiver
    cases hreceiver
    exact ⟨hq, rfl⟩

/-- Pairings that agree about some givers have the same restriction to them. -/
theorem Indexed.restrict_pairs_congr {s' : Pairing} (h : s.Indexed) (h' : s'.Indexed)
    {givers : List Id}
    (hagree : ∀ id ∈ givers, s'.receiverOf? id = s.receiverOf? id) :
    (s'.restrict givers).pairs = (s.restrict givers).pairs := by
  have hpairs : givers.filterMap s'.pairOf? = givers.filterMap s.pairOf? := by
    refine List.filterMap_congr fun id hid => Option.ext fun p => ?_
    rw [h.pairOf?_eq_some_iff_receiverOf?, h'.pairOf?_eq_some_iff_receiverOf?, hagree id hid]
  rw [h.restrict_pairs, h'.restrict_pairs, hpairs]

/-! ## Pairings of lists -/

theorem Indexed.insertIds_eq_ok_iff (h : s.Indexed) {giver receiver : Id} {t : Pairing} :
    s.insertIds giver receiver = .ok t ↔
      ∃ hne : giver ≠ receiver, giver ∉ s.pairs.map Pair.giver ∧
        receiver ∉ s.pairs.map Pair.receiver ∧ t = s.push ⟨giver, receiver, hne⟩ := by
  rw [insertIds, Pair.of]
  by_cases hne : giver = receiver
  · simp [hne, Except.bind]
  · rw [dif_neg hne]
    show s.insert ⟨giver, receiver, hne⟩ = .ok t ↔ _
    rw [h.insert_eq_ok_iff]
    exact ⟨fun hs => ⟨hne, hs⟩, fun ⟨_, hs⟩ => hs⟩

/-- Where each step puts one pair at the end, all steps put the listed ones there, as `view` shows
them. -/
theorem foldlM_appends {α : Type} {view : Pair → α}
    {step : Pairing → α → Except PairingError Pairing}
    (hstep : ∀ {s t : Pairing} {a : α}, s.Indexed → step s a = .ok t →
      t.Indexed ∧ t.pairs.map view = s.pairs.map view ++ [a])
    {l : List α} {t : Pairing} (h : s.Indexed) (hok : l.foldlM step s = .ok t) :
    t.Indexed ∧ t.pairs.map view = s.pairs.map view ++ l := by
  induction l generalizing s with
  | nil =>
    cases hok
    exact ⟨h, by simp⟩
  | cons a rest ih =>
    rw [List.foldlM_cons] at hok
    cases hone : step s a with
    | error e =>
      rw [hone] at hok
      cases hok
    | ok one =>
      rw [hone] at hok
      obtain ⟨hindexed, hview⟩ := hstep h hone
      obtain ⟨ht, hall⟩ := ih hindexed hok
      exact ⟨ht, by rw [hall, hview, List.append_assoc, List.singleton_append]⟩

/-- A pairing of listed pairs has them in the order of the list. -/
theorem ofList_eq_ok {l : List Pair} (hok : ofList l = .ok s) : s.Indexed ∧ s.pairs = l := by
  have hstep : ∀ {s t : Pairing} {p : Pair}, s.Indexed → s.insert p = .ok t →
      t.Indexed ∧ t.pairs.map id = s.pairs.map id ++ [p] := by
    intro s t p h hone
    obtain ⟨hg, hr, rfl⟩ := h.insert_eq_ok_iff.1 hone
    exact ⟨h.push hg hr, by simp [push]⟩
  simpa [empty] using foldlM_appends hstep indexed_empty hok

/-- A pairing of listed identifiers has them in the order of the list. -/
theorem ofIds_eq_ok {l : List (Id × Id)} (hok : ofIds l = .ok s) :
    s.Indexed ∧ s.pairs.map Pair.ids = l := by
  have hstep : ∀ {s t : Pairing} {ids : Id × Id}, s.Indexed →
      s.insertIds ids.1 ids.2 = .ok t →
      t.Indexed ∧ t.pairs.map Pair.ids = s.pairs.map Pair.ids ++ [ids] := by
    intro s t ids h hone
    obtain ⟨hne, hg, hr, rfl⟩ := h.insertIds_eq_ok_iff.1 hone
    exact ⟨h.push hg hr, by simp [push, Pair.ids]⟩
  simpa [empty] using foldlM_appends hstep indexed_empty hok

theorem exists_foldlM_insertIds {l : List (Id × Id)} (h : s.Indexed)
    (hne : ∀ p ∈ l, p.1 ≠ p.2) (hg : (s.pairs.map Pair.giver ++ l.map Prod.fst).Nodup)
    (hr : (s.pairs.map Pair.receiver ++ l.map Prod.snd).Nodup) :
    ∃ t, l.foldlM (fun s p => s.insertIds p.1 p.2) s = .ok t := by
  induction l generalizing s with
  | nil => exact ⟨s, rfl⟩
  | cons p rest ih =>
    have hp : p.1 ≠ p.2 := hne p List.mem_cons_self
    have hg' : p.1 ∉ s.pairs.map Pair.giver := fun hmem =>
      (List.nodup_append.1 hg).2.2 _ hmem _ List.mem_cons_self rfl
    have hr' : p.2 ∉ s.pairs.map Pair.receiver := fun hmem =>
      (List.nodup_append.1 hr).2.2 _ hmem _ List.mem_cons_self rfl
    have hone : s.insertIds p.1 p.2 = .ok (s.push ⟨p.1, p.2, hp⟩) :=
      h.insertIds_eq_ok_iff.2 ⟨hp, hg', hr', rfl⟩
    rw [List.foldlM_cons, hone]
    refine ih (h.push hg' hr') (fun q hq => hne q (List.mem_cons_of_mem _ hq)) ?_ ?_
    · simpa [push] using hg
    · simpa [push] using hr

/-- Identifiers can be paired up when nobody is paired with himself and nobody stands twice on one
side. -/
theorem exists_ofIds {l : List (Id × Id)} (hne : ∀ p ∈ l, p.1 ≠ p.2)
    (hg : (l.map Prod.fst).Nodup) (hr : (l.map Prod.snd).Nodup) : ∃ t, ofIds l = .ok t :=
  exists_foldlM_insertIds indexed_empty hne (by simpa [empty] using hg)
    (by simpa [empty] using hr)

theorem insertIds_ids (s : Pairing) (p : Pair) : s.insertIds p.ids.1 p.ids.2 = s.insert p := by
  have hpair : Pair.of p.ids.1 p.ids.2 = .ok p := dif_neg p.distinct
  rw [insertIds, hpair]
  rfl

theorem ofIds_map_ids (l : List Pair) : ofIds (l.map Pair.ids) = ofList l := by
  rw [ofIds, ofList, List.foldlM_map]
  simp only [insertIds_ids]

/-- Pairs can be put together when nobody stands twice on one side. -/
theorem exists_ofList {l : List Pair} (hg : (l.map Pair.giver).Nodup)
    (hr : (l.map Pair.receiver).Nodup) : ∃ t, ofList l = .ok t := by
  have hne : ∀ ids ∈ l.map Pair.ids, ids.1 ≠ ids.2 := by
    intro ids hids
    obtain ⟨p, -, rfl⟩ := List.mem_map.1 hids
    exact p.distinct
  rw [← ofIds_map_ids]
  refine exists_ofIds hne ?_ ?_
  · rw [List.map_map]
    exact hg
  · rw [List.map_map]
    exact hr

/-- The pairs of a pairing can be put together again. -/
theorem Indexed.exists_ofList (h : s.Indexed) : ∃ t, ofList s.pairs = .ok t :=
  Pairing.exists_ofList h.byGiver.nodup h.byReceiver.nodup

end Pairing

end GiftExchange
