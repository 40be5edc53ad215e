import GiftExchange.Proofs.Conflicts
import Mathlib.Data.List.Dedup

set_option autoImplicit false

/-! # Conflicts and what was recorded

Conflicts are made by recording prohibitions one after the other, in one direction or in both, or from
the conflicts that participants declare. Either way there is a list of the pairs that were recorded, with
repetitions and in some order, and every question about the conflicts is answered by that list
(`TellOf`). A giver is kept only with a receiver (`Populated`), so all answers follow from what is
forbidden, and there one more pair is easily followed (`TellOf.forbid`). The answers make up the
conflicts (`TellOf.eq`): the order of the list is lost. -/

namespace GiftExchange

namespace Conflicts

/-- What is recorded at once: that one must not give to another, or that two must not give to each
other. -/
inductive Prohibition where
  | oneWay (giver receiver : Id)
  | bothWays (a b : Id)

/-- The pairs that a prohibition is about. -/
def Prohibition.pairs : Prohibition → List (Id × Id)
  | .oneWay giver receiver => [(giver, receiver)]
  | .bothWays a b => [(a, b), (b, a)]

/-- The conflicts with one more prohibition. -/
def record (c : Conflicts) : Prohibition → Conflicts
  | .oneWay giver receiver => c.forbid giver receiver
  | .bothWays a b => c.forbidMutual a b

/-- The pairs that some prohibitions are about, in order and with repetitions. -/
def recorded (l : List Prohibition) : List (Id × Id) := l.flatMap Prohibition.pairs

/-- The conflicts tell of the pairs of a list: what is forbidden, how many different pairs there are,
whether there are any, and which receivers a giver has. -/
structure TellOf (c : Conflicts) (l : List (Id × Id)) : Prop where
  forbids : ∀ giver receiver, c.forbids giver receiver = true ↔ (giver, receiver) ∈ l
  size : c.size = l.dedup.length
  isEmpty : c.isEmpty = true ↔ l = []
  isSome : ∀ giver, (c.of? giver).isSome = true ↔ ∃ receiver, (giver, receiver) ∈ l
  receivers : ∀ giver set, c.of? giver = some set →
    ∀ receiver, receiver ∈ set ↔ (giver, receiver) ∈ l

variable {c c' : Conflicts} {l l' : List (Id × Id)} {giver receiver : Id}

/-! ## The pairs that are kept -/

theorem nodup_pairs (c : Conflicts) : c.pairs.Nodup := by
  rw [pairs, List.nodup_flatMap]
  refine ⟨fun entry _ => entry.2.nodup_toList.map fun _ _ h => congrArg Prod.snd h, ?_⟩
  refine c.forbidden.ascending.imp fun {entry entry'} hlt => ?_
  -- two entries have two givers
  rintro p hp hp'
  obtain ⟨_, -, rfl⟩ := List.mem_map.1 hp
  obtain ⟨_, -, heq⟩ := List.mem_map.1 hp'
  rw [congrArg Prod.fst heq] at hlt
  exact Nat.lt_irrefl _ hlt

theorem size_eq_length (c : Conflicts) : c.size = c.pairs.length := by
  have hfold : ∀ (entries : List (Id × IdSet)) (total : Nat),
      (entries.map (·.2)).foldl (fun total receivers => total + receivers.size) total =
        total + (entries.flatMap fun entry =>
          entry.2.toList.map fun receiver => (entry.1, receiver)).length := by
    intro entries
    induction entries with
    | nil => exact fun _ => rfl
    | cons entry rest ih =>
      intro total
      rw [List.map_cons, List.foldl_cons, ih, List.flatMap_cons, List.length_append, List.length_map,
        Nat.add_assoc]
      rfl
  rw [size, SortedMap.values, hfold, Nat.zero_add, pairs]

/-- The different pairs of a list are as many as there are conflicts. -/
theorem size_eq_dedup
    (h : ∀ giver receiver, c.forbids giver receiver = true ↔ (giver, receiver) ∈ l) :
    c.size = l.dedup.length := by
  rw [size_eq_length]
  refine List.Perm.length_eq ((List.perm_ext_iff_of_nodup c.nodup_pairs l.nodup_dedup).2 ?_)
  rintro ⟨giver, receiver⟩
  rw [List.mem_dedup, mem_pairs, h]

/-! ## Answers from what is forbidden -/

/-- Nobody is kept as a giver without a receiver. -/
def Populated (c : Conflicts) : Prop :=
  ∀ giver set, c.of? giver = some set → ∃ receiver, receiver ∈ set

theorem Populated.forbid (h : c.Populated) (a b : Id) : (c.forbid a b).Populated := by
  intro giver set hset
  rw [of?_forbid] at hset
  split at hset
  · cases hset
    exact ⟨b, SortedSet.mem_insert.2 (.inl rfl)⟩
  · exact h giver set hset

/-- Where no giver is kept without a receiver, all answers follow from what is forbidden. -/
theorem TellOf.of_forbids (hpopulated : c.Populated)
    (h : ∀ giver receiver, c.forbids giver receiver = true ↔ (giver, receiver) ∈ l) : TellOf c l where
  forbids := h
  size := size_eq_dedup h
  isEmpty := by
    rw [Conflicts.isEmpty, size_eq_dedup h, beq_iff_eq, List.length_eq_zero_iff, List.dedup_eq_nil]
  isSome giver := by
    simp only [Option.isSome_iff_exists, ← h, forbids_iff]
    constructor
    · rintro ⟨set, hset⟩
      obtain ⟨receiver, hreceiver⟩ := hpopulated giver set hset
      exact ⟨receiver, set, hset, hreceiver⟩
    · rintro ⟨_, set, hset, -⟩
      exact ⟨set, hset⟩
  receivers giver set hset receiver := by
    rw [← h, forbids_iff, hset]
    exact ⟨fun hreceiver => ⟨set, rfl, hreceiver⟩, fun ⟨_, rfl, hreceiver⟩ => hreceiver⟩

theorem TellOf.of?_eq_some_iff (h : TellOf c l) {set : IdSet} :
    c.of? giver = some set ↔
      (∃ receiver, (giver, receiver) ∈ l) ∧ ∀ receiver, receiver ∈ set ↔ (giver, receiver) ∈ l := by
  constructor
  · intro hset
    exact ⟨(h.isSome giver).1 (hset ▸ rfl), h.receivers giver set hset⟩
  · rintro ⟨hsome, hmem⟩
    obtain ⟨kept, hkept⟩ := Option.isSome_iff_exists.1 ((h.isSome giver).2 hsome)
    have hsame : kept = set := SortedSet.ext fun receiver => by
      rw [h.receivers giver kept hkept, hmem]
    rw [hkept, hsame]

theorem TellOf.populated (h : TellOf c l) : c.Populated := by
  intro giver set hset
  obtain ⟨⟨receiver, hreceiver⟩, hmem⟩ := h.of?_eq_some_iff.1 hset
  exact ⟨receiver, (hmem receiver).2 hreceiver⟩

/-- Conflicts that tell of the same pairs are the same. -/
theorem TellOf.eq (h : TellOf c l) (h' : TellOf c' l') (hpairs : ∀ p, p ∈ l ↔ p ∈ l') : c = c' := by
  have hforbidden : c.forbidden = c'.forbidden := SortedMap.ext fun giver =>
    Option.ext fun set => h.of?_eq_some_iff.trans (by
      simp only [hpairs]
      exact h'.of?_eq_some_iff.symm)
  obtain ⟨forbidden⟩ := c
  cases hforbidden
  rfl

/-! ## Recording -/

theorem tellOf_empty : TellOf empty [] :=
  .of_forbids (fun _ _ h => by cases h) fun _ _ =>
    iff_of_false Bool.false_ne_true List.not_mem_nil

/-- One more pair is recorded. -/
theorem TellOf.forbid (h : TellOf c l) (a b : Id) : TellOf (c.forbid a b) (l ++ [(a, b)]) :=
  .of_forbids (h.populated.forbid a b) fun giver receiver => by
    rw [forbids_forbid, h.forbids, List.mem_append, List.mem_singleton]

theorem TellOf.foldl_forbid (h : TellOf c l) (ps : List (Id × Id)) :
    TellOf (ps.foldl (fun c p => c.forbid p.1 p.2) c) (l ++ ps) := by
  induction ps generalizing c l with
  | nil => rwa [List.append_nil]
  | cons p rest ih =>
    have hrest := ih (h.forbid p.1 p.2)
    rwa [List.append_assoc] at hrest

theorem tellOf_ofPairs (l : List (Id × Id)) : TellOf (ofPairs l) l :=
  tellOf_empty.foldl_forbid l

/-- Recording prohibitions forbids their pairs one after the other. -/
theorem foldl_record (calls : List Prohibition) :
    calls.foldl record empty = ofPairs (recorded calls) := by
  have hrecord : record = fun c p => p.pairs.foldl (fun c p => c.forbid p.1 p.2) c := by
    funext c p
    cases p with
    | oneWay giver receiver => rfl
    | bothWays a b => rfl
  rw [ofPairs, recorded, List.foldl_flatMap, hrecord]

/-- **Conflicts tell what was recorded.** Take any prohibitions, recorded one after the other with nothing
forbidden before, or any participants, among them people with one identifier or with conflicts with
themselves. Whether a receiver is forbidden for a giver, how many different pairs are forbidden, whether
any are, and which receivers a giver must not give to is answered by the pairs that were recorded; for
participants these are the ones that somebody with the giver's identifier declares. The same pairs make
the same conflicts, so the order does not matter, and neither does it how often a pair is recorded. -/
theorem conflicts_tell_what_was_recorded :
    (∀ calls : List Prohibition, TellOf (calls.foldl record empty) (recorded calls)) ∧
    (∀ ps : List Participant, TellOf (ofParticipants ps) (declared ps) ∧
      ∀ giver receiver, (giver, receiver) ∈ declared ps ↔
        ∃ p ∈ ps, p.id = giver ∧ receiver ∈ p.conflicts) ∧
    (∀ calls calls' : List Prohibition, (∀ pair, pair ∈ recorded calls ↔ pair ∈ recorded calls') →
      calls.foldl record empty = calls'.foldl record empty) ∧
    (∀ calls calls' : List Prohibition, calls.Perm calls' →
      calls.foldl record empty = calls'.foldl record empty) ∧
    ∀ ps ps' : List Participant, ps.Perm ps' → ofParticipants ps = ofParticipants ps' := by
  have hsame : ∀ l l' : List (Id × Id), (∀ p, p ∈ l ↔ p ∈ l') → ofPairs l = ofPairs l' :=
    fun l l' hpairs => (tellOf_ofPairs l).eq (tellOf_ofPairs l') hpairs
  simp only [foldl_record, ofParticipants_eq_ofPairs]
  refine ⟨fun calls => tellOf_ofPairs (recorded calls),
    fun ps => ⟨tellOf_ofPairs (declared ps), fun _ _ => mem_declared⟩,
    fun calls calls' hpairs => hsame _ _ hpairs, fun calls calls' hperm => ?_, fun ps ps' hperm => ?_⟩
  · exact hsame _ _ fun _ => (hperm.flatMap_right _).mem_iff
  · exact hsame _ _ fun _ => (hperm.flatMap_right _).mem_iff

/-- Prohibitions that say the same twice, and one that is about one person only. -/
def repeatedCalls : List Prohibition :=
  [.oneWay (.ofNat 1) (.ofNat 2), .bothWays (.ofNat 2) (.ofNat 1), .bothWays (.ofNat 3) (.ofNat 3),
    .oneWay (.ofNat 1) (.ofNat 4), .oneWay (.ofNat 1) (.ofNat 2)]

/-- Two people with one identifier, the first of whom has a conflict with himself. -/
def namesakes : List Participant :=
  [⟨.ofNat 1, "Ann", "ann", "ann@example.com", .ofList [.ofNat 2, .ofNat 1], .none⟩,
    .new (.ofNat 2) "Ben" "ben" "ben@example.com",
    ⟨.ofNat 1, "Anna", "anna", "anna@example.com", .ofList [.ofNat 3, .ofNat 2], .none⟩]

/-- Seven pairs are recorded, of which four are different; backwards they make the same conflicts. The
two with one identifier have three conflicts together, and nobody has a conflict as number four. -/
theorem conflicts_tell_what_was_recorded_repeatedly :
    (recorded repeatedCalls).length = 7 ∧ (repeatedCalls.foldl record empty).size = 4 ∧
      repeatedCalls.reverse.Perm repeatedCalls ∧
      repeatedCalls.reverse.foldl record empty = repeatedCalls.foldl record empty ∧
      (ofParticipants namesakes).size = 3 ∧
      (ofParticipants namesakes).forbids (.ofNat 1) (.ofNat 1) = true ∧
      (ofParticipants namesakes).of? (.ofNat 4) = none ∧
      ofParticipants namesakes.reverse = ofParticipants namesakes := by
  obtain ⟨hcalls, hparticipants, -, hperm, hpermPeople⟩ := conflicts_tell_what_was_recorded
  obtain ⟨hpeople, hdeclared⟩ := hparticipants namesakes
  refine ⟨by decide, ?_, List.reverse_perm _, hperm _ _ (List.reverse_perm _), ?_, ?_, ?_,
    hpermPeople _ _ (List.reverse_perm _)⟩
  · rw [(hcalls repeatedCalls).size]
    decide
  · rw [hpeople.size]
    decide
  · rw [hpeople.forbids, hdeclared]
    decide
  · have hnobody : Id.ofNat 4 ∉ namesakes.map Participant.id := by decide
    rw [← Option.not_isSome_iff_eq_none, hpeople.isSome]
    rintro ⟨receiver, hreceiver⟩
    obtain ⟨p, hp, hid, -⟩ := (hdeclared _ _).1 hreceiver
    exact hnobody (hid ▸ List.mem_map_of_mem hp)

end Conflicts

end GiftExchange
