import GiftExchange.Proofs.Document.Exchange

set_option autoImplicit false

/-! # Pairings as lists of pairs

A list of pairs is a pairing if nobody gives twice and nobody receives twice in it, and it is the list
of this pairing; else its first pair that repeats somebody is at fault (`FirstRepeat`). A pairing that
can be made is made again from its list. In a document the pairs are read before they are put together,
so somebody who gives to himself is noticed before anybody who gives or receives twice, wherever the
two stand. -/

namespace GiftExchange

open Decoder Decoder.Shape

namespace Pairing

variable {s t : Pairing} {l : List Pair} {p : Pair} {err : PairingError}

/-! ## Lists that are pairings -/

/-- Nobody gives twice and nobody receives twice. -/
structure Unrepeated (l : List Pair) : Prop where
  givers : (l.map Pair.giver).Nodup
  receivers : (l.map Pair.receiver).Nodup

theorem exists_ofList_iff : (∃ s, ofList l = .ok s) ↔ Unrepeated l := by
  constructor
  · rintro ⟨s, hs⟩
    obtain ⟨hindexed, rfl⟩ := ofList_eq_ok hs
    exact ⟨hindexed.byGiver.nodup, hindexed.byReceiver.nodup⟩
  · rintro ⟨hgivers, hreceivers⟩
    exact exists_ofList hgivers hreceivers

/-- A pairing is made again from its list. -/
theorem Reachable.ofList_pairs (h : s.Reachable) : Pairing.ofList s.pairs = .ok s := by
  obtain ⟨t, ht⟩ := h.indexed.exists_ofList
  rw [ht, (Reachable.ofList ht).eq_of_pairs h (ofList_eq_ok ht).2]

/-! ## Lists that are none -/

/-- The first pair of a list that repeats somebody is at fault: its giver, if he gives already, and
else its receiver. -/
inductive FirstRepeat : List Pair → PairingError → Prop
  | giver {front behind : List Pair} {p : Pair} (before : Unrepeated front)
      (again : p.giver ∈ front.map Pair.giver) :
      FirstRepeat (front ++ p :: behind) (.duplicateGiver p.giver)
  | receiver {front behind : List Pair} {p : Pair} (before : Unrepeated front)
      (new : p.giver ∉ front.map Pair.giver) (again : p.receiver ∈ front.map Pair.receiver) :
      FirstRepeat (front ++ p :: behind) (.duplicateReceiver p.receiver)

theorem Indexed.insert_eq_error_iff (h : s.Indexed) :
    s.insert p = .error err ↔
      (p.giver ∈ s.pairs.map Pair.giver ∧ err = .duplicateGiver p.giver) ∨
      (p.giver ∉ s.pairs.map Pair.giver ∧ p.receiver ∈ s.pairs.map Pair.receiver ∧
        err = .duplicateReceiver p.receiver) := by
  rw [← h.hasGiver_iff, ← h.hasReceiver_iff, insert_eq]
  by_cases hgiver : s.hasGiver p.giver = true
  · simp [hgiver, @eq_comm _ _ err]
  · by_cases hreceiver : s.hasReceiver p.receiver = true
    · simp [hgiver, hreceiver, @eq_comm _ _ err]
    · simp [hgiver, hreceiver]

/-- Insertions stop at a pair that is refused. -/
theorem foldlM_insert_append {front behind : List Pair}
    (hfront : front.foldlM insert s = .ok t) (hp : t.insert p = .error err) :
    (front ++ p :: behind).foldlM insert s = .error err := by
  rw [List.foldlM_append, hfront]
  show (p :: behind).foldlM insert t = .error err
  rw [List.foldlM_cons, hp]
  rfl

theorem exists_of_foldlM_insert (h : l.foldlM insert s = .error err) :
    ∃ front p behind t, l = front ++ p :: behind ∧ front.foldlM insert s = .ok t ∧
      t.insert p = .error err := by
  induction l generalizing s with
  | nil => cases h
  | cons p rest ih =>
    rw [List.foldlM_cons] at h
    cases hp : s.insert p with
    | error first =>
      rw [hp] at h
      cases h
      exact ⟨[], p, rest, s, rfl, rfl, hp⟩
    | ok u =>
      rw [hp] at h
      obtain ⟨front, q, behind, t, rfl, hfront, hq⟩ := ih h
      refine ⟨p :: front, q, behind, t, rfl, ?_, hq⟩
      rw [List.foldlM_cons, hp]
      exact hfront

theorem ofList_eq_error_iff : ofList l = .error err ↔ FirstRepeat l err := by
  constructor
  · intro h
    obtain ⟨front, p, behind, t, rfl, hfront, hp⟩ := exists_of_foldlM_insert h
    obtain ⟨hindexed, rfl⟩ := ofList_eq_ok hfront
    have hbefore : Unrepeated t.pairs := exists_ofList_iff.1 ⟨t, hfront⟩
    obtain ⟨hagain, rfl⟩ | ⟨hnew, hagain, rfl⟩ := hindexed.insert_eq_error_iff.1 hp
    · exact .giver hbefore hagain
    · exact .receiver hbefore hnew hagain
  · intro h
    cases h with
    | giver before again =>
      obtain ⟨t, ht⟩ := exists_ofList_iff.2 before
      obtain ⟨hindexed, rfl⟩ := ofList_eq_ok ht
      exact foldlM_insert_append ht (hindexed.insert_eq_error_iff.2 (.inl ⟨again, rfl⟩))
    | receiver before new again =>
      obtain ⟨t, ht⟩ := exists_ofList_iff.2 before
      obtain ⟨hindexed, rfl⟩ := ofList_eq_ok ht
      exact foldlM_insert_append ht (hindexed.insert_eq_error_iff.2 (.inr ⟨new, again, rfl⟩))

/-! ## Documents -/

theorem decode_of_ids {t : Tree} {p : Pair} (h : Pair.shape.decode false t = .ok p.ids) :
    Pair.decode t = .ok p := by
  have hpair : Pair.of p.giver p.receiver = .ok p := dif_neg p.distinct
  rw [Pair.decode, h]
  show (Pair.of p.giver p.receiver).mapError _ = _
  rw [hpair]
  rfl

/-- A giver and a receiver who are one person are no pair. -/
theorem decode_of_self {t : Tree} {id : Id} (h : Pair.shape.decode false t = .ok (id, id)) :
    Pair.decode t = .error (.pairing (.selfAssignment id)) := by
  have hself : Pair.of id id = .error (.selfAssignment id) := dif_pos rfl
  rw [Pair.decode, h]
  show (Pair.of id id).mapError _ = _
  rw [hself]
  rfl

theorem decode_array_of_self {front behind : List Tree} {item : Tree} {id : Id}
    (hfront : ∀ t ∈ front, ∃ p : Pair, Pair.shape.decode false t = .ok p.ids)
    (hitem : Pair.shape.decode false item = .ok (id, id)) :
    decode (.array (front ++ item :: behind)) = .error (.pairing (.selfAssignment id)) := by
  have hpairs : ∀ t ∈ front, ∃ p, Pair.decode t = .ok p := by
    intro t ht
    obtain ⟨p, hp⟩ := hfront t ht
    exact ⟨p, decode_of_ids hp⟩
  rw [decode, Decoder.list, mapM_append_of_error hpairs (decode_of_self hitem)]

theorem decode_array_of_pairs {items : List Tree}
    (h : List.Forall₂ (fun t p => Pair.shape.decode false t = .ok p.ids) items l) :
    decode (.array items) = (ofList l).mapError .pairing := by
  have hpairs : items.mapM Pair.decode = .ok l := mapM_eq_ok (h.imp fun _ _ ht => decode_of_ids ht)
  rw [decode, Decoder.list, hpairs]

/-- **Pairings are the lists that repeat nobody.** A list of pairs can be put together exactly if
nobody gives twice and nobody receives twice in it. The pairing has then this list; otherwise the error
is that of the first pair in the list that repeats a giver or a receiver, and names the giver if it
repeats both. A pairing that can be made is made again from its list, and it is the same pairing, with
the same indexes. Let a text write an array of givers and receivers. If somebody in it gives to himself,
the first who does is the fault, whoever gives or receives twice before or behind, and whatever else
stands behind; if nobody does, the answer is the one for the list of these pairs. -/
theorem pairings_are_unrepeated_lists :
    (∀ l, (∃ s, ofList l = .ok s) ↔ Unrepeated l) ∧
      (∀ l s, ofList l = .ok s → s.pairs = l) ∧
      (∀ l err, ofList l = .error err ↔ FirstRepeat l err) ∧
      (∀ s, s.Reachable → ofList s.pairs = .ok s) ∧
      (∀ (front : List Tree) (item : Tree) (behind : List Tree) (id : Id) (text : String),
        (Tree.array (front ++ item :: behind)).Writes text →
        (∀ t ∈ front, ∃ p : Pair, Pair.shape.decode false t = .ok p.ids) →
        Pair.shape.decode false item = .ok (id, id) →
        decode.ofText text = .error (.pairing (.selfAssignment id))) ∧
      ∀ (items : List Tree) (l : List Pair) (text : String),
        (Tree.array items).Writes text →
        List.Forall₂ (fun t p => Pair.shape.decode false t = .ok p.ids) items l →
        decode.ofText text = (ofList l).mapError .pairing := by
  refine ⟨fun l => exists_ofList_iff, fun l s hs => (ofList_eq_ok hs).2,
    fun l err => ofList_eq_error_iff, fun s hs => hs.ofList_pairs, ?_, ?_⟩
  · intro front item behind id text htext hfront hitem
    rw [ofText_of_writes decode htext, decode_array_of_self hfront hitem]
  · intro items l text htext hitems
    rw [ofText_of_writes decode htext, decode_array_of_pairs hitems]

/-- A giver and a receiver as they are written. -/
def idsToJson (giver receiver : Id) : Json :=
  .object [("giver", giver.toJson), ("receiver", receiver.toJson)]

/-- A pair that comes twice, behind it somebody who gives to himself, and behind all of them null. -/
def selfBehindRepeat : Json :=
  .array [idsToJson (.ofNat 1) (.ofNat 2), idsToJson (.ofNat 1) (.ofNat 2),
    idsToJson (.ofNat 3) (.ofNat 3), .null]

/-- The repeated pair alone is refused for its giver; with the others behind it, the fault is that
somebody gives to himself. -/
theorem pairings_are_unrepeated_lists_of_repeat :
    ringOfThree.Reachable ∧ ofList ringOfThree.pairs = .ok ringOfThree ∧
      ofList [⟨.ofNat 1, .ofNat 2, by decide⟩, ⟨.ofNat 1, .ofNat 2, by decide⟩] =
        .error (.duplicateGiver (.ofNat 1)) ∧
      selfBehindRepeat.toTree.Writes selfBehindRepeat.render ∧
      decode.ofText selfBehindRepeat.render =
        .error (.pairing (.selfAssignment (.ofNat 3))) := by
  obtain ⟨hlists, -, hfault, hagain, hself, -⟩ := pairings_are_unrepeated_lists
  have hone : Unrepeated [⟨.ofNat 1, .ofNat 2, by decide⟩] := (hlists _).1 ⟨_, rfl⟩
  have hrepeat : FirstRepeat
      ([⟨.ofNat 1, .ofNat 2, by decide⟩] ++ ⟨.ofNat 1, .ofNat 2, by decide⟩ :: [])
      (.duplicateGiver (.ofNat 1)) :=
    .giver hone (by decide)
  have hwrites : selfBehindRepeat.toTree.Writes selfBehindRepeat.render :=
    selfBehindRepeat.writes_render
  have hfront : ∀ t ∈ [(idsToJson (.ofNat 1) (.ofNat 2)).toTree,
      (idsToJson (.ofNat 1) (.ofNat 2)).toTree],
      ∃ p : Pair, Pair.shape.decode false t = .ok p.ids := by
    intro t ht
    obtain rfl : t = (idsToJson (.ofNat 1) (.ofNat 2)).toTree := by simpa using ht
    exact ⟨⟨.ofNat 1, .ofNat 2, by decide⟩, Pair.shape_decode_ids _ _⟩
  have hitem : Pair.shape.decode false (idsToJson (.ofNat 3) (.ofNat 3)).toTree =
      .ok (.ofNat 3, .ofNat 3) :=
    Pair.shape_decode_ids _ _
  exact ⟨ringOfThree_reachable, hagain _ ringOfThree_reachable, (hfault _ _).2 hrepeat, hwrites,
    hself [_, _] _ [.null] _ _ hwrites hfront hitem⟩

end Pairing

end GiftExchange
