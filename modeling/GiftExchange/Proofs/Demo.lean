import GiftExchange.Demo
import GiftExchange.Proofs.Fallback
import GiftExchange.Proofs.Foreseen
import GiftExchange.Proofs.RenamedExchange
import Mathlib.GroupTheory.GroupAction.MultipleTransitivity

set_option autoImplicit false

/-! # What the demonstration prints

The demonstration prints the same lines whatever identifiers the five people have. Five different
identifiers are those of five fixed people, renamed; so the exchange is a renamed one, its pairs are
drawn by places, and the lines for the mails show no identifier. For the fixed people it is computed
what is printed. The draw takes a hundred numbers of the seed, which are computed before, in seven
blocks (`ahead_of_seed`). -/

namespace GiftExchange

/-! ## Telling everybody, with more fuel and from another source -/

namespace Service

variable {σ τ γ : Type} [RandomSource σ] [RandomSource τ] {fuel fuel' : Nat} {svc : Service σ}
  {gw : Gateway γ} {e : Exchange} {state : γ}

/-- More fuel leaves the outcome as it is. -/
theorem send_of_le {out : Outcome σ γ DispatchReport} (hle : fuel ≤ fuel')
    (h : svc.send fuel gw e state = some out) : svc.send fuel' gw e state = some out := by
  rw [send] at h ⊢
  split_ifs at h ⊢ with hproblems
  · exact h
  · obtain ⟨drawn, hdrawn, rfl⟩ := Option.map_eq_some_iff.1 h
    rw [Generation.generateWithFallback_of_le hle hdrawn, Option.map_some]

/-- The service that draws from the source in the source. -/
def inner (look : τ → σ) (svc : Service τ) : Service σ :=
  ⟨svc.settings, svc.dispatcher, look svc.source⟩

/-- Telling everybody leaves the same behind with a source and with the source in it. -/
theorem send_inner {look : τ → σ} (hlook : SameNumbers look) {svc : Service τ}
    {out : Outcome τ γ DispatchReport} (h : svc.send fuel gw e state = some out) :
    (svc.inner look).send fuel gw e state =
      some ⟨out.result, out.exchange, out.service.inner look, out.gateway, out.calls,
        out.events⟩ := by
  obtain ⟨hproblems, rfl⟩ | ⟨hproblems, drawn, hdrawn, ⟨err, hresult, rfl⟩ |
    ⟨found, batch, hresult, rfl, rfl⟩⟩ := send_cases h
  · rw [send, if_pos hproblems]
    rfl
  all_goals
    have hdrawn' := Generation.generateWithFallback_inner hlook fuel e.ids e.conflicts
      svc.settings.maxAttempts svc.source
    rw [hdrawn] at hdrawn'
    rw [send, if_neg (not_not.2 hproblems), inner, hdrawn']
    simp only [Option.map_some, Drawn.inner, hresult, concluded_eq]
    rfl

end Service

namespace Demo

/-! ## Five people under other identifiers -/

/-- Identifiers for the five people: they are told apart, and none is the identifier of nobody. -/
structure Identifiers (ids : List Id) : Prop where
  length : ids.length = names.length
  nodup : ids.Nodup
  nobody : Id.nil ∉ ids

/-- Identifiers to compute with. -/
def places : List Id := [.ofNat 1, .ofNat 2, .ofNat 3, .ofNat 4, .ofNat 5]

/-- Any identifiers for five people are those of the places, renamed. -/
theorem Identifiers.exists_rename {ids : List Id} (h : Identifiers ids) :
    ∃ f : Id → Id, Function.Injective f ∧ ids = places.map f := by
  have hlen : ids.length = places.length := h.length
  have hplaces : places.Nodup := by decide
  obtain ⟨g, hg⟩ := (Equiv.Perm.isMultiplyPretransitive Id places.length).exists_smul_eq
    (⟨places.get, hplaces.injective_get⟩ : Fin places.length ↪ Id)
    ⟨ids.get ∘ Fin.cast hlen.symm, h.nodup.injective_get.comp (Fin.cast_injective _)⟩
  refine ⟨g, g.injective, List.ext_get (by rw [List.length_map, hlen]) fun n h₁ h₂ => ?_⟩
  have hn : n < places.length := hlen ▸ h₁
  have hplace := DFunLike.congr_fun hg ⟨n, hn⟩
  rw [List.get_eq_getElem, List.get_eq_getElem, List.getElem_map]
  exact hplace.symm

/-- The five people. -/
def people (ids : List Id) : List Participant :=
  (ids.zip names).map fun p => person p.1 p.2

/-- The exchange before anybody takes part. -/
def announced (id : Id) : Exchange :=
  { Exchange.new id "Demo exchange" ⟨"Olive", some "olive@example.com", none⟩ with
    dateAndTime := "December 24"
    theme := "Anything goes"
    cost := "$20" }

/-- The exchange started, with the first of some people forbidden to give to the second. -/
def started (ps : List Participant) (e : Exchange) : Exchange :=
  match ps with
  | first :: second :: _ => (e.update first.id (·.addConflict second.id)).2.markStarted
  | _ => e.markStarted

theorem exchange_eq (id : Id) (ids : List Id) :
    exchange id ids = (addAll (announced id) (people ids)).map (started (people ids)) := rfl

section Renamed

variable {f : Id → Id}

theorem people_rename (ids : List Id) :
    people (ids.map f) = (people ids).map (Participant.rename f) := by
  rw [people, people, List.zip_map_left, List.map_map, List.map_map]
  rfl

variable (hf : Function.Injective f)

include hf

theorem addAll_rename (id : Id) {e e' : Exchange} {ps : List Participant}
    (h : addAll e ps = .ok e') :
    addAll (e.rename id f) (ps.map (Participant.rename f)) = .ok (e'.rename id f) := by
  induction ps generalizing e with
  | nil =>
    cases h
    rfl
  | cons p rest ih =>
    rw [addAll] at h
    rw [List.map_cons, addAll]
    rcases hadd : e.add p with ⟨problems | ⟨⟩, more⟩
    · rw [hadd] at h
      cases h
    · rw [hadd] at h
      rw [Exchange.add_rename hf hadd]
      exact ih h

theorem started_rename (id : Id) (ps : List Participant) (e : Exchange) :
    started (ps.map (Participant.rename f)) (e.rename id f) = (started ps e).rename id f := by
  match ps with
  | [] | [_] => exact Exchange.markStarted_rename
  | first :: second :: rest =>
    have hforbid : (e.rename id f).update (f first.id) (·.addConflict (f second.id)) =
        ((e.update first.id (·.addConflict second.id)).1,
          (e.update first.id (·.addConflict second.id)).2.rename id f) :=
      Exchange.update_rename hf first.id fun p => Participant.addConflict_rename hf p second.id
    simp only [started, List.map_cons, Participant.id_rename, hforbid]
    exact Exchange.markStarted_rename

/-- The exchange for other identifiers is the renamed exchange. -/
theorem exchange_rename (id : Id) {old : Id} {ids : List Id} {e : Exchange}
    (h : exchange old ids = .ok e) : exchange id (ids.map f) = .ok (e.rename id f) := by
  rw [exchange_eq] at h ⊢
  cases hall : addAll (announced old) (people ids) with
  | error problems =>
    rw [hall] at h
    cases h
  | ok all =>
    rw [hall] at h
    cases h
    have hrenamed : addAll (announced id) ((people ids).map (Participant.rename f)) =
        .ok (all.rename id f) := addAll_rename hf id hall
    rw [people_rename, hrenamed]
    exact congrArg Except.ok (started_rename hf id (people ids) all)

end Renamed

/-! ## The lines -/

/-- The service of the demonstration, with some source. -/
def service {σ : Type} (source : σ) : Service σ :=
  ⟨settings, ⟨settings.mailTemplate, settings.senderAddress⟩, source⟩

theorem new_settings {σ : Type} (source : σ) :
    Service.new settings source = .ok (service source) := by
  have hdefect : settings.defect? = none := by decide +kernel
  rw [Service.new, Dispatcher.ofSettings, hdefect]
  rfl

/-- The first blocks of the stream of the seed. -/
def blocks : List ChaCha.Block :=
  [#v[2282827147, 3528673648, 3193875257, 2191407633, 1767781092, 2596461062, 2394431153, 1024693038,
      75180504, 809440506, 713757811, 715457003, 3991726604, 1246243726, 2455214585, 909407251],
    #v[4072312757, 1303448743, 2297560524, 3952866537, 1186831421, 2443790130, 2088522951, 3623235303,
      484175964, 2166286176, 2261225972, 3440034309, 4127246186, 110041602, 1412733191, 1133166450],
    #v[2280013869, 2769120939, 2049357336, 3589616247, 2312352844, 204566901, 2364483069, 2577420916,
      177193298, 2660519362, 2961658857, 153506097, 4094289887, 657290066, 2479131747, 2968189760],
    #v[1921170593, 3213960973, 3908440864, 499062487, 2037949794, 3264601801, 3898885202, 2277247045,
      3817508091, 1348789426, 68752990, 1995616294, 3757970114, 1650988220, 2718809814, 401164093],
    #v[34718019, 1836631241, 1650749499, 2954459459, 3016191758, 3204658401, 2526741442, 1200297073,
      613803208, 3903001001, 2976512390, 407703267, 3912583254, 1838351636, 1739861088, 3183350231],
    #v[2585440895, 3556816330, 2229023542, 3671337379, 3512314226, 3950018267, 1234513191, 1281018486,
      2431984278, 475325252, 3797805916, 2780837544, 492532879, 2696433131, 117213384, 1107005813],
    #v[3401689723, 3781303613, 1825624919, 540666745, 4263726556, 933868470, 531704660, 1579883835,
      4038329355, 1101396565, 3052206209, 1985075320, 3563653332, 3705728231, 2120336798, 1753223552]]

theorem blocks_of_seed :
    (List.range' 0 7).map (fun n => ChaCha.block (Seeded.ofSeed seed).key (UInt64.ofNat n)) =
      blocks := by
  -- the key is computed once, not again for every word
  have hkey : (Seeded.ofSeed seed).key = #v[1759597529, 1670174357, 112108012, 436562799, 258501224,
      1535680745, 1321246264, 1530978624] := by
    decide +kernel
  rw [hkey]
  decide +kernel

theorem ahead_of_seed : Ahead (Seeded.ofSeed seed) (blocks.flatMap Vector.toList) := by
  rw [← blocks_of_seed, List.flatMap_map]
  exact Seeded.ahead_blocks (Seeded.ofSeed seed).key 0 7

/-- The source of the demonstration, with the numbers it begins with. -/
def foreseen : Foreseen Seeded :=
  ⟨Seeded.ofSeed seed, blocks.flatMap Vector.toList, ahead_of_seed⟩

/-- The lines for the mails. -/
def mailLines : List String :=
  ["to=ann@example.com template=exchange/notification format=plaintext receiver=\"Dan\"",
    "to=ben@example.com template=exchange/notification format=plaintext receiver=\"Cat\"",
    "to=cat@example.com template=exchange/notification format=plaintext receiver=\"Ann\"",
    "to=dan@example.com template=exchange/notification format=plaintext receiver=\"Eve\"",
    "to=eve@example.com template=exchange/notification format=plaintext receiver=\"Ben\""]

/-- What is printed behind the greeting. -/
def lines : List String :=
  mailLines ++ ["state=sent sent=5 failed=0"]

/-- The fixed people are told. -/
theorem send_places :
    ((exchange Id.nil places).toOption.bind fun e =>
      ((service foreseen).send 9 gateway e []).map fun out =>
        (e.ids, out.result.toOption, out.gateway, out.exchange.stage)) =
      some (places, some ⟨5, []⟩, mailLines, .sent) := by
  decide +kernel

theorem gateway_isBlind (id : Id) (f : Id → Id) : gateway.IsBlind id f :=
  fun _ _ => rfl

/-- Whatever identifiers the five people have, they are told the same. -/
theorem send_exchange {fuel : Nat} (hfuel : 9 ≤ fuel) (id : Id) {ids : List Id}
    (h : Identifiers ids) :
    ∃ e out, exchange id ids = .ok e ∧
      (service (Seeded.ofSeed seed)).send fuel gateway e [] = some out ∧
      out.result = .ok ⟨5, []⟩ ∧ out.gateway = mailLines ∧ out.exchange.stage = .sent := by
  obtain ⟨f, hf, rfl⟩ := h.exists_rename
  obtain ⟨e, hexchange, hsend⟩ := Option.bind_eq_some_iff.1 send_places
  obtain ⟨out, hout, hprinted⟩ := Option.map_eq_some_iff.1 hsend
  simp only [Prod.mk.injEq, toOption_eq_some_iff] at hprinted
  obtain ⟨hids, hok, hgateway, hstage⟩ := hprinted
  have hnil : ∀ other ∈ e.ids, f other ≠ Id.nil := by
    rw [hids]
    intro other hother hnil
    exact h.nobody (hnil ▸ List.mem_map_of_mem hother)
  have hseed : (service (Seeded.ofSeed seed)).send fuel gateway e [] = some _ :=
    Service.send_of_le hfuel (Service.send_inner Foreseen.sameNumbers hout)
  obtain ⟨out', hout', hok', hgateway', hstage'⟩ :=
    Service.send_rename hf (gateway_isBlind id f) hnil hseed hok
  exact ⟨_, out', exchange_rename hf id (toOption_eq_some_iff.1 hexchange), hout', hok',
    hgateway'.trans hgateway, hstage'.trans hstage⟩

/-- The demonstration succeeds, and prints the lines behind the greeting. -/
theorem run_prints {fuel : Nat} (hfuel : 9 ≤ fuel) (directory : String)
    (logging : Except JournalError Unit) (id : Id) {ids : List Id} (h : Identifiers ids) :
    ∃ t, run fuel directory logging id ids = some t ∧
      t.out = (opening directory logging).out ++ lines ∧
      t.err = (opening directory logging).err ∧ t.succeeded = true := by
  obtain ⟨e, out, hexchange, hsend, hresult, hgateway, hstage⟩ := send_exchange hfuel id h
  have hstart : (opening directory logging).succeeded = true := by
    cases logging <;> rfl
  simp only [run, new_settings, hexchange, hsend, Option.map_some, hresult, hgateway, hstage]
  refine ⟨_, rfl, ?_, rfl, hstart⟩
  rw [List.append_assoc]
  rfl

/-- **Draws depend on places, not on identifiers.** A draw for a group under other identifiers, with
the conflicts to match and from the same source, answers the renamed pairs in the same order or the
renamed error, logs the same, and leaves the source as the draw for the group does, after as many
numbers. So the demonstration prints the same lines for any five different identifiers: it comes to
its end, greets, lists the same five mails, and tells that five were sent and none failed. -/
theorem draws_depend_on_places {σ : Type} [RandomSource σ] {f : Id → Id}
    (hf : Function.Injective f) (fuel : Nat) (rules : Rules) (maxAttempts : UInt32) (s : σ) :
    Generation.generate fuel (rules.rename f) maxAttempts s =
        (Generation.generate fuel rules maxAttempts s).map (Drawn.rename f (Pairing.rename f)) ∧
      (∀ drawn set, Generation.generate fuel rules maxAttempts s = some drawn →
        drawn.result = .ok set →
        (set.rename f).pairs.map Pair.ids = (set.pairs.map Pair.ids).map (Prod.map f f)) ∧
      Generation.numbersDrawn fuel (rules.rename f) maxAttempts s =
        Generation.numbersDrawn fuel rules maxAttempts s ∧
      ∀ demoFuel, 9 ≤ demoFuel → ∀ directory logging id ids, Identifiers ids →
        ∃ t, run demoFuel directory logging id ids = some t ∧
          t.out = (opening directory logging).out ++ lines ∧
          t.err = (opening directory logging).err ∧ t.succeeded = true := by
  have hrenamed := Rules.renamedBy_rename hf rules
  refine ⟨Generation.generate_rename hf hrenamed fuel maxAttempts s, ?_, ?_, ?_⟩
  · intro drawn set hdrawn hok
    obtain ⟨-, -, hindexed, -⟩ := Generation.generate_spec hdrawn hok
    rw [hindexed.pairs_rename hf, List.map_map, List.map_map]
    rfl
  · rw [Generation.numbersDrawn, Generation.numbersDrawn,
      Generation.generate_rename hf hrenamed fuel maxAttempts (Counted.fresh s), Option.map_map]
    rfl
  · intro demoFuel hfuel directory logging id ids hids
    exact run_prints hfuel directory logging id hids

/-- The next identifier. -/
def shifted (id : Id) : Id := ⟨id.bits + 1⟩

/-- Four people under their next identifiers, and five people for the demonstration. -/
theorem draws_depend_on_places_shifted :
    Function.Injective shifted ∧
      (∃ drawn set,
        Generation.generate 30 (Generation.rulesOfFour.rename shifted) 5 (⟨[], 9⟩ : Listed) =
          some drawn ∧ drawn.result = .ok set ∧
        set.pairs.map Pair.ids =
          [(.ofNat 2, .ofNat 4), (.ofNat 3, .ofNat 2), (.ofNat 4, .ofNat 5),
            (.ofNat 5, .ofNat 3)]) ∧
      Generation.numbersDrawn 30 (Generation.rulesOfFour.rename shifted) 5 (⟨[], 9⟩ : Listed) =
        some 30 ∧
      Identifiers [.ofNat 7, .ofNat 3, .ofNat 11, .ofNat 5, .ofNat 2] ∧
      ∃ t, run 9 "logs" (.ok ()) (.ofNat 6)
          [.ofNat 7, .ofNat 3, .ofNat 11, .ofNat 5, .ofNat 2] = some t ∧
        t.out.drop 3 = lines ∧ t.err = [] ∧ t.succeeded = true := by
  have hf : Function.Injective shifted := fun a b h => by
    cases a
    cases b
    simpa [shifted] using h
  have hids : Identifiers [.ofNat 7, .ofNat 3, .ofNat 11, .ofNat 5, .ofNat 2] :=
    ⟨rfl, by decide, by decide⟩
  have hrun : ((Generation.generate 30 Generation.rulesOfFour 5 (⟨[], 9⟩ : Listed)).map fun drawn =>
      drawn.result.toOption.map fun set => set.pairs.map Pair.ids) =
      some (some [(.ofNat 1, .ofNat 3), (.ofNat 2, .ofNat 1), (.ofNat 3, .ofNat 4),
        (.ofNat 4, .ofNat 2)]) := by
    decide +kernel
  obtain ⟨hgenerate, hpairs, hcount, hprints⟩ :=
    draws_depend_on_places hf 30 Generation.rulesOfFour 5 (⟨[], 9⟩ : Listed)
  obtain ⟨drawn, hdrawn, hset⟩ := Option.map_eq_some_iff.1 hrun
  obtain ⟨set, hok, hids'⟩ := Option.map_eq_some_iff.1 hset
  obtain ⟨t, ht, hout, herr, hsucceeded⟩ :=
    hprints 9 (Nat.le_refl 9) "logs" (.ok ()) (.ofNat 6) _ hids
  rw [toOption_eq_some_iff] at hok
  rw [hdrawn] at hgenerate
  refine ⟨hf, ⟨_, set.rename shifted, hgenerate, ?_, ?_⟩, ?_, hids, t, ht, ?_, herr, hsucceeded⟩
  · rw [Drawn.rename, hok]
    rfl
  · rw [hpairs drawn set hdrawn hok, hids']
    rfl
  · rw [hcount]
    decide +kernel
  · rw [hout]
    rfl

end Demo

end GiftExchange
