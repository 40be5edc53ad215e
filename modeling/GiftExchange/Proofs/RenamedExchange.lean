import GiftExchange.Proofs.Renaming
import GiftExchange.Proofs.Service
import GiftExchange.Proofs.Validity

set_option autoImplicit false

/-! # An exchange under other identifiers

Give an exchange and everybody in it another identifier. Lookups and edits go along, the conflicts
match, and an exchange without problems has none as long as nobody gets the identifier of nobody. The
mails say the same but for the identifiers in them, so a gateway that looks at no identifier
(`Gateway.IsBlind`) is left in the same state by telling everybody, and the report is the renamed one
(`Service.send_rename`). -/

namespace GiftExchange

variable {f : Id → Id} {id : Id} {e : Exchange}

/-! ## Participants -/

namespace Participant

/-- A participant under another identifier, with conflicts to match. -/
def rename (f : Id → Id) (p : Participant) : Participant :=
  { p with
    id := f p.id
    conflicts := p.conflicts.map f }

@[simp]
theorem id_rename (p : Participant) : (p.rename f).id = f p.id := rfl

@[simp]
theorem conflicts_rename (p : Participant) : (p.rename f).conflicts = p.conflicts.map f := rfl

section Renamed

variable (hf : Function.Injective f)

include hf

theorem addConflict_rename (p : Participant) (other : Id) :
    (p.rename f).addConflict (f other) = (p.addConflict other).rename f := by
  unfold addConflict
  simp only [id_rename, hf.eq_iff]
  split_ifs
  · rfl
  · rw [rename, rename, SortedSet.map_insert]

/-- A sound participant stays sound, unless he gets the identifier of nobody. -/
theorem defect?_rename {p : Participant} (hnil : f p.id ≠ Id.nil) (h : p.defect? = none) :
    (p.rename f).defect? = none := by
  obtain ⟨-, hname, hnickname, hblank, hshape, hself⟩ := defect?_eq_none_iff.1 h
  exact defect?_eq_none_iff.2
    ⟨hnil, hname, hnickname, hblank, hshape, fun hmem => hself ((SortedSet.mem_map hf).1 hmem)⟩

end Renamed

end Participant

/-! ## Exchanges -/

namespace Exchange

/-- An exchange under another identifier, with everybody in it under other identifiers. -/
def rename (id : Id) (f : Id → Id) (e : Exchange) : Exchange :=
  { e with
    id := id
    participants := e.participants.map (Participant.rename f)
    assignments := e.assignments.map (Pairing.rename f) }

@[simp]
theorem participants_rename :
    (e.rename id f).participants = e.participants.map (Participant.rename f) := rfl

theorem ids_rename (id : Id) (f : Id → Id) (e : Exchange) : (e.rename id f).ids = e.ids.map f := by
  rw [ids, ids, participants_rename, List.map_map, List.map_map]
  rfl

@[simp]
theorem stage_rename : (e.rename id f).stage = e.stage := rfl

theorem markStarted_rename : (e.rename id f).markStarted = e.markStarted.rename id f := by
  rw [markStarted, markStarted, stage_rename]
  split_ifs <;> rfl

section Renamed

variable (hf : Function.Injective f)

include hf

/-- Everybody is found under the other identifier. -/
theorem participant?_rename (other : Id) :
    (e.rename id f).participant? (f other) =
      (e.participant? other).map (Participant.rename f) := by
  have hfound : (fun p : Participant => p.id == f other) ∘ Participant.rename f =
      fun p => p.id == other := by
    funext p
    rw [Function.comp_apply, Participant.id_rename, Bool.eq_iff_iff, beq_iff_eq, beq_iff_eq]
    exact hf.eq_iff
  rw [participant?, participant?, participants_rename, List.find?_map, hfound]

theorem isMember_rename (other : Id) : (e.rename id f).isMember (f other) = e.isMember other := by
  rw [isMember, isMember, participant?_rename hf, Option.isSome_map]

/-- Whoever is added is added under another identifier as well. -/
theorem add_rename {p : Participant} {e' : Exchange} (h : e.add p = (.ok (), e')) :
    (e.rename id f).add (p.rename f) = (.ok (), e'.rename id f) := by
  rw [add] at h
  rw [add, Participant.id_rename, isMember_rename hf]
  split_ifs at h ⊢
  · cases h
  · cases h
    simp only [rename, List.map_append, List.map_singleton]

/-- Changing somebody goes along if the change does. -/
theorem update_rename {change change' : Participant → Participant} (other : Id)
    (hchange : ∀ p : Participant, change' (p.rename f) = (change p).rename f) :
    (e.rename id f).update (f other) change' =
      ((e.update other change).1, (e.update other change).2.rename id f) := by
  have hupdate : ∀ ps : List Participant,
      updateFirst (f other) change' (ps.map (Participant.rename f)) =
        (updateFirst other change ps).map (Participant.rename f) := by
    intro ps
    induction ps with
    | nil => rfl
    | cons p rest ih =>
      rw [List.map_cons, updateFirst, updateFirst, ih, hchange]
      simp only [Participant.id_rename, hf.eq_iff]
      split_ifs <;> rfl
  rw [update, update, isMember_rename hf]
  split_ifs
  · simp only [rename, hupdate]
  · rfl

theorem forbids_conflicts_rename (id : Id) (e : Exchange) (giver receiver : Id) :
    (e.rename id f).conflicts.forbids (f giver) (f receiver) =
      e.conflicts.forbids giver receiver := by
  rw [Bool.eq_iff_iff, conflicts, conflicts, Conflicts.forbids_ofParticipants,
    Conflicts.forbids_ofParticipants, participants_rename]
  simp only [List.mem_map, exists_exists_and_eq_and, Participant.id_rename,
    Participant.conflicts_rename, hf.eq_iff, SortedSet.mem_map hf]

/-- An exchange without problems has none under other identifiers, unless somebody gets the identifier
of nobody. -/
theorem problems_rename (hnil : ∀ other ∈ e.ids, f other ≠ Id.nil) (h : e.problems = []) :
    (e.rename id f).problems = [] := by
  obtain ⟨hfields, hcontact, htwo, hnodup, hsound, hmembers⟩ := problems_eq_nil_iff.1 h
  refine problems_eq_nil_iff.2 ⟨hfields, hcontact, ?_, ?_, ?_, ?_⟩
  · rwa [participants_rename, List.length_map]
  · rw [ids_rename]
    exact hnodup.map hf
  · rw [participants_rename, List.forall_mem_map]
    exact fun p hp => Participant.defect?_rename hf (hnil _ (List.mem_map_of_mem hp)) (hsound p hp)
  · rw [participants_rename, List.forall_mem_map, ids_rename]
    intro p hp
    refine foreignConflicts_eq_nil_iff.2 fun other hother hself => ?_
    obtain ⟨old, hold, rfl⟩ := List.mem_map.1 (SortedSet.mem_ofList.1 hother)
    exact List.mem_map_of_mem
      (foreignConflicts_eq_nil_iff.1 (hmembers p hp) old hold fun heq => hself (congrArg f heq))

end Renamed

end Exchange

/-! ## Mails -/

/-- A mail that names other identifiers. -/
def MailRequest.rename (id : Id) (f : Id → Id) (r : MailRequest) : MailRequest :=
  { r with
    exchange := r.exchange.rename id f
    giver := r.giver.rename f
    receiver := r.receiver.rename f }

def DispatchError.rename (f : Id → Id) : DispatchError → DispatchError
  | .unknownParticipant id => .unknownParticipant (f id)
  | .organizerEmailMissing => .organizerEmailMissing
  | .gateway giver error => .gateway (f giver) error

def DispatchFailure.rename (f : Id → Id) (failure : DispatchFailure) : DispatchFailure :=
  ⟨f failure.giver, failure.error.rename f⟩

def DispatchReport.rename (f : Id → Id) (report : DispatchReport) : DispatchReport :=
  ⟨report.sent, report.failures.map (DispatchFailure.rename f)⟩

theorem DispatchReport.isComplete_rename (report : DispatchReport) :
    (report.rename f).isComplete = report.isComplete :=
  List.isEmpty_map

variable {γ : Type}

/-- A gateway that does with a mail what it does with the mail that names other identifiers. -/
def Gateway.IsBlind (gw : Gateway γ) (id : Id) (f : Id → Id) : Prop :=
  ∀ state r, gw.send state (r.rename id f) = gw.send state r

namespace Dispatcher

variable (hf : Function.Injective f) {d : Dispatcher} {gw : Gateway γ} {organizerOnly : Bool}

include hf

theorem lookUp_rename (other : Id) :
    lookUp (e.rename id f) (f other) =
      ((lookUp e other).map (Participant.rename f)).mapError (DispatchError.rename f) := by
  rw [lookUp, lookUp, Exchange.participant?_rename hf]
  cases e.participant? other <;> rfl

omit hf in
theorem recipientAddress_rename (giver : Participant) :
    recipientAddress (e.rename id f) (giver.rename f) organizerOnly =
      (recipientAddress e giver organizerOnly).mapError (DispatchError.rename f) := by
  have horganizer : (e.rename id f).organizer = e.organizer := rfl
  rw [recipientAddress, recipientAddress, horganizer]
  cases organizerOnly with
  | false => rfl
  | true => cases e.organizer.contactEmail <;> rfl

/-- The mail for the renamed pair is the renamed mail for the pair. -/
theorem request_rename (pair : Pair) :
    d.request (e.rename id f) (pair.rename hf) organizerOnly =
      ((d.request e pair organizerOnly).map (MailRequest.rename id f)).mapError
        (DispatchError.rename f) := by
  unfold request
  simp only [Pair.rename, lookUp_rename hf]
  cases lookUp e pair.giver with
  | error err => rfl
  | ok giver =>
    cases lookUp e pair.receiver with
    | error err => rfl
    | ok receiver =>
      simp only [Except.map, Except.mapError, bind, Except.bind, recipientAddress_rename]
      cases recipientAddress e giver organizerOnly <;> rfl

section Sending

variable (hblind : gw.IsBlind id f)

include hblind

/-- Handing over the renamed pair leaves the gateway as it was left, and fails alike. -/
theorem dispatchOne_rename (state : γ) (pair : Pair) :
    (d.dispatchOne gw (e.rename id f) organizerOnly state (pair.rename hf)).gateway =
        (d.dispatchOne gw e organizerOnly state pair).gateway ∧
      (d.dispatchOne gw (e.rename id f) organizerOnly state (pair.rename hf)).result =
        (d.dispatchOne gw e organizerOnly state pair).result.mapError (DispatchError.rename f) := by
  rw [dispatchOne, dispatchOne, request_rename hf]
  cases d.request e pair organizerOnly with
  | error err => exact ⟨rfl, rfl⟩
  | ok r =>
    have hsend : gw.send state (r.rename id f) = gw.send state r := hblind state r
    simp only [Except.map, Except.mapError, hsend]
    rcases gw.send state r with ⟨- | -, next⟩ <;> exact ⟨rfl, rfl⟩

theorem dispatchPairs_rename (state : γ) (pairs : List Pair) :
    (d.dispatchPairs gw (e.rename id f) organizerOnly state (pairs.map (Pair.rename hf))).gateway =
        (d.dispatchPairs gw e organizerOnly state pairs).gateway ∧
      (d.dispatchPairs gw (e.rename id f) organizerOnly state (pairs.map (Pair.rename hf))).report =
        (d.dispatchPairs gw e organizerOnly state pairs).report.rename f := by
  induction pairs generalizing state with
  | nil => exact ⟨rfl, rfl⟩
  | cons pair rest ih =>
    obtain ⟨hgateway, hresult⟩ := dispatchOne_rename hf (d := d) (e := e) hblind state pair
    rw [List.map_cons, dispatchPairs_cons, dispatchPairs_cons, hgateway, hresult]
    obtain ⟨hlater, hreport⟩ := ih (d.dispatchOne gw e organizerOnly state pair).gateway
    refine ⟨hlater, ?_⟩
    dsimp only
    rw [hreport]
    cases (d.dispatchOne gw e organizerOnly state pair).result <;> rfl

end Sending

end Dispatcher

/-! ## Telling everybody -/

namespace Service

variable {σ : Type} [RandomSource σ] {fuel : Nat} {svc : Service σ} {gw : Gateway γ} {state : γ}

/-- Telling everybody under other identifiers goes through where telling everybody does: the same
numbers are drawn, the gateway is left in the same state, and the report names the other
identifiers. -/
theorem send_rename (hf : Function.Injective f) (hblind : gw.IsBlind id f)
    (hnil : ∀ other ∈ e.ids, f other ≠ Id.nil) {out : Outcome σ γ DispatchReport}
    {report : DispatchReport} (h : svc.send fuel gw e state = some out)
    (hok : out.result = .ok report) :
    ∃ out', svc.send fuel gw (e.rename id f) state = some out' ∧
      out'.result = .ok (report.rename f) ∧ out'.gateway = out.gateway ∧
      out'.exchange.stage = out.exchange.stage := by
  obtain ⟨-, rfl⟩ | ⟨hproblems, drawn, hdrawn, ⟨err, -, rfl⟩ | ⟨found, batch, hfound, rfl, rfl⟩⟩ :=
    send_cases h
  · cases hok
  · cases hok
  cases hok
  have hpairs : (found.pairing.rename f).pairs = found.pairing.pairs.map (Pair.rename hf) :=
    (drawnFor_of_fallback hdrawn hfound).spec.2.1.pairs_rename hf
  have hdrawn' := Generation.generateWithFallback_rename hf
    (Exchange.forbids_conflicts_rename hf id e) fuel e.ids svc.settings.maxAttempts svc.source
  rw [hdrawn, Option.map_some, ← Exchange.ids_rename id f e] at hdrawn'
  have hfound' : (drawn.rename f (Generation.Fallback.rename f)).result =
      .ok (found.rename f) := by
    rw [Drawn.rename, hfound]
    rfl
  obtain ⟨hgateway, hreport⟩ :
      (svc.dispatcher.dispatchAll gw (e.rename id f) (found.pairing.rename f) false state).gateway =
          (svc.dispatcher.dispatchAll gw e found.pairing false state).gateway ∧
        (svc.dispatcher.dispatchAll gw (e.rename id f) (found.pairing.rename f) false
            state).report =
          (svc.dispatcher.dispatchAll gw e found.pairing false state).report.rename f := by
    rw [Dispatcher.dispatchAll, Dispatcher.dispatchAll, hpairs]
    exact Dispatcher.dispatchPairs_rename hf hblind state found.pairing.pairs
  rw [send, if_neg (not_not.2 (Exchange.problems_rename hf hnil hproblems)), hdrawn',
    Option.map_some]
  simp only [hfound', concluded_eq, Generation.Fallback.rename, hreport,
    DispatchReport.isComplete_rename]
  exact ⟨_, rfl, rfl, hgateway, rfl⟩

end Service

end GiftExchange
