import GiftExchange.Proofs.Service

set_option autoImplicit false

/-! # The life of an exchange

An exchange is edited and handed to services, in any order and as often as anybody likes. A `Run`
is such a history, each step noted with what it did about the pairs (`Deed`). A service leaves the
exchange alone or stores pairs that it has just drawn for it (`serviceStep_cases`), and no edit
touches stored pairs. So the pairs of an exchange are always those of the last draw of its run
(`exists_last_draw`), and they are right for the group as it was then.

Nothing drops the pairs when the group is edited behind the draw. They are right for the edited
group exactly when it still has the members that were drawn for and no edit has put a conflict on
one of the pairs. -/

namespace GiftExchange

/-! ## Steps and runs -/

/-- What a step did about the pairs of an exchange: nothing, or it drew and stored pairs, or it
also told everybody, with the report of that. -/
inductive Deed where
  | kept
  | drew
  | told (report : DispatchReport)

namespace Deed

/-- What a draw with this answer did. -/
def ofDraw : Except ServiceError Pairing → Deed
  | .ok _ => .drew
  | .error _ => .kept

/-- What telling everybody with this answer did. -/
def ofSend : Except ServiceError DispatchReport → Deed
  | .ok report => .told report
  | .error _ => .kept

/-- The stage that an exchange is in behind a draw. -/
def stage? : Deed → Option Stage
  | .kept => none
  | .drew => some .generated
  | .told report => some (if report.isComplete then .sent else .generated)

end Deed

/-- One operation of any service on an exchange, with any gateway. -/
inductive ServiceStep : Exchange → Deed → Exchange → Prop where
  | generate {σ γ : Type} [RandomSource σ] {fuel : Nat} {svc : Service σ} {e : Exchange}
      {avoid : Bool} {state : γ} {out : Outcome σ γ Pairing}
      (run : svc.generate fuel e avoid state = some out) :
      ServiceStep e (.ofDraw out.result) out.exchange
  | send {σ γ : Type} [RandomSource σ] {fuel : Nat} {svc : Service σ} {gw : Gateway γ}
      {e : Exchange} {state : γ} {out : Outcome σ γ DispatchReport}
      (run : svc.send fuel gw e state = some out) :
      ServiceStep e (.ofSend out.result) out.exchange
  | resend {σ γ : Type} (svc : Service σ) (gw : Gateway γ) (e : Exchange) (givers : List Id)
      (state : γ) : ServiceStep e .kept (svc.resend gw e givers state).exchange
  | organizerPreview {σ γ : Type} [RandomSource σ] {fuel : Nat} {svc : Service σ}
      {gw : Gateway γ} {e : Exchange} {avoid : Bool} {state : γ}
      {out : Outcome σ γ DispatchReport}
      (run : svc.organizerPreview fuel gw e avoid state = some out) :
      ServiceStep e .kept out.exchange
  | preview {σ γ : Type} (svc : Service σ) (gw : Gateway γ) (e : Exchange) (state : γ) :
      ServiceStep e .kept (svc.preview gw e state).exchange

/-- One edit of an exchange: of its texts, of the group, of a member's conflicts, or its start. It may
be refused. -/
inductive GroupEdit : Exchange → Exchange → Prop where
  | describe (e : Exchange) (name dateAndTime theme cost : String) (extraInfo : Option String)
      (organizer : Organizer) (overrides : TemplateOverrides) :
      GroupEdit e { e with name, dateAndTime, theme, cost, extraInfo, organizer, overrides }
  | add (e : Exchange) (p : Participant) : GroupEdit e (e.add p).2
  | replace (e : Exchange) (p : Participant) : GroupEdit e (e.replace p).2
  | remove (e : Exchange) (id : Id) : GroupEdit e (e.remove id).2
  | addConflict (e : Exchange) (id other : Id) :
      GroupEdit e (e.update id (·.addConflict other)).2
  | removeConflict (e : Exchange) (id other : Id) :
      GroupEdit e (e.update id (·.removeConflict other)).2
  | markStarted (e : Exchange) : GroupEdit e e.markStarted

/-- One step with an exchange, for a kind of edits. -/
inductive Step (edit : Exchange → Exchange → Prop) : Exchange → Deed → Exchange → Prop where
  | edit {e e' : Exchange} (done : edit e e') : Step edit e .kept e'
  | service {e e' : Exchange} {deed : Deed} (done : ServiceStep e deed e') : Step edit e deed e'

/-- A run of steps, with what they did, the last one first. -/
inductive Run (edit : Exchange → Exchange → Prop) (start : Exchange) :
    List Deed → Exchange → Prop where
  | start : Run edit start [] start
  | step {history : List Deed} {e e' : Exchange} {deed : Deed} (before : Run edit start history e)
      (next : Step edit e deed e') : Run edit start (deed :: history) e'

/-! ## What one step does -/

/-- A service leaves an exchange alone or stores pairs that it has just drawn for it. -/
theorem serviceStep_draws {e e' : Exchange} {deed : Deed} (h : ServiceStep e deed e') :
    (deed = .kept ∧ e' = e) ∨
      ∃ stage set, deed.stage? = some stage ∧
        e' = { e with assignments := some set, stage := stage } ∧ Service.DrawnFor e set := by
  cases h with
  | @generate σ _ _ fuel svc _ avoid _ _ run =>
    obtain ⟨-, rfl⟩ | ⟨-, drawn, hdrawn, ⟨err, -, rfl⟩ | ⟨set, hset, rfl⟩⟩ :=
      Service.generate_cases run
    · exact .inl ⟨rfl, rfl⟩
    · exact .inl ⟨rfl, rfl⟩
    · exact .inr ⟨.generated, set, rfl, rfl, σ, _, fuel, avoid, _, _, drawn, hdrawn, hset⟩
  | send run =>
    obtain ⟨-, rfl⟩ | ⟨-, drawn, hdrawn, ⟨err, -, rfl⟩ | ⟨found, batch, hfound, rfl, rfl⟩⟩ :=
      Service.send_cases run
    · exact .inl ⟨rfl, rfl⟩
    · exact .inl ⟨rfl, rfl⟩
    · exact .inr ⟨_, found.pairing, rfl, rfl, Service.drawnFor_of_fallback hdrawn hfound⟩
  | resend svc gw e givers state => exact .inl ⟨rfl, Service.resend_exchange svc gw e givers state⟩
  | organizerPreview run => exact .inl ⟨rfl, Service.organizerPreview_exchange run⟩
  | preview svc gw e state => exact .inl ⟨rfl, Service.preview_exchange svc gw e state⟩

/-- A service leaves an exchange alone or stores pairs that are right for its group. -/
theorem serviceStep_cases {e e' : Exchange} {deed : Deed} (h : ServiceStep e deed e') :
    (deed = .kept ∧ e' = e) ∨
      ∃ stage set, deed.stage? = some stage ∧
        e' = { e with assignments := some set, stage := stage } ∧
        e.ids.Nodup ∧ set.Indexed ∧ set.Keeps e.ids e.conflicts false := by
  obtain hkept | ⟨stage, set, hstage, heq, hdrawn⟩ := serviceStep_draws h
  · exact .inl hkept
  · obtain ⟨hnodup, hindexed, -, hkeeps⟩ := hdrawn.spec
    exact .inr ⟨stage, set, hstage, heq, hnodup, hindexed, hkeeps⟩

/-- No edit touches the stored pairs. -/
theorem GroupEdit.assignments_eq {e e' : Exchange} (h : GroupEdit e e') :
    e'.assignments = e.assignments := by
  cases h with
  | describe => rfl
  | add p =>
    obtain ⟨ps, hadd⟩ := e.add_eq_participants p
    rw [hadd]
  | replace p =>
    obtain ⟨ps, hreplace⟩ := e.update_eq_participants p.id fun _ => p
    rw [Exchange.replace, hreplace]
  | remove id =>
    obtain ⟨ps, hremove⟩ := e.remove_eq_participants id
    rw [hremove]
  | addConflict id other | removeConflict id other =>
    obtain ⟨ps, hupdate⟩ := e.update_eq_participants id _
    rw [hupdate]
  | markStarted =>
    unfold Exchange.markStarted
    split <;> rfl

/-- No edit makes an identifier occur twice. -/
theorem GroupEdit.ids_nodup {e e' : Exchange} (h : GroupEdit e e') (hnodup : e.ids.Nodup) :
    e'.ids.Nodup := by
  cases h with
  | describe => exact hnodup
  | add p => exact Exchange.nodup_ids_add hnodup p
  | replace p => rwa [Exchange.ids_replace]
  | remove id => exact Exchange.nodup_ids_remove hnodup id
  | addConflict id other =>
    rwa [Exchange.ids_update fun p hp => by rw [Participant.addConflict_id, hp]]
  | removeConflict id other => rwa [Exchange.ids_update fun p hp => by exact hp]
  | markStarted =>
    unfold Exchange.markStarted
    split <;> exact hnodup

/-! ## The draw behind the stored pairs -/

theorem Run.ids_nodup {start e : Exchange} {history : List Deed}
    (run : Run GroupEdit start history e) (hstart : start.ids.Nodup) : e.ids.Nodup := by
  induction run with
  | start => exact hstart
  | step before next ih =>
    cases next with
    | edit done => exact done.ids_nodup ih
    | service done =>
      obtain ⟨-, rfl⟩ | ⟨stage, set, -, rfl, hnodup, -⟩ := serviceStep_cases done
      · exact ih
      · exact hnodup

/-- The step of a run that stored the pairs `set`, from `before` to `drawn`, with no step since that
did anything about pairs. -/
structure LastDraw (edit : Exchange → Exchange → Prop) (start : Exchange) (history : List Deed)
    (e : Exchange) (set : Pairing) where
  before : Exchange
  drawn : Exchange
  deed : Deed
  earlier : List Deed
  since : List Deed
  history_eq : history = since ++ deed :: earlier
  since_kept : ∀ later ∈ since, later = .kept
  run_before : Run edit start earlier before
  draw : ServiceStep before deed drawn
  run_since : Run edit drawn since e
  stores : ∃ stage, deed.stage? = some stage ∧
    drawn = { before with assignments := some set, stage := stage }

variable {edit : Exchange → Exchange → Prop} {start e e' : Exchange} {history : List Deed}
  {set : Pairing}

/-- A step that keeps the pairs goes behind their draw. -/
def LastDraw.keep (last : LastDraw edit start history e set) (next : Step edit e .kept e') :
    LastDraw edit start (.kept :: history) e' set :=
  { last with
    since := .kept :: last.since
    history_eq := congrArg (Deed.kept :: ·) last.history_eq
    since_kept := List.forall_mem_cons.2 ⟨rfl, last.since_kept⟩
    run_since := last.run_since.step next }

/-- Stored pairs come from a draw of the run. -/
theorem exists_last_draw (hedit : ∀ {e e' : Exchange}, edit e e' → e'.assignments = e.assignments)
    (run : Run edit start history e) (hstart : start.assignments = none)
    (h : e.assignments = some set) : Nonempty (LastDraw edit start history e set) := by
  induction run with
  | start =>
    rw [hstart] at h
    cases h
  | @step history e e' deed sofar next ih =>
    cases next with
    | edit done =>
      obtain ⟨last⟩ := ih (hedit done ▸ h)
      exact ⟨last.keep (.edit done)⟩
    | service done =>
      obtain ⟨rfl, rfl⟩ | ⟨stage, found, hstage, rfl, -⟩ := serviceStep_cases done
      · obtain ⟨last⟩ := ih h
        exact ⟨last.keep (.service done)⟩
      · -- this very step is the last draw
        cases h
        exact ⟨{
          before := e
          drawn := { e with assignments := some set, stage := stage }
          deed := deed
          earlier := history
          since := []
          history_eq := rfl
          since_kept := List.forall_mem_nil _
          run_before := sofar
          draw := done
          run_since := .start
          stores := ⟨stage, hstage, rfl⟩ }⟩

/-- The pairs of the last draw were right for the group of that moment. -/
theorem LastDraw.keeps (last : LastDraw edit start history e set) :
    last.drawn.ids.Nodup ∧ set.Indexed ∧ set.Keeps last.drawn.ids last.drawn.conflicts false := by
  obtain ⟨stage, hstage, hdrawn⟩ := last.stores
  obtain ⟨hkept, -⟩ | ⟨_, found, -, heq, hnodup, hindexed, hkeeps⟩ := serviceStep_cases last.draw
  · -- a draw leads to a stage
    rw [hkept] at hstage
    cases hstage
  · have hset : some found = some set := congrArg Exchange.assignments (heq.symm.trans hdrawn)
    cases hset
    rw [heq]
    exact ⟨hnodup, hindexed, hkeeps⟩

/-- **Stored pairs were right when they were drawn.** In every run from a new exchange, whatever the
order of its edits and of the services asked, the stored pairs are those of the last draw, and they
passed the check for the group of that moment. They pass it for the group as it is now exactly when
it has the members that were drawn for and forbids none of the pairs. Telling people again only
ever sends mails for stored pairs between two people who take part, which were allowed when they
were drawn, and no forbidden ones as long as the pairs pass the check. -/
theorem stored_pairs_were_checked {id : Id} {name : String} {organizer : Organizer}
    (run : Run GroupEdit (Exchange.new id name organizer) history e)
    (h : e.assignments = some set) :
    ∃ last : LastDraw GroupEdit (Exchange.new id name organizer) history e set,
      set.violation? last.drawn.ids last.drawn.conflicts false = none ∧
      (set.violation? e.ids e.conflicts false = none ↔
        e.ids.Perm last.drawn.ids ∧ ∀ a b, set.Gives a b → e.conflicts.forbids a b = false) ∧
      ∀ {σ γ : Type} (svc : Service σ) (gw : Gateway γ) (givers : List Id) (state : γ),
        ∀ call ∈ (svc.resend gw e givers state).calls,
          call.request.giver ∈ e.participants ∧ call.request.receiver ∈ e.participants ∧
          set.Gives call.request.giver.id call.request.receiver.id ∧
          last.drawn.conflicts.forbids call.request.giver.id call.request.receiver.id = false ∧
          (set.violation? e.ids e.conflicts false = none →
            e.conflicts.forbids call.request.giver.id call.request.receiver.id = false) := by
  obtain ⟨last⟩ := exists_last_draw GroupEdit.assignments_eq run rfl h
  obtain ⟨hnodup, hindexed, hkeeps⟩ := last.keeps
  have hnow : e.ids.Nodup := run.ids_nodup List.nodup_nil
  have hcheck : set.violation? e.ids e.conflicts false = none ↔
      e.ids.Perm last.drawn.ids ∧ ∀ a b, set.Gives a b → e.conflicts.forbids a b = false := by
    rw [hindexed.violation?_eq_none_iff hnow, hkeeps.keeps_iff]
  refine ⟨last, (hindexed.violation?_eq_none_iff hnodup).2 hkeeps, hcheck, ?_⟩
  intro σ γ svc gw givers state call hcall
  obtain ⟨hgiver, hreceiver, hgives⟩ := Service.pair_of_resend h hindexed hcall
  refine ⟨hgiver, hreceiver, hgives, ?_, fun hpasses => (hcheck.1 hpasses).2 _ _ hgives⟩
  obtain ⟨pair, hpair, hg, hr⟩ := hgives
  rw [← hg, ← hr]
  exact hkeeps.allowed pair hpair

/-- Two people and nothing drawn yet. -/
def duo : Exchange :=
  { Service.gathering with participants := Service.threeFriends.take 2 }

theorem run_duo :
    Run GroupEdit (Exchange.new duo.id duo.name duo.organizer) [.kept, .kept, .kept] duo := by
  have hdescribe : Step GroupEdit (Exchange.new duo.id duo.name duo.organizer) .kept
      { duo with participants := [] } :=
    .edit (.describe _ duo.name duo.dateAndTime duo.theme duo.cost none duo.organizer .none)
  have hann : Step GroupEdit { duo with participants := [] } .kept
      { duo with participants := Service.threeFriends.take 1 } :=
    .edit (.add _ (.new (.ofNat 1) "Ann" "ann" "ann@example.com"))
  have hben : Step GroupEdit { duo with participants := Service.threeFriends.take 1 } .kept duo :=
    .edit (.add _ (.new (.ofNat 2) "Ben" "ben" "ben@example.com"))
  exact ((Run.start.step hdescribe).step hann).step hben

/-- Two people who were drawn. -/
theorem stored_pairs_of_duo_were_checked :
    ∃ history e set,
      Run GroupEdit (Exchange.new duo.id duo.name duo.organizer) history e ∧
      e.assignments = some set ∧ set.pairs.map Pair.ids =
        [(.ofNat 1, .ofNat 2), (.ofNat 2, .ofNat 1)] ∧
      ∃ last : LastDraw GroupEdit (Exchange.new duo.id duo.name duo.organizer) history e set,
        set.violation? last.drawn.ids last.drawn.conflicts false = none ∧
        (set.violation? e.ids e.conflicts false = none ↔ e.ids.Perm last.drawn.ids ∧
          ∀ a b, set.Gives a b → e.conflicts.forbids a b = false) := by
  have hdraw : ((Service.plainService.generate 30 duo false 0).bind fun out =>
      out.exchange.assignments.map fun set => set.pairs.map Pair.ids) =
        some [(.ofNat 1, .ofNat 2), (.ofNat 2, .ofNat 1)] := by
    decide +kernel
  obtain ⟨out, hout, hset⟩ := Option.bind_eq_some_iff.1 hdraw
  obtain ⟨set, hset, hpairs⟩ := Option.map_eq_some_iff.1 hset
  have run := run_duo.step (.service (.generate hout))
  obtain ⟨last, hpassed, hnow, -⟩ := stored_pairs_were_checked run hset
  exact ⟨_, _, set, run, hset, hpairs, last, hpassed, hnow⟩

/-- A conflict that is declared behind the draw breaks the stored pairs, and telling the giver again
still sends the mail about the forbidden receiver. -/
theorem later_conflict_breaks_stored_pairs :
    ∃ history e set,
      Run GroupEdit (Exchange.new duo.id duo.name duo.organizer) history e ∧
      e.assignments = some set ∧
      set.violation? e.ids e.conflicts false = some (.conflict (.ofNat 1) (.ofNat 2)) ∧
      e.conflicts.forbids (.ofNat 1) (.ofNat 2) = true ∧
      (Service.plainService.resend Service.fullMailbox e [.ofNat 1] 0).calls.map
        (fun c => (c.request.giver.id, c.request.receiver.id)) = [(.ofNat 1, .ofNat 2)] := by
  have hlater : ((Service.plainService.generate 30 duo false 0).bind fun out =>
      let e := (out.exchange.update (.ofNat 1) (·.addConflict (.ofNat 2))).2
      e.assignments.map fun set =>
        (set.violation? e.ids e.conflicts false, e.conflicts.forbids (.ofNat 1) (.ofNat 2),
          (Service.plainService.resend Service.fullMailbox e [.ofNat 1] 0).calls.map
            fun c => (c.request.giver.id, c.request.receiver.id))) =
        some (some (.conflict (.ofNat 1) (.ofNat 2)), true, [(.ofNat 1, .ofNat 2)]) := by
    decide +kernel
  obtain ⟨out, hout, hlater⟩ := Option.bind_eq_some_iff.1 hlater
  obtain ⟨set, hset, heq⟩ := Option.map_eq_some_iff.1 hlater
  obtain ⟨hviolation, hrest⟩ := Prod.mk.inj heq
  obtain ⟨hforbids, hcalls⟩ := Prod.mk.inj hrest
  have run := (run_duo.step (.service (.generate hout))).step
    (.edit (.addConflict _ (.ofNat 1) (.ofNat 2)))
  exact ⟨_, _, set, run, hset, hviolation, hforbids, hcalls⟩

end GiftExchange
