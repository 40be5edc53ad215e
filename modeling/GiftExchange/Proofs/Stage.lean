import GiftExchange.Proofs.Lifecycle

set_option autoImplicit false

/-! # The stage over the life of an exchange

The stage says what the last draw of a run came to. Behind each step it is the stage that the last
draw led to, and the pairs of that draw are stored; before the first draw there are no pairs and the
stage is at most started (`Tracks`). So an exchange is sent exactly when the last draw told
everybody, and it goes back in one way only: from sent to generated, when it is drawn again. -/

namespace GiftExchange

/-! ## Edits -/

/-- An edit of the texts of an exchange or of its participants, or its start. -/
inductive Edit where
  | describe (name dateAndTime theme cost : String) (extraInfo : Option String)
      (organizer : Organizer) (overrides : TemplateOverrides)
  | add (p : Participant)
  | replace (p : Participant)
  | remove (id : Id)
  | change (id : Id) (f : Participant → Participant)
  | markStarted

/-- Makes an edit: whether it is accepted, and the exchange behind it. -/
def Edit.perform (e : Exchange) : Edit → Bool × Exchange
  | .describe name dateAndTime theme cost extraInfo organizer overrides =>
    (true, { e with name, dateAndTime, theme, cost, extraInfo, organizer, overrides })
  | .add p => ((e.add p).1.isOk, (e.add p).2)
  | .replace p => e.replace p
  | .remove id => ((e.remove id).1.isSome, (e.remove id).2)
  | .change id f => e.update id f
  | .markStarted => (true, e.markStarted)

/-- The exchange behind an edit. -/
def Edit.apply (e : Exchange) (edit : Edit) : Exchange := (edit.perform e).2

/-- Some edit leads from one exchange to the other. -/
def Edited (e e' : Exchange) : Prop := ∃ edit : Edit, edit.apply e = e'

/-- The pairs stay, and the stage moves at most from new to started. -/
def Exchange.Frames (e e' : Exchange) : Prop :=
  e'.assignments = e.assignments ∧ (e'.stage = e.stage ∨ e.stage = .new ∧ e'.stage = .started)

theorem Exchange.frames_of_participants {e e' : Exchange}
    (h : ∃ ps, e' = { e with participants := ps }) : e.Frames e' := by
  obtain ⟨ps, rfl⟩ := h
  exact ⟨rfl, .inl rfl⟩

/-- An edit moves the stage only by starting a new exchange, and does not touch stored pairs. -/
theorem Edited.frames {e e' : Exchange} (h : Edited e e') : e.Frames e' := by
  obtain ⟨edit, rfl⟩ := h
  cases edit with
  | describe => exact ⟨rfl, .inl rfl⟩
  | add p => exact Exchange.frames_of_participants (e.add_eq_participants p)
  | replace p => exact Exchange.frames_of_participants (e.update_eq_participants p.id _)
  | remove id => exact Exchange.frames_of_participants (e.remove_eq_participants id)
  | change id f => exact Exchange.frames_of_participants (e.update_eq_participants id f)
  | markStarted =>
    show e.Frames e.markStarted
    unfold Exchange.markStarted
    split
    · rename_i hnew
      exact ⟨rfl, .inr ⟨hnew, rfl⟩⟩
    · exact ⟨rfl, .inl rfl⟩

/-- What is done to the group is one of the edits. -/
theorem GroupEdit.edited {e e' : Exchange} (h : GroupEdit e e') : Edited e e' := by
  cases h with
  | describe => exact ⟨.describe _ _ _ _ _ _ _, rfl⟩
  | add p => exact ⟨.add p, rfl⟩
  | replace p => exact ⟨.replace p, rfl⟩
  | remove id => exact ⟨.remove id, rfl⟩
  | addConflict id other => exact ⟨.change id (·.addConflict other), rfl⟩
  | removeConflict id other => exact ⟨.change id (·.removeConflict other), rfl⟩
  | markStarted => exact ⟨.markStarted, rfl⟩

/-- A run with some edits is one with more edits. -/
theorem Run.mono {edit edit' : Exchange → Exchange → Prop}
    (hedit : ∀ {e e' : Exchange}, edit e e' → edit' e e') {start e : Exchange}
    {history : List Deed} (run : Run edit start history e) : Run edit' start history e := by
  induction run with
  | start => exact .start
  | step before next ih =>
    cases next with
    | edit done => exact ih.step (.edit (hedit done))
    | service done => exact ih.step (.service done)

/-! ## The last draw -/

/-- Whether a step drew pairs and stored them. -/
def Deed.isDraw (deed : Deed) : Bool := deed.stage?.isSome

theorem Deed.stage?_cases {deed : Deed} {stage : Stage} (h : deed.stage? = some stage) :
    (stage = .generated ∧ ∀ report, deed = .told report → report.failures ≠ []) ∨
      stage = .sent ∧ ∃ report, deed = .told report ∧ report.failures = [] := by
  cases deed with
  | kept => cases h
  | drew =>
    cases h
    exact .inl ⟨rfl, fun _ heq => by cases heq⟩
  | told report =>
    simp only [stage?, DispatchReport.isComplete, List.isEmpty_iff, Option.some.injEq] at h
    by_cases hfailures : report.failures = []
    · rw [if_pos hfailures] at h
      exact .inr ⟨h.symm, report, rfl, hfailures⟩
    · rw [if_neg hfailures] at h
      refine .inl ⟨h.symm, fun other heq => ?_⟩
      cases heq
      exact hfailures

/-- The stage and the stored pairs are what the last draw of the history led to. -/
inductive Tracks (history : List Deed) (e : Exchange) : Prop where
  | undrawn (never : history.find? Deed.isDraw = none) (pairs : e.assignments = none)
      (stage : e.stage = .new ∨ e.stage = .started)
  | drawn {deed : Deed} {set : Pairing} (last : history.find? Deed.isDraw = some deed)
      (pairs : e.assignments = some set) (stage : deed.stage? = some e.stage)

variable {history : List Deed} {deed : Deed} {e e' : Exchange}

/-- A step that draws nothing leaves the last draw where it was. -/
theorem Tracks.keep (h : Tracks history e) (hframes : e.Frames e') :
    Tracks (.kept :: history) e' := by
  obtain ⟨hpairs, hstage⟩ := hframes
  cases h with
  | undrawn never pairs stage =>
    refine .undrawn never (hpairs.trans pairs) ?_
    obtain hsame | ⟨-, hstarted⟩ := hstage
    · rwa [hsame]
    · exact .inr hstarted
  | drawn last pairs stage =>
    refine .drawn last (hpairs.trans pairs) ?_
    obtain hsame | ⟨hnew, -⟩ := hstage
    · rwa [hsame]
    · -- behind a draw the exchange is not new
      rw [hnew] at stage
      obtain ⟨hgenerated, -⟩ | ⟨hsent, -⟩ := Deed.stage?_cases stage
      · cases hgenerated
      · cases hsent

theorem Tracks.step (h : Tracks history e) (next : Step Edited e deed e') :
    Tracks (deed :: history) e' := by
  cases next with
  | edit done => exact h.keep done.frames
  | service done =>
    obtain ⟨rfl, rfl⟩ | ⟨stage, set, hstage, rfl, -⟩ := serviceStep_draws done
    · exact h.keep ⟨rfl, .inl rfl⟩
    · exact .drawn (List.find?_cons_of_pos (by simp [Deed.isDraw, hstage])) rfl hstage

/-- Behind every run of a new exchange the last draw is what it shows. -/
theorem Run.tracks {id : Id} {name : String} {organizer : Organizer}
    (run : Run Edited (Exchange.new id name organizer) history e) : Tracks history e := by
  induction run with
  | start => exact .undrawn rfl rfl (.inl rfl)
  | step before next ih => exact ih.step next

theorem Tracks.isSome_iff (h : Tracks history e) :
    e.assignments.isSome = true ↔ e.stage = .generated ∨ e.stage = .sent := by
  cases h with
  | undrawn never pairs stage =>
    rw [pairs]
    obtain hstage | hstage := stage <;> simp [hstage]
  | drawn last pairs stage =>
    rw [pairs]
    obtain ⟨hstage, -⟩ | ⟨hstage, -⟩ := Deed.stage?_cases stage <;> simp [hstage]

theorem Tracks.sent_iff (h : Tracks history e) :
    e.stage = .sent ↔
      ∃ report, history.find? Deed.isDraw = some (.told report) ∧ report.failures = [] := by
  cases h with
  | undrawn never pairs stage =>
    rw [never]
    obtain hstage | hstage := stage <;> simp [hstage]
  | drawn last pairs stage =>
    rw [last]
    obtain ⟨hstage, hfailed⟩ | ⟨hstage, report, rfl, hfailures⟩ := Deed.stage?_cases stage
    · rw [hstage]
      refine iff_of_false (by simp) ?_
      rintro ⟨report, htold, hfailures⟩
      exact hfailed report (Option.some.inj htold) hfailures
    · exact iff_of_true hstage ⟨report, rfl, hfailures⟩

theorem Stage.eq_sent_of_rank_lt {stage : Stage} (h : Stage.generated.rank < stage.rank) :
    stage = .sent := by
  cases stage with
  | sent => rfl
  | new | started | generated => exact absurd h (by decide)

theorem Stage.rank_le_sent (stage : Stage) : stage.rank ≤ Stage.sent.rank := by
  cases stage <;> decide

/-- No step makes an exchange new, and the one step back is a draw for an exchange that was sent. -/
theorem Step.stage_cases (h : Step Edited e deed e') :
    (e'.stage = .new → e.stage = .new) ∧
      (e'.stage.rank < e.stage.rank → e.stage = .sent ∧ e'.stage = .generated ∧
        deed.isDraw = true ∧ ∃ set, e'.assignments = some set ∧ Service.DrawnFor e set) := by
  cases h with
  | edit done =>
    obtain hsame | ⟨hnew, hstarted⟩ := done.frames.2
    · rw [hsame]
      exact ⟨fun h => h, fun hback => absurd hback (Nat.lt_irrefl _)⟩
    · rw [hnew, hstarted]
      exact ⟨fun _ => rfl, fun hback => absurd hback (by decide)⟩
  | service done =>
    obtain ⟨rfl, rfl⟩ | ⟨stage, set, hstage, rfl, hdrawn⟩ := serviceStep_draws done
    · exact ⟨fun h => h, fun hback => absurd hback (Nat.lt_irrefl _)⟩
    · have hdraw : deed.isDraw = true := by simp [Deed.isDraw, hstage]
      obtain ⟨rfl, -⟩ | ⟨rfl, -⟩ := Deed.stage?_cases hstage
      · exact ⟨nofun, fun hback =>
          ⟨Stage.eq_sent_of_rank_lt hback, rfl, hdraw, set, rfl, hdrawn⟩⟩
      · exact ⟨nofun, fun hback => absurd hback (Nat.not_lt.2 (Stage.rank_le_sent _))⟩

/-- **The stage tells the last draw.** In every run from a new exchange, whatever the order of its
edits and of the services asked: pairs are stored exactly when the exchange is generated or sent, and
it is sent exactly when the last step that drew pairs and stored them told everybody. (Trying a draw
out on the organizer stores nothing.) No further step makes it new, and only one that draws pairs and
stores them leads back, from sent to generated. -/
theorem stage_tells_last_draw {id : Id} {name : String} {organizer : Organizer}
    (run : Run Edited (Exchange.new id name organizer) history e) :
    (e.assignments.isSome = true ↔ e.stage = .generated ∨ e.stage = .sent) ∧
      (e.stage = .sent ↔
        ∃ report, history.find? Deed.isDraw = some (.told report) ∧ report.failures = []) ∧
      ∀ {deed : Deed} {e' : Exchange}, Step Edited e deed e' →
        (e'.stage = .new → e.stage = .new) ∧
        (e'.stage.rank < e.stage.rank → e.stage = .sent ∧ e'.stage = .generated ∧
          deed.isDraw = true ∧ ∃ set, e'.assignments = some set ∧ Service.DrawnFor e set) :=
  ⟨run.tracks.isSome_iff, run.tracks.sent_iff, fun next => next.stage_cases⟩

/-- A gateway that takes every mail. -/
def openMailbox : Gateway Nat where
  send taken _ := (.ok (), taken + 1)
  render taken r := (.ok ⟨r.templateName, "", none⟩, taken)

/-- Two people who were told, and then drawn again. -/
theorem stage_of_duo_tells_last_draw :
    ∃ history e report deed e', Run Edited (Exchange.new duo.id duo.name duo.organizer) history e ∧
      e.assignments.isSome = true ∧ e.stage = .sent ∧
      history.find? Deed.isDraw = some (.told report) ∧ report.failures = [] ∧
      Step Edited e deed e' ∧ e'.stage = .generated ∧ deed.isDraw = true ∧
      ∃ set, e'.assignments = some set ∧ Service.DrawnFor e set := by
  have hruns : ((Service.plainService.send 30 openMailbox duo 0).bind fun told =>
      (told.service.generate 30 told.exchange false 0).map fun drew =>
        [told.exchange.stage, drew.exchange.stage]) = some [.sent, .generated] := by
    decide +kernel
  obtain ⟨told, htold, hruns⟩ := Option.bind_eq_some_iff.1 hruns
  obtain ⟨drew, hdrew, hstages⟩ := Option.map_eq_some_iff.1 hruns
  simp only [List.cons.injEq, and_true] at hstages
  obtain ⟨hsent, hgenerated⟩ := hstages
  have run := (run_duo.mono GroupEdit.edited).step (.service (.send htold))
  have next : Step Edited told.exchange (.ofDraw drew.result) drew.exchange :=
    .service (.generate hdrew)
  obtain ⟨hpairs, hcomplete, hstep⟩ := stage_tells_last_draw run
  obtain ⟨report, hlast, hfailures⟩ := hcomplete.1 hsent
  have hback : drew.exchange.stage.rank < told.exchange.stage.rank := by
    rw [hsent, hgenerated]
    decide
  obtain ⟨-, -, hdraw, hset⟩ := (hstep next).2 hback
  exact ⟨_, told.exchange, report, _, drew.exchange, run, hpairs.2 (.inr hsent), hsent, hlast,
    hfailures, next, hgenerated, hdraw, hset⟩

end GiftExchange
