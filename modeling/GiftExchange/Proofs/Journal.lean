import GiftExchange.Log.Journal
import GiftExchange.Proofs.Text.Blank

set_option autoImplicit false

/-! # Logging is set up once

Calls that set up logging come one after the other, each with texts of its own and with its own
luck: `Request` leaves open what starting to log comes to. While nothing is set up, a call without
fault starts to log, and one that fails leaves nothing behind. Once something is set up no call
changes it any more; a call without fault is only compared with it. So what is set up is what the
first call that succeeded asked for (`status_behindAll_iff`). -/

namespace GiftExchange

/-! ## What a call asks for -/

namespace Level

/-- The words for a level, in lower case. -/
def spellings : Level → List String
  | .warn => ["warn", "warning"]
  | level => [level.name]

/-- A text as it is compared with the words for levels. -/
def plain (text : String) : String :=
  String.ofList ((Text.trimChars text.toList).map Char.toLower)

variable {text : String} {level : Level}

theorem ofText_eq (text : String) :
    ofText text =
      if plain text = "trace" then .ok .trace
      else if plain text = "debug" then .ok .debug
      else if plain text = "info" then .ok .info
      else if plain text = "warn" ∨ plain text = "warning" then .ok .warn
      else if plain text = "error" then .ok .error
      else .error (.unsupportedLevel (plain text)) :=
  rfl

theorem ofText_eq_ok_iff : ofText text = .ok level ↔ plain text ∈ level.spellings := by
  rw [ofText_eq]
  constructor
  · intro h
    split_ifs at h with htrace hdebug hinfo hwarn herror
    all_goals cases h
    · exact List.mem_singleton.2 htrace
    · exact List.mem_singleton.2 hdebug
    · exact List.mem_singleton.2 hinfo
    · simpa [spellings] using hwarn
    · exact List.mem_singleton.2 herror
  · intro h
    cases level with
    | warn =>
      have hwords : plain text = "warn" ∨ plain text = "warning" := by simpa [spellings] using h
      rcases hwords with hword | hword <;> simp [hword]
    | _ =>
      have hword := List.mem_singleton.1 h
      simp [hword, name]

theorem ofText_of_unknown (h : ∀ level : Level, plain text ∉ level.spellings) :
    ofText text = .error (.unsupportedLevel (plain text)) := by
  cases hlevel : ofText text with
  | ok level => exact absurd (ofText_eq_ok_iff.1 hlevel) (h level)
  | error e =>
    rw [ofText_eq] at hlevel
    split_ifs at hlevel
    exact hlevel.symm

end Level

namespace Journal

theorem directoryOf_of_blank {text : String} (h : Text.isBlank text = true) :
    directoryOf text = .error .emptyDirectory := by
  simp only [directoryOf, Text.isEmpty_trim, h, if_true]

theorem directoryOf_of_relative {text : String} (hblank : Text.isBlank text = false)
    (h : Path.isAbsolute (Text.trim text) = false) :
    directoryOf text = .error (.relativeDirectory (Text.trim text)) := by
  simp [directoryOf, Text.isEmpty_trim, hblank, h]

theorem not_isBlank_of_isAbsolute {text : String} (h : Path.isAbsolute (Text.trim text) = true) :
    Text.isBlank text = false := by
  rw [← Text.isEmpty_trim, Bool.eq_false_iff]
  intro hempty
  rw [String.isEmpty_iff.1 hempty] at h
  simp [Path.isAbsolute] at h

theorem directoryOf_of_absolute {text : String} (h : Path.isAbsolute (Text.trim text) = true) :
    directoryOf text = .ok (Text.trim text) := by
  simp [directoryOf, Text.isEmpty_trim, not_isBlank_of_isAbsolute h, h]

/-- A call without fault names a level, and an absolute path with white space around it. -/
theorem requested_eq_ok_iff {text path : String} {level : Level} {directory : String} :
    requested text path = .ok (level, directory) ↔
      Level.plain text ∈ level.spellings ∧ Path.isAbsolute (Text.trim path) = true ∧
        Text.trim path = directory := by
  rw [← Level.ofText_eq_ok_iff, requested]
  cases Level.ofText text with
  | error e => simp
  | ok named =>
    cases habsolute : Path.isAbsolute (Text.trim path) with
    | true => simp [directoryOf_of_absolute habsolute, Except.map]
    | false =>
      cases hblank : Text.isBlank path with
      | true => simp [directoryOf_of_blank hblank, Except.map]
      | false => simp [directoryOf_of_relative hblank habsolute, Except.map]

theorem requested_of_unknown {text : String} (path : String)
    (h : ∀ level : Level, Level.plain text ∉ level.spellings) :
    requested text path = .error (.unsupportedLevel (Level.plain text)) := by
  rw [requested, Level.ofText_of_unknown h]

theorem requested_of_directory {text path : String} {level : Level} {e : JournalError}
    (hlevel : Level.plain text ∈ level.spellings) (h : directoryOf path = .error e) :
    requested text path = .error e := by
  rw [requested, Level.ofText_eq_ok_iff.2 hlevel, h]
  rfl

/-! ## One call -/

/-- A call that sets up logging: its texts, and what starting to log in a directory comes to at
that time. -/
structure Request where
  level : String
  directory : String
  startup : String → Startup

/-- What a call answers. -/
def answer (j : Journal) (r : Request) : Except JournalError Unit :=
  (j.init r.level r.directory r.startup).1

/-- The journal behind a call. -/
def behind (j : Journal) (r : Request) : Journal :=
  (j.init r.level r.directory r.startup).2

variable {j : Journal} {r : Request} {level active : Level} {directory place : String}

/-- A call with a fault is refused whatever is set up. -/
theorem init_of_fault {e : JournalError} (h : requested r.level r.directory = .error e) :
    j.answer r = .error e ∧ j.behind r = j := by
  simp only [answer, behind, init, h, and_self]

/-- Once something is set up, a call without fault is compared with it. -/
theorem init_of_active {a : ActiveLog} (h : requested r.level r.directory = .ok (level, directory))
    (hactive : j.active = some a) :
    j.answer r = agrees a level directory ∧ j.behind r = j := by
  simp only [answer, behind, init, h, hactive, and_self]

/-- While nothing is set up, a call without fault starts to log. -/
theorem init_of_fresh (h : requested r.level r.directory = .ok (level, directory))
    (hfresh : j.active = none) :
    (∃ e, start level directory (r.startup directory) = .error e ∧
      j.answer r = .error e ∧ j.behind r = j) ∨
    (start level directory (r.startup directory) = .ok (j.behind r) ∧ j.answer r = .ok ()) := by
  simp only [answer, behind, init, h, hfresh]
  cases start level directory (r.startup directory) with
  | error e => exact .inl ⟨e, rfl, rfl, rfl⟩
  | ok started => exact .inr ⟨rfl, rfl⟩

theorem status_add (a : ActiveLog) (line : LogLine) :
    status ⟨some (ActiveLog.add a line)⟩ = some (a.level, a.directory) := by
  unfold ActiveLog.add
  split <;> rfl

theorem status_of_start {startup : Startup} (h : start level directory startup = .ok j) :
    j.status = some (level, directory) := by
  unfold start at h
  split at h
  · cases h
  · cases h
  · cases h
    exact status_add _ _

/-- Nothing but the directory and the logger can keep logging from starting. -/
theorem exists_start {startup : Startup} (hmade : startup.directory = .ok ())
    (hlogger : startup.backend = .ok ()) : ∃ j, start level directory startup = .ok j := by
  simp only [start, hmade, hlogger]
  exact ⟨_, rfl⟩

theorem status_eq_none_iff : j.status = none ↔ j.active = none :=
  Option.map_eq_none_iff

theorem status_eq_some_iff :
    j.status = some (active, place) ↔
      ∃ a, j.active = some a ∧ a.level = active ∧ a.directory = place := by
  simp only [status, Option.map_eq_some_iff, Prod.mk.injEq]

/-- A call that fails leaves everything as it is. -/
theorem behind_of_failure (h : j.answer r ≠ .ok ()) : j.behind r = j := by
  cases hwanted : requested r.level r.directory with
  | error fault => exact (init_of_fault hwanted).2
  | ok wanted =>
    obtain ⟨level, directory⟩ := wanted
    cases hactive : j.active with
    | some a => exact (init_of_active hwanted hactive).2
    | none =>
      rcases init_of_fresh hwanted hactive with ⟨e', -, -, hbehind⟩ | ⟨-, hok⟩
      · exact hbehind
      · exact absurd hok h

/-- What is set up stays, whatever a call answers. -/
theorem behind_of_status (h : j.status ≠ none) : j.behind r = j := by
  obtain ⟨a, hactive⟩ := Option.ne_none_iff_exists'.1 (mt status_eq_none_iff.2 h)
  cases hwanted : requested r.level r.directory with
  | error fault => exact (init_of_fault hwanted).2
  | ok wanted => exact (init_of_active hwanted hactive).2

/-- A call that succeeds while nothing is set up sets up what it asks for. -/
theorem status_of_success (hfresh : j.status = none) (h : j.answer r = .ok ()) :
    ∃ level directory, requested r.level r.directory = .ok (level, directory) ∧
      (j.behind r).status = some (level, directory) := by
  cases hwanted : requested r.level r.directory with
  | error fault =>
    rw [(init_of_fault hwanted).1] at h
    cases h
  | ok wanted =>
    obtain ⟨level, directory⟩ := wanted
    refine ⟨level, directory, rfl, ?_⟩
    rcases init_of_fresh hwanted (status_eq_none_iff.1 hfresh) with ⟨e, -, herror, -⟩ | ⟨hstart, -⟩
    · rw [herror] at h
      cases h
    · exact status_of_start hstart

/-- A call without fault succeeds while nothing is set up, if logging can start. -/
theorem success_of_startup (hfresh : j.status = none)
    (hwanted : requested r.level r.directory = .ok (level, directory))
    (hmade : (r.startup directory).directory = .ok ())
    (hlogger : (r.startup directory).backend = .ok ()) : j.answer r = .ok () := by
  obtain ⟨started, hstart⟩ := exists_start hmade hlogger
  rcases init_of_fresh hwanted (status_eq_none_iff.1 hfresh) with ⟨e, herror, -, -⟩ | ⟨-, hok⟩
  · rw [hstart] at herror
    cases herror
  · exact hok

/-- A call without fault is compared with what is set up: the directories part by part, and then
the levels. -/
theorem answer_of_status (hstatus : j.status = some (active, place))
    (hwanted : requested r.level r.directory = .ok (level, directory)) :
    j.answer r =
      if Path.components place ≠ Path.components directory then
        .error (.directoryConflict place directory)
      else if active ≠ level then .error (.levelConflict active level)
      else .ok () := by
  obtain ⟨a, hactive, rfl, rfl⟩ := status_eq_some_iff.1 hstatus
  rw [(init_of_active hwanted hactive).1]
  rfl

/-! ## Any number of calls -/

/-- The journal behind some calls. -/
def behindAll (j : Journal) (rs : List Request) : Journal := rs.foldl behind j

/-- What some calls answer, one after the other. -/
def answers (j : Journal) : List Request → List (Except JournalError Unit)
  | [] => []
  | r :: rest => j.answer r :: answers (j.behind r) rest

/-- The first of some calls that succeeds. -/
def FirstSuccess (j : Journal) (rs : List Request) (first : Request) : Prop :=
  ∃ before later, rs = before ++ first :: later ∧ (∀ a ∈ j.answers before, a ≠ .ok ()) ∧
    (j.behindAll before).answer first = .ok ()

variable {rs : List Request} {first : Request}

theorem behindAll_cons (j : Journal) (r : Request) (rest : List Request) :
    j.behindAll (r :: rest) = (j.behind r).behindAll rest :=
  rfl

theorem behindAll_append (j : Journal) (before later : List Request) :
    j.behindAll (before ++ later) = (j.behindAll before).behindAll later :=
  List.foldl_append

theorem behindAll_of_status (h : j.status ≠ none) : j.behindAll rs = j := by
  induction rs with
  | nil => rfl
  | cons r rest ih => rw [behindAll_cons, behind_of_status h, ih]

/-- Calls that all fail leave everything as it is. -/
theorem behindAll_of_failures (h : ∀ a ∈ j.answers rs, a ≠ .ok ()) : j.behindAll rs = j := by
  induction rs with
  | nil => rfl
  | cons r rest ih =>
    rw [answers, List.forall_mem_cons] at h
    obtain ⟨hfirst, hrest⟩ := h
    rw [behind_of_failure hfirst] at hrest
    rw [behindAll_cons, behind_of_failure hfirst, ih hrest]

/-- Calls that do not all fail have a first success. -/
theorem exists_firstSuccess (h : ¬ ∀ a ∈ j.answers rs, a ≠ .ok ()) :
    ∃ first, j.FirstSuccess rs first := by
  induction rs with
  | nil => exact absurd (List.forall_mem_nil _) h
  | cons r rest ih =>
    by_cases hanswer : j.answer r = .ok ()
    · exact ⟨r, [], rest, rfl, List.forall_mem_nil _, hanswer⟩
    · have hstays : j.behind r = j := behind_of_failure hanswer
      have hrest : ¬ ∀ a ∈ j.answers rest, a ≠ .ok () := by
        intro hfail
        rw [answers, List.forall_mem_cons, hstays] at h
        exact h ⟨hanswer, hfail⟩
      obtain ⟨first, before, later, rfl, hbefore, hfirst⟩ := ih hrest
      refine ⟨first, r :: before, later, rfl, ?_, ?_⟩
      · rw [answers, List.forall_mem_cons, hstays]
        exact ⟨hanswer, hbefore⟩
      · rw [behindAll_cons, hstays]
        exact hfirst

/-- What the first success asks for is set up from then on. -/
theorem FirstSuccess.status_eq (h : j.FirstSuccess rs first) (hfresh : j.status = none) :
    ∃ level directory, requested first.level first.directory = .ok (level, directory) ∧
      (j.behindAll rs).status = some (level, directory) := by
  obtain ⟨before, later, rfl, hbefore, hfirst⟩ := h
  rw [behindAll_of_failures hbefore] at hfirst
  obtain ⟨level, directory, hwanted, hstatus⟩ := status_of_success hfresh hfirst
  refine ⟨level, directory, hwanted, ?_⟩
  have hset : (j.behind first).status ≠ none := by simp [hstatus]
  rw [behindAll_append, behindAll_of_failures hbefore, behindAll_cons, behindAll_of_status hset,
    hstatus]

theorem status_behindAll_eq_none_iff :
    (fresh.behindAll rs).status = none ↔ ∀ a ∈ fresh.answers rs, a ≠ .ok () := by
  constructor
  · intro hnone
    by_contra hsome
    obtain ⟨first, hfirst⟩ := exists_firstSuccess hsome
    obtain ⟨level, directory, -, hstatus⟩ := hfirst.status_eq rfl
    rw [hstatus] at hnone
    cases hnone
  · intro hfail
    rw [behindAll_of_failures hfail]
    rfl

theorem status_behindAll_iff :
    (fresh.behindAll rs).status = some (level, directory) ↔
      ∃ first, fresh.FirstSuccess rs first ∧
        requested first.level first.directory = .ok (level, directory) := by
  constructor
  · intro hstatus
    have hsome : ¬ ∀ a ∈ fresh.answers rs, a ≠ .ok () := by
      rw [← status_behindAll_eq_none_iff, hstatus]
      exact Option.some_ne_none _
    obtain ⟨first, hfirst⟩ := exists_firstSuccess hsome
    obtain ⟨level', directory', hwanted, hstatus'⟩ := hfirst.status_eq rfl
    rw [hstatus] at hstatus'
    cases hstatus'
    exact ⟨first, hfirst, hwanted⟩
  · rintro ⟨first, hfirst, hwanted⟩
    obtain ⟨level', directory', hwanted', hstatus⟩ := hfirst.status_eq rfl
    rw [hwanted] at hwanted'
    cases hwanted'
    exact hstatus

/-- **Logging is set up once.** Take any calls that set up logging, with any texts and whatever
comes of starting. Nothing is set up until the first call that succeeds, and from then on it is the
level and the directory of that call. A call that fails changes nothing. A call that names no level
is refused with its text, else one with a blank or a relative directory is refused with that,
whatever is set up. A call without such a fault succeeds while nothing is set up if only the
directory is made and the logger starts, also behind calls that failed. Once something is set up it
is refused because of the directory if that has other parts, else because of the level if that is
another one, and else it succeeds. -/
theorem logging_is_set_up_once (earlier : List Request) (r : Request) :
    let j := fresh.behindAll earlier
    (j.status = none ↔ ∀ a ∈ fresh.answers earlier, a ≠ .ok ()) ∧
    (∀ level directory, j.status = some (level, directory) ↔
      ∃ first, fresh.FirstSuccess earlier first ∧ Level.plain first.level ∈ level.spellings ∧
        Path.isAbsolute (Text.trim first.directory) = true ∧
        Text.trim first.directory = directory) ∧
    (∀ e, j.answer r = .error e → j.behind r = j) ∧
    ((∀ level : Level, Level.plain r.level ∉ level.spellings) →
      j.answer r = .error (.unsupportedLevel (Level.plain r.level))) ∧
    ∀ level : Level, Level.plain r.level ∈ level.spellings →
      (Text.isBlank r.directory = true → j.answer r = .error .emptyDirectory) ∧
      (Text.isBlank r.directory = false → Path.isAbsolute (Text.trim r.directory) = false →
        j.answer r = .error (.relativeDirectory (Text.trim r.directory))) ∧
      (Path.isAbsolute (Text.trim r.directory) = true →
        (j.status = none →
          (r.startup (Text.trim r.directory)).directory = .ok () →
          (r.startup (Text.trim r.directory)).backend = .ok () →
          j.answer r = .ok () ∧
            (j.behind r).status = some (level, Text.trim r.directory)) ∧
        ∀ active place, j.status = some (active, place) →
          j.answer r =
            if Path.components place ≠ Path.components (Text.trim r.directory) then
              .error (.directoryConflict place (Text.trim r.directory))
            else if active ≠ level then .error (.levelConflict active level)
            else .ok ()) := by
  intro j
  refine ⟨status_behindAll_eq_none_iff, fun level directory => ?_,
    fun e herror => behind_of_failure (by simp [herror]),
    fun hunknown => (init_of_fault (requested_of_unknown _ hunknown)).1,
    fun level hlevel => ⟨fun hblank => ?_, fun hblank hrelative => ?_, fun habsolute => ⟨?_, ?_⟩⟩⟩
  · simp only [← requested_eq_ok_iff]
    exact status_behindAll_iff
  · exact (init_of_fault (requested_of_directory hlevel (directoryOf_of_blank hblank))).1
  · exact (init_of_fault
      (requested_of_directory hlevel (directoryOf_of_relative hblank hrelative))).1
  · intro hfresh hmade hlogger
    have hwanted : requested r.level r.directory = .ok (level, Text.trim r.directory) :=
      requested_eq_ok_iff.2 ⟨hlevel, habsolute, rfl⟩
    have hok : j.answer r = .ok () := success_of_startup hfresh hwanted hmade hlogger
    obtain ⟨level', directory', hwanted', hstatus⟩ := status_of_success hfresh hok
    rw [hwanted] at hwanted'
    cases hwanted'
    exact ⟨hok, hstatus⟩
  · intro active place hstatus
    exact answer_of_status hstatus (requested_eq_ok_iff.2 ⟨hlevel, habsolute, rfl⟩)

/-- Starting that succeeds. -/
def runs : Startup := ⟨.ok (), .ok (), true⟩

/-- Calls that name no level, no absolute path, and a directory that cannot be made; then one that
succeeds, and one that is refused. -/
def fiveCalls : List Request :=
  [⟨"loud", "/var/log/swap", fun _ => runs⟩, ⟨"info", "log/swap", fun _ => runs⟩,
    ⟨"info", "/var/log/swap", fun _ => { runs with directory := .error "no room" }⟩,
    ⟨" Warning", "/var/log/swap ", fun _ => runs⟩, ⟨"warn", "/var/log", fun _ => runs⟩]

theorem logging_is_set_up_once_of_fiveCalls :
    (fresh.behindAll (fiveCalls.take 3)).status = none ∧
      (fresh.behindAll fiveCalls).status = some (.warn, "/var/log/swap") ∧
      (∀ startup, (fresh.behindAll fiveCalls).answer ⟨"WARN", "//var/./log/swap/", startup⟩ =
        .ok ()) ∧
      (∀ startup, (fresh.behindAll fiveCalls).answer ⟨"info", "/var/log/swap", startup⟩ =
        .error (.levelConflict .warn .info)) ∧
      ∀ startup, (fresh.behindAll fiveCalls).answer ⟨"info", "/var/log", startup⟩ =
        .error (.directoryConflict "/var/log/swap" "/var/log") := by
  have hfailed : ∀ a ∈ fresh.answers (fiveCalls.take 3), a ≠ .ok () := by decide +kernel
  have hstatus : (fresh.behindAll fiveCalls).status = some (.warn, "/var/log/swap") := by
    decide +kernel
  have hcompared : ∀ (text path : String) (level : Level) (startup : String → Startup),
      Level.plain text ∈ level.spellings → Path.isAbsolute (Text.trim path) = true →
      (fresh.behindAll fiveCalls).answer ⟨text, path, startup⟩ =
        if Path.components "/var/log/swap" ≠ Path.components (Text.trim path) then
          .error (.directoryConflict "/var/log/swap" (Text.trim path))
        else if .warn ≠ level then .error (.levelConflict .warn level)
        else .ok () := by
    intro text path level startup hlevel habsolute
    obtain ⟨-, -, -, -, hsound⟩ := logging_is_set_up_once fiveCalls ⟨text, path, startup⟩
    exact ((hsound level hlevel).2.2 habsolute).2 _ _ hstatus
  refine ⟨(logging_is_set_up_once _ ⟨"", "", fun _ => runs⟩).1.2 hfailed, hstatus, ?_, ?_, ?_⟩
  · intro startup
    rw [hcompared "WARN" "//var/./log/swap/" .warn startup (by decide +kernel) (by decide +kernel)]
    decide +kernel
  · intro startup
    rw [hcompared "info" "/var/log/swap" .info startup (by decide +kernel) (by decide +kernel)]
    decide +kernel
  · intro startup
    rw [hcompared "info" "/var/log" .info startup (by decide +kernel) (by decide +kernel)]
    decide +kernel

end Journal

end GiftExchange
