import GiftExchange.Log.Setup
import GiftExchange.Proofs.Files.Making
import GiftExchange.Proofs.Files.Reading
import GiftExchange.Proofs.Journal
import Mathlib.Logic.Relation

set_option autoImplicit false

/-! # Starting the log among files

Starting to log makes the directory of the log in the tree of files and is refused if that fails. A
call that does not come so far leaves the files alone. Whatever is done about logging, in any order,
the tree only grows by directories, and it stays as it is from the first success on; so settings that
could be read before can be read as before. -/

namespace GiftExchange

namespace FileTree

variable {t t' : FileTree} {parts : List String} {path text : String} {found : Settings}

/-- A file is read in a tree that grew as before. -/
theorem Grows.reads {bytes : ByteArray} (h : Grows t t') (hread : t.Reads parts (.ok bytes)) :
    t'.Reads parts (.ok bytes) := by
  cases hread with
  | file hfront hname hfile => exact .file (h.leads hfront) hname (h.kept hfile)

theorem Grows.hasText (h : Grows t t') (htext : t.HasText path text) : t'.HasText path text := by
  have hparts : t'.partsOf path = t.partsOf path := by rw [partsOf, partsOf, h.working]
  refine ⟨htext.1, ?_⟩
  rw [hparts]
  exact h.reads htext.2

theorem Grows.settings (h : Grows t t') (hread : Settings.ofPath t path = .ok found) :
    Settings.ofPath t' path = .ok found := by
  obtain ⟨-, hok, -⟩ := Settings.settings_come_from_file t path
  obtain ⟨-, hok', -⟩ := Settings.settings_come_from_file t' path
  obtain ⟨text, htext, hsettings⟩ := (hok found).1 hread
  exact (hok' found).2 ⟨text, h.hasText htext, hsettings⟩

/-! ## The file of the log -/

variable {names : List String}

theorem partsOf_of_isAbsolute (h : Path.isAbsolute path = true) (t : FileTree) :
    t.partsOf path = Path.parts path := if_pos h

/-- A file of a directory can be written if its path is not refused as a whole, and no directory
stands in its place. -/
theorem canWrite_join_iff {name : String} (hpath : Path.isAbsolute path = true)
    (hname : Path.isName name = true) (hslash : '/' ∉ name.toList)
    (hleads : t.Leads (Path.parts path) names) :
    t.canWrite (Path.join path name) = true ↔
      refusal? (Path.join path name) = none ∧ ¬t.IsDirectory (names ++ [name]) := by
  obtain ⟨front, hparts, hfilter⟩ := Path.exists_parts_join path hslash
  have hfront : t.Leads front names := by
    rw [Leads, ← way_filter_iff, hfilter, way_filter_iff]
    exact hleads
  have hlast : t.isDirectory (front ++ [name]) = true ↔ t.IsDirectory (names ++ [name]) := by
    rw [isDirectory_iff]
    constructor
    · rintro ⟨target, hway⟩
      exact ((way_down_iff hname).1 (Way.rest_of_append hfront hway)).1
    · intro hdirectory
      exact ⟨_, hfront.append (.down hname hdirectory (.here _))⟩
  have hthere : t.isDirectory front = true := isDirectory_iff.2 ⟨names, hfront⟩
  rw [canWrite, partsOf_of_isAbsolute (Path.isAbsolute_join hpath name), hparts]
  simp [hthere, Path.isLongPart_of_isName hname, ← hlast]

end FileTree

namespace LogSetup

open FileTree Journal

variable {s s' : LogSetup} {text directory path : String} {level : Level}

/-- A call to set up logging, where the files decide what starting comes to. -/
def request (s : LogSetup) (text directory : String) : Request := ⟨text, directory, s.startup⟩

theorem init_eq (s : LogSetup) (text directory : String) :
    s.init text directory =
      (s.journal.answer (s.request text directory),
        { s with
          journal := s.journal.behind (s.request text directory)
          files := s.filesAfter text directory }) := by
  rw [init, Journal.answer, Journal.behind, request]

/-! ## One call -/

theorem filesAfter_of_fault {e : JournalError} (h : requested text directory = .error e) :
    s.filesAfter text directory = s.files := by
  unfold filesAfter
  rw [h]
  cases s.journal.active <;> rfl

theorem filesAfter_of_active (h : s.journal.active ≠ none) :
    s.filesAfter text directory = s.files := by
  obtain ⟨a, hactive⟩ := Option.ne_none_iff_exists'.1 h
  rw [filesAfter, hactive]

theorem filesAfter_of_fresh (hfresh : s.journal.active = none)
    (hwanted : requested text directory = .ok (level, path)) :
    s.filesAfter text directory = (s.files.makeDirectories path).2 := by
  rw [filesAfter, hfresh, hwanted]

/-- No call loses a file. -/
theorem grows_filesAfter (s : LogSetup) (text directory : String) :
    Grows s.files (s.filesAfter text directory) := by
  by_cases hactive : s.journal.active = none
  · cases hwanted : requested text directory with
    | error e =>
      rw [filesAfter_of_fault hwanted]
      exact .refl _
    | ok wanted =>
      rw [filesAfter_of_fresh hactive hwanted]
      exact (s.files.directories_are_made wanted.2).1.toGrows
  · rw [filesAfter_of_active hactive]
    exact .refl _

/-- Starting works out when the directory is made and no other logger is there. -/
theorem start_startup_iff (s : LogSetup) (level : Level) (path : String) :
    (∃ j, start level path (s.startup path) = .ok j) ↔
      (s.files.makeDirectories path).1 = .ok () ∧ s.loggerTaken = false := by
  rw [start, startup]
  rcases s.files.makeDirectories path with ⟨e | ⟨⟩, files⟩
  · simp [Except.mapError]
  · cases s.loggerTaken <;> simp [Except.mapError]

/-- What was started writes if the file of the log can be written. -/
theorem writable_of_start {startup : Startup} {j : Journal}
    (h : start level path startup = .ok j) :
    ∃ log, j.active = some log ∧ log.level = level ∧ log.directory = path ∧
      log.writable = startup.writable := by
  unfold start at h
  split at h
  · cases h
  · cases h
  · cases h
    refine ⟨_, rfl, ?_⟩
    unfold ActiveLog.add
    split <;> exact ⟨rfl, rfl, rfl⟩

/-- What a call answers and leaves while nothing is set up: logging starts, or everything about it is as
before. -/
theorem init_cases_of_fresh (hfresh : s.journal.active = none)
    (hwanted : requested text directory = .ok (level, path)) :
    (∃ j, start level path (s.startup path) = .ok j ∧ s.init text directory =
        (.ok (), { s with journal := j, files := (s.files.makeDirectories path).2 })) ∨
      ∃ e, start level path (s.startup path) = .error e ∧ s.init text directory =
        (.error e, { s with files := (s.files.makeDirectories path).2 }) := by
  rw [init_eq, filesAfter_of_fresh hfresh hwanted]
  obtain ⟨e, hstart, hanswer, hbehind⟩ | ⟨hstart, hanswer⟩ :=
    Journal.init_of_fresh (j := s.journal) (r := s.request text directory) hwanted hfresh
  · rw [hanswer, hbehind]
    exact .inr ⟨e, hstart, rfl⟩
  · rw [hanswer]
    exact .inl ⟨_, hstart, rfl⟩

theorem startup_writable (s : LogSetup) (path : String) :
    (s.startup path).writable =
      (s.files.makeDirectories path).2.canWrite (Path.join path fileName) := by
  rw [startup]

theorem isName_fileName : Path.isName fileName = true := by decide

theorem slash_not_mem_fileName : '/' ∉ fileName.toList := by decide

/-- **The log starts in its directory.** Take a call without fault while nothing is set up. It makes the
directory of the log, and what is new among the files are directories that lead to it. It succeeds
exactly if no other logger is there, the path is not refused as a whole, and the directory is there in
the end. This is so exactly if besides no file stands on the way and no name is too long, unless the
path ends with a dot. What is set up then has the level and the directory that were asked for, and its
lines are kept exactly if the path of the file is not refused and no directory stands in its place. A
call that fails sets nothing up. -/
theorem log_starts_in_its_directory {answer : Except JournalError Unit} {next : LogSetup}
    (hfresh : s.journal.active = none) (hwanted : requested text directory = .ok (level, path))
    (hcall : s.init text directory = (answer, next)) :
    GrowsAlong (Path.parts path) s.files next.files ∧
      (answer = .ok () ↔ s.loggerTaken = false ∧ refusal? path = none ∧
        next.files.isDirectory (Path.parts path) = true) ∧
      ((Path.dropEmptyEnd (Path.parts path)).getLast? ≠ some "." →
        (answer = .ok () ↔ s.loggerTaken = false ∧ refusal? path = none ∧
          s.files.Clear (Path.parts path))) ∧
      (answer = .ok () → ∃ log names, next.journal.active = some log ∧ log.level = level ∧
        log.directory = path ∧ next.files.Leads (Path.parts path) names ∧
        (log.writable = true ↔ refusal? (Path.join path fileName) = none ∧
          ¬next.files.IsDirectory (names ++ [fileName]))) ∧
      (answer ≠ .ok () → next.journal = s.journal) := by
  have habsolute : Path.isAbsolute path = true := by
    obtain ⟨-, hpath, rfl⟩ := requested_eq_ok_iff.1 hwanted
    exact hpath
  obtain ⟨hgrows, hmade, hclear, -, -⟩ := s.files.directories_are_made path
  rw [partsOf_of_isAbsolute habsolute] at hgrows hmade hclear
  have hstarts := start_startup_iff s level path
  obtain ⟨j, hstart, hinit⟩ | ⟨e, hstart, hinit⟩ := init_cases_of_fresh hfresh hwanted
  · cases hinit.symm.trans hcall
    obtain ⟨hdirectory, htaken⟩ := hstarts.1 ⟨j, hstart⟩
    refine ⟨hgrows, iff_of_true rfl ⟨htaken, hmade.1 hdirectory⟩,
      fun hdot => iff_of_true rfl ⟨htaken, (hclear hdot).1 hdirectory⟩, fun _ => ?_,
      fun hnot => absurd rfl hnot⟩
    obtain ⟨names, hleads⟩ := isDirectory_iff.1 (hmade.1 hdirectory).2
    obtain ⟨log, hactive, hlevel, hplace, hwritable⟩ := writable_of_start hstart
    refine ⟨log, names, hactive, hlevel, hplace, hleads, ?_⟩
    rw [hwritable, startup_writable]
    exact canWrite_join_iff habsolute isName_fileName slash_not_mem_fileName hleads
  · cases hinit.symm.trans hcall
    have hnot : ¬((s.files.makeDirectories path).1 = .ok () ∧ s.loggerTaken = false) := by
      rw [← hstarts, hstart]
      nofun
    refine ⟨hgrows, iff_of_false nofun fun h => hnot ⟨hmade.2 h.2, h.1⟩,
      fun hdot => iff_of_false nofun fun h => hnot ⟨(hclear hdot).2 h.2, h.1⟩, nofun, fun _ => rfl⟩

/-- The first call makes the directory among no files at all. -/
example : ((LogSetup.mk .fresh ⟨[], []⟩ false).init "info" " /var/log ").2.files.isDirectory
    ["var", "log"] = true := by
  rfl

/-! ## Any number of calls -/

/-- What can happen to logging: a call to set it up, a line that is logged, another logger. -/
inductive Step : LogSetup → LogSetup → Prop where
  | init (s : LogSetup) (text directory : String) : Step s (s.init text directory).2
  | log (s : LogSetup) (line : LogLine) : Step s { s with journal := s.journal.log line }
  | otherLogger (s : LogSetup) : Step s { s with loggerTaken := true }

/-- A step loses no file, and changes none once logging is set up. -/
theorem Step.files (h : Step s s') :
    Grows s.files s'.files ∧
      (s.journal.active ≠ none → s'.files = s.files ∧ s'.journal.active ≠ none) := by
  cases h with
  | init text directory =>
    rw [init_eq]
    refine ⟨grows_filesAfter s text directory, fun hactive => ⟨filesAfter_of_active hactive, ?_⟩⟩
    rw [behind_of_status (mt status_eq_none_iff.1 hactive)]
    exact hactive
  | log line =>
    exact ⟨.refl _, fun hactive => ⟨rfl, mt Option.map_eq_none_iff.1 hactive⟩⟩
  | otherLogger => exact ⟨.refl _, fun hactive => ⟨rfl, hactive⟩⟩

/-- **Logging keeps all files.** Whatever is done about logging, in any order: what stood among the files
stands there as before, and only directories are new. From the first success on nothing is new. Texts
and settings that could be read before are read as before. -/
theorem logging_keeps_files (run : Relation.ReflTransGen Step s s') :
    Grows s.files s'.files ∧ (s.journal.active ≠ none → s'.files = s.files) ∧
      (∀ path text, s.files.HasText path text → s'.files.HasText path text) ∧
      ∀ path found, Settings.ofPath s.files path = .ok found →
        Settings.ofPath s'.files path = .ok found := by
  have hrun : Grows s.files s'.files ∧
      (s.journal.active ≠ none → s'.files = s.files ∧ s'.journal.active ≠ none) := by
    induction run with
    | refl => exact ⟨.refl _, fun hactive => ⟨rfl, hactive⟩⟩
    | tail _ next ih =>
      obtain ⟨hgrows, hstays⟩ := next.files
      refine ⟨ih.1.trans hgrows, fun hactive => ?_⟩
      obtain ⟨hfiles, hactive'⟩ := ih.2 hactive
      exact ⟨(hstays hactive').1.trans hfiles, (hstays hactive').2⟩
  exact ⟨hrun.1, fun hactive => (hrun.2 hactive).1, fun _ _ => hrun.1.hasText,
    fun _ _ => hrun.1.settings⟩

end LogSetup

end GiftExchange
