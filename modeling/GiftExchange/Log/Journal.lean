import GiftExchange.About
import GiftExchange.Files.Path
import GiftExchange.Text.Blank

set_option autoImplicit false

/-! # The journal

Logging is set up once, with a level and a directory. Setting it up again is fine with the same
level and directory and refused with others; an attempt that fails leaves everything as it was, so
that a later one may succeed. Once it is set up, the journal keeps the lines that are important
enough for its level. Whether the file of the log can be written is found out too late to refuse
anything: where it cannot, the lines are lost. -/

namespace GiftExchange

/-- Why logging was not set up. -/
inductive JournalError where
  | unsupportedLevel (value : String)
  | emptyDirectory
  | relativeDirectory (value : String)
  | createDirectory (path reason : String)
  | backend (reason : String)
  | levelConflict (active requested : Level)
  | directoryConflict (active requested : String)
  deriving DecidableEq

def JournalError.message : JournalError → String
  | .unsupportedLevel value =>
    s!"unsupported log level `{value}`; expected trace|debug|info|warn|error"
  | .emptyDirectory => "log_dir cannot be empty"
  | .relativeDirectory value => s!"log_dir must be an absolute path, got `{value}`"
  | .createDirectory path reason => s!"failed to create log directory `{path}`: {reason}"
  | .backend reason => s!"failed to start logger: {reason}"
  | .levelConflict active requested =>
    s!"logging already initialized with level `{active.name}`; " ++
      s!"refusing to switch to `{requested.name}`"
  | .directoryConflict active requested =>
    s!"logging already initialized at `{active}`; refusing to switch to `{requested}`"

structure LogLine where
  level : Level
  text : String
  deriving DecidableEq

/-- What was set up, and the lines logged since. -/
structure ActiveLog where
  level : Level
  directory : String
  /-- Whether the file of the log can be written. -/
  writable : Bool
  lines : List LogLine
  deriving DecidableEq

/-- The journal, before and after it is set up. -/
structure Journal where
  active : Option ActiveLog
  deriving DecidableEq

/-- What comes of starting to log: of making the directory, of starting the logger in it, and of
writing the file of the log. -/
structure Startup where
  directory : Except String Unit
  backend : Except String Unit
  writable : Bool

namespace Level

/-- The level that a text names, in any case and with white space around it. -/
def ofText (text : String) : Except JournalError Level :=
  let name := String.ofList ((Text.trimChars text.toList).map Char.toLower)
  if name = "trace" then .ok .trace
  else if name = "debug" then .ok .debug
  else if name = "info" then .ok .info
  else if name = "warn" ∨ name = "warning" then .ok .warn
  else if name = "error" then .ok .error
  else .error (.unsupportedLevel name)

end Level

namespace Journal

/-- The name of the file that lines are written to. -/
def fileName : String := "santa_exchange_rCURRENT.log"

/-- The journal before anything is set up. -/
def fresh : Journal := ⟨none⟩

/-- The directory that a text names: an absolute path with white space around it. -/
def directoryOf (text : String) : Except JournalError String :=
  let path := Text.trim text
  if path.isEmpty then .error .emptyDirectory
  else if !Path.isAbsolute path then .error (.relativeDirectory path)
  else .ok path

/-- What a request asks for. The level is looked at first. -/
def requested (level directory : String) : Except JournalError (Level × String) :=
  match Level.ofText level with
  | .error e => .error e
  | .ok level => (directoryOf directory).map (level, ·)

/-- Adds a line that is important enough, if it can be written. -/
def ActiveLog.add (a : ActiveLog) (line : LogLine) : ActiveLog :=
  if a.writable ∧ a.level.rank ≤ line.level.rank then { a with lines := a.lines ++ [line] } else a

/-- The line with which a log begins. -/
def opening (level : Level) : LogLine :=
  ⟨.info, s!"event=core_init module=core status=ok level={level.name} " ++
    s!"version={About.version} build_mode={About.buildMode}"⟩

/-- Starts to log in a directory. -/
def start (level : Level) (directory : String) (startup : Startup) :
    Except JournalError Journal :=
  match startup.directory, startup.backend with
  | .error reason, _ => .error (.createDirectory directory reason)
  | .ok (), .error reason => .error (.backend reason)
  | .ok (), .ok () =>
    .ok ⟨some (ActiveLog.add ⟨level, directory, startup.writable, []⟩ (opening level))⟩

/-- Whether a request fits what is set up: the directory first, then the level. -/
def agrees (a : ActiveLog) (level : Level) (directory : String) : Except JournalError Unit :=
  if Path.components a.directory ≠ Path.components directory then
    .error (.directoryConflict a.directory directory)
  else if a.level ≠ level then .error (.levelConflict a.level level)
  else .ok ()

/-- Sets up logging. Starting is tried only by a request without fault while nothing is set up. -/
def init (j : Journal) (level directory : String) (startup : String → Startup) :
    Except JournalError Unit × Journal :=
  match requested level directory with
  | .error e => (.error e, j)
  | .ok (level, directory) =>
    match j.active with
    | some a => (agrees a level directory, j)
    | none =>
      match start level directory (startup directory) with
      | .error e => (.error e, j)
      | .ok j => (.ok (), j)

/-- The level and the directory that are set up. -/
def status (j : Journal) : Option (Level × String) :=
  j.active.map fun a => (a.level, a.directory)

/-- Logs a line, if logging is set up. -/
def log (j : Journal) (line : LogLine) : Journal :=
  ⟨j.active.map (ActiveLog.add · line)⟩

/-- The lines logged so far, if logging is set up. -/
def lines (j : Journal) : Option (List LogLine) := j.active.map ActiveLog.lines

/-! ## Crashes -/

/-- The most characters of a crash's message that are logged. -/
def maxPayload : Nat := 160

/-- A message on one line, cut to `limit` characters with dots to show it. -/
def sanitize (message : String) (limit : Nat) : String :=
  let cs := message.toList.map fun c => if c = '\n' ∨ c = '\r' then ' ' else c
  String.ofList (cs.take limit ++ if cs.length > limit then "...".toList else [])

/-- The line of a crash, whose message is not always a text. -/
def crash (location : String) (payload : Option String) : LogLine :=
  let message := sanitize (payload.getD "non-string panic payload") maxPayload
  ⟨.error, s!"event=panic_captured module=core status=error location={location} payload={message}"⟩

end Journal

end GiftExchange
