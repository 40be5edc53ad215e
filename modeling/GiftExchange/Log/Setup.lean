import GiftExchange.Files.Tree
import GiftExchange.Log.Journal

set_option autoImplicit false

/-! # Setting up the journal in a tree of files

The directory of the log is made in the tree when logging starts, and the log is written to a file
in it. Logging cannot start where another logger has been set up before. -/

namespace GiftExchange

/-- A journal, the files around it, and whether the place of the logger is taken by another. -/
structure LogSetup where
  journal : Journal
  files : FileTree
  loggerTaken : Bool

namespace LogSetup

/-- What starting to log comes to. -/
def startup (s : LogSetup) (directory : String) : Startup :=
  let (made, files) := s.files.makeDirectories directory
  { directory := made.mapError FileError.message
    backend := if s.loggerTaken then .error "Logger initialization failed" else .ok ()
    writable := files.canWrite (Path.join directory Journal.fileName) }

/-- The files after a request: its directory is made if starting is tried. -/
def filesAfter (s : LogSetup) (level directory : String) : FileTree :=
  match s.journal.active, Journal.requested level directory with
  | none, .ok (_, directory) => (s.files.makeDirectories directory).2
  | _, _ => s.files

def init (s : LogSetup) (level directory : String) : Except JournalError Unit × LogSetup :=
  let (answer, journal) := s.journal.init level directory s.startup
  (answer, { s with journal := journal, files := s.filesAfter level directory })

end LogSetup

end GiftExchange
