import GiftExchange.Demo
import GiftExchange.Files.Tree

set_option autoImplicit false

/-! # The command line

Runs the demonstration and logs it in the directory that `SANTA_LOG_DIR` names, or else in one
under the system's directory for temporary files. Whatever goes wrong with the log, the
demonstration is run. -/

namespace GiftExchange

def systemReason : IO.Error → String
  | .alreadyExists .. => FileError.exists.message
  | .inappropriateType .. => FileError.notDirectory.message
  | .noFileOrDirectory .. => FileError.notFound.message
  | .invalidArgument _ 36 _ => FileError.nameTooLong.message
  | other => toString other

/-- What making a directory comes to. -/
def makeLogDirectory (directory : String) : IO (Except String Unit) := do
  try
    IO.FS.createDirAll directory
    pure (.ok ())
  catch e => pure (.error (systemReason e))

/-- Adds lines to the log in a directory. -/
def writeLog (directory : String) (lines : List LogLine) : IO Unit := do
  let file ← IO.FS.Handle.mk (Path.join directory Journal.fileName) .append
  for line in lines do
    file.putStrLn s!"{line.level.label} {line.text}"

/-- An identifier drawn from the system's source of random numbers. -/
def randomId : IO Id := do
  let mut number := 0
  for byte in (← IO.getRandomBytes 16).toList do
    number := number * 256 + byte.toNat
  pure (.ofRandom number)

/-- The directory that is asked for, or else one for temporary files. -/
def logDirectory : IO String := do
  match ← IO.getEnv "SANTA_LOG_DIR" with
  | some directory => pure directory
  | none => pure (Path.join ((← IO.getEnv "TMPDIR").getD "/tmp") "santa_exchange")

/-- Sets up the journal, and makes its directory if there is something to set up. -/
def setUpJournal (directory : String) : IO (Except JournalError Unit × Journal) := do
  let level := About.defaultLevel.name
  match Journal.requested level directory with
  | .error e => pure (.error e, .fresh)
  | .ok (_, path) =>
    let made ← makeLogDirectory path
    pure (Journal.fresh.init level directory fun _ => ⟨made, .ok (), true⟩)

/-- Runs the demonstration with random identifiers. -/
def runDemo : IO UInt32 := do
  let directory ← logDirectory
  let (logging, journal) ← setUpJournal directory
  let exchange ← randomId
  let people ← Demo.names.mapM fun _ => randomId
  match Demo.run 1000000 directory logging exchange people with
  | none =>
    IO.eprintln "demo failed: out of fuel"
    pure 1
  | some transcript =>
    let journal := transcript.events.foldl (fun j e => j.log ⟨e.level, e.message⟩) journal
    match journal.active with
    | some log =>
      try writeLog log.directory log.lines
      catch e => IO.eprintln (toString e)
    | none => pure ()
    for line in transcript.out do IO.println line
    for line in transcript.err do IO.eprintln line
    pure (if transcript.succeeded then 0 else 1)

end GiftExchange

def main : IO UInt32 := GiftExchange.runDemo
