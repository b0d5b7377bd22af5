import ChatFlow.Command.Show
import ChatFlow.Service.Line
import ChatFlow.Store.Document
import Std.Time.Zoned

/-!
# The program

The program reads the files of the data directory, runs the command that its arguments name, and
writes back what was changed. While requests are taken, each is a line of standard input, and its
response is a line of standard output. What is done outwardly and what is noted in the journal goes to
standard error.
-/

open ChatFlow

namespace ChatFlow.Main

/-- The string of a text; surrogates are left out. -/
def stringOf (t : Text) : String := String.ofList (t.filterMap CodePoint.toChar?)

/-- The directory of the files. -/
def directory : IO String := return (← IO.getEnv "WORKFLOW_DATA_DIR").getD "data"

/-- The text of a variable of the environment. -/
def setting (name other : String) : IO Text :=
  return .ofString ((← IO.getEnv name).getD other)

/-- The place of a file of the data directory. -/
def place (name : String) : IO String := return (← directory) ++ "/" ++ name

/-- The name of the file of workflows. -/
def workflowFile : String := "workflows.json"

/-- The name of the file of tasks. -/
def taskFile : String := "scheduled_tasks.json"

/-- The name of the file of the store. -/
def storeFile : String := "workflow_data.json"

/-- Reads a file of the data directory. -/
def readFile (name : String) : IO File := do
  try return File.absent.put (some (Text.ofString (← IO.FS.readFile (← place name))))
  catch _ => return .absent

/-- Writes a file of the data directory, if it was changed. -/
def writeFile (name : String) (before after : File) : IO Unit := do
  if before ≠ after then
    match after.content with
    | some t => IO.FS.writeFile (← place name) (stringOf t)
    | none => pure ()

/-- The local time. -/
def clock : IO Moment := do
  let now ← Std.Time.PlainDateTime.now
  return ⟨now.toWallTime.toNanoseconds.toInt / 1000⟩

/-- The seconds since 1970. -/
def seconds : IO Double := do
  let now ← Std.Time.Timestamp.now
  return .ofRatio (now.toNanosecondsSinceUnixEpoch.toInt / 1000) 1000000

/-- Random faces. -/
def rollDice : IO Dice := do
  return .ofNumbers (← (List.range 256).mapM fun _ => IO.rand 0 999)

/-- The service on the files of the data directory. -/
def setUp : IO Service := do
  IO.FS.createDirAll (← directory)
  let store := Store.ofFile (← readFile storeFile)
  let world : World :=
    { clock := ← clock, dice := ← rollDice, store := store, web := [], chat := [], returns := []
      effects := [], journal := [] }
  let s := Service.start (← readFile workflowFile) (← readFile taskFile) (← seconds) world
  let address ← setting "ONEBOT_API_URL" (stringOf Service.defaultAddress)
  let token ← setting "ONEBOT_ACCESS_TOKEN" ""
  return { s with
    connector := .of address token
    enabled := Service.isOn (← setting "WORKFLOW_ENABLED" "true")
    master := (← setting "MASTER_PASSWORD" "").trim }

/-- Tells what was done outwardly and noted, and forgets it. -/
def tell (s : Service) : IO Service := do
  for e in s.world.effects do IO.eprintln (stringOf (Json.text .wire e.toValue))
  for l in s.world.journal do IO.eprintln (stringOf (Json.text .wire (.object l.fields)))
  return { s with world := { s.world with effects := [], journal := [] } }

/-- Writes back what a change of the service changed. -/
def writeBack (before after : Service) : IO Unit := do
  writeFile workflowFile before.catalog.file after.catalog.file
  writeFile taskFile before.scheduler.file after.scheduler.file
  if before.world.store ≠ after.world.store then
    IO.FS.writeFile (← place storeFile) (stringOf (Json.text .file after.world.store.toValue))

/-- The service at the present time. -/
def atPresent (s : Service) : IO Service := do
  return { s with seconds := ← seconds, world := { s.world with clock := ← clock, dice := ← rollDice } }

/-- Takes requests, a line each, until there is none left. -/
partial def takeRequests (s : Service) : IO Unit := do
  let line ← (← IO.getStdin).getLine
  if !line.isEmpty then
    match Request.ofLine? (Text.ofString line) with
    | none => takeRequests s
    | some request =>
      let s ← atPresent s
      let (response, after) := s.answer request
      IO.println (stringOf response.line)
      writeBack s after
      takeRequests (← tell after)

/-- Shows what a command line prints. -/
def display (s : Service) (o : Command.Outcome) : IO UInt32 := do
  if o.usage then for t in Command.usage do IO.println (stringOf t)
  for p in o.printed do
    for t in p.lines do IO.println (stringOf t)
    if let .serving _ _ := p then
      let (_, after) := s.tick
      writeBack s after
      takeRequests (← tell after)
  return (o.exit.getD 0).toNat.toUInt32

end ChatFlow.Main

/-- Runs the command that the arguments name. -/
def main (arguments : List String) : IO UInt32 := do
  let before ← ChatFlow.Main.setUp
  match Command.runArguments before (arguments.map Text.ofString) with
  | (.ok outcome, after) =>
    ChatFlow.Main.writeBack before after
    ChatFlow.Main.display (← ChatFlow.Main.tell after) outcome
  | (.error fault, after) =>
    let _ ← ChatFlow.Main.tell after
    IO.eprintln (ChatFlow.Main.stringOf fault.message)
    return 1
