import Flowchart.CommandLine.Run
import Std.Time.DateTime.Timestamp

/-!
# The program

Runs a command line on real files, streams and clocks, turn by turn. Requests of steps find no
answer here, as they do without a network.
-/

namespace Flowchart

namespace CommandLine

/-- The fault that a failed operation on files comes to. Its number may come with either sign. -/
def faultOf : IO.Error → Files.Fault
  | .noFileOrDirectory .. => .missing
  | .alreadyExists .. => .occupied
  | .inappropriateType _ code _ => if code = 21 ∨ code + 21 = 0 then .isFolder else .notFolder
  | e => .other (toString e)

/-- Reads a file of text. -/
def readText (path : String) : IO (Except Files.Fault String) := do
  try
    match String.fromUTF8? (← IO.FS.readBinFile path) with
    | some text => return .ok text
    | none => return .error .notText
  catch e => return .error (faultOf e)

/-- The path of the folder that a path lies in, if it names one. -/
def folderOf? (path : String) : Option String :=
  match (Files.namesOf path).dropLast with
  | [] => none
  | names => some ((if path.startsWith "/" then "/" else "") ++ "/".intercalate names)

/-- Writes a file of text and makes the folders on the way. -/
def writeText (path text : String) : IO (Except Files.Fault Unit) := do
  try
    if let some folder := folderOf? path then IO.FS.createDirAll folder
    IO.FS.writeFile path text
    return .ok ()
  catch e => return .error (faultOf e)

/-- The present. -/
def present : IO Clock := do
  let t ← Std.Time.Timestamp.now
  return { now := { seconds := t.val.second.val, nanos := t.val.nano.val.toNat } }

/-- A source of random identifiers. -/
def freshIds : IO IdSource := do
  let bytes ← IO.getRandomBytes 16
  return .random (bytes.toList.foldl (fun n b => n * 256 + b.toNat) 0)

/-- What a run finds around it: the files that its options name and the variables of settings. -/
def look (o : Options) (graph : String) : IO Surroundings := do
  let paths := graph :: ([o.config, o.resume].filterMap id)
  let texts ← paths.mapM fun path => do return (path, ← readText path)
  let names := [Settings.stepsVariable, Settings.timeoutVariable, Settings.userVariable]
  let values ← names.mapM fun name => do return (name, ← IO.getEnv name)
  return {
    read := fun path => (texts.lookup path).getD (.error .missing)
    lookup := fun name => (values.lookup name).bind id
    ids := ← freshIds }

/-- Prints lines, each to its stream. -/
def print (lines : List Line) : IO Unit := do
  let output ← IO.getStdout
  let errors ← IO.getStderr
  for line in lines do
    (if line.isError then errors else output).putStrLn line.text
  output.flush

/-- The next answer of the input, if there is one. -/
def nextAnswer? : IO (Option String) := do
  try
    let line ← (← IO.getStdin).getLine
    return (inputLines line).head?
  catch _ => return none

/-- The end of a conversation when no answer is left. -/
def leave (c : Conversation) (engine : Engine) (target : Option String) : IO UInt32 := do
  match c.toSave engine target with
  | .error r => print [.refusal r]; return 1
  | .ok none => print [.awaiting]; return 0
  | .ok (some (path, text)) =>
    match ← writeText path text with
    | .ok () => print [.awaiting]; return 0
    | .error fault => print [.refusal (.unsaved path fault)]; return 1

/-- Shows a turn and goes on with the next answer, first of the given ones and then of the input. -/
partial def converse (target : Option String) (given : List String) (t : Turn) : IO UInt32 := do
  print t.lines
  match t.standing, given with
  | .ended success, _ => return (exitOf success).toUInt32
  | .waits c, text :: given => converse target given (c.reply t.engine text (← present))
  | .waits c, [] =>
    match ← nextAnswer? with
    | some text => converse target [] (c.reply t.engine text (← present))
    | none => leave c t.engine target

end CommandLine

end Flowchart

open Flowchart CommandLine in
/-- Runs the command line of the program. -/
def main (arguments : List String) : IO UInt32 := do
  match Invocation.ofArguments arguments with
  | .error misuse => print [.refusal (.misuse misuse)]; return 2
  | .ok .help => print (usage.map Line.help); return 0
  | .ok (.run o graph) =>
    converse o.sessionFile o.inputs (opening o graph (← look o graph) (← present))
