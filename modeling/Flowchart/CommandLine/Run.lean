import Flowchart.CommandLine.Opening

/-!
# Whole runs

A run from its arguments to its last line, with the files it leaves behind. Answers come from the
options first and from the lines of the input then. When none is left and one is needed, the session
is saved, so that a later run can go on with it.
-/

namespace Flowchart

namespace CommandLine

/-- What a run leaves behind. -/
structure Report where
  /-- How the run ends: zero is success. -/
  exit : Nat
  /-- What was printed. -/
  lines : List Line
  /-- The files. -/
  files : Files
  /-- The engine at the end. -/
  engine : Engine

/-- The report with lines before its own. -/
def Report.after (r : Report) (lines : List Line) : Report :=
  { r with lines := lines ++ r.lines }

/-- An answer and the present in which it comes. -/
structure Answer where
  /-- What is answered. -/
  text : String
  /-- When. -/
  clock : Clock
deriving Inhabited

/-- How a run ends by itself. -/
def exitOf (success : Bool) : Nat :=
  if success then 0 else 1

/-- The end of a conversation when no answer is left. -/
def Conversation.leave (c : Conversation) (engine : Engine) (target : Option String)
    (files : Files) : Report :=
  match c.toSave engine target with
  | .error r => { exit := 1, lines := [.refusal r], files, engine }
  | .ok none => { exit := 0, lines := [.awaiting], files, engine }
  | .ok (some (path, text)) =>
    match files.write path text with
    | (.ok (), files) => { exit := 0, lines := [.awaiting], files, engine }
    | (.error fault, files) =>
      { exit := 1, lines := [.refusal (.unsaved path fault)], files, engine }

/-- All turns from a first one on: answers are used up in order, and those that are not needed are
not looked at. -/
def Turn.complete (t : Turn) (target : Option String) (files : Files) : List Answer → Report
  | [] =>
    match t.standing with
    | .ended success => { exit := exitOf success, lines := t.lines, files, engine := t.engine }
    | .waits c => (c.leave t.engine target files).after t.lines
  | a :: answers =>
    match t.standing with
    | .ended success => { exit := exitOf success, lines := t.lines, files, engine := t.engine }
    | .waits c =>
      ((c.reply t.engine a.text a.clock).complete target files answers).after t.lines

/-- A line without the carriage return at its end. -/
def dropReturn (line : List Char) : List Char :=
  if line.getLast? = some '\r' then line.dropLast else line

/-- The lines of an input. The last one may lack its line feed, and then keeps a carriage return. -/
def inputLines (text : String) : List String :=
  let pieces := Text.pieces ['\n'] text.toList
  let last := (pieces.getLast?.getD [])
  (pieces.dropLast.map dropReturn ++ if last.isEmpty then [] else [last]).map String.ofList

/-- What a run finds around it. -/
structure World where
  /-- The files. -/
  files : Files
  /-- Looks up a variable of the environment. -/
  lookup : String → Option String := fun _ => none
  /-- The input. -/
  input : String := ""
  /-- Where new identifiers come from. -/
  ids : IdSource
  /-- The outside that steps send requests to. -/
  network : Web.Network := {}
  /-- The present of each turn. -/
  clock : Nat → Clock

/-- The answers of a run. -/
def World.answers (w : World) (o : Options) : List Answer :=
  (o.inputs ++ inputLines w.input).mapIdx fun i text => { text, clock := w.clock (i + 1) }

/-- The surroundings in which a run opens. -/
def World.surroundings (w : World) : Surroundings where
  read := w.files.read
  lookup := w.lookup
  ids := w.ids
  network := w.network

/-- A run without a conversation. -/
def World.answer (w : World) (exit : Nat) (lines : List Line) : Report :=
  { exit, lines, files := w.files, engine := { ids := w.ids } }

/-- Runs a command line. -/
def run (arguments : List String) (w : World) : Report :=
  match Invocation.ofArguments arguments with
  | .error misuse => w.answer 2 [.refusal (.misuse misuse)]
  | .ok .help => w.answer 0 (usage.map Line.help)
  | .ok (.run o path) =>
    (opening o path w.surroundings (w.clock 0)).complete o.sessionFile w.files (w.answers o)

end CommandLine

end Flowchart
