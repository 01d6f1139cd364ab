import Flowchart.Text.Search

/-!
# Files

Folders and text files as a program sees them: a path is walked from the root or from the folder it
works in, a file is read and written whole, and what cannot be done fails with a fault. Writing makes
the folders on its way first, and these stay even if it fails then. What is written is what is read
next.
-/

namespace Flowchart

/-- Why a file cannot be read or written. -/
inductive Files.Fault where
  /-- There is nothing at the path. -/
  | missing
  /-- There is a file already where a folder was to be made. -/
  | occupied
  /-- The path leads through a file. -/
  | notFolder
  /-- There is a folder where a file was expected. -/
  | isFolder
  /-- A name has more bytes than a name may have. -/
  | tooLong
  /-- The file holds no text. -/
  | notText
  /-- Something else. -/
  | other (reason : String)
deriving DecidableEq, Inhabited

/-- The wording of a fault. -/
def Files.Fault.message : Files.Fault → String
  | missing => "No such file or directory (os error 2)"
  | occupied => "File exists (os error 17)"
  | notFolder => "Not a directory (os error 20)"
  | isFolder => "Is a directory (os error 21)"
  | tooLong => "File name too long (os error 36)"
  | notText => "stream did not contain valid UTF-8"
  | other reason => reason

/-- What is at a place. -/
inductive Files.Content where
  /-- A folder. -/
  | folder
  /-- A file with its text. -/
  | file (text : String)
deriving DecidableEq, Inhabited

/-- A place: the names of the folders that lead to it from the root, and its own name. -/
abbrev Files.Place := List String

/-- Folders and files. -/
structure Files where
  /-- The folder in which relative paths begin. -/
  home : Files.Place := []
  /-- What is at each place; the first entry for a place counts. -/
  entries : List (Files.Place × Files.Content) := []
deriving DecidableEq, Inhabited

namespace Files

/-- What is at a place. The root is a folder. -/
def at? (fs : Files) (place : Place) : Option Content :=
  if place = [] then some .folder else fs.entries.lookup place

/-- Puts something at a place. -/
def set (fs : Files) (place : Place) (content : Content) : Files :=
  { fs with entries := (place, content) :: fs.entries }

/-- The place reached from a folder by one piece of a path. -/
def step (place : Place) (piece : String) : Place :=
  if piece = "" ∨ piece = "." then place
  else if piece = ".." then place.dropLast
  else place ++ [piece]

/-- The name has more than 255 bytes. -/
def isLong (name : String) : Bool :=
  255 < name.utf8ByteSize

/-- The pieces of a path between its slashes. -/
def piecesOf (path : String) : List String :=
  (Text.pieces ['/'] path.toList).map String.ofList

/-- Where a path begins. -/
def origin (fs : Files) (path : String) : Place :=
  if Text.starts ['/'] path.toList then [] else fs.home

/-- The place that pieces of a path lead to; whatever they lead through has to be a folder. -/
def walk (fs : Files) (place : Place) : List String → Except Fault Place
  | [] => .ok place
  | piece :: pieces =>
    match fs.at? place with
    | none => .error .missing
    | some (.file _) => .error .notFolder
    | some .folder => if isLong piece then .error .tooLong else fs.walk (step place piece) pieces

/-- The text of the file at a path. -/
def read (fs : Files) (path : String) : Except Fault String :=
  if path = "" then .error .missing
  else
    match fs.walk (fs.origin path) (piecesOf path) with
    | .error fault => .error fault
    | .ok place =>
      match fs.at? place with
      | none => .error .missing
      | some .folder => .error .isFolder
      | some (.file text) => .ok text

/-! ## Writing -/

/-- Makes the folders on the way that are not there. Behind a folder that has been `made`, a file is
in the way of a folder; before that, the path leads through it. -/
def makeFolders (fs : Files) (made : Bool) (place : Place) :
    List String → Except Fault Unit × Files
  | [] => (.ok (), fs)
  | piece :: pieces =>
    let next := step place piece
    if isLong piece then (.error .tooLong, fs)
    else
      match fs.at? next with
      | none => (fs.set next .folder).makeFolders true next pieces
      | some .folder => fs.makeFolders made next pieces
      | some (.file _) => (.error (if made || pieces.isEmpty then .occupied else .notFolder), fs)

/-- The pieces of a path that name something. -/
def namesOf (path : String) : List String :=
  (piecesOf path).filter fun piece => piece ≠ "" ∧ piece ≠ "."

/-- Makes the folders that a path leads through. -/
def makeWay (fs : Files) (path : String) : Except Fault Unit × Files :=
  fs.makeFolders false (fs.origin path) (namesOf path).dropLast

/-- The place of a file that a path leads to, in a folder that is there. A path that ends with a slash
or with dots leads to a folder. -/
def target (fs : Files) (path : String) : Except Fault Place :=
  let names := (piecesOf path).filter (· ≠ "")
  match names.getLast? with
  | none => .error (if path = "" then .missing else .isFolder)
  | some name =>
    match fs.walk (fs.origin path) names.dropLast with
    | .error fault => .error fault
    | .ok place =>
      match fs.at? place with
      | none => .error .missing
      | some (.file _) => .error .notFolder
      | some .folder =>
        if name = "." ∨ name = ".." ∨ (piecesOf path).getLast? = some "" then .error .isFolder
        else if isLong name then .error .tooLong
        else if fs.at? (place ++ [name]) = some .folder then .error .isFolder
        else .ok (place ++ [name])

/-- Puts a text at a path, in a folder that is there. -/
def put (fs : Files) (path text : String) : Except Fault Unit × Files :=
  match fs.target path with
  | .error fault => (.error fault, fs)
  | .ok place => (.ok (), fs.set place (.file text))

/-- Writes a text to a path and makes the folders on the way. -/
def write (fs : Files) (path text : String) : Except Fault Unit × Files :=
  match fs.makeWay path with
  | (.ok (), fs) => fs.put path text
  | failed => failed

/-- A working folder with these files in it. -/
def ofTexts (home : String) (texts : List (String × String)) : Files :=
  texts.foldl (fun fs t => (fs.write t.1 t.2).2)
    { home := [home], entries := [([home], .folder)] }

/-! ## Small laws -/

@[simp] theorem at?_set_self {fs : Files} {place : Place} {content : Content} (h : place ≠ []) :
    (fs.set place content).at? place = some content := by
  simp [at?, set, h]

theorem at?_set_of_ne {fs : Files} {p q : Place} {content : Content} (h : q ≠ p) :
    (fs.set p content).at? q = fs.at? q := by
  unfold at? set
  split
  · rfl
  · simp [List.lookup_cons, beq_eq_false_iff_ne.2 h]

@[simp] theorem set_home {fs : Files} {place : Place} {content : Content} :
    (fs.set place content).home = fs.home := rfl

end Files

end Flowchart
