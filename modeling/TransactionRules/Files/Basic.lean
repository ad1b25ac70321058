import TransactionRules.Files.Path
import TransactionRules.Text.Quoted

/-!
# Files

The part of a file system that the library looks at: files with their texts, and folders. A place is
a list of names, from the working folder on, or from the root if the first name is a slash. What a
text is read as has one kind of line end.
-/

namespace TransactionRules

structure Files where
  files : List (List String × String) := []
  folders : List (List String) := []
deriving Inhabited, Repr

/-- What stands at a path. -/
inductive FileEntry where
  | absent
  | folder
  | file (text : String)
deriving DecidableEq, Repr

inductive FileError where
  | exists (path : Path)
  | notFolder (path : Path)
  | isFolder (path : Path)
  | missing (path : Path)
deriving DecidableEq, Repr

def FileError.message : FileError → String
  | .exists path => s!"[Errno 17] File exists: {quoted path.text}"
  | .notFolder path => s!"[Errno 20] Not a directory: {quoted path.text}"
  | .isFolder path => s!"[Errno 21] Is a directory: {quoted path.text}"
  | .missing path => s!"[Errno 2] No such file or directory: {quoted path.text}"

/-- A text with each line end as one character. -/
def plainLines : List Char → List Char
  | [] => []
  | '\r' :: '\n' :: rest => '\n' :: plainLines rest
  | '\r' :: rest => '\n' :: plainLines rest
  | c :: rest => c :: plainLines rest

namespace Files

def isFile (fs : Files) (place : List String) : Bool := fs.files.any (·.1 == place)

/-- The folders above the working folder are known by the steps that lead up to them. -/
def isAbove (place : List String) : Bool := place.all (· == "..")

/-- A folder is one that was made, or one that holds something. -/
def isFolder (fs : Files) (place : List String) : Bool :=
  isAbove place || place == ["/"] || fs.folders.any place.isPrefixOf ||
    fs.files.any fun (file, _) => place.isPrefixOf file && file != place

/-- The folder that a place is in; nothing is above the root. -/
def up (place : List String) : List String :=
  if isAbove place then ".." :: place else if place == ["/"] then place else place.dropLast

/-- The place that a path leads to, from the folder `start`, if each step back starts in a folder. -/
def place? (fs : Files) : List String → List String → Option (List String)
  | start, [] => some start
  | start, ".." :: rest => if fs.isFolder start then fs.place? (up start) rest else none
  | start, part :: rest => fs.place? (start ++ [part]) rest

/-- The place that a path leads to. -/
def locate (fs : Files) (p : Path) : Option (List String) :=
  fs.place? (if p.absolute then ["/"] else []) p.parts

def entry (fs : Files) (p : Path) : FileEntry :=
  match fs.locate p with
  | none => .absent
  | some place =>
    match fs.files.lookup place with
    | some text => .file text
    | none => if fs.isFolder place then .folder else .absent

/-- The text of a file. -/
def read (fs : Files) (p : Path) : Except FileError String :=
  match fs.entry p with
  | .file text => .ok (String.ofList (plainLines text.toList))
  | .folder => .error (.isFolder p)
  | .absent => .error (.missing p)

/-- Puts a file in the place of what was there. -/
def write (fs : Files) (place : List String) (text : String) : Files :=
  { fs with files := (place, text) :: fs.files.filter (·.1 != place) }

def append (fs : Files) (place : List String) (text : String) : Files :=
  fs.write place ((fs.files.lookup place).getD "" ++ text)

/-- Makes a folder and those that it stands in, unless they are there. -/
def makeFolder (fs : Files) (p : Path) : Except FileError Files :=
  match fs.locate p with
  | none => .ok fs
  | some place =>
    if fs.files.any fun (file, _) => file.isPrefixOf place && file != place then
      .error (.notFolder p)
    else if fs.isFile place then .error (.exists p)
    else .ok { fs with folders := place :: fs.folders }

end Files

end TransactionRules
