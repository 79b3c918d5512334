import SuiteScribe.Text.Basic

namespace SuiteScribe

/-! What can go wrong with a file or a stream. -/

inductive Fault
  | noSuchFile
  | fileExists
  | notADirectory
  | isADirectory
  | nameTooLong
  | nulInName
  | invalidText
  | outputFull
  | other (text : String)
  deriving DecidableEq, Repr

def Fault.message : Fault → String
  | noSuchFile => "No such file or directory (os error 2)"
  | fileExists => "File exists (os error 17)"
  | notADirectory => "Not a directory (os error 20)"
  | isADirectory => "Is a directory (os error 21)"
  | nameTooLong => "File name too long (os error 36)"
  | nulInName => "file name contained an unexpected NUL byte"
  | invalidText => "stream did not contain valid UTF-8"
  | outputFull => "failed to write whole buffer"
  | other text => text

end SuiteScribe

namespace SuiteScribe.Files

/-! Paths as text. A path is a sequence of parts between slashes; empty parts and single dots in
the middle of it name nothing of their own. -/

inductive Part
  | here
  | up
  | name (text : List Char)
  deriving DecidableEq, Repr

def splitSlashes : List Char → List (List Char)
  | [] => [[]]
  | c :: rest =>
      if c == '/' then [] :: splitSlashes rest
      else
        match splitSlashes rest with
        | [] => [[c]]
        | part :: parts => (c :: part) :: parts

def joinSlashes (parts : List (List Char)) : List Char :=
  ['/'].intercalate parts

def isAbsolute (path : String) : Bool :=
  path.toList.head? == some '/'

def endsInSlash (path : String) : Bool :=
  path.toList.getLast? == some '/'

def Part.ofText? (text : List Char) : Option Part :=
  if text.isEmpty || text == ['.'] then none
  else if text == ['.', '.'] then some .up
  else some (.name text)

def Part.text : Part → List Char
  | here => ['.']
  | up => ['.', '.']
  | name text => text

/-- The parts of a path; a single dot counts only at its start. -/
def parts (path : String) : List Part :=
  let pieces := splitSlashes path.toList
  let leading := if pieces.head? == some ['.'] then [Part.here] else []
  leading ++ pieces.filterMap Part.ofText?

def render (absolute : Bool) (parts : List Part) : String :=
  String.ofList ((if absolute then ['/'] else []) ++ joinSlashes (parts.map Part.text))

/-- The path without its last part; none for a path without parts. -/
def parent? (path : String) : Option String :=
  match (parts path).reverse with
  | [] => none
  | _ :: before => some (render (isAbsolute path) before.reverse)

/-- A directory and a file name as one path. No slash is added after a slash or to nothing. -/
def join (directory name : String) : String :=
  if isAbsolute name then name
  else if directory.isEmpty || endsInSlash directory then directory ++ name
  else directory ++ "/" ++ name

open Text

/-! A tree of files and directories, without links and without permissions. A place in it is the
list of names on the way there from the root. -/

abbrev Place := List String

inductive Entry
  | directory
  | file (content : Bytes)
  deriving DecidableEq

/-- Paths that do not start at the root start at the working directory. -/
structure Tree where
  entries : List (Place × Entry) := []
  workingDirectory : Place := []

namespace Tree

/-- The working directory and those on the way to it, the root with them, are always there. -/
def find? (tree : Tree) (place : Place) : Option Entry :=
  if place.isPrefixOf tree.workingDirectory then some .directory
  else (tree.entries.find? (·.1 == place)).map (·.2)

def put (tree : Tree) (place : Place) (entry : Entry) : Tree :=
  { tree with
    entries :=
      if tree.entries.any (·.1 == place) then
        tree.entries.map fun item => if item.1 == place then (place, entry) else item
      else tree.entries ++ [(place, entry)] }

def start (tree : Tree) (path : String) : Place :=
  if isAbsolute path then [] else tree.workingDirectory

/-! Where a path leads. Every part but the last has to be a directory. -/

def nameLimit : Nat := 255

def pathLimit : Nat := 4096

def enter (tree : Tree) (place : Place) : Part → Except Fault Place
  | .here => .ok place
  | .up => .ok place.dropLast
  | .name text =>
      let next := place ++ [String.ofList text]
      if nameLimit < (String.ofList text).utf8ByteSize then .error .nameTooLong
      else
        match tree.find? next with
        | some .directory => .ok next
        | some (.file _) => .error .notADirectory
        | none => .error .noSuchFile

def walk (tree : Tree) (place : Place) : List Part → Except Fault Place
  | [] => .ok place
  | part :: rest =>
      match tree.enter place part with
      | .ok next => tree.walk next rest
      | .error fault => .error fault

/-- The parts of a path as they are walked: single dots stay, since what stands before them has to
be a directory. -/
def walkedParts (path : String) : List Part :=
  (splitSlashes path.toList).filterMap fun piece =>
    if piece == ['.'] then some .here else Part.ofText? piece

/-- A path leads to a directory by its form alone, or to a name in a directory. -/
inductive Destination
  | ofDirectory (place : Place)
  | named (directory : Place) (name : String)

def Destination.place : Destination → Place
  | ofDirectory place => place
  | named directory name => directory ++ [name]

def locate (tree : Tree) (path : String) : Except Fault Destination :=
  if path.contains '\x00' then .error .nulInName
  else if path.isEmpty then .error .noSuchFile
  else if pathLimit ≤ path.utf8ByteSize then .error .nameTooLong
  else
    let parts := walkedParts path
    match tree.walk (tree.start path) parts.dropLast with
    | .error fault => .error fault
    | .ok directory =>
        match parts.getLast? with
        | none => .ok (.ofDirectory directory)
        | some .here => .ok (.ofDirectory directory)
        | some .up => .ok (.ofDirectory directory.dropLast)
        | some (.name text) => .ok (.named directory (String.ofList text))

def tooLong (name : String) : Bool :=
  nameLimit < name.utf8ByteSize

/-! Reading and writing whole files. A slash at the end of a path asks for a directory. -/

def read (tree : Tree) (path : String) : Except Fault Bytes :=
  match tree.locate path with
  | .error fault => .error fault
  | .ok (.ofDirectory _) => .error .isADirectory
  | .ok (.named directory name) =>
      if tooLong name then .error .nameTooLong
      else
        match tree.find? (directory ++ [name]) with
        | none => .error .noSuchFile
        | some .directory => .error .isADirectory
        | some (.file content) =>
            if endsInSlash path then .error .notADirectory else .ok content

def writable (tree : Tree) (path : String) : Except Fault Place :=
  match tree.locate path with
  | .error fault => .error fault
  | .ok (.ofDirectory _) => .error .isADirectory
  | .ok (.named directory name) =>
      if endsInSlash path then .error .isADirectory
      else if tooLong name then .error .nameTooLong
      else
        match tree.find? (directory ++ [name]) with
        | some .directory => .error .isADirectory
        | _ => .ok (directory ++ [name])

def write (tree : Tree) (path : String) (content : Bytes) : Except Fault Unit × Tree :=
  match tree.writable path with
  | .error fault => (.error fault, tree)
  | .ok place => (.ok (), tree.put place (.file content))

/-! Making directories. -/

def isDirectory (tree : Tree) (path : String) : Bool :=
  match tree.locate path with
  | .error _ => false
  | .ok destination => tree.find? destination.place == some .directory

def makeDirectory (tree : Tree) (path : String) : Except Fault Unit × Tree :=
  match tree.locate path with
  | .error fault => (.error fault, tree)
  | .ok (.ofDirectory _) => (.error .fileExists, tree)
  | .ok (.named directory name) =>
      if tooLong name then (.error .nameTooLong, tree)
      else if (tree.find? (directory ++ [name])).isSome then (.error .fileExists, tree)
      else (.ok (), tree.put (directory ++ [name]) .directory)

/-- Directories that are there already count as made. -/
def ensureDirectory (tree : Tree) (path : String) : Except Fault Unit × Tree :=
  match tree.makeDirectory path with
  | (.ok (), next) => (.ok (), next)
  | (.error fault, _) =>
      if tree.isDirectory path then (.ok (), tree) else (.error fault, tree)

/-- Makes the first path of the list; where it has no parent, that of the rest first. -/
def makeChain (tree : Tree) : List String → Except Fault Unit × Tree
  | [] => (.ok (), tree)
  | path :: rest =>
      match tree.ensureDirectory path with
      | (.error .noSuchFile, _) =>
          match tree.makeChain rest with
          | (.ok (), next) => next.ensureDirectory path
          | failed => failed
      | finished => finished

/-- The path of each leading part of a path, the whole path first. -/
def ancestors (absolute : Bool) : List Part → List String
  | [] => []
  | last :: before => render absolute (last :: before).reverse :: ancestors absolute before

def makeDirectories (tree : Tree) (path : String) : Except Fault Unit × Tree :=
  tree.makeChain (ancestors (isAbsolute path) (parts path).reverse)

/-- Makes the directories that lead to a file. -/
def makeParent (tree : Tree) (path : String) : Except Fault Unit × Tree :=
  match parent? path with
  | none => (.ok (), tree)
  | some directory => tree.makeDirectories directory

end Tree

end SuiteScribe.Files
