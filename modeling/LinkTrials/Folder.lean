import LinkTrials.SystemFault

/-!
Files in a folder, and the faults that reading and writing them may meet.

A path is followed name by name from the folder: every name but the last has to be that of a folder.
Nothing is known of what lies outside but that folders lead out of it.
-/
namespace LinkTrials

/-- Why a file is not read or written. -/
inductive FileFault where
  | missing
  | device
  | denied
  /-- A name on the way is that of a file. -/
  | notFolder
  | isFolder
  | nameTooLong
  /-- There is a zero byte in the path. -/
  | zeroInPath
  /-- The content is no text. -/
  | notText
  /-- Another fault, in the words of the system. -/
  | other (message : String)
deriving DecidableEq, Repr

def FileFault.message : FileFault → String
  | .missing => SystemFault.message 2
  | .device => SystemFault.message 5
  | .denied => SystemFault.message 13
  | .notFolder => SystemFault.message 20
  | .isFolder => SystemFault.message 21
  | .nameTooLong => SystemFault.message 36
  | .zeroInPath => "file name contained an unexpected NUL byte"
  | .notText => "stream did not contain valid UTF-8"
  | .other message => message

/-- What a name stands for. -/
inductive Node where
  | file (content : ByteArray)
  | folder
  /-- Something that cannot be read. -/
  | barred (fault : FileFault)

def Node.same : Node → Node → Bool
  | .file a, .file b => a.data == b.data
  | .folder, .folder => true
  | .barred a, .barred b => a == b
  | _, _ => false

/-- What stands at the end of a path. -/
inductive Path.Ending where
  | name
  /-- Slashes behind a name. -/
  | slash
  /-- A name that stays where it is. -/
  | here
deriving DecidableEq, Repr

/-- A path as it is followed. -/
structure Path where
  /-- The names on the way. A path from the root of all folders begins with the name `/`. -/
  names : List String
  ending : Path.Ending
deriving DecidableEq, Repr

namespace Path

/-- A name that stays where it is. -/
def isIdle (name : String) : Bool := name.isEmpty || name == "."

def root : String := "/"

def parent : String := ".."

def nameLimit : Nat := 255

def limit : Nat := 4095

/-- The names between slashes; `name` is what is read of the first, backwards. -/
def split : List Char → List Char → List String
  | name, [] => [String.ofList name.reverse]
  | name, c :: rest =>
    if c = '/' then String.ofList name.reverse :: split [] rest else split (c :: name) rest

/-- The ending of a path of which the given parts, from the back on, stand between slashes. -/
def endingOf : List String → Ending
  | [] => .slash
  | last :: before =>
    if last.isEmpty then
      match endingOf before with
      | .name => .slash
      | ending => ending
    else if last = "." then .here
    else .name

/-- The path that a text spells. -/
def ofText (s : String) : Except FileFault Path :=
  if s.toList.contains '\x00' then .error .zeroInPath
  else if s.isEmpty then .error .missing
  else if limit < s.utf8ByteSize then .error .nameTooLong
  else
    let parts := split [] s.toList
    let names := parts.filter fun name => !isIdle name
    .ok
      { names := if s.toList.head? = some '/' then root :: names else names
        ending := endingOf parts.reverse }

/-- The names of the place that a name leads to from another place. Outside of everything known
the way out is a name like any other. -/
def step (here : List String) (name : String) : List String :=
  if name = parent then
    match here.getLast? with
    | none => [parent]
    | some last =>
      if last = parent then here ++ [parent]
      else if here = [root] then here
      else here.dropLast
  else here ++ [name]

end Path

/-- What a folder holds, each thing by the names on the way to it. What lies outside of the folder
has names that begin with `..` or `/`. -/
structure Folder where
  entries : List (List String × Node) := []

namespace Folder

/-- The entries with one replaced or added. -/
def put (names : List String) (node : Node) :
    List (List String × Node) → List (List String × Node)
  | [] => [(names, node)]
  | e :: rest => if e.1 = names then (names, node) :: rest else e :: put names node rest

def find? (f : Folder) (names : List String) : Option Node :=
  -- The folder itself and the folders around it are there.
  if names.all (· == Path.parent) then some .folder
  else (f.entries.find? fun e => e.1 == names).map (·.2)

/-- Where a name leads to from a folder, and what is there. -/
def enter (f : Folder) (here : List String) (name : String) :
    Except FileFault (List String × Option Node) :=
  let next := Path.step here name
  if Path.nameLimit < name.utf8ByteSize then .error .nameTooLong else .ok (next, f.find? next)

/-- The way from `here` on along some names, and what is at its end. -/
def follow (f : Folder) : List String → List String → Except FileFault (List String × Node)
  | here, [] => .ok (here, .folder)
  | here, name :: rest =>
    match f.enter here name with
    | .error fault => .error fault
    | .ok (_, none) => .error .missing
    | .ok (next, some .folder) => f.follow next rest
    | .ok (next, some node) => if rest = [] then .ok (next, node) else .error .notFolder

/-- The way along some names to a folder. -/
def followFolder (f : Folder) (names : List String) : Except FileFault (List String) :=
  match f.follow [] names with
  | .error fault => .error fault
  | .ok (here, .folder) => .ok here
  | .ok (_, .file _) => .error .notFolder
  | .ok (_, .barred fault) => .error fault

/-- What a path leads to. -/
def locate (f : Folder) (path : String) : Except FileFault Node := do
  let p ← Path.ofText path
  match ← f.follow [] p.names with
  -- Behind the name of a file there is neither a slash nor a dot.
  | (_, .file content) => if p.ending = .name then .ok (.file content) else .error .notFolder
  | (_, node) => .ok node

def contains (f : Folder) (path : String) : Bool := (f.locate path).isOk

/-- The folder with something put to a place, and folders on the way to it. -/
def place (f : Folder) (path : String) (node : Node) : Folder :=
  match Path.ofText path with
  | .error _ => f
  | .ok p =>
    let (names, entries) := p.names.dropLast.foldl
      (fun (here, entries) name =>
        let next := Path.step here name
        (next, put next .folder entries))
      ([], f.entries)
    match p.names.getLast? with
    | none => f
    | some name => ⟨put (Path.step names name) node entries⟩

/-- A folder of which only the surroundings are known. -/
def empty : Folder := ⟨[([Path.root], .folder)]⟩

def read (f : Folder) (path : String) : Except FileFault ByteArray :=
  match f.locate path with
  | .ok (.file content) => .ok content
  | .ok .folder => .error .isFolder
  | .ok (.barred fault) => .error fault
  | .error fault => .error fault

def readText (f : Folder) (path : String) : Except FileFault String :=
  match f.read path with
  | .ok content =>
    match String.fromUTF8? content with
    | some s => .ok s
    | none => .error .notText
  | .error fault => .error fault

/-- The folder with a file written, which may have been there before. A path that ends in a slash
names a folder, be it there or not, as soon as its other names lead to one. -/
def write (f : Folder) (path : String) (content : ByteArray) : Except FileFault Folder := do
  let p ← Path.ofText path
  match p.ending, p.names.getLast? with
  | .here, _ =>
    let _ ← f.followFolder p.names
    .error .isFolder
  | .slash, _ =>
    let _ ← f.followFolder p.names.dropLast
    .error .isFolder
  | .name, none => .error .isFolder
  | .name, some name =>
    let here ← f.followFolder p.names.dropLast
    match ← f.enter here name with
    | (_, some .folder) => .error .isFolder
    | (_, some (.barred fault)) => .error fault
    | (place, _) => .ok ⟨put place (.file content) f.entries⟩

/-- The entries of this folder that are not in an earlier one, by their paths. -/
def changes (f earlier : Folder) : List (String × Node) :=
  let kept (e : List String × Node) : Bool :=
    earlier.entries.any fun old => old.1 == e.1 && old.2.same e.2
  (f.entries.filter fun e => !kept e).map fun e => ("/".intercalate e.1, e.2)

end Folder

end LinkTrials
