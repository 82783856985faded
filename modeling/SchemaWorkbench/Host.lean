import SchemaWorkbench.Dialogue
import SchemaWorkbench.Text.Pieces

/-!
# Hosts

A host is everything that a dialogue can see and change, as a value: a tree of directories with
files and devices, the standard input, what was written to the two outputs, and a service with the
requests it got.

A host also says what goes wrong. It can bar a directory or a file, it can stop while it writes a
file, which then holds a part of what was written, and it decides to which URLs requests are sent.
What it says of these things is not laid down here.

## Main definitions

* `Place`, `Host.walk`: a place in the tree, and where a path leads
* `Device`: the files that hold nothing of their own
* `Access`: what a directory or a file can be barred from
* `Host`, `Host.read`, `Host.write`: a host, and its files
* `Dialogue.run`: the result of a dialogue with a host, and the host after it
-/

namespace SchemaWorkbench

/-- A place in the tree: the names on the way from the root. -/
abbrev Place := List String

/-- A file that holds nothing of its own. -/
inductive Device where
  /-- Is empty, and loses what is written. -/
  | null
  /-- Has no room for anything. -/
  | full
  /-- The standard input. -/
  | input
  /-- The standard output. -/
  | output
  /-- The standard error output. -/
  | errors
  deriving DecidableEq, Repr

/-- The devices at their usual places. -/
def Device.usual : List (Place × Device) :=
  [ (["dev", "null"], null), (["dev", "full"], full), (["dev", "stdin"], input),
    (["dev", "stdout"], output), (["dev", "stderr"], errors) ]

/-- What a place is needed for. -/
inductive Access where
  /-- A directory, to go through it. -/
  | search
  /-- A file, to read it. -/
  | read
  /-- A file, to open it for writing or to make it. -/
  | write
  deriving DecidableEq, Repr

/-- What a dialogue can see and change. -/
structure Host where
  /-- The files with their bytes. -/
  files : List (Place × List UInt8) := []
  /-- Directories that are there even if nothing is in them. -/
  directories : List Place := []
  devices : List (Place × Device) := []
  /-- The directory where paths start that do not start at the root. -/
  workingDirectory : Place := []
  /-- Why a place cannot be used, if it is barred. -/
  barred : Access → Place → Option FileFault := fun _ _ => none
  /-- Where the writing of bytes to a file that is open stops before their end, if it does: after
  how many of them, and why. -/
  stop : Place → List UInt8 → Option (Nat × FileFault) := fun _ _ => none
  /-- What is left of the standard input. -/
  input : List UInt8 := []
  /-- The input is read line by line, so that nothing of it is left for the device. -/
  inputTaken : Bool := false
  output : String := ""
  errors : String := ""
  /-- The requests so far, oldest first. -/
  requests : List Request := []
  /-- What comes back for the newest of the requests so far. -/
  service : List Request → Reply := fun _ => .fault .unreachable
  /-- Why no request is sent to a URL, if none is: it is none that can be asked, or it leads
  nowhere. -/
  obstacle : String → Option RequestFault := fun _ => some .unreachable

/-- The text of bytes in UTF-8. -/
def decodeUtf8 (bytes : List UInt8) : Option String :=
  String.fromUTF8? ⟨bytes.toArray⟩

/-- The bytes of a text in UTF-8. -/
def encodeUtf8 (text : String) : List UInt8 :=
  text.toUTF8.toList

/-- The text of bytes, as the result of reading them. -/
def textOf (bytes : List UInt8) : Except FileFault String :=
  (decodeUtf8 bytes).elim (.error .notText) .ok

namespace Host

/-! ## Paths -/

/-- The greatest size of a name in a directory, in bytes. -/
def nameLimit : Nat := 255

/-- The size from which on a path is too long, in bytes. -/
def pathLimit : Nat := 4096

/-- A place can be used, unless it is barred. -/
def allow (h : Host) (access : Access) (place : Place) : Except FileFault Unit :=
  (h.barred access place).elim (.ok ()) .error

/-- There is a file or a device at a place. -/
def hasFile (h : Host) (place : Place) : Bool :=
  h.files.any (·.1 == place) || h.devices.any (·.1 == place)

/-- There is a directory at a place: one on the way to something, the working directory or one that
is there in any case. -/
def hasDirectory (h : Host) (place : Place) : Bool :=
  (h.workingDirectory :: h.directories).any (place.isPrefixOf ·)
    || (h.files.map (·.1) ++ h.devices.map (·.1)).any fun file =>
      place.isPrefixOf file && place.length < file.length

/-- The names of a path, with empty ones where slashes stand together or at an end. -/
def names (path : String) : List String :=
  (Text.pieces (· = '/') path.toList).map String.ofList

/-- The place where a path starts. -/
def startOf (h : Host) (path : String) : Place :=
  if path.toList.head? = some '/' then [] else h.workingDirectory

/-- The directory at a place can be gone through to a name in it. An empty name is the directory
itself. -/
def enter (h : Host) (place : Place) (name : String) : Except FileFault Unit :=
  if !h.hasDirectory place then
    .error (if h.hasFile place then .notDirectory else .missing)
  else if name = "" then
    .ok ()
  else
    h.allow .search place

/-- The place to which names lead from another place. -/
def walk (h : Host) (place : Place) : List String → Except FileFault Place
  | [] => .ok place
  | name :: rest => do
    h.enter place name
    if name = "" ∨ name = "." then
      h.walk place rest
    else if name = ".." then
      h.walk place.dropLast rest
    else if nameLimit < name.utf8ByteSize then
      .error .nameTooLong
    else
      h.walk (place ++ [name]) rest

/-- The path can be followed at all. -/
def checkPath (path : String) : Except FileFault Unit :=
  if path.toList.contains '\x00' then .error .badName
  else if path = "" then .error .missing
  else if pathLimit ≤ path.utf8ByteSize then .error .nameTooLong
  else .ok ()

/-- The place to which a path leads. -/
def locate (h : Host) (path : String) : Except FileFault Place := do
  checkPath path
  h.walk (h.startOf path) (names path)

/-- The place at which a path has a file written. A path that ends with a slash asks for a
directory. -/
def locateNew (h : Host) (path : String) : Except FileFault Place := do
  checkPath path
  match (names path).reverse with
  | "" :: rest =>
    let _ ← h.walk (h.startOf path) ((rest.dropWhile (· = "")).drop 1 |>.reverse |>.concat ".")
    throw .isDirectory
  | _ => h.walk (h.startOf path) (names path)

/-! ## Files -/

/-- There is a file to which a path leads. -/
def isFile (h : Host) (path : String) : Bool :=
  match h.locate path with
  | .ok place => h.files.any (·.1 == place)
  | .error _ => false

/-- All that is left of the standard input, as a text. -/
def inputText (h : Host) : Except FileFault String :=
  textOf h.input

/-- The host without what is left of the standard input. -/
def dropInput (h : Host) : Host :=
  { h with input := [] }

/-- What a device holds, and the host after that is read. -/
def readDevice (h : Host) : Device → Except FileFault (String × Host)
  | .input => if h.inputTaken then .ok ("", h) else h.inputText.map (·, h.dropInput)
  | _ => .ok ("", h)

/-- The host after a text is written to a device. -/
def writeDevice (h : Host) (text : String) : Device → Except FileFault Host
  | .null | .input => .ok h
  | .full => if text = "" then .ok h else .error .noSpace
  | .output => .ok { h with output := h.output ++ text }
  | .errors => .ok { h with errors := h.errors ++ text }

/-- The text of a file, and the host after that is read. -/
def read (h : Host) (path : String) : Except FileFault (String × Host) := do
  let place ← h.locate path
  if h.hasDirectory place then
    throw .isDirectory
  match h.devices.lookup place, h.files.lookup place with
  | some d, _ =>
    h.allow .read place
    h.readDevice d
  | none, some bytes =>
    h.allow .read place
    return (← textOf bytes, h)
  | none, none => throw .missing

/-- The place of the file that a path has opened for writing. -/
def openNew (h : Host) (path : String) : Except FileFault Place := do
  let place ← h.locateNew path
  if h.hasDirectory place then
    throw .isDirectory
  h.allow .write place
  return place

/-- The host with other bytes in a file. -/
def replace (h : Host) (place : Place) (bytes : List UInt8) : Host :=
  { h with files := (place, bytes) :: h.files.filter (·.1 ≠ place) }

/-- What comes of writing a text to a file. Once the file is open nothing of its former bytes is
left, even where writing stops before the end of the text. -/
def write (h : Host) (path text : String) : Except FileFault Unit × Host :=
  match h.openNew path with
  | .error fault => (.error fault, h)
  | .ok place =>
    match h.devices.lookup place with
    | some d =>
      match h.writeDevice text d with
      | .error fault => (.error fault, h)
      | .ok h => (.ok (), h)
    | none =>
      -- From here on the file is open, and only what is written to it now will be in it.
      match h.stop place (encodeUtf8 text) with
      | some (n, fault) => (.error fault, h.replace place ((encodeUtf8 text).take n))
      | none => (.ok (), h.replace place (encodeUtf8 text))

end Host

/-- The result of a dialogue with a host, and the host after it. -/
def Dialogue.run {α : Type} : Dialogue α → Host → α × Host
  | .finish a, h => (a, h)
  | .print text next, h => next.run { h with output := h.output ++ text }
  | .warn text next, h => next.run { h with errors := h.errors ++ text }
  | .isFile path next, h => (next (h.isFile path)).run h
  | .readFile path next, h =>
    match h.read path with
    | .ok (text, h) => (next (.ok text)).run h
    | .error e => (next (.error e)).run h
  | .writeFile path text next, h =>
    match h.write path text with
    | (r, h) => (next r).run h
  | .readInput next, h => (next h.inputText).run h.dropInput
  | .post request next, h =>
    match h.obstacle request.url with
    | some fault => (next (.fault fault)).run h
    | none =>
      let requests := h.requests ++ [request]
      (next (h.service requests)).run { h with requests }

end SchemaWorkbench
