/-
# Files on disk

The contents of a working directory, and what reading a path in it gives. A path is followed
name by name from the working directory; a name must be that of a directory when something
follows it.
-/

namespace ClassroomClient

/-- Why a file cannot be read. -/
inductive ReadFault
  | notFound
  | isDirectory
  | notDirectory
  | nameTooLong
  | notText
  | invalidName
  deriving DecidableEq, Repr, Inhabited

/-- The wording of the system. -/
def ReadFault.message : ReadFault → String
  | notFound => "No such file or directory (os error 2)"
  | isDirectory => "Is a directory (os error 21)"
  | notDirectory => "Not a directory (os error 20)"
  | nameTooLong => "File name too long (os error 36)"
  | notText => "stream did not contain valid UTF-8"
  | invalidName => "file name contained an unexpected NUL byte"

/-- The files below the working directory, each with the names on the way to it. -/
structure Disk where
  files : List (List String × List UInt8)
  deriving Inhabited

namespace Disk

/-- What stands at a place below the working directory. -/
inductive Entry
  | file (bytes : List UInt8)
  | directory
  | nothing

/-- The names of a path. -/
def names (path : String) : List String :=
  (path.toList.splitOn '/').map String.ofList

/-- What stands at a place. -/
def entry (disk : Disk) (place : List String) : Entry :=
  match disk.files.find? fun (file, _) => file == place with
  | some (_, bytes) => .file bytes
  | none =>
    if place.isEmpty || disk.files.any fun (file, _) => place.isPrefixOf file then .directory
    else .nothing

/-- The longest name that the system takes, in bytes. -/
def longestName : Nat := 255

/-- The longest path that the system takes, in bytes. -/
def longestPath : Nat := 4095

/-- Follows names from a place. Outside of the working directory there is nothing but the
directories around it. -/
def follow (disk : Disk) : Option (List String) → List String → Except ReadFault (List UInt8)
  | none, [] => .error .isDirectory
  | none, name :: rest =>
    if ["", ".", ".."].contains name then disk.follow none rest else .error .notFound
  | some place, [] =>
    match disk.entry place with
    | .file bytes => .ok bytes
    | .directory => .error .isDirectory
    | .nothing => .error .notFound
  | some place, name :: rest =>
    match disk.entry place with
    | .file _ => .error .notDirectory
    | .nothing => .error .notFound
    | .directory =>
      if name == "" || name == "." then disk.follow (some place) rest
      else if name == ".." then
        disk.follow (if place.isEmpty then none else some place.dropLast) rest
      else if name.utf8ByteSize > longestName then .error .nameTooLong
      else disk.follow (some (place ++ [name])) rest

/-- Reads the bytes of a file. -/
def readBytes (disk : Disk) (path : String) : Except ReadFault (List UInt8) :=
  if path.toList.contains '\x00' then .error .invalidName
  else if path.isEmpty then .error .notFound
  else if path.utf8ByteSize > longestPath then .error .nameTooLong
  else disk.follow (if path.toList.head? == some '/' then none else some []) (names path)

/-- Reads a file as text. -/
def read (disk : Disk) (path : String) : Except ReadFault String :=
  match disk.readBytes path with
  | .error fault => .error fault
  | .ok bytes =>
    match String.fromUTF8? (ByteArray.mk bytes.toArray) with
    | some text => .ok text
    | none => .error .notText

/-- The names on the way to a file that is written. -/
def placeOf (path : String) : List String :=
  (names path).filter fun name => name != "" && name != "."

/-- Puts a file into its place. -/
def write (disk : Disk) (path : String) (bytes : List UInt8) : Disk :=
  let place := placeOf path
  { files := (place, bytes) :: disk.files.filter fun (file, _) => file != place }

end Disk

end ClassroomClient
