/-!
Files by name: a directory of files and empty directories, and the reading of a path in it.
-/

namespace Chip8

/-- Why a file could not be read, with the number systems give it. -/
structure FileError where
  number : Nat
  reason : String
deriving DecidableEq

namespace FileError

def missing : FileError := ⟨2, "No such file or directory"⟩

def notDirectory : FileError := ⟨20, "Not a directory"⟩

def isDirectory : FileError := ⟨21, "Is a directory"⟩

def nameTooLong : FileError := ⟨36, "File name too long"⟩

def all : List FileError := [missing, notDirectory, isDirectory, nameTooLong]

end FileError

/-- Bytes by path, as a program finds them. -/
abbrev Files := String → Except FileError (List UInt8)

structure Directory where
  /-- Files by name; no bytes for an empty directory. -/
  entries : List (String × Option (List UInt8))

namespace Directory

/-- The most bytes in a part of a path. -/
def maxPart : Nat := 255

/-- The most bytes in a path. -/
def maxPath : Nat := 4095

/-- Where the walk along a path stands. -/
inductive Place
  | current
  | child
  | outside
  | file (bytes : List UInt8)

/-- Follows one part of a path. Nothing can be reached through a file, and nothing is known to
lie outside. -/
def enter (d : Directory) : Place → String → Except FileError Place
  | .file _, _ => .error .notDirectory
  | place, "" => .ok place
  | place, "." => .ok place
  | .child, ".." => .ok .current
  | _, ".." => .ok .outside
  | place, name =>
    if maxPart < name.utf8ByteSize then .error .nameTooLong
    else
      match place, d.entries.lookup name with
      | .current, some (some bytes) => .ok (.file bytes)
      | .current, some none => .ok .child
      | _, _ => .error .missing

/-- The bytes of the file at a path. The empty path names nothing. -/
def read (d : Directory) : Files := fun path => do
  if path.isEmpty then throw .missing
  if maxPath < path.utf8ByteSize then throw .nameTooLong
  let start : Place := if path.startsWith "/" then .outside else .current
  match ← (path.splitOn "/").foldlM d.enter start with
  | .file bytes => return bytes
  | _ => throw .isDirectory

end Directory

end Chip8
