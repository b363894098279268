/-
The place of a file, as far as reading and writing it whole are concerned.

* **`Place`** — what lies at a path: nothing, a file, a directory, or a path that cannot be
  followed;
* **`Place.read`**, **`Place.write`** — the bytes of the file, and the place as writing it leaves
  it. Each may fail with the system's error;
* **`Place.ofFiles`** — a place in a directory that holds given files.

Permissions are left out: a file can be read and written, and what can be neither is `refused`.
There is no file that can be read but not written, and none that can be written but not read. A file
that could be made is written whole.
-/
import LoadGenerator.SystemError

namespace LoadGenerator

/-- What lies at a path. -/
inductive Place where
  /-- Nothing, in a directory that exists. -/
  | vacant
  | file (content : ByteArray)
  | directory
  /-- The directory of the path does not exist. -/
  | lost
  /-- A part of the path is a file. -/
  | blocked
  /-- The system opens whatever is there neither for reading nor for writing. -/
  | refused (error : SystemError)

namespace Place

/-- What lies at a path of a directory that holds these files, each under its path. -/
def ofFiles (files : List (String × ByteArray)) (path : String) : Place :=
  let holdsFiles := fun (directory : String) => files.any fun f => f.1.startsWith (directory ++ "/")
  let parent := "/".intercalate (path.splitOn "/").dropLast
  match files.find? fun f => f.1 = path with
  | some f => file f.2
  | none =>
    if holdsFiles path then directory
    else if path.isEmpty then lost
    else if parent.isEmpty || holdsFiles parent then vacant
    else if files.any fun f => f.1 = parent then blocked
    else lost

/-- The bytes of the file at the place, if there is one. -/
def content? : Place → Option (Array UInt8)
  | file content => some content.data
  | _ => none

/-- The bytes of the file at the place, or why it cannot be read. -/
def read : Place → Except SystemError ByteArray
  | file content => .ok content
  | directory => .error .isDirectory
  | blocked => .error .notDirectory
  | vacant | lost => .error .noEntry
  | refused e => .error e

/-- The place as writing a file leaves it, and why there is no such file now, if there is none. -/
def write (content : ByteArray) : Place → Place × Except SystemError Unit
  | file _ | vacant => (file content, .ok ())
  | directory => (directory, .error .isDirectory)
  | blocked => (blocked, .error .notDirectory)
  | lost => (lost, .error .noEntry)
  | refused e => (refused e, .error e)

/-- What cannot be written is left alone. -/
theorem place_of_write_error {content : ByteArray} {place next : Place} {e : SystemError}
    (h : place.write content = (next, .error e)) : next = place := by
  cases place with
  | file | vacant => cases h
  | _ => exact (Prod.mk.inj h).1.symm

end Place

end LoadGenerator
