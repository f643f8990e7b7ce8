import Facets.Assoc

/-
Log files that are kept below a size.

When a line would bring the file to the limit, the file is put aside as the
newest backup, the backups move up by one, and a new file is begun.
-/
namespace Facets
namespace Logging

abbrev Files := List (String × String)

/-- A file that is logged to, with its greatest size in bytes and the number of
backups; without a size or without backups it just grows. -/
structure LogFile where
  path : String
  maxBytes : Int
  backups : Int
  deriving DecidableEq

namespace Files

def content? (path : String) (files : Files) : Option String := Assoc.find? (· == ·) path files

def write (path content : String) (files : Files) : Files := Assoc.put (· == ·) path content files

def remove (path : String) (files : Files) : Files := Assoc.erase (· == ·) path files

/-- Give a file a new path; a file that was there is gone. -/
def move (source target : String) (files : Files) : Files :=
  match files.content? source with
  | some content => ((files.remove source).remove target).write target content
  | none => files

/-- An empty file, unless there is one. -/
def ensure (path : String) (files : Files) : Files :=
  match files.content? path with
  | some _ => files
  | none => files.write path ""

end Files

namespace LogFile

def backupPath (f : LogFile) (n : Nat) : String := f.path ++ "." ++ toString n

/-- Put the file aside and begin a new one. -/
def rollOver (f : LogFile) (files : Files) : Files :=
  let count := f.backups.toNat
  let shifted := (List.range (count - 1)).foldr
    (fun i files => files.move (f.backupPath (i + 1)) (f.backupPath (i + 2))) files
  ((shifted.remove (f.backupPath 1)).move f.path (f.backupPath 1)).ensure f.path

/-- The size that decides is that of the file in bytes and of the line in
characters, its end included. -/
def isFull (f : LogFile) (line : String) (files : Files) : Bool :=
  let size := ((files.content? f.path).getD "").utf8ByteSize
  0 < f.maxBytes && 0 < f.backups && f.maxBytes ≤ (size + line.length + 1 : Nat)

def append (f : LogFile) (line : String) (files : Files) : Files :=
  let files := if f.isFull line files then f.rollOver files else files
  files.write f.path ((files.content? f.path).getD "" ++ line ++ "\n")

end LogFile
end Logging
end Facets
