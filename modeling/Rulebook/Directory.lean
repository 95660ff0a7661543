/-
  Files by name, as far as the program sees them.

  1. `Path.normal`: a path without empty and dot segments;
  2. `Directory`: the files within reach, with their bytes;
  3. `Directory.look`: what a path leads to;
  4. `Directory.textOf`: the text of a file's bytes.
-/
import Rulebook.Fault
import Rulebook.Text.Split

namespace Rulebook

open Rulebook.Text

/-! ## Paths -/

namespace Path

/-- The segments of `path` that count: empty ones and single dots do not. -/
def segments (path : String) : List String :=
  ((splitOn '/' path.toList).filter fun s => !s.isEmpty && s != ['.']).map String.ofList

/-- The slashes that `path` begins with: one, but two if there are exactly two. -/
def rootOf (path : String) : String :=
  let slashes := (path.toList.takeWhile (· == '/')).length
  if slashes = 0 then "" else if slashes = 2 then "//" else "/"

/-- The `path` with single slashes and without dot segments; the empty path is a dot. -/
def normal (path : String) : String :=
  let text := rootOf path ++ "/".intercalate (segments path)
  if text.isEmpty then "." else text

end Path

/-! ## Directories -/

/-- The `files` within reach, by their `normal` paths. -/
structure Directory where
  files : List (String × List UInt8)
deriving Repr

/-- What a path leads to: a file of `bytes`, a directory, or nothing. -/
inductive Location
  | file (bytes : List UInt8)
  | directory
  | nothing
deriving Repr

namespace Directory

/-- The directory without files. -/
def empty : Directory := ⟨[]⟩

/-- Deletes the file that `path` leads to. -/
def delete (d : Directory) (path : String) : Directory :=
  ⟨d.files.filter (·.1 != Path.normal path)⟩

/-- Writes `bytes` to the file that `path` leads to. -/
def write (d : Directory) (path : String) (bytes : List UInt8) : Directory :=
  ⟨(Path.normal path, bytes) :: (d.delete path).files⟩

/-- What `path` leads to in `d`: the current directory and those above it are directories. -/
def look (d : Directory) (path : String) : Location :=
  if (Path.segments path).all (· == "..") then .directory
  else
    match d.files.lookup (Path.normal path) with
    | some bytes => .file bytes
    | none => .nothing

/-- The text of `bytes`, with every line end a line feed. -/
def textOf (bytes : List UInt8) : Except Fault (List Char) :=
  match Utf8.decode bytes with
  | .ok cs => .ok (Utf8.unifyLineEnds cs)
  | .error e => .error (.undecodable e)

end Directory

end Rulebook
