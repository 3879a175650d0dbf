/-
Quadratic.Settings.Path — the files and folders that values can be read
from.

A path can name a home that nobody has, or be too long to be looked up.
What the files and folders hold is a parameter (`Stored`).
-/
import Quadratic.Settings.Field
import Quadratic.Settings.Keyword
import Quadratic.Text.Space

namespace Quadratic.Settings

/-! ## 1. Paths -/

/-- The value for each field that the named files and folders hold. -/
abbrev Stored := Field → Option Value

/-- Files and folders that hold no value for any field. -/
def Stored.nothing : Stored := fun _ => none

namespace Path

/-- The names on a path. Strokes stand between them, and a single dot is
no name. -/
def names (path : List Char) : List (List Char) :=
  (Text.runsFrom (fun c => c = '/') [] path).filter fun name => name ≠ ['.']

/-- What a path that does not start at the current folder begins with:
one stroke, or two if there are exactly two. -/
def root (path : List Char) : List Char :=
  match path.takeWhile fun c => c = '/' with
  | [] => []
  | ['/', '/'] => ['/', '/']
  | _ => ['/']

/-- A path without what does not matter. -/
def normal (path : List Char) : List Char :=
  match root path ++ List.intercalate ['/'] (names path) with
  | [] => ['.']
  | cs => cs

/-- Whether a path starts at the home of somebody unknown. The homes of the
user and of the administrator are known. -/
def isHomeless (path : List Char) : Bool :=
  match root path, names path with
  | [], ('~' :: user) :: _ => user ≠ [] ∧ user ≠ "root".toList
  | _, _ => false

/-- The number of bytes of a text. -/
def size (cs : List Char) : Nat := (String.ofList cs).utf8ByteSize

/-- Whether a path is too long to be looked up: as a whole, or in the
first name below the folder where the look-up begins. Without that folder
the names after it are not looked up. A path with a NUL is not looked up
at all. -/
def isTooLong (path : List Char) : Bool :=
  '\x00' ∉ path ∧
    (4096 ≤ size (normal path) ∨
      ((names path).find? fun name => name ≠ ['.', '.']).any fun name => 255 < size name)

end Path

/-! ## 2. Checks -/

/-- A path is a text, and starts at a known place. -/
def pathOf (v : Value) : Except KeywordError (List Char) :=
  match v.text? with
  | some s => if Path.isHomeless s.toList then .error .unknownHome else .ok s.toList
  | none => .error (.notAPath v.typeName)

/-- Paths are a single one, or several in a row. -/
def pathsOf (v : Value) : Except KeywordError (List Value) :=
  match v.text?, v.parts? with
  | some _, _ => .ok [v]
  | none, some vs => .ok vs
  | none, none => .error (.notIterable v.typeName)

/-- A path can be looked up. -/
def checkExtent (path : List Char) : Except KeywordError Unit :=
  if Path.isTooLong path then .error (.pathTooLong (String.ofList (Path.normal path)))
  else .ok ()

/-- How many folders further up a file is looked for is a number. Whether
it is above zero is asked, so that no other kind of value will do. -/
def checkAscent : Value → Except KeywordError Unit
  | .int _ | .bool _ | .float _ => .ok ()
  | v => .error (.notComparable v.typeName)

/-- Files are looked for one after the other, and each search asks anew how
far up it goes. -/
def checkFiles (keywords : List (String × Value)) (v : Value) : Except KeywordError Unit := do
  (← pathsOf v).forM fun file => do
    checkExtent (← pathOf file)
    checkOption keywords "_env_file_depth" checkAscent

/-- The empty device is no folder. -/
def checkFolder (path : List Char) : Except KeywordError Unit := do
  checkExtent path
  if Path.normal path = "/dev/null".toList then .error (.notAFolder "char device") else .ok ()

/-- All paths of folders are read before the first folder is looked up. -/
def checkFolders (v : Value) : Except KeywordError Unit := do
  (← (← pathsOf v).mapM pathOf).forM checkFolder

end Quadratic.Settings
