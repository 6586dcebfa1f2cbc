import RecordQuery.Text.Pieces

/-!
Paths and text files.

A path is kept in its plain form, without empty parts and without parts that stay where they are.
-/

namespace RecordQuery

/-- The plain form of a path; the empty path is the working directory. -/
def plainPath (path : String) : String :=
  let parts := (Text.split '/' path).filter fun part => part != "" && part != "."
  let absolute := path.toList.head? == some '/'
  match absolute, parts with
  | false, [] => "."
  | false, _ => Text.join "/" parts
  | true, _ => "/" ++ Text.join "/" parts

def pathIn (directory file : String) : String := plainPath (directory ++ "/" ++ file)

abbrev Files := List (String × String)

namespace Files

def get? (files : Files) (path : String) : Option String :=
  (files.find? fun entry => entry.1 == path).map Prod.snd

def write : Files → String → String → Files
  | [], path, text => [(path, text)]
  | (other, old) :: rest, path, text =>
      if other = path then (other, text) :: rest else (other, old) :: write rest path text

def append (files : Files) (path text : String) : Files :=
  files.write path ((files.get? path).getD "" ++ text)

def remove (files : Files) (path : String) : Files := files.filter fun entry => entry.1 != path

/-- Gives a file another path, in place of the file that is there. -/
def rename (files : Files) (path target : String) : Files :=
  match files.get? path with
  | some text => (files.remove path).write target text
  | none => files

/-- Lets a file exist, empty if it is new. -/
def touch (files : Files) (path : String) : Files := files.append path ""

def isDirectory (files : Files) (path : String) : Bool :=
  path == "." || files.any fun entry => (path ++ "/").toList.isPrefixOf entry.1.toList

end Files

end RecordQuery
