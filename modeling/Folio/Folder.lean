import Folio.Text.Path
import Folio.Text.Quoted

namespace Folio

open Folio.Text

inductive Obstacle where
  | absent
  | underFile
  | folder
  | nameTooLong
  | noPath
  deriving DecidableEq, Repr

def Obstacle.complaint (o : Obstacle) (path : String) : String :=
  match o with
  | absent => s!"[Errno 2] No such file or directory: {quoted path}"
  | underFile => s!"[Errno 20] Not a directory: {quoted path}"
  | folder => s!"[Errno 21] Is a directory: {quoted path}"
  | nameTooLong => s!"[Errno 36] File name too long: {quoted path}"
  | noPath => "embedded null byte"

inductive Entry where
  | file (text : String)
  | noFile (why : Obstacle)
  deriving DecidableEq, Repr

abbrev Files := String → Entry

abbrev Folder := List (String × String)

/-- Where a walk along a path has come to: inside the folder, in the one that holds it, or at a
path from the root of the system. -/
inductive Place where
  | inside (names : List String)
  | holder
  | rooted (names : List String)
  deriving DecidableEq, Repr

def rootFolders : List String :=
  ["bin", "boot", "dev", "etc", "home", "lib", "media", "mnt", "opt", "proc", "root", "run", "sbin",
    "srv", "sys", "tmp", "usr", "var"]

def systemFiles : List (List String × String) := [
  (["dev", "null"], ""), (["etc", "hosts"], "127.0.0.1 localhost\n"),
  (["etc", "passwd"], "root:x:0:0:root:/root:/bin/sh\n")]

def parentName : String := ".."

def nameBound : Nat := 256

def pathBound : Nat := 4096

namespace Folder

def standing (texts : List (List String × String)) (names : List String) : Entry :=
  match texts.lookup names with
  | some text => .file text
  | none =>
    if names.isEmpty || texts.any fun (p, _) => names.isPrefixOf p then .noFile .folder
    else .noFile .absent

def entryAt (texts : List (List String × String)) : Place → Entry
  | .inside names => standing texts names
  | .holder => .noFile .folder
  | .rooted [name] => .noFile (if rootFolders.contains name then .folder else .absent)
  | .rooted names => standing systemFiles names

def step (place : Place) (name : String) : Except Obstacle Place :=
  if name = parentName then
    .ok (match place with
      | .inside [] => .holder
      | .inside names => .inside names.dropLast
      | .holder => .rooted []
      | .rooted names => .rooted names.dropLast)
  else if nameBound ≤ name.utf8ByteSize then .error .nameTooLong
  else match place with
    | .inside names => .ok (.inside (names ++ [name]))
    | .holder => .error .absent
    | .rooted names => .ok (.rooted (names ++ [name]))

def walk (texts : List (List String × String)) (place : Place) : List String → Entry
  | [] => entryAt texts place
  | name :: names =>
    match entryAt texts place with
    | .file _ => .noFile .underFile
    | .noFile .folder =>
      match step place name with
      | .ok next => walk texts next names
      | .error o => .noFile o
    | entry => entry

def entry (folder : Folder) : Files := fun path =>
  let texts := folder.map fun (p, text) => (Path.components p, text)
  let names := Path.components path
  let isRooted := !(Path.root path.toList).isEmpty
  if path.toList.contains '\x00' then .noFile .noPath
  else if pathBound ≤ (Path.normalized path).utf8ByteSize then .noFile .nameTooLong
  else if isRooted then walk texts (.rooted []) names
  else match texts.lookup names with
    | some text => .file text
    | none => walk texts (.inside []) names

end Folder

end Folio
