/-! The file tree that a rehearsal looks for programs in: those of its places that a search
can tell apart. A place is the names on the way to it from the root. -/

namespace Typecase.Rehearsal

/-- Why a program does not start. -/
inductive Obstacle where
  | noEntry
  | listTooLong
  | denied
  | notDirectory
  | nameTooLong
deriving DecidableEq

def Obstacle.message : Obstacle → String
  | noEntry => "No such file or directory (os error 2)"
  | listTooLong => "Argument list too long (os error 7)"
  | denied => "Permission denied (os error 13)"
  | notDirectory => "Not a directory (os error 20)"
  | nameTooLong => "File name too long (os error 36)"

abbrev Place := List String

namespace Place

/-- Where programs lie. -/
def programs : Place := ["usr", "bin"]

/-- Where a path starts that does not start at the root. -/
def working : Place := ["home", "work"]

def directories : List Place :=
  [[], ["boot"], ["dev"], ["dev", "pts"], ["dev", "shm"], ["etc"], ["home"], working, ["media"],
    ["mnt"], ["opt"], ["proc"], ["proc", "self"], ["proc", "self", "fd"], ["root"], ["run"],
    ["srv"], ["sys"], ["tmp"], ["usr"], programs, ["usr", "games"], ["usr", "include"],
    ["usr", "lib"], ["usr", "libexec"], ["usr", "local"], ["usr", "local", "bin"],
    ["usr", "local", "lib"], ["usr", "local", "sbin"], ["usr", "sbin"], ["usr", "share"],
    ["usr", "src"], ["var"], ["var", "lib"], ["var", "log"], ["var", "tmp"]]

/-- Names that stand for another place. -/
def links : List (Place × Place) :=
  [(["bin"], programs), (["sbin"], ["usr", "sbin"]), (["lib"], ["usr", "lib"]),
    (["dev", "fd"], ["proc", "self", "fd"]), (["proc", "self", "root"], []),
    (["proc", "self", "cwd"], working)]

/-- The programs that are answered. -/
def answered : List String := ["echo", "false", "printenv", "printf", "true"]

/-- Files, by the directory that they lie in. -/
def files : List (Place × List String) :=
  [(programs, answered ++ ["bash", "cat", "env", "ls", "sh"]),
    (["dev"], ["full", "null", "random", "stderr", "stdin", "stdout", "tty", "urandom", "zero"]),
    (["etc"], ["fstab", "group", "hostname", "hosts", "os-release", "passwd", "profile",
      "resolv.conf", "shadow"]),
    (["proc"], ["cpuinfo", "meminfo", "mounts", "uptime", "version"]),
    (["proc", "self"], ["cmdline", "environ", "exe", "maps", "stat", "status"])]

def isFile (directory : Place) (name : String) : Bool :=
  (files.lookup directory).any (·.contains name)

/-- Bytes that a name has at most. -/
def longestName : Nat := 255

/-- The first number of bytes that is too large for a path. -/
def pathLimit : Nat := 4096

/-- Goes on from a place by one name of a path. -/
def enter (here : Place) (name : String) : Except Obstacle Place :=
  let there := here ++ [name]
  if !directories.contains here then .error .notDirectory
  else if name = "" ∨ name = "." then .ok here
  else if name = ".." then .ok here.dropLast
  else if longestName < name.utf8ByteSize then .error .nameTooLong
  else
    match links.lookup there with
    | some target => .ok target
    | none =>
      if directories.contains there || isFile here name then .ok there else .error .noEntry

/-- The place that a path leads to. -/
def locate (path : String) : Except Obstacle Place :=
  if path.isEmpty then .error .noEntry
  else if pathLimit ≤ path.utf8ByteSize then .error .nameTooLong
  else (path.splitOn "/").foldlM enter (if path.startsWith "/" then [] else working)

/-- The program that a path leads to. Nothing else can be started. -/
def program (path : String) : Except Obstacle String := do
  let place ← locate path
  match answered.find? fun name => place == programs ++ [name] with
  | some name => return name
  | none => .error .denied

/-- Tries the entries of a search path. The obstacle in the last one counts, unless one was
that a file must not be started. An empty entry stands for the working place, and so does
one that is too long. -/
def searchEntries (name : String) (obstacle : Obstacle) :
    List String → Except Obstacle String
  | [] => .error obstacle
  | entry :: entries =>
    let path :=
      if entry.isEmpty ∨ pathLimit ≤ entry.utf8ByteSize then name else entry ++ "/" ++ name
    match program path with
    | .ok found => .ok found
    | .error .nameTooLong => .error .nameTooLong
    | .error next =>
      searchEntries name (if obstacle = .denied then .denied else next) entries

/-- Finds a program by its name along a search path. A name with a slash is a path itself. -/
def search (searchPath name : String) : Except Obstacle String :=
  if name.isEmpty then .error .noEntry
  else if name.contains '/' then program name
  else searchEntries name .noEntry (searchPath.splitOn ":")

end Place

end Typecase.Rehearsal
