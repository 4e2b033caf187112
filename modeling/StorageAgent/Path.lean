import StorageAgent.Error.Failure
import StorageAgent.Text.Basic

/-!
# Paths

A path is a root, which is empty for a relative path, and names. Empty names and
`.` are dropped; exactly two leading slashes are a root of their own. A leading
`~` stands for a home directory.
-/
namespace StorageAgent

/-- A path of the file system. -/
structure Path where
  root : String
  names : List String
  deriving DecidableEq

/-- Where the home directories are: the user's own, and those of named users. -/
structure Homes where
  own : String
  ofUser : String → Option String

def colonFields (line : String) : List String := line.splitOn ":"

/-- The home directory of a user in an account table: its lines have the user's name first and the home
directory sixth. -/
def homeInTable (table user : String) : Option String :=
  (table.splitOn "\n").findSome? fun line =>
    match colonFields line with
    | name :: _ :: _ :: _ :: _ :: home :: _ => if name == user then some home else none
    | _ => none

/-- The homes of a user whose own is known, and of those in an account table. -/
def Homes.ofTable (own table : String) : Homes := ⟨own, homeInTable table⟩

/-- What a path leads to. -/
inductive FileEntry where
  | missing
  /-- Something that cannot be read as a file, and why. -/
  | unreadable (kind : FaultKind)
  | content (bytes : Bytes)

namespace Path

def parse (text : String) : Path :=
  let chars := text.toList
  let slashes := (chars.takeWhile (· == '/')).length
  let names := ((Text.splitBy (· == '/') chars).map String.ofList).filter fun n => n != "" && n != "."
  ⟨if slashes = 0 then "" else if slashes = 2 then "//" else "/", names⟩

def text (p : Path) : String :=
  if p.root.isEmpty && p.names.isEmpty then "." else p.root ++ "/".intercalate p.names

def trimSlashes (chars : List Char) : List Char := (chars.reverse.dropWhile (· == '/')).reverse

/-- The home directory that a name beginning with `~` stands for. -/
def home? (homes : Homes) (name : List Char) : Option String :=
  let found := if name.isEmpty then some homes.own else homes.ofUser (String.ofList name)
  match found with
  | none => none
  | some home =>
    match trimSlashes home.toList with
    | [] => some "/"
    | '~' :: _ => none
    | chars => some (String.ofList chars)

/-- The path with a leading `~` replaced. -/
def expand (homes : Homes) (p : Path) : Except Failure Path :=
  match p.names with
  | [] => .ok p
  | name :: rest =>
    match name.toList with
    | '~' :: user =>
      if !p.root.isEmpty then .ok p
      else
        match home? homes user with
        | none => .error (Failure.of .runtime)
        | some home =>
          let h := parse home
          .ok ⟨h.root, h.names ++ rest⟩
    | _ => .ok p

end Path
end StorageAgent
