import AuctionBudget.Text.Blank
import AuctionBudget.Text.Cut

/-! # Where records are kept

Records are kept in a file, or nowhere. A connection string on the command line or in the
environment decides, then the settings, and without either it is a file in the working directory.
-/

namespace AuctionBudget.CommandLine

/-- Where the records of an auction are kept. -/
inductive Storage where
  /-- Every command starts without records. -/
  | memory
  | file (path : String)
  deriving DecidableEq

namespace Storage

/-- The file where nothing else is said. -/
def default : Storage := .file "auction.db"

/-- What a connection string names: `sqlite:` and a path, with options behind a question mark. -/
def ofUrl? (url : String) : Option Storage := do
  let located ← Text.after? "sqlite:".toList url.toList
  if located = ":memory:".toList then return .memory
  let path := (Text.after? "//".toList located).getD located
  return .file (String.ofList (((Text.cutAt '?' path).map (·.1)).getD path))

def unquote? (s : List Char) : Option String :=
  match s with
  | '"' :: rest => (Text.cutAt '"' rest).map fun (inside, _) => String.ofList inside
  | _ => none

/-- The name between square brackets, of which the opening one is gone. -/
def headingOf? (s : List Char) : Option String :=
  (Text.cutAt ']' s).map fun (name, _) => String.ofList (Text.trim name)

/-- What one line of settings says under a heading: the heading from here on, and the storage. -/
def readLine (heading : String) (line : String) : String × Option Storage :=
  match Text.trim line.toList with
  | '[' :: rest => ((headingOf? rest).getD heading, none)
  | s =>
      match Text.cutAt '=' s with
      | none => (heading, none)
      | some (key, value) =>
          match heading, String.ofList (Text.trim key), unquote? (Text.trim value) with
          | "", "database", some "memory" => (heading, some .memory)
          | "database", "sqlite", some path => (heading, some (.file path))
          | _, _, _ => (heading, none)

/-- The storage that settings name; the first one counts. -/
def ofSettings? : String → List String → Option Storage
  | _, [] => none
  | heading, line :: rest =>
      match readLine heading line with
      | (_, some storage) => some storage
      | (heading, none) => ofSettings? heading rest

/-- The storage to use, given a connection string and what the settings say; nothing for a
    connection string that names none. -/
def choose? (url : Option String) (configured : Option Storage) : Option Storage :=
  match url with
  | some url => ofUrl? url
  | none => some (configured.getD default)

end Storage
end AuctionBudget.CommandLine
