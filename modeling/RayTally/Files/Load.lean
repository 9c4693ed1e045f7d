import RayTally.Files.Access

/-!
# Loading from files

What is loaded from a file can fail in two ways: the file cannot be opened, or what it holds is not
what it should be.
-/

namespace RayTally

/-- Why nothing could be **loaded from a file**. -/
inductive LoadError (α : Type)
  | cannotOpen (path : Path) (why : Failure)
  | invalid (path : Path) (why : α)

/-- The words for why nothing could be loaded, given those for what is invalid. -/
def LoadError.message {α : Type} (describe : Path → α → String) : LoadError α → String
  | cannotOpen p why => "Could not open \x27" ++ p.shown ++ "\x27: " ++ why.message
  | invalid p why => describe p why

/-- Loads what a file holds, given how it is read from a source. -/
def FileSystem.load {α β : Type} (fs : FileSystem) (p : Path) (read : Source → Except α β) :
    Except (LoadError α) β :=
  match fs.openToRead p with
  | .error why => .error (.cannotOpen p why)
  | .ok s => (read s).mapError (.invalid p)

end RayTally
