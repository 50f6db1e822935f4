import Recompile.FileTree
import Recompile.Toml.Record

/-!
# Settings from a file
-/

namespace Recompile

/-- Why settings cannot be loaded. -/
inductive ConfigError where
  | unreadable (path : Path) (cause : ReadError)
  | invalid
deriving DecidableEq, Repr

namespace ConfigError

/-- The wording of a reason. -/
def message : ConfigError → String
  | unreadable path cause => s!"failed to read config {path}: " ++ cause.message
  | invalid => "invalid config"

end ConfigError

/-- Loads settings from a file. -/
def Config.load (disk : Disk) (p : Path) : Except ConfigError Config :=
  match disk.read p with
  | .error cause => .error (.unreadable p cause)
  | .ok document =>
    match Config.parse document with
    | some c => .ok c
    | none => .error .invalid

end Recompile
