import Linting.Config.Validate
import Linting.Files.FileSystem
import Linting.Log

/-! Loading a configuration from a file. -/

namespace Linting.Config

def load (fs : FileSystem) (p : Path) : Except ConfigError Config :=
  match fs.readText p with
  | .error e => .error (.io e.message)
  | .ok text => parse (String.ofList text)

/-- Loads a configuration, or takes the defaults when there is no such file. -/
def loadOrDefault (fs : FileSystem) (p : Path) : Logged ConfigError Config :=
  if fs.contains p then ⟨[.loadingConfig p], load fs p⟩ else ⟨[.defaultsUsed p], .ok default⟩

end Linting.Config
