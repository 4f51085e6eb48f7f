import FlatTables.Config
import FlatTables.Fault
import FlatTables.Procedure

/-!
# Configuration files

A configuration kept as JSON text in a file.
-/

set_option autoImplicit false
set_option relaxedAutoImplicit false

namespace FlatTables.Config

/-- Loads the configuration in a file. -/
def load (path : String) : Procedure (Except Fault Config) := do
  match ← Procedure.textOf path with
  | .error failure => return .error (.file failure)
  | .ok text => return (ofText text).mapError (.config path)

end FlatTables.Config
