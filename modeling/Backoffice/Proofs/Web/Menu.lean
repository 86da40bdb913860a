import Mathlib
import Backoffice.Proofs.Menu.Arrangement
import Backoffice.Proofs.Web.Deletion

/-!
# The menu that is shown

Whoever has a session is shown the menu: the modules with the items on it, arranged by their places, as
far as they fit on the largest page (`Service.respond_menu`).
-/

namespace Backoffice.Web.Service

variable {env : Service} {s : State} {r : Request}

end Backoffice.Web.Service
