import Screenlock.StrongAuth.Manager
import Screenlock.Foundation.History

/-! # Runs of the strong-authentication manager

One handler after the other, each with the answers of the platform it meets.
-/

namespace Screenlock.StrongAuthManger

open Foundation

/-- One handler. What it announced is handed out before the next one begins. -/
def step (manager : StrongAuthManger) (entry : Environment × StrongAuthEvent) :
    StrongAuthManger :=
  { manager.enter entry.1 entry.2 with changes := [] }

/-- Only submitted queries are answered; every other handler can run at any time. -/
def machine : Machine StrongAuthManger (Environment × StrongAuthEvent) where
  enabled manager entry := match entry.2 with
    | .credentialInfo userId _ _ => userId ∈ manager.queries
    | _ => True
  step := step

end Screenlock.StrongAuthManger
