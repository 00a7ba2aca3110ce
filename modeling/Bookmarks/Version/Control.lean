import Bookmarks.Keyed
import Bookmarks.Version.Basic

/-!
Whatever keeps the versions of a profile's files, as the daemon calls it.
-/
set_option autoImplicit false

namespace Bookmarks

structure VersionControl (κ σ : Type) where
  commit : σ → Keyed κ → List String → String → Except VersionError CommitStatus × σ
  push : σ → Except VersionError Unit × σ
  -- Takes over the commits of a remote branch, and the files with them.
  pull : σ → Keyed κ → String → Except VersionError (Keyed κ) × σ
  status : σ → String → Except VersionError BranchStatus × σ

namespace VersionControl

-- No version control: every change stays pending.
def disabled (κ : Type) : VersionControl κ Unit where
  commit _ _ _ _ := (.ok .deferred, ())
  push _ := (.error .disabled, ())
  pull _ _ _ := (.error .disabled, ())
  status _ _ := (.error .disabled, ())

def within {κ σ τ : Type} (control : VersionControl κ σ) (get : τ → σ) (set : τ → σ → τ) :
    VersionControl κ τ where
  commit state files paths message :=
    let (answer, next) := control.commit (get state) files paths message
    (answer, set state next)
  push state :=
    let (answer, next) := control.push (get state)
    (answer, set state next)
  pull state files branch :=
    let (answer, next) := control.pull (get state) files branch
    (answer, set state next)
  status state branch :=
    let (answer, next) := control.status (get state) branch
    (answer, set state next)

end VersionControl

end Bookmarks
