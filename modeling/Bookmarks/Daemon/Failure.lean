import Bookmarks.Batch.Violation
import Bookmarks.Store.Error
import Bookmarks.Version.Basic
import Bookmarks.Wire.Fault

/-!
Why the daemon does not do what it is asked, and how that is reported.
-/
set_option autoImplicit false

namespace Bookmarks

inductive Failure where
  | invalidRequest (message : String)
  | rejected (rejection : Rejection)
  | store (error : StoreError)
  | version (error : VersionError)
deriving DecidableEq, Repr

namespace Failure

def message : Failure → String
  | .invalidRequest message => "invalid request: " ++ message
  | .rejected rejection => "validation failed: " ++ rejection.message
  | .store error => "storage error: " ++ error.message
  | .version error => "vcs error: " ++ error.message

def storeFault (error : StoreError) : Fault :=
  match error with
  | .abandoned _ => .internal error.message
  | .noRows _ nodeId => Fault.withDetail ⟨.storageError, error.message, none⟩ "nodeId" (.str nodeId)
  | _ => ⟨.storageError, error.message, none⟩

def fault : Failure → Fault
  | .invalidRequest message => .invalidRequest message
  | .rejected rejection =>
    Fault.mk .validationFailed rejection.violation.message none
      |>.withDetail "reason" (.str rejection.violation.reason)
      |>.withDetail "opIndex" (.nat rejection.index)
      |>.withDetail "op" (.str rejection.operation)
  | .store error => storeFault error
  | .version error =>
    Fault.withDetail ⟨.vcsError, error.message, none⟩ "reason" (.str error.reason)

end Failure

end Bookmarks
