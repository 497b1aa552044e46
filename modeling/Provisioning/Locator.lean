import Provisioning.Labels.Selector

/-!
# Locators

What a wait or a subscription is about: one object by name, or all objects of a namespace with
certain labels.
-/

namespace Provisioning

/-- Addresses the objects of a wait. -/
inductive Locator where
  | named (namespaceName name : String)
  | labeled (namespaceName : String) (selector : Labels)
  deriving DecidableEq, Repr

namespace Locator

def namespaceName : Locator → String
  | .named namespaceName _ => namespaceName
  | .labeled namespaceName _ => namespaceName

def text : Locator → String
  | .named namespaceName name => namespaceName ++ "/" ++ name
  | .labeled namespaceName selector => namespaceName ++ "/[" ++ selector.selector ++ "]"

end Locator

end Provisioning
