import Ebms.Enumeration

/-!
# Exchange patterns and their bindings

A message exchange pattern says whether a user message is answered by another one. A binding says
how its messages travel: who pushes and who pulls. Both are read from their address exactly as it
is written, or from their short text without regard to case.
-/

namespace Ebms

/-- A message exchange pattern. -/
inductive Pattern where
  | oneWay
  | twoWay
  deriving DecidableEq, Repr

namespace Pattern

/-- The address of a pattern. -/
def uri : Pattern → String
  | .oneWay => "http://docs.oasis-open.org/ebxml-msg/ebms/v3.0/ns/core/200704/oneWay"
  | .twoWay => "http://docs.oasis-open.org/ebxml-msg/ebms/v3.0/ns/core/200704/twoWay"

/-- The short text for a pattern. -/
def shortText : Pattern → String
  | .oneWay => "one-way"
  | .twoWay => "two-way"

/-- Whether a user message is answered by another one. -/
def isTwoWay : Pattern → Bool
  | .oneWay => false
  | .twoWay => true

instance : Spelled Pattern where
  all := [.oneWay, .twoWay]
  name
    | .oneWay => "one_way"
    | .twoWay => "two_way"
  kind := "MEP"
  text := shortText
  spells pattern s := pattern.uri == s || Text.equalsIgnoringCase pattern.shortText s

end Pattern

/-- The way in which the messages of an exchange travel. -/
inductive Binding where
  | push
  | pull
  | sync
  | pushPush
  | pushPull
  | pullPush
  deriving DecidableEq, Repr

namespace Binding

/-- The address of a binding. -/
def uri : Binding → String
  | .push => "http://docs.oasis-open.org/ebxml-msg/ebms/v3.0/ns/core/200704/push"
  | .pull => "http://docs.oasis-open.org/ebxml-msg/ebms/v3.0/ns/core/200704/pull"
  | .sync => "http://docs.oasis-open.org/ebxml-msg/ebms/v3.0/ns/core/200704/sync"
  | .pushPush => "http://docs.oasis-open.org/ebxml-msg/ebms/v3.0/ns/core/200704/push-and-push"
  | .pushPull => "http://docs.oasis-open.org/ebxml-msg/ebms/v3.0/ns/core/200704/push-and-pull"
  | .pullPush => "http://docs.oasis-open.org/ebxml-msg/ebms/v3.0/ns/core/200704/pull-and-push"

/-- The short text for a binding. -/
def shortText : Binding → String
  | .push => "push"
  | .pull => "pull"
  | .sync => "sync"
  | .pushPush => "push-push"
  | .pushPull => "push-pull"
  | .pullPush => "pull-push"

/-- Whether a binding carries messages in both directions. -/
def isTwoWay : Binding → Bool
  | .push | .pull => false
  | _ => true

/-- Whether a receiver fetches some of the messages. -/
def involvesPull : Binding → Bool
  | .pull | .pushPull | .pullPush => true
  | _ => false

instance : Spelled Binding where
  all := [.push, .pull, .sync, .pushPush, .pushPull, .pullPush]
  name
    | .push => "push"
    | .pull => "pull"
    | .sync => "sync"
    | .pushPush => "push_push"
    | .pushPull => "push_pull"
    | .pullPush => "pull_push"
  kind := "MEP binding"
  text := shortText
  spells binding s := binding.uri == s || Text.equalsIgnoringCase binding.shortText s

end Binding

end Ebms
