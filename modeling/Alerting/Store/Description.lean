import Alerting.Store

/-!
# The one-line description of a store

Its settings and its sizes, for logs.
-/

namespace Alerting

namespace NagInterval

def describe : NagInterval → String
  | .never => "DoNotNag"
  | .every seconds => s!"Every({seconds})"

end NagInterval

namespace StoreConfig

def describe (config : StoreConfig) : String :=
  "StoreConfig \x7b nag_interval: " ++ config.nagInterval.describe ++ ", preserve_identity: " ++
    toString config.preservesIdentity ++ " \x7d"

end StoreConfig

namespace Store

def describe (store : Store) : String :=
  "StateStore \x7b config: " ++ store.config.describe ++ ", entities: " ++
    toString store.size ++ ", raised_this_run: " ++ toString store.decidedCount ++ " \x7d"

end Store

end Alerting
