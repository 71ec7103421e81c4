import Alerting.Alert

/-!
# Group keys

Alerts that share a group key are notified together. The key keeps the names of the
grouping tags in strictly ascending order and, at the same places, the values that the
alert has for them; a tag that the alert lacks differs from every value.
-/

namespace Alerting

/-- What alerts are batched by. -/
structure GroupKey where
  namespaceName : String
  alertId : AlertId
  kind : AlertKind
  /-- The names of the grouping tags. -/
  keys : List String
  /-- The alert's values for them. -/
  values : List (Option String)
  deriving DecidableEq

/-- The distinct members of a list, in ascending order. -/
def sortedDistinct (names : List String) : List String :=
  (SortedMap.ofList (names.map fun name => (name, ()))).keys

namespace GroupKey

/-- The key of an alert under grouping by the named tags. -/
def ofAlert (alert : Alert) (tagNames : List String) : GroupKey :=
  let keys := sortedDistinct tagNames
  { namespaceName := alert.namespaceName
    alertId := alert.alertId
    kind := alert.kind
    keys
    values := keys.map alert.tags.get? }

/-- The key of an alert that no grouping applies to. -/
def ungrouped (alert : Alert) : GroupKey := ofAlert alert []

def isUngrouped (key : GroupKey) : Bool := key.keys.isEmpty

/-- One grouping tag as it is shown. -/
def displayTag (name : String) : Option String → String
  | some value => name ++ "=" ++ value
  | none => name ++ "=<none>"

/-- The form in which a key is shown to people. -/
def display (key : GroupKey) : String :=
  key.namespaceName ++ "/" ++ toString key.alertId ++ "/" ++ key.kind.name ++ "[" ++
    String.intercalate "," (List.zipWith displayTag key.keys key.values) ++ "]"

/-- Field by field, in the order of the fields; an absent value comes before every other. -/
def order (first second : GroupKey) : Ordering :=
  compare first.namespaceName second.namespaceName
    |>.then (compare first.alertId second.alertId)
    |>.then (compare first.kind second.kind)
    |>.then (compare first.keys second.keys)
    |>.then (compare first.values second.values)

end GroupKey

end Alerting
