import Alerting.Json.Record
import Alerting.NagInterval

/-!
# Nag intervals as JSON

A bare word for no repeats, and an object with the number of seconds otherwise. Reading
accepts an interval of zero seconds: only settings are checked.
-/

namespace Alerting

namespace NagInterval

def toJson : NagInterval → Json
  | .never => .ofText "do_not_nag"
  | .every seconds => .record [("every", .ofUInt64 seconds)]

def ofJson? (json : Json) : Option NagInterval :=
  match Json.bareAlternative? .json json with
  | some name => if name = "do_not_nag" then some .never else none
  | none =>
    match json with
    | .object [(name, value)] =>
      if Json.literalText? name = some "every" then (Json.uint64? value).map .every else none
    | _ => none

end NagInterval

end Alerting
