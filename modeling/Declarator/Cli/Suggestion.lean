import Declarator.Cli.Options
import Declarator.Text.Similarity

/-!
# Flags that may have been meant

- `Cli.similar?` : the flag whose name is closest to a name that no flag has.
-/

namespace Declarator.Cli

/-- The closer of two flags to a name; if both are equally close, the second. -/
def closer (name : Text) (a b : Flag) : Flag :=
  if (name.likeness a.name).atMost (name.likeness b.name) then b else a

/-- The flag whose name is closest to a name, if any is close to it. -/
def similar? (name : Text) : Option Flag :=
  match Flag.all.filter fun flag => (name.likeness flag.name).isClose with
  | [] => none
  | flag :: flags => some (flags.foldl (closer name) flag)

end Declarator.Cli
