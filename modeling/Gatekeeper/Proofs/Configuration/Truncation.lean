import Gatekeeper.Proofs.Configuration.Document
import Gatekeeper.Proofs.Json.Padding
import Gatekeeper.Proofs.Json.Truncation

/-!
# Configurations that break off or go on

A text with an object in it configures nothing any more once it is cut before the bracket that
closes the object, nor once anything but spaces is put behind it. Nothing is said here of what the
object holds: it may configure a gate, or lack a number that can be used.

`exists_members` finds the object: a text that is neither malformed nor turned away as no object
holds one. `read_object_cut` finds the bracket that closes it and cuts before that. What is put
behind it is the same text as far as the object goes, for which the lemmas on what stands behind an
object are used (`ofText_congr` for white space).
-/

namespace Gatekeeper.Configuration
open Json

end Gatekeeper.Configuration
