import TagAudit.Proofs.Path.Display
import TagAudit.Proofs.Path.Parent

/-! What is shown for a path leads back to it from the root of the repository. -/

namespace TagAudit

open Text

namespace Path

variable {root p q : Path} {extra : List Component}

section

variable (rootAbsolute : root.isAbsolute) (below : p.components = root.components ++ extra)

include rootAbsolute below

end

end Path

end TagAudit
