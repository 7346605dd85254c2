import TagAudit.Proofs.Target.Relative
import TagAudit.Proofs.Wildcard.Escaping

/-! Files that are given by their own paths.  A path is read as a pattern first, and kept as it is
only when it holds no character of a pattern. -/

namespace TagAudit

open Text Resolution

namespace Path

def way (p : Path) : List Component :=
  p.components.filter (· ≠ .current)

end Path

namespace Disk

open Target

variable {disk : Disk} {path child : Path}

end Disk

namespace Target

open Wildcard

variable {disk : Disk} {pattern child root : Path} {given : String}

def Holds (targets : List Target) (file : Path) : Prop :=
  ∃ target ∈ targets, target.path.way = file.way

end Target

/-! A file is found at the end of its own path. -/

namespace Path

variable {p : Path} {texts : List (List Char)}

end Path

namespace Target

variable {disk : Disk} {file : Path}

variable {root : Path} {given : String}

end Target

end TagAudit
