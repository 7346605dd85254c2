import TagAudit.Disk.Access
import TagAudit.Issue
import TagAudit.Log.Event
import TagAudit.Target.Basic

/-! Reading targets, and what is reported when one cannot be read or written. -/

namespace TagAudit.Target

def read (disk : Disk) (target : Target) : Except FileError String :=
  disk.readText target.path

def readRule : String := "read-file"

def unreadable (target : Target) (e : FileError) : Issue :=
  .ofFile .warning readRule target.display s!"Could not read file: {e.message}"

def unwritable (target : Target) (e : FileError) : Issue :=
  .ofFile .warning readRule target.display s!"Could not write fixes: {e.message}"

def unreadableEvent (area : Log.Area) (target : Target) (e : FileError) : Log.Event :=
  ⟨.warn, area, "skipping unreadable file", [("file", target.display), ("error", e.message)]⟩

end TagAudit.Target
