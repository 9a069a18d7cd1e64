import WorkflowAtlas.Settings.Basic
import WorkflowAtlas.Glob

/-!
# Excluded files

The globs of the settings, read once: a file whose path below the root matches one of them is left out.
-/

namespace WorkflowAtlas

/-- **The exclude globs**, if all of them can be read. -/
def ScanLimits.globs? (limits : ScanLimits) : Option (List Glob) :=
  limits.exclude.mapM fun text => (Glob.parse text).toOption

/-- Whether one of some globs matches a path. -/
def Glob.anyMatch (globs : List Glob) (path : String) : Bool :=
  globs.any (·.isMatch path)

end WorkflowAtlas
