import StudyProject.Video.Session

/-! The start time of a press.  `time` is read by `recordStop` alone, to see whether a second has
passed, and each press that is not ignored sets it anew.  So two worlds that differ in nothing else
stay as close through all events, if a stop comes within the second for both or for neither, and are
the same from the next press on. -/

namespace StudyProject.Video

open StudyProject.Library StudyProject.Library.Handler

variable {s t : World} {i : Input} {env : Env} {time : Int}

/-- The world with another `time`. -/
def World.retimed (time : Int) (s : World) : World := { s with time }

end StudyProject.Video
