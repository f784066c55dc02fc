import StudyProject.Library.LineBreak
import StudyProject.Library.Stack
import StudyProject.Widget.EmojiFlowLayout
import StudyProject.Widget.Extent
import StudyProject.Widget.Packing
import StudyProject.Widget.Gone
import StudyProject.Widget.Fewest
import StudyProject.Widget.WrapContent
import StudyProject.Widget.Append
import StudyProject.Library.Chain
import StudyProject.Library.Condition
import StudyProject.Library.Handler
import StudyProject.Library.Machine
import StudyProject.Library.Memo
import StudyProject.Library.Objects
import StudyProject.Library.Simulation
import StudyProject.Video.Cameras
import StudyProject.Video.Players
import StudyProject.Video.Protocol
import StudyProject.Video.Recording
import StudyProject.Video.Stops
import StudyProject.Video.Geometry
import StudyProject.Video.Drawing
import StudyProject.Video.FailedPress
import StudyProject.Video.Progress
import StudyProject.Video.LateTick
import StudyProject.Video.AutoStop
import StudyProject.Video.Throws
import StudyProject.Video.Steps
import StudyProject.Video.Mode
import StudyProject.Video.Screen
import StudyProject.Video.Button
import StudyProject.Video.StartTime
import StudyProject.Video.Facing
import StudyProject.Video.Leaks
import StudyProject.Video.Recorders
import StudyProject.Base.BaseTabActivity
import StudyProject.Base.Tabs
import StudyProject.Base.BaseListAdapter
import StudyProject.Base.Rows
import StudyProject.Base.ViewHolder
import StudyProject.Base.Cached
import StudyProject.Base.ItemClicks
import StudyProject.Transcode.Framebuffer
import StudyProject.Transcode.Pool
import StudyProject.Transcode.FrameThreads
import StudyProject.Transcode.Effects
import StudyProject.Transcode.Ownership
import StudyProject.Transcode.Balance
import StudyProject.Transcode.Links
import StudyProject.Transcode.Numbers
import StudyProject.Transcode.Intact
import StudyProject.Transcode.Uncloned
import StudyProject.Transcode.Faults
import StudyProject.Transcode.Waiting
import StudyProject.Transcode.Supply
import StudyProject.Transcode.Wakeups
import StudyProject.Transcode.Deadlock
