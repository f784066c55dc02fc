import StudyProject.Library.Objects

/-! `framebuffer.c`: the frames of one stream, in a pool from which they are taken and in a chain in
which they go from the import to the export, and the operations on both under the stream's lock. -/

namespace StudyProject.Transcode

inductive TCFrameStatus where
  | null
  | empty
  | wait
  | locked
  | ready
deriving DecidableEq, Repr

/-- The bits of a frame's `attributes`. -/
structure Attributes where
  isOutOfRange : Bool := false
  isCloned : Bool := false
  wasCloned : Bool := false
  isSkipped : Bool := false
  isEndOfStream : Bool := false
deriving DecidableEq, Repr

/-- `frame_list_t`.  A frame is named by its place in the ring. -/
structure Frame where
  id : Nat := 0
  status : TCFrameStatus := .null
  attributes : Attributes := {}
  next : Option Nat := none
  prev : Option Nat := none
deriving DecidableEq, Repr

/-- `next` is the place where the search for a free frame starts, `last` the number of frames.  The
counters, `int` in the source, are integers here: `wait` and `locked` drift apart by one with each
clone, so fewer than `2^31` clones are assumed. -/
structure TCRingFrameBuffer where
  next : Nat
  last : Nat
  null : Int
  empty : Int
  wait : Int
  locked : Int
  ready : Int
deriving DecidableEq, Repr

/-- The ring of one stream with its frames, and both ends of the chain. -/
structure Framebuffer extends TCRingFrameBuffer where
  frames : List Frame
  listHead : Option Nat := none
  listTail : Option Nat := none
deriving DecidableEq, Repr

namespace Framebuffer

def frame (s : Framebuffer) (p : Nat) : Frame := s.frames[p]?.getD {}

def status (s : Framebuffer) (p : Nat) : TCFrameStatus := (s.frame p).status

def modify (s : Framebuffer) (p : Nat) (f : Frame → Frame) : Framebuffer :=
  { s with frames := s.frames.modify p f }

def setNext (s : Framebuffer) (p : Nat) (next : Option Nat) : Framebuffer :=
  s.modify p ({ · with next })

def setPrev (s : Framebuffer) (p : Nat) (prev : Option Nat) : Framebuffer :=
  s.modify p ({ · with prev })

end Framebuffer

open Framebuffer

/-! ### The pool -/

/-- At least one frame is allocated. -/
def allocated (size : Nat) : Framebuffer :=
  let size := if 0 < size then size else 1
  { next := 0
    last := size
    null := size
    empty := 0
    wait := 0
    locked := 0
    ready := 0
    frames := List.replicate size {} }

def tcInitRingFramebuffer (size : Int) : Option Framebuffer :=
  if size < 0 then none else some (allocated size.toNat)

/-- At most so many turns of the loop over the ring, from its place `next` on. -/
def seekFrame : Nat → Framebuffer → Framebuffer
  | 0, s => s
  | n + 1, s =>
    if s.status s.next = .null then
      s
    else
      seekFrame n { s with next := (s.next + 1) % s.last }

def tcRingFramebufferRetrieveFrame (s : Framebuffer) : Option Nat × Framebuffer :=
  let s := seekFrame s.last s
  if s.status s.next ≠ .null then
    (none, s)
  else
    (some s.next, { s with null := s.null - 1, next := (s.next + 1) % s.last })

def tcRingFramebufferReleaseFrame (s : Framebuffer) (frame : Nat) : Framebuffer :=
  let s := s.modify frame ({ · with status := .null })
  { s with null := s.null + 1 }

def tcRingFramebufferRegisterFrame (s : Framebuffer) (id : Nat) (status : TCFrameStatus) :
    Option Nat × Framebuffer :=
  match tcRingFramebufferRetrieveFrame s with
  | (none, s) => (none, s)
  | (some p, s) =>
    let s :=
      match status with
      | .empty => { s with empty := s.empty + 1 }.modify p fun _ => { id }
      | .wait => { s with wait := s.wait + 1 }
      | _ => s
    (some p, s.modify p ({ · with status, next := none, prev := none }))

def tcRingFramebufferRemoveFrame (s : Framebuffer) (frame : Nat) : Framebuffer :=
  let s := if s.status frame = .ready then { s with ready := s.ready - 1 } else s
  let s := if s.status frame = .locked then { s with locked := s.locked - 1 } else s
  tcRingFramebufferReleaseFrame s frame

/-! ### The chain -/

def listFrameAppend (s : Framebuffer) (ptr : Nat) : Framebuffer :=
  let s :=
    match s.listTail with
    | some tail => (s.setNext tail (some ptr)).setPrev ptr (some tail)
    | none => s
  { s with listTail := some ptr }

def listFrameInsert (s : Framebuffer) (ptr : Nat) : Framebuffer :=
  match s.listHead with
  | none => { s with listHead := some ptr }
  | some _ => s

/-- The frame after `ptr` keeps its link to `f`. -/
def listFrameLink (s : Framebuffer) (ptr f : Nat) : Framebuffer :=
  let s := s.setNext ptr (s.frame f).next
  let s := s.setNext f (some ptr)
  let s := s.setPrev ptr (some f)
  if (s.frame ptr).next = none then { s with listTail := some ptr } else s

/-- What comes before `ptr` refers to what comes after it. -/
def unlinkNext (s : Framebuffer) (ptr : Nat) : Framebuffer :=
  match (s.frame ptr).prev with
  | some prev => s.setNext prev (s.frame ptr).next
  | none => s

/-- What comes after `ptr` refers to what comes before it. -/
def unlinkPrev (s : Framebuffer) (ptr : Nat) : Framebuffer :=
  match (s.frame ptr).next with
  | some next => s.setPrev next (s.frame ptr).prev
  | none => s

def unlinkTail (s : Framebuffer) (ptr : Nat) : Framebuffer :=
  if some ptr = s.listTail then { s with listTail := (s.frame ptr).prev } else s

def unlinkHead (s : Framebuffer) (ptr : Nat) : Framebuffer :=
  if some ptr = s.listHead then { s with listHead := (s.frame ptr).next } else s

def listFrameRemove (s : Framebuffer) (ptr : Nat) : Framebuffer :=
  unlinkHead (unlinkTail (unlinkPrev (unlinkNext s ptr) ptr) ptr) ptr

/-! ### The statuses -/

def decCounters (rfb : TCRingFrameBuffer) : TCFrameStatus → TCRingFrameBuffer
  | .ready => { rfb with ready := rfb.ready - 1 }
  | .locked => { rfb with locked := rfb.locked - 1 }
  | .wait => { rfb with wait := rfb.wait - 1 }
  | _ => rfb

def incCounters (rfb : TCRingFrameBuffer) : TCFrameStatus → TCRingFrameBuffer
  | .ready => { rfb with ready := rfb.ready + 1 }
  | .locked => { rfb with locked := rfb.locked + 1 }
  | .wait => { rfb with wait := rfb.wait + 1 }
  | _ => rfb

def frameSetStatus (s : Framebuffer) (ptr : Nat) (newStatus : TCFrameStatus) : Framebuffer :=
  let s := { s with toTCRingFrameBuffer := decCounters s.toTCRingFrameBuffer (s.status ptr) }
  let s := s.modify ptr ({ · with status := newStatus })
  { s with toTCRingFrameBuffer := incCounters s.toTCRingFrameBuffer newStatus }

def frameSetExtStatus (s : Framebuffer) (ptr : Nat) (newStatus : TCFrameStatus) : Framebuffer :=
  let s := if s.status ptr = .empty then { s with empty := s.empty - 1 } else s
  let s := frameSetStatus s ptr newStatus
  if newStatus = .empty then { s with empty := s.empty + 1 } else s

/-- The first frame of that status from `ptr` on, with its new one.  `none` where no such frame is
among that many. -/
def frameLookup (s : Framebuffer) (oldStatus newStatus : TCFrameStatus) :
    Nat → Option Nat → Option (Option Nat × Framebuffer)
  | _, none => some (none, s)
  | 0, some _ => none
  | n + 1, some ptr =>
    if s.status ptr = oldStatus then
      some (some ptr, frameSetStatus s ptr newStatus)
    else
      frameLookup s oldStatus newStatus n (s.frame ptr).next

/-! ### The operations under the lock

Each is what `aframe_*` and `vframe_*` do once they need not wait any longer. -/

def frameRegister (s : Framebuffer) (id : Nat) : Option Nat × Framebuffer :=
  match tcRingFramebufferRegisterFrame s id .empty with
  | (none, s) => (none, s)
  | (some frame, s) => (some frame, listFrameInsert (listFrameAppend s frame) frame)

/-- `aframe_copy` and `vframe_copy`, but for the data. -/
def frameCopy (s : Framebuffer) (dst src : Nat) : Framebuffer := s.modify dst fun _ => s.frame src

def frameDup (s : Framebuffer) (f : Nat) : Option Nat × Framebuffer :=
  match tcRingFramebufferRegisterFrame s 0 .wait with
  | (none, s) => (none, s)
  | (some frame, s) => (some frame, listFrameLink (frameCopy s frame f) frame f)

def frameRemove (s : Framebuffer) (ptr : Nat) : Framebuffer :=
  tcRingFramebufferRemoveFrame (listFrameRemove s ptr) ptr

def framePushNext (s : Framebuffer) (ptr : Nat) (status : TCFrameStatus) : Framebuffer :=
  frameSetExtStatus s ptr status

/-- The head of the chain is there and ready. -/
def headReady (s : Framebuffer) : Bool :=
  s.listHead.any fun head => s.status head = .ready

def frameRetrieveNowait (s : Framebuffer) : Option Nat :=
  if headReady s then s.listHead else none

/-- A walk over more frames than there are never ends. -/
def frameReserve (s : Framebuffer) : Option (Option Nat × Framebuffer) :=
  frameLookup s .wait .locked s.frames.length s.listHead

/-- At most so many turns of the loop of `aframe_flush` and `vframe_flush`. -/
def flushFrames : Nat → Framebuffer → Framebuffer
  | 0, s => s
  | n + 1, s =>
    match frameRetrieveNowait s with
    | none => s
    | some ptr => flushFrames n (frameRemove s ptr)

/-- Each turn frees a frame. -/
def frameFlush (s : Framebuffer) : Framebuffer := flushFrames s.frames.length s

def frameHaveMore (s : Framebuffer) : Bool := s.listTail.isSome

/-- The frames of the import, the filters and the export. -/
def frameGetCounters (s : Framebuffer) : Int × Int × Int :=
  (s.null + s.empty, s.wait + s.locked, s.ready)

end StudyProject.Transcode
