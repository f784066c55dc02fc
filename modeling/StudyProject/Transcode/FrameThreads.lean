import StudyProject.Library.Machine
import StudyProject.Transcode.Framebuffer

/-! The threads of one stream: the import loop of `decoder.c`, the workers of `frame_threads.c`, and
the export, which takes and gives back its frames in `encoder-buffer.c`.  A step of a thread goes up
to its next operation on the frames or to its next look at a condition; what happens between is the
thread's own.  A thread that waits for a condition is asleep until it is signalled, or wakes up by
itself, and looks again. -/

namespace StudyProject.Transcode

open StudyProject.Library

inductive Stream where
  | video
  | audio
deriving DecidableEq, Repr

/-- `needProcessing` is `TC_FRAME_NEED_PROCESSING`. -/
structure Config where
  stream : Stream
  needProcessing : Attributes → Bool

/-- Where a thread stands in front of a condition. -/
inductive Waiting where
  | entering
  | asleep
  | woken
deriving DecidableEq, Repr

/-- Whoever has slept looks whether transcode still runs. -/
def Waiting.interrupted (waiting : Waiting) (running : Bool) : Bool :=
  waiting = .woken && !running

def Waiting.wake : Waiting → Waiting
  | .asleep => .woken
  | waiting => waiting

inductive Importer where
  | idle
  | register (waiting : Waiting)
  | fill (ptr : Nat)
  | done
deriving DecidableEq, Repr

/-- `cloned ptr tmptr` still has to push the clone `tmptr` of `ptr`. -/
inductive Worker where
  | idle
  | reserve (waiting : Waiting)
  | preProcess (ptr : Nat)
  | dup (ptr : Nat) (waiting : Waiting)
  | cloned (ptr tmptr : Nat)
  | postProcess (ptr : Nat)
  | drop (ptr : Nat)
  | push (ptr : Nat)
  | exited
deriving DecidableEq, Repr

/-- `skip ptr` drops the frame that a filter of the export skips. -/
inductive Exporter where
  | idle
  | retrieve (waiting : Waiting)
  | skip (ptr : Nat)
  | encode (ptr : Nat)
deriving DecidableEq, Repr

inductive Thread where
  | importer
  | worker (n : Nat)
  | exporter
deriving DecidableEq, Repr

/-- What ends a run: the clone that a worker writes to is `NULL`, or a walk along the chain that
never ends. -/
inductive Fault where
  | nullPointer
  | endlessWalk
deriving DecidableEq, Repr

/-- The ids of the frames that were registered, copied, handed to the encoder, and given back to the
pool once encoded or without it. -/
structure History where
  registered : List Nat := []
  cloned : List Nat := []
  encoded : List Nat := []
  exported : List Nat := []
  dropped : List Nat := []
deriving DecidableEq, Repr

/-- The threads of a stream with their frames.  An id is an `int` in the source, so fewer than
`2^31` frames are assumed. -/
structure Pipeline where
  buffer : Framebuffer
  importer : Importer := .idle
  workers : List Worker
  exporter : Exporter := .idle
  running : Bool := true
  importActive : Bool := true
  poolRunning : Bool := true
  framecount : Nat := 0
  fault : Option Fault := none
  history : History := {}
deriving DecidableEq, Repr

/-- What a thread learns from outside: the attributes that the import or the filters leave on its
frame, whether the import fails, whether the frame is the last of a range, and which waiter is
woken by a signal. -/
structure Env where
  attributes : Attributes := {}
  failed : Bool := false
  last : Bool := false
  waiter : Nat := 0

/-- A pool of `size` frames and as many workers as asked for. -/
def start (size workers : Nat) : Pipeline :=
  { buffer := allocated size, workers := List.replicate workers .idle }

/-! ### Signals -/

def Importer.wake : Importer → Importer
  | .register waiting => .register waiting.wake
  | importer => importer

def Worker.wake : Worker → Worker
  | .reserve waiting => .reserve waiting.wake
  | .dup ptr waiting => .dup ptr waiting.wake
  | worker => worker

def Exporter.wake : Exporter → Exporter
  | .retrieve waiting => .retrieve waiting.wake
  | exporter => exporter

def Pipeline.wake (s : Pipeline) : Thread → Pipeline
  | .importer => { s with importer := s.importer.wake }
  | .worker n => { s with workers := s.workers.modify n Worker.wake }
  | .exporter => { s with exporter := s.exporter.wake }

/-- `{audio,video}_import_cond`, `_filter_cond` and `_export_cond`. -/
inductive Cond where
  | importCond
  | filterCond
  | exportCond
deriving DecidableEq, Repr

def Worker.waitsOn : Worker → Option Cond
  | .reserve .asleep => some .filterCond
  | .dup _ .asleep => some .importCond
  | _ => none

def Importer.waitsOn : Importer → Option Cond
  | .register .asleep => some .importCond
  | _ => none

def Exporter.waitsOn : Exporter → Option Cond
  | .retrieve .asleep => some .exportCond
  | _ => none

/-- The threads asleep on a condition. -/
def Pipeline.waiters (s : Pipeline) (cond : Cond) : List Thread :=
  (if s.importer.waitsOn = some cond then [.importer] else []) ++
    ((List.range s.workers.length).filter fun n =>
      s.workers[n]?.bind Worker.waitsOn = some cond).map Thread.worker ++
    if s.exporter.waitsOn = some cond then [.exporter] else []

/-- `pthread_cond_signal` wakes one of the threads asleep. -/
def Pipeline.signal (s : Pipeline) (cond : Cond) (env : Env) : Pipeline :=
  match (s.waiters cond)[env.waiter % (s.waiters cond).length]? with
  | some thread => s.wake thread
  | none => s

def Pipeline.broadcast (s : Pipeline) (cond : Cond) : Pipeline :=
  (s.waiters cond).foldl Pipeline.wake s

def tcFramebufferInterruptImport (s : Pipeline) (env : Env) : Pipeline := s.signal .importCond env

def tcFramebufferInterrupt (s : Pipeline) (env : Env) : Pipeline :=
  ((s.signal .importCond env).broadcast .filterCond).signal .exportCond env

def pushNext (s : Pipeline) (ptr : Nat) (status : TCFrameStatus) (env : Env) : Pipeline :=
  let s := { s with buffer := framePushNext s.buffer ptr status }
  if status = .wait then
    s.signal .filterCond env
  else if status = .ready ∧ s.buffer.listHead = some ptr then
    s.signal .exportCond env
  else
    s

def remove (s : Pipeline) (ptr : Nat) (env : Env) : Pipeline :=
  { s with buffer := frameRemove s.buffer ptr }.signal .importCond env

/-! ### The import -/

def setAttributes (s : Framebuffer) (ptr : Nat) (attributes : Attributes) : Framebuffer :=
  s.modify ptr ({ · with attributes })

/-- `{v,a}frame_register` in the import loop, at the condition. -/
def importRegister (s : Pipeline) (interrupted : Bool) : Pipeline :=
  if !interrupted && s.importActive && s.buffer.null = 0 then
    { s with importer := .register .asleep }
  else if interrupted then
    { s with importer := .done }
  else
    match frameRegister s.buffer s.framecount with
    | (none, buffer) => { s with buffer, importer := .done }
    | (some ptr, buffer) =>
      let registered := s.history.registered ++ [s.framecount]
      { s with buffer, importer := .fill ptr, history.registered := registered }

/-- Without workers the frames go to the export.  At its end either loop stops the import of the
audio stream. -/
def importFill (cfg : Config) (s : Pipeline) (ptr : Nat) (env : Env) : Pipeline :=
  let next := if s.workers.isEmpty then .ready else .wait
  let s := { s with buffer := setAttributes s.buffer ptr env.attributes }
  let s := pushNext s ptr next env
  if env.failed then
    { s with importer := .done, importActive := s.importActive && cfg.stream ≠ .audio }
  else
    { s with importer := .idle, framecount := s.framecount + 1 }

/-- `video_import_loop` and `audio_import_loop`. -/
def importLoop (cfg : Config) (s : Pipeline) (env : Env) : Option Pipeline :=
  match s.importer with
  | .idle =>
    some { s with importer := if s.running && s.importActive then .register .entering else .done }
  | .register .asleep => none
  | .register waiting => some (importRegister s (waiting.interrupted s.running))
  | .fill ptr => some (importFill cfg s ptr env)
  | .done => none

/-! ### The workers -/

def Pipeline.setWorker (s : Pipeline) (n : Nat) (worker : Worker) : Pipeline :=
  { s with workers := s.workers.set n worker }

/-- What a worker does with a frame that it has reserved. -/
def claim (cfg : Config) (ptr : Nat) (attributes : Attributes) : Worker :=
  if attributes.isSkipped then
    .drop ptr
  else if cfg.needProcessing attributes then
    .preProcess ptr
  else
    .push ptr

/-- The video loop looks for a skipped frame before it clones, the audio loop after it. -/
def preProcessed (cfg : Config) (ptr : Nat) (attributes : Attributes) : Worker :=
  match cfg.stream with
  | .video =>
    if attributes.isSkipped then .drop ptr
    else if attributes.isCloned then .dup ptr .entering
    else .postProcess ptr
  | .audio =>
    if attributes.isCloned then .dup ptr .entering
    else if attributes.isSkipped then .drop ptr
    else .postProcess ptr

def clonePushed (cfg : Config) (ptr : Nat) (attributes : Attributes) : Worker :=
  match cfg.stream with
  | .video => .postProcess ptr
  | .audio => if attributes.isSkipped then .drop ptr else .postProcess ptr

/-- `DUP_vptr_if_cloned` and `DUP_aptr_if_cloned`, between the copy and its push. -/
def markClone (s : Framebuffer) (ptr tmptr : Nat) : Framebuffer :=
  let s := s.modify tmptr fun f => { f with attributes.isCloned := false }
  let s := s.modify ptr fun f => { f with attributes.isCloned := false }
  s.modify tmptr fun f => { f with attributes.wasCloned := true }

def Pipeline.drops (s : Pipeline) (ptr : Nat) : Pipeline :=
  { s with history.dropped := s.history.dropped ++ [(s.buffer.frame ptr).id] }

/-- `{v,a}frame_reserve` of the worker `n`, at the condition. -/
def workerReserve (cfg : Config) (s : Pipeline) (n : Nat) (interrupted : Bool) : Pipeline :=
  if !interrupted && s.buffer.wait = 0 then
    s.setWorker n (.reserve .asleep)
  else if interrupted then
    { s with poolRunning := false }.setWorker n .exited
  else
    match frameReserve s.buffer with
    | none => { s with fault := some .endlessWalk }
    | some (none, buffer) => { s with buffer, poolRunning := false }.setWorker n .exited
    | some (some ptr, buffer) =>
      let attributes := (buffer.frame ptr).attributes
      let poolRunning := s.poolRunning && !attributes.isEndOfStream
      { s with buffer, poolRunning }.setWorker n (claim cfg ptr attributes)

/-- `{v,a}frame_dup` of the worker `n`, at the condition. -/
def workerDup (s : Pipeline) (n ptr : Nat) (interrupted : Bool) : Pipeline :=
  if !interrupted && s.buffer.null = 0 then
    s.setWorker n (.dup ptr .asleep)
  else
    match frameDup s.buffer ptr with
    | (none, buffer) => { s with buffer, fault := some .nullPointer }
    | (some tmptr, buffer) =>
      let cloned := s.history.cloned ++ [(s.buffer.frame ptr).id]
      { s with buffer := markClone buffer ptr tmptr, history.cloned := cloned }.setWorker n
        (.cloned ptr tmptr)

/-- `process_video_frame` and `process_audio_frame`, of the worker `n`. -/
def processFrame (cfg : Config) (s : Pipeline) (n : Nat) (env : Env) : Option Pipeline :=
  s.workers[n]?.bind fun
  | .idle =>
    some (s.setWorker n (if !s.running || !s.poolRunning then .exited else .reserve .entering))
  | .reserve .asleep => none
  | .reserve waiting => some (workerReserve cfg s n (waiting.interrupted s.running))
  | .preProcess ptr =>
    let s := { s with buffer := setAttributes s.buffer ptr env.attributes }
    some (s.setWorker n (preProcessed cfg ptr env.attributes))
  | .dup _ .asleep => none
  | .dup ptr waiting => some (workerDup s n ptr (waiting.interrupted s.running))
  | .cloned ptr tmptr =>
    let s := pushNext s tmptr .wait env
    some (s.setWorker n (clonePushed cfg ptr (s.buffer.frame ptr).attributes))
  | .postProcess ptr =>
    let s := { s with buffer := setAttributes s.buffer ptr env.attributes }
    some (s.setWorker n (if env.attributes.isSkipped then .drop ptr else .push ptr))
  | .drop ptr => some ((remove (s.drops ptr) ptr env).setWorker n .idle)
  | .push ptr => some ((pushNext s ptr .ready env).setWorker n .idle)
  | .exited => none

/-! ### The export -/

/-- A frame that is to be encoded again. -/
def Attributes.again (attributes : Attributes) : Attributes :=
  { attributes with isCloned := false, wasCloned := true }

/-- `encoder_acquire_vframe` and `encoder_acquire_aframe`, with the frame at the head.  The video
export drops a skipped frame even where it is cloned, the audio export takes it again. -/
def acquire (cfg : Config) (s : Pipeline) (ptr : Nat) (env : Env) : Pipeline :=
  let old := (s.buffer.frame ptr).attributes
  let attributes := if cfg.needProcessing old then env.attributes else old
  let mark (attributes : Attributes) : Pipeline :=
    { s with buffer := setAttributes s.buffer ptr attributes }
  if !attributes.isSkipped then
    let encoded := s.history.encoded ++ [(s.buffer.frame ptr).id]
    { mark attributes with exporter := .encode ptr, history.encoded := encoded }
  else if !attributes.isCloned then
    { mark attributes with exporter := .skip ptr }
  else
    match cfg.stream with
    | .video => { mark attributes.again with exporter := .skip ptr }
    | .audio => { mark attributes.again with exporter := .retrieve .entering }

/-- `encoder_dispose_vframe` and `encoder_dispose_aframe`. -/
def dispose (s : Pipeline) (ptr : Nat) (env : Env) : Pipeline :=
  if !env.attributes.isCloned then
    let exported := s.history.exported ++ [(s.buffer.frame ptr).id]
    let buffer := setAttributes s.buffer ptr env.attributes
    let s := { s with buffer, history.exported := exported }
    { remove s ptr env with exporter := .idle }
  else
    let buffer := setAttributes s.buffer ptr env.attributes.again
    { s with buffer, exporter := .idle }

/-- `{v,a}frame_retrieve` of the export, at the condition. -/
def encoderRetrieve (cfg : Config) (s : Pipeline) (interrupted : Bool) (env : Env) : Pipeline :=
  if interrupted then
    { s with exporter := .idle }
  else
    match frameRetrieveNowait s.buffer with
    | none => { s with exporter := .retrieve .asleep }
    | some ptr => acquire cfg s ptr env

/-- The frames of `tc_encoder_loop`, which leaves the last frame of a range in the chain. -/
def encoderLoop (cfg : Config) (s : Pipeline) (env : Env) : Option Pipeline :=
  match s.exporter with
  | .idle => some { s with exporter := .retrieve .entering }
  | .retrieve .asleep => none
  | .retrieve waiting => some (encoderRetrieve cfg s (waiting.interrupted s.running) env)
  | .skip ptr => some { remove (s.drops ptr) ptr env with exporter := .retrieve .entering }
  | .encode ptr => some (if env.last then { s with exporter := .idle } else dispose s ptr env)

/-! ### The machine -/

inductive Event where
  | run (thread : Thread) (env : Env)
  /-- A thread wakes up without a signal. -/
  | wakeup (thread : Thread)
  /-- `tc_stop` or `tc_interrupt`. -/
  | stop
  | interrupt (env : Env)
  /-- `tc_import_thread_stop`. -/
  | importStop
  | interruptImport (env : Env)
  /-- `tc_frame_threads_stop`. -/
  | poolStop

def step (cfg : Config) (s : Pipeline) (e : Event) : Option Pipeline :=
  if s.fault.isSome then
    none
  else
    match e with
    | .run .importer env => importLoop cfg s env
    | .run (.worker n) env => processFrame cfg s n env
    | .run .exporter env => encoderLoop cfg s env
    | .wakeup thread => some (s.wake thread)
    | .stop => some { s with running := false }
    | .interrupt env => some (tcFramebufferInterrupt s env)
    | .importStop => some { s with importActive := false }
    | .interruptImport env => some (tcFramebufferInterruptImport s env)
    | .poolStop => some { s with poolRunning := false }

end StudyProject.Transcode
