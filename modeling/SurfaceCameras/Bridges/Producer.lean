import SurfaceCameras.Bridges.Runtime

/-!
# The front and rear bridges

`surface-psys-bridge` and `surface-rear-bridge` serve a camera on demand: while
a client has the loopback open, a child process, the producer, writes frames
into a pipe and the bridge relays them.  The two programs share their shape;
where they differ, the definitions below ask which bridge it is.

The marks of a run record the moments its properties speak about: the spawn of
a producer, the unloading of the sensor driver, the top and the end of each
iteration of the relay loop, and the retry of a failed attempt.
-/

namespace SurfaceCameras
namespace Bridges
namespace Producer

inductive Bridge where
  | psys
  | rear
  deriving DecidableEq, Repr

/-- `FIRST_FRAME_TIMEOUT`. -/
def Bridge.firstFrameTimeout : Bridge → ℚ
  | .psys => 10
  | .rear => 20

/-- `CLIENT_GRACE`. -/
def Bridge.clientGrace : Bridge → ℚ
  | .psys => 2
  | .rear => 3

def maxAttempts : ℕ := 3

/-- `STOP_BUDGET`. -/
def stopBudget : ℚ≥0 := 20

def maxRestartsPerMin : ℕ := 5

/-- `W`, `H` and `FPS`. -/
def width : ℕ := 1280
def height : ℕ := 720
def fps : ℕ := 30

def frameSize : ℕ := width * height * 2

/-- Black in YUY2. -/
def blackFrame : List (BitVec 8) :=
  (List.replicate (width * height) [16, 128]).flatten

/-! ## Processes and devices -/

/-- Another process as `/proc` shows it. -/
structure Process where
  pid : ℕ
  argv : List String

/-- `os.path.basename`. -/
def basename (path : String) : String := (path.splitOn "/").getLastD ""

/-- The process drives the camera of the bridge. -/
def Bridge.isProducer : Bridge → Process → Bool
  | .psys, p =>
      (basename (p.argv.headD "")).startsWith "gst-launch" &&
        p.argv.tail.any (·.startsWith "icamerasrc")
  | .rear, p =>
      let exe := basename (p.argv.headD "")
      (exe.startsWith "gst-launch" &&
        p.argv.tail.any (·.startsWith "libcamerasrc")) ||
        exe == "v4l2-relayd"

/-- What happens outside a bridge: producers that exit, whether the pipe is
readable and what a read returns, the other processes, and whether a device
node exists. -/
structure Happening where
  exits : List ℕ := []
  readable : Bool := false
  chunk : List (BitVec 8) := []
  processes : List Process := []
  present : Bool := true

/-- The children of a bridge, its `CURRENT_PROC`, and what it has written to
the loopback, latest first.  A child is named by its number. -/
structure Plant where
  spawned : ℕ
  alive : List ℕ
  currentProc : Option ℕ
  loopback : List (List (BitVec 8))

inductive Mark where
  | spawn (alive : List ℕ)
  | unload (alive : List ℕ)
  | top (newest : Option (BitVec 32)) (goneSince : Option Instant)
  | checked (newest : Option (BitVec 32)) (goneSince : Option Instant)
      (now : Instant)
  | retry (newest : Option (BitVec 32))
  deriving DecidableEq

instance : Surroundings Happening Plant Mark where
  act h d := { d with alive := d.alive.filter (· ∉ h.exits) }
  raised _ := []

inductive Reason where
  | producerExited
  | loopbackWriteFailed
  | allClientsGone
  deriving DecidableEq, Repr

/-- `SessionOver`, with the local `gone_since` that its handler reads. -/
structure SessionOver where
  reason : Reason
  goneSince : Option Instant
  deriving DecidableEq

abbrev State : Type := World Happening Plant Mark

abbrev BridgeM (α : Type) : Type :=
  Daemon Happening Plant Mark SessionOver α

def mark (x : State → Mark) : BridgeM Unit :=
  Prog.modify fun w => w.mark (x w)

/-- `proc.poll() is not None`: the child has exited. -/
def exited (proc : ℕ) : BridgeM Bool :=
  atMoment fun _ => Prog.gets fun w => decide (proc ∉ w.dev.alive)

/-- `proc.send_signal(SIGINT)`: only a process that is gone cannot be found. -/
def sendSigint (proc : ℕ) : BridgeM Unit :=
  tryCall
    (fun e => do
      let alive ← Prog.gets fun w : State => decide (proc ∈ w.dev.alive)
      if alive = false ∧ e = .processLookup then
        raiseMarked (.osError .processLookup)
      else
        raiseMarked (.osError .other))
    fun _ => pure ()

def writeLoopback (frame : List (BitVec 8)) : BridgeM Unit :=
  Prog.modify fun w =>
    { w with dev := { w.dev with loopback := frame :: w.dev.loopback } }

/-- `subprocess.Popen(GST_CMD)`. -/
def State.spawn (w : State) : State :=
  { w with
    dev :=
      { w.dev with
        spawned := w.dev.spawned + 1
        alive := w.dev.spawned :: w.dev.alive } }

def popen : BridgeM ℕ :=
  syscall fun _ => do
    let proc ← Prog.gets fun w : State => w.dev.spawned
    mark fun w => .spawn w.dev.alive
    Prog.modify State.spawn
    pure proc

/-- `CURRENT_PROC[0] = proc`. -/
def setCurrentProc (proc : ℕ) : BridgeM Unit :=
  atMoment fun _ => Prog.modify fun w =>
    { w with dev := { w.dev with currentProc := some proc } }

/-- `recycle_sensor`. -/
def recycleSensor : BridgeM Unit := do
  log
  syscall fun _ => mark fun w => .unload w.dev.alive
  syscall fun _ => pure ()
  sleep 1

/-- `other_icamerasrc_running` and `other_rear_producer`. -/
def otherProducers (b : Bridge) : BridgeM (List ℕ) :=
  syscall fun m =>
    pure ((m.outside.processes.filter b.isProducer).map Process.pid)

/-! ## Stopping a producer -/

/-- The end of an iteration of the loop in `stop_gst`. -/
def waitMore (nextInt : ℚ) : BridgeM (ℚ ⊕ Bool) := do
  sleep (1 / 5)
  pure (.inl nextInt)

/-- A repeated `SIGINT`: the result is whether the child turned out to be
gone. -/
def sigintAgain (proc : ℕ) : BridgeM Bool :=
  Prog.tryCatch
    (do
      sendSigint proc
      pure false)
    fun e =>
      match e with
      | .osError .processLookup => pure true
      | e => Prog.raise e

/-- The body of the loop in `stop_gst`, once the deadline has not passed. -/
def stopStep (proc : ℕ) (nextInt : ℚ) : BridgeM (ℚ ⊕ Bool) := do
  let gone ← exited proc
  if gone then
    pure (.inr true)
  else do
    let now ← monotonic
    if nextInt ≤ now then do
      let lost ← sigintAgain proc
      if lost then
        pure (.inr true)
      else do
        let t ← monotonic
        waitMore (t + 4)
    else
      waitMore nextInt

/-- `stop_gst`: true once the child is gone. -/
def stopGst (proc : ℕ) : BridgeM Bool := do
  let gone ← exited proc
  if gone then
    pure true
  else do
    let t ← monotonic
    sendSigint proc
    let t' ← monotonic
    whileTrue
      (fun nextInt => do
        let now ← monotonic
        if (now : ℚ) < t + stopBudget then
          stopStep proc nextInt
        else do
          let gone ← exited proc
          pure (.inr gone))
      ((t' : ℚ) + 4)

/-! ## The relay loop -/

/-- The local variables of the relay loop, other than `gone_since`. -/
structure Relay where
  buf : List (BitVec 8)
  firstFrame : Option Instant
  nextSplash : ℚ

def Relay.start : Relay := ⟨[], none, 0⟩

/-- Keep a client that waits for the first frame fed with black frames. -/
def splash (now : Instant) (l : Relay) : BridgeM Relay :=
  if l.firstFrame.isNone ∧ l.nextSplash ≤ now then do
    tryCall (fun _ => pure ()) fun _ => writeLoopback blackFrame
    pure { l with nextSplash := now + 1 / fps }
  else
    pure l

/-- `os.read(pipe, 1 << 20)`, where nothing to read is an empty chunk. -/
def readChunk : BridgeM (List (BitVec 8)) :=
  tryCall
    (fun e =>
      if e = .blockingIo then pure [] else raiseMarked (.osError e))
    fun m => pure (m.outside.chunk.take (2 ^ 20))

def noteFirstFrame (l : Relay) : BridgeM Relay :=
  if l.firstFrame.isNone then do
    let t ← monotonic
    log
    pure { l with firstFrame := some t }
  else
    pure l

/-- Write the next whole frame of the buffer to the loopback. -/
def relayFrame (goneSince : Option Instant) (l : Relay) :
    BridgeM (Relay ⊕ Relay) :=
  if frameSize ≤ l.buf.length then do
    let l' ← noteFirstFrame { l with buf := l.buf.drop frameSize }
    tryCall
      (fun _ => Prog.raise (.own ⟨.loopbackWriteFailed, goneSince⟩))
      fun _ => writeLoopback (l.buf.take frameSize)
    pure (.inl l')
  else
    pure (.inr l)

/-- `chunk == b"" and proc.poll() is not None`. -/
def pipeEnded (proc : ℕ) (chunk : List (BitVec 8)) : BridgeM Bool :=
  if chunk = [] then exited proc else pure false

/-- What a read of the pipe leads to; without a result the loop is left. -/
def relayChunk (proc : ℕ) (goneSince : Option Instant) (l : Relay)
    (chunk : List (BitVec 8)) : BridgeM (Option Relay) := do
  let ended ← pipeEnded proc chunk
  if ended then
    if l.firstFrame.isNone then do
      log
      pure none
    else
      Prog.raise (.own ⟨.producerExited, goneSince⟩)
  else do
    let l ← whileTrue (relayFrame goneSince) { l with buf := l.buf ++ chunk }
    pure (some l)

def relayPipe (proc : ℕ) (goneSince : Option Instant) (l : Relay) :
    BridgeM (Option Relay) := do
  let readable ← syscall fun m => pure m.outside.readable
  if readable then do
    let chunk ← readChunk
    relayChunk proc goneSince l chunk
  else
    pure (some l)

/-- `None if count else time.monotonic()`. -/
def goneSinceOf (count : BitVec 32) : BridgeM (Option Instant) :=
  if count ≠ 0 then
    pure none
  else do
    let t ← monotonic
    pure (some t)

/-- What a new client count does to `gone_since`; the front bridge logs it
afterwards, and only when debugging. -/
def noteCount (b : Bridge) (debug : Bool) (goneSince : Option Instant) :
    Option (BitVec 32) → BridgeM (Option Instant)
  | none => pure goneSince
  | some count => do
      Prog.when (b = .rear) log
      let goneSince ← goneSinceOf count
      Prog.when (b = .psys ∧ debug = true) log
      pure goneSince

/-- End the session once every client has been gone for the grace period. -/
def checkGrace (b : Bridge) : Option Instant → BridgeM Unit
  | none => pure ()
  | some t => do
      let now ← monotonic
      Prog.when (b.clientGrace < now - t)
        (Prog.raise (.own ⟨.allClientsGone, some t⟩))

/-- The rest of an iteration of the relay loop, after the pipe. -/
def pollClients (b : Bridge) (debug : Bool) (goneSince : Option Instant) :
    BridgeM (Option Instant) := do
  let count ← pollClientCount
  let goneSince ← noteCount b debug goneSince count
  checkGrace b goneSince
  mark fun w => .checked w.newest goneSince w.now
  pure goneSince

/-- One iteration of the relay loop. -/
def relayStep (b : Bridge) (debug : Bool) (proc : ℕ) (spawnT : Instant) :
    Relay × Option Instant → BridgeM (Relay × Option Instant ⊕ Unit)
  | (l, goneSince) => do
      mark fun w => .top w.newest goneSince
      let now ← monotonic
      if l.firstFrame.isNone ∧ b.firstFrameTimeout < now - spawnT then do
        log
        pure (.inr ())
      else do
        let l ← splash now l
        let r ← relayPipe proc goneSince l
        match r with
        | none => pure (.inr ())
        | some l => do
            let goneSince ← pollClients b debug goneSince
            pure (.inl (l, goneSince))

/-- The relay loop with its `except SessionOver`. -/
def relay (b : Bridge) (debug : Bool) (proc : ℕ) (spawnT : Instant) :
    BridgeM (Option SessionOver) :=
  Prog.tryCatch
    (do
      whileTrue (relayStep b debug proc spawnT) (Relay.start, none)
      pure none)
    fun e =>
      match e with
      | .own so => pure (some so)
      | e => Prog.raise e

/-! ## Sessions -/

/-- The handler of `SessionOver`: the result of `run_session`. -/
def endSession (b : Bridge) (proc : ℕ) (so : SessionOver) :
    BridgeM Bool := do
  Prog.when (b = .rear) (do let _ ← monotonic)
  log
  let stopped ← stopGst proc
  if stopped then
    if so.reason = .producerExited ∧ so.goneSince = none then do
      Prog.when (b = .rear) log
      sleep 1
      pure true
    else
      pure false
  else do
    log
    Prog.raise .systemExit

/-- What stands between two attempts. -/
def beforeRetry : Bridge → BridgeM Unit
  | .psys => recycleSensor
  | .rear => sleep 1

/-- A start that delivered no frame. -/
def failedStart (b : Bridge) (proc : ℕ) (attempt : ℕ) : BridgeM Unit := do
  let stopped ← stopGst proc
  if stopped then
    Prog.when (attempt < maxAttempts) (do
      beforeRetry b
      mark fun w => .retry w.newest)
  else do
    log
    Prog.raise .systemExit

/-- One attempt; without a result the next one follows. -/
def runAttempt (b : Bridge) (debug : Bool) (attempt : ℕ) :
    BridgeM (Option Bool) := do
  log
  let proc ← popen
  setCurrentProc proc
  syscall fun _ => pure ()
  tryCall (fun _ => pure ()) fun _ => pure ()
  let spawnT ← monotonic
  let so ← relay b debug proc spawnT
  match so with
  | some so => do
      let again ← endSession b proc so
      pure (some again)
  | none => do
      failedStart b proc attempt
      pure none

/-- The attempts of a session, with the number of those still to come. -/
def runAttempts (b : Bridge) (debug : Bool) : ℕ → BridgeM Bool
  | 0 => do
      log
      sleep 2
      pure false
  | left + 1 => do
      let r ← runAttempt b debug (maxAttempts - left)
      match r with
      | some again => pure again
      | none => runAttempts b debug left

/-- `run_session`: true if a client still waits. -/
def runSession (b : Bridge) (debug : Bool) : BridgeM Bool := do
  let others ← otherProducers b
  if others ≠ [] then do
    log
    sleep 5
    let count ← pollClientCount
    pure (count.all (0 < ·))
  else
    runAttempts b debug maxAttempts

/-! ## The daemon -/

/-- The sessions of one demand, in the front bridge. -/
def frontDemand (debug : Bool) : BridgeM Unit :=
  whileTrue
    (fun _ : Unit => do
      let again ← runSession .psys debug
      if again then do
        let _ ← monotonic
        pure (.inl ())
      else
        pure (.inr ()))
    ()

/-- A restart of the rear bridge, with the instants of the last minute's
restarts. -/
def restartStep (debug : Bool) (restarts : List Instant) :
    BridgeM (List Instant ⊕ Unit) := do
  let again ← runSession .rear debug
  if again then do
    let now ← monotonic
    let recent := restarts.filter (fun r : Instant => (now : ℚ) - r < 60) ++
      [now]
    if maxRestartsPerMin < recent.length then do
      log
      sleep 10
      pure (.inr ())
    else
      pure (.inl recent)
  else
    pure (.inr ())

/-- The sessions of one demand: the rear bridge bounds the restarts. -/
def demand : Bridge → Bool → BridgeM Unit
  | .psys, debug => frontDemand debug
  | .rear, debug => whileTrue (restartStep debug) []

/-- Leaving the idle `select`, the daemon has not seen a count yet. -/
def State.leaveIdle (w : State) : State := { w with newest := none }

/-- The serve loop. -/
def serve (b : Bridge) (debug : Bool) : BridgeM Unit :=
  whileTrue
    (fun _ : Unit => do
      selectEvent id
      Prog.modify State.leaveIdle
      let count ← pollClientCount
      Prog.when (count.any (· ≠ 0)) (do
        let _ ← monotonic
        log
        demand b debug
        log)
      pure (.inl ()))
    ()

/-- Look for a device node, and exit if there is none. -/
def requireNode : BridgeM Unit := do
  let present ← syscall fun m => pure m.outside.present
  Prog.when (present = false) (Prog.raise .systemExit)

/-- The start of `main`: the loopback is opened, given its format and a first
frame, and its events are subscribed to. -/
def setup (b : Bridge) : BridgeM Unit := do
  requireNode
  Prog.when (b = .psys) requireNode
  syscall fun _ => pure ()
  syscall fun _ => pure ()
  tryCall (fun _ => log) fun _ => pure ()
  syscall fun _ => writeLoopback blackFrame
  syscall fun _ => pure ()
  log

/-- `signal.signal(s, SIG_IGN)`. -/
def ignoreSignal (s : Signal) : BridgeM Unit :=
  atMoment fun _ => Prog.modify fun w => { w with ignored := s :: w.ignored }

/-- The `finally` of `main`: stop the producer with patience. -/
def shutdown : BridgeM Unit := do
  ignoreSignal .sigterm
  ignoreSignal .sigint
  let proc ← Prog.gets fun w : State => w.dev.currentProc
  match proc with
  | none => pure ()
  | some proc => do
      let gone ← exited proc
      Prog.when (gone = false) (do
        log
        let stopped ← stopGst proc
        Prog.when (stopped = false) log)

/-- `main`. -/
def main (b : Bridge) (debug : Bool) : BridgeM Unit := do
  setup b
  Prog.tryFinally (fun e => e matches .stopped)
    (Prog.tryCatch (serve b debug) fun e =>
      match e with
      | .keyboardInterrupt => log
      | e => Prog.raise e)
    shutdown

/-- A bridge about to start. -/
def boot (t : Instant) (script : List (Moment Happening)) : State where
  script := script
  now := t
  events := []
  newest := none
  ignored := []
  dev := ⟨0, [], none, []⟩
  trace := []

/-- Nothing happens. -/
def quietMoment : Moment Happening := { outside := {} }

/-- The trace of a run of the bridge, latest mark first. -/
def traceOf (b : Bridge) (debug : Bool) (t : Instant)
    (script : List (Moment Happening)) : List Mark :=
  (main b debug (boot t script)).2.trace

end Producer
end Bridges
end SurfaceCameras
