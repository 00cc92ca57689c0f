import SurfaceCameras.Bridges.Runtime
import SurfaceCameras.Bridges.InfraredExposure
import SurfaceCameras.Bridges.InfraredFrames

/-!
# The infrared bridge

`surface-ir-bridge` streams from the sensor only while a client has the
loopback open.  A session brings the sensor up, restarting it while it comes up
wedged, and then converts and relays its frames until every client has let go.

The marks of a run record what happens to its captures and their frames, and
where the daemon waits for clients.
-/

namespace SurfaceCameras
namespace Bridges
namespace Infrared

def wedgeRetryDelay : ℚ≥0 := (3 : ℕ) / (10 : ℕ)

/-- `CLIENT_GRACE`. -/
def clientGrace : ℚ := 2

/-! ## Captures and their surroundings -/

/-- What `media-ctl -p` and sysfs say about the way from the sensor: its CSI-2
receiver, the capture entity of that and the video node of that. -/
structure Topology where
  csi : Option String
  cap : Option String
  node : Option String

/-- What happens outside the bridge: the media graph, the control listing,
how many buffers are granted, whether the capture is readable, the image that
is dequeued, in which buffer and at what time, and whether a device node
exists. -/
structure Happening where
  topology : Topology := ⟨none, none, none⟩
  listing : Listing := ⟨none, none, none, none⟩
  buffers : ℕ := 0
  readable : Bool := false
  image : Image := fun _ _ => 0
  index : ℕ := 0
  stamp : ℚ := 0
  present : Bool := true

/-- The `RuntimeError`s of `setup_graph`, and two exceptions that the source
does not expect: a mapping is closed under a live array, and `start_capture`
returns nothing to unpack. -/
inductive Failure where
  | noReceiver
  | noCaptureEntity
  | noVideoNode
  | bufferError
  | typeError
  deriving DecidableEq, Repr

/-- How a session ends. -/
inductive Ending where
  | frameTimeout
  | brokenPipe
  | clientsGone
  | failed
  deriving DecidableEq, Repr

/-- The controls last sent to the sensor driver; how many captures have been
opened and which ones are still open, where a capture is named by its number;
how many buffers the latest one has mapped; the buffer that an array still
refers to; and what has been written to the loopback, latest first. -/
structure Plant where
  vblank : Option ℤ
  ctrls : Option (ℤ × ℤ)
  opened : ℕ
  openCaps : List ℕ
  maps : ℕ
  exported : Option (ℕ × ℕ)
  loopback : List Yuyv

inductive Mark where
  | attempt (vblank : ℤ)
  | opened (cap : ℕ)
  | dequeued (cap : ℕ) (shot : Shot)
  | timedOut (cap : ℕ)
  | returned (cap : ℕ) (probed : Option ℤ)
  | wrote (image : Image) (digital : ℚ)
  | streamOff (cap : ℕ)
  | closed (cap : ℕ)
  | uncovered (cap : ℕ)
  | blocked (newest : Option (BitVec 32))
  | ended (how : Ending) (newest : Option (BitVec 32)) (events : List Event)

instance : Surroundings Happening Plant Mark where
  act _ d := d
  raised _ := []

abbrev State : Type := World Happening Plant Mark

abbrev BridgeM (α : Type) : Type := Daemon Happening Plant Mark Failure α

def mark (x : Mark) : BridgeM Unit := Prog.modify fun w => w.mark x

def onPlant (f : Plant → Plant) : BridgeM Unit :=
  Prog.modify fun w => { w with dev := f w.dev }

/-- A step during which a capture is open while no `except` or `finally` of it
covers an exception. -/
def uncovered {α : Type} (cap : ℕ) (p : BridgeM α) : BridgeM α :=
  Prog.tryCatch p fun e => do
    Prog.when (e ≠ .stopped) (mark (.uncovered cap))
    Prog.raise e

/-! ## The media graph and the controls -/

/-- What is looked up is there, or the graph is of no use. -/
def required {α : Type} (e : Failure) : Option α → BridgeM α
  | none => raiseMarked (.own e)
  | some a => pure a

/-- `media_ctl`, whose exit status is ignored. -/
def mediaCtl : BridgeM Unit := syscall fun _ => pure ()

/-- `setup_graph`. -/
def setupGraph : BridgeM String := do
  let graph ← syscall fun m => pure m.outside.topology
  let _ ← required .noReceiver graph.csi
  let _ ← required .noCaptureEntity graph.cap
  let found ← syscall fun m => pure m.outside.topology.node
  let node ← required .noVideoNode found
  mediaCtl
  mediaCtl
  mediaCtl
  mediaCtl
  pure node

def setVblank (vblank : ℤ) : BridgeM Unit :=
  syscall fun _ => onPlant fun d => { d with vblank := some vblank }

def setCtrls (debug : Bool) (exposure gain : ℤ) : BridgeM Unit := do
  syscall fun _ => onPlant fun d => { d with ctrls := some (exposure, gain) }
  Prog.when (debug = true) log

/-! ## `Capture` -/

/-- `os.open`. -/
def openNode : BridgeM ℕ :=
  syscall fun _ => do
    let cap ← Prog.gets fun w : State => w.dev.opened
    onPlant fun d =>
      { d with opened := d.opened + 1, openCaps := cap :: d.openCaps }
    mark (.opened cap)
    pure cap

/-- `VIDIOC_STREAMOFF`, which may fail. -/
def streamOff (cap : ℕ) : BridgeM Unit :=
  tryCall (fun _ => mark (.streamOff cap)) fun _ => mark (.streamOff cap)

/-- Close a mapping; an array that still refers to it forbids that. -/
def closeMap (cap index : ℕ) : BridgeM Unit :=
  atMoment fun _ => do
    let exported ← Prog.gets fun w : State => w.dev.exported
    Prog.when (exported = some (cap, index))
      (raiseMarked (.own .bufferError))

/-- `os.close`. -/
def closeNode (cap : ℕ) : BridgeM Unit :=
  syscall fun _ => do
    onPlant fun d => { d with openCaps := d.openCaps.erase cap }
    mark (.closed cap)

/-- `Capture.close`. -/
def close (cap : ℕ) : BridgeM Unit := do
  let isOpen ← Prog.gets fun w : State => decide (cap ∈ w.dev.openCaps)
  Prog.when (isOpen = true) (uncovered cap (do
    streamOff cap
    let maps ← Prog.gets fun w : State => w.dev.maps
    Prog.forEach (closeMap cap) (List.range maps)
    onPlant fun d => { d with maps := 0 }
    closeNode cap))

/-- Map one buffer and queue it. -/
def mapBuffer (_ : ℕ) : BridgeM Unit := do
  syscall fun _ => pure ()
  syscall fun _ => onPlant fun d => { d with maps := d.maps + 1 }
  syscall fun _ => pure ()

/-- `Capture._setup`: set the format, get the buffers, stream. -/
def setupCapture : BridgeM Unit := do
  syscall fun _ => pure ()
  let count ← syscall fun m => pure m.outside.buffers
  Prog.forEach mapBuffer (List.range count)
  syscall fun _ => pure ()

/-- `Capture(node)`. -/
def newCapture : BridgeM ℕ := do
  let cap ← openNode
  uncovered cap (atMoment fun _ => onPlant fun d => { d with maps := 0 })
  Prog.unwinding (close cap) setupCapture
  pure cap

/-- `VIDIOC_DQBUF`: the array made of the buffer refers to its mapping. -/
def dequeue (cap : ℕ) : BridgeM Shot :=
  syscall fun m => do
    onPlant fun d => { d with exported := some (cap, m.outside.index) }
    mark (.dequeued cap ⟨m.outside.image, m.outside.stamp⟩)
    pure ⟨m.outside.image, m.outside.stamp⟩

/-- `Capture.frame`. -/
def frame (cap : ℕ) : BridgeM (Option Shot) := do
  let ready ← syscall fun m => pure m.outside.readable
  if ready then do
    let shot ← dequeue cap
    syscall fun _ => onPlant fun d => { d with exported := none }
    pure (some shot)
  else do
    mark (.timedOut cap)
    pure none

/-! ## Starting a capture -/

/-- Take up to `n` frames, until one times out. -/
def probeFrames (cap : ℕ) : ℕ → BridgeM (List Shot)
  | 0 => pure []
  | n + 1 => do
      let shot ← frame cap
      match shot with
      | none => pure []
      | some s => do
          let shots ← probeFrames cap n
          pure (s :: shots)

/-- `wedge_probe`. -/
def wedgeProbe (cap : ℕ) (nominal : ℚ) :
    BridgeM (List Shot × Option Wedge) := do
  let shots ← probeFrames cap wedgeProbeFrames
  pure (shots, wedgeVerdict nominal shots)

/-- What `start_capture` returns. -/
structure Started where
  cap : ℕ
  pending : List Image
  exposureMax : ℤ

section Session

variable (t : SensorTiming) (debug : Bool)

/-- The attempts of `start_capture` still to be made, with the number of those
that were wedged. -/
def startFrom (exposure gain : ℤ) : List (ℤ × ℤ) → ℕ → BridgeM Started
  | [], _ => Prog.raise (.own .typeError)
  | (vblank, emax) :: rest, restarts => do
      mark (.attempt vblank)
      let _ ← setupGraph
      setVblank vblank
      setCtrls debug (min exposure emax) gain
      let cap ← newCapture
      if rest = [] then do
        uncovered cap log
        mark (.returned cap none)
        pure ⟨cap, [], emax⟩
      else do
        let probed ← uncovered cap (wedgeProbe cap (t.nominalDt vblank))
        if probed.2 = none then do
          Prog.when (0 < restarts) (uncovered cap log)
          mark (.returned cap (some vblank))
          pure ⟨cap, probed.1.map Shot.image, emax⟩
        else do
          uncovered cap log
          close cap
          sleep wedgeRetryDelay
          startFrom exposure gain rest (restarts + 1)

/-- `start_capture`. -/
def startCapture (exposure gain : ℤ) : BridgeM Started :=
  startFrom t debug exposure gain (attempts t) 0

/-! ## Sessions -/

/-- The local variables of the loop in `run_session`. -/
structure Vars where
  pending : List Image
  ae : Ae
  goneSince : Option Instant

/-- The next image, from the probed frames or from the capture. -/
def nextImage (cap : ℕ) : List Image → BridgeM (Option Image × List Image)
  | img :: rest => pure (some img, rest)
  | [] => do
      let shot ← frame cap
      pure (shot.map Shot.image, [])

/-- Convert an image and write it; false if nobody reads the loopback. -/
def relayImage (digital : ℚ) (img : Image) : BridgeM Bool :=
  tryCall
    (fun e =>
      if e = .brokenPipe then pure false else raiseMarked (.osError e))
    fun _ => do
      onPlant fun d => { d with loopback := packed digital img :: d.loopback }
      mark (.wrote img digital)
      pure true

/-- The exposure loop, at most every quarter of a second. -/
def adjustExposure (exposureMax : ℤ) (img : Image) (ae : Ae) : BridgeM Ae := do
  let now ← monotonic
  let ae' := aeStep t.exposureMin exposureMax ae
    (mean (convert ae.knobs.digital img), now)
  Prog.when (1 / 4 < (now : ℚ) - ae.lastAe) (do
    Prog.when (debug = true) log
    Prog.when ((ae'.knobs.exposure, ae'.knobs.gain) ≠
        (ae.knobs.exposure, ae.knobs.gain))
      (setCtrls debug ae'.knobs.exposure ae'.knobs.gain))
  pure ae'

/-- What a new client count does to `gone_since`. -/
def noteCount (goneSince : Option Instant) :
    Option (BitVec 32) → BridgeM (Option Instant)
  | none => pure goneSince
  | some count =>
      if count ≠ 0 then
        pure none
      else do
        let now ← monotonic
        pure (some now)

/-- Every client has been gone for the grace period. -/
def graceOver : Option Instant → BridgeM Bool
  | none => pure false
  | some since => do
      let now ← monotonic
      pure (decide (clientGrace < (now : ℚ) - since))

/-- The rest of an iteration, after a frame was written. -/
def afterFrame (exposureMax : ℤ) (img : Image) (v : Vars) :
    BridgeM (Vars ⊕ Ending) := do
  let ae ← adjustExposure t debug exposureMax img v.ae
  let count ← pollClientCount
  let goneSince ← noteCount v.goneSince count
  let expired ← graceOver goneSince
  if expired then
    pure (.inr .clientsGone)
  else
    pure (.inl ⟨v.pending, ae, goneSince⟩)

/-- One iteration of the loop in `run_session`. -/
def sessionStep (cap : ℕ) (exposureMax : ℤ) (v : Vars) :
    BridgeM (Vars ⊕ Ending) := do
  let next ← nextImage cap v.pending
  match next.1 with
  | none => pure (.inr .frameTimeout)
  | some img => do
      let written ← relayImage v.ae.knobs.digital img
      if written then
        afterFrame t debug exposureMax img { v with pending := next.2 }
      else
        pure (.inr .brokenPipe)

/-- The variables at the start of the loop. -/
def Vars.start (started : Started) : Vars :=
  ⟨started.pending, ⟨initialKnobs started.exposureMax, 0⟩, none⟩

/-- `run_session`. -/
def runSession : BridgeM Ending := do
  let started ← startCapture t debug 800 256
  uncovered started.cap (atMoment fun _ => pure ())
  Prog.tryFinally (fun e => decide (e = .stopped))
    (whileTrue (sessionStep t debug started.cap started.exposureMax)
      (Vars.start started))
    (close started.cap)

/-! ## The daemon -/

/-- `except (OSError, RuntimeError)`. -/
def handled : Exc Failure → Bool
  | .osError _ => true
  | .own .noReceiver | .own .noCaptureEntity | .own .noVideoNode => true
  | _ => false

/-- A session as `serve` runs it: its failures are reported and waited out. -/
def guardedSession : BridgeM Ending :=
  Prog.tryCatch (runSession t debug) fun e =>
    if handled e then do
      Prog.when (debug = true) log
      log
      sleep (2 : ℕ)
      onPlant fun d => { d with exported := none }
      pure .failed
    else
      Prog.raise e

def serveSession : BridgeM Unit := do
  log
  let how ← guardedSession t debug
  Prog.modify fun w => w.mark (.ended how w.newest w.events)
  log

/-- The serve loop. -/
def serve : BridgeM Unit :=
  whileTrue
    (fun _ : Unit => do
      selectEvent fun w => w.mark (.blocked w.newest)
      let count ← pollClientCount
      Prog.when (count.any (· ≠ 0)) (serveSession t debug)
      pure (.inl ()))
    ()

end Session

/-- Look for a device node, and exit if there is none. -/
def requireNode : BridgeM Unit := do
  let present ← syscall fun m => pure m.outside.present
  Prog.when (present = false) (Prog.raise .systemExit)

/-- The start of `main`. -/
def setup : BridgeM SensorTiming := do
  requireNode
  requireNode
  let t ← syscall fun m => pure (querySensorTiming m.outside.listing)
  let _ ← setupGraph
  log
  syscall fun _ => pure ()
  syscall fun _ => pure ()
  syscall fun _ => onPlant fun d =>
    { d with loopback := (fun _ _ => (0, 0)) :: d.loopback }
  syscall fun _ => pure ()
  pure t

def main (debug : Bool) : BridgeM Unit := do
  let t ← setup
  Prog.tryCatch (serve t debug) fun e =>
    match e with
    | .keyboardInterrupt => log
    | e => Prog.raise e

/-- The daemon when it is started. -/
def boot (now : Instant) (script : List (Moment Happening)) : State :=
  { script := script
    now := now
    events := []
    newest := none
    ignored := []
    dev := ⟨none, none, 0, [], 0, none, []⟩
    trace := [] }

end Infrared
end Bridges
end SurfaceCameras
