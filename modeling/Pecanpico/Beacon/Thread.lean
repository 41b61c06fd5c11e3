import Mathlib.Data.List.Count
import Mathlib.Data.List.Chain
import Mathlib.Algebra.Group.Int

/-! The beacon thread `bcnThread`: one pass of its loop, a run of passes, and the exit on
`run_once`. -/
namespace Pecanpico.Beacon

/-- The part of `conf_sram` the beacon reads: the telemetry encoding cycle in ticks and the
base station the APRSD message goes to when it is enabled. -/
structure ConfSram where
  telEncCycle : Nat
  baseEnabled : Bool
  baseCall : String
  basePath : String

/-- The part of `bcn_app_conf_t` the loop reads itself, with the code
`pktDisplayFrequencyCode` writes for `radio_conf.freq`; the rest only reaches the radio. -/
structure BcnAppConf where
  call : String
  path : String
  runOnce : Bool
  frequencyCode : String

/-- What one pass of the loop reads from the rest of the system: the real tick at which it
reads the system time, `p_sleep`, the collector's reply to `chMsgSend` (`NULL`, or a data point
with its `gps_state`), what `isPositionValid` said of it, and for each packet whether its
encoder returned `NULL` (`none`) or what `transmitOnRadio` returned. -/
structure BcnRound where
  now : Nat
  sleep : Bool
  dataPoint : Option Nat
  positionValid : Bool
  configuration : Nat → Option Bool
  position : Option Bool
  aprsd : Option Bool

inductive BcnPacket where
  | telemetryConfiguration (call path dest : String) (type : Nat)
  | positionAndTelemetry (call path : String)
  | aprsdMessage (call path dest : String)
  deriving DecidableEq, Repr

/-- What the loop does that others see: a trace with a fixed text, the two traces with
arguments, and a packet handed to `transmitOnRadio`. The wait trace reads `gps_state` through
the reply; `none` marks a read through a `NULL` reply. -/
inductive BcnEvent where
  | trace (msg : String)
  | traceCycle (call frequencyCode : String)
  | traceWaiting (call : String) (gpsState : Option Nat)
  | transmitOnRadio (packet : BcnPacket) (ok : Bool)
  deriving DecidableEq, Repr

def msgTelemetryConfiguration : String := "BCN  > Transmit telemetry configuration"

def msgPositionAndTelemetry : String := "BCN  > Transmit position and telemetry"

def msgRecentlyHeard : String := "BCN  > Transmit recently heard direct"

section
variable (W n : Nat)

/-- `chVTGetSystemTime()` at real tick `t`: a `W`-bit counter. -/
def chVTGetSystemTime (t : Nat) : Int := (t : Int) % 2 ^ W

def chVTTimeElapsedSinceX (start : Int) (t : Nat) : Int :=
  (chVTGetSystemTime W t - start) % 2 ^ W

def sendPacket (packet : BcnPacket) (outcome : Option Bool) (noPacket failed : String) :
    List BcnEvent :=
  match outcome with
  | none => [.trace noPacket]
  | some true => [.transmitOnRadio packet true]
  | some false => [.transmitOnRadio packet false, .trace failed]

/-- The group loop over `type < APRS_NUM_TELEM_GROUPS`, here `n`. -/
def telemetryConfiguration (conf : BcnAppConf) (outcome : Nat → Option Bool) :
    List BcnEvent :=
  (List.range n).flatMap fun type =>
    sendPacket (.telemetryConfiguration conf.call conf.path conf.call type) (outcome type)
      "BCN  > No free packet objects for telemetry config transmission"
      "BCN  > Failed to transmit telemetry config"

def configurationGroup (conf : BcnAppConf) (outcome : Nat → Option Bool) : List BcnEvent :=
  .trace msgTelemetryConfiguration :: telemetryConfiguration n conf outcome

/-- `tel_enc_cycle != 0 && chVTTimeElapsedSinceX(last_conf_transmission) >= tel_enc_cycle`. -/
def configDue (sram : ConfSram) (last : Int) (t : Nat) : Bool :=
  sram.telEncCycle != 0 && decide ((sram.telEncCycle : Int) ≤ chVTTimeElapsedSinceX W last t)

def positionAndAprsd (sram : ConfSram) (conf : BcnAppConf) (r : BcnRound) : List BcnEvent :=
  let call := if sram.baseEnabled then sram.baseCall else conf.call
  let path := if sram.baseEnabled then sram.basePath else conf.path
  .trace msgPositionAndTelemetry ::
    sendPacket (.positionAndTelemetry conf.call conf.path) r.position
      "BCN  > No free packet objects for position transmission"
      "BCN  > failed to transmit beacon data" ++
  .trace msgRecentlyHeard ::
    sendPacket (.aprsdMessage conf.call path call) r.aprsd
      "BCN  > No free packet objects or badly formed APRSD message"
      "BCN  > Failed to transmit APRSD data"

def waitingTraces (conf : BcnAppConf) (r : BcnRound) : List BcnEvent :=
  [.traceCycle conf.call conf.frequencyCode, .traceWaiting conf.call r.dataPoint]

/-- Whether a pass gets past `if(!isPositionValid(dataPoint) || dataPoint == NULL)`. -/
def Reaches (r : BcnRound) : Prop :=
  r.sleep = false ∧ r.positionValid = true ∧ r.dataPoint.isSome = true

instance (r : BcnRound) : Decidable (Reaches r) := inferInstanceAs (Decidable (_ ∧ _))

/-- One pass of the loop body from `last_conf_transmission = last`: the cycle trace, then
`p_sleep`, the wait for a position, and the telemetry check. -/
def bcnIteration (sram : ConfSram) (conf : BcnAppConf) (last : Int) (r : BcnRound) :
    Int × List BcnEvent :=
  if r.sleep then (last, [.traceCycle conf.call conf.frequencyCode])
  else if !r.positionValid || r.dataPoint.isNone then (last, waitingTraces conf r)
  else if configDue W sram last r.now then
    ((last + sram.telEncCycle) % 2 ^ W, .traceCycle conf.call conf.frequencyCode ::
      (configurationGroup n conf r.configuration ++ positionAndAprsd sram conf r))
  else (last, .traceCycle conf.call conf.frequencyCode :: positionAndAprsd sram conf r)

theorem bcnIteration_of_not_reaches {sram : ConfSram} {conf : BcnAppConf} {last : Int}
    {r : BcnRound} (hr : ¬Reaches r) :
    bcnIteration W n sram conf last r = (last, .traceCycle conf.call conf.frequencyCode ::
      if r.sleep then [] else [.traceWaiting conf.call r.dataPoint]) := by
  obtain ⟨now, sleep, dataPoint, valid, _⟩ := r
  cases sleep <;> cases valid <;> cases dataPoint <;>
    simp_all [Reaches, bcnIteration, waitingTraces]

theorem bcnIteration_of_due {sram : ConfSram} {conf : BcnAppConf} {last : Int} {r : BcnRound}
    (hr : Reaches r) (hd : configDue W sram last r.now = true) :
    bcnIteration W n sram conf last r = ((last + sram.telEncCycle) % 2 ^ W,
      .traceCycle conf.call conf.frequencyCode ::
        (configurationGroup n conf r.configuration ++ positionAndAprsd sram conf r)) := by
  obtain ⟨now, sleep, _ | _, valid, _⟩ := r <;> obtain ⟨h1, h2, h3⟩ := hr <;>
    simp_all [bcnIteration]

theorem bcnIteration_of_not_due {sram : ConfSram} {conf : BcnAppConf} {last : Int}
    {r : BcnRound} (hr : Reaches r) (hd : configDue W sram last r.now = false) :
    bcnIteration W n sram conf last r =
      (last, .traceCycle conf.call conf.frequencyCode :: positionAndAprsd sram conf r) := by
  obtain ⟨now, sleep, _ | _, valid, _⟩ := r <;> obtain ⟨h1, h2, h3⟩ := hr <;>
    simp_all [bcnIteration]

/-- `last_conf_transmission = chVTGetSystemTime() - conf_sram.tel_enc_cycle` read at tick `t0`. -/
def initialLast (sram : ConfSram) (t0 : Nat) : Int :=
  (chVTGetSystemTime W t0 - sram.telEncCycle) % 2 ^ W

def bcnRun (sram : ConfSram) (conf : BcnAppConf) : Int → List BcnRound → Int × List BcnEvent
  | last, [] => (last, [])
  | last, r :: rs =>
    let s := bcnIteration W n sram conf last r
    let t := bcnRun sram conf s.1 rs
    (t.1, s.2 ++ t.2)

end

end Pecanpico.Beacon
