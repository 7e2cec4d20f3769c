import Launcher.Cause
import Launcher.Text.Bytes

/-! Sinks: places that take bytes, in full or up to a point where they fail. -/

namespace Launcher

/-- How a sink answers to bytes. -/
inductive Receipt where
  /-- It took them all. -/
  | complete
  /-- It took so many from the front and then failed. -/
  | cut (count : Nat) (cause : Cause)
  deriving DecidableEq, Repr

namespace Receipt

/-- The bytes that were taken of those offered. -/
def taken (receipt : Receipt) (offered : Bytes) : Bytes :=
  match receipt with
  | .complete => offered
  | .cut count _ => offered.take count

/-- Why a sink failed, if it did. -/
def failure? : Receipt → Option Cause
  | .complete => none
  | .cut _ cause => some cause

end Receipt

/-- A place that takes bytes and delivers those it held back when asked to. -/
class Sink (δ : Type) where
  /-- Offers bytes. -/
  write : δ → Bytes → Receipt × δ
  /-- Asks for delivery. -/
  flush : δ → Option Cause × δ

/-- A sink with room for a limited number of bytes. -/
structure BoundedSink where
  /-- How many more bytes it takes, without a limit if absent. -/
  room : Option Nat := none
  /-- Whether it fails to deliver. -/
  flushFails : Bool := false
  /-- How it reports that there is no more room. -/
  shortage : Cause := .other "no space left on device"
  deriving DecidableEq, Repr

namespace BoundedSink

/-- How a sink reports that it cannot deliver. -/
def flushFailure : Cause := .other "flush failed"

/-- Takes the bytes that there is room for. -/
def take (sink : BoundedSink) (bytes : Bytes) : Receipt × BoundedSink :=
  match sink.room with
  | none => (.complete, sink)
  | some room =>
    if bytes.length ≤ room then (.complete, { sink with room := some (room - bytes.length) })
    else (.cut room sink.shortage, { sink with room := some 0 })

instance : Sink BoundedSink where
  write := take
  flush sink := (if sink.flushFails then some flushFailure else none, sink)

end BoundedSink

end Launcher
