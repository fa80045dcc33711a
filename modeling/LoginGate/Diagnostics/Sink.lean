import LoginGate.Configuration
import LoginGate.Diagnostics.SystemLog
import LoginGate.Diagnostics.TraceFile
import LoginGate.Diagnostics.TraceRecord
import LoginGate.Interaction

namespace LoginGate

/-!
# Where events go

Events are recorded through a tree of sinks. Recording answers nothing and
cannot fail, so nothing that a sink does can reach a decision.
-/

/-- A single place to which events go. -/
inductive SinkLeaf where
  /-- The system log, under an identifier. -/
  | systemLog (identifier : String)
  /-- The file at the trace path. -/
  | traceFile
  /-- The structured trace. -/
  | tracing
  /-- A list of the events as they are. -/
  | recorder
  /-- Nowhere. -/
  | silent
  deriving Repr, DecidableEq

/-- A tree of sinks; a fan-out hands each event to its sinks from left to right. -/
inductive Sink where
  | leaf (single : SinkLeaf)
  | fanout (sinks : List Sink)

/-- What a sink hands to the outside, apart from lines of the trace file. -/
inductive Delivery where
  | logged (call : LogCall)
  | traced (record : TraceRecord)
  | recorded (event : Event)
  deriving Repr, DecidableEq

namespace SinkLeaf

/-- What a single sink hands out for an event. -/
def deliveries (leaf : SinkLeaf) (event : Event) : List Delivery :=
  match leaf with
  | .systemLog identifier =>
      ((event.logCall? identifier).map Delivery.logged).toList
  | .tracing =>
      [.traced event.traceRecord]
  | .recorder =>
      [.recorded event]
  | .traceFile =>
      []
  | .silent =>
      []

/-- The trace file after a single sink took an event. -/
def writes (clock : Clock) (leaf : SinkLeaf) (event : Event) (file : TraceFile) : TraceFile :=
  match leaf with
  | .traceFile =>
      file.record clock event
  | _ =>
      file

/-- Record an event at a single sink. -/
def record (clock : Clock) (leaf : SinkLeaf) (event : Event) :
    Interaction TraceFile Delivery Unit :=
  fun file => ⟨(), leaf.writes clock event file, leaf.deliveries event⟩

end SinkLeaf

namespace Sink

mutual

/-- Record an event through a tree of sinks. -/
def record (clock : Clock) : Sink → Event → Interaction TraceFile Delivery Unit
  | .leaf single, event =>
      single.record clock event
  | .fanout sinks, event =>
      recordAll clock sinks event

/-- Record an event through several trees, from left to right. -/
def recordAll (clock : Clock) : List Sink → Event → Interaction TraceFile Delivery Unit
  | [], _ =>
      pure ()
  | sink :: rest, event => do
      record clock sink event
      recordAll clock rest event

end

mutual

/-- The single sinks of a tree, from left to right. -/
def leaves : Sink → List SinkLeaf
  | .leaf single =>
      [single]
  | .fanout sinks =>
      leavesOfAll sinks

/-- The single sinks of several trees, from left to right. -/
def leavesOfAll : List Sink → List SinkLeaf
  | [] =>
      []
  | sink :: rest =>
      leaves sink ++ leavesOfAll rest

end

/-- Record events one after the other. -/
def recordEach (clock : Clock) (sink : Sink) :
    List Event → Interaction TraceFile Delivery Unit
  | [] =>
      pure ()
  | event :: rest => do
      sink.record clock event
      sink.recordEach clock rest

/-- The sinks that the gate uses by itself: system log, trace file, structured trace. -/
def standard : Sink :=
  .fanout [.leaf (.systemLog moduleName), .leaf .traceFile, .leaf .tracing]

end Sink

end LoginGate
