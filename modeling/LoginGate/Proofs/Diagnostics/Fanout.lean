import LoginGate.Diagnostics.Sink
import LoginGate.Proofs.Diagnostics.StandardSinks

namespace LoginGate

/-!
# Trees of sinks and rows of sinks

How sinks are nested does not matter: a tree hands events to its single sinks as if
these stood in one row. The first event reaches all of them from left to right, then
the second one does, and so on. What a sink makes of an event, be it nothing, keeps no
event from any other sink.
-/

open Interaction

/-- An event as it reaches the single sink at a position of a row. -/
structure Receipt where
  position : Nat
  leaf : SinkLeaf
  event : Event
  deriving Repr, DecidableEq

/-- How an event reaches a row of sinks whose positions are counted from a start. -/
def receiptsFrom (start : Nat) (leaves : List SinkLeaf) (event : Event) : List Receipt :=
  leaves.mapIdx fun index leaf => ⟨start + index, leaf, event⟩

/-- What reaches a row of sinks, in order: event by event, and each from left to right. -/
def receipts (leaves : List SinkLeaf) (events : List Event) : List Receipt :=
  events.flatMap (receiptsFrom 0 leaves)

/-- Have single sinks record what reaches them, one after the other. -/
def receiveEach (clock : Clock) : List Receipt → Interaction TraceFile Delivery Unit
  | [] =>
      pure ()
  | receipt :: rest => do
      receipt.leaf.record clock receipt.event
      receiveEach clock rest

/-- Record an event at a row of single sinks, from left to right. -/
def SinkLeaf.recordInTurn (clock : Clock) (event : Event) :
    List SinkLeaf → Interaction TraceFile Delivery Unit
  | [] =>
      pure ()
  | leaf :: rest => do
      leaf.record clock event
      SinkLeaf.recordInTurn clock event rest

theorem SinkLeaf.recordInTurn_append (clock : Clock) (event : Event) (front back : List SinkLeaf) :
    SinkLeaf.recordInTurn clock event (front ++ back) = (do
      SinkLeaf.recordInTurn clock event front
      SinkLeaf.recordInTurn clock event back) := by
  induction front with
  | nil =>
      exact (pure_bind _ _).symm
  | cons leaf rest inductionHypothesis =>
      simp only [List.cons_append, recordInTurn, inductionHypothesis, bind_assoc]

theorem receiveEach_append (clock : Clock) (front back : List Receipt) :
    receiveEach clock (front ++ back) = (do
      receiveEach clock front
      receiveEach clock back) := by
  induction front with
  | nil =>
      exact (pure_bind _ _).symm
  | cons receipt rest inductionHypothesis =>
      simp only [List.cons_append, receiveEach, inductionHypothesis, bind_assoc]

theorem receiptsFrom_cons (start : Nat) (leaf : SinkLeaf) (rest : List SinkLeaf) (event : Event) :
    receiptsFrom start (leaf :: rest) event =
      ⟨start, leaf, event⟩ :: receiptsFrom (start + 1) rest event := by
  simp only [receiptsFrom, List.mapIdx_cons, Nat.add_zero, Nat.add_assoc, Nat.add_comm 1]

/-- An event that reaches a row is recorded in turn. -/
theorem receiveEach_receiptsFrom
    (clock : Clock)
    (event : Event)
    (leaves : List SinkLeaf)
    (start : Nat) :
    receiveEach clock (receiptsFrom start leaves event) =
      SinkLeaf.recordInTurn clock event leaves := by
  induction leaves generalizing start with
  | nil =>
      rfl
  | cons leaf rest inductionHypothesis =>
      rw [receiptsFrom_cons, receiveEach, inductionHypothesis]
      rfl

/-- What single sinks hand out depends on what reaches them alone. -/
theorem run_receiveEach (clock : Clock) (received : List Receipt) (file : TraceFile) :
    run (receiveEach clock received) file =
      ⟨(), received.foldl (fun before receipt =>
          receipt.leaf.writes clock receipt.event before) file,
        received.flatMap fun receipt => receipt.leaf.deliveries receipt.event⟩ := by
  induction received generalizing file with
  | nil =>
      rfl
  | cons receipt rest inductionHypothesis =>
      rw [receiveEach, run_bind, inductionHypothesis]
      rfl

/-- No position of a row comes in front of its start. -/
theorem start_le_of_mem_receiptsFrom
    {start : Nat}
    {leaves : List SinkLeaf}
    {event : Event}
    {receipt : Receipt}
    (reached : receipt ∈ receiptsFrom start leaves event) :
    start ≤ receipt.position := by
  obtain ⟨index, _, rfl⟩ := List.mem_mapIdx.mp reached
  exact Nat.le_add_right start index

/-- An event reaches the sink at a position once. -/
theorem filter_position_receiptsFrom
    (event : Event)
    {leaves : List SinkLeaf}
    {index : Nat}
    {leaf : SinkLeaf}
    (stands : leaves[index]? = some leaf)
    (start : Nat) :
    (receiptsFrom start leaves event).filter (fun receipt => receipt.position = start + index) =
      [⟨start + index, leaf, event⟩] := by
  induction leaves generalizing index start with
  | nil =>
      cases stands
  | cons first rest inductionHypothesis =>
      rw [receiptsFrom_cons]
      cases index with
      | zero =>
          cases stands
          have noneBehind :
              (receiptsFrom (start + 1) rest event).filter
                (fun receipt => receipt.position = start) = [] := by
            rw [List.filter_eq_nil_iff]
            intro receipt reached
            have behind := start_le_of_mem_receiptsFrom reached
            simp only [decide_eq_true_eq]
            omega
          simp [noneBehind]
      | succ index =>
          have atIndex := inductionHypothesis (by simpa using stands) (start + 1)
          rw [Nat.add_assoc, Nat.add_comm 1] at atIndex
          rw [List.filter_cons_of_neg (by simp), atIndex]

/-- Events reach a row one after the other, and each of them reaches every sink of the row. -/
theorem map_event_receipts (leaves : List SinkLeaf) (events : List Event) :
    (receipts leaves events).map Receipt.event =
      events.flatMap fun event => List.replicate leaves.length event := by
  have reached (event : Event) :
      (receiptsFrom 0 leaves event).map Receipt.event =
        List.replicate leaves.length event := by
    rw [List.eq_replicate_iff]
    refine ⟨by simp [receiptsFrom], fun other isReached => ?_⟩
    obtain ⟨receipt, isReceipt, rfl⟩ := List.mem_map.mp isReached
    obtain ⟨index, _, rfl⟩ := List.mem_mapIdx.mp isReceipt
    rfl
  simp only [receipts, List.map_flatMap, reached]

/-- The sink at a position gets all events, each once and in order. -/
theorem filter_position_receipts
    {leaves : List SinkLeaf}
    {position : Nat}
    {leaf : SinkLeaf}
    (stands : leaves[position]? = some leaf)
    (events : List Event) :
    (receipts leaves events).filter (fun receipt => receipt.position = position) =
      events.map fun event => ⟨position, leaf, event⟩ := by
  have once (event : Event) :
      (receiptsFrom 0 leaves event).filter (fun receipt => receipt.position = position) =
        [⟨position, leaf, event⟩] := by
    simpa only [Nat.zero_add] using filter_position_receiptsFrom event stands 0
  simp only [receipts, List.filter_flatMap, once, List.map_eq_flatMap]

/-- What the system log drops leaves it and the trace file as they are. -/
theorem SinkLeaf.record_systemLog_of_dropped
    (clock : Clock)
    {identifier : String}
    {event : Event}
    (dropped : event.severity = .debug ∨ '\x00' ∈ identifier.toList) :
    (SinkLeaf.systemLog identifier).record clock event = pure () := by
  have noCall : event.logCall? identifier = none := by
    rcases dropped with isDebug | hasNul
    · exact Event.logCall?_of_debug isDebug identifier
    · exact event.logCall?_of_nul hasNul
  apply ext_run
  intro file
  change Report.mk () file ((event.logCall? identifier).map Delivery.logged).toList = _
  rw [noCall]
  rfl

/-- A trace file that cannot be written stays as it is. -/
theorem SinkLeaf.run_record_traceFile_of_refused
    (clock : Clock)
    (event : Event)
    {file : TraceFile}
    (refused : file.place.writable = false) :
    run (SinkLeaf.traceFile.record clock event) file = ⟨(), file, []⟩ := by
  change Report.mk () (file.record clock event) [] = _
  rw [TraceFile.record, refused]
  rfl

namespace Sink

variable (clock : Clock)

mutual

/-- A tree hands an event to its single sinks in turn. -/
theorem record_eq_recordInTurn (event : Event) :
    (sink : Sink) → sink.record clock event = SinkLeaf.recordInTurn clock event sink.leaves
  | .leaf single =>
      (bind_pure_unit).symm
  | .fanout sinks => by
      rw [record, leaves]
      exact recordAll_eq_recordInTurn event sinks

theorem recordAll_eq_recordInTurn (event : Event) :
    (sinks : List Sink) →
      recordAll clock sinks event = SinkLeaf.recordInTurn clock event (leavesOfAll sinks)
  | [] =>
      rfl
  | sink :: rest => by
      rw [recordAll, leavesOfAll, SinkLeaf.recordInTurn_append,
        record_eq_recordInTurn event sink, recordAll_eq_recordInTurn event rest]

end

/-- Events go through a tree as through the row of its single sinks. -/
theorem recordEach_eq_receiveEach (sink : Sink) (events : List Event) :
    sink.recordEach clock events = receiveEach clock (receipts sink.leaves events) := by
  induction events with
  | nil =>
      rfl
  | cons event rest inductionHypothesis =>
      rw [recordEach, receipts, List.flatMap_cons, receiveEach_append,
        receiveEach_receiptsFrom, record_eq_recordInTurn, inductionHypothesis]
      rfl

theorem leavesOfAll_map_leaf (leaves : List SinkLeaf) :
    leavesOfAll (leaves.map .leaf) = leaves := by
  induction leaves with
  | nil =>
      rfl
  | cons leaf rest inductionHypothesis =>
      rw [List.map_cons, leavesOfAll, inductionHypothesis]
      rfl

/--
A tree of sinks does with events what one fan-out over the row of its single sinks does.

Every single sink gets all events, each once for each place where it stands, and no
event before the whole row has got the one in front of it. What is left behind is what
the single sinks make of what they get; a sink that drops an event, or cannot write it,
does nothing and is in nobody's way.
-/
structure ActsAsRow (tree : Sink) (events : List Event) : Prop where
  flat :
    tree.recordEach clock events =
      (Sink.fanout (tree.leaves.map .leaf)).recordEach clock events
  inTurn :
    tree.recordEach clock events = receiveEach clock (receipts tree.leaves events)
  report :
    ∀ file,
      run (tree.recordEach clock events) file =
        ⟨(), (receipts tree.leaves events).foldl (fun before receipt =>
            receipt.leaf.writes clock receipt.event before) file,
          (receipts tree.leaves events).flatMap fun receipt =>
            receipt.leaf.deliveries receipt.event⟩
  once :
    ∀ position leaf,
      tree.leaves[position]? = some leaf →
      (receipts tree.leaves events).filter (fun receipt => receipt.position = position) =
        events.map fun event => ⟨position, leaf, event⟩
  eventByEvent :
    (receipts tree.leaves events).map Receipt.event =
      events.flatMap fun event => List.replicate tree.leaves.length event
  dropped :
    ∀ identifier event,
      event.severity = .debug ∨ '\x00' ∈ identifier.toList →
      (SinkLeaf.systemLog identifier).record clock event = pure ()
  unwritten :
    ∀ event file,
      file.place.writable = false →
      run (SinkLeaf.traceFile.record clock event) file = ⟨(), file, []⟩

/-- However sinks are nested, they act as a row. -/
theorem actsAsRow (tree : Sink) (events : List Event) : ActsAsRow clock tree events := by
  constructor
  case flat =>
    have sameLeaves : (Sink.fanout (tree.leaves.map .leaf)).leaves = tree.leaves :=
      leavesOfAll_map_leaf tree.leaves
    rw [recordEach_eq_receiveEach, recordEach_eq_receiveEach, sameLeaves]
  case inTurn =>
    exact recordEach_eq_receiveEach clock tree events
  case report =>
    intro file
    rw [recordEach_eq_receiveEach]
    exact run_receiveEach clock (receipts tree.leaves events) file
  case once =>
    intro position leaf stands
    exact filter_position_receipts stands events
  case eventByEvent =>
    exact map_event_receipts tree.leaves events
  case dropped =>
    intro identifier event dropped
    exact SinkLeaf.record_systemLog_of_dropped clock dropped
  case unwritten =>
    intro event file refused
    exact SinkLeaf.run_record_traceFile_of_refused clock event refused

end Sink

end LoginGate
