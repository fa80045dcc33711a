import LoginGate.Diagnostics.Sink
import LoginGate.Diagnostics.Timestamp
import LoginGate.Proofs.Text.Control

namespace LoginGate

/-!
# What the standard sinks make of events

Whatever is said to the standard sinks, the structured trace has every event as it
is, the system log has one whole line for every notice and every error, and the
trace file grows by one line for every event or is not touched at all. No line
holds a control character of a message, so nobody can forge one.
-/

open Interaction
open Control (Plain)

namespace Delivery

/-- Extract a call of the system log. -/
def logged? : Delivery → Option LogCall
  | .logged call =>
      some call
  | _ =>
      none

/-- Extract a record of the structured trace. -/
def traced? : Delivery → Option TraceRecord
  | .traced record =>
      some record
  | _ =>
      none

end Delivery

theorem Phase.plain_label (phase : Phase) : Plain phase.label.toList := by
  cases phase <;> decide

theorem Severity.plain_label (severity : Severity) : Plain severity.label.toList := by
  cases severity <;> decide

theorem plain_paddedDecimal (width number : Nat) : Plain (paddedDecimal width number) := by
  unfold paddedDecimal
  refine (Control.plain_append _ _).mpr ⟨?_, Control.plain_toDigits number⟩
  intro character isPadding
  cases List.eq_of_mem_replicate isPadding
  rfl

theorem plain_yearDigits (year : Nat) : Plain (yearDigits year) := by
  unfold yearDigits
  refine (Control.plain_append _ _).mpr ⟨?_, plain_paddedDecimal 4 year⟩
  split <;> decide

theorem Timestamp.plain_display (moment : Timestamp) : Plain moment.display.toList := by
  simp only [Timestamp.display, String.toList_ofList, Control.plain_append,
    plain_yearDigits, plain_paddedDecimal, true_and, and_true]
  decide

/-- Whatever moments a clock reads, its stamps hold no control character. -/
theorem Timestamp.plain_clock (moments : Nat → Timestamp) (reading : Nat) :
    Plain (clock moments reading).toList :=
  (moments reading).plain_display

namespace Event

/-- The one-line form of an event is a head of its own and the written message. -/
theorem exists_display_eq (event : Event) :
    ∃ head : String,
      Plain head.toList ∧ event.display = head ++ Control.escape event.message := by
  unfold display
  cases event.phase with
  | none =>
      exact ⟨"", by decide, String.empty_append.symm⟩
  | some phase =>
      refine ⟨"[" ++ phase.label ++ "] ", ?_, rfl⟩
      simp only [String.toList_append, Control.plain_append]
      exact ⟨⟨by decide, phase.plain_label⟩, by decide⟩

/-- So it holds no control character. -/
theorem plain_display (event : Event) : Plain event.display.toList := by
  obtain ⟨head, isPlain, shape⟩ := event.exists_display_eq
  rw [shape, String.toList_append, Control.plain_append]
  exact ⟨isPlain, Control.plain_escape event.message⟩

/-- A line of the system log is the identifier, a head of its own and the written message. -/
theorem exists_logLine_eq (event : Event) (identifier : String) :
    ∃ head : String,
      Plain head.toList ∧
        event.logLine identifier = identifier ++ head ++ Control.escape event.message := by
  unfold logLine
  cases event.phase with
  | none =>
      exact ⟨": ", by decide, rfl⟩
  | some phase =>
      refine ⟨"(" ++ phase.label ++ "): ", ?_, by simp only [String.append_assoc]⟩
      simp only [String.toList_append, Control.plain_append]
      exact ⟨⟨by decide, phase.plain_label⟩, by decide⟩

/-- Nothing but the identifier brings a control character into a line of the system log. -/
theorem mem_logLine_iff
    (event : Event)
    (identifier : String)
    {control : Char}
    (isControl : Control.isControl control = true) :
    control ∈ (event.logLine identifier).toList ↔ control ∈ identifier.toList := by
  obtain ⟨head, isPlain, shape⟩ := event.exists_logLine_eq identifier
  have notInHead := Control.not_mem_of_plain isPlain isControl
  have notInMessage := Control.not_mem_of_plain (Control.plain_escape event.message) isControl
  simp [shape, notInHead, notInMessage]

/-- So the line holds none when its identifier holds none. -/
theorem plain_logLine
    (event : Event)
    {identifier : String}
    (isPlain : Plain identifier.toList) :
    Plain (event.logLine identifier).toList := by
  intro character inLine
  rw [← Bool.not_eq_true]
  intro isControl
  have inIdentifier := (event.mem_logLine_iff identifier isControl).mp inLine
  exact Control.not_mem_of_plain isPlain isControl inIdentifier

/-- What stands in the trace file for an event, up to the end of the line. -/
def traceText (event : Event) (stamp : String) : String :=
  stamp ++ " " ++ event.severity.label ++ " " ++ event.display

theorem plain_traceText
    (event : Event)
    {stamp : String}
    (plainStamp : Plain stamp.toList) :
    Plain (event.traceText stamp).toList := by
  simp only [traceText, String.toList_append, Control.plain_append]
  exact ⟨⟨⟨⟨plainStamp, by decide⟩, event.severity.plain_label⟩, by decide⟩,
    event.plain_display⟩

/-- The call that logs a notice or an error, whatever its message holds. -/
theorem logCall?_eq
    (event : Event)
    {identifier : String}
    (noNul : '\x00' ∉ identifier.toList) :
    event.logCall? identifier =
      event.severity.logPriority?.map fun priority => ⟨priority, event.logLine identifier⟩ := by
  have noNulInLine : '\x00' ∉ (event.logLine identifier).toList :=
    mt (event.mem_logLine_iff identifier rfl).mp noNul
  unfold logCall?
  cases event.severity.logPriority? with
  | none =>
      rfl
  | some priority =>
      exact if_neg noNulInLine

/-- A debug event is not logged. -/
theorem logCall?_of_debug
    {event : Event}
    (isDebug : event.severity = .debug)
    (identifier : String) :
    event.logCall? identifier = none := by
  rw [logCall?, isDebug]
  rfl

/-- Neither is any event under an identifier with U+0000. -/
theorem logCall?_of_nul
    (event : Event)
    {identifier : String}
    (hasNul : '\x00' ∈ identifier.toList) :
    event.logCall? identifier = none := by
  have inLine := (event.mem_logLine_iff identifier rfl).mpr hasNul
  unfold logCall?
  cases event.severity.logPriority? with
  | none =>
      rfl
  | some priority =>
      exact if_pos inLine

theorem traceLine_eq (event : Event) (stamp : String) :
    event.traceLine stamp = event.traceText stamp ++ "\n" :=
  rfl

/-- What the standard sinks hand out for an event. -/
def standardDeliveries (event : Event) : List Delivery :=
  (event.severity.logPriority?.map fun priority =>
      .logged ⟨priority, event.logLine moduleName⟩).toList ++
    [.traced event.traceRecord]

/-- The lines that events add to a trace file for which the clock was read so often. -/
def traceLines (clock : Clock) (readings : Nat) (events : List Event) : List String :=
  events.mapIdx fun index event => event.traceText (clock (readings + index)) ++ "\n"

theorem traceLines_cons (clock : Clock) (readings : Nat) (event : Event) (rest : List Event) :
    traceLines clock readings (event :: rest) =
      event.traceLine (clock readings) :: traceLines clock (readings + 1) rest := by
  simp only [traceLines, List.mapIdx_cons, Nat.add_zero, traceLine_eq, Nat.add_assoc,
    Nat.add_comm 1]

end Event

namespace TraceFile

/-- The trace file behind events that were recorded one after the other. -/
def recordEach (clock : Clock) (events : List Event) (file : TraceFile) : TraceFile :=
  events.foldl (fun before event => before.record clock event) file

/-- Where nothing can be written, nothing changes. -/
theorem recordEach_of_not_writable
    (clock : Clock)
    (events : List Event)
    {file : TraceFile}
    (refused : file.place.writable = false) :
    file.recordEach clock events = file := by
  induction events with
  | nil =>
      rfl
  | cons event rest inductionHypothesis =>
      have unchanged : file.record clock event = file := by
        rw [record, refused]
        rfl
      rw [recordEach, List.foldl_cons, unchanged]
      exact inductionHypothesis

/-- A regular file keeps what it holds and gets the lines of the events behind it. -/
theorem recordEach_file
    (clock : Clock)
    (events : List Event)
    (content : List UInt8)
    (readings : Nat) :
    recordEach clock events ⟨.file content, readings⟩ =
      ⟨.file (content ++
          (String.join (Event.traceLines clock readings events)).toUTF8.data.toList),
        readings + events.length⟩ := by
  -- The content grows and the clock goes on with each event, so both are arbitrary here.
  induction events generalizing content readings with
  | nil =>
      simp [recordEach, Event.traceLines]
  | cons event rest inductionHypothesis =>
      calc
        recordEach clock (event :: rest) ⟨.file content, readings⟩ =
            recordEach clock rest
              ⟨.file (content ++ (event.traceLine (clock readings)).toUTF8.data.toList),
                readings + 1⟩ :=
          rfl
        _ = ⟨.file (content ++ (event.traceLine (clock readings)).toUTF8.data.toList ++
              (String.join (Event.traceLines clock (readings + 1) rest)).toUTF8.data.toList),
            readings + 1 + rest.length⟩ :=
          inductionHypothesis _ _
        _ = ⟨.file (content ++ (String.join
              (Event.traceLines clock readings (event :: rest))).toUTF8.data.toList),
            readings + (event :: rest).length⟩ := by
          simp [Event.traceLines_cons, Nat.add_assoc, Nat.add_comm 1]

/-- The first event at a free path makes a file of its line. -/
theorem recordEach_absent
    (clock : Clock)
    (event : Event)
    (rest : List Event)
    (readings : Nat) :
    recordEach clock (event :: rest) ⟨.absent, readings⟩ =
      ⟨.file (String.join
          (Event.traceLines clock readings (event :: rest))).toUTF8.data.toList,
        readings + (event :: rest).length⟩ := by
  calc
    recordEach clock (event :: rest) ⟨.absent, readings⟩ =
        recordEach clock (event :: rest) ⟨.file [], readings⟩ := by
      simp [recordEach, record, TracePlace.writable, TracePlace.append]
    _ = _ := by
      rw [recordEach_file, List.nil_append]

end TraceFile

namespace Sink

/-- Each event goes to the system log, then to the trace file, then to the structured trace. -/
theorem run_record_standard (clock : Clock) (event : Event) (file : TraceFile) :
    run (standard.record clock event) file =
      ⟨(), file.record clock event, event.standardDeliveries⟩ := by
  have inOrder :
      run (standard.record clock event) file =
        ⟨(), file.record clock event,
          ((event.logCall? moduleName).map Delivery.logged).toList ++
            ([] ++ ([.traced event.traceRecord] ++ []))⟩ :=
    rfl
  rw [inOrder, event.logCall?_eq (by decide), Option.map_map]
  rfl

theorem run_recordEach_standard (clock : Clock) (events : List Event) (file : TraceFile) :
    run (standard.recordEach clock events) file =
      ⟨(), file.recordEach clock events, events.flatMap Event.standardDeliveries⟩ := by
  induction events generalizing file with
  | nil =>
      rfl
  | cons event rest inductionHypothesis =>
      rw [recordEach, run_bind, run_record_standard]
      dsimp only
      rw [inductionHypothesis]
      rfl

/-- What the log calls among the standard deliveries are. -/
theorem filterMap_logged_standardDeliveries (event : Event) :
    event.standardDeliveries.filterMap Delivery.logged? =
      if event.severity = .debug then
        []
      else
        [⟨if event.severity = .error then 80 ||| 3 else 80 ||| 5, event.logLine moduleName⟩] := by
  unfold Event.standardDeliveries
  cases event.severity <;> rfl

theorem filterMap_traced_standardDeliveries (event : Event) :
    event.standardDeliveries.filterMap Delivery.traced? = [event.traceRecord] := by
  unfold Event.standardDeliveries
  cases event.severity <;> rfl

/--
What is left of events that were recorded through the standard sinks, one after the
other: all of them as they are in the structured trace, one call of the system log for
each notice and each error, and one line for each event in the trace file, if it can be
written. A link, a directory or nothing at all in the way of the file changes nothing
else, and nothing on the disk.
-/
structure KeepsRecord
    (clock : Clock)
    (events : List Event)
    (before : TraceFile)
    (report : Report TraceFile Delivery Unit) : Prop where
  traced :
    report.effects.filterMap Delivery.traced? =
      events.map fun event =>
        ⟨event.severity.traceLevel, event.message,
          [("phase", (event.phase.map Phase.label).getD "-")]⟩
  logged :
    report.effects.filterMap Delivery.logged? =
      (events.filter fun event => event.severity ≠ .debug).map fun event =>
        ⟨if event.severity = .error then 80 ||| 3 else 80 ||| 5, event.logLine moduleName⟩
  plainCalls :
    ∀ call, .logged call ∈ report.effects → Plain call.line.toList
  unaffected :
    ∀ other, (run (standard.recordEach clock events) other).effects = report.effects
  created :
    before.place = .absent →
    report.world.place =
      if events = [] then
        .absent
      else
        .file (String.join (Event.traceLines clock before.readings events)).toUTF8.data.toList
  extended :
    ∀ content,
      before.place = .file content →
      report.world.place =
        .file (content ++
          (String.join (Event.traceLines clock before.readings events)).toUTF8.data.toList)
  plainLines :
    (Event.traceLines clock before.readings events).length = events.length ∧
      ∀ line ∈ Event.traceLines clock before.readings events,
        ∃ text, line = text ++ "\n" ∧ Plain text.toList
  untouched :
    before.place = .directory ∨
        before.place = .unreachable ∨
        (∃ target, before.place = .link target) →
      report.world = before

end Sink

end LoginGate
