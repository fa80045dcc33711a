import LoginGate.Proofs.Diagnostics.StandardSinks
import LoginGate.Proofs.Text.Escaping

namespace LoginGate

/-!
# Whole lines in the system log

A message may hold anything, line breaks and U+0000 among it. Escaped, it can neither
end a line early nor keep one from being logged. What can is an identifier with a
U+0000 of its own, and nothing else.
-/

open Interaction
open Control (InCc Plain)

/-- What the system log takes of a line: everything in front of its first U+0000. -/
def LogCall.taken (call : LogCall) : String :=
  String.ofList (call.line.toList.takeWhile fun character => character ≠ '\x00')

/-- The call that a notice or an error asks for: `LOG_AUTHPRIV` at its level, and its line. -/
def Event.wholeCall (event : Event) (identifier : String) : LogCall :=
  ⟨if event.severity = .error then 80 ||| 3 else 80 ||| 5, event.logLine identifier⟩

/-- A line without U+0000 is taken as a whole. -/
theorem LogCall.taken_eq_line
    {call : LogCall}
    (noNul : '\x00' ∉ call.line.toList) :
    call.taken = call.line := by
  have noneIsNul : ∀ character ∈ call.line.toList, decide (character ≠ '\x00') = true := by
    intro character inLine
    exact decide_eq_true (ne_of_mem_of_not_mem inLine noNul)
  rw [taken, List.takeWhile_eq_self_iff.mpr noneIsNul, String.ofList_toList]

namespace Event

/-- A notice or an error is logged by its whole call. -/
theorem logCall?_of_logged
    {event : Event}
    (isLogged : event.severity ≠ .debug)
    {identifier : String}
    (noNul : '\x00' ∉ identifier.toList) :
    event.logCall? identifier = some (event.wholeCall identifier) := by
  rw [event.logCall?_eq noNul, wholeCall]
  cases severity : event.severity with
  | debug =>
      exact absurd severity isLogged
  | notice =>
      rfl
  | error =>
      rfl

/-- A notice or an error is dropped for what its identifier holds, and for nothing else. -/
theorem logCall?_eq_none_iff
    {event : Event}
    (isLogged : event.severity ≠ .debug)
    (identifier : String) :
    event.logCall? identifier = none ↔ '\x00' ∈ identifier.toList := by
  constructor
  · intro isDropped
    by_cases hasNul : '\x00' ∈ identifier.toList
    · exact hasNul
    · cases isDropped.symm.trans (logCall?_of_logged isLogged hasNul)
  · exact event.logCall?_of_nul

/-- What events are logged by: each notice and each error by its whole call, in order. -/
theorem filterMap_logCall?
    {identifier : String}
    (noNul : '\x00' ∉ identifier.toList)
    (events : List Event) :
    events.filterMap (fun event => event.logCall? identifier) =
      (events.filter fun event => event.severity ≠ .debug).map fun event =>
        event.wholeCall identifier := by
  induction events with
  | nil =>
      rfl
  | cons event rest inductionHypothesis =>
      by_cases isDebug : event.severity = .debug
      · rw [List.filter_cons_of_neg (by simp [isDebug]), ← inductionHypothesis]
        simp only [List.filterMap_cons, logCall?_of_debug isDebug]
      · rw [List.filter_cons_of_pos (by simp [isDebug]), List.map_cons, ← inductionHypothesis]
        simp only [List.filterMap_cons, logCall?_of_logged isDebug noNul]

end Event

namespace SystemLog

/-- The system log gets the call of an event, if there is one, and the trace file nothing. -/
theorem run_record
    (clock : Clock)
    (identifier : String)
    (event : Event)
    (file : TraceFile) :
    run ((SinkLeaf.systemLog identifier).record clock event) file =
      ⟨(), file, ((event.logCall? identifier).map Delivery.logged).toList⟩ :=
  rfl

/-- Event by event, the system log gets the calls of a run. -/
theorem run_recordEach
    (clock : Clock)
    (identifier : String)
    (events : List Event)
    (file : TraceFile) :
    run ((Sink.leaf (.systemLog identifier)).recordEach clock events) file =
      ⟨(), file,
        (events.filterMap fun event => event.logCall? identifier).map Delivery.logged⟩ := by
  induction events with
  | nil =>
      rfl
  | cons event rest inductionHypothesis =>
      rw [Sink.recordEach, run_bind, Sink.record, run_record]
      dsimp only
      rw [inductionHypothesis, List.filterMap_cons]
      cases event.logCall? identifier with
      | none =>
          rfl
      | some call =>
          rfl

/--
What becomes of events on their way to the system log, whatever their messages hold.

Their one-line forms have no control character, and in a line of the log every control
character is one of the identifier; both end in the whole escaped message. Under an
identifier without U+0000 each notice and each error is passed on by one call, whose line
is taken to its end. An event that should be logged is lost under no other identifier
than one with U+0000.
-/
structure KeepsLines (clock : Clock) (identifier : String) : Prop where
  escaping : ∀ text, Control.EscapingLaws text
  displayed : ∀ event : Event, ∀ character ∈ event.display.toList, ¬ InCc character
  shown :
    ∀ event : Event, ∃ head,
      Plain head.toList ∧ event.display = head ++ Control.escape event.message
  ofIdentifier :
    ∀ event : Event, ∀ control,
      InCc control →
      (control ∈ (event.logLine identifier).toList ↔ control ∈ identifier.toList)
  complete :
    ∀ event : Event, ∃ head,
      Plain head.toList ∧
        event.logLine identifier = identifier ++ head ++ Control.escape event.message
  passed :
    '\x00' ∉ identifier.toList →
    ∀ event : Event,
      event.severity ≠ .debug →
      ∀ file,
        run ((SinkLeaf.systemLog identifier).record clock event) file =
          ⟨(), file, [.logged (event.wholeCall identifier)]⟩
  taken :
    '\x00' ∉ identifier.toList →
    ∀ event : Event, (event.wholeCall identifier).taken = event.logLine identifier
  passedEach :
    '\x00' ∉ identifier.toList →
    ∀ events file,
      run ((Sink.leaf (.systemLog identifier)).recordEach clock events) file =
        ⟨(), file,
          (events.filter fun event => event.severity ≠ .debug).map fun event =>
            .logged (event.wholeCall identifier)⟩
  lost :
    ∀ event : Event,
      event.severity ≠ .debug →
      ∀ file,
        (run ((SinkLeaf.systemLog identifier).record clock event) file).effects = [] ↔
          '\x00' ∈ identifier.toList

/-- The system log keeps the lines of all events. -/
theorem keepsLines (clock : Clock) (identifier : String) : KeepsLines clock identifier := by
  constructor
  case escaping =>
    exact Control.escapingLaws
  case displayed =>
    intro event character isShown
    exact (Control.isControl_eq_false_iff character).mp (event.plain_display character isShown)
  case shown =>
    exact Event.exists_display_eq
  case ofIdentifier =>
    intro event control inCc
    exact event.mem_logLine_iff identifier ((Control.isControl_eq_true_iff control).mpr inCc)
  case complete =>
    intro event
    exact event.exists_logLine_eq identifier
  case passed =>
    intro noNul event isLogged file
    rw [run_record, Event.logCall?_of_logged isLogged noNul]
    rfl
  case taken =>
    intro noNul event
    have noNulInLine : '\x00' ∉ (event.logLine identifier).toList :=
      mt (event.mem_logLine_iff identifier rfl).mp noNul
    exact LogCall.taken_eq_line noNulInLine
  case passedEach =>
    intro noNul events file
    rw [run_recordEach, Event.filterMap_logCall? noNul, List.map_map]
    rfl
  case lost =>
    intro event isLogged file
    rw [run_record, Option.toList_eq_nil_iff, Option.map_eq_none_iff]
    exact Event.logCall?_eq_none_iff isLogged identifier

/-- A message with U+0000 is logged like any other. -/
example :
    (Event.error .openSession "bad\x00byte").logCall? moduleName =
      some ⟨83, "pam_sessionwarden(open session): bad\\0byte"⟩ := by
  decide

end SystemLog

end LoginGate
