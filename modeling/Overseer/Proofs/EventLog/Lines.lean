import Overseer.EventLog.Sink
import Overseer.Proofs.Data.Json
import Overseer.Proofs.Time.Stamp

/-!
# The log tells the events

A sink for JSON lines appends one line for each event that it is handed, in order. No line has
a line break in it, whatever the processes are called, and no two sequences of events leave the
same text: what happened can be told from the log alone.

Results:
1. `Event.toJson_inj`: events that differ have documents that differ.
2. `Event.line_unbroken`: a line has no line break in it.
3. `Sink.recordEach_jsonLines`: what a sink writes for some events.
4. `logText_inj`: the text determines the events.
5. `Sink.jsonLines_unambiguous`: all of this for a sink that writes to a text.
-/

namespace Overseer

/-! ## Words -/

theorem ProcessState.text_inj {a b : ProcessState} : a.text = b.text → a = b := by
  cases a <;> cases b <;> decide

theorem ProcessState.toJson_inj {a b : ProcessState} (h : a.toJson = b.toJson) : a = b :=
  text_inj (Json.string.inj h)

theorem TaskStatus.text_inj {a b : TaskStatus} : a.text = b.text → a = b := by
  cases a <;> cases b <;> decide

theorem TaskStatus.toJson_inj {a b : TaskStatus} (h : a.toJson = b.toJson) : a = b :=
  text_inj (Json.string.inj h)

theorem word_inj {a b : UInt32} (h : Json.number a.toNat = .number b.toNat) : a = b :=
  UInt32.toNat_inj.mp (Int.ofNat.inj (Json.number.inj h))

theorem FailureReason.toJson_inj {a b : FailureReason} (h : a.toJson = b.toJson) : a = b := by
  cases a <;> cases b
  case budgetExceeded.budgetExceeded =>
    simp only [toJson, Json.object.injEq, List.cons.injEq, Prod.mk.injEq, Json.string.injEq,
      true_and, and_true] at h
    obtain ⟨rfl, hfailures, hlimit⟩ := h
    rw [word_inj hfailures, word_inj hlimit]
  all_goals simp_all [toJson]

/-! ## Events -/

theorem Transition.jsonFields_inj {a b : Transition} (h : a.jsonFields = b.jsonFields) :
    a = b := by
  obtain ⟨⟨process, index⟩, oldState, newState, timestamp⟩ := a
  obtain ⟨⟨process', index'⟩, oldState', newState', timestamp'⟩ := b
  simp only [jsonFields, List.cons.injEq, Prod.mk.injEq, Json.string.injEq, true_and,
    and_true] at h
  obtain ⟨rfl, hindex, hold, hnew, hstamp⟩ := h
  rw [word_inj hindex, ProcessState.toJson_inj hold, ProcessState.toJson_inj hnew,
    Instant.stamp_inj hstamp]

theorem StatusEntry.jsonFields_inj {a b : StatusEntry} (h : a.jsonFields = b.jsonFields) :
    a = b := by
  obtain ⟨status, timestamp, reason⟩ := a
  obtain ⟨status', timestamp', reason'⟩ := b
  simp only [jsonFields, List.cons_append, List.nil_append, List.cons.injEq, Prod.mk.injEq,
    Json.string.injEq, true_and] at h
  obtain ⟨hstatus, hstamp, hreason⟩ := h
  have hsame : reason = reason' := by
    cases reason with
    | none =>
      cases reason' with
      | none => rfl
      | some _ => cases hreason
    | some reason =>
      cases reason' with
      | none => cases hreason
      | some reason' =>
        simp only [List.cons.injEq, Prod.mk.injEq, true_and, and_true] at hreason
        rw [FailureReason.toJson_inj hreason]
  rw [TaskStatus.toJson_inj hstatus, Instant.stamp_inj hstamp, hsame]

namespace Event

theorem toJson_inj {a b : Event} (h : a.toJson = b.toJson) : a = b := by
  cases a with
  | process transition =>
    cases b with
    | process other =>
      rw [Transition.jsonFields_inj (List.cons.inj (Json.object.inj h)).2]
    | task _ => simp [toJson] at h
  | task entry =>
    cases b with
    | process _ => simp [toJson] at h
    | task other =>
      rw [StatusEntry.jsonFields_inj (List.cons.inj (Json.object.inj h)).2]

theorem line_toList (event : Event) : event.line.toList = event.toJson.compactChars := by
  rw [line, Json.compact, String.toList_ofList]

theorem line_unbroken (event : Event) : '\n' ∉ event.line.toList := by
  intro hbreak
  rw [line_toList] at hbreak
  exact absurd (event.toJson.graphic_compactChars _ hbreak) (by decide)

end Event

/-! ## Logs -/

/-- The lines of some events, with a line break after each. -/
def logText (events : List Event) : String :=
  String.join (events.map fun event => event.line ++ "\n")

theorem logText_cons (event : Event) (events : List Event) :
    logText (event :: events) = event.line ++ "\n" ++ logText events :=
  String.join_cons

theorem logText_toList (event : Event) (events : List Event) :
    (logText (event :: events)).toList =
      event.toJson.compactChars ++ '\n' :: (logText events).toList := by
  rw [logText_cons, String.toList_append, String.toList_append, Event.line_toList]
  simp

/-- Logs with one text record the same events. -/
theorem logText_inj {events others : List Event} (h : logText events = logText others) :
    events = others := by
  have hbreak : ∀ rest, EndsDigits ('\n' :: rest) := endsDigits_cons (by decide)
  induction events generalizing others with
  | nil =>
    cases others with
    | nil => rfl
    | cons other others =>
      have htext := congrArg String.toList h
      rw [logText_toList] at htext
      exact absurd htext (by simp [logText])
  | cons event events ih =>
    cases others with
    | nil =>
      have htext := congrArg String.toList h
      rw [logText_toList] at htext
      exact absurd htext (by simp [logText])
    | cons other others =>
      have htext := congrArg String.toList h
      rw [logText_toList, logText_toList] at htext
      obtain ⟨hjson, hrest⟩ := event.toJson.readable (hbreak _) (hbreak _) htext
      rw [Event.toJson_inj hjson, ih (String.toList_inj.mp (List.cons.inj hrest).2)]

/-! ## Sinks -/

theorem Writer.write_of_no_room {writer : Writer} (room : writer.room = none) (text : String) :
    writer.write text = (.ok (), { writer with written := writer.written ++ text.toUTF8 }) := by
  simp only [write, room]

/-- The text of a writer that has only taken whole texts. -/
theorem Writer.contents_of_text {writer : Writer} {text : String}
    (h : writer.written = text.toUTF8) : writer.contents = text := by
  have hread : String.fromUTF8? text.toUTF8 = some text := dif_pos text.isValidUTF8
  rw [contents, h, hread]

namespace Sink

/-- Hands events to a sink one by one. Gives its answers, and the sink after the last. -/
def recordEach (sink : Sink) : List Event → List (Except String Unit) × Sink
  | [] => ([], sink)
  | event :: rest =>
    let (answer, next, _) := sink.record event
    let (answers, last) := next.recordEach rest
    (answer :: answers, last)

/-- The bytes that a sink for JSON lines has written. -/
def written? : Sink → Option ByteArray
  | .jsonLines writer => some writer.written
  | .memory _ | .log => none

theorem recordEach_jsonLines {writer : Writer} (room : writer.room = none) (events : List Event) :
    (jsonLines writer).recordEach events = (events.map fun _ => .ok (),
      jsonLines { writer with written := writer.written ++ (logText events).toUTF8 }) := by
  induction events generalizing writer with
  | nil =>
    rw [show (logText []).toUTF8 = ByteArray.empty from rfl, ByteArray.append_empty]
    rfl
  | cons event rest ih =>
    let next := { writer with written := writer.written ++ (event.line ++ "\n").toUTF8 }
    have hwrite : writer.writeEvent event = (.ok (), next) := writer.write_of_no_room room _
    have hrest := @ih next room
    simp only [recordEach, record, hwrite, hrest]
    simp only [next, logText_cons, List.map_cons, String.toUTF8_eq_toByteArray,
      String.toByteArray_append, ByteArray.append_assoc]

/-- A sink that writes JSON lines takes all events. It appends the line of each, in order, and
a line break after it. There are no other line breaks, and another sequence of events, handed
to the same sink, leaves another text. -/
theorem jsonLines_unambiguous (writer : Writer) (room : writer.room = none)
    (events : List Event) :
    let result := (jsonLines writer).recordEach events
    let after := { writer with written := writer.written ++ (logText events).toUTF8 }
    result = (events.map fun _ => .ok (), jsonLines after) ∧
    (∀ before, writer.written = before.toUTF8 → after.contents = before ++ logText events) ∧
    (∀ event ∈ events, '\n' ∉ event.line.toList) ∧
    ∀ others, ((jsonLines writer).recordEach others).2.written? = result.2.written? →
      others = events := by
  intro result after
  have hresult := recordEach_jsonLines room
  refine ⟨hresult events, fun before hbefore => Writer.contents_of_text ?_,
    fun event _ => event.line_unbroken, fun others hsame => ?_⟩
  · simp only [after, hbefore, String.toUTF8_eq_toByteArray, String.toByteArray_append]
  · simp only [result, hresult, written?, Option.some.injEq, ByteArray.append_right_inj,
      String.toUTF8_eq_toByteArray, String.toByteArray_inj] at hsame
    exact logText_inj hsame

end Sink

/-- The first launch of a process with a quote, a backslash, a line break, a control character
and a letter beyond ASCII in its name, a nanosecond before the epoch. -/
def Event.awkward : Event :=
  .process (Transition.launch ⟨"a\"\\\n\x01\u00e9", 0⟩ ⟨-1⟩)

/-- The name is escaped, so that the line is the only one in the log. -/
theorem Sink.jsonLines_unambiguous_awkward :
    let result := (jsonLines {}).recordEach [.awkward]
    let after : Writer := { written := .empty ++ (logText [.awkward]).toUTF8 }
    Event.awkward.line = "\x7b\"type\":\"process\"," ++
      "\"process_name\":\"a\\\"\\\\\\n\\u0001\u00e9\",\"attempt_index\":0," ++
      "\"old_state\":\"PENDING\",\"new_state\":\"RUNNING\"," ++
      "\"timestamp\":\"1969-12-31T23:59:59.999999999Z\"\x7d" ∧
    result = ([.ok ()], jsonLines after) ∧ after.contents = logText [.awkward] ∧
    '\n' ∉ Event.awkward.line.toList ∧
    ∀ others, ((jsonLines {}).recordEach others).2.written? = result.2.written? →
      others = [.awkward] := by
  intro result after
  obtain ⟨hresult, hcontents, hunbroken, hothers⟩ := jsonLines_unambiguous {} rfl [.awkward]
  refine ⟨by decide +kernel, hresult, ?_, hunbroken _ List.mem_cons_self, hothers⟩
  exact (hcontents "" rfl).trans String.empty_append

end Overseer
