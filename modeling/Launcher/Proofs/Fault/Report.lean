import Launcher.Proofs.Rehearsal.ScriptedWriter
import Launcher.Proofs.Text.Lines
import Launcher.Proofs.Text.Utf8
import Launcher.Proofs.Trap
import Mathlib.Data.List.Basic

/-!
# A report says which fault it reports

The report of a fault has a line for the message and one for each call site, each ended by a line
break, and a line more for every line break inside them. Without such line breaks the fault can be
read off its report again, whatever the texts look like: a line is a message or a call site by where
it stands, not by what it says.

- `Sink.TakesAll`: a stream that takes whatever it is given.
- `FaultRecord.ofReport?`: the fault that a report is about.
- `FaultRecord.ofReport?_report`: it is the fault that was reported.
- `FaultRecord.report_determines`: what is written of a fault, and what that says about it.
-/

namespace Launcher

/-! ## Streams that take everything -/

/-- A stream that takes all it is given in the states that are `ready`, and stays ready; `taken`
shows what it has taken so far. Whether a flush succeeds is left open. -/
structure Sink.TakesAll {ω : Type} (sink : Sink ω) (taken : ω → List UInt8) (ready : ω → Prop) :
    Prop where
  accepts : ∀ bytes w, ready w → (sink.writeAll bytes w).1 = none
  takes : ∀ bytes w, ready w → taken (sink.writeAll bytes w).2 = taken w ++ bytes
  stays : ∀ bytes w, ready w → ready (sink.writeAll bytes w).2
  flushed : ∀ w, ready w → taken (sink.flush w).2 = taken w

/-- Lines written to such a stream are taken one after the other. -/
theorem Sink.TakesAll.taken_writeLines {ω : Type} {sink : Sink ω} {taken : ω → List UInt8}
    {ready : ω → Prop} (h : sink.TakesAll taken ready) (lines : List String) {w : ω}
    (hw : ready w) :
    taken (sink.writeLines lines w).2.2 = taken w ++ lines.flatMap Text.Utf8.encode := by
  induction lines generalizing w with
  | nil => simpa [Sink.writeLines, Sink.finish] using h.flushed w hw
  | cons line rest ih =>
    have haccepts : (sink.write line w).1 = none := h.accepts (Text.Utf8.encode line) w hw
    have hline : (sink.writeLines (line :: rest) w).2.2 =
        (sink.writeLines rest (sink.writeAll (Text.Utf8.encode line) w).2).2.2 := by
      rw [Sink.writeLines, Quiet.bind_apply, haccepts]
      rfl
    rw [hline, ih (h.stays _ w hw), h.takes _ w hw, List.append_assoc, List.flatMap_cons]

/-! ## What is offered to a stream -/

namespace Event

/-- Whether an event is a write to the diagnostics stream or a flush of it. -/
def isOffer : Event → Bool
  | .write .. | .flush _ => true
  | _ => false

/-- The writes and flushes of a trace, in order. -/
def offers (trace : List Event) : List Event := trace.filter isOffer

@[simp] theorem offers_append (t u : List Event) : offers (t ++ u) = offers t ++ offers u :=
  List.filter_append ..

/-- Nothing that is noted beyond the seam is offered to the stream. -/
theorem offers_own (t : List Event) : offers (own t) = offers t := by
  rw [offers, own, List.filter_filter]
  refine List.filter_congr fun e _ => ?_
  cases e <;> simp [isOffer, isNote]

theorem offers_panicEvents {α : Type} (ending : Ending α) : offers ending.panicEvents = [] := by
  cases ending <;> rfl

theorem offers_writeLines {ω : Type} (sink : Sink ω) (lines : List String) (w : ω) :
    offers (sink.writeLines lines w).2.1 = (sink.writeLines lines w).2.1 := by
  refine List.filter_eq_self.2 fun e he => ?_
  rcases sink.writeLines_events lines w e he with ⟨bytes, error, rfl⟩ | ⟨error, rfl⟩ <;> rfl

end Event

/-- A report under the trap offers the stream what the record itself does, and leaves the stream in
the same state. -/
theorem Trap.offers_report {σ ω : Type} (vm : Vm σ) (sink : Sink ω) (record : FaultRecord)
    (c : Console σ ω) :
    (Trap.report vm sink record c).state.sink = (record.write sink c.sink).2.2 ∧
      Event.offers (Trap.report vm sink record c).trace = (record.write sink c.sink).2.1 := by
  obtain ⟨answer, -, htrace, hstate⟩ := Trap.report_spec vm sink record c
  have hlog : Event.offers (Trap.reportEvents sink c.sink record) =
      (record.write sink c.sink).2.1 := by
    have hwrites : Event.offers (record.write sink c.sink).2.1 = (record.write sink c.sink).2.1 :=
      Event.offers_writeLines sink record.lines c.sink
    unfold Trap.reportEvents
    rw [Event.offers_append, hwrites]
    cases (record.write sink c.sink).1 <;> exact List.append_nil _
  have hbreak : Event.offers (.call (.debugBreak answer) :: answer.panicEvents) = [] :=
    Event.offers_panicEvents answer
  refine ⟨hstate, ?_⟩
  rw [← Event.offers_own, htrace, Event.offers_append, hlog, hbreak, List.append_nil]

/-! ## What is written -/

namespace FaultRecord

/-- The texts on the lines of a report. -/
def texts (r : FaultRecord) : List (List Char) :=
  (heading ++ r.message).toList :: r.stack.map fun label => (calledFrom ++ label).toList

/-- How many line breaks are inside the message and the call sites. -/
def breaks (r : FaultRecord) : Nat :=
  ((r.message :: r.stack).flatMap String.toList).count '\n'

/-- A fault of which the message and every call site fit on a line. -/
def OneLined (r : FaultRecord) : Prop := ∀ text ∈ r.message :: r.stack, '\n' ∉ text.toList

instance (r : FaultRecord) : Decidable r.OneLined :=
  inferInstanceAs (Decidable (∀ text ∈ r.message :: r.stack, '\n' ∉ text.toList))

/-- A report is its texts, each followed by a line break. -/
theorem toList_report (r : FaultRecord) :
    r.report.toList = r.texts.flatMap (· ++ ['\n']) := by
  have hstack : ∀ labels : List String,
      (String.join (labels.map fun label => calledFrom ++ label ++ newline)).toList =
        (labels.map fun label => (calledFrom ++ label).toList).flatMap (· ++ ['\n']) := by
    intro labels
    induction labels with
    | nil => rfl
    | cons label rest ih =>
      rw [List.map_cons, String.join_cons, String.toList_append, ih, String.toList_append]
      rfl
  rw [report, lines, String.join_cons, String.toList_append, hstack, String.toList_append]
  rfl

/-- The last line of a report is ended like the others. -/
theorem exists_report_eq (r : FaultRecord) : ∃ cs, r.report.toList = cs ++ ['\n'] := by
  rw [toList_report]
  exact Text.exists_flatMap_eq (List.cons_ne_nil _ _)

/-- A report has a line break after each of its texts, and those inside them. -/
theorem count_report (r : FaultRecord) : r.report.toList.count '\n' = 1 + r.depth + r.breaks := by
  have hline : ∀ words text : String, '\n' ∉ words.toList →
      ((words ++ text).toList ++ ['\n']).count '\n' = text.toList.count '\n' + 1 := by
    intro words text hwords
    rw [String.toList_append, List.count_append, List.count_append,
      List.count_eq_zero_of_not_mem hwords]
    simp
  have hstack : ∀ labels : List String,
      ((labels.map fun label => (calledFrom ++ label).toList).flatMap (· ++ ['\n'])).count '\n' =
        labels.length + (labels.flatMap String.toList).count '\n' := by
    intro labels
    induction labels with
    | nil => rfl
    | cons label rest ih =>
      rw [List.map_cons, List.flatMap_cons, List.count_append, ih, hline _ _ (by decide),
        List.flatMap_cons, List.count_append, List.length_cons]
      omega
  rw [toList_report, texts, List.flatMap_cons, List.count_append, hstack, hline _ _ (by decide),
    depth, breaks, List.flatMap_cons, List.count_append]
  omega

theorem length_lines_report (r : FaultRecord) :
    (Text.lines r.report.toList).length = 1 + r.depth + r.breaks := by
  obtain ⟨cs, hcs⟩ := r.exists_report_eq
  rw [hcs, Text.length_lines, ← hcs, count_report]

/-! ## Reading a report -/

/-- What follows some words at the beginning of a line, if it begins with them. -/
def after? (words : String) (line : List Char) : Option String :=
  (words.toList.isPrefixOf? line).map String.ofList

/-- The fault that a report is about: the message without its heading on the first line, and a call
site without the words before it on every further line. -/
def ofReport? (text : String) : Option FaultRecord :=
  match Text.lines text.toList with
  | [] => none
  | first :: rest => do
    let message ← after? heading first
    let stack ← rest.mapM (after? calledFrom)
    return ⟨message, stack⟩

theorem after?_append (words text : String) :
    after? words (words ++ text).toList = some text := by
  have hrest : words.toList.isPrefixOf? (words ++ text).toList = some text.toList := by
    rw [List.isPrefixOf?_eq_some_iff_append_eq, String.toList_append]
  rw [after?, hrest, Option.map_some, String.ofList_toList]

theorem mapM_after? (words : String) (texts : List String) :
    (texts.map fun text => (words ++ text).toList).mapM (after? words) = some texts := by
  induction texts with
  | nil => rfl
  | cons text rest ih =>
    rw [List.map_cons, List.mapM_cons, after?_append, ih]
    rfl

/-- The lines of a report are its texts, if each of them fits on a line. -/
theorem OneLined.lines_report {r : FaultRecord} (h : r.OneLined) :
    Text.lines r.report.toList = r.texts := by
  have hline : ∀ words text : String, '\n' ∉ words.toList → '\n' ∉ text.toList →
      '\n' ∉ (words ++ text).toList := by
    intro words text hwords htext hmem
    rw [String.toList_append] at hmem
    exact (List.mem_append.1 hmem).elim hwords htext
  obtain ⟨hmessage, hstack⟩ := List.forall_mem_cons.1 h
  rw [toList_report, Text.lines_flatMap]
  refine List.forall_mem_cons.2 ⟨hline _ _ (by decide) hmessage, fun line hmem => ?_⟩
  obtain ⟨label, hlabel, rfl⟩ := List.mem_map.1 hmem
  exact hline _ _ (by decide) (hstack label hlabel)

/-- A fault is read off its report. -/
theorem ofReport?_report {r : FaultRecord} (h : r.OneLined) : ofReport? r.report = some r := by
  rw [ofReport?, h.lines_report]
  simp only [texts, after?_append, mapM_after?]
  rfl

/-! ## What a report says -/

theorem taken_write {ω : Type} {sink : Sink ω} {taken : ω → List UInt8} {ready : ω → Prop}
    (h : sink.TakesAll taken ready) {w : ω} (hw : ready w) (r : FaultRecord) :
    taken (r.write sink w).2.2 = taken w ++ Text.Utf8.encode r.report := by
  rw [report, Text.Utf8.encode_join]
  exact h.taken_writeLines r.lines hw

/-- What is written of a fault ends with a line break and has a line for the message, for every call
site and for every line break inside them. Of a fault without such line breaks it says everything:
it reads back as that fault, and so no other such fault is written alike. Nothing else is written
under the trap, whatever the stream does. -/
theorem report_determines {ω : Type} {sink : Sink ω} {taken : ω → List UInt8} {ready : ω → Prop}
    (h : sink.TakesAll taken ready) {w : ω} (hw : ready w) :
    (∀ r : FaultRecord, ∃ text : String,
      taken (r.write sink w).2.2 = taken w ++ Text.Utf8.encode text ∧
      text.toList.getLast? = some '\n' ∧
      (Text.lines text.toList).length = 1 + r.depth + r.breaks ∧
      (r.OneLined → ofReport? text = some r)) ∧
    (∀ r r' : FaultRecord, r.OneLined → r'.OneLined →
      taken (r.write sink w).2.2 = taken (r'.write sink w).2.2 → r = r') ∧
    ∀ (σ ω' : Type) (vm : Vm σ) (other : Sink ω') (c : Console σ ω') (r : FaultRecord),
      (Trap.report vm other r c).state.sink = (r.write other c.sink).2.2 ∧
        Event.offers (Trap.report vm other r c).trace = (r.write other c.sink).2.1 := by
  refine ⟨fun r => ⟨r.report, taken_write h hw r, ?last, r.length_lines_report, ofReport?_report⟩,
    ?injective, fun _ _ vm other c r => Trap.offers_report vm other r c⟩
  case last =>
    obtain ⟨cs, hcs⟩ := r.exists_report_eq
    rw [hcs, List.getLast?_concat]
  case injective =>
    intro r r' hr hr' heq
    rw [taken_write h hw, taken_write h hw] at heq
    have hreport : r.report = r'.report :=
      Text.Utf8.encode_injective (List.append_cancel_left heq)
    rw [← Option.some_inj, ← ofReport?_report hr, hreport, ofReport?_report hr']

open Rehearsal

/-- A scripted writer without a budget takes everything. -/
theorem takesAll_unlimited : ScriptedWriter.sink.TakesAll ScriptedWriter.taken
    (fun w => w.budget = none ∧ w.GetsOn) where
  accepts bytes w hw := by
    show (w.writeAll bytes).1 = none
    have hfits : w.fits bytes = true := by simp [ScriptedWriter.fits, hw.1]
    rw [ScriptedWriter.writeAll_eq hw.2, ScriptedWriter.shortage_of_fits hfits]
  takes bytes w hw := by
    show (w.writeAll bytes).2.taken = w.taken ++ bytes
    rw [ScriptedWriter.writeAll_eq hw.2]
    simp [ScriptedWriter.accepting, ScriptedWriter.admitted, hw.1]
  stays bytes w hw := by
    show (w.writeAll bytes).2.budget = none ∧ (w.writeAll bytes).2.GetsOn
    rw [ScriptedWriter.writeAll_eq hw.2]
    exact ⟨by simp [ScriptedWriter.accepting, hw.1], hw.2.accepting bytes⟩
  flushed _ _ := rfl

/-- A writer that is interrupted once and takes two octets at a time. -/
def patientWriter : ScriptedWriter := ⟨none, none, none, 1, some 2, [], 0⟩

/-- A fault whose message looks like a call site, with a call site that looks like a message. -/
def lookalike : FaultRecord := ⟨"Called from ", ["", "Uncaught exception: "]⟩

/-- It has three lines, and they are told apart. -/
theorem report_determines_lookalike :
    (patientWriter.budget = none ∧ patientWriter.GetsOn) ∧ lookalike.OneLined ∧
      ∃ text, (lookalike.write ScriptedWriter.sink patientWriter).2.2.taken =
          Text.Utf8.encode text ∧
        text = "Uncaught exception: Called from \nCalled from \nCalled from Uncaught exception: \n" ∧
        (Text.lines text.toList).length = 3 ∧ ofReport? text = some lookalike := by
  have hready : patientWriter.budget = none ∧ patientWriter.GetsOn :=
    ⟨rfl, fun n hn => by cases hn; decide, nofun⟩
  have hlined : lookalike.OneLined := by decide
  obtain ⟨text, htaken, -, hlength, hread⟩ :=
    (report_determines takesAll_unlimited hready).1 lookalike
  have hlines : Text.Utf8.encode text = Text.Utf8.encode lookalike.report :=
    List.append_cancel_left (htaken.symm.trans (taken_write takesAll_unlimited hready lookalike))
  have hreport : lookalike.report =
      "Uncaught exception: Called from \nCalled from \nCalled from Uncaught exception: \n" := by
    decide
  exact ⟨hready, hlined, text, htaken, (Text.Utf8.encode_injective hlines).trans hreport, hlength,
    hread hlined⟩

end FaultRecord

end Launcher
