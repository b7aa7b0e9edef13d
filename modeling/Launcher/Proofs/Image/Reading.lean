import Launcher.Image

/-!
# How a reading goes

A reading asks a reader for what is still missing until nothing is, the reader gives nothing or
fails, or what it claims has no room in a machine word.

- `Reading.Runs`: the course of a reading, one constructor for each way a request can go;
  `Reading.runs_collect` says that the loop takes such a course.
- `Reading.Recorded`: the requests of a reading. Each asks for what is missing, while something is,
  and gets the answer of the reader's next step; in the end the reader is given up.
- `Reading.Runs.tallies`, `Reading.Runs.panics_iff`: how the counts that were received decide.
- `Image.length_of_read`: an image that was read fits the parser.
-/

namespace Launcher

namespace ReadStep

/-! ## Requests and their answers -/

/-- The answer to a request for some room by a step of a reader, or by a reader without further
steps, which gives nothing. -/
def answered (room : Nat) : Option ReadStep → ReadEvent
  | none => .gave room 0
  | some step =>
    match step.answer room with
    | .ok count => .gave room count
    | .error error => .failed room error

theorem answered_ok {step : ReadStep} {room count : Nat} (h : step.answer room = .ok count) :
    answered room (some step) = .gave room count := by
  simp [answered, h]

theorem answered_error {step : ReadStep} {room : Nat} {error : IoError}
    (h : step.answer room = .error error) : answered room (some step) = .failed room error := by
  simp [answered, h]

theorem answered_ne_dropped (room : Nat) (step : Option ReadStep) :
    answered room step ≠ .dropped := by
  rcases step with _ | step
  · simp [answered]
  · cases h : step.answer room <;> simp [answered, h]

theorem length_writes_le (room : Nat) (step : ReadStep) : (step.writes room).length ≤ room := by
  cases step with
  | data bytes | forge bytes => exact List.length_take_le ..
  | zeros count =>
    rw [writes, List.length_replicate]
    exact Nat.min_le_right ..
  | claim | fail => exact Nat.zero_le _

end ReadStep

namespace ReadEvent

/-- The count that a reader answered with; a failure counts nothing. -/
def count : ReadEvent → Nat
  | .gave _ count => count
  | .failed .. | .dropped => 0

/-- The octets that a reader has claimed in its answers. -/
def received : List ReadEvent → Nat
  | [] => 0
  | event :: reads => event.count + received reads

theorem of_single {only event : ReadEvent} {k : Nat} (h : [only][k]? = some event) :
    k = 0 ∧ only = event := by
  cases k with
  | zero => exact ⟨rfl, by simpa using h⟩
  | succ k => simp at h

@[simp] theorem received_nil : received [] = 0 := rfl

@[simp] theorem received_cons (event : ReadEvent) (reads : List ReadEvent) :
    received (event :: reads) = event.count + received reads := rfl

@[simp] theorem count_gave (room count : Nat) : (gave room count).count = count := rfl

@[simp] theorem count_failed (room : Nat) (error : IoError) : (failed room error).count = 0 := rfl

end ReadEvent

namespace Reading

open ReadEvent

/-! ## The buffer -/

theorem length_write (buffer : List UInt8) (position : Nat) (bytes : List UInt8) :
    (write buffer position bytes).length = max buffer.length (position + bytes.length) := by
  simp only [write, whole, List.length_append, List.length_take, List.length_replicate,
    List.length_drop]
  omega

theorem length_whole {size : Nat} {buffer : List UInt8} (h : buffer.length ≤ size) :
    (whole size buffer).length = size := by
  simp only [whole, List.length_append, List.length_replicate]
  omega

/-- What is written into the room that is left stays within the buffer. -/
theorem length_write_le {declared position : Nat} {buffer : List UInt8} (hleft : position < declared)
    (hbuffer : buffer.length ≤ declared) (step : ReadStep) :
    (write buffer position (step.writes (declared - position))).length ≤ declared := by
  have hwritten := step.length_writes_le (declared - position)
  rw [length_write]
  omega

/-! ## The course of a reading -/

/-- The course of reading `declared` octets: the steps that are left, the octets claimed so far and
the buffer, with the ending they lead to and the reads on the way. -/
inductive Runs (declared : Nat) :
    List ReadStep → Nat → List UInt8 → Ending (Except ShortRead (List UInt8)) → List ReadEvent →
      Prop
  /-- Nothing is missing. -/
  | full {steps : List ReadStep} {position : Nat} {buffer : List UInt8} :
    declared ≤ position →
    Runs declared steps position buffer (.returned (.ok (whole declared buffer))) []
  /-- The reader has no further steps. -/
  | spent {position : Nat} {buffer : List UInt8} :
    position < declared →
    Runs declared [] position buffer (.returned (.error ⟨position, none⟩))
      [.gave (declared - position) 0]
  /-- The reader gives nothing. -/
  | nothing {step : ReadStep} {rest : List ReadStep} {position : Nat} {buffer : List UInt8} :
    position < declared → step.answer (declared - position) = .ok 0 →
    Runs declared (step :: rest) position buffer (.returned (.error ⟨position, none⟩))
      [.gave (declared - position) 0]
  /-- The octets claimed are too many to be counted. -/
  | overflow {step : ReadStep} {rest : List ReadStep} {position count : Nat}
    {buffer : List UInt8} :
    position < declared → step.answer (declared - position) = .ok count → count ≠ 0 →
    maxPosition < position + count →
    Runs declared (step :: rest) position buffer (.panicked .additionOverflow)
      [.gave (declared - position) count]
  /-- The reader gives something. -/
  | took {step : ReadStep} {rest : List ReadStep} {position count : Nat} {buffer : List UInt8}
    {ending : Ending (Except ShortRead (List UInt8))} {reads : List ReadEvent} :
    position < declared → step.answer (declared - position) = .ok count → count ≠ 0 →
    position + count ≤ maxPosition →
    Runs declared rest (position + count)
      (write buffer position (step.writes (declared - position))) ending reads →
    Runs declared (step :: rest) position buffer ending (.gave (declared - position) count :: reads)
  /-- The reader is interrupted. -/
  | interrupted {step : ReadStep} {rest : List ReadStep} {position : Nat} {buffer : List UInt8}
    {error : IoError} {ending : Ending (Except ShortRead (List UInt8))} {reads : List ReadEvent} :
    position < declared → step.answer (declared - position) = .error error →
    error.kind = .interrupted →
    Runs declared rest position (write buffer position (step.writes (declared - position))) ending
      reads →
    Runs declared (step :: rest) position buffer ending
      (.failed (declared - position) error :: reads)
  /-- The reader fails. -/
  | failed {step : ReadStep} {rest : List ReadStep} {position : Nat} {buffer : List UInt8}
    {error : IoError} :
    position < declared → step.answer (declared - position) = .error error →
    error.kind ≠ .interrupted →
    Runs declared (step :: rest) position buffer (.returned (.error ⟨position, some error⟩))
      [.failed (declared - position) error]

theorem runs_collect (declared : Nat) (steps : List ReadStep) (position : Nat)
    (buffer : List UInt8) :
    Runs declared steps position buffer (collect declared steps position buffer).1
      (collect declared steps position buffer).2 := by
  induction steps generalizing position buffer with
  | nil =>
    unfold collect
    split
    · exact .full ‹_›
    · exact .spent (Nat.lt_of_not_le ‹_›)
  | cons step rest ih =>
    -- a request is made only while something is missing
    unfold collect
    split
    · exact .full ‹_›
    rename_i hmissing
    have hleft : position < declared := Nat.lt_of_not_le hmissing
    rcases hanswer : step.answer (declared - position) with error | count
    · simp only [hanswer]
      split
      · exact .interrupted hleft hanswer ‹_› (ih ..)
      · exact .failed hleft hanswer ‹_›
    · simp only [hanswer]
      split
      · rename_i hzero
        exact .nothing hleft (hzero ▸ hanswer)
      rename_i hcount
      split
      · exact .overflow hleft hanswer hcount ‹_›
      · exact .took hleft hanswer hcount (Nat.le_of_not_lt ‹_›) (ih ..)

variable {declared position : Nat} {steps : List ReadStep} {buffer : List UInt8}
  {ending : Ending (Except ShortRead (List UInt8))} {reads requests : List ReadEvent}

/-- Every request asks for what is missing, and something is; it is answered by the next step. -/
theorem Runs.asked (h : Runs declared steps position buffer ending reads) {k : Nat}
    {event : ReadEvent} (hk : reads[k]? = some event) :
    position + received (reads.take k) < declared ∧
      event = ReadStep.answered (declared - (position + received (reads.take k))) steps[k]? := by
  induction h generalizing k with
  | full => simp at hk
  | spent hleft =>
    obtain ⟨rfl, rfl⟩ := ReadEvent.of_single hk
    exact ⟨hleft, rfl⟩
  | nothing hleft hanswer =>
    obtain ⟨rfl, rfl⟩ := ReadEvent.of_single hk
    exact ⟨hleft, (ReadStep.answered_ok hanswer).symm⟩
  | overflow hleft hanswer =>
    obtain ⟨rfl, rfl⟩ := ReadEvent.of_single hk
    exact ⟨hleft, (ReadStep.answered_ok hanswer).symm⟩
  | failed hleft hanswer =>
    obtain ⟨rfl, rfl⟩ := ReadEvent.of_single hk
    exact ⟨hleft, (ReadStep.answered_error hanswer).symm⟩
  -- only these two go on, and the requests after them are those of what is then missing
  | took hleft hanswer _ _ _ ih =>
    cases k with
    | zero =>
      obtain rfl : _ = event := by simpa using hk
      exact ⟨hleft, (ReadStep.answered_ok hanswer).symm⟩
    | succ k => simpa [Nat.add_assoc] using ih hk
  | interrupted hleft hanswer _ _ ih =>
    cases k with
    | zero =>
      obtain rfl : _ = event := by simpa using hk
      exact ⟨hleft, (ReadStep.answered_error hanswer).symm⟩
    | succ k => simpa using ih hk

/-- There is one request more than the reader has steps at most. -/
theorem Runs.length_le (h : Runs declared steps position buffer ending reads) :
    reads.length ≤ steps.length + 1 := by
  induction h with
  | full | spent | nothing | overflow | failed => simp
  | took _ _ _ _ _ ih | interrupted _ _ _ _ ih => simpa using ih

/-- How the octets that a reader has claimed bear on the ending: an image needs all that is declared,
and what is read in vain is less. -/
def Tallies (declared total : Nat) : Ending (Except ShortRead (List UInt8)) → Prop
  | .returned (.ok _) => declared ≤ total
  | .returned (.error short) => short.read = total ∧ total < declared
  | .panicked p => p = .additionOverflow

theorem Runs.tallies (h : Runs declared steps position buffer ending reads) :
    Tallies declared (position + received reads) ending := by
  induction h with
  | full hfull => simpa [Tallies] using hfull
  | spent hleft | nothing hleft => simpa [Tallies] using hleft
  | failed hleft => simpa [Tallies] using hleft
  | overflow => rfl
  | took _ _ _ _ _ ih => simpa [Nat.add_assoc] using ih
  | interrupted _ _ _ _ ih => simpa using ih

/-- A count among the answers has no room in a machine word beside the counts before it. -/
def Overflows (position : Nat) (reads : List ReadEvent) : Prop :=
  ∃ k room count, reads[k]? = some (.gave room count) ∧
    maxPosition < position + received (reads.take k) + count

theorem not_overflows_nil (position : Nat) : ¬Overflows position [] := by
  rintro ⟨k, room, count, hk, -⟩
  simp at hk

theorem overflows_cons (position : Nat) (event : ReadEvent) (reads : List ReadEvent) :
    Overflows position (event :: reads) ↔
      (∃ room count, event = .gave room count ∧ maxPosition < position + count) ∨
        Overflows (position + event.count) reads := by
  constructor
  · rintro ⟨_ | k, room, count, hk, hover⟩
    · exact .inl ⟨room, count, by simpa using hk, hover⟩
    · exact .inr ⟨k, room, count, hk, by simpa [Nat.add_assoc] using hover⟩
  · rintro (⟨room, count, rfl, hover⟩ | ⟨k, room, count, hk, hover⟩)
    · exact ⟨0, room, count, rfl, hover⟩
    · exact ⟨k + 1, room, count, hk, by simpa [Nat.add_assoc] using hover⟩

/-- A reading panics when a count has no room beside the ones before it, and only then. -/
theorem Runs.panics_iff (h : Runs declared steps position buffer ending reads)
    (hposition : position ≤ maxPosition) :
    (∃ p, ending = .panicked p) ↔ Overflows position reads := by
  induction h with
  | full => simp [not_overflows_nil]
  | spent | nothing => simpa [overflows_cons, not_overflows_nil] using hposition
  | overflow _ _ _ hover =>
    exact iff_of_true ⟨_, rfl⟩ ((overflows_cons ..).2 (.inl ⟨_, _, rfl, hover⟩))
  | failed => simp [overflows_cons, not_overflows_nil]
  | took _ _ _ hfits _ ih =>
    rw [overflows_cons, ih hfits]
    refine (or_iff_right ?_).symm
    rintro ⟨room, count, heq, hover⟩
    cases heq
    exact Nat.not_lt.2 hfits hover
  | interrupted _ _ _ _ ih => simp [overflows_cons, ih hposition]

/-- The buffer keeps its size, so what is read is as much as was declared. -/
theorem Runs.length_eq {bytes : List UInt8}
    (h : Runs declared steps position buffer (.returned (.ok bytes)) reads)
    (hbuffer : buffer.length ≤ declared) : bytes.length = declared := by
  generalize hending : Ending.returned (Except.ok bytes) = ending at h
  induction h with
  | full =>
    cases hending
    exact length_whole hbuffer
  | spent | nothing | overflow | failed => cases hending
  | @took step _ _ _ _ _ _ hleft _ _ _ _ ih => exact ih (length_write_le hleft hbuffer step) hending
  | @interrupted step _ _ _ _ _ _ hleft _ _ _ ih =>
    exact ih (length_write_le hleft hbuffer step) hending

/-! ## The requests -/

/-- The requests of a reading. Each asks for what is missing, while something is, and gets the answer
of the reader's next step. After the last one the reader is given up. -/
structure Recorded (declared : Nat) (steps : List ReadStep) (reads requests : List ReadEvent) :
    Prop where
  given_up : reads = requests ++ [.dropped]
  once : .dropped ∉ requests
  asked : ∀ k event, requests[k]? = some event → received (requests.take k) < declared ∧
    event = ReadStep.answered (declared - received (requests.take k)) steps[k]?
  bounded : requests.length ≤ steps.length + 1

theorem Runs.recorded (h : Runs declared steps 0 buffer ending requests) :
    Recorded declared steps (requests ++ [.dropped]) requests where
  given_up := rfl
  once := by
    intro hdropped
    obtain ⟨k, hk⟩ := List.mem_iff_getElem?.1 hdropped
    exact ReadStep.answered_ne_dropped _ _ (h.asked hk).2.symm
  asked := fun k event hk => by simpa using h.asked hk
  bounded := h.length_le

end Reading

/-! ## Images -/

namespace Image

/-- A reading under the name of a path is a course of the loop. -/
theorem runs_readFrom (declared : Nat) (path : Path) (steps : List ReadStep) :
    ∃ ending requests, Reading.Runs declared steps 0 [] ending requests ∧
      readFrom declared path steps = (ofReading declared path ending, requests ++ [.dropped]) :=
  ⟨_, _, Reading.runs_collect declared steps 0 [], rfl⟩

/-- An image that was read is no larger than the parser takes. -/
theorem length_of_read {opening : Opening} {path : Path} {image : Image}
    (h : read opening path = .returned (.ok image)) : image.bytes.length ≤ maxSize := by
  unfold read reading at h
  rcases hopen : opening path with e | source <;> simp only [hopen] at h
  · cases h
  rcases hsize : source.size with e | size <;> simp only [hsize] at h
  · cases h
  split at h
  · cases h
  rename_i hfits
  obtain ⟨ending, requests, hruns, hread⟩ := runs_readFrom size path source.steps
  rw [hread] at h
  rcases ending with (short | bytes) | p <;> cases h
  rw [hruns.length_eq (Nat.zero_le _)]
  exact Nat.le_of_not_lt hfits

end Image

end Launcher
