import Launcher.Proofs.Act
import Launcher.Rehearsal.ScriptedWriter

/-!
# What a scripted writer has taken in the end

However little a writer takes at a time, and however often it is interrupted, writing comes to one
of two things: everything is taken, or as much as the writer still has room for, and then the write
fails. So it makes no difference either in how many pieces a text is written.

- `admitted`, `fits`, `accepting`: what a writer takes of some octets, and what it is afterwards.
- `writeAll_eq`: the attempts of a write, taken together.
- `writePieces_eq`: a text written piece by piece.
- `writeLines_spec`: a report of several lines and the flush after it.
-/

namespace Launcher

namespace Text.Utf8

@[simp] theorem encode_append (s t : String) : encode (s ++ t) = encode s ++ encode t := by
  simp [encode]

theorem encode_join (texts : List String) : encode (String.join texts) = texts.flatMap encode := by
  induction texts with
  | nil => rfl
  | cons text rest ih =>
    rw [String.join_cons, encode_append, ih, List.flatMap_cons]

end Text.Utf8

namespace Rehearsal.ScriptedWriter

/-- A writer that gets on: it takes at least one octet at a time, and being full is no interruption,
which would be tried again for ever. -/
structure GetsOn (w : ScriptedWriter) : Prop where
  chunk : ∀ n, w.chunk = some n → 0 < n
  full : ∀ error, w.full = some error → error.kind ≠ .interrupted

/-- What a writer has room for, of some octets: the first of them, up to its budget. -/
def admitted (w : ScriptedWriter) (bytes : List UInt8) : List UInt8 :=
  match w.budget with
  | none => bytes
  | some budget => bytes.take budget

/-- Whether a writer has room for all of some octets. -/
def fits (w : ScriptedWriter) (bytes : List UInt8) : Bool := w.budget.all (bytes.length ≤ ·)

/-- The error of writing some octets, if there is no room for all of them. -/
def shortage (w : ScriptedWriter) (bytes : List UInt8) : Option IoError :=
  if w.fits bytes then none else some (w.full.getD .writeZero)

/-- A writer after it was given octets to write. -/
def accepting (w : ScriptedWriter) (bytes : List UInt8) : ScriptedWriter :=
  { w with
    budget := w.budget.map (· - bytes.length)
    interrupts := if bytes = [] then w.interrupts else 0
    taken := w.taken ++ w.admitted bytes }

variable {w : ScriptedWriter} {bytes : List UInt8}

/-! ## Room -/

theorem fits_iff : w.fits bytes = true ↔ ∀ budget, w.budget = some budget → bytes.length ≤ budget := by
  cases h : w.budget <;> simp [fits, h]

@[simp] theorem accepting_nil (w : ScriptedWriter) : w.accepting [] = w := by
  obtain ⟨budget, full, flushError, interrupts, chunk, taken, flushes⟩ := w
  cases budget <;> simp [accepting, admitted]

theorem shortage_of_fits (h : w.fits bytes = true) : w.shortage bytes = none := if_pos h

theorem shortage_of_not_fits (h : w.fits bytes = false) :
    w.shortage bytes = some (w.full.getD .writeZero) := by
  simp [shortage, h]

@[simp] theorem fits_nil (w : ScriptedWriter) : w.fits [] = true :=
  fits_iff.mpr fun budget _ => Nat.zero_le budget

/-- What is given in two parts has room if the first part has and the second one has then. -/
theorem fits_append (w : ScriptedWriter) (a b : List UInt8) :
    w.fits (a ++ b) = (w.fits a && (w.accepting a).fits b) := by
  cases h : w.budget with
  | none => simp [fits, accepting, h]
  | some budget =>
    simp only [fits, accepting, h, Option.all_some, Option.map_some, List.length_append]
    rw [Bool.eq_iff_iff, Bool.and_eq_true, decide_eq_true_iff, decide_eq_true_iff,
      decide_eq_true_iff]
    omega

/-- The first part for which there is no room decides. -/
theorem shortage_append (w : ScriptedWriter) (a b : List UInt8) :
    w.shortage (a ++ b) = (w.shortage a).or ((w.accepting a).shortage b) := by
  unfold shortage
  rw [fits_append]
  cases w.fits a <;> rfl

/-- What is given in two parts comes to what is given at once. -/
theorem accepting_append (w : ScriptedWriter) (a b : List UInt8) :
    (w.accepting a).accepting b = w.accepting (a ++ b) := by
  have hinterrupts : (if b = [] then if a = [] then w.interrupts else 0 else 0) =
      if a ++ b = [] then w.interrupts else 0 := by
    by_cases ha : a = [] <;> by_cases hb : b = [] <;> simp [ha, hb]
  cases h : w.budget with
  | none => simp [accepting, admitted, h, hinterrupts]
  | some budget =>
    simp [accepting, admitted, h, hinterrupts, List.take_append, Nat.sub_sub]

/-- A writer that is full and no longer interrupted stays as it is. -/
theorem accepting_of_full (hbudget : w.budget = some 0) (hinterrupts : w.interrupts = 0)
    (bytes : List UInt8) : w.accepting bytes = w := by
  obtain ⟨budget, full, flushError, interrupts, chunk, taken, flushes⟩ := w
  obtain rfl : budget = some 0 := hbudget
  obtain rfl : interrupts = 0 := hinterrupts
  simp [accepting, admitted]

/-- What comes after something that does not fit is not taken. -/
theorem accepting_append_of_not_fits {a : List UInt8} (h : w.fits a = false) (b : List UInt8) :
    w.accepting (a ++ b) = w.accepting a := by
  rw [← accepting_append]
  cases hbudget : w.budget with
  | none => simp [fits, hbudget] at h
  | some budget =>
    have hlong : budget < a.length := by simpa [fits, hbudget] using h
    have hne : a ≠ [] := List.ne_nil_of_length_pos (by omega)
    refine accepting_of_full ?_ (by simp [accepting, hne]) b
    simp only [accepting, hbudget, Option.map_some]
    rw [Nat.sub_eq_zero_of_le (Nat.le_of_lt hlong)]

/-! ## Writing -/

/-- An attempt takes something, and no more than there is or there is room for. -/
theorem portion_spec (hw : w.GetsOn) (hbudget : w.budget ≠ some 0) {n : Nat} (hn : 0 < n) :
    0 < w.portion n ∧ w.portion n ≤ n ∧ ∀ budget, w.budget = some budget → w.portion n ≤ budget := by
  unfold portion room
  cases hb : w.budget with
  | none =>
    cases hc : w.chunk with
    | none => simpa using hn
    | some chunk =>
      have := hw.chunk chunk hc
      simp only [reduceCtorEq, false_implies, implies_true, and_true]
      omega
  | some budget =>
    have hpos : budget ≠ 0 := fun h => hbudget (h ▸ hb)
    cases hc : w.chunk with
    | none =>
      simp only [Option.some.injEq, forall_eq']
      omega
    | some chunk =>
      have := hw.chunk chunk hc
      simp only [Option.some.injEq, forall_eq']
      omega

/-- An attempt that is not interrupted and finds room takes a first part. -/
theorem write_took (hw : w.GetsOn) (hinterrupts : w.interrupts = 0) (hbudget : w.budget ≠ some 0)
    (hbytes : bytes ≠ []) :
    ∃ count, 0 < count ∧ count ≤ bytes.length ∧ w.fits (bytes.take count) = true ∧
      w.write bytes = (.took count, w.accepting (bytes.take count)) := by
  obtain ⟨hpos, hle, hroom⟩ := portion_spec hw hbudget (List.length_pos_iff.mpr hbytes)
  have hlength : (bytes.take (w.portion bytes.length)).length = w.portion bytes.length := by
    rw [List.length_take, Nat.min_eq_left hle]
  have hfits : w.fits (bytes.take (w.portion bytes.length)) = true :=
    fits_iff.mpr fun budget hb => by
      rw [hlength]
      exact hroom budget hb
  refine ⟨w.portion bytes.length, hpos, hle, hfits, ?_⟩
  have hadmitted : w.admitted (bytes.take (w.portion bytes.length)) =
      bytes.take (w.portion bytes.length) := by
    unfold admitted
    cases hb : w.budget with
    | none => rfl
    | some budget =>
      refine List.take_of_length_le ?_
      rw [hlength]
      exact hroom budget hb
  simp only [write, hinterrupts, if_neg hbudget, accepting, hadmitted, hlength, ite_self]

/-- The attempts of a write, however many there are of them: everything is taken or, without room
for everything, what there is room for. -/
theorem writeUpTo_eq (hw : w.GetsOn) {attempts : Nat}
    (hattempts : w.interrupts + bytes.length < attempts) :
    writeUpTo attempts bytes w = (w.shortage bytes, w.accepting bytes) := by
  induction attempts generalizing w bytes with
  | zero => omega
  | succ attempts ih =>
    by_cases hbytes : bytes = []
    · simp [hbytes, writeUpTo, shortage]
    rw [writeUpTo, if_neg (by simpa using hbytes)]
    cases hinterrupts : w.interrupts with
    | succ n =>
      -- the same writer, with one interruption less to come
      have hwrite : w.write bytes = (.interrupted, { w with interrupts := n }) := by
        rw [write, hinterrupts]
      have hagain := @ih { w with interrupts := n } bytes ⟨hw.chunk, hw.full⟩
        (show n + bytes.length < attempts by omega)
      have hsame : ({ w with interrupts := n } : ScriptedWriter).accepting bytes =
          w.accepting bytes := by
        simp [accepting, admitted, hbytes]
      rw [hwrite]
      exact hagain.trans (Prod.ext rfl hsame)
    | zero =>
      by_cases hbudget : w.budget = some 0
      · have hfits : w.fits bytes = false := by
          simpa [fits, hbudget] using hbytes
        rw [shortage_of_not_fits hfits, accepting_of_full hbudget hinterrupts]
        cases hfull : w.full <;> simp [write, hinterrupts, hbudget, hfull]
      · obtain ⟨count, hpos, hle, htook, hwrite⟩ := write_took hw hinterrupts hbudget hbytes
        obtain ⟨n, rfl⟩ : ∃ n, count = n + 1 := ⟨count - 1, by omega⟩
        have hcalm : (w.accepting (bytes.take (n + 1))).interrupts = 0 := by
          simp [accepting, hinterrupts]
        have hrest := @ih (w.accepting (bytes.take (n + 1))) (bytes.drop (n + 1))
          ⟨hw.chunk, hw.full⟩ (by rw [hcalm, List.length_drop]; omega)
        -- what was taken and what is left make up the whole
        have hwhole := List.take_append_drop (n + 1) bytes
        have hshortage := w.shortage_append (bytes.take (n + 1)) (bytes.drop (n + 1))
        rw [hwhole, shortage_of_fits htook, Option.none_or] at hshortage
        rw [accepting_append, hwhole, ← hshortage] at hrest
        rw [hwrite]
        exact hrest

/-- A write takes everything, or what there is room for and fails. -/
theorem writeAll_eq (hw : w.GetsOn) (bytes : List UInt8) :
    w.writeAll bytes = (w.shortage bytes, w.accepting bytes) :=
  writeUpTo_eq hw (Nat.lt_succ_self _)

/-! ## Writing in pieces -/

/-- Writes pieces one after the other, up to the first that fails. -/
def writePieces : List (List UInt8) → ScriptedWriter → Option IoError × ScriptedWriter
  | [], w => (none, w)
  | piece :: rest, w =>
    match w.writeAll piece with
    | (none, w) => writePieces rest w
    | (some error, w) => (some error, w)

/-- A writer that has taken something gets on as before. -/
theorem GetsOn.accepting (hw : w.GetsOn) (bytes : List UInt8) : (w.accepting bytes).GetsOn :=
  ⟨hw.chunk, hw.full⟩

/-- A text written in pieces comes to the text written at once, however it is cut. -/
theorem writePieces_eq (hw : w.GetsOn) (pieces : List (List UInt8)) :
    writePieces pieces w = w.writeAll pieces.flatten := by
  induction pieces generalizing w with
  | nil => simp [writePieces, writeAll_eq hw, shortage]
  | cons piece rest ih =>
    have hrest := ih (hw.accepting piece)
    rw [writeAll_eq (hw.accepting piece), accepting_append] at hrest
    rw [writePieces, writeAll_eq hw, List.flatten_cons, writeAll_eq hw, shortage_append]
    cases hfits : w.fits piece with
    | true => simpa [shortage_of_fits hfits] using hrest
    | false => simp [shortage_of_not_fits hfits, accepting_append_of_not_fits hfits]

/-! ## Reports -/

/-- What a report of several lines adds to a writer, with the flush that follows when there was room
for all of it. -/
def reporting (w : ScriptedWriter) (bytes : List UInt8) : ScriptedWriter :=
  { w.accepting bytes with flushes := w.flushes + if w.fits bytes then 1 else 0 }

/-- The error of a report, if it was not written as a whole or not flushed. -/
def trouble (w : ScriptedWriter) (bytes : List UInt8) : Option IoError :=
  (w.shortage bytes).or w.flushError

/-- A report of which a first part found room goes on with the rest of it. -/
theorem report_append_of_fits {a : List UInt8} (h : w.fits a = true) (b : List UInt8) :
    w.trouble (a ++ b) = (w.accepting a).trouble b ∧
      w.reporting (a ++ b) = (w.accepting a).reporting b := by
  unfold trouble reporting
  rw [shortage_append, shortage_of_fits h, Option.none_or, accepting_append, fits_append, h,
    Bool.true_and]
  exact ⟨rfl, rfl⟩

/-- A report of which a first part found no room ends there. -/
theorem report_append_of_not_fits {a : List UInt8} (h : w.fits a = false) (b : List UInt8) :
    w.trouble (a ++ b) = w.shortage a ∧ w.reporting (a ++ b) = w.accepting a := by
  unfold trouble reporting
  rw [shortage_append, shortage_of_not_fits h, accepting_append_of_not_fits h, fits_append, h,
    Bool.false_and]
  exact ⟨rfl, rfl⟩

/-- A report is taken and flushed or, without room for all of it, taken as far as there is room. -/
theorem writeLines_spec (hw : w.GetsOn) (lines : List String) :
    (sink.writeLines lines w).1 = w.trouble (lines.flatMap Text.Utf8.encode) ∧
      (sink.writeLines lines w).2.2 = w.reporting (lines.flatMap Text.Utf8.encode) := by
  -- on the lines: what fits is taken and leaves the room for the rest
  induction lines generalizing w with
  | nil => simp [Sink.writeLines, Sink.finish, sink, flush, trouble, reporting, shortage]
  | cons line rest ih =>
    have hwrite : sink.write line w = (w.shortage (Text.Utf8.encode line),
        [.write (Text.Utf8.encode line) (w.shortage (Text.Utf8.encode line))],
        w.accepting (Text.Utf8.encode line)) := by
      simp [Sink.write, sink, writeAll_eq hw]
    rw [List.flatMap_cons]
    unfold Sink.writeLines
    cases hfits : w.fits (Text.Utf8.encode line) with
    | true =>
      obtain ⟨htrouble, hreporting⟩ :=
        report_append_of_fits hfits (rest.flatMap Text.Utf8.encode)
      rw [shortage_of_fits hfits] at hwrite
      rw [htrouble, hreporting, Quiet.bind_apply, hwrite]
      exact ih (hw.accepting (Text.Utf8.encode line))
    | false =>
      obtain ⟨htrouble, hreporting⟩ :=
        report_append_of_not_fits hfits (rest.flatMap Text.Utf8.encode)
      rw [shortage_of_not_fits hfits] at hwrite htrouble
      rw [htrouble, hreporting, Quiet.bind_apply, hwrite]
      exact ⟨rfl, rfl⟩

end Rehearsal.ScriptedWriter

end Launcher
