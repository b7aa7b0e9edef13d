import Launcher.Proofs.Image.Reading

/-!
# What a reader offers

A reader that honours its contract claims what it hands out. Its steps then amount to a stream of
octets and to how the stream ends, and nothing else about them shows: not how the stream is cut, nor
how often the reader is interrupted.

- `ReadStep.claimed`, `ReadStep.closing`: the octets a reader claims in all, and the error it ends
  with, for any reader.
- `ReadStep.Honest`, `ReadStep.delivered`: the contract, and the stream of a reader that honours it.
- `Reading.Runs.tallies_claimed`: whether there is an image depends on the octets claimed.
- `Image.reads_exactly`: what comes of reading an image from a stream.
-/

namespace Launcher

namespace ReadStep

/-! ## What is claimed -/

/-- The answer of a step to a buffer with room for everything. -/
def offer : ReadStep → Except IoError Nat
  | .data bytes => .ok bytes.length
  | .zeros count | .claim count => .ok count
  | .fail error => .error error
  | .forge _ answer => answer

/-- The octets that a step offers, if it does not fail. -/
def claims (step : ReadStep) : Nat :=
  match step.offer with
  | .ok count => count
  | .error _ => 0

/-- The error of a step that fails. -/
def error? (step : ReadStep) : Option IoError :=
  match step.offer with
  | .ok _ => none
  | .error error => some error

/-- Whether nothing is read after a step: it gives nothing, or fails for good. -/
def isLast (step : ReadStep) : Bool :=
  match step.offer with
  | .ok count => count == 0
  | .error error => error.kind != .interrupted

/-- The octets that a reader claims in all before it gives nothing or fails. -/
def claimed : List ReadStep → Nat
  | [] => 0
  | step :: rest => if step.isLast then 0 else step.claims + claimed rest

/-- The error that a reader ends with, if it does not just give nothing. -/
def closing (steps : List ReadStep) : Option IoError := (steps.find? isLast).bind error?

theorem claimed_cons (step : ReadStep) (rest : List ReadStep) :
    claimed (step :: rest) = if step.isLast then 0 else step.claims + claimed rest := rfl

theorem closing_cons (step : ReadStep) (rest : List ReadStep) :
    closing (step :: rest) = if step.isLast then step.error? else closing rest := by
  unfold closing
  cases h : step.isLast <;> simp [h]

/-- A step fails in the same way whatever room there is. -/
theorem answer_eq_error_iff {step : ReadStep} {room : Nat} {error : IoError} :
    step.answer room = .error error ↔ step.offer = .error error := by
  cases step <;> simp [answer, offer]

/-- A step answers with what it offers, or fills the room. -/
theorem offer_of_answer {step : ReadStep} {room count : Nat} (h : step.answer room = .ok count) :
    ∃ n, step.offer = .ok n ∧ (n = count ∨ count = room ∧ room ≤ n) := by
  cases step with
  | data bytes =>
    obtain rfl : min bytes.length room = count := by simpa [answer] using h
    exact ⟨bytes.length, rfl, by omega⟩
  | zeros n =>
    obtain rfl : min n room = count := by simpa [answer] using h
    exact ⟨n, rfl, by omega⟩
  | claim n => exact ⟨count, h, .inl rfl⟩
  | fail error => cases h
  | forge written answer => exact ⟨count, h, .inl rfl⟩

end ReadStep

namespace Reading

open ReadStep ReadEvent

variable {declared position : Nat} {steps : List ReadStep} {buffer : List UInt8}
  {ending : Ending (Except ShortRead (List UInt8))} {reads : List ReadEvent}

/-- Once enough has been claimed, more does not matter. -/
theorem Tallies.mono {total more : Nat} (h : Tallies declared total ending)
    (henough : declared ≤ total) (hmore : total ≤ more) : Tallies declared more ending := by
  rcases ending with (short | bytes) | p
  · exact absurd h.2 (Nat.not_lt.2 henough)
  · exact Nat.le_trans henough hmore
  · exact h

/-- Whether there is an image, and how much is read in vain, depends on the octets that the reader
claims in all. -/
theorem Runs.tallies_claimed (h : Runs declared steps position buffer ending reads) :
    Tallies declared (position + claimed steps) ending := by
  induction h with
  | full hfull => exact Nat.le_trans hfull (Nat.le_add_right ..)
  | spent hleft => exact ⟨rfl, hleft⟩
  | @nothing step rest position _ hleft hanswer =>
    -- there is room, so nothing is offered either
    obtain ⟨n, hoffer, hn⟩ := offer_of_answer hanswer
    obtain rfl : n = 0 := by omega
    simpa [claimed_cons, isLast, hoffer, Tallies] using hleft
  | overflow => rfl
  | @took step rest position count _ _ _ hleft hanswer hcount _ _ ih =>
    obtain ⟨n, hoffer, hn⟩ := offer_of_answer hanswer
    have hclaimed : claimed (step :: rest) = n + claimed rest := by
      have hn : n ≠ 0 := by omega
      simp [claimed_cons, isLast, claims, hoffer, hn]
    rw [hclaimed]
    rcases hn with rfl | ⟨hroom, hmore⟩
    · simpa [Nat.add_assoc] using ih
    · -- the room was filled, so the image is complete
      exact ih.mono (by omega) (by omega)
  | @interrupted step rest position _ error _ _ hleft hanswer hkind _ ih =>
    have hoffer := answer_eq_error_iff.1 hanswer
    simpa [claimed_cons, isLast, claims, hoffer, hkind] using ih
  | @failed step rest position _ error hleft hanswer hkind =>
    have hoffer := answer_eq_error_iff.1 hanswer
    simpa [claimed_cons, isLast, hoffer, hkind, Tallies] using hleft

/-- What is read in vain ends with the error that the reader ends with. -/
theorem Runs.closing_eq {short : ShortRead}
    (h : Runs declared steps position buffer (.returned (.error short)) reads) :
    short.source = closing steps := by
  generalize hending : Ending.returned (Except.error short) = ending at h
  induction h with
  | full | overflow => cases hending
  | spent =>
    cases hending
    rfl
  | @nothing step rest position _ hleft hanswer =>
    cases hending
    obtain ⟨n, hoffer, hn⟩ := offer_of_answer hanswer
    obtain rfl : n = 0 := by omega
    simp [closing_cons, isLast, error?, hoffer]
  | took hleft hanswer hcount _ hrest ih =>
    obtain ⟨n, hoffer, hn⟩ := offer_of_answer hanswer
    have hn : n ≠ 0 := by omega
    simpa [closing_cons, isLast, hoffer, hn] using ih hending
  | interrupted hleft hanswer hkind _ ih =>
    have hoffer := answer_eq_error_iff.1 hanswer
    simpa [closing_cons, isLast, hoffer, hkind] using ih hending
  | failed hleft hanswer hkind =>
    cases hending
    have hoffer := answer_eq_error_iff.1 hanswer
    simp [closing_cons, isLast, error?, hoffer, hkind]

end Reading

/-! ## What is handed out -/

namespace ReadStep

/-- The octets that a step hands out. -/
def bytes : ReadStep → List UInt8
  | .data bytes => bytes
  | .zeros count => List.replicate count 0
  | .claim _ | .fail _ | .forge .. => []

/-- A reader honours its contract if it claims only what it hands out. What it leaves in the buffer
without claiming it is of no account. -/
def Honest : ReadStep → Prop
  | .data _ | .zeros _ | .fail _ => True
  | .claim count => count = 0
  | .forge _ answer => ∀ count, answer = .ok count → count = 0

/-- The stream that a reader hands out before it gives nothing or fails. -/
def delivered (steps : List ReadStep) : List UInt8 :=
  (steps.takeWhile fun s => !s.isLast).flatMap bytes

theorem delivered_cons (step : ReadStep) (rest : List ReadStep) :
    delivered (step :: rest) = if step.isLast then [] else step.bytes ++ delivered rest := by
  unfold delivered
  cases h : step.isLast <;> simp [h]

variable {step : ReadStep} {room count : Nat}

theorem Honest.claims_eq (h : step.Honest) : step.claims = step.bytes.length := by
  cases step with
  | data bytes => rfl
  | zeros count => simp [claims, offer, bytes]
  | claim count => exact h
  | fail error => rfl
  | forge written answer =>
    rcases answer with error | count
    · rfl
    · exact h count rfl

theorem claimed_of_honest {steps : List ReadStep} (h : ∀ step ∈ steps, step.Honest) :
    claimed steps = (delivered steps).length := by
  induction steps with
  | nil => rfl
  | cons step rest ih =>
    rw [List.forall_mem_cons] at h
    rw [claimed_cons, delivered_cons]
    split
    · rfl
    · rw [List.length_append, h.1.claims_eq, ih h.2]

/-- An honest reader that gives something writes it, as far as there is room. -/
theorem Honest.gives (h : step.Honest) (hanswer : step.answer room = .ok count)
    (hcount : count ≠ 0) :
    count = min step.bytes.length room ∧ step.writes room = step.bytes.take room ∧
      step.isLast = false := by
  cases step with
  | data bytes =>
    obtain rfl : min bytes.length room = count := by simpa [answer] using hanswer
    have hbytes : bytes ≠ [] := by
      rintro rfl
      simp at hcount
    exact ⟨rfl, rfl, by simpa [isLast, offer] using hbytes⟩
  | zeros n =>
    obtain rfl : min n room = count := by simpa [answer] using hanswer
    have hn : n ≠ 0 := by omega
    exact ⟨by simp [bytes], by simp [writes, bytes, List.take_replicate, Nat.min_comm],
      by simpa [isLast, offer] using hn⟩
  -- an honest reader writes what it claims, so here it claims nothing
  | claim n =>
    obtain rfl : n = count := by simpa [answer] using hanswer
    exact absurd h hcount
  | fail error => cases hanswer
  | forge written answer => exact absurd (h count hanswer) hcount

/-- A step that fails hands nothing out. -/
theorem bytes_of_error {error : IoError} (h : step.answer room = .error error) :
    step.bytes = [] := by
  cases step with
  | data | zeros => cases h
  | claim | fail | forge => rfl

end ReadStep

namespace Reading

open ReadStep ReadEvent

variable {declared position : Nat} {steps : List ReadStep} {buffer : List UInt8}
  {ending : Ending (Except ShortRead (List UInt8))} {reads : List ReadEvent}

/-- What lies below the position is not written over. -/
theorem take_write (h : position ≤ buffer.length) (bytes : List UInt8) :
    (write buffer position bytes).take position = buffer.take position := by
  simp [write, whole, h]

/-- What is written is what lies above the position then. -/
theorem take_write_add (h : position ≤ buffer.length) (bytes : List UInt8) :
    (write buffer position bytes).take (position + bytes.length) =
      buffer.take position ++ bytes := by
  have hbelow : whole position (buffer.take position) = buffer.take position := by simp [whole, h]
  rw [write, hbelow]
  exact List.take_left' (by simp [h])

/-- An honest reader claims no more than what is missing. -/
theorem Runs.received_le (h : Runs declared steps position buffer ending reads)
    (hhonest : ∀ step ∈ steps, step.Honest) (hposition : position ≤ declared) :
    position + received reads ≤ declared := by
  induction h with
  | full | spent | nothing | failed => simpa using hposition
  | overflow hleft hanswer hcount =>
    obtain ⟨rfl, -⟩ := (hhonest _ List.mem_cons_self).gives hanswer hcount
    simp only [received_cons, count_gave, received_nil]
    omega
  | took hleft hanswer hcount _ _ ih =>
    rw [List.forall_mem_cons] at hhonest
    obtain ⟨hgiven, -⟩ := hhonest.1.gives hanswer hcount
    simpa [Nat.add_assoc] using ih hhonest.2 (by omega)
  | interrupted _ _ _ _ ih =>
    rw [List.forall_mem_cons] at hhonest
    simpa using ih hhonest.2 hposition

/-- The buffer is filled with the stream, in order. -/
theorem Runs.filled {bytes : List UInt8}
    (h : Runs declared steps position buffer (.returned (.ok bytes)) reads)
    (hhonest : ∀ step ∈ steps, step.Honest) (hposition : position ≤ buffer.length)
    (hbuffer : buffer.length ≤ declared) :
    bytes = buffer.take position ++ (delivered steps).take (declared - position) := by
  generalize hending : Ending.returned (Except.ok bytes) = ending at h
  induction h with
  | @full steps position buffer hfull =>
    cases hending
    have hwhole : whole declared buffer = buffer := by
      simp [whole, Nat.sub_eq_zero_of_le (Nat.le_trans hfull hposition)]
    rw [hwhole, Nat.sub_eq_zero_of_le hfull, List.take_of_length_le (Nat.le_trans hbuffer hfull)]
    simp
  | spent | nothing | overflow | failed => cases hending
  | @took step rest position count buffer _ _ hleft hanswer hcount _ _ ih =>
    rw [List.forall_mem_cons] at hhonest
    obtain ⟨hgiven, hwrites, hgoes⟩ := hhonest.1.gives hanswer hcount
    have hlength : (step.writes (declared - position)).length = count := by
      rw [hwrites, List.length_take, hgiven, Nat.min_comm]
    rw [ih hhonest.2 (by rw [length_write]; omega) (length_write_le hleft hbuffer step) hending,
      ← hlength, take_write_add hposition, hlength, hwrites, delivered_cons, hgoes]
    -- what is missing after the step is what is missing without it
    have hrest : declared - (position + count) = declared - position - step.bytes.length := by
      omega
    simp [List.take_append, hrest]
  | @interrupted step rest position buffer error _ _ hleft hanswer hkind _ ih =>
    rw [List.forall_mem_cons] at hhonest
    have hoffer := answer_eq_error_iff.1 hanswer
    rw [ih hhonest.2 (by rw [length_write]; omega) (length_write_le hleft hbuffer step) hending,
      take_write hposition, delivered_cons]
    simp [isLast, hoffer, hkind, bytes_of_error hanswer]

/-- An honest reader claims no more than can be counted. -/
theorem Runs.not_panicked (h : Runs declared steps position buffer ending reads)
    (hhonest : ∀ step ∈ steps, step.Honest) (hdeclared : declared ≤ maxPosition) (p : Panic) :
    ending ≠ .panicked p := by
  induction h with
  | full | spent | nothing | failed => nofun
  | overflow hleft hanswer hcount hover =>
    obtain ⟨rfl, -⟩ := (hhonest _ List.mem_cons_self).gives hanswer hcount
    omega
  | took _ _ _ _ _ ih | interrupted _ _ _ _ ih => exact ih (List.forall_mem_cons.1 hhonest).2

end Reading

/-! ## Images from streams -/

namespace Image

open ReadStep ReadEvent Reading

variable {declared : Nat} {steps : List ReadStep}

/-- The image is the beginning of the stream, if the stream is long enough. -/
theorem readFrom_of_honest (path : Path) (hhonest : ∀ step ∈ steps, step.Honest)
    (hdeclared : declared ≤ maxPosition) :
    (readFrom declared path steps).1 =
      .returned (if declared ≤ (delivered steps).length then .ok ⟨(delivered steps).take declared⟩
        else .error (.imageUnread path declared (delivered steps).length (closing steps))) := by
  obtain ⟨ending, requests, hruns, hread⟩ := runs_readFrom declared path steps
  have htallies := hruns.tallies_claimed
  rw [claimed_of_honest hhonest, Nat.zero_add] at htallies
  rw [hread]
  rcases ending with (short | bytes) | p
  · obtain ⟨hshort, hless⟩ := htallies
    rw [if_neg (Nat.not_le.2 hless), ← hshort, ← hruns.closing_eq]
    rfl
  · have henough : declared ≤ (delivered steps).length := htallies
    have hfilled := hruns.filled hhonest (Nat.le_refl _) (Nat.zero_le _)
    rw [if_pos henough]
    simpa [ofReading] using hfilled
  · exact absurd rfl (hruns.not_panicked hhonest hdeclared p)

/-- What comes of reading an image of a declared size from a stream. -/
structure ReadsExactly (declared : Nat) (path : Path) (steps : List ReadStep) : Prop where
  /-- The image is the beginning of the stream. A stream that is too short is read in vain, which is
  reported with how much there was and with the error it ended with. -/
  result : (readFrom declared path steps).1 =
    .returned (if declared ≤ (delivered steps).length then .ok ⟨(delivered steps).take declared⟩
      else .error (.imageUnread path declared (delivered steps).length (closing steps)))
  /-- Only the stream and its end matter, not how it is cut or interrupted. -/
  regardless : ∀ others : List ReadStep, (∀ step ∈ others, step.Honest) →
    delivered others = delivered steps → closing others = closing steps →
    (readFrom declared path others).1 = (readFrom declared path steps).1
  /-- Every request asks for what is missing, and what they yield is what the image needs, or all
  there is. -/
  requests : ∃ requests, Recorded declared steps (readFrom declared path steps).2 requests ∧
    received requests = min declared (delivered steps).length
  /-- An empty image takes no request. -/
  unasked : declared = 0 → (readFrom declared path steps).2 = [.dropped]

/-- A reader that honours its contract is read exactly. -/
theorem reads_exactly (path : Path) (hhonest : ∀ step ∈ steps, step.Honest)
    (hdeclared : declared ≤ maxPosition) : ReadsExactly declared path steps := by
  obtain ⟨ending, requests, hruns, hread⟩ := runs_readFrom declared path steps
  have hrecorded := hruns.recorded
  constructor
  case result => exact readFrom_of_honest path hhonest hdeclared
  case regardless =>
    intro others hothers hstream hend
    rw [readFrom_of_honest path hhonest hdeclared, readFrom_of_honest path hothers hdeclared,
      hstream, hend]
  case requests =>
    refine ⟨requests, by rw [hread]; exact hrecorded, ?_⟩
    have hreceived := hruns.tallies
    have hclaimed := hruns.tallies_claimed
    have hle := hruns.received_le hhonest (Nat.zero_le _)
    rw [claimed_of_honest hhonest] at hclaimed
    rcases ending with (short | bytes) | p <;> simp only [Tallies] at hreceived hclaimed
    · omega
    · omega
    · exact absurd rfl (hruns.not_panicked hhonest hdeclared p)
  case unasked =>
    rintro rfl
    rw [hread]
    cases hrequests : requests with
    | nil => rfl
    | cons event rest =>
      have hasked := hrecorded.asked 0 event (by rw [hrequests]; rfl)
      exact absurd hasked.1 (Nat.not_lt_zero _)

/-- A stream in two pieces with an interruption between them, of which more is there than needed. -/
theorem reads_exactly_pieces :
    (readFrom 3 .empty [.data [72, 76], .fail (.reported .interrupted "again"), .data [66, 4]]).1 =
        .returned (.ok ⟨[72, 76, 66]⟩) ∧
      ReadsExactly 3 .empty
        [.data [72, 76], .fail (.reported .interrupted "again"), .data [66, 4]] :=
  ⟨rfl, reads_exactly .empty (by simp [Honest]) (by decide)⟩

end Image

end Launcher
