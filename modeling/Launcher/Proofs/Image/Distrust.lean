import Launcher.Proofs.Image.Stream
import Mathlib.Data.List.GetD

/-!
# Readers that are not to be trusted

A reader may claim any count, more than it was asked for or wrote, and may write what it does not
claim. Reading from it never leaves the buffer and never yields an image of another size; all that it
can bring about is a panic, by a count that has no room in a machine word. What cannot be kept from
it is to leave places of the image unwritten.

- `Reading.LastWritten`: the octet that was written last at a place, or zero if none was.
- `Image.Withstands`: what can be relied on whatever the reader does.
- `Image.reader_withstood`: every reading withstands its reader.
-/

namespace Launcher

namespace Reading

open ReadStep ReadEvent

/-! ## What stands at a place -/

theorem getD_whole (size : Nat) (buffer : List UInt8) (place : Nat) :
    (whole size buffer).getD place 0 = buffer.getD place 0 := by
  rw [whole]
  rcases Nat.lt_or_ge place buffer.length with h | h
  · rw [List.getD_append _ _ _ _ h]
  · rw [List.getD_append_right _ _ _ _ h, List.getD_eq_default _ _ h]
    simp

/-- What is written is found where it was written; every other place is as it was. -/
theorem getD_write (buffer : List UInt8) (position : Nat) (bytes : List UInt8) (place : Nat) :
    (write buffer position bytes).getD place 0 =
      if position ≤ place ∧ place < position + bytes.length then bytes.getD (place - position) 0
      else buffer.getD place 0 := by
  have hbelow : (whole position (buffer.take position)).length = position :=
    length_whole (List.length_take_le ..)
  rw [write]
  rcases Nat.lt_or_ge place position with h | h
  · -- below the position
    rw [if_neg fun hin => Nat.not_le.2 h hin.1, List.getD_append _ _ _ _ (by simp; omega),
      List.getD_append _ _ _ _ (by omega), getD_whole]
    simp [h]
  rcases Nat.lt_or_ge place (position + bytes.length) with h' | h'
  · rw [if_pos ⟨h, h'⟩, List.getD_append _ _ _ _ (by simp; omega),
      List.getD_append_right _ _ _ _ (by omega), hbelow]
  · -- beyond what is written
    rw [if_neg fun hin => Nat.not_le.2 hin.2 h', List.getD_append_right _ _ _ _ (by simp; omega),
      List.length_append, hbelow]
    simp [h']

/-- The octet that a reader wrote at a place when it was asked for the `k`-th time, counted from zero.
The request starts behind what the reader had claimed by then, `position` included. -/
def wrote (declared : Nat) (steps : List ReadStep) (position : Nat) (requests : List ReadEvent)
    (k place : Nat) : Option UInt8 :=
  let start := position + received (requests.take k)
  (steps[k]?).bind fun step =>
    if place < start then none else (step.writes (declared - start))[place - start]?

/-- The octet that stands at a place after some requests: what was written there last, or what stood
there before if nothing was. -/
def Stands (declared : Nat) (steps : List ReadStep) (position : Nat) (requests : List ReadEvent)
    (before : UInt8) (place : Nat) (octet : UInt8) : Prop :=
  (∃ k < requests.length, wrote declared steps position requests k place = some octet ∧
    ∀ j < requests.length, k < j → wrote declared steps position requests j place = none) ∨
  (octet = before ∧ ∀ k < requests.length, wrote declared steps position requests k place = none)

/-- The octet that was written last at a place of a buffer of zeros. -/
def LastWritten (declared : Nat) (steps : List ReadStep) (requests : List ReadEvent) :
    (place : Nat) → (octet : UInt8) → Prop :=
  Stands declared steps 0 requests 0

variable {declared position place : Nat} {step : ReadStep} {rest steps : List ReadStep}
  {event : ReadEvent} {buffer bytes : List UInt8} {reads : List ReadEvent} {octet : UInt8}

theorem wrote_zero : wrote declared (step :: rest) position (event :: reads) 0 place =
    if place < position then none
    else (step.writes (declared - position))[place - position]? := rfl

theorem wrote_succ (k : Nat) :
    wrote declared (step :: rest) position (event :: reads) (k + 1) place =
      wrote declared rest (position + event.count) reads k place := by
  have hstart : position + received ((event :: reads).take (k + 1)) =
      position + event.count + received (reads.take k) := (Nat.add_assoc ..).symm
  simp only [wrote, hstart]
  rfl

/-- A request before the others: what they leave alone stands as this one has left it. -/
theorem Stands.cons (event : ReadEvent)
    (h : Stands declared rest (position + event.count) reads
      ((write buffer position (step.writes (declared - position))).getD place 0) place octet) :
    Stands declared (step :: rest) position (event :: reads) (buffer.getD place 0) place octet := by
  -- a later request that wrote the place still stands; else this one may have
  rcases h with ⟨k, hk, hwrote, hlater⟩ | ⟨rfl, hnone⟩
  · refine .inl ⟨k + 1, Nat.succ_lt_succ hk, by rw [wrote_succ, hwrote], ?_⟩
    rintro (_ | j) hj hkj
    · exact absurd hkj (Nat.not_lt_zero _)
    · rw [wrote_succ]
      exact hlater j (Nat.lt_of_succ_lt_succ hj) (Nat.lt_of_succ_lt_succ hkj)
  rw [getD_write]
  split
  · -- the place was written by this request
    rename_i hin
    refine .inl ⟨0, Nat.succ_pos _, ?_, ?_⟩
    · rw [wrote_zero, if_neg (Nat.not_lt.2 hin.1), List.getD_eq_getElem _ _ (by omega),
        List.getElem?_eq_getElem]
    · rintro (_ | j) hj hkj
      · exact absurd hkj (Nat.lt_irrefl _)
      · rw [wrote_succ]
        exact hnone j (Nat.lt_of_succ_lt_succ hj)
  · rename_i hout
    refine .inr ⟨rfl, ?_⟩
    rintro (_ | k) hk
    · rw [wrote_zero]
      split
      · rfl
      · exact List.getElem?_eq_none (by omega)
    · rw [wrote_succ]
      exact hnone k (Nat.lt_of_succ_lt_succ hk)

/-- What is read is what was written last, and zero where nothing was. -/
theorem Runs.stands (h : Runs declared steps position buffer (.returned (.ok bytes)) reads)
    (place : Nat) :
    Stands declared steps position reads (buffer.getD place 0) place (bytes.getD place 0) := by
  generalize hending : Ending.returned (Except.ok bytes) = ending at h
  induction h with
  | full =>
    cases hending
    exact .inr ⟨getD_whole .., fun k hk => absurd hk (Nat.not_lt_zero _)⟩
  | spent | nothing | overflow | failed => cases hending
  | took _ _ _ _ _ ih => exact Stands.cons (.gave ..) (ih hending)
  | interrupted _ _ _ _ ih => exact Stands.cons (.failed ..) (ih hending)

end Reading

/-! ## What can be relied on -/

namespace Image

open ReadStep ReadEvent Reading

/-- Without a panic, there is an image if the octets tallied are enough. -/
theorem ofReading_ok_iff {declared total : Nat} {ending : Ending (Except ShortRead (List UInt8))}
    (path : Path) (h : Tallies declared total ending) (hends : ¬∃ p, ending = .panicked p) :
    (∃ image, ofReading declared path ending = .returned (.ok image)) ↔ declared ≤ total := by
  rcases ending with (short | bytes) | p
  · simpa [ofReading, Nat.not_le] using h.2
  · have henough : declared ≤ total := h
    simpa [ofReading] using henough
  · exact absurd ⟨p, rfl⟩ hends

/-- What can be relied on when an image of a declared size is read from any reader at all. -/
structure Withstands (declared : Nat) (path : Path) (steps : List ReadStep)
    (requests : List ReadEvent) : Prop where
  /-- Every request starts within the buffer and reaches to its end; the reader is given up once, also
  after a panic. -/
  recorded : Recorded declared steps (readFrom declared path steps).2 requests
  /-- A reading panics if a count has no room in a machine word beside those before it. -/
  panics_iff : (∃ p, (readFrom declared path steps).1 = .panicked p) ↔ Overflows 0 requests
  panic_eq : ∀ p, (readFrom declared path steps).1 = .panicked p → p = .additionOverflow
  /-- Otherwise there is an image if the answers claim enough, -/
  image_iff : ¬Overflows 0 requests →
    ((∃ image, (readFrom declared path steps).1 = .returned (.ok image)) ↔
      declared ≤ received requests)
  /-- which they do if the reader has enough to claim before it gives nothing or fails. -/
  claimed_iff : ¬Overflows 0 requests →
    ((∃ image, (readFrom declared path steps).1 = .returned (.ok image)) ↔
      declared ≤ claimed steps)
  size : ∀ image, (readFrom declared path steps).1 = .returned (.ok image) →
    image.bytes.length = declared
  /-- An image holds what was written last at each of its places, and zero where nothing was. -/
  octets : ∀ image, (readFrom declared path steps).1 = .returned (.ok image) →
    ∀ place octet, image.bytes[place]? = some octet →
      LastWritten declared steps requests place octet
  /-- What is read in vain is what was claimed, and less than what was declared. -/
  unread : ∀ failure, (readFrom declared path steps).1 = .returned (.error failure) →
    failure = .imageUnread path declared (received requests) (closing steps) ∧
      received requests = claimed steps ∧ received requests < declared

/-- Every reading withstands its reader. -/
theorem reader_withstood (declared : Nat) (path : Path) (steps : List ReadStep) :
    ∃ requests, Withstands declared path steps requests := by
  obtain ⟨ending, requests, hruns, hread⟩ := runs_readFrom declared path steps
  have htallies := hruns.tallies
  -- one tally is of what was received, the other of what the steps claim
  have hclaimed := hruns.tallies_claimed
  rw [Nat.zero_add] at htallies hclaimed
  refine ⟨requests, ?_⟩
  constructor
  case recorded =>
    rw [hread]
    exact hruns.recorded
  case panics_iff =>
    rw [← hruns.panics_iff (Nat.zero_le _), hread]
    rcases ending with (short | bytes) | p <;> simp [ofReading]
  case panic_eq =>
    rw [hread]
    rintro p hp
    rcases ending with (short | bytes) | q <;> cases hp
    exact htallies
  case image_iff =>
    intro hfits
    rw [← hruns.panics_iff (Nat.zero_le _)] at hfits
    rw [hread]
    exact ofReading_ok_iff path htallies hfits
  case claimed_iff =>
    intro hfits
    rw [← hruns.panics_iff (Nat.zero_le _)] at hfits
    rw [hread]
    exact ofReading_ok_iff path hclaimed hfits
  case size =>
    rw [hread]
    rintro image himage
    rcases ending with (short | bytes) | p <;> cases himage
    exact hruns.length_eq (Nat.zero_le _)
  case octets =>
    rw [hread]
    rintro image himage place octet hplace
    rcases ending with (short | bytes) | p <;> cases himage
    have hoctet : bytes.getD place 0 = octet := by
      rw [List.getD_eq_getElem?_getD]
      exact congrArg (Option.getD · 0) hplace
    rw [← hoctet]
    exact hruns.stands place
  case unread =>
    rw [hread]
    rintro failure hfailure
    rcases ending with (short | bytes) | p <;> cases hfailure
    obtain ⟨hread, hless⟩ := htallies
    rw [← hruns.closing_eq, ← hread]
    exact ⟨rfl, hclaimed.1, hread ▸ hless⟩

/-- A reader that writes two octets and reports a failure, claims two that it did not write then, and
gives one more: all three are in the image. -/
example :
    (readFrom 3 .empty
      [.forge [7, 8] (.error (.reported .interrupted "again")), .claim 2, .data [9]]).1 =
        .returned (.ok ⟨[7, 8, 9]⟩) := rfl

end Image

end Launcher
