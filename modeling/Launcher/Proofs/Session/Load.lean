import Launcher.Proofs.HashLink.GlobalState
import Launcher.Proofs.Image.Stream
import Launcher.Proofs.Session.Operations
import Launcher.Rehearsal.ScriptedVm

/-!
# Loading an image

An image is parsed as a whole or not at all. The VM is asked once, for exactly what the file holds,
if the file opens, is not too large and is read to its end; otherwise it is not asked, and loading
fails like reading alone. Nothing is assumed of the files but that their readers honour the contract
of readers: they may cut what they hand out in any way, be interrupted and fail.

- `Source.Holds`: a file with its contents, which its reader hands out from the front.
- `Session.Unparsed`, `Session.Parses`: loading that fails before parsing, and loading that parses.
- `Session.LoadsWhole`: which of the two happens when; `Session.FeedsLibrary`: what it means for the
  VM library, whose own limit of the size is never met.
- `Session.load_whole`: every load is of this kind.
-/

namespace Launcher

open ReadStep

/-- A source is a file with these contents, of which its reader hands out as much as it can. -/
structure Source.Holds (source : Source) (contents : List UInt8) : Prop where
  size : source.size = .ok contents.length
  front : delivered source.steps <+: contents

/-- What a path opens honours the contract of readers. -/
def Opening.Honest (opening : Opening) (path : Path) : Prop :=
  ∀ source, opening path = .ok source → ∀ step ∈ source.steps, step.Honest

/-- Files do. -/
theorem Files.honest_openSource (files : Files) (path : Path) :
    Opening.Honest files.openSource path := by
  intro source hopen
  unfold Files.openSource at hopen
  split at hopen
  · rename_i node _
    cases hopen
    cases node with
    | directory => simp [Files.Node.source, ReadStep.Honest]
    | file content => cases content <;> simp [Files.Node.source, ReadStep.Honest]
  · cases hopen

namespace Image

variable {opening : Opening} {path : Path} {source : Source} {size : Nat}

/-! ## Reading what a path leads to -/

theorem reading_unopened {e : IoError} (hopen : opening path = .error e) :
    reading opening path = (.returned (.error (.imageNotFound path e)), []) := by
  simp [reading, hopen]

theorem reading_unsized {e : IoError} (hopen : opening path = .ok source)
    (hsize : source.size = .error e) :
    reading opening path =
      (.returned (.error (.imageUnread path 0 0 (some e))), [.dropped]) := by
  simp [reading, hopen, hsize]

theorem reading_oversized (hopen : opening path = .ok source) (hsize : source.size = .ok size)
    (hlarge : maxSize < size) :
    reading opening path =
      (.returned (.error (.imageMalformed path (tooLarge size))), [.dropped]) := by
  simp [reading, hopen, hsize, hlarge]

theorem reading_sized (hopen : opening path = .ok source) (hsize : source.size = .ok size)
    (hfits : size ≤ maxSize) : reading opening path = readFrom size path source.steps := by
  simp [reading, hopen, hsize, Nat.not_lt.2 hfits]

/-- An image that fits is read as far as the reader hands it out. -/
theorem read_of_honest (hhonest : opening.Honest path) (hopen : opening path = .ok source)
    (hsize : source.size = .ok size) (hfits : size ≤ maxSize) :
    read opening path =
      .returned (if size ≤ (delivered source.steps).length
        then .ok ⟨(delivered source.steps).take size⟩
        else .error (.imageUnread path size (delivered source.steps).length
          (closing source.steps))) := by
  have hcounted : size ≤ Reading.maxPosition := Nat.le_trans hfits (by decide)
  rw [read, reading_sized hopen hsize hfits]
  exact readFrom_of_honest path (hhonest source hopen) hcounted

end Image

namespace Session

variable {σ τ : Type}

/-! ## Loading -/

/-- Loading fails before the VM is asked, with the failure of reading alone. -/
structure Unparsed (vm : Vm σ) (opening : Opening) (path : Path) (seam : Seam σ)
    (failure : Failure) : Prop where
  read : Image.read opening path = .returned (.error failure)
  ending : (load vm opening path seam).ending = .returned (.error failure)
  uncalled : Event.calls (load vm opening path seam).trace = []
  untouched : (load vm opening path seam).state = seam

/-- Loading has the VM parse some octets, once, and ends as the VM answers. -/
structure Parses (vm : Vm σ) (opening : Opening) (path : Path) (seam : Seam σ)
    (bytes : List UInt8) : Prop where
  call : Event.calls (load vm opening path seam).trace =
    [.parse bytes (Seam.parse vm ⟨bytes⟩ seam).ending]
  parsed : ∀ id, (Seam.parse vm ⟨bytes⟩ seam).ending = .returned (.ok id) →
    (load vm opening path seam).ending = .returned (.ok ⟨id, false⟩)
  refused : ∀ reason, (Seam.parse vm ⟨bytes⟩ seam).ending = .returned (.error reason) →
    (load vm opening path seam).ending = .returned (.error (.imageMalformed path reason))
  panicked : ∀ p, (Seam.parse vm ⟨bytes⟩ seam).ending = .panicked p →
    (load vm opening path seam).ending = .panicked p

variable {vm : Vm σ} {opening : Opening} {path : Path}

theorem unparsed_of_read {failure : Failure}
    (h : Image.read opening path = .returned (.error failure)) (seam : Seam σ) :
    Unparsed vm opening path seam failure := by
  have hloading : loading vm opening path seam = .unread failure := by simp [loading, h]
  refine ⟨h, ?_, ?_, ?_⟩
  · rw [load_ending, hloading]
    rfl
  · rw [Event.calls_of_own (own_load vm opening path seam), hloading]
    rfl
  · unfold load
    rw [h]
    simp

theorem parses_of_read {image : Image} (h : Image.read opening path = .returned (.ok image))
    (seam : Seam σ) : Parses vm opening path seam image.bytes := by
  have hloading : loading vm opening path seam = .parsed image (Seam.parse vm image seam).ending := by
    simp [loading, h]
  constructor
  case call =>
    rw [Event.calls_of_own (own_load vm opening path seam), hloading]
    exact calls_loadEvents_parsed ..
  case parsed =>
    intro id hid
    rw [load_ending, hloading, hid]
    rfl
  case refused =>
    intro reason hreason
    rw [load_ending, hloading, hreason]
    rfl
  case panicked =>
    intro p hp
    rw [load_ending, hloading, hp]
    rfl

/-- When an image is parsed, of which octets, and what becomes of it otherwise. -/
structure LoadsWhole (vm : Vm σ) (opening : Opening) (path : Path) (seam : Seam σ) : Prop where
  once : (Event.calls (load vm opening path seam).trace).length ≤ 1
  /-- The VM is asked if the file opens, is not too large, and all of it is read. -/
  asked_iff : (∃ bytes answer, .parse bytes answer ∈ Event.calls (load vm opening path seam).trace) ↔
    ∃ source size, opening path = .ok source ∧ source.size = .ok size ∧ size ≤ Image.maxSize ∧
      size ≤ (delivered source.steps).length
  unopened : ∀ e, opening path = .error e → Unparsed vm opening path seam (.imageNotFound path e)
  unsized : ∀ source e, opening path = .ok source → source.size = .error e →
    Unparsed vm opening path seam (.imageUnread path 0 0 (some e))
  /-- Nothing is read of a file that is too large. -/
  oversized : ∀ source size, opening path = .ok source → source.size = .ok size →
    Image.maxSize < size →
    Unparsed vm opening path seam (.imageMalformed path (Image.tooLarge size)) ∧
      (Image.reading opening path).2 = [.dropped]
  /-- A file that fails or ends before its size is told by how much of it was read. -/
  unread : ∀ source size, opening path = .ok source → source.size = .ok size →
    size ≤ Image.maxSize → (delivered source.steps).length < size →
    Unparsed vm opening path seam (.imageUnread path size (delivered source.steps).length
      (closing source.steps))
  parses : ∀ source size, opening path = .ok source → source.size = .ok size →
    size ≤ Image.maxSize → size ≤ (delivered source.steps).length →
    Parses vm opening path seam ((delivered source.steps).take size)
  /-- What is parsed is what the file holds. -/
  contents : ∀ source contents, opening path = .ok source → source.Holds contents →
    contents.length ≤ Image.maxSize → contents.length ≤ (delivered source.steps).length →
    Parses vm opening path seam contents

/-- Loading asks the VM to parse once at most, and only what was read. -/
theorem calls_load (vm : Vm σ) (opening : Opening) (path : Path) (seam : Seam σ) :
    (Event.calls (load vm opening path seam).trace = [] ∧
      ∀ image, Image.read opening path ≠ .returned (.ok image)) ∨
    ∃ image, Image.read opening path = .returned (.ok image) ∧
      Event.calls (load vm opening path seam).trace =
        [.parse image.bytes (Seam.parse vm image seam).ending] := by
  rw [Event.calls_of_own (own_load vm opening path seam), loading]
  rcases Image.read opening path with (failure | image) | p
  · exact .inl ⟨rfl, nofun⟩
  · exact .inr ⟨image, rfl, calls_loadEvents_parsed ..⟩
  · exact .inl ⟨rfl, nofun⟩

/-- An image was read if its file opens, is not too large and is handed out in full. -/
theorem exists_read_iff (hhonest : opening.Honest path) :
    (∃ image, Image.read opening path = .returned (.ok image)) ↔
      ∃ source size, opening path = .ok source ∧ source.size = .ok size ∧ size ≤ Image.maxSize ∧
        size ≤ (delivered source.steps).length := by
  constructor
  · rintro ⟨image, hread⟩
    rcases hopen : opening path with e | source
    · rw [Image.read, Image.reading_unopened hopen] at hread
      cases hread
    rcases hsize : source.size with e | size
    · rw [Image.read, Image.reading_unsized hopen hsize] at hread
      cases hread
    rcases Nat.lt_or_ge Image.maxSize size with hlarge | hfits
    · rw [Image.read, Image.reading_oversized hopen hsize hlarge] at hread
      cases hread
    refine ⟨source, size, rfl, hsize, hfits, ?_⟩
    -- an honest reader that gives out too early fails the reading
    by_contra hshort
    rw [Image.read_of_honest hhonest hopen hsize hfits, if_neg hshort] at hread
    cases hread
  · rintro ⟨source, size, hopen, hsize, hfits, hall⟩
    exact ⟨_, by rw [Image.read_of_honest hhonest hopen hsize hfits, if_pos hall]⟩

theorem loadsWhole (vm : Vm σ) (hhonest : opening.Honest path) (seam : Seam σ) :
    LoadsWhole vm opening path seam := by
  have hparses : ∀ source size, opening path = .ok source → source.size = .ok size →
      size ≤ Image.maxSize → size ≤ (delivered source.steps).length →
      Parses vm opening path seam ((delivered source.steps).take size) := by
    intro source size hopen hsize hfits hall
    have hread := Image.read_of_honest hhonest hopen hsize hfits
    rw [if_pos hall] at hread
    exact parses_of_read hread seam
  have hcalls := calls_load vm opening path seam
  constructor
  case once => rcases hcalls with ⟨hnone, -⟩ | ⟨image, -, hone⟩ <;> simp [*]
  case asked_iff =>
    rw [← exists_read_iff hhonest]
    rcases hcalls with ⟨hnone, hunread⟩ | ⟨image, hread, hone⟩
    · simp [hnone, hunread]
    · simp [hone, hread]
  case unopened =>
    intro e hopen
    exact unparsed_of_read (congrArg Prod.fst (Image.reading_unopened hopen)) seam
  case unsized =>
    intro source e hopen hsize
    exact unparsed_of_read (congrArg Prod.fst (Image.reading_unsized hopen hsize)) seam
  case oversized =>
    intro source size hopen hsize hlarge
    have hreading := Image.reading_oversized hopen hsize hlarge
    exact ⟨unparsed_of_read (congrArg Prod.fst hreading) seam, congrArg Prod.snd hreading⟩
  case unread =>
    intro source size hopen hsize hfits hshort
    have hread := Image.read_of_honest hhonest hopen hsize hfits
    rw [if_neg (Nat.not_le.2 hshort)] at hread
    exact unparsed_of_read hread seam
  case parses => exact hparses
  case contents =>
    intro source contents hopen hholds hfits hall
    -- the whole of the file is a front of it as long as the file
    have hfront : delivered source.steps = contents := hholds.front.eq_of_length_le hall
    have hwhole := hparses source contents.length hopen hholds.size hfits hall
    rwa [hfront, List.take_length] at hwhole

/-! ## The VM library -/

/-- What loading an image asks of the VM library. The size is that of the image, and what comes of it
is up to the library alone. -/
structure FeedsLibrary (api : HashLink.Api τ) (runtime : HashLink.Runtime) (opening : Opening)
    (path : Path) (seam : Seam (HashLink.State τ)) : Prop where
  idle : Event.calls (load (HashLink.vm api runtime) opening path seam).trace = [] →
    Event.libraryCalls (load (HashLink.vm api runtime) opening path seam).trace = []
  /-- The library is asked for what the VM is asked for, with the size that it has. -/
  fed : ∀ image answer,
    .parse image answer ∈ Event.calls (load (HashLink.vm api runtime) opening path seam).trace →
    ∃ size made, size.toInt = image.length ∧
      Event.libraryCalls (load (HashLink.vm api runtime) opening path seam).trace =
        [.codeRead image size made]
  /-- An image is refused with the library's reason and for no other. -/
  answered : ∀ image answer,
    .parse image answer ∈ Event.calls (load (HashLink.vm api runtime) opening path seam).trace →
    match (api.codeRead image (Int32.ofNat image.length) seam.beyond.library).1 with
    | .parsed _ => answer = .returned (.ok ⟨seam.codes⟩)
    | .refused message =>
      answer = .returned (.error ((message.map HashLink.messageText).getD HashLink.invalidBytecode))

/-- Only parsing reaches the VM library. -/
theorem libraryCalls_load_unread (vm : Vm σ)
    (h : ∀ image, Image.read opening path ≠ .returned (.ok image)) (seam : Seam σ) :
    Event.libraryCalls (load vm opening path seam).trace = [] := by
  unfold load
  rcases hread : Image.read opening path with (failure | image) | p
  · simp
  · exact absurd hread (h image)
  · simp [Event.libraryCalls, Event.libraryCall?]

theorem libraryCalls_load {image : Image} (vm : Vm σ)
    (h : Image.read opening path = .returned (.ok image)) (seam : Seam σ) :
    Event.libraryCalls (load vm opening path seam).trace =
      Event.libraryCalls (Seam.parse vm image seam).trace := by
  unfold load parse
  rw [h]
  rcases hanswer : (Seam.parse vm image seam).ending with (reason | id) | p
  · simp [Act.bind_returned _ hanswer]
  · simp [Act.bind_returned _ hanswer]
  · simp [Act.bind_panicked _ hanswer]

/-- An image that fits is handed to the VM library, whose answer is the answer. -/
theorem parse_library (api : HashLink.Api τ) (runtime : HashLink.Runtime) {image : Image}
    (hfits : image.bytes.length ≤ Image.maxSize) (seam : Seam (HashLink.State τ)) :
    (∃ made, Event.libraryCalls (Seam.parse (HashLink.vm api runtime) image seam).trace =
      [.codeRead image.bytes (Int32.ofNat image.bytes.length) made]) ∧
    match (api.codeRead image.bytes (Int32.ofNat image.bytes.length) seam.beyond.library).1 with
    | .parsed _ =>
      (Seam.parse (HashLink.vm api runtime) image seam).ending = .returned (.ok ⟨seam.codes⟩)
    | .refused message =>
      (Seam.parse (HashLink.vm api runtime) image seam).ending =
        .returned (.error ((message.map HashLink.messageText).getD HashLink.invalidBytecode)) := by
  have hparse := Nat.not_lt.2 hfits
  rcases hanswer : api.codeRead image.bytes (Int32.ofNat image.bytes.length) seam.beyond.library with
    ⟨header | message, library⟩
  · simp [Seam.parse, HashLink.vm, HashLink.parse, hparse, hanswer, Seam.numbered]
  · simp [Seam.parse, HashLink.vm, HashLink.parse, hparse, hanswer, Seam.numbered]

theorem feedsLibrary (api : HashLink.Api τ) (runtime : HashLink.Runtime) (opening : Opening)
    (path : Path) (seam : Seam (HashLink.State τ)) :
    FeedsLibrary api runtime opening path seam := by
  rcases calls_load (HashLink.vm api runtime) opening path seam with
    ⟨hnone, hunread⟩ | ⟨image, hread, hone⟩
  · refine ⟨fun _ => libraryCalls_load_unread _ hunread seam, ?_, ?_⟩
    · intro image answer hcall
      rw [hnone] at hcall
      cases hcall
    · intro image answer hcall
      rw [hnone] at hcall
      cases hcall
  have hfits := Image.length_of_read hread
  obtain ⟨⟨made, hlibrary⟩, hanswer⟩ := parse_library api runtime hfits seam
  constructor
  case idle =>
    intro hnone
    rw [hone] at hnone
    cases hnone
  case fed =>
    intro bytes answer hcall
    rw [hone] at hcall
    cases List.mem_singleton.1 hcall
    -- the size fits an `Int32`, as no larger image is read
    have hsize : (Int32.ofNat image.bytes.length).toInt = image.bytes.length :=
      Int32.toInt_ofNat_of_lt (Nat.lt_of_le_of_lt hfits (by decide))
    exact ⟨_, made, hsize, (libraryCalls_load _ hread seam).trans hlibrary⟩
  case answered =>
    intro bytes answer hcall
    rw [hone] at hcall
    cases List.mem_singleton.1 hcall
    exact hanswer

/-- Every image is loaded as a whole or not at all, by any VM, and with its own size by the VM
library. -/
theorem load_whole {opening : Opening} {path : Path} (hhonest : opening.Honest path) :
    (∀ {σ : Type} (vm : Vm σ) (seam : Seam σ), LoadsWhole vm opening path seam) ∧
      ∀ {τ : Type} (api : HashLink.Api τ) (runtime : HashLink.Runtime)
        (seam : Seam (HashLink.State τ)), FeedsLibrary api runtime opening path seam :=
  ⟨fun vm seam => loadsWhole vm hhonest seam,
    fun api runtime seam => feedsLibrary api runtime opening path seam⟩

/-- A file of three octets beside a directory. -/
theorem load_whole_file :
    ∃ (files : Files) (path : Path) (seam : Seam Rehearsal.ScriptedVm),
      Opening.Honest files.openSource path ∧
      Event.calls (load Rehearsal.ScriptedVm.vm files.openSource path seam).trace =
        [.parse [72, 76, 66] (.returned (.ok ⟨0⟩))] ∧
      LoadsWhole Rehearsal.ScriptedVm.vm files.openSource path seam := by
  let files : Files := ⟨[], [([[97]], .directory), ([[98]], .file (.octets [72, 76, 66]))]⟩
  let seam : Seam Rehearsal.ScriptedVm :=
    .fresh (Rehearsal.ScriptedVm.fresh (.fresh none) ⟨[], [], [], [], [], [], []⟩)
  have hhonest := files.honest_openSource ⟨[98]⟩
  exact ⟨files, ⟨[98]⟩, seam, hhonest, rfl, (load_whole hhonest).1 _ seam⟩

end Session

end Launcher
