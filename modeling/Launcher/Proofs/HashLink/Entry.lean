import Launcher.HashLink
import Launcher.Proofs.Session.Operations

/-!
# The entrypoint is looked up within the tables

A header comes from foreign memory, and nothing about its counts and indices can be relied on but
that its tables are as long as the counts say. The lookup tests every index before it reads with it,
in an order in which no test comes too late: a negative entrypoint is refused before the counts are
added, one outside the counts before any table is read, and a native function before the types are.

- `Header.Roomy`: tables that are as long as the counts say.
- `Header.Tested`: what the tests come to, in their order.
- `Header.entry_eq_iff`: the lookup comes to what the tests say and reads nothing outside a table.
- `Header.Alike`: headers that cannot be told apart within the counts.
- `entryClosure_decided`: the answers of the lookup.
-/

namespace Launcher.HashLink

theorem Table.read?_of_lt {α : Type} {t : Table α} {i : Nat} (h : i < t.size) :
    t.read? i = some (t.entry i) :=
  if_pos h

namespace Header

variable {h h' : Header} {lookup : EntryLookup}

/-- The number of function indices that a header promises. -/
def count (h : Header) : Int := h.functionCount.toInt + h.nativeCount.toInt

/-- Whether that number has 32 bits. -/
def CountsAdd (h : Header) : Prop :=
  Int32.minValue.toInt ≤ h.count ∧ h.count ≤ Int32.maxValue.toInt

instance : Decidable h.CountsAdd :=
  inferInstanceAs (Decidable (_ ∧ _))

/-- Tables that are as long as the counts of the header say. They may be longer. A count below zero
promises nothing, and neither do counts without a sum. -/
structure Roomy (h : Header) : Prop where
  indexes : h.CountsAdd → h.count ≤ h.indexes.size
  bodies : h.CountsAdd → h.count ≤ h.bodies.size
  types : h.functionCount.toInt ≤ h.types.size

/-- The entrypoint is a function index. The counts have a sum to compare it with, or the addition
would have panicked. -/
structure InRange (h : Header) : Prop where
  nonneg : 0 ≤ h.entrypoint.toInt
  adds : h.CountsAdd
  lt : h.entrypoint.toInt < h.count

/-- The entrypoint is no function index: it is negative, which is found out before the counts are
added, or the counts have a sum and it is not below that. -/
def OutOfRange (h : Header) : Prop :=
  h.entrypoint.toInt < 0 ∨ 0 ≤ h.entrypoint.toInt ∧ h.CountsAdd ∧ h.count ≤ h.entrypoint.toInt

/-- The number of the bytecode function at the entrypoint, or whatever stands there. -/
def index (h : Header) : Int := (h.indexes.entry h.entrypoint.toInt.toNat).toInt

/-- A bytecode function stands at the entrypoint. -/
def IsBytecode (h : Header) : Prop := 0 ≤ h.index ∧ h.index < h.functionCount.toInt

instance : Decidable h.IsBytecode :=
  inferInstanceAs (Decidable (_ ∧ _))

/-- The compiled body at the entrypoint. -/
def body (h : Header) : Option Int := h.bodies.entry h.entrypoint.toInt.toNat

/-- The closure of a body that stands at the entrypoint. -/
def closure (h : Header) (function : Int) : Closure :=
  ⟨h.types.entry h.index.toNat, function, false⟩

/-- The first test that fails, and what it refuses. -/
inductive Refuses (h : Header) : EntryRefusal → Prop
  | negative (hneg : h.entrypoint.toInt < 0) : Refuses h (.outOfRange h.entrypoint.toInt)
  | outside (hpos : 0 ≤ h.entrypoint.toInt) (hsum : h.CountsAdd)
    (hout : h.count ≤ h.entrypoint.toInt) : Refuses h (.outOfRange h.entrypoint.toInt)
  | native (hin : h.InRange) (hnative : ¬ h.IsBytecode) :
    Refuses h (.notBytecode h.entrypoint.toInt)
  | bodyless (hin : h.InRange) (hbytecode : h.IsBytecode) (hbody : h.body = none) :
    Refuses h (.noBody h.entrypoint.toInt)

/-- What the tests come to. -/
inductive Tested (h : Header) : EntryLookup → Prop
  | refused {refusal : EntryRefusal} (hrefuses : h.Refuses refusal) : Tested h (.refused refusal)
  | overflow (hpos : 0 ≤ h.entrypoint.toInt) (hsum : ¬ h.CountsAdd) : Tested h .overflow
  | found (hin : h.InRange) (hbytecode : h.IsBytecode) {function : Int}
    (hbody : h.body = some function) : Tested h (.found (h.closure function))

/-! ## The tests -/

/-- A header is put to one test after the other, until one fails or none is left. -/
theorem exists_tested (h : Header) : ∃ lookup, h.Tested lookup := by
  by_cases hneg : h.entrypoint.toInt < 0
  · exact ⟨_, .refused (.negative hneg)⟩
  have hpos : 0 ≤ h.entrypoint.toInt := by omega
  by_cases hsum : h.CountsAdd
  case neg => exact ⟨_, .overflow hpos hsum⟩
  by_cases hout : h.count ≤ h.entrypoint.toInt
  · exact ⟨_, .refused (.outside hpos hsum hout)⟩
  have hin : h.InRange := ⟨hpos, hsum, by omega⟩
  by_cases hbytecode : h.IsBytecode
  case neg => exact ⟨_, .refused (.native hin hbytecode)⟩
  cases hbody : h.body with
  | none => exact ⟨_, .refused (.bodyless hin hbytecode hbody)⟩
  | some function => exact ⟨_, .found hin hbytecode hbody⟩

/-! ## The lookup, test by test -/

theorem addCounts?_of_adds (hsum : h.CountsAdd) :
    addCounts? h.functionCount h.nativeCount = some h.count :=
  if_pos hsum

theorem addCounts?_of_not_adds (hsum : ¬ h.CountsAdd) :
    addCounts? h.functionCount h.nativeCount = none :=
  if_neg hsum

/-- A negative entrypoint is refused, whatever the counts and the tables hold. -/
theorem entry_of_negative (hneg : h.entrypoint.toInt < 0) :
    h.entry = .refused (.outOfRange h.entrypoint.toInt) :=
  if_pos hneg

theorem entry_of_overflow (hpos : 0 ≤ h.entrypoint.toInt) (hsum : ¬ h.CountsAdd) :
    h.entry = .overflow := by
  unfold entry
  rw [if_neg (by omega), addCounts?_of_not_adds hsum]

/-- An entrypoint outside the counts is refused, whatever the tables hold. -/
theorem entry_of_outside (hpos : 0 ≤ h.entrypoint.toInt) (hsum : h.CountsAdd)
    (hout : h.count ≤ h.entrypoint.toInt) :
    h.entry = .refused (.outOfRange h.entrypoint.toInt) := by
  unfold entry
  rw [if_neg (by omega), addCounts?_of_adds hsum]
  exact if_pos hout

/-- The two tables by function index reach as far as the entrypoint. -/
theorem Roomy.reads (hroom : h.Roomy) (hin : h.InRange) :
    h.indexes.read? h.entrypoint.toInt.toNat = some (h.indexes.entry h.entrypoint.toInt.toNat) ∧
      h.bodies.read? h.entrypoint.toInt.toNat = some h.body := by
  obtain ⟨hpos, hsum, hlt⟩ := hin
  have hindexes := hroom.indexes hsum
  have hbodies := hroom.bodies hsum
  exact ⟨Table.read?_of_lt (by omega), Table.read?_of_lt (by omega)⟩

/-- The table of types reaches as far as the bytecode functions. -/
theorem Roomy.reads_type (hroom : h.Roomy) (hbytecode : h.IsBytecode) :
    h.types.read? h.index.toNat = some (h.types.entry h.index.toNat) := by
  obtain ⟨hnonneg, hlt⟩ := hbytecode
  have htypes := hroom.types
  exact Table.read?_of_lt (by omega)

/-- An entrypoint in range: what is left of the lookup are the tests of what the tables hold. -/
theorem entry_of_inRange (hroom : h.Roomy) (hin : h.InRange) :
    h.entry =
      if h.IsBytecode then
        match h.body with
        | none => .refused (.noBody h.entrypoint.toInt)
        | some function => .found (h.closure function)
      else .refused (.notBytecode h.entrypoint.toInt) := by
  obtain ⟨hindexes, hbodies⟩ := hroom.reads hin
  have hpos := hin.nonneg
  have hlt := hin.lt
  unfold entry
  rw [if_neg (by omega), addCounts?_of_adds hin.adds]
  simp only [if_neg (show ¬ h.count ≤ h.entrypoint.toInt by omega), hindexes, hbodies]
  by_cases hbytecode : h.IsBytecode
  case neg =>
    rw [if_neg hbytecode]
    refine if_pos ?_
    show h.index < 0 ∨ h.functionCount.toInt ≤ h.index
    unfold IsBytecode at hbytecode
    omega
  -- Only a tested index is looked up among the types.
  rw [if_pos hbytecode, if_neg]
  · cases hbody : h.body with
    | none => rfl
    | some function =>
      have htype := hroom.reads_type hbytecode
      unfold index at htype
      simp only [htype]
      rfl
  · show ¬ (h.index < 0 ∨ h.functionCount.toInt ≤ h.index)
    obtain ⟨hnonneg, hless⟩ := hbytecode
    omega

theorem entry_of_tested (hroom : h.Roomy) (ht : h.Tested lookup) : h.entry = lookup := by
  cases ht with
  | overflow hpos hsum => exact entry_of_overflow hpos hsum
  | found hin hbytecode hbody =>
    rw [entry_of_inRange hroom hin, if_pos hbytecode, hbody]
  | refused hrefuses =>
    cases hrefuses with
    | negative hneg => exact entry_of_negative hneg
    | outside hpos hsum hout => exact entry_of_outside hpos hsum hout
    | native hin hnative => rw [entry_of_inRange hroom hin, if_neg hnative]
    | bodyless hin hbytecode hbody =>
      rw [entry_of_inRange hroom hin, if_pos hbytecode, hbody]

/-- The lookup comes to what the tests come to; no test leaves a table. -/
theorem entry_eq_iff (hroom : h.Roomy) : h.entry = lookup ↔ h.Tested lookup := by
  refine ⟨?_, entry_of_tested hroom⟩
  rintro rfl
  obtain ⟨lookup, ht⟩ := h.exists_tested
  rwa [entry_of_tested hroom ht]

theorem entry_ne_stray (hroom : h.Roomy) : h.entry ≠ .stray := by
  intro hstray
  cases (entry_eq_iff hroom).mp hstray

theorem tested_found_iff {closure : Closure} :
    h.Tested (.found closure) ↔
      h.InRange ∧ h.IsBytecode ∧ ∃ function, h.body = some function ∧
        closure = ⟨h.types.entry h.index.toNat, function, false⟩ := by
  constructor
  · rintro (_ | _ | ⟨hin, hbytecode, hbody⟩)
    exact ⟨hin, hbytecode, _, hbody, rfl⟩
  · rintro ⟨hin, hbytecode, function, hbody, rfl⟩
    exact .found hin hbytecode hbody

theorem tested_overflow_iff :
    h.Tested .overflow ↔ 0 ≤ h.entrypoint.toInt ∧ ¬ h.CountsAdd := by
  constructor
  · rintro (_ | ⟨hpos, hsum⟩)
    exact ⟨hpos, hsum⟩
  · rintro ⟨hpos, hsum⟩
    exact .overflow hpos hsum

theorem tested_refused_iff {refusal : EntryRefusal} :
    h.Tested (.refused refusal) ↔ h.Refuses refusal := by
  constructor
  · rintro ⟨hrefuses⟩
    exact hrefuses
  · exact .refused

/-- A refusal in words, by the first test that fails. -/
theorem exists_refuses_iff {reason : String} :
    (∃ refusal, h.Refuses refusal ∧ reason = refusal.reason) ↔
      h.OutOfRange ∧
          reason = "entrypoint index " ++ toString h.entrypoint.toInt ++ " out of range" ∨
        h.InRange ∧ ¬ h.IsBytecode ∧
          reason = "entrypoint " ++ toString h.entrypoint.toInt ++ " is not a bytecode function" ∨
        h.InRange ∧ h.IsBytecode ∧ h.body = none ∧
          reason = "entrypoint " ++ toString h.entrypoint.toInt ++ " has no compiled body" := by
  constructor
  · rintro ⟨refusal, hrefuses, rfl⟩
    cases hrefuses with
    | negative hneg => exact .inl ⟨.inl hneg, rfl⟩
    | outside hpos hsum hout => exact .inl ⟨.inr ⟨hpos, hsum, hout⟩, rfl⟩
    | native hin hnative => exact .inr (.inl ⟨hin, hnative, rfl⟩)
    | bodyless hin hbytecode hbody => exact .inr (.inr ⟨hin, hbytecode, hbody, rfl⟩)
  · rintro (⟨hneg | ⟨hpos, hsum, hout⟩, rfl⟩ | ⟨hin, hnative, rfl⟩ | ⟨hin, hbytecode, hbody, rfl⟩)
    · exact ⟨_, .negative hneg, rfl⟩
    · exact ⟨_, .outside hpos hsum hout, rfl⟩
    · exact ⟨_, .native hin hnative, rfl⟩
    · exact ⟨_, .bodyless hin hbytecode hbody, rfl⟩

/-! ## What makes no difference -/

/-- Headers with the same entrypoint and counts, whose tables agree as far as the counts go. -/
structure Alike (h h' : Header) : Prop where
  entrypoint : h.entrypoint = h'.entrypoint
  functionCount : h.functionCount = h'.functionCount
  nativeCount : h.nativeCount = h'.nativeCount
  indexes (i : Nat) (hi : (i : Int) < h.count) : h.indexes.entry i = h'.indexes.entry i
  bodies (i : Nat) (hi : (i : Int) < h.count) : h.bodies.entry i = h'.bodies.entry i
  types (i : Nat) (hi : (i : Int) < h.functionCount.toInt) : h.types.entry i = h'.types.entry i

namespace Alike

theorem count_eq (ha : h.Alike h') : h.count = h'.count := by
  unfold count
  rw [ha.functionCount, ha.nativeCount]

theorem countsAdd_iff (ha : h.Alike h') : h.CountsAdd ↔ h'.CountsAdd := by
  unfold CountsAdd
  rw [ha.count_eq]

theorem inRange (ha : h.Alike h') (hin : h.InRange) : h'.InRange :=
  ⟨ha.entrypoint ▸ hin.nonneg, ha.countsAdd_iff.mp hin.adds,
    ha.entrypoint ▸ ha.count_eq ▸ hin.lt⟩

/-- An entrypoint in range is within what the tables agree on. -/
theorem within (hin : h.InRange) : (h.entrypoint.toInt.toNat : Int) < h.count := by
  have hpos := hin.nonneg
  have hlt := hin.lt
  omega

theorem index_eq (ha : h.Alike h') (hin : h.InRange) : h.index = h'.index := by
  unfold index
  rw [ha.indexes _ (within hin), ha.entrypoint]

theorem body_eq (ha : h.Alike h') (hin : h.InRange) : h.body = h'.body := by
  unfold body
  rw [ha.bodies _ (within hin), ha.entrypoint]

theorem isBytecode_iff (ha : h.Alike h') (hin : h.InRange) : h.IsBytecode ↔ h'.IsBytecode := by
  unfold IsBytecode
  rw [ha.index_eq hin, ha.functionCount]

theorem closure_eq (ha : h.Alike h') (hin : h.InRange) (hbytecode : h.IsBytecode) (function : Int) :
    h.closure function = h'.closure function := by
  obtain ⟨hnonneg, hlt⟩ := hbytecode
  unfold closure
  rw [ha.types h.index.toNat (by omega), ha.index_eq hin]

theorem refuses (ha : h.Alike h') {refusal : EntryRefusal} (hrefuses : h.Refuses refusal) :
    h'.Refuses refusal := by
  cases hrefuses with
  | negative hneg =>
    rw [ha.entrypoint] at hneg ⊢
    exact .negative hneg
  | outside hpos hsum hout =>
    rw [ha.entrypoint] at hpos hout ⊢
    rw [ha.count_eq] at hout
    exact .outside hpos (ha.countsAdd_iff.mp hsum) hout
  | native hin hnative =>
    rw [ha.entrypoint]
    exact .native (ha.inRange hin) (mt (ha.isBytecode_iff hin).mpr hnative)
  | bodyless hin hbytecode hbody =>
    rw [ha.body_eq hin] at hbody
    rw [ha.entrypoint]
    exact .bodyless (ha.inRange hin) ((ha.isBytecode_iff hin).mp hbytecode) hbody

theorem tested (ha : h.Alike h') (ht : h.Tested lookup) : h'.Tested lookup := by
  cases ht with
  | refused hrefuses => exact .refused (ha.refuses hrefuses)
  | overflow hpos hsum =>
    exact .overflow (ha.entrypoint ▸ hpos) (mt ha.countsAdd_iff.mpr hsum)
  | found hin hbytecode hbody =>
    rw [ha.closure_eq hin hbytecode]
    exact .found (ha.inRange hin) ((ha.isBytecode_iff hin).mp hbytecode) (ha.body_eq hin ▸ hbody)

/-- What the tables hold beyond the counts makes no difference to the lookup. -/
theorem entry_eq (ha : h.Alike h') (hroom : h.Roomy) (hroom' : h'.Roomy) :
    h.entry = h'.entry := by
  have ht : h.Tested h.entry := (entry_eq_iff hroom).mp rfl
  exact (entry_of_tested hroom' (ha.tested ht)).symm

end Alike

end Header

/-! ## The answers -/

namespace EntryLookup

/-- How the lookup ends. -/
def ending : EntryLookup → Ending (Except String Closure)
  | .found closure => .returned (.ok closure)
  | .refused refusal => .returned (.error refusal.reason)
  | .overflow => .panicked .additionOverflow
  | .stray => .panicked ⟨some "read outside a table"⟩

theorem ending_eq_ok_iff {lookup : EntryLookup} {closure : Closure} :
    lookup.ending = .returned (.ok closure) ↔ lookup = .found closure := by
  cases lookup <;> simp [ending]

theorem ending_eq_error_iff {lookup : EntryLookup} {reason : String} :
    lookup.ending = .returned (.error reason) ↔
      ∃ refusal, lookup = .refused refusal ∧ reason = refusal.reason := by
  cases lookup <;> simp [ending, eq_comm]

theorem ending_eq_panicked_iff {lookup : EntryLookup} {panic : Panic} (hstray : lookup ≠ .stray) :
    lookup.ending = .panicked panic ↔ panic = .additionOverflow ∧ lookup = .overflow := by
  cases lookup with
  | stray => exact absurd rfl hstray
  | found | refused | overflow => simp [ending, eq_comm]

end EntryLookup

section Answers

variable {τ : Type} {module : ModuleId} {s s' : State τ} {h h' : Header}

/-- The lookup says nothing to the library and changes nothing. -/
theorem entryClosure_of_header (hmodule : s.moduleHeader? module = some h) :
    entryClosure module s = ⟨h.entry.ending, [], s⟩ := by
  unfold entryClosure
  rw [hmodule, Option.map_some]
  cases h.entry <;> rfl

/-- A loaded module has the answer of its runtime, with the reason as a link error. -/
theorem session_entryClosure (api : Api τ) (runtime : Runtime) (code : ParsedCode)
    (seam : Seam (State τ)) :
    (Session.entryClosure (vm api runtime) ⟨some module, code⟩ seam).ending =
      Session.linkAnswer (entryClosure module seam.beyond).ending := by
  obtain ⟨-, hending, -⟩ := Session.entryClosure_spec (vm api runtime) module code seam
  rw [hending]
  rfl

/-- Headers that are alike get one answer, and so do headers with one negative entrypoint, whatever
their counts and tables. -/
theorem entryClosure_indifferent (hroom : h.Roomy)
    (hmodule : s.moduleHeader? module = some h) (hmodule' : s'.moduleHeader? module = some h')
    (hsame : h.Alike h' ∧ h'.Roomy ∨ h.entrypoint.toInt < 0 ∧ h'.entrypoint = h.entrypoint) :
    (entryClosure module s').ending = (entryClosure module s).ending := by
  rw [entryClosure_of_header hmodule, entryClosure_of_header hmodule']
  rcases hsame with ⟨ha, hroom'⟩ | ⟨hneg, hentrypoint⟩
  · rw [ha.entry_eq hroom hroom']
  · have hneg' : h'.entrypoint.toInt < 0 := hentrypoint ▸ hneg
    rw [Header.entry_of_negative hneg, Header.entry_of_negative hneg', hentrypoint]

/-- What the entrypoint of a module comes to, for every header that the library may leave. The first
test that fails has the say. No read leaves a table, nothing beyond the counts makes a difference,
and the counts make none to a negative entrypoint. -/
theorem entryClosure_decided (hmodule : s.moduleHeader? module = some h) (hroom : h.Roomy) :
    (∀ closure, (entryClosure module s).ending = .returned (.ok closure) ↔
      h.InRange ∧ h.IsBytecode ∧ ∃ function, h.body = some function ∧
        closure = ⟨h.types.entry h.index.toNat, function, false⟩) ∧
    (∀ panic, (entryClosure module s).ending = .panicked panic ↔
      panic = .additionOverflow ∧ 0 ≤ h.entrypoint.toInt ∧ ¬ h.CountsAdd) ∧
    (∀ reason, (entryClosure module s).ending = .returned (.error reason) ↔
      h.OutOfRange ∧
          reason = "entrypoint index " ++ toString h.entrypoint.toInt ++ " out of range" ∨
        h.InRange ∧ ¬ h.IsBytecode ∧
          reason = "entrypoint " ++ toString h.entrypoint.toInt ++ " is not a bytecode function" ∨
        h.InRange ∧ h.IsBytecode ∧ h.body = none ∧
          reason = "entrypoint " ++ toString h.entrypoint.toInt ++ " has no compiled body") ∧
    h.entry ≠ .stray ∧
    (∀ (s' : State τ) (h' : Header), s'.moduleHeader? module = some h' →
      h.Alike h' ∧ h'.Roomy ∨ h.entrypoint.toInt < 0 ∧ h'.entrypoint = h.entrypoint →
      (entryClosure module s').ending = (entryClosure module s).ending) ∧
    ∀ (api : Api τ) (runtime : Runtime) (code : ParsedCode) (seam : Seam (State τ)),
      seam.beyond = s →
      (Session.entryClosure (vm api runtime) ⟨some module, code⟩ seam).ending =
        Session.linkAnswer (entryClosure module s).ending := by
  have hstray := Header.entry_ne_stray hroom
  have hending : (entryClosure module s).ending = h.entry.ending := by
    rw [entryClosure_of_header hmodule]
  refine ⟨fun closure => ?_, fun panic => ?_, fun reason => ?_, hstray, ?_, ?_⟩
  · rw [hending, EntryLookup.ending_eq_ok_iff, Header.entry_eq_iff hroom]
    exact Header.tested_found_iff
  · rw [hending, EntryLookup.ending_eq_panicked_iff hstray, Header.entry_eq_iff hroom]
    exact and_congr_right fun _ => Header.tested_overflow_iff
  · rw [hending, EntryLookup.ending_eq_error_iff, ← Header.exists_refuses_iff]
    -- the tests exclude each other, so the refusal that was found is the only one
    refine exists_congr fun refusal => and_congr_left fun _ => ?_
    rw [Header.entry_eq_iff hroom]
    exact Header.tested_refused_iff
  · intro s' h' hmodule' hsame
    exact entryClosure_indifferent hroom hmodule hmodule' hsame
  · rintro api runtime code seam rfl
    exact session_entryClosure api runtime code seam

/-- A program with two functions and a native one, whose entrypoint is the second function. -/
def twoFunctions : Header :=
  ⟨2, 1, 1, ⟨3, fun i => if i = 1 then 0 else 7⟩, ⟨3, fun i => some (100 + i)⟩,
    ⟨2, fun i => some (200 + i)⟩⟩

theorem entryClosure_decided_two_functions :
    twoFunctions.Roomy ∧
      (entryClosure ⟨0⟩ (⟨(), true, [], [(⟨0⟩, twoFunctions)]⟩ : State Unit)).ending =
        .returned (.ok ⟨some 200, 101, false⟩) := by
  have hroom : twoFunctions.Roomy := ⟨fun _ => by decide, fun _ => by decide, by decide⟩
  refine ⟨hroom, ((entryClosure_decided rfl hroom).1 ⟨some 200, 101, false⟩).mpr ?_⟩
  exact ⟨⟨by decide, by decide, by decide⟩, by decide, 101, rfl, rfl⟩

end Answers

end Launcher.HashLink
