import Launcher.Text.Utf16
import Mathlib.Data.List.Basic

/-!
# What units spell

A text in 16-bit units ends at the first zero unit, and nothing behind that is read. Of the units
before it, two that form a pair spell one character, a surrogate without its partner spells U+FFFD,
and any other unit spells the character of its number.

- `Scans`: reading units up to the first zero unit.
- `Spells`: the characters that units spell.
- `spells_iff`: the decoder answers what the units spell.
- `decode_encode`: a text is spelled by its own units.
- `decode_append_plain`: the units on either side of a unit that is no surrogate spell apart.
-/

namespace Launcher.Text.Utf16

/-! ## Reading up to the zero unit -/

/-- Reading units from a place on, one after the other, up to the first zero unit: every unit that
is read is there, and none is read behind the zero unit. -/
inductive Scans (units : List UInt16) : Nat → List UInt16 → Prop
  | stop {i : Nat} : units[i]? = some 0 → Scans units i []
  | next {i : Nat} {u : UInt16} {us : List UInt16} :
      units[i]? = some u → u ≠ 0 → Scans units (i + 1) us → Scans units i (u :: us)

/-- Units that are followed by a zero unit are found, even if that is the last one there is. -/
theorem scans_append (before us : List UInt16) (h : 0 ∉ us) (rest : List UInt16) :
    Scans (before ++ us ++ 0 :: rest) before.length us := by
  induction us generalizing before with
  | nil => exact .stop (by simp)
  | cons u us ih =>
    obtain ⟨hu, hus⟩ := not_or.1 (mt List.mem_cons.2 h)
    have hrest := ih (before ++ [u]) hus
    rw [List.append_assoc before, List.singleton_append, List.length_append] at hrest
    exact .next (by simp) (Ne.symm hu) hrest

/-- What is found are the units before the first zero unit. -/
theorem Scans.units_eq {units : List UInt16} {i : Nat} {us : List UInt16} (h : Scans units i us) :
    0 ∉ us ∧ ∃ rest, units.drop i = us ++ 0 :: rest := by
  induction h with
  | stop hzero =>
    obtain ⟨hlt, hzero⟩ := List.getElem?_eq_some_iff.1 hzero
    exact ⟨List.not_mem_nil, _, by rw [List.drop_eq_getElem_cons hlt, hzero]; rfl⟩
  | next hunit hu _ ih =>
    obtain ⟨hlt, hunit⟩ := List.getElem?_eq_some_iff.1 hunit
    obtain ⟨hus, rest, hrest⟩ := ih
    refine ⟨?_, rest, ?_⟩
    · intro hmem
      exact (List.mem_cons.1 hmem).elim (Ne.symm hu) hus
    · rw [List.drop_eq_getElem_cons hlt, hunit, hrest, List.cons_append]

/-- A scan finds the units before a zero unit, whatever follows that. -/
theorem scans_iff {units us : List UInt16} :
    Scans units 0 us ↔ 0 ∉ us ∧ ∃ rest, units = us ++ 0 :: rest := by
  constructor
  · intro h
    exact h.units_eq
  · rintro ⟨hus, rest, rfl⟩
    exact scans_append [] us hus rest

theorem untilZero_append {us : List UInt16} (h : 0 ∉ us) (rest : List UInt16) :
    untilZero (us ++ 0 :: rest) = us := by
  have hall : ∀ u ∈ us, (u != 0) = true := by
    intro u hu
    exact bne_iff_ne.2 fun hzero => h (hzero ▸ hu)
  rw [untilZero, List.takeWhile_append_of_pos hall, List.takeWhile_cons_of_neg (by simp),
    List.append_nil]

/-! ## The characters of units -/

/-- A unit that is no half of a pair. -/
def isPlain (u : UInt16) : Bool := !isHigh u && !isLow u

/-- The characters that units spell. -/
inductive Spells : List UInt16 → List Char → Prop
  | nil : Spells [] []
  /-- A unit that is no surrogate spells the character of its number. -/
  | plain {u : UInt16} {c : Char} {us : List UInt16} {cs : List Char} :
      isPlain u = true → c.toNat = u.toNat → Spells us cs → Spells (u :: us) (c :: cs)
  /-- A pair spells a character beyond U+FFFF. -/
  | pair {high low : UInt16} {c : Char} {us : List UInt16} {cs : List Char} :
      isHigh high = true → isLow low = true →
      c.toNat = 0x10000 + (high.toNat - 0xD800) * 0x400 + (low.toNat - 0xDC00) →
      Spells us cs → Spells (high :: low :: us) (c :: cs)
  /-- The first half of a pair, without a second one behind it. -/
  | strayHigh {high : UInt16} {us : List UInt16} {cs : List Char} :
      isHigh high = true → (∀ u ∈ us.head?, isLow u = false) → Spells us cs →
      Spells (high :: us) ('\uFFFD' :: cs)
  /-- The second half of a pair, where no first one has come before it. -/
  | strayLow {low : UInt16} {us : List UInt16} {cs : List Char} :
      isLow low = true → Spells us cs → Spells (low :: us) ('\uFFFD' :: cs)

variable {u high low : UInt16} {us vs : List UInt16} {cs : List Char}

theorem isHigh_iff : isHigh u = true ↔ 0xD800 ≤ u.toNat ∧ u.toNat ≤ 0xDBFF := by
  simp [isHigh, UInt16.le_iff_toNat_le]

theorem isLow_iff : isLow u = true ↔ 0xDC00 ≤ u.toNat ∧ u.toNat ≤ 0xDFFF := by
  simp [isLow, UInt16.le_iff_toNat_le]

theorem isPlain_iff : isPlain u = true ↔ isHigh u = false ∧ isLow u = false := by
  simp [isPlain]

/-- No unit is both halves of a pair. -/
theorem isHigh_of_isLow (h : isLow u = true) : isHigh u = false := by
  rw [isLow_iff] at h
  rw [Bool.eq_false_iff, ne_eq, isHigh_iff]
  omega

theorem toNat_ofNat {n : Nat} (h : n.isValidChar) : (Char.ofNat n).toNat = n := by
  rw [Char.ofNat, dif_pos h]
  rfl

theorem toNat_plain (h : isPlain u = true) : (Char.ofNat u.toNat).toNat = u.toNat := by
  have hlt := u.toNat_lt
  simp only [isPlain_iff, Bool.eq_false_iff, ne_eq, isHigh_iff, isLow_iff] at h
  exact toNat_ofNat (by unfold Nat.isValidChar; omega)

theorem toNat_pair (hhigh : isHigh high = true) (hlow : isLow low = true) :
    (pair high low).toNat = 0x10000 + (high.toNat - 0xD800) * 0x400 + (low.toNat - 0xDC00) := by
  rw [isHigh_iff] at hhigh
  rw [isLow_iff] at hlow
  exact toNat_ofNat (by unfold Nat.isValidChar; omega)

/-! ## Decoding them -/

theorem decodeFrom_plain (h : isPlain u = true) (us : List UInt16) :
    decodeFrom none (u :: us) = Char.ofNat u.toNat :: decodeFrom none us := by
  obtain ⟨hhigh, hlow⟩ := isPlain_iff.1 h
  simp [decodeFrom, step, enter, hhigh, hlow]

theorem decodeFrom_strayLow (h : isLow low = true) (us : List UInt16) :
    decodeFrom none (low :: us) = '\uFFFD' :: decodeFrom none us := by
  simp [decodeFrom, step, enter, isHigh_of_isLow h, h, replacement]

/-- A high surrogate waits for what follows. -/
theorem decodeFrom_high (h : isHigh high = true) (us : List UInt16) :
    decodeFrom none (high :: us) = decodeFrom (some high) us := by
  simp [decodeFrom, step, enter, h]

theorem decodeFrom_pair (hhigh : isHigh high = true) (hlow : isLow low = true)
    (us : List UInt16) :
    decodeFrom none (high :: low :: us) = pair high low :: decodeFrom none us := by
  rw [decodeFrom_high hhigh]
  simp [decodeFrom, step, hlow]

/-- A high surrogate that waits in vain is replaced, and what follows is read anew. -/
theorem decodeFrom_waiting (h : ∀ u ∈ us.head?, isLow u = false) (high : UInt16) :
    decodeFrom (some high) us = '\uFFFD' :: decodeFrom none us := by
  cases us with
  | nil => rfl
  | cons u us => simp [decodeFrom, step, h u rfl, replacement]

theorem decodeFrom_strayHigh (h : isHigh high = true) (hnext : ∀ u ∈ us.head?, isLow u = false) :
    decodeFrom none (high :: us) = '\uFFFD' :: decodeFrom none us := by
  rw [decodeFrom_high h, decodeFrom_waiting hnext]

/-- The decoder answers characters that the units spell. -/
theorem spells_decodeFrom (us : List UInt16) : Spells us (decodeFrom none us) := by
  -- the units behind the first character are fewer, by one or, after a pair, by two
  induction hn : us.length using Nat.strongRecOn generalizing us with
  | ind n ih =>
    cases us with
    | nil => exact .nil
    | cons u us =>
      have hrest : Spells us (decodeFrom none us) :=
        ih us.length (by rw [← hn]; exact Nat.lt_succ_self _) us rfl
      cases hhigh : isHigh u with
      | true =>
        by_cases hnext : ∀ v ∈ us.head?, isLow v = false
        · rw [decodeFrom_strayHigh hhigh hnext]
          exact .strayHigh hhigh hnext hrest
        · cases us with
          | nil => exact absurd (fun v hv => by cases hv) hnext
          | cons low us =>
            have hlow : isLow low = true := by simpa using hnext
            rw [decodeFrom_pair hhigh hlow]
            exact .pair hhigh hlow (toNat_pair hhigh hlow)
              (ih us.length (by rw [← hn, List.length_cons, List.length_cons]; omega) us rfl)
      | false =>
        cases hlow : isLow u with
        | true =>
          rw [decodeFrom_strayLow hlow]
          exact .strayLow hlow hrest
        | false =>
          have hplain := isPlain_iff.2 ⟨hhigh, hlow⟩
          rw [decodeFrom_plain hplain]
          exact .plain hplain (toNat_plain hplain) hrest

theorem Spells.decodeFrom_eq (h : Spells us cs) : decodeFrom none us = cs := by
  induction h with
  | nil => rfl
  | plain hplain hc _ ih =>
    rw [decodeFrom_plain hplain, ih, ← hc, Char.ofNat_toNat]
  | pair hhigh hlow hc _ ih =>
    rw [decodeFrom_pair hhigh hlow, ih, Char.toNat_inj.1 ((toNat_pair hhigh hlow).trans hc.symm)]
  | strayHigh hhigh hnext _ ih => rw [decodeFrom_strayHigh hhigh hnext, ih]
  | strayLow hlow _ ih => rw [decodeFrom_strayLow hlow, ih]

/-- Units spell the text that the decoder answers, and no other. -/
theorem spells_iff {text : String} : Spells us text.toList ↔ decode us = text := by
  rw [decode, ← String.toList_inj, String.toList_ofList]
  constructor
  · exact Spells.decodeFrom_eq
  · intro h
    rw [← h]
    exact spells_decodeFrom us

/-! ## The units of a text -/

/-- The units of a character spell it, in front of whatever else is spelled. -/
theorem spells_encodeChar (c : Char) (h : Spells us cs) :
    Spells (encodeChar c ++ us) (c :: cs) := by
  have hvalid : c.toNat < 0xD800 ∨ 0xDFFF < c.toNat ∧ c.toNat < 0x110000 := c.valid
  simp only [encodeChar]
  split
  · -- a character is no surrogate, so one unit spells it alone
    have hunit : (UInt16.ofNat c.toNat).toNat = c.toNat := by
      rw [UInt16.toNat_ofNat']
      omega
    refine .plain ?_ hunit.symm h
    simp only [isPlain_iff, Bool.eq_false_iff, ne_eq, isHigh_iff, isLow_iff, hunit]
    omega
  · have hhigh : (UInt16.ofNat (0xD800 + (c.toNat - 0x10000) / 1024)).toNat =
        0xD800 + (c.toNat - 0x10000) / 1024 := by
      rw [UInt16.toNat_ofNat']
      omega
    have hlow : (UInt16.ofNat (0xDC00 + (c.toNat - 0x10000) % 1024)).toNat =
        0xDC00 + (c.toNat - 0x10000) % 1024 := by
      rw [UInt16.toNat_ofNat']
      omega
    refine .pair (isHigh_iff.2 ?_) (isLow_iff.2 ?_) ?_ h
    · omega
    · omega
    · omega

theorem spells_encode (text : String) : Spells (encode text) text.toList := by
  unfold encode
  generalize text.toList = cs
  induction cs with
  | nil => exact .nil
  | cons c cs ih => exact spells_encodeChar c ih

/-- A text comes back from its own units. -/
theorem decode_encode (text : String) : decode (encode text) = text :=
  spells_iff.1 (spells_encode text)

/-- A zero unit spells NUL, wherever it stands. -/
theorem Spells.nul_mem (h : Spells us cs) (hzero : 0 ∈ us) : Char.ofNat 0 ∈ cs := by
  have hhigh : ∀ u, isHigh u = true → 0 ≠ u := by
    rintro u hu rfl
    exact absurd hu (by decide)
  have hlow : ∀ u, isLow u = true → 0 ≠ u := by
    rintro u hu rfl
    exact absurd hu (by decide)
  -- on the spelling: a surrogate is no zero, so the zero is further on
  induction h with
  | nil => cases hzero
  | @plain u c us cs _ hc _ ih =>
    rcases List.mem_cons.1 hzero with rfl | hrest
    · rw [← Char.ofNat_toNat c, hc]
      exact List.mem_cons_self
    · exact List.mem_cons_of_mem _ (ih hrest)
  | pair hfirst hsecond _ _ ih =>
    have hrest := (List.mem_cons.1 hzero).resolve_left (hhigh _ hfirst)
    exact List.mem_cons_of_mem _ (ih ((List.mem_cons.1 hrest).resolve_left (hlow _ hsecond)))
  | strayHigh hfirst _ _ ih =>
    exact List.mem_cons_of_mem _ (ih ((List.mem_cons.1 hzero).resolve_left (hhigh _ hfirst)))
  | strayLow hsecond _ ih =>
    exact List.mem_cons_of_mem _ (ih ((List.mem_cons.1 hzero).resolve_left (hlow _ hsecond)))

/-- A text without NUL has no zero unit. -/
theorem zero_not_mem_encode {text : String} (h : Char.ofNat 0 ∉ text.toList) :
    0 ∉ encode text :=
  mt (spells_encode text).nul_mem h

/-! ## Units on either side -/

/-- Units spell apart where the second part does not begin with the second half of a pair. -/
theorem decodeFrom_append (h : ∀ u ∈ vs.head?, isLow u = false) (state : Option UInt16)
    (us : List UInt16) :
    decodeFrom state (us ++ vs) = decodeFrom state us ++ decodeFrom none vs := by
  induction us generalizing state with
  | nil =>
    cases state with
    | none => rfl
    | some high => exact decodeFrom_waiting h high
  | cons u us ih =>
    rw [List.cons_append, decodeFrom, decodeFrom, ih, List.append_assoc]

/-- On either side of a unit that is no surrogate, units spell apart. -/
theorem decode_append_plain (hu : isPlain u = true) (us vs : List UInt16) :
    decode (us ++ u :: vs) = decode us ++ decode (u :: vs) ∧
      decode (us ++ u :: vs) = decode (us ++ [u]) ++ decode vs := by
  have hhead : ∀ rest, ∀ v ∈ (u :: rest).head?, isLow v = false := by
    rintro rest v hv
    cases hv
    exact (isPlain_iff.1 hu).2
  have hleft : ∀ rest, decodeFrom none (us ++ u :: rest) =
      decodeFrom none us ++ Char.ofNat u.toNat :: decodeFrom none rest := by
    intro rest
    rw [decodeFrom_append (hhead rest), decodeFrom_plain hu]
  simp only [← String.toList_inj, decode, String.toList_append, String.toList_ofList]
  refine ⟨decodeFrom_append (hhead vs) none us, ?_⟩
  rw [hleft, hleft, decodeFrom, List.append_assoc, List.singleton_append]

end Launcher.Text.Utf16
