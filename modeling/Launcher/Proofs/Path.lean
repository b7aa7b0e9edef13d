import Launcher.Path
import Launcher.Proofs.Text.Utf8

/-!
# What equal paths have in common

Paths are equal when their components agree, and then they differ in slashes and idle dots only.
So they agree on whether they start at the root, and on every octet that is neither a slash nor a
dot; if they spell texts, these agree on every other character.

- `Path.same_iff`: equality of paths is equality of what they are compared by.
- `Path.isAbsolute_of_same`: equal paths are both absolute or both relative.
- `Path.letters_of_same`: equal paths have the same letters.
- `Path.filter_toList_of_same`: so do the texts that they spell.
-/

namespace Launcher.Path

theorem same_iff {p q : Path} : p.same q = true ↔ p.components = q.components := by
  simp [same]

@[simp] theorem same_refl (p : Path) : p.same p = true := same_iff.2 rfl

/-- Equal paths are equal to the same paths. -/
theorem same_congr {p q : Path} (h : p.same q = true) (r : Path) : r.same p = r.same q := by
  rw [Bool.eq_iff_iff, same_iff, same_iff, same_iff.1 h]

/-! ## Where a path starts -/

/-- A step never leads to the root. -/
theorem ofSegment_ne_root (s : List UInt8) : Component.ofSegment s ≠ .root := by
  unfold Component.ofSegment
  split <;> exact nofun

theorem root_mem_components (p : Path) : .root ∈ p.components ↔ p.isAbsolute = true := by
  unfold components leadComponents
  have hsteps : ∀ ss : List (List UInt8), Component.root ∉ ss.map Component.ofSegment := by
    intro ss hmem
    obtain ⟨s, -, hs⟩ := List.mem_map.1 hmem
    exact ofSegment_ne_root s hs
  by_cases h : p.isAbsolute = true
  · simp [h]
  · rw [if_neg h]
    simp only [h, List.mem_append, hsteps, or_false]
    split <;> simp

theorem isAbsolute_of_same {p q : Path} (h : p.same q = true) : p.isAbsolute = q.isAbsolute := by
  rw [Bool.eq_iff_iff, ← root_mem_components, ← root_mem_components, same_iff.1 h]

/-! ## The letters of a path -/

/-- Whether an octet is neither a slash nor a dot. -/
def isLetter (b : UInt8) : Bool := b != slash && b != 0x2E

/-- The octets of a path that are neither slashes nor dots. -/
def letters (p : Path) : List UInt8 := p.bytes.filter isLetter

/-- The letters of a component. -/
def Component.letters : Component → List UInt8
  | .name octets => octets.filter isLetter
  | _ => []

theorem Component.letters_ofSegment (s : List UInt8) :
    (Component.ofSegment s).letters = s.filter isLetter := by
  unfold ofSegment
  by_cases h : s = dotDot
  · simp [h, letters, dotDot, isLetter]
  · simp [h, letters]

/-- An idle segment has no letters. -/
theorem letters_of_isIdle {s : List UInt8} (h : isIdle s = true) : s.filter isLetter = [] := by
  simp only [isIdle, Bool.or_eq_true, List.isEmpty_iff, beq_iff_eq] at h
  rcases h with rfl | rfl <;> rfl

theorem segments_ne_nil (bs : List UInt8) : segments bs ≠ [] := by
  cases bs with
  | nil => simp [segments]
  | cons b bs =>
    unfold segments
    split
    · simp
    · split <;> simp

/-- Nothing but slashes is lost between segments. -/
theorem flatten_segments (bs : List UInt8) : (segments bs).flatten = bs.filter (· != slash) := by
  induction bs with
  | nil => rfl
  | cons b bs ih =>
    unfold segments
    by_cases h : b = slash
    · simp [h, ih]
    · obtain ⟨s, ss, hs⟩ := List.exists_cons_of_ne_nil (segments_ne_nil bs)
      rw [hs, List.flatten_cons] at ih
      simp [h, hs, ih]

/-- The lead of a path is its beginning. -/
theorem lead_append_drop (p : Path) : p.lead ++ p.bytes.drop p.lead.length = p.bytes := by
  obtain ⟨bytes⟩ := p
  unfold lead isAbsolute
  cases bytes with
  | nil => simp [dot]
  | cons b bs =>
    by_cases hroot : b = slash
    · simp [hroot]
    · simp only [List.head?_cons, beq_iff_eq, Option.some.injEq, hroot, if_false]
      split
      · rename_i h
        rcases h with h | h
        · obtain ⟨rfl, -⟩ := List.cons.inj h
          rfl
        · obtain ⟨rfl, -⟩ := List.cons.inj h
          rfl
      · rfl

theorem letters_lead (p : Path) : p.lead.filter isLetter = [] := by
  unfold lead
  split
  · rfl
  · split <;> rfl

/-- The letters of a path are those of its components. -/
theorem letters_components (p : Path) : p.components.flatMap Component.letters = p.letters := by
  have hlead : p.leadComponents.flatMap Component.letters = [] := by
    unfold leadComponents
    split
    · rfl
    · split <;> rfl
  -- idle steps are left out of the components, and have no letters
  have hsteps : ∀ ss : List (List UInt8),
      ((ss.filter fun s => !isIdle s).map Component.ofSegment).flatMap Component.letters =
        ss.flatten.filter isLetter := by
    intro ss
    induction ss with
    | nil => rfl
    | cons s ss ih =>
      rw [List.flatten_cons, List.filter_append, ← ih]
      by_cases h : isIdle s = true
      · simp [h, letters_of_isIdle h]
      · simp [h, Component.letters_ofSegment]
  have hbody : p.body.flatten.filter isLetter = (p.bytes.drop p.lead.length).filter isLetter := by
    rw [body, flatten_segments, List.filter_filter]
    exact List.filter_congr fun b _ => by by_cases h : b = slash <;> simp [isLetter, h]
  have hwhole := congrArg (List.filter isLetter) (lead_append_drop p)
  rw [List.filter_append, letters_lead, List.nil_append] at hwhole
  rw [components, List.flatMap_append, hlead, hsteps, hbody, hwhole, letters]
  rfl

/-- Equal paths have the same letters. -/
theorem letters_of_same {p q : Path} (h : p.same q = true) : p.letters = q.letters := by
  rw [← letters_components, ← letters_components, same_iff.1 h]

/-! ## The letters of a text -/

/-- Whether a character is neither a slash nor a dot. -/
def isLetterChar (c : Char) : Bool := c != '/' && c != '.'

/-- The octets of a character are letters together. -/
theorem filter_encodeChar (c : Char) : (Text.Utf8.encodeChar c).filter isLetter =
    if isLetterChar c then Text.Utf8.encodeChar c else [] := by
  by_cases hascii : c.toNat < 0x80
  · have heq : ∀ d : Char, d.toNat < 0x80 →
        (UInt8.ofNat c.toNat = UInt8.ofNat d.toNat ↔ c = d) := by
      intro d hd
      refine ⟨fun h => ?_, fun h => h ▸ rfl⟩
      have hnat := congrArg UInt8.toNat h
      rw [UInt8.toNat_ofNat', UInt8.toNat_ofNat', Nat.mod_eq_of_lt (by omega),
        Nat.mod_eq_of_lt (by omega)] at hnat
      rw [← Char.ofNat_toNat c, hnat, Char.ofNat_toNat]
    have hletter : isLetter (UInt8.ofNat c.toNat) = isLetterChar c := by
      rw [Bool.eq_iff_iff]
      simp only [isLetter, isLetterChar, Bool.and_eq_true, bne_iff_ne]
      exact and_congr (not_congr (heq '/' (by decide))) (not_congr (heq '.' (by decide)))
    rw [Text.Utf8.encodeChar_ascii hascii, ← hletter]
    simp [List.filter_cons]
  · -- the octets of any other character are high, so none is a slash or a dot
    have hne : ∀ d : Char, d.toNat < 0x80 → c ≠ d := by
      rintro d hd rfl
      exact hascii hd
    have hchar : isLetterChar c = true := by
      simp [isLetterChar, hne '/' (by decide), hne '.' (by decide)]
    rw [hchar, if_pos rfl, List.filter_eq_self]
    intro b hb
    have hhigh := Text.Utf8.encodeChar_high (Nat.le_of_not_lt hascii) b hb
    have hother : ∀ d : UInt8, d.toNat < 0x80 → b ≠ d := by
      rintro d hd rfl
      omega
    simp [isLetter, hother slash (by decide), hother 0x2E (by decide)]

theorem letters_ofString (s : String) : (ofString s).letters =
    (s.toList.filter isLetterChar).flatMap Text.Utf8.encodeChar := by
  have hchars : ∀ cs : List Char, (cs.flatMap Text.Utf8.encodeChar).filter isLetter =
      (cs.filter isLetterChar).flatMap Text.Utf8.encodeChar := by
    intro cs
    induction cs with
    | nil => rfl
    | cons c cs ih =>
      rw [List.flatMap_cons, List.filter_append, ih, filter_encodeChar]
      by_cases h : isLetterChar c = true <;> simp [h]
  exact hchars s.toList

/-- Texts that spell equal paths agree on every character that is neither a slash nor a dot. -/
theorem filter_toList_of_same {s t : String} (h : (ofString s).same (ofString t) = true) :
    s.toList.filter isLetterChar = t.toList.filter isLetterChar := by
  have hoctets : Text.Utf8.encode (String.ofList (s.toList.filter isLetterChar)) =
      Text.Utf8.encode (String.ofList (t.toList.filter isLetterChar)) := by
    simpa [Text.Utf8.encode, letters_ofString] using letters_of_same h
  exact String.ofList_injective (Text.Utf8.encode_injective hoctets)

end Launcher.Path
