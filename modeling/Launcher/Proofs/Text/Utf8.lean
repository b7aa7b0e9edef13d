import Launcher.Text.Utf8

/-!
# What is written is read back

The octets of a text spell that text and no other. So texts may be compared by their octets, and a
reader that wants well-formed octets gets the text that was written.

- `Utf8.zero_mem_encode`, `Utf8.exists_push_zero`: where a text has octets that are zero.
- `Utf8.decodeFrom_encodeChar`: one character, whatever follows it.
- `Utf8.decode_encode`, `Utf8.decode?_encode`: whole texts.
-/

namespace Launcher.Text.Utf8

theorem toNat_tailOctet (n : Nat) : (tailOctet n).toNat = 0x80 + n % 64 := by
  simp only [tailOctet, UInt8.toNat_ofNat']
  omega

/-! ## The octets of a character -/

/-- An ASCII character is one octet. -/
theorem encodeChar_ascii {c : Char} (h : c.toNat < 0x80) :
    encodeChar c = [UInt8.ofNat c.toNat] := by
  simp [encodeChar, h]

/-- No octet of a longer character is an ASCII character. -/
theorem encodeChar_high {c : Char} (h : 0x80 ≤ c.toNat) : ∀ b ∈ encodeChar c, 0x80 ≤ b.toNat := by
  have hvalid : c.toNat < 0xD800 ∨ 0xDFFF < c.toNat ∧ c.toNat < 0x110000 := c.valid
  simp only [encodeChar]
  generalize c.toNat = n at h hvalid
  have htail : ∀ m, 0x80 ≤ (tailOctet m).toNat := fun m => by
    rw [toNat_tailOctet]
    omega
  have hfirst : ∀ m, 0x80 ≤ m → m < 256 → 0x80 ≤ (UInt8.ofNat m).toNat := fun m hlow hhigh => by
    rw [UInt8.toNat_ofNat']
    omega
  rw [if_neg (by omega)]
  split
  · exact List.forall_mem_cons.2 ⟨hfirst _ (by omega) (by omega), by simp [htail]⟩
  split
  · exact List.forall_mem_cons.2 ⟨hfirst _ (by omega) (by omega), by simp [htail]⟩
  · exact List.forall_mem_cons.2 ⟨hfirst _ (by omega) (by omega), by simp [htail]⟩

theorem encodeChar_ne_nil (c : Char) : encodeChar c ≠ [] := by
  simp only [encodeChar]
  split
  · exact List.cons_ne_nil _ _
  split
  · exact List.cons_ne_nil _ _
  split <;> exact List.cons_ne_nil _ _

/-! ## NUL -/

/-- Only NUL has an octet that is zero. -/
theorem zero_mem_encodeChar {c : Char} : (0 : UInt8) ∈ encodeChar c ↔ c = Char.ofNat 0 := by
  constructor
  · intro h
    by_cases hascii : c.toNat < 0x80
    · rw [encodeChar_ascii hascii, List.mem_singleton] at h
      have hzero := congrArg UInt8.toNat h
      rw [UInt8.toNat_ofNat', Nat.mod_eq_of_lt (by omega)] at hzero
      rw [← Char.ofNat_toNat c, ← hzero]
      rfl
    · exact absurd (encodeChar_high (Nat.le_of_not_lt hascii) 0 h) (by decide)
  · rintro rfl
    decide

theorem zero_mem_encode {s : String} : (0 : UInt8) ∈ encode s ↔ Char.ofNat 0 ∈ s.toList := by
  simp [encode, List.mem_flatMap, zero_mem_encodeChar]

theorem encode_push_zero (s : String) : encode (s.push (Char.ofNat 0)) = encode s ++ [0] := by
  rw [encode, String.toList_push, List.flatMap_append]
  rfl

/-- A zero octet at the end is a NUL at the end. -/
theorem exists_push_zero {s : String} {bs : List UInt8} (h : encode s = bs ++ [0]) :
    ∃ t : String, s = t.push (Char.ofNat 0) ∧ bs = encode t := by
  rcases List.eq_nil_or_concat s.toList with hnil | ⟨cs, c, hcs⟩
  · simp [encode, hnil] at h
  · rw [List.concat_eq_append] at hcs
    have hparts : cs.flatMap encodeChar ++ encodeChar c = bs ++ [0] := by
      rw [← h, encode, hcs, List.flatMap_append, List.flatMap_singleton]
    -- the last character has an octet, and its last octet is the last of all
    obtain ⟨b, hb⟩ := List.getLast?_isSome.2 (encodeChar_ne_nil c) |> Option.isSome_iff_exists.1
    have hlast := congrArg List.getLast? hparts
    rw [List.getLast?_append, hb, List.getLast?_concat] at hlast
    obtain rfl : b = 0 := Option.some.inj hlast
    obtain rfl := zero_mem_encodeChar.1 (List.mem_of_getLast? hb)
    refine ⟨String.ofList cs, ?_, ?_⟩
    · rw [← String.toList_inj, String.toList_push, String.toList_ofList, hcs]
    · rw [encode, String.toList_ofList]
      exact (List.append_cancel_right hparts).symm

/-! ## Reading them -/

/-- The last octet of a character completes it. -/
theorem decodeFrom_last {low high bits n : Nat} (hlow : low ≤ 0x80 + n % 64)
    (hhigh : 0x80 + n % 64 ≤ high) (bs : List UInt8) :
    decodeFrom (some ⟨1, low, high, bits⟩) (tailOctet n :: bs) =
      Char.ofNat (bits * 64 + n % 64) :: decodeFrom none bs := by
  simp [decodeFrom, step, toNat_tailOctet, hlow, hhigh]

/-- An octet in the middle of a character adds its bits. -/
theorem decodeFrom_middle {owed low high bits n : Nat} (hlow : low ≤ 0x80 + n % 64)
    (hhigh : 0x80 + n % 64 ≤ high) (bs : List UInt8) :
    decodeFrom (some ⟨owed + 2, low, high, bits⟩) (tailOctet n :: bs) =
      decodeFrom (some ⟨owed + 1, 0x80, 0xBF, bits * 64 + n % 64⟩) bs := by
  simp [decodeFrom, step, toNat_tailOctet, hlow, hhigh]

/-- The first octet of a longer character begins it. -/
theorem decodeFrom_first {b : Nat} (hb : b < 256) {p : Pending} (h : enter b = ([], some p))
    (bs : List UInt8) : decodeFrom none (UInt8.ofNat b :: bs) = decodeFrom (some p) bs := by
  have hbyte : (UInt8.ofNat b).toNat = b := by
    rw [UInt8.toNat_ofNat']
    omega
  simp [decodeFrom, step, hbyte, h]

/-- The octets of a character are read as that character, and what follows them is read anew. -/
theorem decodeFrom_encodeChar (c : Char) (bs : List UInt8) :
    decodeFrom none (encodeChar c ++ bs) = c :: decodeFrom none bs := by
  have hvalid : c.toNat < 0xD800 ∨ 0xDFFF < c.toNat ∧ c.toNat < 0x110000 := c.valid
  have hback : ∀ n, n = c.toNat → Char.ofNat n = c := fun n hn => hn ▸ Char.ofNat_toNat c
  simp only [encodeChar]
  generalize c.toNat = n at hvalid hback
  -- one case for each number of octets
  split
  · rename_i hascii
    have hbyte : (UInt8.ofNat n).toNat = n := by
      rw [UInt8.toNat_ofNat']
      omega
    simp [decodeFrom, step, hbyte, enter, hascii, hback]
  split
  · have hfirst : enter (0xC0 + n / 64) = ([], some ⟨1, 0x80, 0xBF, n / 64⟩) := by
      unfold enter
      rw [if_neg (by omega), if_neg (by omega), if_pos (by omega)]
      simp
    rw [List.cons_append, decodeFrom_first (by omega) hfirst, List.cons_append,
      decodeFrom_last (by omega) (by omega), hback _ (by omega), List.nil_append]
  split
  · have hfirst : enter (0xE0 + n / 4096) = ([], some ⟨2, if 0xE0 + n / 4096 = 0xE0 then 0xA0 else
        0x80, if 0xE0 + n / 4096 = 0xED then 0x9F else 0xBF, n / 4096⟩) := by
      unfold enter
      rw [if_neg (by omega), if_neg (by omega), if_neg (by omega), if_pos (by omega)]
      simp
    rw [List.cons_append, decodeFrom_first (by omega) hfirst, List.cons_append,
      decodeFrom_middle (by split <;> omega) (by split <;> omega), List.cons_append,
      decodeFrom_last (by omega) (by omega), hback _ (by omega), List.nil_append]
  · have hfirst : enter (0xF0 + n / 262144) = ([], some ⟨3, if 0xF0 + n / 262144 = 0xF0 then 0x90
        else 0x80, if 0xF0 + n / 262144 = 0xF4 then 0x8F else 0xBF, n / 262144⟩) := by
      unfold enter
      rw [if_neg (by omega), if_neg (by omega), if_neg (by omega), if_neg (by omega),
        if_pos (by omega)]
      simp
    rw [List.cons_append, decodeFrom_first (by omega) hfirst, List.cons_append,
      decodeFrom_middle (by split <;> omega) (by split <;> omega), List.cons_append,
      decodeFrom_middle (by omega) (by omega), List.cons_append,
      decodeFrom_last (by omega) (by omega), hback _ (by omega), List.nil_append]

/-- What is written is read back. -/
@[simp] theorem decode_encode (s : String) : decode (encode s) = s := by
  have hchars : ∀ cs : List Char, decodeFrom none (cs.flatMap encodeChar) = cs := by
    intro cs
    induction cs with
    | nil => rfl
    | cons c cs ih => rw [List.flatMap_cons, decodeFrom_encodeChar, ih]
  rw [decode, encode, hchars, String.ofList_toList]

@[simp] theorem decode?_encode (s : String) : decode? (encode s) = some s := by
  simp [decode?]

/-- No two texts have the same octets. -/
theorem encode_injective {s t : String} (h : encode s = encode t) : s = t := by
  rw [← decode_encode s, h, decode_encode]

end Launcher.Text.Utf8
