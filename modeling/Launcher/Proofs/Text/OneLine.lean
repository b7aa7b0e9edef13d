import Launcher.Text.OneLine

/-!
# A text on one line stays as it is

A text that is put on one line keeps its first characters, each line break as one space. An ellipsis
says that some were cut, and may itself reach beyond the limit. Putting the result on one line again
changes nothing: it has no line breaks left, and what is cut from it is the ellipsis, which comes
back.

- `toList_oneLine`: the characters of the result.
- `oneLine_oneLine`: a second time changes nothing.
- `oneLine_bounded`: what the result consists of, and how long it is.
-/

namespace Launcher.Text

/-- What follows a text that was cut. -/
def ellipsis : List Char := ['.', '.', '.']

/-- What follows the first `limit` characters of a text of `n`. -/
def cutMark (n limit : Nat) : List Char := if limit < n then ellipsis else []

theorem length_cutMark_le (n limit : Nat) : (cutMark n limit).length ≤ 3 := by
  unfold cutMark
  split <;> decide

/-! ## Line breaks -/

/-- No line break is left. -/
theorem flattenBreak_ne (c : Char) : flattenBreak c ≠ '\n' ∧ flattenBreak c ≠ '\r' := by
  unfold flattenBreak
  split
  · decide
  · rename_i h
    exact not_or.1 h

theorem flattenBreak_eq_self {c : Char} (h : c ≠ '\n' ∧ c ≠ '\r') : flattenBreak c = c :=
  if_neg (not_or.2 h)

/-! ## The result -/

/-- The first characters on one line, and the mark of a cut. -/
theorem toList_oneLine (s : String) (limit : Nat) :
    (oneLine s limit).toList =
      (s.toList.take limit).map flattenBreak ++ cutMark s.length limit := by
  rw [oneLine, String.toList_ofList, List.length_map, String.length_toList, List.map_take]
  rfl

theorem ne_of_mem_oneLine {s : String} {limit : Nat} {c : Char}
    (h : c ∈ (oneLine s limit).toList) : c ≠ '\n' ∧ c ≠ '\r' := by
  rw [toList_oneLine] at h
  rcases List.mem_append.1 h with h | h
  · obtain ⟨d, -, rfl⟩ := List.mem_map.1 h
    exact flattenBreak_ne d
  · have hdot : ∀ d ∈ ellipsis, d ≠ '\n' ∧ d ≠ '\r' := by simp [ellipsis]
    unfold cutMark at h
    split at h
    · exact hdot c h
    · cases h

theorem length_oneLine (s : String) (limit : Nat) :
    (oneLine s limit).length = min limit s.length + (cutMark s.length limit).length := by
  rw [← String.length_toList, toList_oneLine, List.length_append, List.length_map,
    List.length_take, String.length_toList]

/-- The characters before the mark of a cut. -/
theorem take_oneLine (s : String) (limit : Nat) :
    (oneLine s limit).toList.take limit = (s.toList.take limit).map flattenBreak := by
  rw [toList_oneLine]
  by_cases hcut : limit < s.length
  · refine List.take_left' ?_
    rw [List.length_map, List.length_take, String.length_toList]
    omega
  · have hnone : cutMark s.length limit = [] := if_neg hcut
    rw [hnone, List.append_nil, ← List.map_take, List.take_take, Nat.min_self]

/-- The result is cut where the text was: the ellipsis reaches beyond the limit, and nothing else
does. -/
theorem cutMark_oneLine (s : String) (limit : Nat) :
    cutMark (oneLine s limit).length limit = cutMark s.length limit := by
  by_cases hcut : limit < s.length
  · have hmark : cutMark s.length limit = ellipsis := if_pos hcut
    have hlong : limit < (oneLine s limit).length := by
      rw [length_oneLine, hmark, Nat.min_eq_left (Nat.le_of_lt hcut)]
      exact Nat.lt_add_of_pos_right (by decide)
    rw [hmark]
    exact if_pos hlong
  · have hmark : cutMark s.length limit = [] := if_neg hcut
    have hshort : ¬ limit < (oneLine s limit).length := by
      rw [length_oneLine, hmark, List.length_nil]
      omega
    rw [hmark]
    exact if_neg hshort

/-- A text that is on one line is left as it is, with its ellipsis. -/
theorem oneLine_oneLine (s : String) (limit : Nat) :
    oneLine (oneLine s limit) limit = oneLine s limit := by
  have hflat : ((oneLine s limit).toList.take limit).map flattenBreak =
      (oneLine s limit).toList.take limit := by
    rw [List.map_congr_left fun c hc =>
      flattenBreak_eq_self (ne_of_mem_oneLine (List.mem_of_mem_take hc))]
    exact List.map_id' _
  rw [← String.toList_inj, toList_oneLine (oneLine s limit), cutMark_oneLine, hflat, take_oneLine,
    ← toList_oneLine]

/-- A text on one line has its first characters, each line break as one space, and nothing further
unless some were cut; then an ellipsis follows. So it is at most three characters longer than the
limit, and no different when it is put on one line again. -/
theorem oneLine_bounded (s : String) (limit : Nat) :
    ('\n' ∉ (oneLine s limit).toList ∧ '\r' ∉ (oneLine s limit).toList) ∧
    (oneLine s limit).toList.take (min s.length limit) =
      (s.toList.take (min s.length limit)).map
        (fun c => if c = '\n' ∨ c = '\r' then ' ' else c) ∧
    (oneLine s limit).toList.drop (min s.length limit) =
      (if limit < s.length then "...".toList else []) ∧
    (oneLine s limit).length ≤ limit + 3 ∧
    oneLine (oneLine s limit) limit = oneLine s limit := by
  have hkept : s.toList.take limit = s.toList.take (min s.length limit) := by
    rw [← String.length_toList, Nat.min_comm, ← List.take_take, List.take_length]
  have hlength : ((s.toList.take (min s.length limit)).map flattenBreak).length =
      min s.length limit := by
    rw [List.length_map, List.length_take, String.length_toList]
    omega
  refine ⟨⟨?lineFeed, ?carriageReturn⟩, ?first, ?further, ?bound, oneLine_oneLine s limit⟩
  case lineFeed =>
    intro h
    exact (ne_of_mem_oneLine h).1 rfl
  case carriageReturn =>
    intro h
    exact (ne_of_mem_oneLine h).2 rfl
  case first =>
    rw [toList_oneLine, hkept]
    exact List.take_left' hlength
  case further =>
    rw [toList_oneLine, hkept]
    exact List.drop_left' hlength
  case bound =>
    have hmark := length_cutMark_le s.length limit
    rw [length_oneLine]
    omega

example : oneLine "é\r\nüber" 4 = "é  ü..." := by decide

end Launcher.Text
