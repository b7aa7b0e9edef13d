/-!
# The lines of a text

A line goes up to a line break, which ends it and does not belong to it. What comes after the last
line break is a line as well, unless it is empty. So a text that ends with a line break has as many
lines as line breaks, and texts without any, each followed by one, come back as the lines.

- `lines`: the lines of a text.
- `length_lines`: how many there are.
- `lines_flatMap`: texts that were put on lines come back.
-/

namespace Launcher.Text

/-- The lines of a text, without the line breaks that end them. -/
def lines : List Char → List (List Char)
  | [] => []
  | c :: cs =>
    if c = '\n' then [] :: lines cs
    else match lines cs with
      | [] => [[c]]
      | line :: rest => (c :: line) :: rest

/-- A text without line breaks before a line break is a line. -/
theorem lines_append {line : List Char} (h : '\n' ∉ line) (cs : List Char) :
    lines (line ++ '\n' :: cs) = line :: lines cs := by
  induction line with
  | nil => simp [lines]
  | cons c line ih =>
    obtain ⟨hc, hline⟩ := not_or.1 (mt List.mem_cons.2 h)
    rw [List.cons_append, lines, if_neg (Ne.symm hc), ih hline]

/-- Texts without line breaks, each followed by one, are the lines of what they make up. -/
theorem lines_flatMap {ls : List (List Char)} (h : ∀ line ∈ ls, '\n' ∉ line) :
    lines (ls.flatMap (· ++ ['\n'])) = ls := by
  induction ls with
  | nil => rfl
  | cons line ls ih =>
    obtain ⟨hline, hrest⟩ := List.forall_mem_cons.1 h
    rw [List.flatMap_cons, List.append_assoc, List.singleton_append, lines_append hline, ih hrest]

/-- A text that ends with a line break has as many lines as line breaks. -/
theorem length_lines (cs : List Char) :
    (lines (cs ++ ['\n'])).length = (cs ++ ['\n']).count '\n' := by
  induction cs with
  | nil => rfl
  | cons c cs ih =>
    rw [List.cons_append, lines, List.count_cons]
    by_cases hc : c = '\n'
    · simp [hc, ih]
    · rw [if_neg hc]
      -- the character belongs to the first line of the rest, and there is one
      have hpos : 0 < (lines (cs ++ ['\n'])).length := by
        rw [ih]
        exact List.count_pos_iff.2 (by simp)
      obtain ⟨line, rest, hlines⟩ := List.exists_cons_of_length_pos hpos
      simp only [hlines, List.length_cons] at ih ⊢
      simp [ih, hc]

/-- Texts that are each followed by a line break end with one. -/
theorem exists_flatMap_eq {ls : List (List Char)} (h : ls ≠ []) :
    ∃ cs, ls.flatMap (· ++ ['\n']) = cs ++ ['\n'] := by
  have hsplit : ls.dropLast ++ [ls.getLast h] = ls := List.dropLast_concat_getLast h
  refine ⟨ls.dropLast.flatMap (· ++ ['\n']) ++ ls.getLast h, ?_⟩
  calc ls.flatMap (· ++ ['\n'])
      = (ls.dropLast ++ [ls.getLast h]).flatMap (· ++ ['\n']) := by rw [hsplit]
    _ = ls.dropLast.flatMap (· ++ ['\n']) ++ ls.getLast h ++ ['\n'] := by simp

end Launcher.Text
