import Launcher.Text.Blank

/-!
# What trimming leaves out

A text is its trimmed form between two blank texts, so a text that trimming changes has a blank
character that its trimmed form lacks. A text is blank, or blank texts surround one that trimming
leaves alone, and then that one is its trimmed form.

- `isBlank_iff`: the blank characters, one by one.
- `trimList_between`: what trimming leaves out.
- `Blank`, `Trimmed`: texts of which nothing is left, and texts of which everything is.
- `trim_between`, `blank_or_between`: the trimmed form of every text.
-/

namespace Launcher.Text

/-- The code points that have the Unicode property White_Space. -/
def whiteSpace : List Nat :=
  [0x9, 0xA, 0xB, 0xC, 0xD, 0x20, 0x85, 0xA0, 0x1680, 0x2000, 0x2001, 0x2002, 0x2003, 0x2004,
    0x2005, 0x2006, 0x2007, 0x2008, 0x2009, 0x200A, 0x2028, 0x2029, 0x202F, 0x205F, 0x3000]

theorem isBlank_iff {c : Char} : isBlank c = true ↔ c.toNat ∈ whiteSpace := by
  simp only [isBlank, whiteSpace, Bool.or_eq_true, Bool.and_eq_true, decide_eq_true_eq, beq_iff_eq,
    List.mem_cons, List.not_mem_nil, or_false]
  omega

/-- What `dropWhile` leaves out comes first and satisfies the condition. -/
theorem exists_append_dropWhile {α : Type} (p : α → Bool) (xs : List α) :
    ∃ before, xs = before ++ xs.dropWhile p ∧ ∀ x ∈ before, p x = true :=
  ⟨xs.takeWhile p, List.takeWhile_append_dropWhile.symm,
    fun _ hx => List.all_eq_true.1 List.all_takeWhile _ hx⟩

/-- Trimming leaves out blank characters at both ends, and nothing else. -/
theorem trimList_between (cs : List Char) :
    ∃ before after, cs = before ++ trimList cs ++ after ∧ (∀ c ∈ before, isBlank c = true) ∧
      ∀ c ∈ after, isBlank c = true := by
  obtain ⟨before, hbefore, hblank⟩ := exists_append_dropWhile isBlank cs
  obtain ⟨after, hafter, hblank'⟩ :=
    exists_append_dropWhile isBlank (cs.dropWhile isBlank).reverse
  refine ⟨before, after.reverse, ?_, hblank, fun c hc => hblank' c (List.mem_reverse.1 hc)⟩
  have hrest := congrArg List.reverse hafter
  rw [List.reverse_reverse, List.reverse_append] at hrest
  rw [trimList, List.append_assoc, ← hrest, ← hbefore]

/-- A text of blank characters only, perhaps of none. -/
def Blank (s : String) : Prop := ∀ c ∈ s.toList, isBlank c = true

/-- A text that is not empty and neither begins nor ends with a blank character. -/
structure Trimmed (s : String) : Prop where
  nonempty : s ≠ ""
  head : ∀ c ∈ s.toList.head?, isBlank c = false
  last : ∀ c ∈ s.toList.getLast?, isBlank c = false

@[simp] theorem toList_trim (s : String) : (trim s).toList = trimList s.toList :=
  String.toList_ofList

/-- Nothing is dropped in front of a character that does not satisfy the condition. -/
theorem dropWhile_of_head {α : Type} {p : α → Bool} {xs : List α}
    (h : ∀ x ∈ xs.head?, p x = false) : xs.dropWhile p = xs := by
  cases xs with
  | nil => rfl
  | cons x rest => rw [List.dropWhile_cons_of_neg (by simp [h x rfl])]

/-- Dropping stops at a character that does not satisfy the condition. -/
theorem head_of_dropWhile {α : Type} (p : α → Bool) (xs : List α) :
    ∀ x ∈ (xs.dropWhile p).head?, p x = false := by
  intro x hx
  have hnot := List.head?_dropWhile_not p xs
  rw [Option.mem_def.1 hx] at hnot
  simpa using hnot

/-- What is trimmed does not begin with a blank character. -/
theorem head_of_trimList (cs : List Char) : ∀ c ∈ (trimList cs).head?, isBlank c = false := by
  intro c hc
  obtain ⟨after, hafter, -⟩ := exists_append_dropWhile isBlank (cs.dropWhile isBlank).reverse
  -- trimming the end leaves the beginning alone, unless nothing is left
  have hrest := congrArg List.reverse hafter
  rw [List.reverse_reverse, List.reverse_append] at hrest
  refine head_of_dropWhile isBlank cs c ?_
  rw [hrest, List.head?_append]
  show Option.or _ _ = some c
  rw [show ((cs.dropWhile isBlank).reverse.dropWhile isBlank).reverse.head? = some c from hc]
  rfl

/-- Nor does it end with one. -/
theorem last_of_trimList (cs : List Char) : ∀ c ∈ (trimList cs).getLast?, isBlank c = false := by
  intro c hc
  rw [trimList, List.getLast?_reverse] at hc
  exact head_of_dropWhile isBlank _ c hc

/-- A text that is left after trimming is trimmed. -/
theorem trimmed_trim {s : String} (h : trim s ≠ "") : Trimmed (trim s) where
  nonempty := h
  head := by
    rw [toList_trim]
    exact head_of_trimList s.toList
  last := by
    rw [toList_trim]
    exact last_of_trimList s.toList

/-- Of a blank text nothing is left. -/
theorem trim_of_blank {s : String} (h : Blank s) : trim s = "" := by
  have hnil : s.toList.dropWhile isBlank = [] := by
    rw [← List.append_nil s.toList, List.dropWhile_append_of_pos h]
    rfl
  rw [← String.toList_inj, toList_trim, trimList, hnil]
  rfl

/-- Of a trimmed text between blank ones that text is left, whatever blanks are inside. -/
theorem trim_between {before t after : String} (hbefore : Blank before) (ht : Trimmed t)
    (hafter : Blank after) : trim (before ++ t ++ after) = t := by
  have hhead : ∀ c ∈ (t.toList ++ after.toList).head?, isBlank c = false := by
    intro c hc
    cases hcs : t.toList with
    | nil => exact absurd (String.toList_eq_nil_iff.1 hcs) ht.nonempty
    | cons first rest =>
      rw [hcs] at hc
      refine ht.head c ?_
      rw [hcs]
      exact hc
  have hlast : ∀ c ∈ t.toList.reverse.head?, isBlank c = false := by
    rw [List.head?_reverse]
    exact ht.last
  have hafter' : ∀ c ∈ after.toList.reverse, isBlank c = true := by
    intro c hc
    exact hafter c (List.mem_reverse.1 hc)
  rw [← String.toList_inj, toList_trim, trimList, String.toList_append, String.toList_append,
    List.append_assoc, List.dropWhile_append_of_pos hbefore, dropWhile_of_head hhead,
    List.reverse_append, List.dropWhile_append_of_pos hafter', dropWhile_of_head hlast,
    List.reverse_reverse]

/-- Trimming leaves a trimmed text alone. -/
theorem Trimmed.trim_eq {t : String} (ht : Trimmed t) : trim t = t := by
  have hnone : Blank "" := by
    intro c hc
    cases hc
  have hbetween := trim_between hnone ht hnone
  rwa [String.empty_append, String.append_empty] at hbetween

/-- A text is blank, or it is a trimmed text between blank ones. -/
theorem blank_or_between (s : String) :
    Blank s ∨ ∃ before t after, Blank before ∧ Trimmed t ∧ Blank after ∧
      s = before ++ t ++ after := by
  obtain ⟨before, after, hparts, hbefore, hafter⟩ := trimList_between s.toList
  by_cases hnone : trim s = ""
  · refine .inl ?_
    have hnil : trimList s.toList = [] := by
      rw [← toList_trim, hnone]
      rfl
    rw [hnil, List.append_nil] at hparts
    intro c hc
    rw [hparts] at hc
    exact (List.mem_append.1 hc).elim (hbefore c) (hafter c)
  · refine .inr ⟨String.ofList before, trim s, String.ofList after, ?_, trimmed_trim hnone, ?_, ?_⟩
    · simpa [Blank] using hbefore
    · simpa [Blank] using hafter
    · rw [← String.toList_inj, String.toList_append, String.toList_append, toList_trim,
        String.toList_ofList, String.toList_ofList, ← hparts]

end Launcher.Text
