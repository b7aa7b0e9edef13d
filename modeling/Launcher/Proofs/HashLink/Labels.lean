import Launcher.HashLink
import Launcher.Proofs.Text.Utf16
import Launcher.Rehearsal.ScriptedLibrary

/-!
# Messages and call sites come out as they were meant

The VM library hands out the message of a fault and its call sites as units in its own memory. A
text is read up to its zero unit and no further, and is the text that its units spell. Of an array
of call sites, as many are read as its size says, in order, and none if the size is negative.

- `label_append`: the text before a zero unit.
- `length_labels`, `getElem?_labels`: the texts of an array.
- `texts_decoded`: what is read of a text and of an array, and what it reads as.
-/

namespace Launcher.HashLink

open Text.Utf16

variable {τ : Type}

/-- A text is what the units before its zero unit spell, whatever lies behind it. -/
theorem label_append {us : Units} (h : 0 ∉ us) (rest : Units) :
    label (some (us ++ 0 :: rest)) = decode us :=
  congrArg decode (untilZero_append h rest)

/-- Whatever can be read up to a zero unit is what a text is decoded from. -/
theorem label_of_scans {units us : Units} (h : Scans units 0 us) :
    label (some units) = decode us := by
  obtain ⟨hus, rest, rfl⟩ := scans_iff.1 h
  exact label_append hus rest

theorem length_labels (array : TextArray) :
    (labels (some array)).length = (max array.size.toInt 0).toNat := by
  rw [labels, List.length_map, List.length_range]
  omega

theorem getElem?_labels {array : TextArray} {i : Nat} (h : i < array.size.toInt) :
    (labels (some array))[i]? = some (label (array.entry i)) := by
  have hi : i < array.size.toInt.toNat := by omega
  rw [labels, List.getElem?_map, List.getElem?_range hi, Option.map_some]

/-- A text is read up to its first zero unit, which may be the last one there is to read, and reads
as what the units before it spell; so a text without NUL comes back from its own units, and on
either side of a unit that is no surrogate the units spell apart. Of an array as many texts are read
as its size says, in order, and none of a null array. -/
theorem texts_decoded (api : Api τ) (s : State τ) :
    (∀ us rest : Units, 0 ∉ us → Scans (us ++ [0]) 0 us ∧ Scans (us ++ 0 :: rest) 0 us) ∧
    (∀ units us : Units, Scans units 0 us → label (some units) = decode us) ∧
    (∀ (us : Units) (text : String), decode us = text ↔ Spells us text.toList) ∧
    (∀ (text : String) (rest : Units), Char.ofNat 0 ∉ text.toList →
      label (some (encode text ++ 0 :: rest)) = text) ∧
    (∀ (us vs : Units) (u : UInt16), isHigh u = false → isLow u = false →
      decode (us ++ u :: vs) = decode us ++ decode (u :: vs) ∧
        decode (us ++ u :: vs) = decode (us ++ [u]) ++ decode vs) ∧
    (∀ array, (api.exceptionStack s.library).1 = some array →
      (exceptionStack api s).1.length = (max array.size.toInt 0).toNat ∧
      ∀ i : Nat, i < array.size.toInt →
        (exceptionStack api s).1[i]? = some (label (array.entry i))) ∧
    ((api.exceptionStack s.library).1 = none → (exceptionStack api s).1 = []) ∧
    label none = "null" := by
  refine ⟨?scans, fun units us => label_of_scans, fun us text => spells_iff.symm, ?back, ?apart,
    ?array, ?null, rfl⟩
  case scans =>
    intro us rest hus
    exact ⟨scans_iff.2 ⟨hus, [], rfl⟩, scans_iff.2 ⟨hus, rest, rfl⟩⟩
  case back =>
    intro text rest htext
    rw [label_append (zero_not_mem_encode htext), decode_encode]
  case apart =>
    intro us vs u hhigh hlow
    exact decode_append_plain (isPlain_iff.2 ⟨hhigh, hlow⟩) us vs
  case array =>
    intro array harray
    -- the state after the call does not matter, only the array that it answers
    have hstack : (exceptionStack api s).1 = labels (some array) := by rw [← harray]; rfl
    rw [hstack]
    exact ⟨length_labels array, fun i hi => getElem?_labels hi⟩
  case null =>
    intro harray
    show labels (api.exceptionStack s.library).1 = []
    rw [harray]
    rfl

/-- A library after a fault with two call sites: a pair, a surrogate without its partner and a zero
unit in front of something else, and a null pointer. -/
def pairAndNull : State Rehearsal.ScriptedLibrary :=
  .fresh { Rehearsal.ScriptedLibrary.fresh (.fresh none) ⟨[], [], [], []⟩ with
    stack := some ⟨2, fun i => if i = 0 then some [0xD83D, 0xDE00, 0xD83D, 0, 0x41] else none⟩ }

theorem texts_decoded_pair :
    Scans [0xD83D, 0xDE00, 0xD83D, 0, 0x41] 0 [0xD83D, 0xDE00, 0xD83D] ∧
      (exceptionStack Rehearsal.ScriptedLibrary.api pairAndNull).1.length = 2 ∧
      (exceptionStack Rehearsal.ScriptedLibrary.api pairAndNull).1[0]? = some "😀\uFFFD" ∧
      (exceptionStack Rehearsal.ScriptedLibrary.api pairAndNull).1[1]? = some "null" := by
  obtain ⟨hscans, hlabel, hspells, -, -, harray, -, hnull⟩ :=
    texts_decoded Rehearsal.ScriptedLibrary.api pairAndNull
  have hread : Scans [0xD83D, 0xDE00, 0xD83D, 0, 0x41] 0 [0xD83D, 0xDE00, 0xD83D] :=
    (hscans [0xD83D, 0xDE00, 0xD83D] [0x41] (by decide)).2
  have hspelled : Spells [0xD83D, 0xDE00, 0xD83D] "😀\uFFFD".toList :=
    .pair (by decide) (by decide) (by decide) (.strayHigh (by decide) nofun .nil)
  obtain ⟨hlength, hentries⟩ := harray _ rfl
  refine ⟨hread, hlength, (hentries 0 (by decide)).trans (congrArg some ?_),
    (hentries 1 (by decide)).trans (congrArg some hnull)⟩
  exact (hlabel _ _ hread).trans ((hspells _ _).2 hspelled)

end Launcher.HashLink
