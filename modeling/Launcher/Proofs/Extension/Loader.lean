import Launcher.Extension.Loader
import Launcher.Proofs.Text.Utf8

/-!
# What a loader promises

An export is looked up under a name of the system's own kind, which a NUL ends. So a symbol with
a NUL at its end stands for what is before that, and a symbol with a NUL anywhere else stands for no
name at all. A loader promises that what it finds in a library is what the library exports under
that name; the loader over a tree of files keeps the promise.

- `SymbolName`: the name that a symbol stands for.
- `Loader.Links`: the promise.
- `Loader.links_ofFiles`: the loader over a tree of files keeps it.
-/

namespace Launcher

/-- A symbol stands for a name: for itself, or for itself without the NUL at its end. -/
def SymbolName (symbol name : String) : Prop :=
  Char.ofNat 0 ∉ name.toList ∧ (symbol = name ∨ symbol = name.push (Char.ofNat 0))

/-- What is found in an open library is what the library at that path exports under the name that
the symbol stands for. -/
structure Loader.Links (loader : Loader) (exports : Path → String → Option Export) : Prop where
  found_iff : ∀ path opened, loader.openLibrary path = .ok opened → ∀ symbol found,
    opened.lookup symbol = .ok found ↔
      ∃ name, SymbolName symbol name ∧ exports path name = some found

namespace Loader

/-! ## Names -/

/-- Octets without a zero can be handed to the system. -/
theorem bareName_of_not_mem {bytes : List UInt8} (h : 0 ∉ bytes) :
    nameRefusal? bytes = none ∧ bareName bytes = bytes := by
  have hlast : bytes.getLast? ≠ some 0 := fun hlast => h (List.mem_of_getLast? hlast)
  simp [nameRefusal?, bareName, hlast, h]

/-- So they can with a zero behind them. -/
theorem bareName_concat {bytes : List UInt8} (h : 0 ∉ bytes) :
    nameRefusal? (bytes ++ [0]) = none ∧ bareName (bytes ++ [0]) = bytes := by
  simp [nameRefusal?, bareName, h]

/-- No others can. -/
theorem bareName_of_nameRefusal? {bytes : List UInt8} (h : nameRefusal? bytes = none) :
    0 ∉ bareName bytes ∧ (bytes = bareName bytes ∨ bytes = bareName bytes ++ [0]) := by
  unfold nameRefusal? at h
  unfold bareName
  by_cases hlast : bytes.getLast? = some 0
  · obtain ⟨before, rfl⟩ := List.getLast?_eq_some_iff.1 hlast
    simpa using h
  · simpa [hlast] using h

/-- A symbol stands for a name if its octets can be handed to the system, and then for the one that
these spell. -/
theorem symbolName_iff {symbol name : String} :
    SymbolName symbol name ↔ nameRefusal? (Text.Utf8.encode symbol) = none ∧
      Text.Utf8.decode (bareName (Text.Utf8.encode symbol)) = name := by
  constructor
  · rintro ⟨hname, hsymbol⟩
    have hzero := mt Text.Utf8.zero_mem_encode.1 hname
    rcases hsymbol with rfl | rfl
    · obtain ⟨hnone, hbare⟩ := bareName_of_not_mem hzero
      exact ⟨hnone, by rw [hbare, Text.Utf8.decode_encode]⟩
    · obtain ⟨hnone, hbare⟩ := bareName_concat hzero
      rw [Text.Utf8.encode_push_zero]
      exact ⟨hnone, by rw [hbare, Text.Utf8.decode_encode]⟩
  · rintro ⟨hnone, rfl⟩
    -- the octets are those of the name, or those with a zero at the end
    obtain ⟨hzero, hsame | hpush⟩ := bareName_of_nameRefusal? hnone
    · rw [← hsame, Text.Utf8.decode_encode]
      rw [← hsame] at hzero
      exact ⟨mt Text.Utf8.zero_mem_encode.2 hzero, .inl rfl⟩
    · obtain ⟨name, rfl, hbare⟩ := Text.Utf8.exists_push_zero hpush
      rw [hbare, Text.Utf8.decode_encode]
      rw [hbare] at hzero
      exact ⟨mt Text.Utf8.zero_mem_encode.2 hzero, .inr rfl⟩

/-! ## The loader over a tree of files -/

/-- What the library in a node exports. -/
def nodeExports (name : String) : Node → Option Export
  | .file (.library object) => object.find? name
  | _ => none

/-- What the library at a path exports. -/
def exportsIn (files : Files) (path : Path) (name : String) : Option Export :=
  match files.find? ⟨bareName path.bytes⟩ with
  | .ok node => nodeExports name node
  | .error _ => none

theorem exportsOf_found_iff (shown : String) (object : SharedObject) (symbol : String)
    (found : Export) : (exportsOf shown object).lookup symbol = .ok found ↔
      ∃ name, SymbolName symbol name ∧ object.find? name = some found := by
  cases hname : nameRefusal? (Text.Utf8.encode symbol) with
  | some reason => simp [exportsOf, symbolName_iff, hname]
  | none =>
    cases hfound : object.find? (Text.Utf8.decode (bareName (Text.Utf8.encode symbol))) <;>
      simp [exportsOf, symbolName_iff, hname, hfound]

/-- Only a library is opened, and then it exports what is in it. -/
theorem ofNode_found_iff {shown : String} {node : Node} {opened : Library}
    (h : ofNode shown node = .ok opened) (symbol : String) (found : Export) :
    opened.lookup symbol = .ok found ↔
      ∃ name, SymbolName symbol name ∧ nodeExports name node = some found := by
  cases node with
  | directory => cases h
  | file content =>
    cases content with
    | library object =>
      simp only [ofNode] at h
      split at h
      · cases h
      · cases h
        exact exportsOf_found_iff shown object symbol found
    | octets bytes => simp only [ofNode] at h; split at h <;> cases h
    | hole size => simp only [ofNode] at h; split at h <;> cases h
    | log file => simp only [ofNode] at h; split at h <;> cases h

/-- What is opened is the running program, under the empty name, or a library in the tree. -/
theorem opened_ofFiles {files : Files} {path : Path} {opened : Library}
    (h : (ofFiles files).openLibrary path = .ok opened) :
    (bareName path.bytes = [] ∧ opened = program) ∨
      ∃ shown node, files.find? ⟨bareName path.bytes⟩ = .ok node ∧
        ofNode shown node = .ok opened := by
  simp only [ofFiles] at h
  split at h
  · cases h
  split at h
  · rename_i hempty
    cases h
    exact .inl ⟨List.isEmpty_iff.1 hempty, rfl⟩
  split at h
  · split at h
    · rename_i node hnode
      exact .inr ⟨_, node, hnode, h⟩
    · cases h
  · split at h <;> cases h

/-- The loader over a tree of files finds what the libraries in the tree export. -/
theorem links_ofFiles (files : Files) : (ofFiles files).Links (exportsIn files) where
  found_iff := by
    intro path opened hopen symbol found
    rcases opened_ofFiles hopen with ⟨hempty, rfl⟩ | ⟨shown, node, hnode, hopened⟩
    · -- no file has an empty path, and the program exports nothing
      have hnone : ∀ name, exportsIn files path name = none := by
        intro name
        rw [exportsIn, hempty]
        rfl
      rw [program, exportsOf_found_iff]
      simp [hnone, SharedObject.find?]
    · rw [ofNode_found_iff hopened]
      simp only [exportsIn, hnode]

end Loader

end Launcher
