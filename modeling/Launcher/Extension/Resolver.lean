import Launcher.Act
import Launcher.Extension.Loader
import Launcher.Failure
import Launcher.Seam.Note

/-!
# Resolving the setup hook

The extension is asked for by the name of its library and the name of an export. A resolver answers
with a hook or a failure; the one that goes through a loader fails if the library or the export is
not to be had.

- `Resolver`: any way of resolving, over a state of which nothing is known.
- `SearchDir`: where relative library names are looked for.
- `resolveLibrary`: resolving through a loader.
-/

namespace Launcher

/-- A way of resolving hooks over the state `σ`, and of giving them up. -/
structure Resolver (σ : Type) where
  /-- The hook of a library and a symbol, or any failure of a boot. -/
  resolve : String → String → Act Note σ (Except Failure Hook)
  /-- Closes what a hook has kept open. -/
  dropHook : Hook → Quiet Note σ Unit

/-- Where relative library names are looked for: in a directory or wherever the system looks. -/
abbrev SearchDir : Type := Option Path

namespace SearchDir

/-- The path that is opened for a library name. -/
def locate (dir : SearchDir) (library : String) : Path :=
  match dir with
  | some dir => dir.join (Path.ofString library)
  | none => Path.ofString library

/-- Extensions are looked for next to the image, if its path names a directory. -/
def beside (image : Path) : SearchDir :=
  match image.parent with
  | some dir => if dir.same Path.empty then none else some dir
  | none => none

end SearchDir

namespace Extension

open Log

/-- The record of a library that could not be opened. -/
def notFoundRecord (path : Path) (reason : String) : Record :=
  .error .extensionLoad .extension
    [.errorCode "extension_not_found", .detail "library" path.display, .detail "error" reason]

/-- The record of a symbol that is not exported. -/
def noSymbolRecord (path : Path) (symbol : String) : Record :=
  .error .extensionLoad .extension
    [.errorCode "symbol_not_found", .detail "library" path.display, .detail "symbol" symbol]

/-- The record of a hook that was resolved. -/
def loadedRecord (path : Path) (symbol : String) : Record :=
  .info .extensionLoad .extension .ok [.detail "library" path.display, .detail "symbol" symbol]

/-- Resolves a hook through a loader. A library that lacks the symbol is closed again, without a last
word: what a library says when it is unloaded is about the calls into it, and there were none. -/
def resolveLibrary (loader : Loader) (dir : SearchDir) (library symbol : String) :
    Except Failure Hook × List Note :=
  let path := dir.locate library
  match loader.openLibrary path with
  | .error reason =>
    (.error (.extensionNotFound library reason), [.log (notFoundRecord path reason)])
  | .ok opened =>
    match opened.lookup symbol with
    | .ok (.entry entry) =>
      (.ok ⟨library, symbol, entry, some path⟩, [.opened path, .log (loadedRecord path symbol)])
    | _ =>
      (.error (.symbolNotFound library symbol),
        [.opened path, .log (noSymbolRecord path symbol), .closed path])

end Extension

/-- Resolving through a loader. Giving a hook up closes its library, which has the last word. -/
def Resolver.ofLoader {σ : Type} (loader : Loader) (dir : SearchDir)
    (lastWord : Quiet Note σ Unit) : Resolver σ where
  resolve library symbol := fun s =>
    let (answer, notes) := Extension.resolveLibrary loader dir library symbol
    ⟨.returned answer, notes, s⟩
  dropHook hook :=
    match hook.keeps with
    | some path => do
      lastWord
      Quiet.emit (.closed path)
    | none => return ()

end Launcher
