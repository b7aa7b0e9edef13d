import Launcher.Installation
import Launcher.Proofs.Act
import Launcher.Proofs.Extension.Loader
import Launcher.Proofs.Path.Parent
import Launcher.Rehearsal.Host

/-!
# Resolving at one place

A resolver over a loader opens one library and no other: the one at the path that the name stands
for itself, or the one in the search directory. A failure says what was asked for, and leaves no
library open; the log says what was opened. A hook carries what was asked for and keeps its library
open until it is given up, so at any time the libraries that are open are those of the hooks that
are held. Where extensions are looked for depends on the components of the image's path alone.

- `Extension.Resolves`: what can come of asking for a hook.
- `Extension.resolveLibrary_iff`: that is what comes of it.
- `Resolver.use_balanced`, `Resolver.uses_balanced`: what is open is what is held.
- `SearchDir.map_components_beside`: where a launch looks for extensions.
- `SearchDir.same_locate`: beside equal images an extension is in one place.
- `Extension.resolved_at_one_place`: resolving as a whole.
-/

namespace Launcher

/-! ## What is opened and closed -/

/-- The libraries that are opened, in order. -/
def Note.openings (notes : List Note) : List Path := notes.filterMap fun
  | .opened path => some path
  | _ => none

/-- The libraries that are closed, in order. -/
def Note.closings (notes : List Note) : List Path := notes.filterMap fun
  | .closed path => some path
  | _ => none

theorem Note.openings_append (notes more : List Note) :
    openings (notes ++ more) = openings notes ++ openings more := List.filterMap_append

theorem Note.closings_append (notes more : List Note) :
    closings (notes ++ more) = closings notes ++ closings more := List.filterMap_append

theorem Note.openings_closed (path : Path) : openings [.closed path] = [] := rfl

theorem Note.closings_closed (path : Path) : closings [.closed path] = [path] := rfl

/-! ## One resolution -/

/-- No entry is found if nothing is exported under the symbol's name, or nothing with an address. -/
theorem Loader.Links.no_entry_iff {loader : Loader} {exports : Path → String → Option Export}
    (h : loader.Links exports) {path : Path} {opened : Library}
    (hopen : loader.openLibrary path = .ok opened) (symbol : String) :
    (∀ entry, opened.lookup symbol ≠ .ok (.entry entry)) ↔ ∀ name, SymbolName symbol name →
      exports path name = none ∨ exports path name = some .null := by
  constructor
  · intro hnone name hname
    rcases hexport : exports path name with _ | (_ | entry)
    · exact .inl rfl
    · exact .inr rfl
    · exact absurd ((h.found_iff path opened hopen symbol _).2 ⟨name, hname, hexport⟩) (hnone entry)
  · intro hall entry hfound
    obtain ⟨name, hname, hexport⟩ := (h.found_iff path opened hopen symbol _).1 hfound
    rcases hall name hname with hnone | hnull
    · rw [hnone] at hexport
      cases hexport
    · rw [hnull] at hexport
      cases hexport

namespace Extension

/-- What is answered and noted when a hook is asked for and `path` is the one that is opened. -/
inductive Resolves (loader : Loader) (exports : Path → String → Option Export) (path : Path)
    (library symbol : String) : Except Failure Hook → List Note → Prop
  | noLibrary {reason : String} : loader.openLibrary path = .error reason →
      Resolves loader exports path library symbol (.error (.extensionNotFound library reason))
        [.log (notFoundRecord path reason)]
  /-- The symbol is no name at all, or nothing is exported under it, or nothing that has an address.
  The library is closed again, and nothing in it was called. -/
  | noSymbol {opened : Library} : loader.openLibrary path = .ok opened →
      (∀ name, SymbolName symbol name → exports path name = none ∨ exports path name = some .null) →
      Resolves loader exports path library symbol (.error (.symbolNotFound library symbol))
        [.opened path, .log (noSymbolRecord path symbol), .closed path]
  | hook {opened : Library} {name : String} {entry : Entry} : loader.openLibrary path = .ok opened →
      SymbolName symbol name → exports path name = some (.entry entry) →
      Resolves loader exports path library symbol (.ok ⟨library, symbol, entry, some path⟩)
        [.opened path, .log (loadedRecord path symbol)]

variable {loader : Loader} {exports : Path → String → Option Export} {dir : SearchDir}
  {library symbol : String} {answer : Except Failure Hook} {notes : List Note}

theorem Resolves.resolveLibrary_eq (hlinks : loader.Links exports)
    (h : Resolves loader exports (dir.locate library) library symbol answer notes) :
    resolveLibrary loader dir library symbol = (answer, notes) := by
  cases h with
  | noLibrary hopen => simp only [resolveLibrary, hopen]
  | @noSymbol opened hopen hnames =>
    have hnone := (hlinks.no_entry_iff hopen symbol).2 hnames
    rcases hfound : opened.lookup symbol with reason | (_ | entry)
    case ok.entry => exact absurd hfound (hnone entry)
    all_goals simp only [resolveLibrary, hopen, hfound]
  | hook hopen hname hexport =>
    have hfound := (hlinks.found_iff _ _ hopen symbol _).2 ⟨_, hname, hexport⟩
    simp only [resolveLibrary, hopen, hfound]

theorem exists_resolves (hlinks : loader.Links exports) (path : Path) (library symbol : String) :
    ∃ answer notes, Resolves loader exports path library symbol answer notes := by
  rcases hopen : loader.openLibrary path with reason | opened
  · exact ⟨_, _, .noLibrary hopen⟩
  by_cases hentry : ∃ entry, opened.lookup symbol = .ok (.entry entry)
  · obtain ⟨entry, hfound⟩ := hentry
    obtain ⟨name, hname, hexport⟩ := (hlinks.found_iff path opened hopen symbol _).1 hfound
    exact ⟨_, _, .hook hopen hname hexport⟩
  · have hnone : ∀ entry, opened.lookup symbol ≠ .ok (.entry entry) :=
      fun entry hfound => hentry ⟨entry, hfound⟩
    exact ⟨_, _, .noSymbol hopen ((hlinks.no_entry_iff hopen symbol).1 hnone)⟩

/-- A hook is resolved at the place of its library, in the one way that there is. -/
theorem resolveLibrary_iff (hlinks : loader.Links exports) :
    resolveLibrary loader dir library symbol = (answer, notes) ↔
      Resolves loader exports (dir.locate library) library symbol answer notes := by
  refine ⟨fun h => ?_, Resolves.resolveLibrary_eq hlinks⟩
  obtain ⟨answer', notes', hresolves⟩ :=
    exists_resolves hlinks (dir.locate library) library symbol
  -- something comes of asking, and nothing else can
  rw [hresolves.resolveLibrary_eq hlinks] at h
  cases h
  exact hresolves

end Extension

namespace Resolver

variable {σ : Type} {loader : Loader} {exports : Path → String → Option Export} {dir : SearchDir}
  {lastWord : Quiet Note σ Unit}

theorem resolve_ofLoader (hlinks : loader.Links exports) (dir : SearchDir)
    (lastWord : Quiet Note σ Unit) (library symbol : String) (s : σ)
    (outcome : Outcome Note σ (Except Failure Hook)) :
    (ofLoader loader dir lastWord).resolve library symbol s = outcome ↔
      ∃ answer notes, outcome = ⟨.returned answer, notes, s⟩ ∧
        Extension.Resolves loader exports (dir.locate library) library symbol answer notes := by
  constructor
  · rintro rfl
    exact ⟨_, _, rfl, (Extension.resolveLibrary_iff hlinks).1 rfl⟩
  · rintro ⟨answer, notes, rfl, hresolves⟩
    simp only [ofLoader, hresolves.resolveLibrary_eq hlinks]

/-- A hook that keeps nothing open leaves nothing to close. -/
theorem dropHook_of_keeps_none {hook : Hook} (h : hook.keeps = none) (s : σ) :
    (ofLoader loader dir lastWord).dropHook hook s = ((), [], s) := by
  simp only [ofLoader, h]
  rfl

theorem dropHook_of_keeps {hook : Hook} {path : Path} (h : hook.keeps = some path) (s : σ) :
    (ofLoader loader dir lastWord).dropHook hook s =
      ((), (lastWord s).2.1 ++ [.closed path], (lastWord s).2.2) := by
  simp only [ofLoader, h]
  rfl

/-! ## Hooks that are held -/

/-- What one can do with a resolver: ask for a hook, or give one up. -/
inductive Use
  | ask (library symbol : String)
  | giveUp (hook : Hook)

/-- One use of a resolver by somebody who holds hooks. Only what is held can be given up. -/
def use (resolver : Resolver σ) : Use → Quiet Note (List Hook × σ) Unit
  | .ask library symbol => fun (held, s) =>
    let outcome := resolver.resolve library symbol s
    match outcome.ending with
    | .returned (.ok hook) => ((), outcome.trace, hook :: held, outcome.state)
    | _ => ((), outcome.trace, held, outcome.state)
  | .giveUp hook => fun (held, s) =>
    if hook ∈ held then
      let (_, trace, s) := resolver.dropHook hook s
      ((), trace, held.erase hook, s)
    else ((), [], held, s)

/-- One use after the other. -/
def uses (resolver : Resolver σ) : List Use → Quiet Note (List Hook × σ) Unit
  | [] => return ()
  | u :: us => do
    resolver.use u
    resolver.uses us

/-- The libraries that hooks keep open. -/
def kept (held : List Hook) : List Path := held.filterMap Hook.keeps

/-- Whatever was kept open or is opened is closed or still kept open, each library as many times. -/
def Balanced (before : List Hook) (notes : List Note) (after : List Hook) : Prop :=
  ∀ path, (Note.openings notes).count path + (kept before).count path =
    (Note.closings notes).count path + (kept after).count path

theorem Balanced.trans {before between after : List Hook} {notes more : List Note}
    (h : Balanced before notes between) (h' : Balanced between more after) :
    Balanced before (notes ++ more) after := by
  intro path
  have hfirst := h path
  have hsecond := h' path
  rw [Note.openings_append, Note.closings_append, List.count_append, List.count_append]
  omega

/-- What is resolved keeps open what was opened for it, and a failure keeps nothing open. -/
theorem use_ask (hlinks : loader.Links exports) (dir : SearchDir) (lastWord : Quiet Note σ Unit)
    (library symbol : String) (held : List Hook) (s : σ) : ∃ notes after,
      (ofLoader loader dir lastWord).use (.ask library symbol) (held, s) = ((), notes, after, s) ∧
        Balanced held notes after := by
  obtain ⟨answer, notes, houtcome, hresolves⟩ :=
    (resolve_ofLoader hlinks dir lastWord library symbol s _).1 rfl
  simp only [use, houtcome]
  cases hresolves with
  | noLibrary => exact ⟨_, _, rfl, fun path => rfl⟩
  | noSymbol => exact ⟨_, _, rfl, fun path => rfl⟩
  | hook =>
    refine ⟨_, _, rfl, fun path => ?_⟩
    simp [Note.openings, Note.closings, kept, List.count_cons, Nat.add_comm]

/-- A last word that neither opens nor closes a library. -/
def LeavesLibraries (lastWord : Quiet Note σ Unit) : Prop :=
  ∀ s, Note.openings (lastWord s).2.1 = [] ∧ Note.closings (lastWord s).2.1 = []

/-- What is given up was held, and its library is closed. -/
theorem use_giveUp (hword : LeavesLibraries lastWord) (hook : Hook) (held : List Hook) (s : σ) :
    ∃ notes after s',
      (ofLoader loader dir lastWord).use (.giveUp hook) (held, s) = ((), notes, after, s') ∧
        Balanced held notes after := by
  by_cases hheld : hook ∈ held
  · -- counting what is kept is indifferent to where in the list the hook was
    have hperm := (List.perm_cons_erase hheld).filterMap Hook.keeps
    cases hkeeps : hook.keeps with
    | none =>
      refine ⟨[], held.erase hook, s, ?_, fun path => ?_⟩
      · simp only [use, if_pos hheld, dropHook_of_keeps_none hkeeps]
      · rw [kept, hperm.count_eq, List.filterMap_cons_none hkeeps]
        rfl
    | some library =>
      refine ⟨(lastWord s).2.1 ++ [.closed library], held.erase hook, (lastWord s).2.2, ?_,
        fun path => ?_⟩
      · simp only [use, if_pos hheld, dropHook_of_keeps hkeeps]
      · obtain ⟨hopens, hcloses⟩ := hword s
        rw [kept, hperm.count_eq, List.filterMap_cons_some hkeeps, Note.openings_append,
          Note.closings_append, hopens, hcloses, Note.openings_closed, Note.closings_closed,
          List.nil_append, List.nil_append, List.count_nil, List.count_cons, List.count_singleton,
          kept]
        omega
  · -- a hook that nobody holds cannot be given up
    exact ⟨[], held, s, by simp only [use, if_neg hheld], fun path => rfl⟩

theorem use_balanced (hlinks : loader.Links exports) (hword : LeavesLibraries lastWord) (u : Use)
    (held : List Hook) (s : σ) : ∃ notes after s',
      (ofLoader loader dir lastWord).use u (held, s) = ((), notes, after, s') ∧
        Balanced held notes after := by
  cases u with
  | ask library symbol =>
    obtain ⟨notes, after, huse, hbalanced⟩ := use_ask hlinks dir lastWord library symbol held s
    exact ⟨notes, after, s, huse, hbalanced⟩
  | giveUp hook => exact use_giveUp hword hook held s

/-- At any time, what is open is what the hooks that are held keep open. -/
theorem uses_balanced (hlinks : loader.Links exports) (hword : LeavesLibraries lastWord)
    (us : List Use) (held : List Hook) (s : σ) :
    Balanced held ((ofLoader loader dir lastWord).uses us (held, s)).2.1
      ((ofLoader loader dir lastWord).uses us (held, s)).2.2.1 := by
  -- one use keeps the balance, and what is held then carries it to the next
  induction us generalizing held s with
  | nil => exact fun path => rfl
  | cons u us ih =>
    obtain ⟨notes, after, s', huse, hbalanced⟩ := use_balanced hlinks hword u held s
    have hrest := hbalanced.trans (ih after s')
    have huses : (ofLoader loader dir lastWord).uses (u :: us) (held, s) =
        ((), notes ++ ((ofLoader loader dir lastWord).uses us (after, s')).2.1,
          ((ofLoader loader dir lastWord).uses us (after, s')).2.2) := by
      rw [uses, Quiet.bind_apply, huse]
    rwa [huses]

end Resolver

/-! ## Beside the image -/

namespace SearchDir

/-- A library is where its name says if the name is an absolute path or there is no directory to
search, and in the search directory otherwise. -/
theorem locate_eq (dir : SearchDir) (library : String) : dir.locate library =
    if (Path.ofString library).isAbsolute then Path.ofString library
    else (dir.map fun d => d.join (Path.ofString library)).getD (Path.ofString library) := by
  cases dir with
  | none => simp [locate]
  | some d =>
    by_cases h : (Path.ofString library).isAbsolute = true
    · rw [if_pos h]
      exact Path.join_absolute d h
    · rw [if_neg h]
      rfl

theorem beside_of_parent {image dir : Path} (h : image.parent = some dir) :
    beside image = if dir.components = [] then none else some dir := by
  have hempty : dir.same Path.empty = true ↔ dir.components = [] := Path.same_iff
  simp only [beside, h, hempty]

/-- Extensions are looked for in the directory of the image if the image's path has more than one
component, and otherwise wherever the system looks. -/
theorem map_components_beside (image : Path) : (beside image).map Path.components =
    if image.components.length ≤ 1 then none else some image.components.dropLast := by
  have hparent := Path.map_components_parent image
  cases hdir : image.parent with
  | none =>
    have hshort : image.components.length ≤ 1 := by
      rw [hdir] at hparent
      split at hparent
      · rename_i h
        rcases h with h | h <;> simp [h]
      · cases hparent
    rw [if_pos hshort, beside, hdir]
    rfl
  | some dir =>
    have hcomponents : dir.components = image.components.dropLast := by
      rw [hdir] at hparent
      split at hparent
      · cases hparent
      · exact Option.some.inj hparent
    have hnone : dir.components = [] ↔ image.components.length ≤ 1 := by
      rw [hcomponents, ← List.length_eq_zero_iff, List.length_dropLast]
      omega
    rw [beside_of_parent hdir]
    by_cases hshort : image.components.length ≤ 1
    · rw [if_pos hshort, if_pos (hnone.2 hshort)]
      rfl
    · rw [if_neg hshort, if_neg (mt hnone.1 hshort), Option.map_some, hcomponents]

theorem bytes_ne_nil_of_beside {image dir : Path} (h : beside image = some dir) :
    dir.bytes ≠ [] := by
  intro hnil
  obtain rfl : dir = Path.empty := congrArg Path.mk hnil
  cases hdir : image.parent with
  | none =>
    rw [beside, hdir] at h
    cases h
  | some d =>
    rw [beside_of_parent hdir] at h
    split at h
    · cases h
    · rename_i hcomponents
      exact hcomponents (Option.some.inj h ▸ Path.components_empty)

/-- An extension of one name is in one place beside equal images. -/
theorem same_locate {p q : Path} (h : p.same q = true) (library : String) :
    ((beside p).locate library).same ((beside q).locate library) = true := by
  have hbeside : (beside p).map Path.components = (beside q).map Path.components := by
    rw [map_components_beside, map_components_beside, Path.same_iff.1 h]
  cases hp : beside p with
  | none =>
    rw [hp, Option.map_none] at hbeside
    rw [Option.map_eq_none_iff.1 hbeside.symm, Path.same_refl]
  | some d =>
    rw [hp, Option.map_some] at hbeside
    obtain ⟨e, hq, hcomponents⟩ := Option.map_eq_some_iff.1 hbeside.symm
    rw [hq]
    exact Path.same_join (Path.same_iff.2 hcomponents.symm) (bytes_ne_nil_of_beside hp)
      (bytes_ne_nil_of_beside hq) (Path.ofString library)

end SearchDir

namespace Extension

/-- A resolver over a loader opens the library at one place and asks for nothing elsewhere, always
answers, and leaves the state alone. What it answers and notes is decided by what is at that place.
A hook keeps its library open until it is given up. A launch looks beside its image, and where that
is does not depend on how the image's path is spelled. -/
theorem resolved_at_one_place {σ τ : Type} {loader : Loader}
    {exports : Path → String → Option Export} (hlinks : loader.Links exports) (dir : SearchDir)
    (lastWord : Quiet Note σ Unit) :
    (∀ library, dir.locate library =
      if (Path.ofString library).isAbsolute then Path.ofString library
      else (dir.map fun d => d.join (Path.ofString library)).getD (Path.ofString library)) ∧
    (∀ (other : Loader) library,
      other.openLibrary (dir.locate library) = loader.openLibrary (dir.locate library) →
      ∀ symbol s, (Resolver.ofLoader other dir lastWord).resolve library symbol s =
        (Resolver.ofLoader loader dir lastWord).resolve library symbol s) ∧
    (∀ library symbol s outcome,
      (Resolver.ofLoader loader dir lastWord).resolve library symbol s = outcome ↔
        ∃ answer notes, outcome = ⟨.returned answer, notes, s⟩ ∧
          Resolves loader exports (dir.locate library) library symbol answer notes) ∧
    (∀ (hook : Hook) path s, hook.keeps = some path →
      (Resolver.ofLoader loader dir lastWord).dropHook hook s =
        ((), (lastWord s).2.1 ++ [.closed path], (lastWord s).2.2)) ∧
    (Resolver.LeavesLibraries lastWord → ∀ us held s,
      Resolver.Balanced held ((Resolver.ofLoader loader dir lastWord).uses us (held, s)).2.1
        ((Resolver.ofLoader loader dir lastWord).uses us (held, s)).2.2.1) ∧
    (∀ (partners : Installation.Partners τ) files settings runtime,
      (Installation.launchOf partners files settings runtime).resolver =
        .ofLoader (partners.loader files) (.beside settings.image) partners.lastWord) ∧
    (∀ image, (SearchDir.beside image).map Path.components =
      if image.components.length ≤ 1 then none else some image.components.dropLast) ∧
    ∀ p q : Path, p.same q = true → ∀ library,
      ((SearchDir.beside p).locate library).same ((SearchDir.beside q).locate library) = true := by
  refine ⟨dir.locate_eq, ?place, Resolver.resolve_ofLoader hlinks dir lastWord,
    fun _ _ s hkeeps => Resolver.dropHook_of_keeps hkeeps s,
    fun hword us held s => Resolver.uses_balanced hlinks hword us held s, fun _ _ _ _ => rfl,
    SearchDir.map_components_beside, fun _ _ => SearchDir.same_locate⟩
  case place =>
    intro other library hopen symbol s
    simp only [Resolver.ofLoader, resolveLibrary, hopen]

/-- A game with its extension. -/
def game : Files where
  cwd := []
  nodes := [([Text.Utf8.encode "game"], .directory),
    ([Text.Utf8.encode "game", Text.Utf8.encode "hlgodot.hdll"],
      .file (.library Rehearsal.extensionObject))]

theorem resolved_at_one_place_game :
    let image := Path.ofString "/game//main.hl/."
    let path := Path.ofString "/game/hlgodot.hdll"
    (Resolver.ofLoader (.ofFiles game) (.beside image) (return ())).resolve
        "hlgodot.hdll" "setup\x00" () =
      ⟨.returned (.ok ⟨"hlgodot.hdll", "setup\x00", .exported "setup", some path⟩),
        [.opened path, .log (loadedRecord path "setup\x00")], ()⟩ ∧
      (Resolver.ofLoader (.ofFiles game) (.beside image) (return ())).resolve
        "hlgodot.hdll" "setup_null" () =
      ⟨.returned (.error (.symbolNotFound "hlgodot.hdll" "setup_null")),
        [.opened path, .log (noSymbolRecord path "setup_null"), .closed path], ()⟩ ∧
      ((SearchDir.beside image).locate "hlgodot.hdll").same
        ((SearchDir.beside (.ofString "/game/main.hl")).locate "hlgodot.hdll") = true := by
  intro image path
  obtain ⟨-, -, hresolve, -, -, -, -, hsame⟩ :=
    resolved_at_one_place (τ := Unit) (Loader.links_ofFiles game) (.beside image)
      (return () : Quiet Note Unit Unit)
  have hplace : (SearchDir.beside image).locate "hlgodot.hdll" = path := by decide +kernel
  obtain ⟨opened, hopen⟩ : ∃ opened, (Loader.ofFiles game).openLibrary path = .ok opened := by
    have hopens : ((Loader.ofFiles game).openLibrary path).isOk = true := by decide +kernel
    cases hopen : (Loader.ofFiles game).openLibrary path with
    | error reason =>
      rw [hopen] at hopens
      cases hopens
    | ok opened => exact ⟨opened, rfl⟩
  refine ⟨?hook, ?null, hsame _ _ (by decide +kernel) "hlgodot.hdll"⟩
  case hook =>
    refine (hresolve "hlgodot.hdll" "setup\x00" () _).2 ⟨_, _, rfl, ?_⟩
    have hexport : Loader.exportsIn game path "setup" = some (.entry (.exported "setup")) := by
      decide +kernel
    rw [hplace]
    exact .hook hopen ⟨by decide, .inr rfl⟩ hexport
  case null =>
    refine (hresolve "hlgodot.hdll" "setup_null" () _).2 ⟨_, _, rfl, ?_⟩
    rw [hplace]
    refine .noSymbol hopen fun name hname => .inr ?_
    obtain ⟨-, rfl⟩ := Loader.symbolName_iff.1 hname
    decide +kernel

end Extension

end Launcher
