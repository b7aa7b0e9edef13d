import Launcher.Proofs.CommandLine.Environment
import Mathlib.Data.List.Basic

/-!
# Settings, one variable at a time

Every setting has a variable of its own, and what the variable is set to decides the setting: a
blank value, or none, leaves the default, and any other value is taken without its blank ends. No
other variable has a say. The settings come out trimmed, whatever went in, so that reading them back
from the variables that spell them gives the same settings.

- `Settings.setting`, `Variable.taken`: the setting of a variable, by default and from a text.
- `Settings.setting_ofLookup`: each setting depends on its own variable, up to blank ends.
- `Environment.texts`: an environment without the values that are no text.
- `Settings.one_by_one`: what each setting depends on, and on nothing else.
- `Variable.Restored`: a setting that comes back from the text that spells it.
- `Settings.round_trip`: settings come back from the variables that spell them.
-/

namespace Launcher

open Text (Blank Trimmed)

/-! ## One setting -/

/-- The word that spells a flag. -/
def Settings.flagWord (on : Bool) : String := if on then "1" else "0"

namespace Variable

/-- What the setting of a variable is. -/
def Setting : Variable → Type
  | .image => Path
  | .extension | .symbol | .runtime | .logLevel => String
  | .hotReload => Bool
  | .logDir => Option Path

/-- The setting that a text without blank ends gives. -/
def taken : (v : Variable) → String → v.Setting
  | .image, t => Path.ofString t
  | .extension, t | .symbol, t | .runtime, t | .logLevel, t => t
  | .hotReload, t => Settings.flag t
  | .logDir, t => some (Path.ofString t)

/-- The text that spells a setting, if there is anything to spell. -/
def spelled? : (v : Variable) → v.Setting → Option String
  | .image, path => some (Path.display path)
  | .extension, t | .symbol, t | .runtime, t | .logLevel, t => some t
  | .hotReload, on => some (Settings.flagWord on)
  | .logDir, dir => Option.map Path.display dir

theorem name_injective {v w : Variable} (h : v.name = w.name) : v = w := by
  revert h
  cases v <;> cases w <;> decide

end Variable

namespace Settings

variable {lookup lookup' : String → Option String} {v : Variable}

/-- The setting of a variable. -/
def setting (s : Settings) : (v : Variable) → v.Setting
  | .image => s.image
  | .extension => s.extension
  | .symbol => s.symbol
  | .runtime => s.runtime
  | .hotReload => s.hotReload
  | .logLevel => s.logLevel
  | .logDir => s.logDir

/-- Settings that agree on every variable are equal. -/
theorem ext_setting {a b : Settings} (h : ∀ v, a.setting v = b.setting v) : a = b := by
  obtain ⟨⟩ := a
  obtain ⟨⟩ := b
  rw [mk.injEq]
  exact ⟨h .image, h .extension, h .symbol, h .runtime, h .hotReload, h .logLevel, h .logDir⟩

theorem value?_eq (s : Settings) (v : Variable) : s.value? v = v.spelled? (s.setting v) := by
  cases v <;> rfl

/-- The setting of a variable is its own value, cleaned and taken, or the default. -/
theorem setting_ofLookup (lookup : String → Option String) (v : Variable) :
    (ofLookup lookup).setting v =
      (((lookup v.name).bind clean).map v.taken).getD (default.setting v) := by
  generalize hvalue : (lookup v.name).bind clean = value
  cases v <;> cases value <;> simp only [setting, ofLookup, hvalue] <;> rfl

/-! ## What a value counts for -/

theorem clean_of_blank {raw : String} (h : Blank raw) : clean raw = none :=
  clean_eq_none.2 (Text.trim_of_blank h)

theorem clean_between {before t after : String} (hbefore : Blank before) (ht : Trimmed t)
    (hafter : Blank after) : clean (before ++ t ++ after) = some t :=
  clean_eq_some.2 ⟨Text.trim_between hbefore ht hafter, ht.nonempty⟩

/-- A value that is taken is trimmed. -/
theorem trimmed_of_clean {raw t : String} (h : clean raw = some t) : Trimmed t := by
  obtain ⟨rfl, hne⟩ := clean_eq_some.1 h
  exact Text.trimmed_trim hne

theorem clean_of_trimmed {t : String} (ht : Trimmed t) : clean t = some t :=
  clean_eq_some.2 ⟨ht.trim_eq, ht.nonempty⟩

theorem clean_congr {raw raw' : String} (h : Text.trim raw = Text.trim raw') :
    clean raw = clean raw' := by
  unfold clean
  rw [h]

/-- Values that trimming makes equal count for the same. -/
theorem bind_clean_congr {raw raw' : Option String} (h : raw.map Text.trim = raw'.map Text.trim) :
    raw.bind clean = raw'.bind clean := by
  cases raw with
  | none =>
    cases raw' with
    | none => rfl
    | some raw' => cases h
  | some raw =>
    cases raw' with
    | none => cases h
    | some raw' =>
      rw [Option.map_some, Option.map_some, Option.some_inj] at h
      rw [Option.bind_some, Option.bind_some, clean_congr h]

/-- Four words turn a flag on, in capitals or not. -/
theorem flag_iff {t : String} : flag t = true ↔
    ∃ word ∈ ["1", "true", "yes", "on"], t.toList.map Char.toLower = word.toList := by
  rw [flag, List.contains_iff_mem]
  constructor
  · intro hmem
    exact ⟨_, hmem, String.toList_ofList.symm⟩
  · rintro ⟨word, hmem, hsame⟩
    rwa [Text.asciiLower, hsame, String.ofList_toList]

/-- A lookup in which one key has another value, or none. -/
def revised (lookup : String → Option String) (key : String) (value : Option String) :
    String → Option String :=
  fun name => if name = key then value else lookup name

/-- Variables that count for the same give the same setting. -/
theorem setting_congr (h : (lookup v.name).bind clean = (lookup' v.name).bind clean) :
    (ofLookup lookup).setting v = (ofLookup lookup').setting v := by
  rw [setting_ofLookup, setting_ofLookup, h]

theorem setting_revised {key : String} (h : v.name ≠ key) (value : Option String) :
    (ofLookup (revised lookup key value)).setting v = (ofLookup lookup).setting v := by
  refine setting_congr ?_
  rw [revised, if_neg h]

end Settings

/-! ## Values that are no text -/

namespace Environment

/-- The variables whose value is well-formed text, with that text. -/
def texts (env : Environment) : List (String × String) :=
  env.filterMap fun entry => (env.text? entry.1).map fun text => (entry.1, text)

theorem value?_cons (entry : String × List UInt8) (env : Environment) (name : String) :
    value? (entry :: env) name = if entry.1 = name then some entry.2 else value? env name := by
  unfold value?
  by_cases h : entry.1 = name
  · rw [if_pos h, List.find?_cons_of_pos (by simp [h])]
    rfl
  · rw [if_neg h, List.find?_cons_of_neg (by simp [h])]

theorem value?_eq_lookup (env : Environment) (name : String) :
    env.value? name = env.lookup name := by
  induction env with
  | nil => rfl
  | cons entry rest ih =>
    rw [value?_cons, List.lookup_cons, ih]
    by_cases h : entry.1 = name
    · rw [if_pos h, beq_iff_eq.2 h.symm]
    · rw [if_neg h, beq_eq_false_iff_ne.2 (Ne.symm h)]

/-- Looking a name up among entries that are made of keys. The keys of that name all make an entry
with one value, or none of them makes any. -/
theorem lookup_filterMap {κ β : Type} {key : κ → String} {make : κ → Option β} {name : String}
    {value : Option β} (h : ∀ k, key k = name → make k = value) (ks : List κ) :
    (ks.filterMap fun k => (make k).map fun b => (key k, b)).lookup name =
      if name ∈ ks.map key then value else none := by
  induction ks with
  | nil => rfl
  | cons k rest ih =>
    by_cases hname : key k = name
    · rw [if_pos (by simp [hname])]
      cases value with
      | none =>
        -- no entry of that name is made, here or further on
        rw [List.filterMap_cons_none (by rw [h k hname]; rfl), ih]
        exact ite_self none
      | some b =>
        rw [List.filterMap_cons_some (by rw [h k hname]; rfl), hname, List.lookup_cons_self]
    · have hmem : name ∈ (k :: rest).map key ↔ name ∈ rest.map key := by
        rw [List.map_cons, List.mem_cons]
        exact or_iff_right (Ne.symm hname)
      simp only [hmem, ← ih]
      cases hmade : make k with
      | none => rw [List.filterMap_cons_none (by rw [hmade]; rfl)]
      | some b =>
        rw [List.filterMap_cons_some (by rw [hmade]; rfl), List.lookup_cons,
          beq_eq_false_iff_ne.2 (Ne.symm hname)]

theorem lookup_texts (env : Environment) (name : String) :
    env.texts.lookup name = env.text? name := by
  have hmade : ∀ entry : String × List UInt8, entry.1 = name →
      env.text? entry.1 = env.text? name := by
    rintro entry rfl
    rfl
  rw [texts, lookup_filterMap hmade env]
  by_cases hmem : name ∈ env.map Prod.fst
  · exact if_pos hmem
  · have hnone : env.lookup name = none := by
      rw [List.lookup_eq_none_iff]
      intro entry hentry
      refine bne_iff_ne.2 ?_
      rintro rfl
      exact hmem (List.mem_map_of_mem hentry)
    rw [text?, value?_eq_lookup, hnone]
    exact if_neg hmem

/-- In an environment that has no name twice, a value is the value of its name. -/
theorem value?_of_mem {env : Environment} (h : (env.map Prod.fst).Nodup)
    {entry : String × List UInt8} (hmem : entry ∈ env) : env.value? entry.1 = some entry.2 := by
  induction env with
  | nil => cases hmem
  | cons first rest ih =>
    rw [List.map_cons, List.nodup_cons] at h
    rw [value?_cons]
    rcases List.mem_cons.1 hmem with rfl | hmem
    · exact if_pos rfl
    · have hname : first.1 ≠ entry.1 := by
        intro heq
        rw [heq] at h
        exact h.1 (List.mem_map_of_mem hmem)
      rw [if_neg hname]
      exact ih h.2 hmem

theorem texts_of_nodup {env : Environment} (h : (env.map Prod.fst).Nodup) :
    env.texts =
      env.filterMap fun entry => (Text.Utf8.decode? entry.2).map fun text => (entry.1, text) := by
  unfold texts
  refine List.filterMap_congr fun entry hmem => ?_
  rw [text?, value?_of_mem h hmem, Option.bind_some]

end Environment

namespace Settings

/-- Every setting is decided by its own variable. The default stands if that is missing or blank;
otherwise the text between the blank ends is taken. Nothing else makes a difference: not the blank
ends, not another variable, and not a value that is no text. -/
theorem one_by_one (lookup : String → Option String) :
    (∀ v, (∀ raw, lookup v.name = some raw → Blank raw) →
      (ofLookup lookup).setting v = default.setting v) ∧
    (∀ v before t after, Blank before → Trimmed t → Blank after →
      lookup v.name = some (before ++ t ++ after) →
      (ofLookup lookup).setting v = v.taken t) ∧
    (∀ raw, Blank raw ∨ ∃ before t after, Blank before ∧ Trimmed t ∧ Blank after ∧
      raw = before ++ t ++ after) ∧
    (∀ c, Text.isBlank c = true ↔ c.toNat ∈ Text.whiteSpace) ∧
    (∀ t, flag t = true ↔
      ∃ word ∈ ["1", "true", "yes", "on"], t.toList.map Char.toLower = word.toList) ∧
    (∀ lookup' v, (lookup v.name).map Text.trim = (lookup' v.name).map Text.trim →
      (ofLookup lookup).setting v = (ofLookup lookup').setting v) ∧
    (∀ lookup', (∀ v : Variable, (lookup v.name).map Text.trim = (lookup' v.name).map Text.trim) →
      ofLookup lookup = ofLookup lookup') ∧
    (∀ (v w : Variable) value, w ≠ v →
      (ofLookup (revised lookup v.name value)).setting w = (ofLookup lookup).setting w) ∧
    (∀ key value, (∀ v : Variable, v.name ≠ key) →
      ofLookup (revised lookup key value) = ofLookup lookup) ∧
    ∀ env : Environment, ofEnvironment env = ofLookup (fun name => env.texts.lookup name) ∧
      ((env.map Prod.fst).Nodup → env.texts =
        env.filterMap fun entry =>
          (Text.Utf8.decode? entry.2).map fun text => (entry.1, text)) := by
  refine ⟨?blank, ?between, Text.blank_or_between, fun c => Text.isBlank_iff, fun t => flag_iff,
    ?own, ?alike, ?other, ?unknown, fun env => ⟨?texts, Environment.texts_of_nodup⟩⟩
  case blank =>
    intro v hblank
    have hnone : (lookup v.name).bind clean = none := by
      cases hraw : lookup v.name with
      | none => rfl
      | some raw => rw [Option.bind_some, clean_of_blank (hblank raw hraw)]
    rw [setting_ofLookup, hnone]
    rfl
  case between =>
    intro v before t after hbefore ht hafter hraw
    rw [setting_ofLookup, hraw, Option.bind_some, clean_between hbefore ht hafter]
    rfl
  case own =>
    intro lookup' v hsame
    exact setting_congr (bind_clean_congr hsame)
  case alike =>
    intro lookup' hsame
    exact ext_setting fun v => setting_congr (bind_clean_congr (hsame v))
  case other =>
    intro v w value hne
    exact setting_revised (mt Variable.name_injective hne) value
  case unknown =>
    intro key value hkey
    exact ext_setting fun v => setting_revised (hkey v) value
  case texts =>
    unfold ofEnvironment
    congr 1
    funext name
    exact (Environment.lookup_texts env name).symm

/-- A flag is turned on in capitals between blanks, and no other setting is changed. -/
theorem one_by_one_capitals :
    ofLookup (revised (fun _ => none) "HLBOOT_HOT_RELOAD" (some "\tTRUE\n")) =
      { default with hotReload := true } := by
  obtain ⟨hblank, hbetween, -, -, hflag, -⟩ :=
    one_by_one (revised (fun _ => none) "HLBOOT_HOT_RELOAD" (some "\tTRUE\n"))
  have htab : Blank "\t" := List.forall_mem_singleton.2 rfl
  have hbreak : Blank "\n" := List.forall_mem_singleton.2 rfl
  have htrimmed : Trimmed "TRUE" := trimmed_of_clean (show clean "TRUE" = some "TRUE" by decide)
  have hon : flag "TRUE" = true := (hflag "TRUE").2 ⟨"true", by simp, by decide⟩
  refine ext_setting fun v => ?_
  cases v with
  | hotReload =>
    exact (hbetween .hotReload "\t" "TRUE" "\n" htab htrimmed hbreak rfl).trans hon
  | image => exact hblank .image nofun
  | extension => exact hblank .extension nofun
  | symbol => exact hblank .symbol nofun
  | runtime => exact hblank .runtime nofun
  | logLevel => exact hblank .logLevel nofun
  | logDir => exact hblank .logDir nofun

end Settings

/-! ## Reading settings back -/

/-- A setting that comes back from the text that spells it, which is trimmed, or that is the default
and has nothing to spell. -/
def Variable.Restored (v : Variable) (x : v.Setting) : Prop :=
  match v.spelled? x with
  | some t => Trimmed t ∧ v.taken t = x
  | none => Settings.default.setting v = x

theorem Path.display_ofString (t : String) : (Path.ofString t).display = t :=
  Text.Utf8.decode_encode t

namespace Settings

/-- The word that spells a flag gives it back. -/
theorem restored_flag (on : Bool) : Variable.hotReload.Restored on := by
  have hword : ∀ on, clean (flagWord on) = some (flagWord on) ∧ flag (flagWord on) = on := by decide
  exact ⟨trimmed_of_clean (hword on).1, (hword on).2⟩

/-- What is taken from a trimmed text comes back. -/
theorem restored_taken (v : Variable) {t : String} (ht : Trimmed t) : v.Restored (v.taken t) := by
  have hdisplay := Path.display_ofString t
  cases v with
  | extension | symbol | runtime | logLevel => exact ⟨ht, rfl⟩
  | hotReload => exact restored_flag (flag t)
  | image =>
    show Trimmed (Path.ofString t).display ∧
      Path.ofString (Path.ofString t).display = Path.ofString t
    rw [hdisplay]
    exact ⟨ht, rfl⟩
  | logDir =>
    show Trimmed (Path.ofString t).display ∧
      some (Path.ofString (Path.ofString t).display) = some (Path.ofString t)
    rw [hdisplay]
    exact ⟨ht, rfl⟩

/-- So does every default. -/
theorem restored_default (v : Variable) : v.Restored (default.setting v) := by
  have hclean : ∀ t, clean t = some t → v.Restored (v.taken t) := fun t ht =>
    restored_taken v (trimmed_of_clean ht)
  cases v with
  | image => exact hclean defaultImage (by decide)
  | extension => exact hclean defaultExtension (by decide)
  | symbol => exact hclean defaultSymbol (by decide)
  | runtime => exact hclean defaultRuntime (by decide)
  | hotReload => exact restored_flag false
  | logLevel => exact hclean defaultLogLevel (by decide)
  | logDir => rfl

theorem restored_ofLookup (lookup : String → Option String) (v : Variable) :
    v.Restored ((ofLookup lookup).setting v) := by
  rw [setting_ofLookup]
  cases hraw : (lookup v.name).bind clean with
  | none => exact restored_default v
  | some t =>
    obtain ⟨raw, -, hclean⟩ := Option.bind_eq_some_iff.1 hraw
    exact restored_taken v (trimmed_of_clean hclean)

theorem toLookup_name (s : Settings) (v : Variable) : s.toLookup v.name = s.value? v := by
  cases v <;> rfl

/-- Settings that come back one by one come back from the variables that spell them. -/
theorem ofLookup_of_restored {s : Settings} (h : ∀ v : Variable, v.Restored (s.setting v))
    (hlookup : ∀ v : Variable, lookup v.name = s.value? v) : ofLookup lookup = s := by
  refine ext_setting fun v => ?_
  rw [setting_ofLookup, hlookup, value?_eq]
  have hv := h v
  unfold Variable.Restored at hv
  cases hspelled : v.spelled? (s.setting v) with
  | none =>
    rw [hspelled] at hv
    exact hv
  | some t =>
    rw [hspelled] at hv
    rw [Option.bind_some, clean_of_trimmed hv.1]
    exact hv.2

/-- The environment that hands settings on. -/
def toEnvironment (s : Settings) : Environment :=
  allVariables.filterMap fun v => (s.value? v).map fun t => (v.name, Text.Utf8.encode t)

theorem spells_toEnvironment (s : Settings) : s.toEnvironment.Spells s.value? := by
  intro v
  have hmem : v.name ∈ allVariables.map Variable.name :=
    List.mem_map_of_mem (Arguments.mem_allVariables v)
  have hmade : ∀ w : Variable, w.name = v.name →
      (s.value? w).map Text.Utf8.encode = (s.value? v).map Text.Utf8.encode := by
    intro w hname
    rw [Variable.name_injective hname]
  have hvalue := Environment.lookup_filterMap hmade allVariables
  rw [if_pos hmem] at hvalue
  rw [Environment.value?_eq_lookup, toEnvironment, ← hvalue]
  simp only [Option.map_map, Function.comp_def]

/-- Settings that a lookup gave come back from the variables that spell them, whether those are
looked up or in an environment, and everything that is spelled is trimmed. No others come back but
those that could have been given. -/
theorem round_trip (lookup : String → Option String) :
    ofLookup (ofLookup lookup).toLookup = ofLookup lookup ∧
    ofEnvironment (ofLookup lookup).toEnvironment = ofLookup lookup ∧
    (∀ env : Environment, env.Spells (ofLookup lookup).value? →
      ofEnvironment env = ofLookup lookup) ∧
    (∀ v t, (ofLookup lookup).value? v = some t → Trimmed t) ∧
    ∀ s : Settings, ofLookup s.toLookup = s ↔ ∀ v : Variable, v.Restored (s.setting v) := by
  have hrestored := restored_ofLookup lookup
  have henv : ∀ env : Environment, env.Spells (ofLookup lookup).value? →
      ofEnvironment env = ofLookup lookup := fun env hspells =>
    ofLookup_of_restored hrestored (Environment.text?_of_spells hspells)
  refine ⟨?lookup, henv _ (spells_toEnvironment _), henv, ?trimmed, fun s => ⟨?given, ?back⟩⟩
  case lookup => exact ofLookup_of_restored hrestored (toLookup_name _)
  case trimmed =>
    intro v t hspelled
    have hv := hrestored v
    rw [value?_eq] at hspelled
    rw [Variable.Restored, hspelled] at hv
    exact hv.1
  case given =>
    intro hback v
    rw [← hback]
    exact restored_ofLookup s.toLookup v
  case back =>
    intro hs
    exact ofLookup_of_restored hs (toLookup_name s)

end Settings

end Launcher
