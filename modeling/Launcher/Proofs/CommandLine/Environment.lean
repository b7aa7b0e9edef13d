import Launcher.CommandLine
import Launcher.Proofs.Act
import Launcher.Proofs.Path
import Launcher.Proofs.Text.Blank

/-!
# Two readers of one environment

The host's initializer and the command line take their settings from the same seven variables. The
initializer drops the blank ends of a value, ignores a value that is blank, and knows four words that
turn a flag on. The command line takes every value as it is: it refuses an empty path and any flag
but `true` and `false`, and keeps blanks. So the two agree just on values that have neither blank
ends nor another word for a flag.

- `Arguments.fromEnvironment_ok`: what reading the variables one after another comes to.
- `Arguments.parse_of_spells`, `Settings.ofEnvironment_of_spells`: the two readers, on the same values.
- `Arguments.parse_same_iff`: when they agree.
-/

namespace Launcher

/-! ## Settings by values -/

namespace Settings

/-- The settings that values come to, taken as they are. -/
def ofValues (values : Variable → Option String) : Settings where
  image := ((values .image).map Path.ofString).getD default.image
  extension := (values .extension).getD default.extension
  symbol := (values .symbol).getD default.symbol
  runtime := (values .runtime).getD default.runtime
  hotReload := ((values .hotReload).map flag).getD default.hotReload
  logLevel := (values .logLevel).getD default.logLevel
  logDir := (values .logDir).map Path.ofString

/-- Values without their blank ends; those that are blank are missing. -/
def cleaned (values : Variable → Option String) (v : Variable) : Option String :=
  (values v).bind clean

/-- Equal settings agree in every part. -/
theorem same_iff {a b : Settings} : a.same b = true ↔
    a.image.same b.image = true ∧ a.extension = b.extension ∧ a.symbol = b.symbol ∧
      a.runtime = b.runtime ∧ a.hotReload = b.hotReload ∧ a.logLevel = b.logLevel ∧
        (a.logDir = none ∧ b.logDir = none ∨
          ∃ p q, a.logDir = some p ∧ b.logDir = some q ∧ p.same q = true) := by
  unfold same
  cases a.logDir <;> cases b.logDir <;> simp [and_assoc]

@[simp] theorem same_refl (a : Settings) : a.same a = true := by
  unfold same
  cases a.logDir <;> simp

theorem clean_eq_none {t : String} : clean t = none ↔ Text.trim t = "" := by
  simp [clean]

theorem clean_eq_some {t u : String} : clean t = some u ↔ Text.trim t = u ∧ u ≠ "" := by
  grind [clean, String.isEmpty_iff]

end Settings

/-! ## What trimming does to a path -/

/-- A blank character is neither a slash nor a dot. -/
theorem Text.isLetterChar_of_isBlank {c : Char} (h : Text.isBlank c = true) :
    Path.isLetterChar c = true := by
  have hslash : c ≠ '/' := by
    rintro rfl
    exact absurd h (by decide)
  have hdot : c ≠ '.' := by
    rintro rfl
    exact absurd h (by decide)
  simp [Path.isLetterChar, hslash, hdot]

theorem Text.filter_isLetterChar_of_isBlank {cs : List Char} (h : ∀ c ∈ cs, Text.isBlank c = true) :
    cs.filter Path.isLetterChar = cs :=
  List.filter_eq_self.2 fun c hc => Text.isLetterChar_of_isBlank (h c hc)

/-- Blank ends are part of a path. -/
theorem Path.trim_of_same {t : String}
    (h : (Path.ofString t).same (Path.ofString (Text.trim t)) = true) : Text.trim t = t := by
  have htrim : (Text.trim t).toList = Text.trimList t.toList := String.toList_ofList
  have hletters := Path.filter_toList_of_same h
  obtain ⟨before, after, hparts, hbefore, hafter⟩ := Text.trimList_between t.toList
  rw [htrim] at hletters
  generalize Text.trimList t.toList = inner at htrim hletters hparts
  rw [hparts, List.filter_append, List.filter_append, Text.filter_isLetterChar_of_isBlank hbefore,
    Text.filter_isLetterChar_of_isBlank hafter] at hletters
  -- the blank ends are letters that only one of the two has, so there are none
  have hlength := congrArg List.length hletters
  simp only [List.length_append] at hlength
  have hbefore' : before = [] := List.length_eq_zero_iff.1 (by omega)
  have hafter' : after = [] := List.length_eq_zero_iff.1 (by omega)
  rw [← String.toList_inj, htrim, hparts, hbefore', hafter', List.nil_append, List.append_nil]

/-- A blank path is not one that has a letter other than blanks. -/
theorem Path.not_same_of_blank {t u : String} (hblank : Text.trim t = "")
    (hletter : ∃ c ∈ u.toList.filter Path.isLetterChar, Text.isBlank c = false) :
    (Path.ofString t).same (Path.ofString u) = false := by
  obtain ⟨c, hc, hother⟩ := hletter
  refine Bool.eq_false_iff.2 fun h => ?_
  obtain ⟨before, after, hparts, hbefore, hafter⟩ := Text.trimList_between t.toList
  have hinner : Text.trimList t.toList = [] := by
    rw [← String.toList_ofList (l := Text.trimList t.toList)]
    exact congrArg String.toList hblank
  rw [← Path.filter_toList_of_same h, hparts, hinner, List.append_nil] at hc
  rcases List.mem_append.1 (List.mem_filter.1 hc).1 with hmem | hmem
  · rw [hbefore c hmem] at hother
    cases hother
  · rw [hafter c hmem] at hother
    cases hother

namespace Settings

/-! ## When cleaning makes a difference -/

/-- A text that is set in place of another makes a difference unless it is clean. -/
theorem clean_of_getD {t other : String} (hother : clean other = some other)
    (h : t = (clean t).getD other) : clean t = some t := by
  cases hclean : clean t with
  | none =>
    rw [hclean, Option.getD_none] at h
    rw [h, hother] at hclean
    cases hclean
  | some u =>
    rw [hclean, Option.getD_some] at h
    rw [h]

/-- So does a path. -/
theorem clean_of_same {t u : String} (hclean : clean t = some u)
    (h : (Path.ofString t).same (Path.ofString u) = true) : clean t = some t := by
  obtain ⟨rfl, -⟩ := clean_eq_some.1 hclean
  rw [hclean, Path.trim_of_same h]

/-- Settings that stay equal when the values are cleaned come from clean values. -/
theorem clean_of_same_cleaned {values : Variable → Option String}
    (h : (ofValues values).same (ofValues (cleaned values)) = true) {v : Variable} {t : String}
    (hv : v ≠ .hotReload) (ht : values v = some t) : clean t = some t := by
  obtain ⟨himage, hextension, hsymbol, hruntime, -, hlevel, hdir⟩ := same_iff.1 h
  cases v with
  | hotReload => exact absurd rfl hv
  | image =>
    cases hclean : clean t with
    | none =>
      -- a blank image would be cleaned away, and no blank path equals the default one
      have hother : (Path.ofString t).same default.image = false :=
        Path.not_same_of_blank (clean_eq_none.1 hclean) ⟨'m', by decide, by decide⟩
      simp only [ofValues, cleaned, ht, Option.map_some, Option.getD_some, Option.bind_some, hclean,
        Option.map_none, Option.getD_none] at himage
      rw [hother] at himage
      cases himage
    | some u =>
      simp only [ofValues, cleaned, ht, Option.map_some, Option.getD_some, Option.bind_some, hclean]
        at himage
      rw [← hclean, clean_of_same hclean himage]
  | extension =>
    simp only [ofValues, cleaned, ht, Option.getD_some, Option.bind_some] at hextension
    exact clean_of_getD (by decide) hextension
  | symbol =>
    simp only [ofValues, cleaned, ht, Option.getD_some, Option.bind_some] at hsymbol
    exact clean_of_getD (by decide) hsymbol
  | runtime =>
    simp only [ofValues, cleaned, ht, Option.getD_some, Option.bind_some] at hruntime
    exact clean_of_getD (by decide) hruntime
  | logLevel =>
    simp only [ofValues, cleaned, ht, Option.getD_some, Option.bind_some] at hlevel
    exact clean_of_getD (by decide) hlevel
  | logDir =>
    simp only [ofValues, cleaned, ht, Option.map_some, Option.bind_some] at hdir
    -- the directory has no default to fall back to, so a blank one would be lost
    obtain ⟨⟨⟩, -⟩ | ⟨_, _, ⟨⟩, hq, hsame⟩ := hdir
    obtain ⟨u, hclean, rfl⟩ := Option.map_eq_some_iff.1 hq
    exact clean_of_same hclean hsame

end Settings

/-! ## The environment -/

/-- An environment that gives the variables some texts, and perhaps others besides. -/
def Environment.Spells (env : Environment) (values : Variable → Option String) : Prop :=
  ∀ v : Variable, env.value? v.name = (values v).map Text.Utf8.encode

theorem Environment.text?_of_spells {env : Environment} {values : Variable → Option String}
    (h : env.Spells values) (v : Variable) : env.text? v.name = values v := by
  rw [Environment.text?, h v]
  cases values v <;> simp

/-- The host's initializer takes cleaned values. -/
theorem Settings.ofEnvironment_of_spells {env : Environment} {values : Variable → Option String}
    (h : env.Spells values) : Settings.ofEnvironment env = Settings.ofValues (Settings.cleaned values) := by
  simp only [ofEnvironment, ofLookup, ofValues, cleaned, Environment.text?_of_spells h]

namespace Arguments

/-! ## Reading one value -/

/-- The values that the command line can read. -/
def Readable : Variable → String → Prop
  | .image, t | .logDir, t => t ≠ ""
  | .hotReload, t => t = "true" ∨ t = "false"
  | _, _ => True

/-- What it reads. -/
def valueOf : Variable → String → Value
  | .image, t | .logDir, t => .path (Path.ofString t)
  | .hotReload, t => .flag (Settings.flag t)
  | _, t => .text t

/-- Octets that spell a readable value are read as that value, others are refused. -/
theorem readValue_encode {v : Variable} {t : String} {value : Value} :
    readValue v (Text.Utf8.encode t) = .ok value ↔ Readable v t ∧ valueOf v t = value := by
  have hempty : (Text.Utf8.encode t).isEmpty = true ↔ t = "" := by
    rw [List.isEmpty_iff]
    exact ⟨fun h => Text.Utf8.encode_injective h, fun h => h ▸ rfl⟩
  -- octets are compared, and encoding loses nothing of a text
  have hword : ∀ word, Text.Utf8.encode t = Text.Utf8.encode word ↔ t = word := fun word =>
    ⟨Text.Utf8.encode_injective, fun h => h ▸ rfl⟩
  have htrue : Settings.flag "true" = true := by decide
  have hfalse : Settings.flag "false" = false := by decide
  cases v with
  | image | logDir =>
    simp only [readValue, Readable, valueOf, hempty]
    by_cases h : t = "" <;> simp [h, Path.ofString]
  | hotReload =>
    simp only [readValue, Readable, valueOf, hempty, hword]
    by_cases hon : t = "true"
    · simp [hon, htrue]
    by_cases hoff : t = "false"
    · simp [hoff, hfalse]
    · by_cases h : t = "" <;> simp [h, hon, hoff]
  | _ => simp [readValue, Readable, valueOf]

/-! ## Reading the variables -/

/-- What reading a variable comes to, if it can be read. -/
def accepted? (env : Environment) (v : Variable) : Option Value :=
  (env.value? v.name).bind fun bytes => (readValue v bytes).toOption

theorem State.value?_snoc (s : State) (v w : Variable) (value : Value) :
    State.value? { s with given := s.given ++ [(v, value)] } w =
      (s.value? w).or (if v = w then some value else none) := by
  unfold State.value?
  rw [List.find?_append]
  cases s.given.find? fun g => g.1 == w with
  | some g => rfl
  | none => by_cases h : v = w <;> simp [h]

/-- What is known after some variables have been read: what was known before, and what each open one
of them gives. -/
structure State.Reads (env : Environment) (vs : List Variable) (s s' : State) : Prop where
  value : ∀ v, s'.value? v = (s.value? v).or (if v ∈ vs then accepted? env v else none)
  readable : ∀ v ∈ vs, s.value? v = none → ∀ bytes, env.value? v.name = some bytes →
    ∃ value, readValue v bytes = .ok value

/-- A variable that gives nothing new may be passed over. -/
theorem State.Reads.skip {env : Environment} {v : Variable} {vs : List Variable} {s s' : State}
    (hskip : s.value? v = none → env.value? v.name = none) (h : Reads env vs s s') :
    Reads env (v :: vs) s s' where
  value w := by
    rw [h.value w]
    by_cases hw : w = v
    · subst hw
      cases hknown : s.value? w with
      | some value => simp
      | none => simp [accepted?, hskip hknown]
    · simp [hw]
  readable w hw hopen bytes hbytes := by
    rcases List.mem_cons.1 hw with rfl | hw
    · rw [hskip hopen] at hbytes
      cases hbytes
    · exact h.readable w hw hopen bytes hbytes

/-- A variable that is open is taken in. -/
theorem State.Reads.take {env : Environment} {v : Variable} {vs : List Variable} {s s' : State}
    {bytes : List UInt8} {value : Value} (hopen : s.value? v = none)
    (hbytes : env.value? v.name = some bytes) (hread : readValue v bytes = .ok value)
    (h : Reads env vs { s with given := s.given ++ [(v, value)] } s') :
    Reads env (v :: vs) s s' where
  value w := by
    rw [h.value w, State.value?_snoc]
    by_cases hw : w = v
    · subst hw
      simp [hopen, accepted?, hbytes, hread, Except.toOption]
    · simp [hw, Ne.symm hw]
  readable w hw hopen' bytes' hbytes' := by
    by_cases heq : w = v
    · subst heq
      rw [hbytes] at hbytes'
      cases hbytes'
      exact ⟨value, hread⟩
    · refine h.readable w ((List.mem_cons.1 hw).resolve_left heq) ?_ bytes' hbytes'
      rw [State.value?_snoc, hopen', if_neg (Ne.symm heq)]
      rfl

/-- Reading variables one after another gets through, unless one of them cannot be read. -/
theorem fromEnvironment_cases (env : Environment) (vs : List Variable) (s : State) :
    (∃ s', fromEnvironment env vs s = .ok s' ∧ State.Reads env vs s s') ∨
      ∃ v ∈ vs, ∃ bytes e, env.value? v.name = some bytes ∧ readValue v bytes = .error e ∧
        fromEnvironment env vs s = .error (.usage e) := by
  induction vs generalizing s with
  | nil => exact .inl ⟨s, rfl, fun v => by simp, nofun⟩
  | cons v rest ih =>
    -- a variable is read only if it is still open and the environment has it
    by_cases hskip : s.value? v = none → env.value? v.name = none
    · have hpass : fromEnvironment env (v :: rest) s = fromEnvironment env rest s := by
        rw [fromEnvironment]
        split
        · rename_i bytes hopen hbytes
          rw [hskip hopen] at hbytes
          cases hbytes
        · rfl
      rw [hpass]
      rcases ih s with ⟨s', hs', hreads⟩ | ⟨w, hw, hfails⟩
      · exact .inl ⟨s', hs', hreads.skip hskip⟩
      · exact .inr ⟨w, List.mem_cons_of_mem v hw, hfails⟩
    · obtain ⟨hopen, hset⟩ := Classical.not_imp.1 hskip
      obtain ⟨bytes, hbytes⟩ := Option.ne_none_iff_exists'.1 hset
      rw [fromEnvironment, hopen, hbytes]
      cases hread : readValue v bytes with
      | error e =>
        exact .inr ⟨v, List.mem_cons_self, bytes, e, hbytes, hread,
          by simp [State.take, hopen, hread, bind, Except.bind]⟩
      | ok value =>
        have htake : s.take v (some bytes) = .ok { s with given := s.given ++ [(v, value)] } := by
          simp [State.take, hopen, hread]
        simp only [htake, bind, Except.bind]
        rcases ih { s with given := s.given ++ [(v, value)] } with
          ⟨s', hs', hreads⟩ | ⟨w, hw, hfails⟩
        · exact .inl ⟨s', hs', hreads.take hopen hbytes hread⟩
        · exact .inr ⟨w, List.mem_cons_of_mem v hw, hfails⟩

theorem mem_allVariables (v : Variable) : v ∈ Settings.allVariables := by
  cases v <;> decide

/-- Values that are known by what they spell come to the settings that they spell. -/
theorem State.settings_of_values {s : State} {values : Variable → Option String}
    (h : ∀ v, s.value? v = (values v).map (valueOf v)) : s.settings = Settings.ofValues values := by
  simp only [State.settings, Settings.ofValues, h, Settings.mk.injEq]
  refine ⟨?image, ?extension, ?symbol, ?runtime, ?hotReload, ?logLevel, ?logDir⟩
  case image => cases values .image <;> rfl
  case extension => cases values .extension <;> rfl
  case symbol => cases values .symbol <;> rfl
  case runtime => cases values .runtime <;> rfl
  case hotReload =>
    cases values .hotReload with
    | none => rfl
    | some t => cases hon : Settings.flag t <;> simp [valueOf, hon]
  case logLevel => cases values .logLevel <;> rfl
  case logDir => cases values .logDir <;> rfl

/-- Without arguments, the command line takes values as they are if it can read them all, and refuses
to do anything otherwise. -/
theorem parse_of_spells {env : Environment} {values : Variable → Option String}
    (h : env.Spells values) :
    ((∀ v t, values v = some t → Readable v t) ∧ parse [] env = .ok (Settings.ofValues values)) ∨
      ∃ v t e, values v = some t ∧ ¬ Readable v t ∧ parse [] env = .error (.usage e) := by
  have hparse : parse [] env =
      (fromEnvironment env Settings.allVariables ⟨[], none⟩).map State.settings := by
    show Except.bind _ _ = _
    cases fromEnvironment env Settings.allVariables ⟨[], none⟩ <;> rfl
  rw [hparse]
  -- every variable is open at first, so all of them are read, up to one that cannot be
  rcases fromEnvironment_cases env Settings.allVariables ⟨[], none⟩ with
    ⟨s, hs, hreads⟩ | ⟨v, -, bytes, e, hbytes, hread, hs⟩
  · have hreadable : ∀ v t, values v = some t → Readable v t := by
      intro v t ht
      obtain ⟨value, hvalue⟩ := hreads.readable v (mem_allVariables v) rfl (Text.Utf8.encode t)
        (by rw [h v, ht, Option.map_some])
      exact (readValue_encode.1 hvalue).1
    have hvalues : ∀ v, s.value? v = (values v).map (valueOf v) := by
      intro v
      rw [hreads.value v, if_pos (mem_allVariables v), accepted?, h v]
      cases ht : values v with
      | none => rfl
      | some t =>
        simp [State.value?, readValue_encode.2 ⟨hreadable v t ht, rfl⟩, Except.toOption]
    exact .inl ⟨hreadable, by rw [hs, ← State.settings_of_values hvalues]; rfl⟩
  · rw [h v] at hbytes
    obtain ⟨t, ht, rfl⟩ := Option.map_eq_some_iff.1 hbytes
    refine .inr ⟨v, t, e, ht, fun hreadable => ?_, by rw [hs]; rfl⟩
    rw [readValue_encode.2 ⟨hreadable, rfl⟩] at hread
    cases hread

end Arguments

namespace CommandLine

variable {τ : Type} {args : List (List UInt8)} {p : Installation τ}

/-- Arguments that can be used are. -/
theorem run_ok (partners : Installation.Partners τ) {s : Settings}
    (h : Arguments.parse args p.environment = .ok s) :
    run partners args p = runSettings partners s p := by
  simp [run, h]

/-- Arguments that cannot be used are told about, and nothing is launched. -/
theorem run_usage (partners : Installation.Partners τ) {e : UsageError}
    (h : Arguments.parse args p.environment = .error (.usage e)) :
    run partners args p = (.usage, [.print .error (e.message ++ "\n")], p) := by
  simp [run, h, Installation.print]

end CommandLine

namespace Arguments

/-! ## When the two readers agree -/

/-- The values that both readers take as they are: a flag is `true` or `false`, and anything else has
no blank ends and is not empty. -/
def Plain : Variable → String → Prop
  | .hotReload, t => t = "true" ∨ t = "false"
  | _, t => Settings.clean t = some t

theorem clean_of_plain {v : Variable} {t : String} (h : Plain v t) : Settings.clean t = some t := by
  cases v with
  | hotReload =>
    rcases h with rfl | rfl <;> decide
  | _ => exact h

theorem readable_of_plain {v : Variable} {t : String} (h : Plain v t) : Readable v t := by
  have hne : t ≠ "" := (Settings.clean_eq_some.1 (clean_of_plain h)).2
  cases v with
  | image | logDir => exact hne
  | hotReload => exact h
  | _ => trivial

theorem cleaned_of_plain {values : Variable → Option String}
    (h : ∀ v t, values v = some t → Plain v t) : Settings.cleaned values = values := by
  funext v
  rw [Settings.cleaned]
  cases ht : values v with
  | none => rfl
  | some t => rw [Option.bind_some, clean_of_plain (h v t ht)]

/-- The command line without arguments and the host's initializer agree on the settings just if every
value is one that both take as it is. Then the command line runs with the settings of the
initializer; and if there is a value that it cannot read, it tells so and launches nothing. -/
theorem parse_same_iff {env : Environment} {values : Variable → Option String}
    (h : env.Spells values) :
    ((∃ s, parse [] env = .ok s ∧ s.same (Settings.ofEnvironment env) = true) ↔
      ∀ v t, values v = some t → Plain v t) ∧
    ∀ (τ : Type) (partners : Installation.Partners τ) (p : Installation τ), p.environment = env →
      ((∀ v t, values v = some t → Plain v t) → CommandLine.run partners [] p =
        CommandLine.runSettings partners (Settings.ofEnvironment env) p) ∧
      ((∀ v t, values v = some t → Readable v t) → CommandLine.run partners [] p =
        CommandLine.runSettings partners (Settings.ofValues values) p) ∧
      ((∃ v t, values v = some t ∧ ¬ Readable v t) → ∃ e : UsageError,
        CommandLine.run partners [] p = (.usage, [.print .error (e.message ++ "\n")], p)) := by
  have hhost := Settings.ofEnvironment_of_spells h
  have hplain : (∀ v t, values v = some t → Plain v t) →
      parse [] env = .ok (Settings.ofEnvironment env) := by
    intro hplain
    -- plain values are readable, and cleaning leaves them alone
    rcases parse_of_spells h with ⟨-, hparse⟩ | ⟨v, t, e, ht, hunreadable, -⟩
    · rw [hparse, hhost, cleaned_of_plain hplain]
    · exact absurd (readable_of_plain (hplain v t ht)) hunreadable
  refine ⟨⟨?_, fun hall => ⟨_, hplain hall, ?_⟩⟩, fun τ partners p henv => ⟨?_, ?_, ?_⟩⟩
  · -- the one takes the values themselves and the other cleaned ones, so cleaning changes nothing
    rintro ⟨s, hs, hsame⟩ v t ht
    rcases parse_of_spells h with ⟨hreadable, hparse⟩ | ⟨_, _, e, -, -, hparse⟩
    · rw [hparse] at hs
      cases hs
      rw [hhost] at hsame
      have hclean : v ≠ .hotReload → Settings.clean t = some t := fun hv =>
        Settings.clean_of_same_cleaned hsame hv ht
      cases v with
      -- equal flags say nothing of how they are spelled, but both words are plain
      | hotReload => exact hreadable _ t ht
      | _ => exact hclean nofun
    · rw [hparse] at hs
      cases hs
  · exact Settings.same_refl _
  · intro hall
    exact CommandLine.run_ok partners (henv ▸ hplain hall)
  · intro hreadable
    rcases parse_of_spells h with ⟨-, hparse⟩ | ⟨v, t, e, ht, hunreadable, -⟩
    · exact CommandLine.run_ok partners (henv ▸ hparse)
    · exact absurd (hreadable v t ht) hunreadable
  · rintro ⟨v, t, ht, hunreadable⟩
    -- a launch would need every value to be readable
    rcases parse_of_spells h with ⟨hreadable, -⟩ | ⟨_, _, e, -, -, hparse⟩
    · exact absurd (hreadable v t ht) hunreadable
    · exact ⟨e, CommandLine.run_usage partners (henv ▸ hparse)⟩

/-- An environment that both readers take as it is. -/
theorem parse_same_iff_plain :
    let env : Environment := [("HLBOOT_IMAGE", Text.Utf8.encode "game/boot.hl"),
      ("HLBOOT_HOT_RELOAD", Text.Utf8.encode "true")]
    ∃ s, parse [] env = .ok s ∧ s.same (Settings.ofEnvironment env) = true := by
  intro env
  let values : Variable → Option String
    | .image => some "game/boot.hl"
    | .hotReload => some "true"
    | _ => none
  have hspells : env.Spells values := fun v => by cases v <;> decide
  refine (parse_same_iff hspells).1.2 fun v t ht => ?_
  cases v with
  | image =>
    cases ht
    show Settings.clean _ = _
    decide
  | hotReload =>
    cases ht
    exact .inl rfl
  | _ => cases ht

/-- A flag that is spelled `1` is turned on by the host's initializer and refused by the command line;
a symbol with blank ends is taken without them by the one and with them by the other. -/
theorem read_differently :
    (let env : Environment := [("HLBOOT_HOT_RELOAD", Text.Utf8.encode "1")]
    (Settings.ofEnvironment env).hotReload = true ∧
      parse [] env = .error (.usage (.invalidValue "1" "--hot-reload"))) ∧
    (let env : Environment := [("HLBOOT_SETUP_SYMBOL", Text.Utf8.encode " hl_setup ")]
    (Settings.ofEnvironment env).symbol = "hl_setup" ∧
      parse [] env = .ok { Settings.default with symbol := " hl_setup " }) := by
  refine ⟨⟨by decide, ?_⟩, by decide, ?_⟩
  · rfl
  · rfl

end Arguments

end Launcher
