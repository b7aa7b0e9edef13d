import Launcher.Logging
import Launcher.Proofs.Act
import Launcher.Proofs.Path

/-!
# The log is started at most once

Requests for the log come one after another, and each finds what the one before has left. The first
one that can open the log opens it, and what it named stays for the rest of the process. A request
before that is refused and leaves the way free for the next one; a request after that is compared
with what is there.

- `Logging.Call.opens?`: the log that a request would open if none was started.
- `Logging.Call.left_started`, `Logging.found_started`: one request, and a history of them.
- `Logging.Call.answer_of_left`: once there is a log, answers depend on the log and the request alone.
- `Logging.configured_once`: all requests of a process.
-/

namespace Launcher

open Log

/-- The words for a level, apart from blank ends and case. -/
def Log.Level.spellings : Level → List String
  | .warn => ["warn", "warning"]
  | level => [level.name]

/-- A text names a level just if it is one of its spellings, blank ends and case aside. -/
theorem Log.Level.ofText_eq_ok {text : String} {level : Level} :
    Level.ofText text = .ok level ↔ Text.asciiLower (Text.trim text) ∈ level.spellings := by
  unfold Level.ofText
  generalize Text.asciiLower (Text.trim text) = name
  cases level <;> simp only [spellings, Level.name, List.mem_cons, List.not_mem_nil, or_false] <;>
    grind

namespace Logging

variable {σ : Type}

/-- What a refusal is about, whatever it names. -/
inductive Refusal.Kind
  | unsupportedLevel
  | relativeDir
  | noDirectory
  | noWriter
  | otherDir
  | otherLevel
  deriving DecidableEq

/-- The kind of a refusal. -/
def Refusal.kind : Refusal → Kind
  | .unsupportedLevel _ => .unsupportedLevel
  | .relativeDir _ => .relativeDir
  | .noDirectory _ _ => .noDirectory
  | .noWriter _ => .noWriter
  | .otherDir _ _ => .otherDir
  | .otherLevel _ _ => .otherLevel

/-- What kind of refusal an answer is, if it is one. -/
def refusalKind? : Except Refusal Unit → Option Refusal.Kind
  | .ok () => none
  | .error refusal => some refusal.kind

/-! ## Requests -/

/-- A request for the log, and what starting the log takes at that time. -/
structure Request (σ : Type) where
  level : String
  dir : Path
  backend : Backend σ

/-- Requests that name the same level and the same directory, perhaps in other spellings. -/
def Request.Alike (a b : Request σ) : Prop :=
  Level.ofText a.level = Level.ofText b.level ∧ a.dir.same b.dir = true

/-- Whether the directory can be made and the writer be started. -/
def Request.starts (request : Request σ) (store : σ) : Bool :=
  (request.backend.makeDirs request.dir store).1.isOk &&
    (request.backend.startWriter (request.backend.makeDirs request.dir store).2).1.isOk

/-- A request, with what it finds. -/
structure Call (σ : Type) where
  request : Request σ
  found : Logging σ

namespace Call

/-- The answer to a request. -/
def answer (call : Call σ) : Except Refusal Unit :=
  (init call.request.backend call.request.level call.request.dir call.found).1

/-- The events of a request. -/
def trace (call : Call σ) : List Event :=
  (init call.request.backend call.request.level call.request.dir call.found).2.1

/-- What a request leaves. -/
def left (call : Call σ) : Logging σ :=
  (init call.request.backend call.request.level call.request.dir call.found).2.2

/-- The log that a request opens if none has been started: it has to name a level and an absolute
directory, the directory has to be made and the writer to be started. -/
def opens? (call : Call σ) : Option Started :=
  match Level.ofText call.request.level with
  | .error _ => none
  | .ok level =>
    if call.request.dir.isAbsolute && call.request.starts call.found.store then
      some ⟨level, call.request.dir⟩
    else none

end Call

/-- The requests of a process, each of which finds what the one before has left. -/
def calls (s : Logging σ) : List (Request σ) → List (Call σ)
  | [] => []
  | request :: rest => ⟨request, s⟩ :: calls (Call.left ⟨request, s⟩) rest

theorem request_calls (s : Logging σ) (requests : List (Request σ)) :
    (calls s requests).map Call.request = requests := by
  induction requests generalizing s with
  | nil => rfl
  | cons request rest ih => exact congrArg (request :: ·) (ih _)

/-! ## One request -/

/-- Starting the log succeeds if its directory can be made and its writer started, and changes
nothing but the store otherwise. -/
theorem start_cases (request : Request σ) (level : Level) (s : Logging σ) :
    (request.starts s.store = true ∧ ∃ store, start request.backend ⟨level, request.dir⟩ s =
      (.ok (), [.log (startRecord ⟨level, request.dir⟩)], ⟨some ⟨level, request.dir⟩, store⟩)) ∨
    (request.starts s.store = false ∧ ∃ refusal store,
      start request.backend ⟨level, request.dir⟩ s = (.error refusal, [], { s with store })) := by
  unfold start Request.starts
  rcases request.backend.makeDirs request.dir s.store with ⟨_ | _, store⟩
  · exact .inr ⟨rfl, _, store, rfl⟩
  · dsimp only
    rcases request.backend.startWriter store with ⟨_ | _, store⟩
    · exact .inr ⟨rfl, _, store, rfl⟩
    · exact .inl ⟨rfl, store, rfl⟩

/-- The answer to a request for a log that is there. -/
def verdict (log : Started) (request : Request σ) : Except Refusal Unit :=
  match Level.ofText request.level with
  | .error name => .error (.unsupportedLevel name)
  | .ok level =>
    if request.dir.isAbsolute then agree log ⟨level, request.dir⟩
    else .error (.relativeDir request.dir)

namespace Call

variable {call : Call σ} {log : Started}

theorem opens?_eq_some : call.opens? = some log ↔
    Level.ofText call.request.level = .ok log.level ∧ call.request.dir = log.dir ∧
      log.dir.isAbsolute = true ∧ call.request.starts call.found.store = true := by
  obtain ⟨level, dir⟩ := log
  unfold opens?
  cases Level.ofText call.request.level with
  | error name => simp
  | ok asked => grind

/-- A request that finds no log opens the one it can open, and says so in the log; otherwise it is
refused. -/
theorem of_unstarted (h : call.found.started = none) :
    call.left.started = call.opens? ∧ (call.answer = .ok () ↔ call.opens?.isSome = true) ∧
      call.trace = call.opens?.toList.map fun log => .log (startRecord log) := by
  unfold left answer trace opens? init
  cases Level.ofText call.request.level with
  | error name => simp [h]
  | ok level =>
    by_cases habsolute : call.request.dir.isAbsolute = true
    · rcases start_cases call.request level call.found with ⟨hstarts, store, hstart⟩ |
        ⟨hstarts, refusal, store, hstart⟩ <;> simp [habsolute, h, hstarts, hstart]
    · simp [h, habsolute]

/-- A request that finds a log leaves everything as it is. -/
theorem of_started (h : call.found.started = some log) :
    call.answer = verdict log call.request ∧ call.left = call.found ∧ call.trace = [] := by
  unfold answer left trace verdict init
  cases Level.ofText call.request.level with
  | error name => exact ⟨rfl, rfl, rfl⟩
  | ok level => by_cases habsolute : call.request.dir.isAbsolute = true <;> simp [habsolute, h]

/-- A log that is there stays; otherwise it is the one that the request opens. -/
theorem left_started (call : Call σ) :
    call.left.started = call.found.started.or call.opens? := by
  cases h : call.found.started with
  | none => rw [(of_unstarted h).1, Option.none_or]
  | some log => rw [(of_started h).2.1, h, Option.some_or]

/-- Once there is a log, the answer depends on the log and the request alone; the request that opens
the log is no exception. -/
theorem answer_of_left (h : call.left.started = some log) :
    call.answer = verdict log call.request := by
  cases hfound : call.found.started with
  | some current =>
    obtain ⟨hanswer, hleft, -⟩ := of_started hfound
    rw [hleft, hfound] at h
    cases h
    exact hanswer
  | none =>
    obtain ⟨hleft, hgranted, -⟩ := of_unstarted hfound
    have hopens : call.opens? = some log := by rw [← hleft, h]
    obtain ⟨hlevel, hdir, habsolute, -⟩ := opens?_eq_some.1 hopens
    rw [hgranted.2 (by rw [hopens]; rfl)]
    simp [verdict, hlevel, hdir, habsolute, agree]

end Call

/-- A log is granted to those who ask for its level and its directory. -/
theorem verdict_ok {log : Started} (habsolute : log.dir.isAbsolute = true) (request : Request σ) :
    verdict log request = .ok () ↔
      Level.ofText request.level = .ok log.level ∧ log.dir.same request.dir = true := by
  unfold verdict
  cases Level.ofText request.level with
  | error name => simp
  | ok level =>
    by_cases hsame : log.dir.same request.dir = true
    · have hasked : request.dir.isAbsolute = true := by
        rw [← Path.isAbsolute_of_same hsame, habsolute]
      by_cases hlevel : log.level = level
      · simp [hasked, agree, hsame, hlevel]
      · simp [hasked, agree, hsame, hlevel, Ne.symm hlevel]
    · by_cases hasked : request.dir.isAbsolute = true <;> simp [hasked, agree, hsame]

/-- Another directory is objected to before another level is. -/
theorem verdict_conflict {log : Started} {request : Request σ} {level : Level}
    (hlevel : Level.ofText request.level = .ok level) (hasked : request.dir.isAbsolute = true) :
    (log.dir.same request.dir = false →
      verdict log request = .error (.otherDir log.dir request.dir)) ∧
    (log.dir.same request.dir = true → level ≠ log.level →
      verdict log request = .error (.otherLevel log.level level)) := by
  unfold verdict
  constructor
  · intro hother
    simp [hlevel, hasked, agree, hother]
  · intro hsame hne
    simp [hlevel, hasked, agree, hsame, Ne.symm hne]

/-- The spelling of a request is no matter. -/
theorem verdict_alike {log : Started} {a b : Request σ} (h : a.Alike b) :
    refusalKind? (verdict log a) = refusalKind? (verdict log b) := by
  obtain ⟨hlevel, hdir⟩ := h
  unfold verdict
  rw [hlevel, Path.isAbsolute_of_same hdir]
  cases Level.ofText b.level with
  | error name => rfl
  | ok level =>
    simp only [agree, Path.same_congr hdir]
    by_cases hasked : b.dir.isAbsolute = true
    · by_cases hsame : log.dir.same b.dir = true
      · simp [hasked, hsame]
      · simp [hasked, hsame, refusalKind?, Refusal.kind]
    · simp [hasked, refusalKind?, Refusal.kind]

/-! ## A history of requests -/

/-- What a request finds is the log that was there at the beginning, or else the first one that an
earlier request opened. -/
theorem found_started {s : Logging σ} {requests : List (Request σ)} {before after : List (Call σ)}
    {call : Call σ} (h : calls s requests = before ++ call :: after) :
    call.found.started = s.started.or (before.findSome? Call.opens?) := by
  induction requests generalizing s before with
  | nil => cases before <;> cases h
  | cons request rest ih =>
    cases before with
    | nil =>
      obtain ⟨rfl, -⟩ := List.cons.inj h
      simp
    | cons first before =>
      obtain ⟨rfl, hrest⟩ := List.cons.inj h
      -- the others find what the first one leaves
      rw [ih hrest, Call.left_started, Option.or_assoc, List.findSome?_cons]
      cases Call.opens? ⟨request, s⟩ <;> simp

/-- A request after others in a process, and those that come after it. -/
structure Configured (before : List (Call σ)) (call : Call σ) (after : List (Call σ)) : Prop where
  /-- There is no log before the first request that opens one. -/
  found : call.found.started = before.findSome? Call.opens?
  /-- The first request that opens a log decides. -/
  left : call.left.started = (before ++ [call]).findSome? Call.opens?
  /-- Until then a request is granted just if it opens the log, and only then it says anything. -/
  unstarted : call.found.started = none → (call.answer = .ok () ↔ call.opens?.isSome = true) ∧
    call.trace = call.opens?.toList.map fun log => .log (startRecord log)
  /-- From then on no request changes or says anything. -/
  unchanged : ∀ log, call.found.started = some log → call.left = call.found ∧ call.trace = []
  /-- Nor does the log change. -/
  lasting : ∀ log, call.left.started = some log → ∀ later ∈ after,
    later.found.started = some log ∧ later.left.started = some log
  /-- The log is granted to those who ask for it. -/
  granted : ∀ log, call.found.started = some log → (call.answer = .ok () ↔
    Level.ofText call.request.level = .ok log.level ∧ log.dir.same call.request.dir = true)
  /-- Another directory is objected to, whatever the level. -/
  otherDir : ∀ log level, call.found.started = some log →
    Level.ofText call.request.level = .ok level → call.request.dir.isAbsolute = true →
      log.dir.same call.request.dir = false →
        call.answer = .error (.otherDir log.dir call.request.dir)
  /-- Another level is objected to if the directory is right. -/
  otherLevel : ∀ log level, call.found.started = some log →
    Level.ofText call.request.level = .ok level → call.request.dir.isAbsolute = true →
      log.dir.same call.request.dir = true → level ≠ log.level →
        call.answer = .error (.otherLevel log.level level)
  /-- Requests that name the same level and directory get the same answer. -/
  alike : call.left.started.isSome = true → ∀ later ∈ after, call.request.Alike later.request →
    refusalKind? call.answer = refusalKind? later.answer

theorem configured {store : σ} {requests : List (Request σ)} {before after : List (Call σ)}
    {call : Call σ} (h : calls ⟨none, store⟩ requests = before ++ call :: after) :
    Configured before call after := by
  have hfound : call.found.started = before.findSome? Call.opens? := found_started h
  have hleft : call.left.started = (before ++ [call]).findSome? Call.opens? := by
    rw [Call.left_started, hfound, List.findSome?_append, List.findSome?_singleton]
  have hlasting : ∀ log, call.left.started = some log → ∀ later ∈ after,
      later.found.started = some log ∧ later.left.started = some log := by
    intro log hlog later hlater
    -- the later request finds what the longer history before it has opened, which is this log
    obtain ⟨between, rest, rfl⟩ := List.append_of_mem hlater
    have hlong : calls ⟨none, store⟩ requests = (before ++ [call] ++ between) ++ later :: rest := by
      rw [h]
      simp
    have hfinds : later.found.started = some log := by
      rw [found_started hlong, List.findSome?_append, ← hleft, hlog]
      rfl
    exact ⟨hfinds, by rw [(Call.of_started hfinds).2.1, hfinds]⟩
  constructor
  case found => exact hfound
  case left => exact hleft
  case unstarted => exact fun hnone => (Call.of_unstarted hnone).2
  case unchanged => exact fun log hlog => (Call.of_started hlog).2
  case lasting => exact hlasting
  case granted =>
    intro log hlog
    obtain ⟨opener, -, hopens⟩ := List.exists_of_findSome?_eq_some (hfound ▸ hlog)
    rw [(Call.of_started hlog).1]
    exact verdict_ok (Call.opens?_eq_some.1 hopens).2.2.1 call.request
  case otherDir =>
    intro log level hlog hlevel hasked hother
    rw [(Call.of_started hlog).1]
    exact (verdict_conflict hlevel hasked).1 hother
  case otherLevel =>
    intro log level hlog hlevel hasked hsame hne
    rw [(Call.of_started hlog).1]
    exact (verdict_conflict hlevel hasked).2 hsame hne
  case alike =>
    intro hsome later hlater halike
    obtain ⟨log, hlog⟩ := Option.isSome_iff_exists.1 hsome
    rw [Call.answer_of_left hlog, Call.answer_of_left (hlasting log hlog later hlater).2]
    exact verdict_alike halike

/-- Settings that name a directory ask for the log there; others ask for nothing. -/
theorem initFromSettings_apply (backend : Backend σ) (settings : Settings) (s : Logging σ) :
    (settings.logDir = none → initFromSettings backend settings s = (.ok false, [], s)) ∧
      ∀ dir, settings.logDir = some dir → initFromSettings backend settings s =
        ((init backend settings.logLevel dir s).1.map fun _ => true,
          (init backend settings.logLevel dir s).2) := by
  unfold initFromSettings
  constructor
  · intro hnone
    rw [hnone]
    rfl
  · intro dir hdir
    simp only [hdir, Quiet.bind_apply]
    rcases init backend settings.logLevel dir s with ⟨_ | _, trace, left⟩ <;> simp [Except.map]

/-- However often the log is asked for in a process, and whatever came of it before: the first request
that can open the log opens it and decides its level and its directory, requests before that are
refused and leave nothing behind, and requests after that change nothing and are granted just if they
ask for the log that is there. -/
theorem configured_once (store : σ) (requests : List (Request σ)) :
    (calls ⟨none, store⟩ requests).map Call.request = requests ∧
      (∀ before call after, calls ⟨none, store⟩ requests = before ++ call :: after →
        Configured before call after) ∧
      (∀ text level, Level.ofText text = .ok level ↔
        Text.asciiLower (Text.trim text) ∈ level.spellings) ∧
      ∀ (backend : Backend σ) (settings : Settings) (s : Logging σ),
        (settings.logDir = none → initFromSettings backend settings s = (.ok false, [], s)) ∧
          ∀ dir, settings.logDir = some dir → initFromSettings backend settings s =
            ((init backend settings.logLevel dir s).1.map fun _ => true,
              (init backend settings.logLevel dir s).2) :=
  ⟨request_calls _ _, fun _ _ _ h => configured h, fun _ _ => Level.ofText_eq_ok,
    initFromSettings_apply⟩

/-- A request among files, with a writer that can be started unless another has taken the log. -/
def rehearsalRequest (level dir : String) : Request LogStore :=
  ⟨level, Path.ofString dir, LogStore.backend⟩

/-- The same, with a writer that cannot be started. -/
def writerlessRequest (level dir : String) : Request LogStore :=
  ⟨level, Path.ofString dir,
    { LogStore.backend with startWriter := fun store => (.error "no writer", store) }⟩

/-- Every kind of refusal before the log is started and after that. -/
theorem configured_once_rehearsal :
    let requests := [rehearsalRequest "verbose" "/logs", rehearsalRequest "info" "logs",
      rehearsalRequest "info" "/main.hl/logs", writerlessRequest "info" "/logs",
      rehearsalRequest " WARNING " "/logs", rehearsalRequest "warn" "//logs/.",
      rehearsalRequest "info" "/other", rehearsalRequest "info" "/logs/",
      rehearsalRequest "verbose" "/logs", rehearsalRequest "warn" "logs"]
    let store : LogStore := ⟨⟨[], [([Text.Utf8.encode "main.hl"], .file (.octets []))]⟩, false⟩
    (∀ before call after, calls ⟨none, store⟩ requests = before ++ call :: after →
      Configured before call after) ∧
    (calls ⟨none, store⟩ requests).map (fun call => refusalKind? call.answer) =
      [some .unsupportedLevel, some .relativeDir, some .noDirectory, some .noWriter, none, none,
        some .otherDir, some .otherLevel, some .unsupportedLevel, some .relativeDir] := by
  intro requests store
  exact ⟨(configured_once store requests).2.1, by decide +kernel⟩

end Logging

end Launcher
