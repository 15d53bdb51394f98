import TypedMarkup.Logging.Setup
import TypedMarkup.Proofs.Entries
import TypedMarkup.Proofs.Files

/-!
# Calls that set up loggers

A logger that has handlers is left alone. To one without, a call can do three things
(`leaves_perform`): if it does not name its levels it fails and changes nothing; if its log file can
be opened it gives the logger what it asks for (`Request.asked`); and if the log file cannot be
opened it fails, but the level and the console are in force by then (`Request.begun`).

The console is a handler. So a call that fails in the third way is the last one that changes its
logger (`after_of_isStopped`): later calls leave it alone, and never open a log file for it. Where
there is no such call, each logger has what the first call for it that does not fail asks for
(`after_of_not_isStopped`). `state_after_calls` puts both together.
-/

namespace TypedMarkup.Logging

/-! ## What a call asks for -/

/-- The levels that a request names, of the console and of the file. -/
structure Levels where
  console : Nat
  file : Nat

/-- The levels that a request names; the level of a file is named also if no file is. -/
def Request.levels (r : Request) : Except Fault Levels := do
  let console ← levelNumber .info r.consoleLevel
  let file ← levelNumber .debug r.fileLevel
  return ⟨console, file⟩

/-- A logger with a console and no file, at the level that is asked for. -/
def Request.begun (r : Request) (ls : Levels) : LoggerState :=
  ⟨if r.logFile.isTruthy then min ls.console ls.file else ls.console, [⟨.console, ls.console⟩]⟩

/-- A logger with all that is asked for: a console, and a file if one is named. -/
def Request.asked (r : Request) (ls : Levels) : LoggerState :=
  match r.path? with
  | .ok (some path) =>
    { r.begun ls with handlers := [⟨.console, ls.console⟩, ⟨.file path, ls.file⟩] }
  | _ => r.begun ls

theorem Request.asked_of_path {r : Request} {path : String} (h : r.path? = .ok (some path))
    (ls : Levels) : r.asked ls =
      { r.begun ls with handlers := [⟨.console, ls.console⟩, ⟨.file path, ls.file⟩] } := by
  simp only [asked, h]

theorem Request.asked_of_no_path {r : Request} (h : r.path? = .ok none) (ls : Levels) :
    r.asked ls = r.begun ls := by
  simp only [asked, h]

theorem Request.asked_ne_nil (r : Request) (ls : Levels) : (r.asked ls).handlers ≠ [] := by
  unfold Request.asked
  split
  · exact List.cons_ne_nil _ _
  · exact List.cons_ne_nil _ _

/-- A call: what it asks for, and the files that are there when it is made. -/
structure Call where
  request : Request
  files : Files

namespace Call

/-- The logger that the call is for. -/
def name (call : Call) : String :=
  call.request.loggerName

/-- What the call leaves of the loggers that it finds. -/
def perform (call : Call) (loggers : Loggers) : SetUp :=
  setUp call.request loggers call.files

/-- The log file can be opened: none is asked for, or the files take one under its path. -/
def Opens (call : Call) : Prop :=
  match call.request.path? with
  | .ok none => True
  | .ok (some path) => call.files.Takes path
  | .error _ => False

/-- The directories of the path can be made, and the file can be written there. -/
theorem opens_iff {call : Call} {path : String} (h : call.request.path? = .ok (some path)) :
    call.Opens ↔ ∃ made files, call.files.makeDirectories (Files.directoryOf path) = .ok made ∧
      made.append path [] = .ok files := by
  rw [Files.takes_iff_append]
  simp only [Opens, h]

end Call

/-! ## One call -/

section Call

variable {call : Call} {loggers : Loggers} {n : String}

/-- Of one logger the state is set, and no other is touched. -/
def Sets (loggers after : Loggers) (name : String) (state : LoggerState) : Prop :=
  ∀ n, after.state n = if n = name then state else loggers.state n

theorem sets_put (loggers : Loggers) (name : String) (state : LoggerState) :
    Sets loggers (Entries.put name state loggers) name state := by
  intro n
  rw [Loggers.state, Entries.find?_put]
  split <;> rfl

theorem Sets.put {after : Loggers} {name : String} {state : LoggerState}
    (h : Sets loggers after name state) (state' : LoggerState) :
    Sets loggers (Entries.put name state' after) name state' := by
  intro n
  rw [sets_put after name state' n, h n]
  split <;> rfl

/-- What a call leaves of the loggers that it finds. Where its logger has no handlers it is refused
for its levels, or it opens its log file, or it has begun when it fails. -/
inductive Leaves (call : Call) (loggers : Loggers) (left : SetUp) : Prop where
  | configured (handlers : (loggers.state call.name).handlers ≠ [])
      (result : left.result = .ok call.name) (same : left.loggers = loggers)
  | refused (handlers : (loggers.state call.name).handlers = []) {fault : Fault}
      (levels : call.request.levels = .error fault) (result : left.result = .error fault)
      (same : left.loggers = loggers)
  | opened (handlers : (loggers.state call.name).handlers = []) {ls : Levels}
      (levels : call.request.levels = .ok ls) (opens : call.Opens)
      (result : left.result = .ok call.name)
      (sets : Sets loggers left.loggers call.name (call.request.asked ls))
  | stopped (handlers : (loggers.state call.name).handlers = []) {ls : Levels} {fault : Fault}
      (levels : call.request.levels = .ok ls) (fails : ¬ call.Opens)
      (result : left.result = .error fault)
      (sets : Sets loggers left.loggers call.name (call.request.begun ls))

theorem leaves_perform (call : Call) (loggers : Loggers) :
    Leaves call loggers (call.perform loggers) := by
  have hbegun (ls : Levels) := sets_put loggers call.name (call.request.begun ls)
  cases hhandlers : (loggers.state call.request.loggerName).handlers with
  | cons handler handlers =>
    have hsame : call.perform loggers = ⟨.ok call.name, loggers, call.files⟩ := by
      simp [Call.perform, setUp, hhandlers, Call.name]
    rw [hsame]
    exact .configured (by simp [Call.name, hhandlers]) rfl rfl
  | nil =>
    unfold Call.perform setUp
    simp only [hhandlers, List.isEmpty_nil, Bool.not_true, Bool.false_eq_true, if_false]
    cases hconsole : levelNumber .info call.request.consoleLevel with
    | error fault =>
      have hlevels : call.request.levels = .error fault := by
        simp only [Request.levels, hconsole]; rfl
      exact .refused hhandlers hlevels rfl rfl
    | ok console =>
      cases hfile : levelNumber .debug call.request.fileLevel with
      | error fault =>
        have hlevels : call.request.levels = .error fault := by
          simp only [Request.levels, hconsole, hfile]; rfl
        exact .refused hhandlers hlevels rfl rfl
      | ok file =>
        have hlevels : call.request.levels = .ok ⟨console, file⟩ := by
          simp only [Request.levels, hconsole, hfile]; rfl
        have hbegun := hbegun ⟨console, file⟩
        cases hpath : call.request.path? with
        | error fault =>
          dsimp only
          exact .stopped hhandlers hlevels (by simp [Call.Opens, hpath]) rfl hbegun
        | ok path? =>
          cases path? with
          | none =>
            dsimp only
            refine .opened hhandlers hlevels (by simp [Call.Opens, hpath]) rfl ?_
            rw [Request.asked_of_no_path hpath]
            exact hbegun
          | some path =>
            dsimp only
            cases hmake : call.files.makeDirectories (Files.directoryOf path) with
            | error fault =>
              dsimp only
              refine .stopped hhandlers hlevels (fun h => ?_) rfl hbegun
              obtain ⟨made, _, h, -⟩ := (Call.opens_iff hpath).mp h
              simp [hmake] at h
            | ok made =>
              dsimp only
              cases happend : made.append path [] with
              | error fault =>
                dsimp only
                refine .stopped hhandlers hlevels (fun h => ?_) rfl hbegun
                obtain ⟨made', _, hmake', happend'⟩ := (Call.opens_iff hpath).mp h
                obtain rfl := Except.ok.inj (hmake.symm.trans hmake')
                simp [happend] at happend'
              | ok files =>
                dsimp only
                refine .opened hhandlers hlevels
                  ((Call.opens_iff hpath).mpr ⟨made, files, hmake, happend⟩) rfl ?_
                rw [Request.asked_of_path hpath]
                exact hbegun.put _

/-- A logger that has handlers keeps them, and its level. -/
theorem state_perform_of_handlers (call : Call) (h : (loggers.state n).handlers ≠ []) :
    (call.perform loggers).loggers.state n = loggers.state n := by
  cases leaves_perform call loggers with
  | configured _ _ same => rw [same]
  | refused _ _ _ same => rw [same]
  | opened handlers _ _ _ sets | stopped handlers _ _ _ sets =>
    rw [sets n, if_neg fun hn => h (by rw [hn]; exact handlers)]

/-- So does every logger that the call is not for. -/
theorem state_perform_of_ne (loggers : Loggers) (h : n ≠ call.name) :
    (call.perform loggers).loggers.state n = loggers.state n := by
  cases leaves_perform call loggers with
  | configured _ _ same => rw [same]
  | refused _ _ _ same => rw [same]
  | opened _ _ _ _ sets | stopped _ _ _ _ sets => rw [sets n, if_neg h]

theorem fails_iff (call : Call) (loggers : Loggers) :
    (∃ fault, (call.perform loggers).result = .error fault) ↔
      (loggers.state call.name).handlers = [] ∧
        ∀ ls, call.request.levels = .ok ls → ¬ call.Opens := by
  cases leaves_perform call loggers with
  | configured handlers result => simp [handlers, result]
  | refused handlers levels result => simp [handlers, levels, result]
  | opened handlers levels opens result => simp [handlers, levels, opens, result]
  | stopped handlers levels fails result => simp [handlers, levels, fails, result]

/-- A call that fails leaves its logger as it was just when it is refused for its levels. -/
theorem state_of_fails {fault : Fault} (h : (call.perform loggers).result = .error fault) :
    ((call.perform loggers).loggers.state call.name = loggers.state call.name ↔
        call.request.levels = .error fault) ∧
      ∀ ls, call.request.levels = .ok ls →
        (call.perform loggers).loggers.state call.name = call.request.begun ls := by
  cases leaves_perform call loggers with
  | configured _ result => simp [result] at h
  | opened _ _ _ result => simp [result] at h
  | refused _ levels result same =>
    obtain rfl := Except.error.inj (result.symm.trans h)
    rw [levels, same]
    simp
  | @stopped handlers ls fault' levels fails result sets =>
    have hstate : (call.perform loggers).loggers.state call.name = call.request.begun ls := by
      rw [sets call.name, if_pos rfl]
    refine ⟨⟨fun hsame => ?_, fun hrefused => ?_⟩, fun ls' hls' => ?_⟩
    · -- the console is in force, where no handler was
      rw [← hsame, hstate] at handlers
      cases handlers
    · rw [levels] at hrefused
      cases hrefused
    · rw [levels] at hls'
      rw [hstate, Except.ok.inj hls']

end Call

/-! ## A run of calls -/

/-- What calls leave, one after the other. -/
def after (calls : List Call) (loggers : Loggers) : Loggers :=
  calls.foldl (fun loggers call => (call.perform loggers).loggers) loggers

/-- The calls, each with its result. -/
def outcomes : List Call → Loggers → List (Call × Except Fault String)
  | [], _ => []
  | call :: calls, loggers =>
    (call, (call.perform loggers).result) :: outcomes calls (call.perform loggers).loggers

section Run

variable {calls : List Call} {before : Loggers} {n : String}

/-- Calls for a logger that has handlers give it back as it is. -/
theorem after_of_handlers (calls : List Call) (h : (before.state n).handlers ≠ []) :
    (after calls before).state n = before.state n ∧
      ∀ o ∈ outcomes calls before, o.1.name = n → o.2 = .ok n := by
  induction calls generalizing before with
  | nil => exact ⟨rfl, fun o ho => absurd ho List.not_mem_nil⟩
  | cons call calls ih =>
    have hstep := state_perform_of_handlers call h
    obtain ⟨hstate, hresults⟩ := ih (hstep.symm ▸ h)
    refine ⟨hstate.trans hstep, List.forall_mem_cons.mpr ⟨fun hname => ?_, hresults⟩⟩
    subst hname
    cases leaves_perform call before with
    | configured _ result _ => exact result
    | refused handlers _ _ _ => exact absurd handlers h
    | opened handlers _ _ _ _ => exact absurd handlers h
    | stopped handlers _ _ _ _ => exact absurd handlers h

/-- The first of the calls for a logger that does not fail. -/
def firstDone? (n : String) (os : List (Call × Except Fault String)) : Option Call :=
  (os.find? fun o => o.1.name = n && o.2.isOk).map Prod.fst

/-- The call fails once it has begun, with levels that it names. -/
def IsStopped (o : Call × Except Fault String) : Prop :=
  ∃ fault ls, o.2 = .error fault ∧ o.1.request.levels = .ok ls

theorem firstDone?_cons_of_neg {o : Call × Except Fault String}
    {os : List (Call × Except Fault String)} (h : o.1.name = n → o.2.isOk = false) :
    firstDone? n (o :: os) = firstDone? n os := by
  rw [firstDone?, List.find?_cons_of_neg, firstDone?]
  simpa using h

/-- What is in force after the first call of a run is in force at the end, if there is a handler
among it; the calls for the logger that are left do not fail. -/
theorem after_cons_of_sets (calls : List Call) {call : Call} {state : LoggerState}
    (hstate : state.handlers ≠ [])
    (sets : Sets before (call.perform before).loggers call.name state) :
    (after (call :: calls) before).state call.name = state ∧
      ∀ o ∈ outcomes calls (call.perform before).loggers, o.1.name = call.name →
        o.2 = .ok call.name := by
  have hset : (call.perform before).loggers.state call.name = state := by
    rw [sets call.name, if_pos rfl]
  obtain ⟨hafter, hresults⟩ := after_of_handlers calls (hset.symm ▸ hstate)
  exact ⟨hafter.trans hset, hresults⟩

/-- A call that stops is the last to change its logger. -/
theorem after_of_isStopped (h : (before.state n).handlers = []) :
    ∀ o ∈ outcomes calls before, o.1.name = n → ∀ fault ls, o.2 = .error fault →
      o.1.request.levels = .ok ls → (after calls before).state n = o.1.request.begun ls := by
  induction calls generalizing before with
  | nil => exact fun o ho => absurd ho List.not_mem_nil
  | cons call calls ih =>
    rw [outcomes, List.forall_mem_cons]
    by_cases hname : call.name = n
    · subst hname
      cases leaves_perform call before with
      | configured handlers => exact absurd h handlers
      | refused _ levels _ same =>
        refine ⟨fun _ fault ls _ hlevels => ?_, ih (by rw [same]; exact h)⟩
        rw [levels] at hlevels
        cases hlevels
      | opened _ levels _ result sets =>
        obtain ⟨-, hdone⟩ := after_cons_of_sets calls (call.request.asked_ne_nil _) sets
        refine ⟨fun _ fault ls hfault => ?_, fun o ho hn fault ls hfault => ?_⟩
        · rw [result] at hfault
          cases hfault
        · rw [hdone o ho hn] at hfault
          cases hfault
      | stopped _ levels _ result sets =>
        obtain ⟨hend, hdone⟩ := after_cons_of_sets calls (List.cons_ne_nil _ _) sets
        refine ⟨fun _ fault ls _ hlevels => ?_, fun o ho hn fault ls hfault => ?_⟩
        · rw [levels] at hlevels
          rw [hend, Except.ok.inj hlevels]
        · rw [hdone o ho hn] at hfault
          cases hfault
    · have hstep := state_perform_of_ne before (Ne.symm hname)
      exact ⟨fun hn => absurd hn hname, ih (by rw [hstep]; exact h)⟩

/-- As long as none stops, it is the first call that does not fail that gives a logger what it
has. -/
theorem after_of_not_isStopped (h : (before.state n).handlers = [])
    (hnone : ∀ o ∈ outcomes calls before, o.1.name = n → ¬ IsStopped o) :
    (∀ call, firstDone? n (outcomes calls before) = some call → ∃ ls,
        call.request.levels = .ok ls ∧ (after calls before).state n = call.request.asked ls) ∧
      (firstDone? n (outcomes calls before) = none →
        (after calls before).state n = before.state n) := by
  induction calls generalizing before with
  | nil => exact ⟨fun call hcall => (nomatch hcall), fun _ => rfl⟩
  | cons call calls ih =>
    rw [outcomes, List.forall_mem_cons] at hnone
    rw [outcomes]
    by_cases hname : call.name = n
    · subst hname
      cases leaves_perform call before with
      | configured handlers => exact absurd h handlers
      | refused _ levels result same =>
        rw [firstDone?_cons_of_neg fun _ => by rw [result]; rfl]
        have hrest := ih (by rw [same]; exact h) hnone.2
        rw [show after (call :: calls) before = after calls (call.perform before).loggers from rfl]
        rwa [same] at hrest ⊢
      | opened _ levels _ result sets =>
        obtain ⟨hend, -⟩ := after_cons_of_sets calls (call.request.asked_ne_nil _) sets
        have hfirst : firstDone? call.name ((call, (call.perform before).result) ::
            outcomes calls (call.perform before).loggers) = some call := by
          rw [firstDone?, List.find?_cons_of_pos (by simp [result, Except.isOk, Except.toBool])]
          rfl
        rw [hfirst]
        exact ⟨fun c hc => Option.some.inj hc ▸ ⟨_, levels, hend⟩, fun hc => nomatch hc⟩
      | stopped _ levels _ result _ => exact absurd ⟨_, _, result, levels⟩ (hnone.1 rfl)
    · have hstep := state_perform_of_ne before (Ne.symm hname)
      rw [firstDone?_cons_of_neg fun hn => absurd hn hname, ← hstep]
      exact ih (by rw [hstep]; exact h) hnone.2

end Run

/-! ## Main statement -/

/-- After a run of calls, which may find any files, a logger that had handlers has what it had.
Another has what the first call for it that does not fail asks for, if no call for it fails after it
has named its levels; and if one does, it keeps what this call has left, whatever is asked for
later.

A call fails just when its logger has no handlers yet, and it does not name its levels or its log
file cannot be opened. If it does not name its levels, the loggers are as they were; else its own
has the level and the console that are asked for. -/
theorem state_after_calls (before : Loggers) (calls : List Call) (n : String) :
    ((before.state n).handlers ≠ [] → (after calls before).state n = before.state n) ∧
    ((before.state n).handlers = [] →
      ((∀ o ∈ outcomes calls before, o.1.name = n → ¬ IsStopped o) →
        (∀ call, firstDone? n (outcomes calls before) = some call → ∃ ls,
          call.request.levels = .ok ls ∧ (after calls before).state n = call.request.asked ls) ∧
        (firstDone? n (outcomes calls before) = none →
          (after calls before).state n = before.state n)) ∧
      ∀ o ∈ outcomes calls before, o.1.name = n → ∀ fault ls, o.2 = .error fault →
        o.1.request.levels = .ok ls → (after calls before).state n = o.1.request.begun ls) ∧
    ∀ (call : Call) (loggers : Loggers),
      ((∃ fault, (call.perform loggers).result = .error fault) ↔
        (loggers.state call.name).handlers = [] ∧
          ∀ ls, call.request.levels = .ok ls → ¬ call.Opens) ∧
      ∀ fault, (call.perform loggers).result = .error fault →
        (∀ m, m ≠ call.name → (call.perform loggers).loggers.state m = loggers.state m) ∧
        ((call.perform loggers).loggers.state call.name = loggers.state call.name ↔
          call.request.levels = .error fault) ∧
        ∀ ls, call.request.levels = .ok ls →
          (call.perform loggers).loggers.state call.name = call.request.begun ls := by
  refine ⟨fun h => (after_of_handlers calls h).1, fun h =>
    ⟨after_of_not_isStopped h, after_of_isStopped h⟩, fun call loggers => ⟨fails_iff call loggers,
      fun fault hfault => ⟨fun m hm => state_perform_of_ne loggers hm, state_of_fails hfault⟩⟩⟩

/-- A call for a component, with a log file. -/
def Call.withFile (component logFile : String) (files : Files) : Call :=
  ⟨{ Request.default with logFile := .text logFile, component := .text component }, files⟩

/-- A directory with a log file. -/
def logFiles : Files :=
  [(["d"], .directory), (["d", "a.log"], .file [])]

/-- One component gets a log file in a new directory. The other asks for the directory as its log
file, and then for a file in it. -/
def twoComponents : List Call :=
  [.withFile "a" "d/a.log" [], .withFile "b" "d" logFiles, .withFile "b" "d/b.log" logFiles]

/-- The second component never gets its log file, but keeps the console and the level of the call
that failed. -/
theorem state_after_calls_twoComponents :
    ((Call.withFile "a" "d/a.log" []).perform []).files = logFiles ∧
      (outcomes twoComponents []).map (fun o => (o.1.name, o.2)) =
        [("semantic_dom.a", .ok "semantic_dom.a"), ("semantic_dom.b", .error (.isDirectory "d")),
          ("semantic_dom.b", .ok "semantic_dom.b")] ∧
      (∃ ls, (Call.withFile "a" "d/a.log" []).request.levels = .ok ls ∧
        (after twoComponents []).state "semantic_dom.a" =
          (Call.withFile "a" "d/a.log" []).request.asked ls) ∧
      (after twoComponents []).state "semantic_dom.a" =
        ⟨10, [⟨.console, 20⟩, ⟨.file "d/a.log", 10⟩]⟩ ∧
      (after twoComponents []).state "semantic_dom.b" = ⟨10, [⟨.console, 20⟩]⟩ := by
  have houtcomes : outcomes twoComponents [] =
      [(.withFile "a" "d/a.log" [], .ok "semantic_dom.a"),
        (.withFile "b" "d" logFiles, .error (.isDirectory "d")),
        (.withFile "b" "d/b.log" logFiles, .ok "semantic_dom.b")] := by
    have hresults : (outcomes twoComponents []).map Prod.snd =
        [.ok "semantic_dom.a", .error (.isDirectory "d"), .ok "semantic_dom.b"] := by
      decide +kernel
    simp only [twoComponents, outcomes, List.map_cons, List.map_nil, List.cons.injEq,
      and_true] at hresults
    simp only [twoComponents, outcomes, hresults]
  have hnone : ∀ o ∈ outcomes twoComponents [], o.1.name = "semantic_dom.a" → ¬ IsStopped o := by
    have hb (file : String) : (Call.withFile "b" file logFiles).name ≠ "semantic_dom.a" :=
      show "semantic_dom.b" ≠ "semantic_dom.a" by decide
    rw [houtcomes]
    simp [IsStopped, hb]
  -- the call for the first component does not fail, the first one for the second stops
  have ha := ((state_after_calls [] twoComponents "semantic_dom.a").2.1 rfl).1 hnone
  have hb := ((state_after_calls [] twoComponents "semantic_dom.b").2.1 rfl).2
    (.withFile "b" "d" logFiles, .error (.isDirectory "d")) (by rw [houtcomes]; simp)
    (by decide +kernel) (.isDirectory "d") ⟨20, 10⟩ rfl rfl
  have hfirst : firstDone? "semantic_dom.a" (outcomes twoComponents []) =
      some (.withFile "a" "d/a.log" []) := by
    rw [houtcomes]
    rfl
  exact ⟨by decide +kernel, by decide +kernel, ha.1 _ hfirst, by decide +kernel, hb⟩

end TypedMarkup.Logging
