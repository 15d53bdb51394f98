import TypedMarkup.Timing
import TypedMarkup.Proofs.Entries

/-!
# What a timer tells

A timer pairs ends with starts by name. `Pending` and `Started` say from the requests alone, in the
order in which they were completed, whether a name has been started since its last end, and when:
both are a case of `Since`, which sees one request at a time (`since_concat`). The table of the timer
holds just these names (`Holds`), through every step of a run and wherever the run fails
(`runSteps_fulfils`, by induction on the steps together with the steps in them), so that each request
is answered from the requests before it (`Fits`).

A measured block touches no start: `measures_runStep` says what it does, and `runSteps_mirrors` that
without any of the blocks the same would be started, ended and failed.
-/

namespace TypedMarkup.Timing

/-! ## Since when -/

section Since

variable {α : Type} {P Q : α → Prop} {xs : List α} {x : α}

/-- Some item of a list has the property `P`, and all behind it have `Q`. -/
def Since (P Q : α → Prop) (xs : List α) : Prop :=
  ∃ before x after, xs = before ++ x :: after ∧ P x ∧ ∀ y ∈ after, Q y

theorem not_since_nil : ¬ Since P Q [] := by
  rintro ⟨before, x, after, hsplit, -⟩
  exact absurd hsplit (by simp)

theorem since_concat : Since P Q (xs ++ [x]) ↔ P x ∨ Q x ∧ Since P Q xs := by
  constructor
  · rintro ⟨before, y, after, hsplit, hy, hafter⟩
    rcases List.eq_nil_or_concat after with rfl | ⟨after, z, rfl⟩
    · obtain ⟨-, hxy⟩ := List.append_inj' hsplit rfl
      exact .inl (List.singleton_inj.mp hxy ▸ hy)
    · rw [List.concat_eq_append] at hafter
      have hsplit' : xs ++ [x] = (before ++ y :: after) ++ [z] := by simpa using hsplit
      obtain ⟨rfl, hxz⟩ := List.append_inj' hsplit' rfl
      obtain rfl := List.singleton_inj.mp hxz
      exact .inr ⟨hafter x (by simp), before, y, after, rfl, hy,
        fun w hw => hafter w (List.mem_append_left _ hw)⟩
  · rintro (hx | ⟨hx, before, y, after, rfl, hy, hafter⟩)
    · exact ⟨xs, x, [], rfl, hx, fun _ h => absurd h List.not_mem_nil⟩
    · refine ⟨before, y, after ++ [x], by simp, hy, fun w hw => ?_⟩
      rcases List.mem_append.mp hw with hw | hw
      · exact hafter w hw
      · exact List.mem_singleton.mp hw ▸ hx

end Since

variable {component name level : String} {t : Int} {s s' : State} {done : List Completed}
  {c : Completed}

/-- The name has been started since it was last ended. -/
def Pending (name : String) (done : List Completed) : Prop :=
  Since (fun c => c.request = .start name) (fun c => ∀ level, c.request ≠ .finish name level) done

/-- The name has been started since it was last ended, the last time at `t`. -/
def Started (name : String) (t : Int) (done : List Completed) : Prop :=
  Since (fun c => c.request = .start name ∧ c.began = t)
    (fun c => c.request ≠ .start name ∧ ∀ level, c.request ≠ .finish name level) done

theorem pending_iff : Pending name done ↔ ∃ t, Started name t done := by
  induction done using List.reverseRecOn with
  | nil => exact iff_of_false not_since_nil fun ⟨_, h⟩ => not_since_nil h
  | append_singleton done c ih =>
    simp only [Pending, Started, since_concat] at ih ⊢
    rw [ih]
    by_cases hc : c.request = .start name
    · simp [hc]
    · simp [hc]

/-! ## The table -/

/-- The table has the names that have been started since they were last ended, each with the time of
its last start. -/
structure Holds (s : State) (done : List Completed) : Prop where
  nodup : (Entries.names s.running).Nodup
  running : ∀ name t, Entries.find? name s.running = some t ↔ Started name t done

theorem holds_nil (now : Int) (log : List (Level × String)) : Holds ⟨[], now, log⟩ [] :=
  ⟨List.nodup_nil, fun _ _ => iff_of_false (by simp [Entries.find?]) not_since_nil⟩

theorem Holds.mem_names_iff (h : Holds s done) :
    name ∈ Entries.names s.running ↔ Pending name done := by
  rw [pending_iff, ← Entries.isSome_find?_iff, Option.isSome_iff_exists]
  exact exists_congr fun t => h.running name t

theorem Holds.start (h : Holds s done) (hc : c.request = .start name) (hnow : c.began = s.now) :
    Holds (start name s) (done ++ [c]) where
  nodup := Entries.nodup_names_put h.nodup
  running n t := by
    rw [Timing.start, Entries.find?_put, Started, since_concat, ← Started, ← h.running, hc, hnow]
    by_cases hn : n = name
    · simp [hn]
    · simp [hn, Ne.symm hn]

theorem finish_of_none (h : Entries.find? name s.running = none) :
    finish component name level s =
      (0, { s with log := s.log ++ [(.warning, "No start time found for " ++ name)] }) := by
  rw [Timing.finish, h]

theorem finish_of_some (h : Entries.find? name s.running = some t) :
    finish component name level s = (s.now - t, { s with
      running := Entries.erase name s.running
      log := s.log ++ [(levelOf level, durationText component name (s.now - t))] }) := by
  rw [Timing.finish, h]
  rfl

/-- An end takes its name out of the table, whether it was there or not. -/
theorem Holds.finish (h : Holds s done) (hc : c.request = .finish name level) :
    Holds (finish component name level s).2 (done ++ [c]) := by
  have hstarted (n : String) (t : Int) :
      Started n t (done ++ [c]) ↔ n ≠ name ∧ Entries.find? n s.running = some t := by
    rw [Started, since_concat, ← Started, ← h.running, hc]
    simp [eq_comm]
  cases hfind : Entries.find? name s.running with
  | none =>
    rw [finish_of_none hfind]
    refine ⟨h.nodup, fun n t => ?_⟩
    rw [hstarted]
    by_cases hn : n = name
    · simp [hn, hfind]
    · simp [hn]
  | some t =>
    rw [finish_of_some hfind]
    refine ⟨Entries.nodup_names_erase h.nodup name, fun n t => ?_⟩
    rw [hstarted]
    by_cases hn : n = name
    · simp [hn, Entries.find?_erase_self h.nodup]
    · simp [hn, Entries.find?_erase_of_ne hn]

theorem Holds.measure (h : Holds s done) (hrunning : s'.running = s.running)
    (hc : c.request = .measure name level) : Holds s' (done ++ [c]) where
  nodup := hrunning ▸ h.nodup
  running n t := by
    rw [hrunning, h.running, Started, Started, since_concat, hc]
    simp

/-! ## Answers -/

/-- A request is answered as the requests before it have it. A start logs nothing. An end of a name
that is pending logs one duration, the time since the last start, and gives it; any other end logs one
warning and gives zero. A block logs one duration of its own, behind what is logged in it. -/
inductive Answers (component : String) (done : List Completed) (c : Completed) : Prop where
  | start {name : String} (request : c.request = .start name) (seconds : c.seconds = none)
      (log : c.log = [])
  | finish {name level : String} {t : Int} (request : c.request = .finish name level)
      (started : Started name t done) (seconds : c.seconds = some (c.ended - t))
      (log : c.log = [(levelOf level, durationText component name (c.ended - t))])
  | missing {name level : String} (request : c.request = .finish name level)
      (missing : ¬ Pending name done) (seconds : c.seconds = some 0)
      (log : c.log = [(.warning, "No start time found for " ++ name)])
  | measure {name level : String} {inside : List (Level × String)}
      (request : c.request = .measure name level) (seconds : c.seconds = none)
      (log : c.log = inside ++
        [(levelOf level, durationText component name (c.ended - c.began))])

/-- A request is answered, and leaves running what is then pending. -/
structure Fits (component : String) (done : List Completed) (c : Completed) : Prop where
  answers : Answers component done c
  nodup : c.running.Nodup
  running : ∀ name, name ∈ c.running ↔ Pending name (done ++ [c])

/-- Each request fits those that were completed before it. -/
def AllFit (component : String) : (done cs : List Completed) → Prop
  | _, [] => True
  | done, c :: cs => Fits component done c ∧ AllFit component (done ++ [c]) cs

theorem allFit_append {cs ds : List Completed} :
    AllFit component done (cs ++ ds) ↔
      AllFit component done cs ∧ AllFit component (done ++ cs) ds := by
  induction cs generalizing done with
  | nil => simp [AllFit]
  | cons c cs ih =>
    rw [List.cons_append, AllFit, AllFit, ih, and_assoc, List.append_assoc, List.singleton_append]

/-- What a request has logged itself: in a block, what is logged last. -/
def Completed.entry? (c : Completed) : Option (Level × String) :=
  c.log.getLast?

/-- What is certain of a run of steps behind the requests `done`. -/
structure Fulfils (component : String) (done : List Completed) (s : State) (r : Run) : Prop where
  holds : Holds r.state (done ++ r.completed)
  fits : AllFit component done r.completed
  log : r.state.log = s.log ++ r.completed.filterMap Completed.entry?

/-- Steps without requests. -/
theorem fulfils_nil (h : Holds s' done) (hlog : s'.log = s.log) (failed : Option String) :
    Fulfils component done s ⟨s', [], failed⟩ where
  holds := by rwa [List.append_nil]
  fits := trivial
  log := by rw [List.filterMap_nil, List.append_nil, hlog]

/-- A request behind others. -/
theorem Fulfils.concat {r : Run} (h : Fulfils component done s r)
    (hs : Holds s' (done ++ r.completed ++ [c])) (hrunning : c.running = Entries.names s'.running)
    (hc : Answers component (done ++ r.completed) c)
    (hlog : s'.log = r.state.log ++ c.entry?.toList) (failed : Option String) :
    Fulfils component done s ⟨s', r.completed ++ [c], failed⟩ where
  holds := by rwa [← List.append_assoc]
  fits := by
    refine allFit_append.mpr ⟨h.fits, ⟨hc, ?_, fun name => ?_⟩, trivial⟩
    · exact hrunning ▸ hs.nodup
    · rw [hrunning, hs.mem_names_iff]
  log := by
    rw [hlog, h.log, List.filterMap_append, List.append_assoc]
    cases hentry : c.entry? <;> simp [hentry]

theorem andThen_of_failed {r : Run} {reason : String} (h : r.failed = some reason)
    (next : State → Run) : r.andThen next = r := by
  rw [Run.andThen, h]

theorem andThen_of_not_failed {r : Run} (h : r.failed = none) (next : State → Run) :
    r.andThen next =
      ⟨(next r.state).state, r.completed ++ (next r.state).completed, (next r.state).failed⟩ := by
  rw [Run.andThen, h]

theorem Fulfils.andThen {r : Run} {next : State → Run} (h : Fulfils component done s r)
    (hnext : Holds r.state (done ++ r.completed) →
      Fulfils component (done ++ r.completed) r.state (next r.state)) :
    Fulfils component done s (r.andThen next) := by
  cases hr : r.failed with
  | some reason => rwa [andThen_of_failed hr]
  | none =>
    have hrest := hnext h.holds
    rw [andThen_of_not_failed hr]
    exact ⟨by rw [← List.append_assoc]; exact hrest.holds,
      allFit_append.mpr ⟨h.fits, hrest.fits⟩,
      by rw [hrest.log, h.log, List.filterMap_append, List.append_assoc]⟩

/-! ## Runs -/

theorem log_complete (request : Request) (seconds : Option Int) (failed : Option String)
    {l : List (Level × String)} (h : s'.log = s.log ++ l) :
    (complete request seconds failed s s').log = l := by
  rw [complete, h, List.drop_left]

theorem start_fulfils (h : Holds s done) (component name : String) :
    Fulfils component done s (runStep component s (.start name)) := by
  let c := complete (.start name) none none s (start name s)
  have hlog : c.log = [] := log_complete _ _ _ (List.append_nil s.log).symm
  refine (fulfils_nil h rfl none).concat (c := c) ?_ rfl (.start rfl rfl hlog) ?_ none
  · rw [List.append_nil]
    exact h.start rfl rfl
  · rw [Completed.entry?, hlog]
    exact (List.append_nil s.log).symm

/-- What an end logs, and why. -/
theorem finish_answers (h : Holds s done) (component name level : String) :
    ∃ entry, (finish component name level s).2.log = s.log ++ [entry] ∧
      ∀ c : Completed, c.request = .finish name level → c.ended = s.now →
        c.seconds = some (finish component name level s).1 → c.log = [entry] →
          Answers component done c := by
  cases hfind : Entries.find? name s.running with
  | none =>
    have hmissing : ¬ Pending name done := fun hpending =>
      Entries.find?_eq_none_iff.mp hfind (h.mem_names_iff.mpr hpending)
    rw [finish_of_none hfind]
    exact ⟨_, rfl, fun c hc _ hseconds hlog => .missing hc hmissing hseconds hlog⟩
  | some t =>
    have hstarted : Started name t done := (h.running name t).mp hfind
    rw [finish_of_some hfind]
    exact ⟨_, rfl, fun c hc hended hseconds hlog =>
      .finish hc hstarted (hended ▸ hseconds) (hended ▸ hlog)⟩

theorem finish_fulfils (h : Holds s done) (component name level : String) :
    Fulfils component done s (runStep component s (.finish name level)) := by
  let c := complete (.finish name level) (some (finish component name level s).1) none s
    (finish component name level s).2
  have hnow : c.ended = s.now := by
    change (finish component name level s).2.now = s.now
    unfold finish
    split <;> rfl
  obtain ⟨entry, hentry, hanswers⟩ := finish_answers h component name level
  have hlog : c.log = [entry] := log_complete _ _ _ hentry
  refine (fulfils_nil h rfl none).concat (c := c) ?_ rfl ?_ ?_ none
  · rw [List.append_nil]
    exact h.finish rfl
  · rw [List.append_nil]
    exact hanswers c rfl hnow rfl hlog
  · rw [hentry, Completed.entry?, hlog]
    rfl

/-- A block adds itself to what is completed in it, and its duration to what is logged in it. -/
theorem Fulfils.block {r : Run} (h : Fulfils component done s r) (name level : String) :
    let after := logDuration component name level (r.state.now - s.now) r.state
    Fulfils component done s ⟨after,
      r.completed ++ [complete (.measure name level) none r.failed s after], r.failed⟩ := by
  intro after
  let c := complete (.measure name level) none r.failed s after
  let entry := (levelOf level, durationText component name (r.state.now - s.now))
  have hlog : c.log = r.completed.filterMap Completed.entry? ++ [entry] := by
    refine log_complete _ _ _ ?_
    change r.state.log ++ [entry] = _
    rw [h.log, List.append_assoc]
  have hafter : Holds after (done ++ r.completed ++ [c]) := h.holds.measure rfl rfl
  refine h.concat hafter rfl (.measure rfl rfl hlog) ?_ r.failed
  rw [Completed.entry?, hlog, List.getLast?_concat]
  rfl

mutual

/-- Every step keeps the table right and answers its requests from those before it, by induction on the
step together with the steps in it. -/
theorem runStep_fulfils (component : String) : (step : Step) → {s : State} →
    {done : List Completed} → Holds s done → Fulfils component done s (runStep component s step)
  | .tick n, s, done, h =>
    have hlater : Holds { s with now := s.now + n } done := ⟨h.nodup, h.running⟩
    have hlog : ({ s with now := s.now + n } : State).log = s.log := rfl
    fulfils_nil hlater hlog none
  | .start name, _, _, h => start_fulfils h component name
  | .finish name level, _, _, h => finish_fulfils h component name level
  | .block name level body, _, _, h => (runSteps_fulfils component body h).block name level
  | .attempt body, _, _, h => by
    have hbody := runSteps_fulfils component body h
    exact ⟨hbody.holds, hbody.fits, hbody.log⟩
  | .fail reason, _, _, h => fulfils_nil h rfl (some reason)

theorem runSteps_fulfils (component : String) : (steps : List Step) → {s : State} →
    {done : List Completed} → Holds s done → Fulfils component done s (runSteps component s steps)
  | [], _, _, h => fulfils_nil h rfl none
  | step :: rest, _, _, h =>
    (runStep_fulfils component step h).andThen (runSteps_fulfils component rest)

end

/-! ## Which requests are made -/

mutual

/-- The requests that a step makes, inner ones first, and the reason if it fails. -/
def asked : Step → List Request × Option String
  | .tick _ => ([], none)
  | .start name => ([.start name], none)
  | .finish name level => ([.finish name level], none)
  | .block name level body => ((askedBy body).1 ++ [.measure name level], (askedBy body).2)
  | .attempt body => ((askedBy body).1, none)
  | .fail reason => ([], some reason)

/-- The requests that several steps make, up to a failure. -/
def askedBy : List Step → List Request × Option String
  | [] => ([], none)
  | step :: rest =>
    match (asked step).2 with
    | some reason => ((asked step).1, some reason)
    | none => ((asked step).1 ++ (askedBy rest).1, (askedBy rest).2)

end

/-- A run completes the requests that are made, in order, and fails for the reason given. -/
structure Follows (asked : List Request × Option String) (r : Run) : Prop where
  requests : r.completed.map Completed.request = asked.1
  failed : r.failed = asked.2

mutual

/-- What a step asks of a timer and how it fails does not depend on the timer. -/
theorem runStep_follows (component : String) : (step : Step) → (s : State) →
    Follows (asked step) (runStep component s step)
  | .tick _, _ => ⟨rfl, rfl⟩
  | .start _, _ => ⟨rfl, rfl⟩
  | .finish .., _ => ⟨rfl, rfl⟩
  | .block name level body, s => by
    have hbody := runSteps_follows component body s
    refine ⟨?_, hbody.failed⟩
    rw [asked, ← hbody.requests, runStep, List.map_append]
    rfl
  | .attempt body, s => by
    rw [asked]
    exact ⟨(runSteps_follows component body s).requests, rfl⟩
  | .fail _, _ => ⟨rfl, rfl⟩

theorem runSteps_follows (component : String) : (steps : List Step) → (s : State) →
    Follows (askedBy steps) (runSteps component s steps)
  | [], _ => ⟨rfl, rfl⟩
  | step :: rest, s => by
    have hfirst := runStep_follows component step s
    have hrest := runSteps_follows component rest (runStep component s step).state
    rw [runSteps, askedBy, ← hfirst.failed]
    cases hfailed : (runStep component s step).failed with
    | some reason =>
      rw [andThen_of_failed hfailed]
      exact ⟨hfirst.requests, hfailed⟩
    | none =>
      rw [andThen_of_not_failed hfailed]
      exact ⟨by rw [List.map_append, hfirst.requests, hrest.requests], hrest.failed⟩

end

/-! ## Blocks -/

/-- What a block does that starts at the time `began`, from the run of the steps in it: it fails as they
do, changes nothing in the table, and logs one duration. -/
structure Measures (component name level : String) (began : Int) (inner block : Run) : Prop where
  failed : block.failed = inner.failed
  running : block.state.running = inner.state.running
  log : block.state.log = inner.state.log ++
    [(levelOf level, durationText component name (inner.state.now - began))]
  completed : ∃ c, block.completed = inner.completed ++ [c] ∧
    c.request = .measure name level ∧ c.failed = inner.failed

theorem measures_runStep (component name level : String) (s : State) (body : List Step) :
    Measures component name level s.now (runSteps component s body)
      (runStep component s (.block name level body)) :=
  ⟨rfl, rfl, rfl, _, rfl, rfl, rfl⟩

mutual

/-- A step with what stands in its blocks, at any depth, in their place. -/
def unblock : Step → List Step
  | .tick n => [.tick n]
  | .start name => [.start name]
  | .finish name level => [.finish name level]
  | .block _ _ body => unblockAll body
  | .attempt body => [.attempt (unblockAll body)]
  | .fail reason => [.fail reason]

/-- Several steps without their blocks. -/
def unblockAll : List Step → List Step
  | [] => []
  | step :: rest => unblock step ++ unblockAll rest

end

/-- Whether a request is a measured block. -/
def Request.isMeasure : Request → Bool
  | measure .. => true
  | start _ | finish .. => false

/-- The two states have the same clock and the same table. -/
structure Alike (s s' : State) : Prop where
  now : s'.now = s.now
  running : s'.running = s.running

/-- The second run is the first one without its blocks: it fails in the same way, leaves the same table,
and each start and end of the first is answered alike in it. -/
structure Mirrors (r r' : Run) : Prop where
  failed : r'.failed = r.failed
  alike : Alike r.state r'.state
  completed : r'.completed = r.completed.filter fun c => !c.request.isMeasure

theorem mirrors_nil (h : Alike s s') (failed : Option String) :
    Mirrors ⟨s, [], failed⟩ ⟨s', [], failed⟩ :=
  ⟨rfl, h, rfl⟩

theorem Mirrors.andThen {r r' : Run} {next next' : State → Run} (h : Mirrors r r')
    (hnext : Alike r.state r'.state → Mirrors (next r.state) (next' r'.state)) :
    Mirrors (r.andThen next) (r'.andThen next') := by
  cases hr : r.failed with
  | some reason =>
    rwa [andThen_of_failed hr, andThen_of_failed (h.failed.trans hr)]
  | none =>
    have hrest := hnext h.alike
    rw [andThen_of_not_failed hr, andThen_of_not_failed (h.failed.trans hr)]
    exact ⟨hrest.failed, hrest.alike, by rw [h.completed, hrest.completed, List.filter_append]⟩

theorem andThen_assoc (r : Run) (f g : State → Run) :
    (r.andThen f).andThen g = r.andThen fun s => (f s).andThen g := by
  cases hr : r.failed with
  | some reason => rw [andThen_of_failed hr, andThen_of_failed hr, andThen_of_failed hr]
  | none =>
    rw [andThen_of_not_failed hr, andThen_of_not_failed hr]
    cases hf : (f r.state).failed with
    | some reason => rw [andThen_of_failed rfl, andThen_of_failed hf, hf]
    | none => rw [andThen_of_not_failed rfl, andThen_of_not_failed hf, List.append_assoc]

theorem runSteps_append (component : String) (s : State) (as bs : List Step) :
    runSteps component s (as ++ bs) =
      (runSteps component s as).andThen fun s => runSteps component s bs := by
  induction as generalizing s with
  | nil => rfl
  | cons step as ih =>
    rw [List.cons_append, runSteps, runSteps, andThen_assoc]
    exact congrArg _ (funext ih)

theorem runSteps_singleton (component : String) (s : State) (step : Step) :
    runSteps component s [step] = runStep component s step := by
  rw [runSteps]
  cases h : (runStep component s step).failed with
  | some reason => rw [andThen_of_failed h]
  | none => rw [andThen_of_not_failed h, runSteps, List.append_nil, ← h]

/-- A start or an end between states that are alike, which logs the same. -/
theorem mirrors_of_alike {r r' : State} {l : List (Level × String)} {request : Request}
    (hs : Alike s s') (hr : Alike r r') (hlog : r.log = s.log ++ l) (hlog' : r'.log = s'.log ++ l)
    (hrequest : request.isMeasure = false) (seconds : Option Int) :
    Mirrors ⟨r, [complete request seconds none s r], none⟩
      ⟨r', [complete request seconds none s' r'], none⟩ := by
  refine ⟨rfl, hr, ?_⟩
  have hsame : complete request seconds none s' r' = complete request seconds none s r := by
    unfold complete
    rw [hs.now, hr.now, hr.running, hlog, hlog', List.drop_left, List.drop_left]
  have hkept : (!request.isMeasure) = true := by rw [hrequest]; rfl
  rw [hsame]
  exact (List.filter_cons_of_pos (p := fun c => !c.request.isMeasure)
    (l := []) (a := complete request seconds none s r) hkept).symm

theorem start_mirrors (h : Alike s s') (component name : String) :
    Mirrors (runStep component s (.start name)) (runStep component s' (.start name)) := by
  have hstarted : Alike (start name s) (start name s') :=
    ⟨h.now, by rw [start, start, h.now, h.running]⟩
  exact mirrors_of_alike h hstarted (List.append_nil _).symm (List.append_nil _).symm rfl none

theorem finish_alike (h : Alike s s') (component name level : String) :
    Alike (finish component name level s).2 (finish component name level s').2 ∧
      (finish component name level s').1 = (finish component name level s).1 ∧
      ∃ entry, (finish component name level s).2.log = s.log ++ [entry] ∧
        (finish component name level s').2.log = s'.log ++ [entry] := by
  cases hfind : Entries.find? name s.running with
  | none =>
    rw [finish_of_none hfind, finish_of_none (h.running ▸ hfind)]
    exact ⟨⟨h.now, h.running⟩, rfl, _, rfl, rfl⟩
  | some t =>
    rw [finish_of_some hfind, finish_of_some (h.running ▸ hfind), h.now, h.running]
    exact ⟨⟨rfl, rfl⟩, rfl, _, rfl, rfl⟩

theorem runStep_finish (component name level : String) (s : State) :
    runStep component s (.finish name level) =
      ⟨(finish component name level s).2, [complete (.finish name level)
        (some (finish component name level s).1) none s (finish component name level s).2],
        none⟩ :=
  rfl

theorem finish_mirrors (h : Alike s s') (component name level : String) :
    Mirrors (runStep component s (.finish name level))
      (runStep component s' (.finish name level)) := by
  obtain ⟨hafter, hseconds, entry, hlog, hlog'⟩ := finish_alike h component name level
  have hrequest : (Request.finish name level).isMeasure = false := rfl
  rw [runStep_finish, runStep_finish, hseconds]
  exact mirrors_of_alike h hafter hlog hlog' hrequest _

mutual

/-- Without its blocks a step does the same, by induction on the step together with the steps in it. -/
theorem runStep_mirrors (component : String) : (step : Step) → {s s' : State} → Alike s s' →
    Mirrors (runStep component s step) (runSteps component s' (unblock step))
  | .tick n, s, s', h => by
    have hlater : Alike { s with now := s.now + n } { s' with now := s'.now + n } :=
      ⟨congrArg (· + n) h.now, h.running⟩
    rw [unblock, runSteps_singleton]
    exact mirrors_nil hlater none
  | .start name, s, s', h => by
    rw [unblock, runSteps_singleton]
    exact start_mirrors h component name
  | .finish name level, s, s', h => by
    rw [unblock, runSteps_singleton]
    exact finish_mirrors h component name level
  | .block name level body, s, s', h => by
    rw [unblock]
    have hbody := runSteps_mirrors component body h
    refine ⟨hbody.failed, ⟨hbody.alike.now, hbody.alike.running⟩, ?_⟩
    -- the block itself is left out
    rw [runStep, List.filter_append, ← hbody.completed]
    exact (List.append_nil _).symm
  | .attempt body, s, s', h => by
    rw [unblock, runSteps_singleton]
    have hbody := runSteps_mirrors component body h
    exact ⟨rfl, hbody.alike, hbody.completed⟩
  | .fail reason, s, s', h => by
    rw [unblock, runSteps_singleton]
    exact mirrors_nil h (some reason)

theorem runSteps_mirrors (component : String) : (steps : List Step) → {s s' : State} →
    Alike s s' → Mirrors (runSteps component s steps) (runSteps component s' (unblockAll steps))
  | [], _, _, h => mirrors_nil h none
  | step :: rest, s, s', h => by
    rw [unblockAll, runSteps_append, runSteps]
    exact (runStep_mirrors component step h).andThen (runSteps_mirrors component rest)

end

/-! ## Main statement -/

/-- What is certain of a run of steps that begins with an empty table: every request is completed that
the steps make, and is answered as the requests before it have it; the table holds what is pending, and
the log has one entry for each end and each block, and nothing else. -/
structure Accounts (component : String) (log : List (Level × String)) (steps : List Step)
    (r : Run) : Prop where
  follows : Follows (askedBy steps) r
  fits : ∀ before c after, r.completed = before ++ c :: after → Fits component before c
  nodup : (Entries.names r.state.running).Nodup
  running : ∀ name, name ∈ Entries.names r.state.running ↔ Pending name r.completed
  log : r.state.log = log ++ r.completed.filterMap Completed.entry?

/-- All that a new timer does in a run of starts, ends, measured blocks and failures, at whatever times.
An end logs one duration if its name has been started since it was last ended, and else one warning;
the table always has just the names for which that is so. A block logs one duration, also if it fails,
and then fails for the same reason; without the blocks the same would be started and ended, with the
same answers. -/
theorem runSteps_accounts (component : String) (now : Int) (log : List (Level × String))
    (steps : List Step) :
    Accounts component log steps (runSteps component ⟨[], now, log⟩ steps) ∧
    (∀ name level s body, Measures component name level s.now (runSteps component s body)
      (runStep component s (.block name level body))) ∧
    Mirrors (runSteps component ⟨[], now, log⟩ steps)
      (runSteps component ⟨[], now, log⟩ (unblockAll steps)) := by
  have h : Fulfils component [] ⟨[], now, log⟩ _ :=
    runSteps_fulfils component steps (holds_nil now log)
  refine ⟨⟨runSteps_follows component steps _, fun before c after hsplit => ?_, h.holds.nodup,
      fun _ => h.holds.mem_names_iff, h.log⟩,
    fun name level s body => measures_runStep component name level s body,
    runSteps_mirrors component steps ⟨rfl, rfl⟩⟩
  have hfits := h.fits
  rw [hsplit, allFit_append] at hfits
  exact hfits.2.1

/-- A block of a name that is started in it, started again and left by a failure. -/
example :
    (runSteps "unit" .initial [.start "parse", .tick 8, .measure "parse" "INFO" [.tick 4,
      .start "parse", .tick 2, .fail "odd"], .finish "parse" "", .finish "parse" ""]).state.log =
    [(.info, "unit parse took 0.3750 seconds"), (.debug, "unit parse took 0.1250 seconds"),
      (.warning, "No start time found for parse")] := by
  decide +kernel

end TypedMarkup.Timing
