import HopWhy.Accuracy.Scoring
import Mathlib.Data.List.Dedup
import Mathlib.Data.List.Induction

/-!
# Accuracy on every corpus

The published corpus is a sample. Over every script the report names the earliest stage
that fails and calls nothing after it, so the scoring of any corpus succeeds exactly when
its labels are right, and then with the metrics that were generated beside it.
-/

namespace HopWhy

variable [Crates]

/-- The clock stays within the budget. -/
def Timely (options : InspectionOptions) (time : ℕ → ℕ) : Prop :=
  ∀ n, time n < time 0 + options.budgetMs.toNat * 1000000

/-- A script is diagnosed with its own course. -/
theorem script_diagnosed {envVar : String → Option String} {spec : InspectSpec}
    (o : Opening envVar spec) (observations : ScenarioObservations) {time : ℕ → ℕ}
    (hlimit : 4 ≤ spec.options.maxProbes.toNat) (htime : Timely spec.options time)
    (wallClock : ℤ) :
    ∃ report w, inspectWithBackend (scriptBackend observations) envVar wallClock spec
        (.start time) = (.ok report, w) ∧
      Diagnosed o.passage (observations.course o.passage.probed) report ∧
      w.calls = (observations.course o.passage.probed).calls o.passage := by
  have hprimed : Primed [] (openingSession spec.options (ScriptWorld.start time)) :=
    ⟨rfl, rfl, hlimit, htime⟩
  obtain ⟨course, t, ⟨rfl, hcalls⟩, hdiagnosed, hworld⟩ :=
    o.course (scriptBackend_keeps observations spec.options o.passage) wallClock
      ⟨hprimed, ⟨by simp, by simp, by simp⟩⟩
  refine ⟨_, _, inspectWithBackend_opening _ o wallClock _, hdiagnosed, ?_⟩
  rw [hworld]
  exact hcalls

def Course.expected (course : Course) (passage : Passage) : Expected where
  failedAt := course.failure.map Prod.fst
  hypothesisCode := (diagnosis course.failure).code
  backendCalls := course.calls passage

def Case.passage (c : Case) : Passage where
  scheme := match parseTarget c.target c.spec.options with
    | .ok parsed => parsed.url.scheme
    | .error _ => ""
  selected := false

def Case.course (c : Case) : Course := c.observations.course c.passage.probed

/-- The labels are right, and an unobservable cause is not named by the diagnosis. -/
structure Case.Labelled (c : Case) : Prop where
  expected : c.expected = c.course.expected c.passage
  modest : c.rootCauseObservable = false →
    definitive (c.course.failure.map Prod.fst) c.hiddenCause (diagnosis c.course.failure) = false

instance (c : Case) : Decidable c.Labelled :=
  decidable_of_iff (c.expected = c.course.expected c.passage ∧
    (c.rootCauseObservable = false → definitive (c.course.failure.map Prod.fst) c.hiddenCause
      (diagnosis c.course.failure) = false))
    ⟨fun h => ⟨h.1, h.2⟩, fun h => ⟨h.expected, h.modest⟩⟩

/-- A trial that can be played to its end. -/
structure Trial.Playable (trial : Trial) : Prop where
  accepted : ∃ parsed, parseTarget trial.scenario.target trial.scenario.spec.options = .ok parsed
  timely : Timely trial.scenario.spec.options trial.time

omit [Crates] in
theorem probeLimit_spec {c : Case} : 4 ≤ c.spec.options.maxProbes.toNat :=
  (by decide : 4 ≤ ({ disableProxy := true } : InspectionOptions).maxProbes.toNat)

/-- The trial of a case is diagnosed with the course of the case. -/
theorem play_diagnosed {trial : Trial} (h : trial.Playable) :
    ∃ report w, trial.play = (.ok report, w) ∧
      Diagnosed trial.scenario.passage trial.scenario.course report ∧
      w.calls = trial.scenario.course.calls trial.scenario.passage := by
  obtain ⟨parsed, hparsed⟩ := h.accepted
  let o : Opening trial.envVar trial.scenario.spec := {
    parsed
    proxy := directProxySummary (parsed.url.hostStr.getD "") (parsed.url.portOrKnownDefault.getD 0)
      (some "proxy use disabled by option")
    valid := rfl
    accepts := hparsed
    selects := rfl }
  have hpassage : o.passage = trial.scenario.passage := by
    unfold Case.passage
    rw [hparsed]
    rfl
  have hrun :=
    script_diagnosed o trial.scenario.observations probeLimit_spec h.timely trial.wallClock
  rw [hpassage] at hrun
  exact hrun

omit [Crates] in
theorem phaseLabel_failure (course : Course) :
    phaseLabel (course.failure.map Prod.fst) =
      some (((course.failure.map Prod.fst).map PhaseName.label).getD "success") := by
  cases course with
  | answered statuses stopped =>
    rcases stopped with _ | cause
    · rfl
    · rfl
  | _ => rfl

/-- What a case with right labels adds. -/
def Scoreboard.add (board : Scoreboard) (c : Case) : Scoreboard :=
  board.enter c true true true 0 c.expectedLabel c.expectedLabel

omit [Crates] in
theorem expectedLabel_eq (c : Case) :
    c.expectedLabel = (c.expected.failedAt.map PhaseName.label).getD "success" := by
  unfold Case.expectedLabel
  rcases c.expected.failedAt with _ | phase
  · rfl
  · rfl

theorem definitiveClaims_of_diagnosed {c : Case} {report : Report}
    (h : Diagnosed c.passage c.course report) :
    definitiveClaims report c = 0 ↔ (c.rootCauseObservable = false →
      definitive (c.course.failure.map Prod.fst) c.hiddenCause (diagnosis c.course.failure) =
        false) := by
  rw [definitiveClaims, h.hypotheses, h.failedAt]
  rcases hobservable : c.rootCauseObservable with _ | _
  · simp
  · simp

/-- A case passes when its labels are right, and is not seen a second time. -/
theorem scoreTrial_eq (board : Scoreboard) {trial : Trial} (h : trial.Playable) :
    scoreTrial board trial =
      if trial.scenario.id ∉ board.identifiers ∧ trial.scenario.Labelled then
        some (board.add trial.scenario)
      else none := by
  obtain ⟨report, w, hrun, hdiagnosed, hcalls⟩ := play_diagnosed h
  unfold scoreTrial
  rw [hrun]
  dsimp only
  rw [hcalls, hdiagnosed.failedAt, hdiagnosed.hypotheses, phaseLabel_failure]
  by_cases hexpected :
      trial.scenario.expected = trial.scenario.course.expected trial.scenario.passage
  · have hlabel : trial.scenario.expectedLabel =
        ((trial.scenario.course.failure.map Prod.fst).map PhaseName.label).getD "success" := by
      rw [expectedLabel_eq, hexpected]
      rfl
    have hlabelled : trial.scenario.Labelled ↔ definitiveClaims report trial.scenario = 0 :=
      ⟨fun hl => (definitiveClaims_of_diagnosed hdiagnosed).mpr hl.modest,
        fun hclaims => ⟨hexpected, (definitiveClaims_of_diagnosed hdiagnosed).mp hclaims⟩⟩
    have hphase : (trial.scenario.course.failure.map Prod.fst ==
        trial.scenario.expected.failedAt) = true := by
      rw [hexpected]
      exact beq_self_eq_true _
    have hcircuit : (trial.scenario.course.calls trial.scenario.passage ==
        trial.scenario.expected.backendCalls) = true := by
      rw [hexpected]
      exact beq_self_eq_true _
    have hcode : ([diagnosis trial.scenario.course.failure].head?.any fun h => h.code ==
        trial.scenario.expected.hypothesisCode) = true := by
      rw [hexpected]
      exact beq_self_eq_true _
    have hscored : phaseLabel trial.scenario.expected.failedAt =
        some (((trial.scenario.course.failure.map Prod.fst).map PhaseName.label).getD
          "success") := by
      rw [hexpected]
      exact phaseLabel_failure _
    rw [hphase, hcircuit, hcode, hscored]
    dsimp only
    by_cases hpass : trial.scenario.id ∉ board.identifiers ∧ trial.scenario.Labelled
    · have hclaims := hlabelled.mp hpass.2
      rw [if_pos hpass, if_pos ⟨hpass.1, rfl, rfl, rfl, hclaims⟩, hclaims, Scoreboard.add, hlabel]
    · rw [if_neg hpass, if_neg fun h => hpass ⟨h.1, hlabelled.mpr h.2.2.2.2⟩]
  · have hnot : ¬ trial.scenario.Labelled := fun hl => hexpected hl.expected
    rw [if_neg fun hboth => hnot hboth.2]
    rcases phaseLabel trial.scenario.expected.failedAt with _ | label
    · rfl
    · dsimp only
      rw [if_neg]
      rintro ⟨-, hphase, hcircuit, hcode, -⟩
      apply hexpected
      rcases hlabels : trial.scenario.expected with ⟨failedAt, hypothesisCode, backendCalls⟩
      rw [hlabels] at hphase hcircuit hcode
      obtain rfl := eq_of_beq hphase
      obtain rfl := eq_of_beq hcircuit
      obtain rfl := eq_of_beq hcode
      rfl

/-- Each case is there once and has right labels. -/
structure RightlyLabelled (cases : List Case) : Prop where
  distinct : (cases.map Case.id).Nodup
  labelled : ∀ c ∈ cases, c.Labelled

instance (cases : List Case) : Decidable (RightlyLabelled cases) :=
  decidable_of_iff ((cases.map Case.id).Nodup ∧ ∀ c ∈ cases, c.Labelled)
    ⟨fun h => ⟨h.1, h.2⟩, fun h => ⟨h.distinct, h.labelled⟩⟩

theorem rightlyLabelled_snoc (cases : List Case) (c : Case) :
    RightlyLabelled (cases ++ [c]) ↔
      RightlyLabelled cases ∧ c.id ∉ cases.map Case.id ∧ c.Labelled := by
  constructor
  · rintro ⟨hdistinct, hlabelled⟩
    rw [List.map_append, List.map_singleton, List.nodup_append] at hdistinct
    refine ⟨⟨hdistinct.1, fun c hc => hlabelled c (List.mem_append_left _ hc)⟩, ?_,
      hlabelled c (List.mem_append_right _ List.mem_cons_self)⟩
    intro hmem
    exact hdistinct.2.2 c.id hmem c.id List.mem_cons_self rfl
  · rintro ⟨⟨hdistinct, hlabelled⟩, hnew, hc⟩
    constructor
    · rw [List.map_append, List.map_singleton]
      exact List.nodup_append.mpr ⟨hdistinct, List.nodup_singleton _, by
        rintro id hid id' hid' rfl
        exact hnew (List.mem_singleton.mp hid' ▸ hid)⟩
    · intro c' hc'
      rcases List.mem_append.mp hc' with hold | hnew
      · exact hlabelled c' hold
      · exact List.mem_singleton.mp hnew ▸ hc

/-- The scoreboard of a rightly labelled corpus. -/
def boardOf (cases : List Case) : Scoreboard := cases.foldl Scoreboard.add .start

omit [Crates] in
theorem boardOf_snoc (cases : List Case) (c : Case) :
    boardOf (cases ++ [c]) = (boardOf cases).add c := by
  rw [boardOf, List.foldl_append]
  rfl

omit [Crates] in
theorem identifiers_boardOf (cases : List Case) :
    (boardOf cases).identifiers = cases.map Case.id := by
  induction cases using List.reverseRecOn with
  | nil => rfl
  | append_singleton cases c ih =>
    rw [boardOf_snoc, List.map_append, ← ih]
    rfl

/-- The scoring reaches the end of a rightly labelled corpus and of no other. -/
theorem foldlM_scoreTrial {trials : List Trial} (h : ∀ trial ∈ trials, trial.Playable) :
    trials.foldlM scoreTrial .start =
      if RightlyLabelled (trials.map Trial.scenario) then
        some (boardOf (trials.map Trial.scenario))
      else none := by
  induction trials using List.reverseRecOn with
  | nil => exact (if_pos ⟨List.nodup_nil, by simp⟩).symm
  | append_singleton trials trial ih =>
    have hplayable := h trial (List.mem_append_right _ List.mem_cons_self)
    rw [List.foldlM_append, ih fun t ht => h t (List.mem_append_left _ ht), List.map_append,
      List.map_singleton]
    by_cases hlabelled : RightlyLabelled (trials.map Trial.scenario)
    · rw [if_pos hlabelled, Option.bind_eq_bind, Option.bind_some, List.foldlM_cons,
        scoreTrial_eq _ hplayable, identifiers_boardOf]
      by_cases hpass : trial.scenario.id ∉ (trials.map Trial.scenario).map Case.id ∧
          trial.scenario.Labelled
      · rw [if_pos hpass, if_pos ((rightlyLabelled_snoc _ _).mpr ⟨hlabelled, hpass⟩),
          boardOf_snoc]
        rfl
      · rw [if_neg hpass, if_neg fun hall => hpass ((rightlyLabelled_snoc _ _).mp hall).2]
        rfl
    · rw [if_neg hlabelled, if_neg fun hall => hlabelled ((rightlyLabelled_snoc _ _).mp hall).1]
      rfl

/-- The value of a key that was seen, from the number of times. -/
def counted {α : Type} (keys : List String) (key : String) (f : ℕ → α) : Option α :=
  if key ∈ keys then some (f (keys.count key)) else none

section

variable {α : Type} {keys : List String} {key : String} {f : ℕ → α}

omit [Crates]

theorem counted_getD {d : α} (h : key ∉ keys → f 0 = d) :
    (counted keys key f).getD d = f (keys.count key) := by
  unfold counted
  split_ifs with hmem
  · rfl
  · rw [List.count_eq_zero_of_not_mem hmem, h hmem]
    rfl

theorem counted_snoc_self : counted (keys ++ [key]) key f = some (f (keys.count key + 1)) := by
  rw [counted, if_pos (List.mem_append_right _ List.mem_cons_self), List.count_append]
  simp

theorem counted_snoc_of_ne {key' : String} (h : key ≠ key') :
    counted (keys ++ [key']) key f = counted keys key f := by
  simp [counted, h, h.symm]

theorem get?_counter (keys : List String) (key : String) :
    (counter keys).get? key = counted keys key id := by
  have hnodup : ((keys.dedup.map fun key => (key, keys.count key)).map Prod.fst).Nodup := by
    rw [List.map_map]
    simpa [Function.comp_def] using keys.nodup_dedup
  rw [counter, OrderedMap.get?_ofList hnodup, lookup_map_key, counted]
  simp

/-- A map that is made from a counter. -/
theorem get?_ofCounter (g : String → ℕ → α) :
    (OrderedMap.ofList ((counter keys).entries.map fun e => (e.1, g e.1 e.2))).get? key =
      counted keys key (g key) := by
  have hnodup : (((counter keys).entries.map fun e => (e.1, g e.1 e.2)).map Prod.fst).Nodup := by
    rw [List.map_map]
    exact (counter keys).increasing.nodup
  rw [OrderedMap.get?_ofList hnodup, lookup_map_value]
  have hvalue := get?_counter keys key
  rw [OrderedMap.get?] at hvalue
  rw [hvalue, counted, counted]
  split_ifs <;> rfl

end

omit [Crates] in
theorem modify_singleton (key : String) (count : ℕ) :
    (OrderedMap.ofList [(key, count)]).modify key 0 (· + 1) = .ofList [(key, count + 1)] :=
  OrderedMap.ext (by simp [OrderedMap.modify, OrderedMap.ofList, OrderedMap.get?, collectInto,
    insertEntry])

/-- The board holds the counts of the cases. -/
structure Counted (cases : List Case) (board : Scoreboard) : Prop where
  phaseMatches : board.phaseMatches = cases.length
  shortCircuitMatches : board.shortCircuitMatches = cases.length
  hypothesisCodeMatches : board.hypothesisCodeMatches = cases.length
  unobservableCauseCases : board.unobservableCauseCases = unobservable cases
  definitiveRootCauseClaims : board.definitiveRootCauseClaims = 0
  byCategory : ∀ key, board.byCategory.get? key =
    counted (cases.map Case.category) key (perfectCategory cases key)
  confusion : ∀ key, board.confusion.get? key =
    counted (cases.map Case.expectedLabel) key fun count => .ofList [(key, count)]

omit [Crates] in
theorem unobservable_snoc (cases : List Case) (c : Case) :
    unobservable (cases ++ [c]) = unobservable cases + (!c.rootCauseObservable).toNat := by
  rw [unobservable, unobservable, List.countP_append, List.countP_singleton]
  cases c.rootCauseObservable <;> rfl

omit [Crates] in
theorem perfectCategory_snoc_self (cases : List Case) (c : Case) (count : ℕ) :
    perfectCategory (cases ++ [c]) c.category (count + 1) =
      let m := perfectCategory cases c.category count
      { cases := m.cases + 1
        phaseMatches := m.phaseMatches + 1
        shortCircuitMatches := m.shortCircuitMatches + 1
        hypothesisCodeMatches := m.hypothesisCodeMatches + 1
        unobservableCauseCases := m.unobservableCauseCases + (!c.rootCauseObservable).toNat
        definitiveRootCauseClaims := m.definitiveRootCauseClaims + 0 } := by
  simp [perfectCategory, List.filter_append, unobservable_snoc]

omit [Crates] in
theorem perfectCategory_snoc_of_ne {cases : List Case} {c : Case} {key : String}
    (h : key ≠ c.category) : perfectCategory (cases ++ [c]) key = perfectCategory cases key := by
  funext count
  simp [perfectCategory, List.filter_append, h.symm]

omit [Crates] in
theorem Counted.add {cases : List Case} {board : Scoreboard} (h : Counted cases board) (c : Case) :
    Counted (cases ++ [c]) (board.add c) := by
  constructor
  · simp [Scoreboard.add, Scoreboard.enter, h.phaseMatches]
  · simp [Scoreboard.add, Scoreboard.enter, h.shortCircuitMatches]
  · simp [Scoreboard.add, Scoreboard.enter, h.hypothesisCodeMatches]
  · rw [unobservable_snoc, ← h.unobservableCauseCases]
    rfl
  · exact h.definitiveRootCauseClaims
  · intro key
    rw [Scoreboard.add, Scoreboard.enter, OrderedMap.get?_modify, List.map_append,
      List.map_singleton]
    split_ifs with hkey
    · subst hkey
      have hzero : c.category ∉ cases.map Case.category →
          perfectCategory cases c.category 0 = .zero := by
        intro hmem
        have hnone : (cases.filter fun c' => c'.category = c.category) = [] := by
          apply List.filter_eq_nil_iff.mpr
          intro c' hc'
          simpa using fun heq : c'.category = c.category => hmem (heq ▸ List.mem_map_of_mem hc')
        rw [perfectCategory, hnone]
        rfl
      rw [h.byCategory, counted_getD hzero, counted_snoc_self, perfectCategory_snoc_self]
      rfl
    · rw [h.byCategory, counted_snoc_of_ne hkey, perfectCategory_snoc_of_ne hkey]
  · intro key
    rw [Scoreboard.add, Scoreboard.enter, OrderedMap.get?_modify, List.map_append,
      List.map_singleton]
    split_ifs with hkey
    · subst hkey
      rw [h.confusion, counted_snoc_self, counted]
      split_ifs with hmem
      · exact congrArg some (modify_singleton _ _)
      · rw [List.count_eq_zero_of_not_mem hmem]
        rfl
    · rw [h.confusion, counted_snoc_of_ne hkey]

omit [Crates] in
/-- The counts of the board are the published metrics. -/
theorem metrics_boardOf (cases : List Case) :
    (boardOf cases).metrics cases.length = buildMetrics cases := by
  have h : Counted cases (boardOf cases) := by
    induction cases using List.reverseRecOn with
    | nil => exact ⟨rfl, rfl, rfl, rfl, rfl, fun _ => rfl, fun _ => rfl⟩
    | append_singleton cases c ih =>
      rw [boardOf_snoc]
      exact ih.add c
  have hcategory : (boardOf cases).byCategory = (buildMetrics cases).byCategory :=
    OrderedMap.ext_get? fun key => (h.byCategory key).trans
      (get?_ofCounter (perfectCategory cases)).symm
  have hconfusion : (boardOf cases).confusion = (buildMetrics cases).phaseConfusion :=
    OrderedMap.ext_get? fun key => (h.confusion key).trans
      (get?_ofCounter fun phase count => OrderedMap.ofList [(phase, count)]).symm
  unfold Scoreboard.metrics
  rw [h.phaseMatches, h.shortCircuitMatches, h.hypothesisCodeMatches, h.unobservableCauseCases,
    h.definitiveRootCauseClaims, hcategory, hconfusion]
  rfl

/-- The scoring of a corpus succeeds exactly when the corpus is rightly labelled, and its
result is the metrics that are generated with the corpus. -/
theorem scoreCorpus_eq {trials : List Trial} (h : ∀ trial ∈ trials, trial.Playable) :
    scoreCorpus trials =
      if RightlyLabelled (trials.map Trial.scenario) then
        some (buildMetrics (trials.map Trial.scenario))
      else none := by
  rw [scoreCorpus, foldlM_scoreTrial h]
  split_ifs with hlabelled
  · rw [Option.map_some, ← metrics_boardOf, List.length_map]
  · rfl

/-- The targets of the published corpus. -/
def scenarioRecordings : Recordings where
  urls := ["http", "https"].map fun scheme => (scheme ++ "://scenario.example/health",
    { exampleUrl "/health" with scheme, host := some (.domain "scenario.example") })

/-- One published case for each way to end. -/
def sampleCorpus : List Case :=
  Corpus.buildCases.filter fun c =>
    c.id ∈ ["dns-09", "tcp-03", "tls-01", "redirect-02", "success-02"]

def mislabelledCorpus : List Case :=
  sampleCorpus.map fun c => { c with expected.failedAt := none }

/-- The trial of a case with a frozen clock. -/
def Case.trial (c : Case) : Trial := ⟨c, fun _ => 0, fun _ => none, 0⟩

omit [Crates] in
theorem scenario_trials (cases : List Case) :
    (cases.map Case.trial).map Trial.scenario = cases := by
  rw [List.map_map]
  exact List.map_id cases

theorem playable_trials {cases : List Case}
    (h : ∀ c ∈ cases, (parseTarget c.target c.spec.options).toOption.isSome) :
    ∀ trial ∈ cases.map Case.trial, trial.Playable := by
  intro trial htrial
  obtain ⟨c, hc, rfl⟩ := List.mem_map.mp htrial
  have hparsed := h c hc
  constructor
  · change ∃ parsed, parseTarget c.target c.spec.options = .ok parsed
    rcases hrun : parseTarget c.target c.spec.options with error | parsed
    · rw [hrun] at hparsed
      cases hparsed
    · exact ⟨parsed, rfl⟩
  · exact fun _ => (by decide :
      0 < 0 + ({ disableProxy := true } : InspectionOptions).budgetMs.toNat * 1000000)

omit [Crates] in
/-- The sample is scored with its own metrics, and not at all with other labels. -/
theorem sampleCorpus_scored :
    letI := scenarioRecordings.crates
    scoreCorpus (sampleCorpus.map Case.trial) = some (buildMetrics sampleCorpus) ∧
      scoreCorpus (mislabelledCorpus.map Case.trial) = none := by
  let := scenarioRecordings.crates
  have hlabelled : RightlyLabelled sampleCorpus := by decide +kernel
  have hmislabelled : ¬ RightlyLabelled mislabelledCorpus := by decide +kernel
  constructor
  · rw [scoreCorpus_eq (playable_trials (by decide +kernel)), scenario_trials, if_pos hlabelled]
  · rw [scoreCorpus_eq (playable_trials (by decide +kernel)), scenario_trials,
      if_neg hmislabelled]

end HopWhy
