import LinkTrials.Samples

/-!
The samples of a run against the trials they come from.

Samples change by steps. Whatever the steps were, the samples are the tally of the trials given
since the last fresh start: each series holds, in the order of those trials, what they measured for
it, where one of three series only looks at trials that say that they expect it. The tally is a
value of its own, so every view of the samples is compared with the trials and not with the steps.
-/
namespace LinkTrials

namespace Trial

/-- The trial was to give a sample of the series. Of three series it says so itself. -/
def expects (s : Series) (t : Trial) : Bool :=
  match s with
  | .discovererWlan => t.discovererWlanExpected
  | .mediumUpgrade => t.second.upgradeExpected
  | .advertiserWlan => t.advertiserWlanExpected
  | _ => true

/-- The latency measured for a series. -/
def latency? (s : Series) (t : Trial) : Option Span :=
  match s with
  | .firstDiscovery => t.first.discovery
  | .firstConnection => t.first.connection
  | .discovererWlan => t.discovererWlan
  | .secondDiscovery => t.second.discovery
  | .secondConnection => t.second.connection
  | .mediumUpgrade => t.second.upgrade
  | .advertiserWlan => t.advertiserWlan
  | .btThroughput | .wifiThroughput => none

/-- The number measured for a series: seconds or KB/s. -/
def value? (s : Series) (t : Trial) : Option Binary64 :=
  match s with
  | .btThroughput => t.btThroughput
  | .wifiThroughput => t.wifiThroughput
  | latency => (t.latency? latency).map Span.toSeconds

/-- The trial without all that no series looks at: the change of medium in the first round, the
media, and latencies that were not expected. -/
def essence (t : Trial) : Trial :=
  { t with
    first := { discovery := t.first.discovery, connection := t.first.connection }
    second :=
      { t.second with
        carrier := none
        upgrade := if t.second.upgradeExpected then t.second.upgrade else none }
    discovererWlan := if t.discovererWlanExpected then t.discovererWlan else none
    advertiserWlan := if t.advertiserWlanExpected then t.advertiserWlan else none }

end Trial

namespace Samples

/-- What can be done to the samples of a run. -/
inductive Step where
  | record (t : Trial)
  | extend (trials : List Trial)
  /-- The samples of these trials in place of those that there are. -/
  | ofTrials (trials : List Trial)
  | clear

/-- The samples after a step. -/
def apply (m : Samples) : Step → Samples
  | .record t => m.record t
  | .extend trials => m.extend trials
  | .ofTrials trials => ofTrials trials
  | .clear => m.clear

/-- The samples after some steps, at first without a trial. -/
def run (steps : List Step) : Samples := steps.foldl apply empty

/-- The trials that count after a step, if `trials` counted before it. -/
def counted (trials : List Trial) : Step → List Trial
  | .record t => trials ++ [t]
  | .extend more => trials ++ more
  | .ofTrials others => others
  | .clear => []

/-- The trials given since the last fresh start. -/
def given (steps : List Step) : List Trial := steps.foldl counted []

/-- What trials measured, of those that pass a test. -/
def gathered {α : Type} (test : Trial → Bool) (sample : Trial → Option α) (trials : List Trial) :
    Array α :=
  ((trials.filter test).filterMap sample).toArray

/-- The samples of trials, each series from its own field and under its own condition. -/
def tally (trials : List Trial) : Samples where
  firstDiscovery := gathered (fun _ => true) (fun t => t.first.discovery) trials
  firstConnection := gathered (fun _ => true) (fun t => t.first.connection) trials
  discovererWlan :=
    gathered (fun t => t.discovererWlanExpected) (fun t => t.discovererWlan) trials
  btThroughput := gathered (fun _ => true) (fun t => t.btThroughput) trials
  secondDiscovery := gathered (fun _ => true) (fun t => t.second.discovery) trials
  secondConnection := gathered (fun _ => true) (fun t => t.second.connection) trials
  mediumUpgrade := gathered (fun t => t.second.upgradeExpected) (fun t => t.second.upgrade) trials
  advertiserWlan :=
    gathered (fun t => t.advertiserWlanExpected) (fun t => t.advertiserWlan) trials
  wifiThroughput := gathered (fun _ => true) (fun t => t.wifiThroughput) trials
  trialCount := trials.length
  discovererWlanExpected := trials.countP fun t => t.discovererWlanExpected
  mediumUpgradeExpected := trials.countP fun t => t.second.upgradeExpected
  advertiserWlanExpected := trials.countP fun t => t.advertiserWlanExpected

section Tally

variable {α : Type}

theorem gathered_snoc (test : Trial → Bool) (sample : Trial → Option α) (trials : List Trial)
    (t : Trial) :
    gathered test sample (trials ++ [t]) =
      appendIf (test t) (gathered test sample trials) (sample t) := by
  cases h : test t <;> cases hs : sample t <;> simp [gathered, appendIf, append, h, hs]

theorem appendIf_true (series : Array α) (sample : Option α) :
    appendIf true series sample = append series sample := rfl

theorem countP_snoc (test : Trial → Bool) (trials : List Trial) (t : Trial) :
    (trials ++ [t]).countP test = trials.countP test + (test t).toNat := by
  cases h : test t <;> simp [List.countP_append, h]

theorem record_tally (trials : List Trial) (t : Trial) :
    (tally trials).record t = tally (trials ++ [t]) := by
  simp only [record, tally, gathered_snoc, appendIf_true, countP_snoc, List.length_append,
    List.length_singleton]

theorem extend_tally (trials more : List Trial) :
    (tally trials).extend more = tally (trials ++ more) := by
  induction more generalizing trials with
  | nil => simp [extend]
  | cons t rest ih =>
      have step := ih (trials ++ [t])
      rw [List.append_assoc, List.singleton_append] at step
      rw [← step, ← record_tally]
      rfl

theorem empty_eq_tally : empty = tally [] := rfl

theorem ofTrials_eq_tally (trials : List Trial) : ofTrials trials = tally trials := by
  rw [ofTrials, empty_eq_tally, extend_tally, List.nil_append]

/-- Every step keeps the samples the tally of the trials that count. -/
theorem apply_tally (trials : List Trial) (step : Step) :
    (tally trials).apply step = tally (counted trials step) := by
  cases step with
  | record t => exact record_tally trials t
  | extend more => exact extend_tally trials more
  | ofTrials others => exact ofTrials_eq_tally others
  | clear => rfl

theorem foldl_apply_tally (steps : List Step) (trials : List Trial) :
    steps.foldl apply (tally trials) = tally (steps.foldl counted trials) := by
  induction steps generalizing trials with
  | nil => rfl
  | cons step rest ih =>
      rw [List.foldl_cons, List.foldl_cons, apply_tally]
      exact ih (counted trials step)

/-- Samples are the tally of the trials that count, after any steps. -/
theorem run_eq_tally (steps : List Step) : run steps = tally (given steps) :=
  foldl_apply_tally steps []

end Tally

section Views

theorem latencies_tally (s : Series) (trials : List Trial) :
    ((tally trials).latencies s).toList =
      (trials.filter (Trial.expects s)).filterMap (Trial.latency? s) := by
  cases s with
  | btThroughput | wifiThroughput => exact (List.filterMap_eq_nil_iff.2 fun _ _ => rfl).symm
  | _ => rfl

theorem map_filterMap_latency (s : Series) (trials : List Trial) (h : s.isThroughput = false) :
    (trials.filterMap (Trial.latency? s)).map Span.toSeconds =
      trials.filterMap (Trial.value? s) := by
  rw [List.map_filterMap]
  cases s with
  | btThroughput | wifiThroughput => cases h
  | _ => rfl

theorem values_of_latencies (m : Samples) (s : Series) (h : s.isThroughput = false) :
    (m.values s).toList = (m.latencies s).toList.map Span.toSeconds := by
  cases s with
  | btThroughput | wifiThroughput => cases h
  | _ => exact Array.toList_map

theorem values_tally (s : Series) (trials : List Trial) :
    ((tally trials).values s).toList =
      (trials.filter (Trial.expects s)).filterMap (Trial.value? s) := by
  cases h : s.isThroughput with
  | false => rw [values_of_latencies _ s h, latencies_tally, map_filterMap_latency s _ h]
  | true =>
      cases s with
      | btThroughput | wifiThroughput => rfl
      | _ => cases h

theorem sampleCount_eq_size_values (m : Samples) (s : Series) :
    m.sampleCount s = (m.values s).size := by
  cases s <;> simp [sampleCount, values]

theorem expects_of_not_gated {s : Series} (h : s.isGated = false) (t : Trial) :
    t.expects s = true := by
  cases s with
  | discovererWlan | mediumUpgrade | advertiserWlan => cases h
  | _ => rfl

theorem expectedCount_of_not_gated (m : Samples) {s : Series} (h : s.isGated = false) :
    m.expectedCount s = m.trialCount := by
  cases s with
  | discovererWlan | mediumUpgrade | advertiserWlan => cases h
  | _ => rfl

theorem expectedCount_tally (s : Series) (trials : List Trial) :
    (tally trials).expectedCount s =
      if s.isGated then trials.countP (Trial.expects s) else trials.length := by
  cases h : s.isGated with
  | false => exact expectedCount_of_not_gated (tally trials) h
  | true =>
      cases s with
      | discovererWlan | mediumUpgrade | advertiserWlan => rfl
      | _ => cases h

theorem countP_expects (s : Series) (trials : List Trial) :
    trials.countP (Trial.expects s) = (tally trials).expectedCount s := by
  rw [expectedCount_tally]
  cases h : s.isGated with
  | false => exact List.countP_eq_length.2 fun t _ => expects_of_not_gated h t
  | true => rfl

theorem sampleCount_le_expectedCount_tally (s : Series) (trials : List Trial) :
    (tally trials).sampleCount s ≤ (tally trials).expectedCount s := by
  rw [sampleCount_eq_size_values, ← Array.length_toList, values_tally, ← countP_expects,
    List.countP_eq_length_filter]
  exact List.length_filterMap_le _ _

theorem expectedCount_le_trialCount_tally (s : Series) (trials : List Trial) :
    (tally trials).expectedCount s ≤ (tally trials).trialCount := by
  rw [← countP_expects]
  exact List.countP_le_length

end Views

section Influence

theorem gathered_essence {α : Type} {test : Trial → Bool} {sample : Trial → Option α}
    (htest : ∀ t, test t.essence = test t)
    (hsample : ∀ t, test t = true → sample t.essence = sample t) (trials : List Trial) :
    gathered test sample (trials.map Trial.essence) = gathered test sample trials := by
  rw [gathered, gathered, List.filterMap_filter, List.filterMap_filter, List.filterMap_map]
  congr 2
  funext t
  rw [Function.comp_apply, htest]
  cases h : test t with
  | false => rfl
  | true => exact hsample t h

/-- A series that every trial has is untouched if the essence keeps its field. -/
theorem gathered_essence_of_kept {α : Type} {sample : Trial → Option α}
    (kept : ∀ t : Trial, sample t.essence = sample t) (trials : List Trial) :
    gathered (fun _ => true) sample (trials.map Trial.essence) =
      gathered (fun _ => true) sample trials :=
  gathered_essence (fun _ => rfl) (fun t _ => kept t) trials

/-- What `Trial.essence` leaves out does not show in the tally. -/
theorem tally_essence (trials : List Trial) :
    tally (trials.map Trial.essence) = tally trials := by
  -- In three series a sample counts only where it was expected, and only there it is kept.
  have discovererWlan :
      (tally (trials.map Trial.essence)).discovererWlan = (tally trials).discovererWlan :=
    gathered_essence (fun _ => rfl) (fun _ expected => if_pos expected) trials
  have mediumUpgrade :
      (tally (trials.map Trial.essence)).mediumUpgrade = (tally trials).mediumUpgrade :=
    gathered_essence (fun _ => rfl) (fun _ expected => if_pos expected) trials
  have advertiserWlan :
      (tally (trials.map Trial.essence)).advertiserWlan = (tally trials).advertiserWlan :=
    gathered_essence (fun _ => rfl) (fun _ expected => if_pos expected) trials
  rw [tally, tally, mk.injEq]
  exact ⟨gathered_essence_of_kept (fun _ => rfl) trials, gathered_essence_of_kept (fun _ => rfl) trials,
    discovererWlan, gathered_essence_of_kept (fun _ => rfl) trials,
    gathered_essence_of_kept (fun _ => rfl) trials, gathered_essence_of_kept (fun _ => rfl) trials,
    mediumUpgrade, advertiserWlan, gathered_essence_of_kept (fun _ => rfl) trials,
    List.length_map _, List.countP_map, List.countP_map, List.countP_map⟩

end Influence

/-- After any steps the samples are the tally of the trials given since the last fresh start, and
every view shows that tally: the latencies and numbers of a series are what its own field holds in
those trials, in their order; a series has no more samples than were expected of it, and no more
were expected than there are trials. Nothing but the essence of a trial has an influence. -/
theorem run_views (steps : List Step) :
    run steps = tally (given steps) ∧
    run steps = tally ((given steps).map Trial.essence) ∧
    (run steps).trialCount = (given steps).length ∧
    (∀ s,
      ((run steps).latencies s).toList =
        ((given steps).filter (Trial.expects s)).filterMap (Trial.latency? s) ∧
      ((run steps).values s).toList =
        ((given steps).filter (Trial.expects s)).filterMap (Trial.value? s) ∧
      (run steps).sampleCount s = ((run steps).values s).size ∧
      (run steps).expectedCount s =
        (if s.isGated then (given steps).countP (Trial.expects s) else (given steps).length) ∧
      (run steps).sampleCount s ≤ (run steps).expectedCount s ∧
      (run steps).expectedCount s ≤ (run steps).trialCount) ∧
    (run steps).latencies .btThroughput = #[] ∧
    (run steps).latencies .wifiThroughput = #[] := by
  rw [run_eq_tally, tally_essence]
  refine ⟨rfl, rfl, rfl, ?_, rfl, rfl⟩
  intro s
  exact ⟨latencies_tally s _, values_tally s _, sampleCount_eq_size_values _ s,
    expectedCount_tally s _, sampleCount_le_expectedCount_tally s _,
    expectedCount_le_trialCount_tally s _⟩

/-- A change of medium that was not expected is no sample, whatever time it took. -/
example :
    (run [.record { second := { upgrade := some (.ofSecs 2) } }]).sampleCount .mediumUpgrade = 0 := by
  decide

end Samples

end LinkTrials
