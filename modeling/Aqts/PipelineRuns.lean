import Aqts.Pipeline

/-!
# What the pipeline gives

The plain analysis of a ticker asks the services and the gates and has no state machine.
The pipeline gives the same result from every state and every history of its machine, and
leaves the machine in the final state of the result; so a batch gives what the plain
analyses of its tickers give one after another. The dynamic ensemble has no way into its
first state.
-/

namespace Aqts.Pipeline

open Dictionary EnsembleSignals PipelineGates PipelineStates RelatedJobs StrategyWeights

section Plain

variable {W A K : Type} (p : InvestmentDecisionPipeline W A K)

/-- A gate without a state machine. -/
def judgeJob (gateId : String) (data : GateData A K) (results : List (GateResult K)) :
    Job W Failure (List (GateResult K)×Option (GateResult K)) := fun w =>
  (judgeGate p gateId data results,w)

/-- The result of a block without a state machine. -/
def blockedBy (results : List (GateResult K)) (block : GateResult K) (gateId : String) :
    PipelineResult K :=
  blockedResult results (blockedState p.customFallbacks block.gateId) gateId

variable [Field K] [LinearOrder K] [FloorRing K]

/-- The ensemble and its gate. -/
def plainEnsemble (ticker : String) (inputs : List (StrategySignalInput K))
    (results : List (GateResult K)) : Job W Failure (PipelineResult K) := do
  let weights ← p.getWeights
  let result := generateEnsembleSignal p.log1p p.profile weights ticker inputs none
  let (results,block) ← judgeJob p "EnsembleGate" (.weights result.weightsUsed) results
  match block with
  | some block => pure (blockedBy p results block "EnsembleGate")
  | none => pure ⟨some result,none,results,.completed,false,none⟩

/-- The sentiment, the opinion and their gate. -/
def plainSignals (ticker : String) (quantSignals : Option (List (QuantSignal K)))
    (compositeScore : K) (forceRefresh : Bool) (articles : List A)
    (results : List (GateResult K)) : Job W Failure (PipelineResult K) := do
  let sentiment ← p.analyzeTicker ticker articles forceRefresh
  let summary := summarizeQuantSignals quantSignals compositeScore
  let opinion ← p.stockOpinion ticker sentiment summary (articles.take 5) forceRefresh
  let inputs := buildEnsembleInputs p.fixed2 quantSignals sentiment opinion
  let (results,block) ← judgeJob p "SignalGate" (.signals inputs) results
  match block with
  | some block => pure (blockedBy p results block "SignalGate")
  | none => plainEnsemble p ticker inputs results

/-- The analysis of a ticker without a state machine. -/
def plainAnalysis (ticker : String) (quantSignals : Option (List (QuantSignal K)))
    (compositeScore : K) (forceRefresh : Bool) : Job W Failure (PipelineResult K) := do
  let articles ← p.articlesFor ticker
  let (results,block) ← judgeJob p "DataGate" (.articles articles) []
  match block with
  | some block => pure (blockedBy p results block "DataGate")
  | none => plainSignals p ticker quantSignals compositeScore forceRefresh articles results

/-- The analyses of some tickers without a state machine. -/
def plainBatch (tickers : List String) (quantData : String→Option (TickerData K))
    (forceRefresh : Bool) : Job W Failure (Dict String (PipelineResult K)) :=
  Job.each (collectResult (plainAnalysis p) quantData forceRefresh) tickers Dict.empty

end Plain

section Steps

variable {W A K B : Type} {c : PipelineState} {Q : B→World W→W→Prop}

/-- The same world. -/
def SameWorld (s : World W) (w : W) : Prop := s.world=w

/-- The same world, and the machine is in a state. -/
def InState (c : PipelineState) (s : World W) (w : W) : Prop := s.world=w ∧ s.machine.state=c

/-- A service does the same with the machine. -/
theorem related_service (j : Job W Failure B) :
    Related (InState c) (service j) j (fun _ => InState c) SameWorld := by
  rintro s _ ⟨rfl,hstate⟩
  exact ⟨rfl,fun _ _ => ⟨rfl,hstate⟩,fun _ _ => rfl⟩

/-- A reset ends in `IDLE`, from any state. -/
theorem first_reset {reason : String} {f : Unit→Job (World W) Failure B} {k : Job W Failure B}
    (h : Related (InState .idle) (f ()) k Q SameWorld) :
    Related SameWorld ((reset reason).andThen f) k Q SameWorld := by
  refine Related.first (Q := fun _ => InState .idle) ?_ fun _ => h
  rintro s _ rfl
  exact ⟨(),_,rfl,rfl,PipelineStateMachine.state_reset _ _⟩

/-- A valid transition. -/
theorem first_transition {target : PipelineState} (hvalid : target∈validTransitions c)
    {reason : String} {f : Unit→Job (World W) Failure B} {k : Job W Failure B}
    (h : Related (InState target) (f ()) k Q SameWorld) :
    Related (InState c) ((transition target reason).andThen f) k Q SameWorld := by
  refine Related.first (Q := fun _ => InState target) ?_ fun _ => h
  rintro s _ ⟨rfl,rfl⟩
  obtain ⟨machine,hmachine,hstate⟩ := PipelineStateMachine.transition_ok hvalid reason
  refine ⟨(),{s with machine},?_,rfl,hstate⟩
  unfold transition
  rw [hmachine]

variable (p : InvestmentDecisionPipeline W A K)

/-- The state after a gate. -/
def stateAfter (c : PipelineState) (block : Option (GateResult K)) : PipelineState :=
  match block with
  | none => c
  | some block => blockedState p.customFallbacks block.gateId

/-- A gate judges the same with the machine. -/
theorem related_gate (gateId : String) (data : GateData A K) (results : List (GateResult K)) :
    Related (InState c) (evaluateGate p gateId data results) (judgeJob p gateId data results)
      (fun out => InState (stateAfter p c out.2)) SameWorld := by
  rintro s _ ⟨rfl,hstate⟩
  unfold evaluateGate judgeJob
  rcases hjudge : judgeGate p gateId data results with failure | ⟨results',_ | block⟩
  · exact ⟨rfl,nofun,fun _ _ => rfl⟩
  · refine ⟨rfl,?_,nofun⟩
    rintro _ ⟨⟩
    exact ⟨rfl,hstate⟩
  · refine ⟨rfl,?_,nofun⟩
    rintro _ ⟨⟩
    exact ⟨rfl,state_handleBlock _ _ _ _⟩

/-- A result is related to the machine by its final state. -/
def Finished (result : PipelineResult K) : World W→W→Prop := InState result.finalState

/-- A blocked result has the state that the gate has left. -/
theorem related_blocked {results : List (GateResult K)} {block : GateResult K} {gateId : String} :
    Related (InState (stateAfter p c (some block)))
      (Job.read fun s => blockedResult results s.machine.state gateId : Job (World W) Failure _)
      (pure (blockedBy p results block gateId) : Job W Failure _) Finished SameWorld := by
  rintro s _ ⟨rfl,hstate⟩
  have hsame : blockedResult results s.machine.state gateId=blockedBy p results block gateId := by
    rw [hstate]
    rfl
  refine ⟨congrArg Except.ok hsame,?_,nofun⟩
  rintro _ ⟨⟩
  exact ⟨rfl,rfl⟩

end Steps

section Refinement

variable {W A K : Type} [Field K] [LinearOrder K] [FloorRing K]
  (p : InvestmentDecisionPipeline W A K)

/-- The pipeline is related to the plain analysis, whatever its machine went through before. -/
theorem related_analysis (ticker : String) (quantSignals : Option (List (QuantSignal K)))
    (compositeScore : K) (forceRefresh : Bool) :
    Related SameWorld (runFullAnalysis p ticker quantSignals compositeScore forceRefresh)
      (plainAnalysis p ticker quantSignals compositeScore forceRefresh) Finished SameWorld := by
  refine first_reset (first_transition (by decide) ?_)
  refine (related_service _).andThen fun articles => ?_
  refine (related_gate p _ _ _).andThen ?_
  rintro ⟨results,_ | block⟩
  · refine first_transition (c := .collecting) (by decide) ?_
    refine (related_service _).andThen fun sentiment => ?_
    refine (related_service _).andThen fun opinion => ?_
    refine (related_gate p _ _ _).andThen ?_
    rintro ⟨results,_ | block⟩
    · refine (related_service _).andThen fun weights => ?_
      refine (related_gate p _ _ _).andThen ?_
      rintro ⟨results,_ | block⟩
      · exact first_transition (c := .analyzing) (by decide) (Related.value fun _ _ hs => hs)
      · exact related_blocked p
    · exact related_blocked p
  · exact related_blocked p

/-- The state machine never gets in the way of an analysis: from every state and every history,
and for every registry of gates, `run_full_analysis` gives what the plain analysis gives, changes
the world of the services as it does, and leaves the machine in the final state of the result. -/
theorem analysis_needs_no_machine (ticker : String) (quantSignals : Option (List (QuantSignal K)))
    (compositeScore : K) (forceRefresh : Bool) (s : World W) :
    (runFullAnalysis p ticker quantSignals compositeScore forceRefresh s).1=
      (plainAnalysis p ticker quantSignals compositeScore forceRefresh s.world).1 ∧
    (runFullAnalysis p ticker quantSignals compositeScore forceRefresh s).2.world=
      (plainAnalysis p ticker quantSignals compositeScore forceRefresh s.world).2 ∧
    ∀ result,(runFullAnalysis p ticker quantSignals compositeScore forceRefresh s).1=.ok result→
      (runFullAnalysis p ticker quantSignals compositeScore forceRefresh s).2.machine.state=
        result.finalState := by
  obtain ⟨hsame,hok,herror⟩ :=
    related_analysis p ticker quantSignals compositeScore forceRefresh s s.world rfl
  refine ⟨hsame,?_,fun result hresult => (hok result hresult).2⟩
  cases houtcome : (runFullAnalysis p ticker quantSignals compositeScore forceRefresh s).1 with
  | ok result => exact (hok result houtcome).1
  | error failure => exact herror failure houtcome

/-- A batch gives what the plain analyses of its tickers give one after another: what the machine
went through for one ticker, blocked, failed or not, does not reach the next one. -/
theorem batch_needs_no_machine (tickers : List String) (quantData : String→Option (TickerData K))
    (forceRefresh : Bool) (s : World W) :
    (runBatchAnalysis p tickers quantData forceRefresh s).1=
      (plainBatch p tickers quantData forceRefresh s.world).1 ∧
    (runBatchAnalysis p tickers quantData forceRefresh s).2.world=
      (plainBatch p tickers quantData forceRefresh s.world).2 := by
  have hrelated : Related SameWorld (runBatchAnalysis p tickers quantData forceRefresh)
      (plainBatch p tickers quantData forceRefresh) (fun _ => SameWorld) SameWorld := by
    refine Related.each tickers _ fun results ticker => ?_
    refine ((related_analysis p _ _ _ _).attempt fun _ _ _ hs => hs.1).andThen ?_
    rintro (_ | result)
    · exact Related.value fun _ _ hs => hs
    · exact Related.value fun _ _ hs => hs
  obtain ⟨hsame,hok,herror⟩ := hrelated s s.world rfl
  refine ⟨hsame,?_⟩
  cases houtcome : (runBatchAnalysis p tickers quantData forceRefresh s).1 with
  | ok results => exact hok results houtcome
  | error failure => exact herror failure houtcome

end Refinement

section Results

variable {W A K : Type} (p : InvestmentDecisionPipeline W A K)

/-- What a result of the pipeline says: either there is a signal, every gate that was asked has
passed and the cycle is complete, or the last gate that was asked has blocked, all before it have
passed, and the final state is that of the gate. -/
inductive WellFormed (r : PipelineResult K) : Prop
  /-- A complete cycle. -/
  | complete (signal : EnsembleSignal K) (hsignal : r.ensembleSignal=some signal)
      (hblocked : r.blocked=false) (hby : r.blockedBy=none) (hstate : r.finalState=.completed)
      (hpassed : ∀ g∈r.gateResults,g.decision≠.block)
  /-- A blocked cycle. -/
  | blocked (earlier : List (GateResult K)) (block : GateResult K) (gateId : String)
      (hsignal : r.ensembleSignal=none) (hblocked : r.blocked=true) (hby : r.blockedBy=some gateId)
      (hresults : r.gateResults=earlier++[block]) (hblock : block.decision=.block)
      (hpassed : ∀ g∈earlier,g.decision≠.block)
      (hstate : r.finalState=blockedState p.customFallbacks block.gateId)

/-- The results before a gate have passed. -/
def Passed (results : List (GateResult K)) : Prop := ∀ g∈results,g.decision≠.block

/-- Nothing has blocked at first. -/
theorem passed_nil : Passed ([] : List (GateResult K)) := fun _ hg => absurd hg List.not_mem_nil

/-- The results after a gate: all have passed, or the gate has blocked. -/
def Judged (results : List (GateResult K)) (out : List (GateResult K)×Option (GateResult K)) :
    Prop :=
  match out.2 with
  | none => Passed out.1
  | some block => out.1=results++[block] ∧ block.decision=.block

/-- A gate judges after the gates before it. -/
theorem returns_judgeJob {gateId : String} {data : GateData A K} {results : List (GateResult K)}
    (h : Passed results) : Returns (judgeJob p gateId data results) (Judged results) := by
  intro w out hout
  change judgeGate p gateId data results=.ok out at hout
  unfold judgeGate at hout
  split at hout
  · cases hout
    exact h
  · split at hout
    · cases hout
    · rename_i result _
      cases hout
      by_cases hblock : result.decision=.block
      · rw [if_pos hblock]
        exact ⟨rfl,hblock⟩
      · rw [if_neg hblock]
        intro g hg
        obtain hold | hnew := List.mem_append.mp hg
        · exact h g hold
        · rw [List.mem_singleton.mp hnew]
          exact hblock

/-- A blocked result is well formed. -/
theorem wellFormed_blockedBy {results : List (GateResult K)} {block : GateResult K}
    {earlier : List (GateResult K)} (hearlier : Passed earlier)
    (h : Judged earlier (results,some block)) (gateId : String) :
    WellFormed p (blockedBy p results block gateId) :=
  .blocked earlier block gateId rfl rfl rfl h.1 h.2 hearlier rfl

variable [Field K] [LinearOrder K] [FloorRing K]

/-- Results of the ensemble and its gate. -/
theorem returns_plainEnsemble {ticker : String} {inputs : List (StrategySignalInput K)}
    {results : List (GateResult K)} (h : Passed results) :
    Returns (plainEnsemble p ticker inputs results) (WellFormed p) := by
  refine (Returns.trivial _).andThen fun weights _ => ?_
  refine (returns_judgeJob p h).andThen ?_
  rintro ⟨results',_ | block⟩ hjudged
  · exact Returns.value (.complete _ rfl rfl rfl rfl hjudged)
  · exact Returns.value (wellFormed_blockedBy p h hjudged _)

/-- Results of a plain analysis. -/
theorem returns_plainAnalysis (ticker : String) (quantSignals : Option (List (QuantSignal K)))
    (compositeScore : K) (forceRefresh : Bool) :
    Returns (plainAnalysis p ticker quantSignals compositeScore forceRefresh) (WellFormed p) := by
  refine (Returns.trivial _).andThen fun articles _ => ?_
  refine (returns_judgeJob p passed_nil).andThen ?_
  rintro ⟨results,_ | block⟩ hjudged
  · refine (Returns.trivial _).andThen fun sentiment _ => ?_
    refine (Returns.trivial _).andThen fun opinion _ => ?_
    refine (returns_judgeJob p hjudged).andThen ?_
    rintro ⟨results',_ | block⟩ hjudged'
    · exact returns_plainEnsemble p hjudged'
    · exact Returns.value (wellFormed_blockedBy p hjudged hjudged' _)
  · exact Returns.value (wellFormed_blockedBy p passed_nil hjudged _)

/-- Every result of a batch is of one of its tickers, and is what its analysis returns. -/
theorem returns_batch {P : String→PipelineResult K→Prop} (tickers : List String)
    (quantData : String→Option (TickerData K)) (forceRefresh : Bool)
    (h : ∀ ticker,Returns (plainAnalysis p ticker ((quantData ticker).getD ⟨none,none⟩).signals
      (((quantData ticker).getD ⟨none,none⟩).compositeScore.getD 50.0) forceRefresh) (P ticker)) :
    Returns (runBatchAnalysis p tickers quantData forceRefresh) fun results =>
      ∀ ticker r,results.get? ticker=some r→ticker∈tickers ∧ P ticker r := by
  have hempty : ∀ ticker r,(Dict.empty : Dict String (PipelineResult K)).get? ticker=some r→
      ticker∈tickers ∧ P ticker r := by
    intro ticker r hget
    have hnone : (Dict.empty : Dict String (PipelineResult K)).get? ticker=none := rfl
    rw [hnone] at hget
    cases hget
  refine Returns.each hempty fun results ticker hticker hresults => ?_
  have hanalysis := (related_analysis p _ _ _ _).returns (fun s => ⟨s.world,rfl⟩) (h ticker)
  refine hanalysis.attempt.andThen ?_
  rintro (_ | result) houtcome
  · exact Returns.value hresults
  · refine Returns.value fun other r hget => ?_
    rw [Dict.get?_set] at hget
    split at hget
    · rename_i heq
      cases hget
      subst heq
      exact ⟨hticker,houtcome result rfl⟩
    · exact hresults other r hget

/-- Every result of a batch is of one of its tickers and well formed: there is a signal exactly if
no gate has blocked, and nothing is asked after a gate that blocks. -/
theorem batch_wellFormed (tickers : List String) (quantData : String→Option (TickerData K))
    (forceRefresh : Bool) :
    Returns (runBatchAnalysis p tickers quantData forceRefresh) fun results =>
      ∀ ticker r,results.get? ticker=some r→ticker∈tickers ∧ WellFormed p r :=
  returns_batch p tickers quantData forceRefresh fun _ => returns_plainAnalysis p _ _ _ _

end Results

section DefaultGates

variable {W A K : Type} [Field K] [LinearOrder K] [FloorRing K]
  (p : InvestmentDecisionPipeline W A K)

omit [Field K] [LinearOrder K] [FloorRing K] in
/-- A gate that does not block has passed. -/
theorem returns_judgeJob_passed {gateId : String} {gate : GateData A K→Judgement K}
    (hgate : p.gate gateId=some gate) (data : GateData A K) (results : List (GateResult K)) :
    Returns (judgeJob p gateId data results) fun out =>
      out.2=none→∃ result,gate data=.ok result ∧ result.decision=.pass := by
  intro w out hout hnone
  change judgeGate p gateId data results=.ok out at hout
  unfold judgeGate at hout
  rw [hgate] at hout
  dsimp only at hout
  split at hout
  · cases hout
  · rename_i result hresult
    cases hout
    refine ⟨result,hresult,?_⟩
    cases hdecision : result.decision with
    | pass => rfl
    | block =>
      rw [if_pos hdecision] at hnone
      cases hnone

/-- What a signal is made of: what the services have answered, with news that has no long gap, an
input that is more than a HOLD, and weights that sum to one with none too large. -/
structure Earned (consecutiveMissing : A→Option ℤ) (quantSignals : Option (List (QuantSignal K)))
    (compositeScore : K) (forceRefresh : Bool) (ticker : String) (signal : EnsembleSignal K)
    (articles : List A) (sentiment : Sentiment K) (opinion : Opinion K) (weights : Weights K) :
    Prop where
  /-- The news. -/
  found : Answers (p.articlesFor ticker) articles
  /-- There is some. -/
  news : articles≠[]
  /-- No long gap. -/
  gaps : ∀ article∈articles,∀ missing,consecutiveMissing article=some missing→missing≤3
  /-- The sentiment. -/
  felt : Answers (p.analyzeTicker ticker articles forceRefresh) sentiment
  /-- The opinion. -/
  meant : Answers (p.stockOpinion ticker sentiment
    (summarizeQuantSignals quantSignals compositeScore) (articles.take 5) forceRefresh) opinion
  /-- Some input is more than a HOLD. -/
  active : ∃ input∈buildEnsembleInputs p.fixed2 quantSignals sentiment opinion,0.05< |input.value|
  /-- The weights that are stored. -/
  stored : Answers p.getWeights weights
  /-- The signal. -/
  made : signal=generateEnsembleSignal p.log1p p.profile weights ticker
    (buildEnsembleInputs p.fixed2 quantSignals sentiment opinion) none
  /-- Its weights sum to one. -/
  whole : |signal.weightsUsed.values.sum-1.0|≤0.01
  /-- None of them is too large. -/
  spread : ∀ v∈signal.weightsUsed.values,v≤0.6

variable {p} {texts : GateTexts K} {consecutiveMissing : A→Option ℤ}

/-- With the default gates every signal of an analysis has passed the three of them. -/
theorem earned_plainAnalysis (hgates : p.gate=defaultGates texts consecutiveMissing)
    (ticker : String) (quantSignals : Option (List (QuantSignal K))) (compositeScore : K)
    (forceRefresh : Bool) :
    Returns (plainAnalysis p ticker quantSignals compositeScore forceRefresh) fun r =>
      ∀ signal,r.ensembleSignal=some signal→∃ articles sentiment opinion weights,
        Earned p consecutiveMissing quantSignals compositeScore forceRefresh ticker signal articles
          sentiment opinion weights := by
  have hdata : p.gate "DataGate"=_ := (congrFun hgates _).trans (if_pos rfl)
  have hsignal : p.gate "SignalGate"=_ :=
    (congrFun hgates _).trans ((if_neg (by decide)).trans (if_pos rfl))
  have hensemble : p.gate "EnsembleGate"=_ :=
    (congrFun hgates _).trans ((if_neg (by decide)).trans ((if_neg (by decide)).trans (if_pos rfl)))
  refine (Returns.answers _).andThen fun articles hfound => ?_
  refine (returns_judgeJob_passed p hdata _ _).andThen ?_
  rintro ⟨results,_ | block⟩ hnews
  · obtain ⟨_,hresult,hpass⟩ := hnews rfl
    obtain ⟨hsome,hgaps,-⟩ := (dataGate_iff _ _ _ _ _ _ hresult).mp hpass
    refine (Returns.answers _).andThen fun sentiment hfelt => ?_
    refine (Returns.answers _).andThen fun opinion hmeant => ?_
    refine (returns_judgeJob_passed p hsignal _ _).andThen ?_
    rintro ⟨results',_ | block⟩ hinputs
    · obtain ⟨_,hresult',hpass'⟩ := hinputs rfl
      have hactive := (signalGate_iff _ _ _ hresult').mp hpass'
      refine (Returns.answers _).andThen fun weights hstored => ?_
      refine (returns_judgeJob_passed p hensemble _ _).andThen ?_
      rintro ⟨results'',_ | block⟩ hused
      · obtain ⟨_,hresult'',hpass''⟩ := hused rfl
        obtain ⟨_,⟨⟩,-,hwhole,hspread⟩ := (ensembleGate_pass_iff _ _ _ _ hresult'').mp hpass''
        refine Returns.value ?_
        rintro _ ⟨⟩
        refine ⟨articles,sentiment,opinion,weights,hfound,?_,?_,hfelt,hmeant,hactive,hstored,rfl,
          hwhole,hspread⟩
        · rintro rfl
          exact hsome rfl
        · intro article harticle missing hmissing
          refine hgaps missing ?_
          exact List.mem_map.mpr ⟨article,harticle,hmissing⟩
      · exact Returns.value nofun
    · exact Returns.value nofun
  · exact Returns.value nofun

/-- With the default gates every signal of a batch has passed the three of them: for each of its
tickers there was news without a long gap, some input was more than a HOLD, and the weights of the
signal sum to one with none above six tenths. -/
theorem earned_batch (hgates : p.gate=defaultGates texts consecutiveMissing)
    (tickers : List String) (quantData : String→Option (TickerData K)) (forceRefresh : Bool) :
    Returns (runBatchAnalysis p tickers quantData forceRefresh) fun results =>
      ∀ ticker r,results.get? ticker=some r→ticker∈tickers ∧
        ∀ signal,r.ensembleSignal=some signal→∃ articles sentiment opinion weights,
          Earned p consecutiveMissing ((quantData ticker).getD ⟨none,none⟩).signals
            (((quantData ticker).getD ⟨none,none⟩).compositeScore.getD 50.0) forceRefresh ticker
            signal articles sentiment opinion weights :=
  returns_batch p tickers quantData forceRefresh fun ticker =>
    earned_plainAnalysis hgates ticker _ _ forceRefresh

end DefaultGates

section SentimentAlone

variable {W A K : Type} [Field K] [LinearOrder K] [IsStrictOrderedRing K] [FloorRing K]
  (p : InvestmentDecisionPipeline W A K)

/-- A result whose signal, if there is one, is less than a third sure. -/
def Unsure (r : PipelineResult K) : Prop :=
  ∀ s,r.ensembleSignal=some s→s.finalConfidence≤0.3167

/-- A plain analysis without signals of the quant engine. -/
theorem unsure_plainAnalysis (hmono : ∀ x y,0≤x→x≤y→p.log1p x≤p.log1p y)
    (hpos : 0<p.log1p (1.0-0.85)) (ticker : String) (compositeScore : K) (forceRefresh : Bool) :
    Returns (plainAnalysis p ticker none compositeScore forceRefresh) Unsure := by
  refine (Returns.trivial _).andThen fun articles _ => ?_
  refine (Returns.trivial _).andThen ?_
  rintro ⟨results,_ | block⟩ _
  · refine (Returns.trivial _).andThen fun sentiment _ => ?_
    refine (Returns.trivial _).andThen fun opinion _ => ?_
    refine (Returns.trivial _).andThen ?_
    rintro ⟨results',_ | block⟩ _
    · refine (Returns.trivial _).andThen fun weights _ => ?_
      refine (Returns.trivial _).andThen ?_
      rintro ⟨results'',_ | block⟩ _
      · refine Returns.value ?_
        rintro _ ⟨⟩
        exact single_confidence hmono hpos p.profile weights ticker _ none
      · exact Returns.value nofun
    · exact Returns.value nofun
  · exact Returns.value nofun

/-- A batch without signals of the quant engine, such as that of the route, gives no signal that is
more than a third sure: the sentiment is the only strategy, and less than three are not trusted. -/
theorem batch_without_quant_signals (hmono : ∀ x y,0≤x→x≤y→p.log1p x≤p.log1p y)
    (hpos : 0<p.log1p (1.0-0.85)) (tickers : List String) (forceRefresh : Bool) :
    Returns (runBatchAnalysis p tickers (fun _ => none) forceRefresh) fun results =>
      ∀ ticker r,results.get? ticker=some r→ticker∈tickers ∧ Unsure r :=
  returns_batch p tickers _ forceRefresh fun _ => unsure_plainAnalysis p hmono hpos _ _ _

/-- A pipeline whose services always answer the same, without gates. -/
noncomputable def smallPipeline : InvestmentDecisionPipeline Unit Unit ℝ where
  articlesFor := fun _ => Job.value [()]
  analyzeTicker := fun _ _ _ => Job.value ⟨1,1,""⟩
  stockOpinion := fun _ _ _ _ _ => Job.value ⟨.buy,1⟩
  getWeights := Job.value (ensembleDefaultWeights .balanced)
  runner := fun _ _ => Job.raise (.raised "")
  profile := .balanced
  log1p := fun x => Real.log (1+x)
  gate := fun _ => none
  customFallbacks := []
  fixed2 := fun _ => ""
  fixed4 := fun _ => ""

/-- A sure sentiment alone. -/
theorem batch_without_quant_signals_once :
    Returns (runBatchAnalysis smallPipeline ["005930"] (fun _ => none) false) fun results =>
      ∀ ticker r,results.get? ticker=some r→ticker∈["005930"] ∧ Unsure r := by
  have hmono : ∀ x y : ℝ,0≤x→x≤y→Real.log (1+x)≤ Real.log (1+y) := by
    intro x y hx hxy
    exact Real.log_le_log (by linarith) (by linarith)
  have hpos : 0< Real.log (1+(1.0-0.85)) := Real.log_pos (by norm_num)
  exact batch_without_quant_signals smallPipeline hmono hpos ["005930"] false

end SentimentAlone

section Dynamic

variable {W A K : Type} (p : InvestmentDecisionPipeline W A K)

/-- `run_dynamic_ensemble` raises before it asks for anything: a reset ends in `IDLE`, and from
there is no transition to `ANALYZING`. -/
theorem runDynamicEnsemble_raises (ticker country : String) (s : World W) :
    runDynamicEnsemble p ticker country s=
      (.error (.transition ⟨"IDLE → ANALYZING 전이는 허용되지 않습니다"⟩),
        {s with machine := s.machine.reset "동적 앙상블 시작"}) := by
  have hnone : .analyzing∉validTransitions (s.machine.reset "동적 앙상블 시작").state := by
    rw [PipelineStateMachine.state_reset]
    decide
  have hmachine := PipelineStateMachine.transition_error hnone
    ("종목 "++ticker++" 동적 앙상블 분석")
  rw [PipelineStateMachine.state_reset] at hmachine
  have htransition : transition .analyzing ("종목 "++ticker++" 동적 앙상블 분석")
      {s with machine := s.machine.reset "동적 앙상블 시작"}=
        (.error (.transition ⟨"IDLE → ANALYZING 전이는 허용되지 않습니다"⟩),
          {s with machine := s.machine.reset "동적 앙상블 시작"}) := by
    unfold transition
    dsimp only
    rw [hmachine]
    rfl
  have hreset : reset "동적 앙상블 시작" s=
      (.ok (),{s with machine := s.machine.reset "동적 앙상블 시작"}) := rfl
  unfold runDynamicEnsemble
  refine Eq.trans (Job.andThen_ok hreset) ?_
  exact Job.andThen_error htransition

/-- A batch of dynamic ensembles is always empty, whatever the tickers, the prices and the state
of the machine are: every ticker fails before the ensemble runs, and no service is asked. -/
theorem runDynamicEnsembleBatch_empty (tickers : List String) (country : String) (s : World W) :
    ∃ machine,runDynamicEnsembleBatch p tickers country s=
      (.ok Dict.empty,{s with machine}) := by
  unfold runDynamicEnsembleBatch
  generalize (Dict.empty : Dict String (PipelineResult K))=results
  induction tickers generalizing s with
  | nil => exact ⟨s.machine,rfl⟩
  | cons ticker rest ih =>
    have hattempt : (runDynamicEnsemble p ticker country).attempt s=
        (.ok (.error (.transition ⟨"IDLE → ANALYZING 전이는 허용되지 않습니다"⟩)),
          {s with machine := s.machine.reset "동적 앙상블 시작"}) := by
      unfold Job.attempt
      rw [runDynamicEnsemble_raises]
    obtain ⟨machine,hrest⟩ := ih {s with machine := s.machine.reset "동적 앙상블 시작"}
    refine ⟨machine,Eq.trans ?_ hrest⟩
    exact Job.andThen_ok (Job.andThen_ok hattempt)

end Dynamic

end Aqts.Pipeline
