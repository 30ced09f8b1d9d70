import Aqts.PipelineGates
import Aqts.PipelineStates
import Aqts.RelatedJobs
import Aqts.SignalGenerator

/-!
# The investment decision pipeline

`core.pipeline`: one ticker goes from its news through a sentiment, an opinion and the
ensemble, past the gates, while a state machine records where it is. The services and the
stored weights are parameters that change a world. The plain analysis has no machine, and
the pipeline gives what it gives.
-/

namespace Aqts.Pipeline

open Dictionary EnsembleSignals PipelineGates PipelineStates RelatedJobs SignalGenerator
  StrategyWeights

/-- `OpinionAction`. -/
inductive OpinionAction
  | strongBuy | buy | hold | sell | strongSell
  deriving DecidableEq

/-- Text of an action. -/
def OpinionAction.value : OpinionAction→String
  | .strongBuy => "STRONG_BUY"
  | .buy => "BUY"
  | .hold => "HOLD"
  | .sell => "SELL"
  | .strongSell => "STRONG_SELL"

/-- Text of a strategy. -/
def strategyValue : StrategyType→String
  | .factor => "FACTOR"
  | .meanReversion => "MEAN_REVERSION"
  | .trendFollowing => "TREND_FOLLOWING"
  | .statArb => "STAT_ARB"
  | .riskParity => "RISK_PARITY"
  | .mlSignal => "ML_SIGNAL"

/-- `SentimentResult`, with what the pipeline passes on. -/
structure Sentiment (K : Type) where
  /-- `score`. -/
  score : K
  /-- `confidence`. -/
  confidence : K
  /-- `summary`. -/
  summary : String

/-- `InvestmentOpinion`, with what the pipeline reads. -/
structure Opinion (K : Type) where
  /-- `action`. -/
  action : OpinionAction
  /-- `conviction`. -/
  conviction : K

/-- A signal of the quant engine. -/
structure QuantSignal (K : Type) where
  /-- `strategy`. -/
  strategy : StrategyType
  /-- `value`. -/
  value : K
  /-- `confidence`. -/
  confidence : K
  /-- `reason`. -/
  reason : String

/-- What `_summarize_quant_signals` gives. -/
structure QuantSummary (K : Type) where
  /-- `composite_score`. -/
  compositeScore : K
  /-- `trend_signal`. -/
  trendSignal : K
  /-- `mean_rev_signal`. -/
  meanRevSignal : K
  /-- `risk_parity_signal`. -/
  riskParitySignal : K

/-- What is passed to a gate. -/
inductive GateData (A K : Type)
  /-- News. -/
  | articles (articles : List A)
  /-- Signals. -/
  | signals (signals : List (StrategySignalInput K))
  /-- Weights. -/
  | weights (weights : Weights K)

section DefaultGates

variable {A K : Type}

/-- The news. -/
def GateData.news : GateData A K→Option (List A)
  | .articles given => some given
  | _ => none

/-- The inputs of the ensemble. -/
def GateData.inputs : GateData A K→Option (List (StrategySignalInput K))
  | .signals given => some given
  | _ => none

/-- The weights that were used. -/
def GateData.used : GateData A K→Option (Weights K)
  | .weights given => some given
  | _ => none

/-- `_build_default_gate_registry`, for articles with the number of days that are missing, if they
have one. The pipeline asks each gate about data of its own kind, and never the factor gate. -/
def defaultGates [Field K] [LinearOrder K] (texts : GateTexts K)
    (consecutiveMissing : A→Option ℤ) (gateId : String) : Option (GateData A K→Judgement K) :=
  if gateId="DataGate" then
    some fun data => dataGate texts (data.news.map fun news => news.map consecutiveMissing) 3 0.0 0.05
  else if gateId="SignalGate" then some fun data => signalGate 0.05 data.inputs
  else if gateId="EnsembleGate" then some fun data => ensembleGate texts 0.6 data.used
  else none

end DefaultGates

/-- An exception. -/
inductive Failure
  /-- `InvalidTransitionError`. -/
  | transition (error : InvalidTransitionError)
  /-- Another exception, with its text. -/
  | raised (text : String)
deriving DecidableEq

/-- Result of the dynamic ensemble, with what the pipeline reads. -/
structure RunnerResult (K : Type) where
  /-- `weights`. -/
  weights : Weights K
  /-- `regime.value`. -/
  regime : String
  /-- `ensemble_signal`. -/
  ensembleSignal : K

/-- `PipelineResult`. -/
structure PipelineResult (K : Type) where
  /-- `ensemble_signal`. -/
  ensembleSignal : Option (EnsembleSignal K)
  /-- `dynamic_ensemble`. -/
  dynamicEnsemble : Option (RunnerResult K)
  /-- `gate_results`. -/
  gateResults : List (GateResult K)
  /-- `final_state`. -/
  finalState : PipelineState
  /-- `blocked`. -/
  blocked : Bool
  /-- `blocked_by`. -/
  blockedBy : Option String

/-- What the pipeline is made of. `W` is the world of the services, `A` an article. -/
structure InvestmentDecisionPipeline (W A K : Type) where
  /-- `get_articles_for_ticker`. -/
  articlesFor : String→Job W Failure (List A)
  /-- `analyze_ticker`. -/
  analyzeTicker : String→List A→Bool→Job W Failure (Sentiment K)
  /-- `generate_stock_opinion`. -/
  stockOpinion : String→Sentiment K→QuantSummary K→List A→Bool→Job W Failure (Opinion K)
  /-- `get_weights` of the ensemble engine. -/
  getWeights : Job W Failure (Weights K)
  /-- `DynamicEnsembleRunner`. -/
  runner : String→String→Job W Failure (RunnerResult K)
  /-- `_profile`. -/
  profile : RiskProfile
  /-- `np.log1p`. -/
  log1p : K→K
  /-- `_registry`. -/
  gate : String→Option (GateData A K→Judgement K)
  /-- `custom_fallbacks` of `_fallback`. -/
  customFallbacks : List (String×PipelineState)
  /-- `{:.2f}`. -/
  fixed2 : K→String
  /-- `{:.4f}`. -/
  fixed4 : K→String

/-- The world with the state machine of the pipeline. -/
structure World (W : Type) where
  /-- The world of the services. -/
  world : W
  /-- `_sm`. -/
  machine : PipelineStateMachine

section Steps

variable {W A K B : Type}

/-- A job of a service. -/
def service (j : Job W Failure B) : Job (World W) Failure B := fun s =>
  ((j s.world).1,{s with world := (j s.world).2})

/-- `_sm.reset`. -/
def reset (reason : String) : Job (World W) Failure Unit :=
  Job.change fun s => {s with machine := s.machine.reset reason}

/-- `_sm.transition`. -/
def transition (target : PipelineState) (reason : String) : Job (World W) Failure Unit := fun s =>
  match s.machine.transition target reason with
  | .ok machine => (.ok (),{s with machine})
  | .error error => (.error (.transition error),s)

variable (p : InvestmentDecisionPipeline W A K)

/-- A gate with the results before it: the results, and the one that blocks. -/
def judgeGate (gateId : String) (data : GateData A K) (results : List (GateResult K)) :
    Except Failure (List (GateResult K)×Option (GateResult K)) :=
  match p.gate gateId with
  | none => .ok (results,none)
  | some gate =>
    match gate data with
    | .error text => .error (.raised text)
    | .ok result =>
      .ok (results++[result],if result.decision=.block then some result else none)

/-- `_evaluate_gate`. -/
def evaluateGate (gateId : String) (data : GateData A K) (results : List (GateResult K)) :
    Job (World W) Failure (List (GateResult K)×Option (GateResult K)) :=
  match judgeGate p gateId data results with
  | .error failure => Job.raise failure
  | .ok (results,none) => pure (results,none)
  | .ok (results,some result) => do
    Job.change fun s => {s with
      machine := handleBlock p.customFallbacks result.gateId result.reason s.machine}
    pure (results,some result)

/-- The result of a pipeline that a gate has blocked. -/
def blockedResult (results : List (GateResult K)) (finalState : PipelineState) (gateId : String) :
    PipelineResult K :=
  ⟨none,none,results,finalState,true,some gateId⟩

end Steps

section Inputs

variable {W A K : Type} [Field K] [LinearOrder K] [FloorRing K]

/-- `SentimentResult.to_signal_value`. -/
def Sentiment.toSignalValue (s : Sentiment K) : K := round4 s.score

/-- `InvestmentOpinion.to_signal_value`. -/
def Opinion.toSignalValue (o : Opinion K) : K :=
  round4 ((match o.action with
    | .strongBuy => 1.0
    | .buy => 0.5
    | .hold => 0.0
    | .sell => -0.5
    | .strongSell => -1.0)*o.conviction)

omit [LinearOrder K] [FloorRing K] in
/-- `_summarize_quant_signals`. -/
def summarizeQuantSignals (signals : Option (List (QuantSignal K))) (compositeScore : K) :
    QuantSummary K :=
  (signals.getD []).foldl (fun summary sig =>
    match sig.strategy with
    | .trendFollowing => {summary with trendSignal := sig.value}
    | .meanReversion => {summary with meanRevSignal := sig.value}
    | .riskParity => {summary with riskParitySignal := sig.value}
    | _ => summary) ⟨compositeScore,0,0,0⟩

/-- The signal of the sentiment and the opinion. -/
def sentimentInput (fixed2 : K→String) (sentiment : Sentiment K) (opinion : Opinion K) :
    StrategySignalInput K where
  strategy := "SENTIMENT"
  value := round4 (max (-1.0) (min 1.0
    (sentiment.toSignalValue*0.6+opinion.toSignalValue*0.4)))
  confidence := round4 (max 0 (min 1.0 (sentiment.confidence*0.6+opinion.conviction*0.4)))
  reason := "Sentiment="++fixed2 sentiment.toSignalValue++", Opinion="++opinion.action.value

/-- `_build_ensemble_inputs`. -/
def buildEnsembleInputs (fixed2 : K→String) (signals : Option (List (QuantSignal K)))
    (sentiment : Sentiment K) (opinion : Opinion K) : List (StrategySignalInput K) :=
  ((signals.getD []).map fun sig =>
    ⟨strategyValue sig.strategy,sig.value,sig.confidence,sig.reason⟩)++
      [sentimentInput fixed2 sentiment opinion]

end Inputs

section Analyses

variable {W A K : Type} [Field K] [LinearOrder K] [FloorRing K]
  (p : InvestmentDecisionPipeline W A K)

/-- `run_full_analysis`. -/
def runFullAnalysis (ticker : String) (quantSignals : Option (List (QuantSignal K)))
    (compositeScore : K) (forceRefresh : Bool) : Job (World W) Failure (PipelineResult K) := do
  reset "파이프라인 시작"
  transition .collecting ("종목 "++ticker++" 분석 시작")
  let articles ← service (p.articlesFor ticker)
  let (results,block) ← evaluateGate p "DataGate" (.articles articles) []
  if block.isSome then
    Job.read fun s => blockedResult results s.machine.state "DataGate"
  else
    transition .analyzing "데이터 수집 완료, 분석 시작"
    let sentiment ← service (p.analyzeTicker ticker articles forceRefresh)
    let summary := summarizeQuantSignals quantSignals compositeScore
    let opinion ← service (p.stockOpinion ticker sentiment summary (articles.take 5) forceRefresh)
    let inputs := buildEnsembleInputs p.fixed2 quantSignals sentiment opinion
    let (results,block) ← evaluateGate p "SignalGate" (.signals inputs) results
    if block.isSome then
      Job.read fun s => blockedResult results s.machine.state "SignalGate"
    else
      let weights ← service p.getWeights
      let result := generateEnsembleSignal p.log1p p.profile weights ticker inputs none
      let (results,block) ← evaluateGate p "EnsembleGate" (.weights result.weightsUsed) results
      if block.isSome then
        Job.read fun s => blockedResult results s.machine.state "EnsembleGate"
      else
        transition .completed (ticker++" 분석 사이클 완료")
        pure ⟨some result,none,results,.completed,false,none⟩

/-- What `quant_data` has for a ticker. -/
structure TickerData (K : Type) where
  /-- `signals`. -/
  signals : Option (List (QuantSignal K))
  /-- `composite_score`. -/
  compositeScore : Option K

/-- The results of a batch with those of one more ticker, if there are any. -/
def collectResult (run : String→Option (List (QuantSignal K))→K→Bool→Job W Failure (PipelineResult K))
    (quantData : String→Option (TickerData K)) (forceRefresh : Bool)
    (results : Dict String (PipelineResult K)) (ticker : String) :
    Job W Failure (Dict String (PipelineResult K)) := do
  let td := (quantData ticker).getD ⟨none,none⟩
  let outcome ← (run ticker td.signals (td.compositeScore.getD 50.0) forceRefresh).attempt
  match outcome with
  | .ok result => pure (results.set ticker result)
  | .error _ => pure results

/-- `run_batch_analysis`. -/
def runBatchAnalysis (tickers : List String) (quantData : String→Option (TickerData K))
    (forceRefresh : Bool) : Job (World W) Failure (Dict String (PipelineResult K)) :=
  Job.each (collectResult (runFullAnalysis p) quantData forceRefresh) tickers Dict.empty

/-- The body of `run_dynamic_ensemble` that its `try` protects. -/
def dynamicBody (ticker country : String) : Job (World W) Failure (PipelineResult K) := do
  let result ← service (p.runner ticker country)
  let (results,block) ← evaluateGate p "EnsembleGate" (.weights result.weights) []
  if block.isSome then
    Job.read fun s => blockedResult results s.machine.state "EnsembleGate"
  else
    transition .completed (ticker++" 동적 앙상블 완료: regime="++result.regime++", signal="++
      p.fixed4 result.ensembleSignal)
    pure ⟨none,some result,results,.completed,false,none⟩

/-- `run_dynamic_ensemble`. The results of the gates that its handler returns are left out. -/
def runDynamicEnsemble (ticker country : String) : Job (World W) Failure (PipelineResult K) := do
  reset "동적 앙상블 시작"
  transition .analyzing ("종목 "++ticker++" 동적 앙상블 분석")
  let outcome ← (dynamicBody p ticker country).attempt
  match outcome with
  | .ok result => pure result
  | .error _ => do
    transition .error (ticker++" 동적 앙상블 실패")
    pure (blockedResult [] .error "DynamicEnsemble:Error")

/-- `run_dynamic_ensemble_batch`. -/
def runDynamicEnsembleBatch (tickers : List String) (country : String) :
    Job (World W) Failure (Dict String (PipelineResult K)) :=
  Job.each (fun results ticker => do
    let outcome ← (runDynamicEnsemble p ticker country).attempt
    match outcome with
    | .ok result => pure (results.set ticker result)
    | .error _ => pure results) tickers Dict.empty

end Analyses

end Aqts.Pipeline
