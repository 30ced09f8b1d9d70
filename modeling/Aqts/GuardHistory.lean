import Aqts.TradingGuard
import Mathlib.Data.List.Induction
import Mathlib.Order.Bounds.Basic

/-!
# The guard as a function of its history

Every sequence of calls on one `TradingGuard`. The accounts of the state are
closed forms of the calls so far: the greatest value that was reported, the
results since the last reset and the losing run at the end. The checks read
these accounts, and the kill switch that they latch survives every later call
but the one that releases it.
-/

namespace Aqts.GuardHistory

open OrderTypes TradingGuard

/-- The calls that change a guard. -/
inductive GuardCall
  /-- `record_trade_result`. -/
  | recordTradeResult (pnl portfolioValue : ℚ)
  /-- `reset_daily_state`. -/
  | resetDailyState
  /-- `activate_kill_switch`. -/
  | activateKillSwitch (reason : String)
  /-- `deactivate_kill_switch`. -/
  | deactivateKillSwitch
  /-- `check_pre_order`. -/
  | checkPreOrder (order : PreOrder)
  deriving DecidableEq

/-- State after a call. -/
def perform (texts : NumberTexts) (settings : Settings) (s : TradingGuardState) :
    GuardCall→TradingGuardState
  | .recordTradeResult pnl portfolioValue => recordTradeResult pnl portfolioValue s
  | .resetDailyState => resetDailyState s
  | .activateKillSwitch reason => activateKillSwitch reason s
  | .deactivateKillSwitch => deactivateKillSwitch s
  | .checkPreOrder order => (checkPreOrder texts settings order s).2

/-- State of a new guard after a sequence of calls. -/
def run (texts : NumberTexts) (settings : Settings) (calls : List GuardCall) : TradingGuardState :=
  calls.foldl (perform texts settings) (initial settings)

/-- The portfolio values that the calls report. -/
def reportedValues (calls : List GuardCall) : List ℚ :=
  calls.filterMap fun
    | .recordTradeResult _ portfolioValue => some portfolioValue
    | _ => none

/-- The results that the calls report. -/
def reportedPnl (calls : List GuardCall) : List ℚ :=
  calls.filterMap fun
    | .recordTradeResult pnl _ => some pnl
    | _ => none

/-- The calls after the last reset. -/
def sinceReset (calls : List GuardCall) : List GuardCall :=
  (calls.reverse.takeWhile (·≠.resetDailyState)).reverse

/-- Length of the run of losses at the end. -/
def trailingLosses (calls : List GuardCall) : ℕ :=
  ((reportedPnl calls).reverse.takeWhile (·<0)).length

/-- The accounts of a state are those of a history. -/
structure Accounts (settings : Settings) (calls : List GuardCall) (s : TradingGuardState) :
    Prop where
  /-- The peak is the greatest of the initial capital and the reported values. -/
  peak : IsGreatest (insert (settings.risk.initialCapital : ℚ) {v | v∈reportedValues calls})
    s.peakPortfolioValue
  /-- The current value is not above the peak. -/
  current : s.currentPortfolioValue ≤ s.peakPortfolioValue
  /-- The result of the day is the sum since the last reset. -/
  pnl : s.dailyRealizedPnl=(reportedPnl (sinceReset calls)).sum
  /-- The order count is the number of results since the last reset. -/
  count : s.dailyOrderCount=(reportedPnl (sinceReset calls)).length
  /-- The losses in a row are those at the end. -/
  losses : s.consecutiveLosses=trailingLosses calls

/-- Calls that report no result. -/
def GuardCall.Quiet : GuardCall→Prop
  | .recordTradeResult _ _ => False
  | .resetDailyState => False
  | _ => True

/-- A last call that is no reset belongs to the calls since the reset. -/
theorem sinceReset_snoc {calls : List GuardCall} {call : GuardCall} (h : call≠.resetDailyState) :
    sinceReset (calls++[call])=sinceReset calls++[call] := by
  unfold sinceReset
  rw [List.reverse_append,List.reverse_singleton,List.singleton_append,List.takeWhile_cons]
  simp [h]

/-- No call comes after a reset at the end. -/
theorem sinceReset_reset (calls : List GuardCall) :
    sinceReset (calls++[.resetDailyState])=[] := by
  unfold sinceReset
  rw [List.reverse_append,List.reverse_singleton,List.singleton_append,List.takeWhile_cons]
  simp

/-- The result of the last call is the last result. -/
theorem reportedPnl_snoc (calls : List GuardCall) (pnl portfolioValue : ℚ) :
    reportedPnl (calls++[.recordTradeResult pnl portfolioValue])=reportedPnl calls++[pnl] := by
  simp [reportedPnl,List.filterMap_append]

/-- The value of the last call is the last value. -/
theorem reportedValues_snoc (calls : List GuardCall) (pnl portfolioValue : ℚ) :
    reportedValues (calls++[.recordTradeResult pnl portfolioValue])=
      reportedValues calls++[portfolioValue] := by
  simp [reportedValues,List.filterMap_append]

/-- A last loss makes the run at the end longer, another result ends it. -/
theorem trailingLosses_snoc (calls : List GuardCall) (pnl portfolioValue : ℚ) :
    trailingLosses (calls++[.recordTradeResult pnl portfolioValue])=
      if pnl<0 then trailingLosses calls+1 else 0 := by
  unfold trailingLosses
  rw [reportedPnl_snoc,List.reverse_append,List.reverse_singleton,List.singleton_append,
    List.takeWhile_cons]
  by_cases h : pnl<0
  · simp [h]
  · simp [h]

/-- A quiet call reports nothing. -/
theorem quiet_snoc (calls : List GuardCall) {call : GuardCall} (h : call.Quiet) :
    reportedPnl (calls++[call])=reportedPnl calls ∧
      reportedValues (calls++[call])=reportedValues calls := by
  cases call with
  | recordTradeResult pnl portfolioValue => exact h.elim
  | resetDailyState => exact h.elim
  | activateKillSwitch reason => simp [reportedPnl,reportedValues,List.filterMap_append]
  | deactivateKillSwitch => simp [reportedPnl,reportedValues,List.filterMap_append]
  | checkPreOrder order => simp [reportedPnl,reportedValues,List.filterMap_append]

/-- A new guard has the accounts of the empty history. -/
theorem accounts_initial (settings : Settings) : Accounts settings [] (initial settings) where
  peak := by simp [initial,reportedValues]
  current := le_refl _
  pnl := rfl
  count := rfl
  losses := rfl

/-- A quiet call that keeps the accounts keeps them those of the history. -/
theorem Accounts.quiet {settings : Settings} {calls : List GuardCall} {s t : TradingGuardState}
    {call : GuardCall} (h : Accounts settings calls s) (hcall : call.Quiet)
    (hsame : SameAccounts s t) : Accounts settings (calls++[call]) t := by
  have hreset : call≠.resetDailyState := by
    rintro rfl
    exact hcall
  have hnow := quiet_snoc calls hcall
  have hday := (quiet_snoc (sinceReset calls) hcall).1
  refine ⟨?_,?_,?_,?_,?_⟩
  · rw [hnow.2,hsame.peak]
    exact h.peak
  · rw [hsame.current,hsame.peak]
    exact h.current
  · rw [sinceReset_snoc hreset,hday,hsame.pnl]
    exact h.pnl
  · rw [sinceReset_snoc hreset,hday,hsame.count]
    exact h.count
  · rw [hsame.losses,h.losses]
    unfold trailingLosses
    rw [hnow.1]

/-- A reset starts a new day. -/
theorem Accounts.reset {settings : Settings} {calls : List GuardCall} {s : TradingGuardState}
    (h : Accounts settings calls s) :
    Accounts settings (calls++[.resetDailyState]) (resetDailyState s) := by
  have hpnl : reportedPnl (calls++[.resetDailyState])=reportedPnl calls := by
    simp [reportedPnl,List.filterMap_append]
  have hvalues : reportedValues (calls++[.resetDailyState])=reportedValues calls := by
    simp [reportedValues,List.filterMap_append]
  refine ⟨?_,h.current,?_,?_,?_⟩
  · rw [hvalues]
    exact h.peak
  · rw [sinceReset_reset]
    rfl
  · rw [sinceReset_reset]
    rfl
  · unfold trailingLosses
    rw [hpnl]
    exact h.losses

/-- A recorded trade enters every account. -/
theorem Accounts.record {settings : Settings} {calls : List GuardCall} {s : TradingGuardState}
    (h : Accounts settings calls s) (pnl portfolioValue : ℚ) :
    Accounts settings (calls++[.recordTradeResult pnl portfolioValue])
      (recordTradeResult pnl portfolioValue s) := by
  have hmax : (recordTradeResult pnl portfolioValue s).peakPortfolioValue=
      max s.peakPortfolioValue portfolioValue := by
    unfold recordTradeResult
    dsimp only
    by_cases hnew : portfolioValue>s.peakPortfolioValue
    · rw [if_pos hnew,max_eq_right hnew.le]
    · rw [if_neg hnew,max_eq_left (not_lt.mp hnew)]
  have hset : insert (settings.risk.initialCapital : ℚ)
      {v | v∈reportedValues (calls++[.recordTradeResult pnl portfolioValue])}=
      insert (settings.risk.initialCapital : ℚ) {v | v∈reportedValues calls}∪{portfolioValue} := by
    rw [reportedValues_snoc]
    ext v
    simp [or_comm,or_left_comm]
  refine ⟨?_,?_,?_,?_,?_⟩
  · rw [hmax,hset]
    exact h.peak.union isGreatest_singleton
  · rw [hmax]
    exact le_max_right _ _
  · rw [sinceReset_snoc (by simp),reportedPnl_snoc,List.sum_append,List.sum_singleton,← h.pnl]
    rfl
  · rw [sinceReset_snoc (by simp),reportedPnl_snoc,List.length_append,List.length_singleton,
      ← h.count]
    rfl
  · rw [trailingLosses_snoc,← h.losses]
    rfl

section History

variable (texts : NumberTexts) (settings : Settings)

/-- The peak of a history is positive. -/
theorem Accounts.peak_pos {calls : List GuardCall} {s : TradingGuardState}
    (h : Accounts settings calls s) (hcapital : 0 < settings.risk.initialCapital) :
    0 < s.peakPortfolioValue := by
  have hbound := h.peak.2 (Set.mem_insert _ _)
  have hpos : (0 : ℚ)< settings.risk.initialCapital := by exact_mod_cast hcapital
  exact lt_of_lt_of_le hpos hbound

/-- Every call keeps the accounts those of the history. -/
theorem Accounts.perform {calls : List GuardCall} {s : TradingGuardState}
    (h : Accounts settings calls s) (hcapital : 0 < settings.risk.initialCapital)
    (henv : (verifyEnvironment settings).allowed=true) (call : GuardCall) :
    Accounts settings (calls++[call]) (perform texts settings s call) := by
  cases call with
  | recordTradeResult pnl portfolioValue => exact h.record pnl portfolioValue
  | resetDailyState => exact h.reset
  | activateKillSwitch reason => exact h.quiet trivial ⟨rfl,rfl,rfl,rfl,rfl⟩
  | deactivateKillSwitch => exact h.quiet trivial ⟨rfl,rfl,rfl,rfl,rfl⟩
  | checkPreOrder order =>
    have hpeak := h.peak_pos settings hcapital
    exact h.quiet trivial (checkPreOrder_latches texts settings order henv hpeak).1

/-- The state after any calls has the accounts of their history. -/
theorem run_accounts (hcapital : 0 < settings.risk.initialCapital)
    (henv : (verifyEnvironment settings).allowed=true) (calls : List GuardCall) :
    Accounts settings calls (run texts settings calls) := by
  induction calls using List.reverseRecOn with
  | nil => exact accounts_initial settings
  | append_singleton calls call ih =>
    have hlast : run texts settings (calls++[call])=
        GuardHistory.perform texts settings (run texts settings calls) call := by
      unfold run
      rw [List.foldl_append]
      rfl
    rw [hlast]
    exact ih.perform texts settings hcapital henv call

/-- The kill switch stays on until it is released. -/
theorem killSwitch_stays {s : TradingGuardState} (hon : s.killSwitchOn=true)
    (later : List GuardCall) (hlater : ∀ call∈later,call≠.deactivateKillSwitch) :
    (later.foldl (perform texts settings) s).killSwitchOn=true := by
  refine List.foldlRecOn (motive := fun s : TradingGuardState => s.killSwitchOn=true) later _ hon ?_
  intro s hs call hcall
  cases call with
  | recordTradeResult pnl portfolioValue => exact hs
  | resetDailyState => exact hs
  | activateKillSwitch reason => rfl
  | deactivateKillSwitch => exact absurd rfl (hlater _ hcall)
  | checkPreOrder order =>
    have hkept := congrArg Prod.snd (checkPreOrder_switch texts settings order hs)
    exact (congrArg TradingGuardState.killSwitchOn hkept).trans hs

/-- After any calls the accounts are those of the history, an order is allowed
exactly when the kill switch is off and every limit holds, and a check that
finds a limit reached refuses every later order until the switch is released. -/
theorem guard_follows_history (hcapital : 0 < settings.risk.initialCapital)
    (henv : (verifyEnvironment settings).allowed=true) (calls : List GuardCall) :
    IsGreatest (insert (settings.risk.initialCapital : ℚ) {v | v∈reportedValues calls})
        (run texts settings calls).peakPortfolioValue ∧
      (run texts settings calls).currentPortfolioValue≤
        (run texts settings calls).peakPortfolioValue ∧
      (run texts settings calls).dailyRealizedPnl=(reportedPnl (sinceReset calls)).sum ∧
      (run texts settings calls).consecutiveLosses=trailingLosses calls ∧
      (∀ order,(checkPreOrder texts settings order (run texts settings calls)).1.allowed=true ↔
        (run texts settings calls).killSwitchOn=false ∧
        -(settings.risk.dailyLossLimit : ℚ)<(run texts settings calls).dailyRealizedPnl ∧
        drawdown (run texts settings calls)< settings.risk.maxDrawdown ∧
        (run texts settings calls).consecutiveLosses< settings.risk.consecutiveLossLimit ∧
        ∀ price∈order.limitPrice,order.side=.buy→0<price→
          price*order.quantity ≤ settings.risk.maxOrderAmount) ∧
      ∀ order later,LimitReached settings.risk (run texts settings calls)→
        (∀ call∈later,call≠.deactivateKillSwitch)→
        ∀ next,(checkPreOrder texts settings next
          (run texts settings (calls++.checkPreOrder order::later))).1.allowed=false := by
  have hacc := run_accounts texts settings hcapital henv calls
  have hpeak := hacc.peak_pos settings hcapital
  refine ⟨hacc.peak,hacc.current,hacc.pnl,hacc.losses,?_,?_⟩
  · intro order
    rw [checkPreOrder_allowed_iff texts settings order henv hpeak]
    unfold LimitReached WithinAmount
    simp only [not_or,not_le,and_assoc]
  · intro order later hreached hlater next
    have hon : (checkPreOrder texts settings order (run texts settings calls)).2.killSwitchOn=
        true := (checkPreOrder_latches texts settings order henv hpeak).2.mpr (.inr hreached)
    have hstays := killSwitch_stays texts settings hon later hlater
    have hrun : run texts settings (calls++.checkPreOrder order::later)=
        later.foldl (perform texts settings)
          (checkPreOrder texts settings order (run texts settings calls)).2 := by
      unfold run
      rw [List.foldl_append]
      rfl
    rw [hrun,checkPreOrder_switch texts settings next hstays]

end History

/-- The demo mode with the default limits. -/
def demoSettings : Settings where
  isLive := false
  isProduction := false
  liveAppKey := ""
  liveAppSecret := ""
  liveAccountNo := ""
  demoAppKey := ""
  risk := ⟨50000000,5000000,10000000,5,15/100⟩

/-- Texts of the amounts that the loss of a day leads to. -/
def lossTexts : NumberTexts := ⟨fun _ => "-5,000,000",fun _ => "10.00%",fun _ => "10.0%"⟩

/-- Two losses reach the limit of the day. The order that finds it is the last
one until the release, across a reset and a winning trade. -/
theorem guard_follows_history_after_losses :
    LimitReached demoSettings.risk
        (run lossTexts demoSettings
          [.recordTradeResult (-3000000) 47000000,.recordTradeResult (-2000000) 45000000]) ∧
      (checkPreOrder lossTexts demoSettings ⟨"005930",.sell,1,none⟩
        (run lossTexts demoSettings
          ([.recordTradeResult (-3000000) 47000000,.recordTradeResult (-2000000) 45000000]++
            .checkPreOrder ⟨"005930",.buy,10,some 70000⟩::
              [.resetDailyState,.recordTradeResult 1000000 46000000]))).1.allowed=false :=
  ⟨by decide +kernel,
    (guard_follows_history lossTexts demoSettings (by decide)
      (by decide)
      [.recordTradeResult (-3000000) 47000000,.recordTradeResult (-2000000) 45000000]).2.2.2.2.2
      ⟨"005930",.buy,10,some 70000⟩ [.resetDailyState,.recordTradeResult 1000000 46000000]
      (by decide +kernel) (by decide) ⟨"005930",.sell,1,none⟩⟩

end Aqts.GuardHistory
