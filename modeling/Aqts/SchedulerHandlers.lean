import Aqts.GuardHistory
import Aqts.GuardedRuns
import Aqts.OrderExecutor

/-!
# The guard of the scheduler's handlers

`core.scheduler_handlers`, as far as it deals with the trading guard. Both
handlers build a guard of their own and drop it at their end, while the orders
of the process ask the one that `get_trading_guard` keeps. The module says how
far a run of handlers, orders and operators still has the effects that the
handlers are written for.
-/

namespace Aqts.SchedulerHandlers

open GuardedRuns OrderTypes TradingGuard GuardHistory OrderExecutor
open PandasSeries (roundHalfEven)

/-- The guard part of `handle_pre_market`: the guard it resets. -/
def handlePreMarket (settings : Settings) : TradingGuardState :=
  resetDailyState (initial settings)

/-- Entries of the result of `handle_midday_check` about the guard. -/
structure MiddayResult where
  /-- `drawdown`, rounded to four digits. -/
  drawdown : Option ℚ := none
  /-- `dd_warning`. -/
  ddWarning : Option String := none
  deriving DecidableEq

/-- The guard part of `handle_midday_check`: the entries of the result and the
guard it updates. A failed balance call leaves no total. -/
def handleMiddayCheck (texts : NumberTexts) (settings : Settings) :
    Option ℚ→MiddayResult×TradingGuardState
  | none => ({},initial settings)
  | some totalEval =>
    if totalEval>0 then
      let guard := {initial settings with currentPortfolioValue := totalEval}
      let guard' :=
        if guard.peakPortfolioValue=0 then {guard with peakPortfolioValue := totalEval} else guard
      let checked := (checkMaxDrawdown texts settings.risk guard').2
      ({ drawdown := some (roundHalfEven (checked.currentDrawdown*10000)/10000)
         ddWarning :=
          if checked.currentDrawdown>15/100 then
            some ("드로다운 "++texts.percentTenth checked.currentDrawdown++" — 한도 접근 중")
          else none },checked)
    else ({},initial settings)

/-- A process of the scheduler. The last two fields record its history. -/
structure Process where
  /-- `_guard_instance`. -/
  guardInstance : Option TradingGuardState
  /-- The guard that the last handler built, which nothing reads afterwards. -/
  handlerGuard : Option TradingGuardState
  /-- The last event was the end of `handle_pre_market`. -/
  preMarketDone : Bool
  /-- `handle_midday_check` has seen a drawdown at the limit since the last
  release of the kill switch. -/
  drawdownSeen : Bool
  deriving DecidableEq

/-- A process that has just started. -/
def Process.start : Process := ⟨none,none,false,false⟩

/-- `get_trading_guard`. -/
def getTradingGuard (settings : Settings) (s : Process) : TradingGuardState :=
  s.guardInstance.getD (initial settings)

/-- What happens in a process. The guard check of `execute_order` is a call on
the guard. -/
inductive Event
  /-- `handle_pre_market` resets its guard and returns. -/
  | preMarket
  /-- `handle_midday_check` updates its guard. -/
  | middayCheck (totalEval : Option ℚ)
  /-- A call on the guard of the process. -/
  | guardCall (call : GuardCall)
  deriving DecidableEq

/-- The total is a drawdown at the limit from the peak of the process. -/
def AtLimit (settings : Settings) (s : Process) (totalEval : Option ℚ) : Prop :=
  ∃ value∈totalEval,0<value ∧ settings.risk.maxDrawdown≤
    drawdown {getTradingGuard settings s with currentPortfolioValue := value}

instance (settings : Settings) (s : Process) (totalEval : Option ℚ) :
    Decidable (AtLimit settings s totalEval) :=
  match totalEval with
  | none => .isFalse (by simp [AtLimit])
  | some value =>
    decidable_of_iff (0<value ∧ settings.risk.maxDrawdown≤
      drawdown {getTradingGuard settings s with currentPortfolioValue := value})
      (by simp [AtLimit])

/-- The history entry of a midday check, a release or another event. -/
def seenAfter (settings : Settings) (s : Process) : Event→Bool
  | .middayCheck totalEval => s.drawdownSeen || decide (AtLimit settings s totalEval)
  | .guardCall .deactivateKillSwitch => false
  | _ => s.drawdownSeen

/-- One event. A handler works on the guard it builds, every other call on the
guard of the process. -/
def step (texts : NumberTexts) (settings : Settings) (s : Process) (e : Event) : Option Process :=
  match e with
  | .preMarket =>
    some ⟨s.guardInstance,some (handlePreMarket settings),true,seenAfter settings s e⟩
  | .middayCheck totalEval =>
    some ⟨s.guardInstance,some (handleMiddayCheck texts settings totalEval).2,false,
      seenAfter settings s e⟩
  | .guardCall call =>
    some ⟨some (perform texts settings (getTradingGuard settings s) call),s.handlerGuard,false,
      seenAfter settings s e⟩

/-- After a pre-market run the accounts of the day are empty. -/
def DayFollows (settings : Settings) (s : Process) : Prop :=
  s.preMarketDone=true→(getTradingGuard settings s).dailyRealizedPnl=0 ∧
    (getTradingGuard settings s).dailyOrderCount=0

/-- After a drawdown at the limit no order passes the guard. -/
def OrdersRefused (texts : NumberTexts) (settings : Settings) (s : Process) : Prop :=
  s.drawdownSeen=true→∀ order,
    (checkPreOrder texts settings order (getTradingGuard settings s)).1.allowed=false

/-- The handlers find the guard of the process as they should leave it: its day
is empty before the pre-market run, and its kill switch is on before a midday
check that sees a drawdown at the limit. -/
def HandlersLate (settings : Settings) (s : Process) : Event→Prop
  | .preMarket => (getTradingGuard settings s).dailyRealizedPnl=0 ∧
      (getTradingGuard settings s).dailyOrderCount=0
  | .middayCheck totalEval => AtLimit settings s totalEval→
      (getTradingGuard settings s).killSwitchOn=true
  | .guardCall _ => True

instance (settings : Settings) (s : Process) (e : Event) : Decidable (HandlersLate settings s e) :=
  match e with
  | .preMarket => inferInstanceAs (Decidable (_ ∧ _))
  | .middayCheck _ => inferInstanceAs (Decidable (_→_))
  | .guardCall _ => .isTrue trivial

/-- The guard of the midday check turns its own kill switch on. -/
theorem handleMiddayCheck_latches (texts : NumberTexts) {settings : Settings} {totalEval : ℚ}
    (hcapital : 0 < settings.risk.initialCapital) (hpos : 0<totalEval)
    (hdrop : settings.risk.maxDrawdown≤
      drawdown {initial settings with currentPortfolioValue := totalEval}) :
    (handleMiddayCheck texts settings (some totalEval)).2.killSwitchOn=true := by
  have hpeak : (0 : ℚ)< settings.risk.initialCapital := by exact_mod_cast hcapital
  have hlatch := checkMaxDrawdown_latches texts settings.risk
    (SameAccounts.refl {initial settings with currentPortfolioValue := totalEval}) hpeak
  have hkeep : ¬{initial settings with currentPortfolioValue := totalEval}.peakPortfolioValue=0 :=
    hpeak.ne'
  unfold handleMiddayCheck
  dsimp only
  rw [if_pos hpos,if_neg hkeep]
  exact hlatch.switch.mpr (.inr hdrop)

section Runs

variable (texts : NumberTexts) (settings : Settings)

/-- A call that is no release leaves the kill switch on. -/
theorem perform_switch {s : TradingGuardState} {call : GuardCall} (hon : s.killSwitchOn=true)
    (hcall : call≠.deactivateKillSwitch) : (perform texts settings s call).killSwitchOn=true :=
  killSwitch_stays texts settings hon [call] (by
    intro other ho
    rw [List.mem_singleton.mp ho]
    exact hcall)

/-- After a drawdown at the limit the kill switch of the process is on. -/
def SwitchFollows (s : Process) : Prop :=
  s.drawdownSeen=true→(getTradingGuard settings s).killSwitchOn=true

/-- No event turns the kill switch off after a drawdown at the limit. -/
theorem step_switchFollows {s s' : Process} {e : Event} (h : SwitchFollows settings s)
    (hlate : HandlersLate settings s e) (hs : step texts settings s e=some s') :
    SwitchFollows settings s' := by
  intro hseen
  cases e with
  | preMarket =>
    cases hs
    exact h hseen
  | middayCheck totalEval =>
    cases hs
    obtain hbefore | hnow := (Bool.or_eq_true _ _).mp hseen
    · exact h hbefore
    · exact hlate (of_decide_eq_true hnow)
  | guardCall call =>
    by_cases hcall : call=.deactivateKillSwitch
    · rw [hcall] at hs
      cases hs
      cases hseen
    · have hkept : seenAfter settings s (.guardCall call)=s.drawdownSeen := by
        cases call with
        | deactivateKillSwitch => exact absurd rfl hcall
        | recordTradeResult pnl portfolioValue => rfl
        | resetDailyState => rfl
        | activateKillSwitch reason => rfl
        | checkPreOrder order => rfl
      cases hs
      exact perform_switch texts settings (h (hkept.symm.trans hseen)) hcall

/-- Only the end of a pre-market run claims an empty day. -/
theorem step_dayFollows {s s' : Process} {e : Event} (hlate : HandlersLate settings s e)
    (hs : step texts settings s e=some s') : DayFollows settings s' := by
  intro hdone
  cases e with
  | preMarket =>
    cases hs
    exact hlate
  | middayCheck totalEval =>
    cases hs
    cases hdone
  | guardCall call =>
    cases hs
    cases hdone

/-- In every run whose handlers find the guard as they should leave it, the day
is empty after a pre-market run and no order passes after a drawdown at the
limit. -/
theorem guard_follows_handlers {s : Process}
    (h : Reaches (step texts settings) (HandlersLate settings) Process.start s) :
    DayFollows settings s ∧ OrdersRefused texts settings s := by
  have hboth : DayFollows settings s ∧ SwitchFollows settings s := by
    refine h.invariant (P := fun s => DayFollows settings s ∧ SwitchFollows settings s) ?_ ?_
    · constructor
      · intro hdone
        cases hdone
      · intro hseen
        cases hseen
    · intro s e s' _ hs hlate hstep
      exact ⟨step_dayFollows texts settings hlate hstep,
        step_switchFollows texts settings hs.2 hlate hstep⟩
  refine ⟨hboth.1,?_⟩
  intro hseen order
  rw [checkPreOrder_switch texts settings order (hboth.2 hseen)]

end Runs

/-- A day that starts empty and a drawdown that an order has noticed. -/
theorem guard_follows_handlers_day :
    ∃ s,Reaches (step lossTexts demoSettings) (HandlersLate demoSettings) Process.start s ∧
      s.drawdownSeen=true ∧ DayFollows demoSettings s ∧ OrdersRefused lossTexts demoSettings s := by
  obtain ⟨s,_,hseen,hrun⟩ := play_ends (step lossTexts demoSettings) (HandlersLate demoSettings)
    Process.start (fun s => s.drawdownSeen=true)
    [.preMarket,.guardCall (.recordTradeResult (-9000000) 41000000),
      .guardCall (.checkPreOrder ⟨"005930",.buy,1,none⟩),.middayCheck (some 41000000)]
    (by decide +kernel)
  exact ⟨s,hrun,hseen,guard_follows_handlers lossTexts demoSettings hrun⟩

/-- The reset of a day with a loss misses the guard of the process, and so does
the drawdown of the midday check: the next order passes. -/
theorem handlers_miss_guard :
    (¬∀ s,Reaches (step lossTexts demoSettings) (fun _ _ => True) Process.start s→
      DayFollows demoSettings s) ∧
    ¬∀ s,Reaches (step lossTexts demoSettings) (fun _ _ => True) Process.start s→
      OrdersRefused lossTexts demoSettings s := by
  constructor
  · intro hall
    obtain ⟨s,_,hq,hrun⟩ := play_ends (step lossTexts demoSettings) (fun _ _ => True) Process.start
      (fun s => s.preMarketDone=true ∧ (getTradingGuard demoSettings s).dailyRealizedPnl≠0)
      [.guardCall (.recordTradeResult (-1000000) 49000000),.preMarket] (by decide +kernel)
    exact hq.2 (hall s hrun hq.1).1
  · intro hall
    obtain ⟨s,_,hq,hrun⟩ := play_ends (step lossTexts demoSettings) (fun _ _ => True) Process.start
      (fun s => s.drawdownSeen=true ∧
        (checkPreOrder lossTexts demoSettings ⟨"005930",.buy,1,none⟩
          (getTradingGuard demoSettings s)).1.allowed=true)
      [.middayCheck (some 40000000)] (by decide +kernel)
    have hrefused := hall s hrun hq.1 ⟨"005930",.buy,1,none⟩
    rw [hq.2] at hrefused
    cases hrefused

end Aqts.SchedulerHandlers
