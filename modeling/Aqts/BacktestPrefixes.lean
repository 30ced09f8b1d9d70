import Aqts.BacktestRuns

/-!
# No look-ahead in a backtest

Two markets over the same dates and tickers that agree up to a date. Whatever a
day reads of the frames, its row and the windows before it, stops at the present
row, so the two runs are in one state as long as the dates are not later, and what
they add after that has later dates.
-/

namespace Aqts.BacktestPrefixes

open BacktestAccount BacktestEngine BacktestRuns

variable {D T K : Type*} [LinearOrder D]

/-- Two markets over the same dates and tickers agree on the rows up to a date. -/
structure Agree (t : D) (m m' : Market D T K) : Prop where
  /-- Tickers. -/
  tickers : m.tickers=m'.tickers
  /-- Dates. -/
  dates : m.dates=m'.dates
  /-- Rows. -/
  rows : ∀ date,date≤t→m.loc date=m'.loc date

variable {t : D} {m m' : Market D T K} {n : ℕ} {row : Row D T K}

/-- Markets over the same dates have as many rows. -/
theorem Agree.length (h : Agree t m m') : m.rows.length=m'.rows.length := by
  have hdates := congrArg List.length h.dates
  unfold Market.dates at hdates
  rw [List.length_map,List.length_map] at hdates
  exact hdates

/-- Markets that agree have the same row at an index of a date up to the last one. -/
theorem Agree.sameRow (h : Agree t m m') (hrow : m.rows[n]?=some row) (hdate : row.date≤t) :
    m'.rows[n]?=some row := by
  have hindex := congrArg (fun dates => dates[n]?) h.dates
  unfold Market.dates at hindex
  rw [List.getElem?_map,List.getElem?_map,hrow,Option.map_some] at hindex
  obtain ⟨row',hrow',hsame⟩ := Option.map_eq_some_iff.mp hindex.symm
  have hmem : row∈m.rows := List.mem_of_getElem? hrow
  have hmem' : row'∈m'.rows := List.mem_of_getElem? hrow'
  have hloc := h.rows row.date hdate
  rw [loc_eq hmem,←hsame,loc_eq hmem'] at hloc
  rw [hrow',Option.some.inj hloc]

/-- Rows before a row have earlier dates. -/
theorem earlier {m : Market D T K} {j : ℕ} {before : Row D T K} (hrow : m.rows[n]?=some row)
    (hbefore : m.rows[j]?=some before) (hj : j<n) : before.date< row.date := by
  obtain ⟨hn,hget⟩ := List.getElem?_eq_some_iff.mp hrow
  obtain ⟨hjl,hgetj⟩ := List.getElem?_eq_some_iff.mp hbefore
  have hpairs := List.pairwise_iff_getElem.mp m.increasing j n (by simpa using hjl)
    (by simpa using hn) hj
  rw [List.getElem_map,List.getElem_map,hget,hgetj] at hpairs
  exact hpairs

/-- Markets that agree have the same rows up to such an index. -/
theorem Agree.take (h : Agree t m m') (hrow : m.rows[n]?=some row) (hdate : row.date≤t) :
    m.rows.take (n+1)=m'.rows.take (n+1) := by
  refine List.ext_getElem? fun j => ?_
  by_cases hj : j<n+1
  · rw [List.getElem?_take_of_lt hj,List.getElem?_take_of_lt hj]
    have hn : n< m.rows.length := (List.getElem?_eq_some_iff.mp hrow).1
    obtain ⟨before,hbefore⟩ : ∃ before,m.rows[j]?=some before :=
      ⟨_,List.getElem?_eq_getElem (by omega)⟩
    have hle : before.date≤t := by
      by_cases hlast : j=n
      · rw [hlast,hrow] at hbefore
        cases hbefore
        exact hdate
      · exact (earlier hrow hbefore (by omega)).le.trans hdate
    rw [hbefore,h.sameRow hbefore hle]
  · rw [List.getElem?_eq_none,List.getElem?_eq_none]
    · rw [List.length_take]
      omega
    · rw [List.length_take]
      omega

/-- A day up to the last date sees the same of both markets. -/
theorem Agree.seen (h : Agree t m m') (hrow : m.rows[n]?=some row) (hdate : row.date≤t) :
    BacktestRuns.seen m n row=BacktestRuns.seen m' n row := by
  unfold BacktestRuns.seen Market.iloc
  rw [h.tickers,h.take hrow hdate]

variable [Field K] [LinearOrder K] [DecidableEq T] [FloorRing K] {cfg : BacktestConfig K}
  {lib : Library D T K} {s s' : State D T K}

/-- One more day up to the last date is the same day. -/
theorem Agree.runTo_succ (h : Agree t m m') (hrow : m.rows[n]?=some row) (hdate : row.date≤t)
    (hsame : runTo cfg lib m n=runTo cfg lib m' n) :
    runTo cfg lib m (n+1)=runTo cfg lib m' (n+1) := by
  rw [BacktestRuns.runTo_succ hrow,BacktestRuns.runTo_succ (h.sameRow hrow hdate),hsame,
    h.seen hrow hdate]

/-- As long as the dates are up to the last one the runs are in one state, or have both
raised. -/
theorem Agree.runTo (h : Agree t m m') (hdates : ∀ j row,j<n→m.rows[j]?=some row→ row.date≤t) :
    BacktestEngine.runTo cfg lib m n=BacktestEngine.runTo cfg lib m' n := by
  induction n with
  | zero => rfl
  | succ n ih =>
    have hbefore := ih fun j row hj => hdates j row (by omega)
    cases hrow : m.rows[n]? with
    | some row => exact h.runTo_succ hrow (hdates n row (by omega) hrow) hbefore
    | none =>
      have hlength := List.getElem?_eq_none_iff.mp hrow
      rw [runTo_length hlength,runTo_length (h.length ▸ hlength)]
      exact hbefore

/-- What is dated up to a date. -/
def upTo {α : Type*} (t : D) (date : α→D) (entries : List α) : List α :=
  entries.filter fun entry => date entry≤t

/-- Later entries are not dated up to a date. -/
theorem upTo_append {α : Type*} {date : α→D} {entries added : List α}
    (hlater : ∀ entry∈added,t<date entry) : upTo t date (entries++added)=upTo t date entries := by
  unfold upTo
  rw [List.filter_append]
  have hnone : added.filter (fun entry => date entry≤t)=[] := by
    refine List.filter_eq_nil_iff.mpr fun entry hentry hle => ?_
    exact absurd (of_decide_eq_true hle) (not_le.mpr (hlater entry hentry))
  rw [hnone,List.append_nil]

/-- A day after a date adds nothing that is dated up to it. -/
theorem later_day {today : Today D T K} (hday : day cfg lib today s=some s')
    (hlater : t<today.date) :
    upTo t Prod.fst s'.equityHistory=upTo t Prod.fst s.equityHistory ∧
      upTo t TradeRecord.date s'.account.records=upTo t TradeRecord.date s.account.records := by
  obtain ⟨value,hequity⟩ := day_equity hday
  obtain ⟨added,hrecords,hdates⟩ := day_records hday
  rw [hequity,hrecords]
  refine ⟨upTo_append fun entry hentry => ?_,upTo_append fun r hr => ?_⟩
  · rw [List.mem_singleton.mp hentry]
    exact hlater
  · rw [hdates r hr]
    exact hlater

/-- After any number of days the runs have the same entries up to the last date. -/
theorem Agree.entries (h : Agree t m m') (hs : BacktestEngine.runTo cfg lib m n=some s)
    (hs' : BacktestEngine.runTo cfg lib m' n=some s') :
    upTo t Prod.fst s.equityHistory=upTo t Prod.fst s'.equityHistory ∧
      upTo t TradeRecord.date s.account.records=upTo t TradeRecord.date s'.account.records := by
  induction n generalizing s s' with
  | zero =>
    cases hs
    cases hs'
    exact ⟨rfl,rfl⟩
  | succ n ih =>
    rcases runTo_succ_cases hs with ⟨hlength,hbefore⟩ | ⟨row,before,hrow,hbefore,hday⟩
    · have hlength' : m'.rows.length≤n := h.length ▸ hlength
      rw [runTo_length hlength'] at hs'
      exact ih hbefore hs'
    · by_cases hdate : row.date≤t
      · have hsame : BacktestEngine.runTo cfg lib m (n+1)=
            BacktestEngine.runTo cfg lib m' (n+1) := by
          refine h.runTo fun j other hj hother => ?_
          by_cases hlast : j=n
          · rw [hlast,hrow] at hother
            cases hother
            exact hdate
          · exact (earlier hrow hother (by omega)).le.trans hdate
        rw [hs,hs'] at hsame
        cases hsame
        exact ⟨rfl,rfl⟩
      · rcases runTo_succ_cases hs' with ⟨hlength,_⟩ | ⟨row',before',hrow',hbefore',hday'⟩
        · have hn : n< m.rows.length := (List.getElem?_eq_some_iff.mp hrow).1
          have hlength' := h.length
          omega
        · have hdates : row'.date=row.date := by
            have hindex := congrArg (fun dates => dates[n]?) h.dates
            unfold Market.dates at hindex
            rw [List.getElem?_map,List.getElem?_map,hrow,hrow'] at hindex
            exact (Option.some.inj hindex).symm
          have hlater : t< row.date := not_le.mp hdate
          have hlater' : t< row'.date := hdates ▸ hlater
          obtain ⟨hequity,hrecords⟩ := later_day hday hlater
          obtain ⟨hequity',hrecords'⟩ := later_day hday' hlater'
          obtain ⟨hsame,hsameRecords⟩ := ih hbefore hbefore'
          exact ⟨hequity.trans (hsame.trans hequity'.symm),
            hrecords.trans (hsameRecords.trans hrecords'.symm)⟩

/-- For every configuration and every two markets that agree up to a date: the runs are
in one state as long as the dates are up to it, raising or not, and two completed
simulations have the same equity and the same trade records dated up to it. -/
theorem no_lookahead (cfg : BacktestConfig K) (lib : Library D T K) (h : Agree t m m') :
    (∀ n,(∀ j row,j<n→m.rows[j]?=some row→ row.date≤t)→
      BacktestEngine.runTo cfg lib m n=BacktestEngine.runTo cfg lib m' n) ∧
    ∀ result result',simulate cfg lib m=some result→simulate cfg lib m'=some result'→
      upTo t Prod.fst result.1=upTo t Prod.fst result'.1 ∧
        upTo t TradeRecord.date result.2=upTo t TradeRecord.date result'.2 := by
  refine ⟨fun n hdates => h.runTo hdates,fun result result' hresult hresult' => ?_⟩
  obtain ⟨s,hs,rfl⟩ := Option.map_eq_some_iff.mp hresult
  obtain ⟨s',hs',rfl⟩ := Option.map_eq_some_iff.mp hresult'
  rw [←h.dates] at hs'
  exact h.entries hs hs'

/-- Two prices rise for two days, and fall or rise on. -/
def turns (last : ℚ) : Market ℕ Pair ℚ :=
  daily [(some (1/2),some 100),(some (1/2),some 110),(some (-1/2),some last)]

/-- The two turns agree up to the second day, and so do their runs, which end otherwise. -/
theorem no_lookahead_turns :
    upTo 1 TradeRecord.date (((simulate {} plainLibrary (turns 60)).map Prod.snd).getD [])=
        upTo 1 TradeRecord.date (((simulate {} plainLibrary (turns 120)).map Prod.snd).getD []) ∧
      simulate {} plainLibrary (turns 60)≠simulate {} plainLibrary (turns 120) := by
  have hagree : Agree 1 (turns 60) (turns 120) := by
    refine ⟨rfl,rfl,fun date hdate => ?_⟩
    rcases Nat.le_one_iff_eq_zero_or_eq_one.mp hdate with rfl | rfl
    · rfl
    · rfl
  obtain ⟨result,hresult⟩ := Option.isSome_iff_exists.mp
    (by decide +kernel : (simulate {} plainLibrary (turns 60)).isSome=true)
  obtain ⟨result',hresult'⟩ := Option.isSome_iff_exists.mp
    (by decide +kernel : (simulate {} plainLibrary (turns 120)).isSome=true)
  refine ⟨?_,by decide +kernel⟩
  rw [hresult,hresult']
  exact ((no_lookahead {} plainLibrary hagree).2 result result' hresult hresult').2

end Aqts.BacktestPrefixes
