import Mathlib.Tactic.LinearCombination
import Mathlib.Tactic.NormNum
import Aqts.RlFeatures

/-!
# Look-ahead of the market features

When the observation of `MultiAssetTradingEnv` on a day is the one it would give if the
histories ended on that day. The histories chosen by their lengths have to be the same, the
later days have to lie around the day's volatility like the earlier ones, the windows of
trend following have to be the same, and on the fourteenth day also the range of the first
one, for which the last close is taken as the close before. Nothing else looks ahead.
-/

namespace Aqts.RlLookahead

open CausalSeries Dictionary PandasSeries RlEnvironments RlFeatures SignalCausality
open TechnicalIndicators VectorizedSignals

section Counts

variable {K : Type*} [LinearOrder K]

/-- Counts over some days and later ones. -/
theorem counts_split (s : Series K) (n : ℕ) (v : Value K) :
    lowerCount s v=lowerCount (s.take n) v+lowerCount (s.drop n) v ∧
      equalCount s v=equalCount (s.take n) v+equalCount (s.drop n) v := by
  unfold lowerCount equalCount
  rw [← List.countP_append,← List.countP_append,List.take_append_drop]
  exact ⟨rfl,rfl⟩

end Counts

section Columns

variable {K : Type*} [Field K] [LinearOrder K]

/-- Daily returns are causal. -/
theorem returns_causal : CausalOf fun o : Ohlcv K => returns o.close := fun columns =>
  (causal_scan _ none).comp (close_causal columns)

/-- `returns_5d` is causal. -/
theorem returns5d_causal : CausalOf (returns5d (K := K)) := fun columns =>
  (causal_rollingMean (returns_causal columns) 5 5).map fun v => v.fillna (.number 0)

/-- `vol_20d` is causal. -/
theorem vol20d_causal (sqrt : K→K) : CausalOf (vol20d sqrt) := fun columns =>
  (causal_rollingStd (returns_causal columns) sqrt 20).map fun v => v.fillna (.number 0)

/-- `momentum` is causal. -/
theorem momentum_causal : CausalOf (momentum (K := K)) := fun columns =>
  (causal_sma (close_causal columns) 5).zipWith (causal_sma (close_causal columns) 20) momentumOf

/-- True ranges are causal, with a given close before the first day. -/
theorem tr_causal (before : Value K) : CausalOf (tr before) := fun columns =>
  ((high_causal columns).zipWith (low_causal columns) Prod.mk).zipWith
    ((causal_shift before 1).comp (close_causal columns)) trOf

/-- `adx_proxy` is causal, with a given close before the first day. -/
theorem adxProxyFrom_causal (before : Value K) : CausalOf (adxProxyFrom before) := fun columns =>
  (causal_rollingMean (tr_causal before columns) 14 14).zipWith (close_causal columns) adxProxyOf

/-- There is a true range for each day. -/
theorem tr_length (before : Value K) (o : Ohlcv K) : (tr before o).length=o.rows.length := by
  obtain ⟨hclose,hhigh,hlow,_⟩ := columns_length o
  simp [tr,hclose,hhigh,hlow]

/-- Only the first true range depends on the close before the first day. -/
theorem tr_tail (before before' : Value K) (o : Ohlcv K) :
    (tr before o).drop 1=(tr before' o).drop 1 := by
  have hshift : ∀ fill : Value K,(shift fill 1 o.close).drop 1=o.close.take (o.close.length-1) := by
    intro fill
    unfold shift
    rw [List.drop_take]
    rfl
  unfold tr
  rw [List.drop_zipWith,List.drop_zipWith,hshift,hshift]

/-- `adx_proxy` of a day does not depend on the close before the first day, unless the day is
the fourteenth one and the first true range depends on it. -/
theorem adxProxyFrom_same (before before' : Value K) (o : Ohlcv K) {t : ℕ}
    (h : t=13→(tr before o)[0]?=(tr before' o)[0]?) :
    (adxProxyFrom before o)[t]?=(adxProxyFrom before' o)[t]? := by
  have hmean : (rollingMean 14 14 (tr before o))[t]?=(rollingMean 14 14 (tr before' o))[t]? := by
    by_cases ht : t<o.rows.length
    · have hlength : ∀ b : Value K,t<(tr b o).length := fun b => by rw [tr_length]; exact ht
      rcases lt_trichotomy t 13 with hearly | hday | hlate
      · have hmissing : ∀ b : Value K,(rollingMean 14 14 (tr b o))[t]?=some .missing := fun b =>
          rolling_row_missing (hlength b) (by omega)
        rw [hmissing,hmissing]
      · have hsame : tr before o=tr before' o := by
          rw [← List.take_append_drop 1 (tr before o),← List.take_append_drop 1 (tr before' o),
            tr_tail before before']
          congr 1
          rw [List.take_one,List.take_one,List.head?_eq_getElem?,List.head?_eq_getElem?,h hday]
        rw [hsame]
      · have hdrop : ∀ b : Value K,((tr b o).take (t+1)).drop (t+1-14)=
            (((tr b o).drop 1).take t).drop (t-14) := by
          intro b
          have hsplit : t+1-14=1+(t-14) := by omega
          rw [hsplit,← List.drop_drop,List.drop_take]
          rfl
        refine rolling_row_same (hlength before) (hlength before') ?_
        rw [hdrop,hdrop,tr_tail before before']
    · rw [List.getElem?_eq_none (by rw [rollingMean_length,tr_length]; omega),
        List.getElem?_eq_none (by rw [rollingMean_length,tr_length]; omega)]
  exact zipWith_row adxProxyOf hmean rfl

/-- Every volatility is a number. -/
theorem vol20d_number (sqrt : K→K) (o : Ohlcv K) {v : Value K} (hv : v∈vol20d sqrt o) :
    ∃ x,v=.number x := by
  unfold vol20d rollingStd rolling trailing at hv
  obtain ⟨w,hw,rfl⟩ := List.mem_map.mp hv
  obtain ⟨i,_,rfl⟩ := List.mem_map.mp hw
  dsimp only
  split
  · exact ⟨0,rfl⟩
  · unfold std
    split
    · exact ⟨0,rfl⟩
    · exact ⟨_,rfl⟩

/-- The later days lie around a value like the days up to one: with `b` below it and `e` equal
to it out of `n` days up to it, and `B` and `E` out of `N` later ones, `n(2B+E)=N(2b+e+1)`. -/
def Balanced (s : Series K) (t : ℕ) (v : Value K) : Prop :=
  (t+1)*(2*lowerCount (s.drop (t+1)) v+equalCount (s.drop (t+1)) v)=
    (s.drop (t+1)).length*(2*lowerCount (s.take (t+1)) v+equalCount (s.take (t+1)) v+1)

instance (s : Series K) (t : ℕ) (v : Value K) : Decidable (Balanced s t v) :=
  inferInstanceAs (Decidable (_=_))

/-- `adx_proxy` of a day is that of the days up to it. -/
theorem adxProxy_same {o : Ohlcv K} {t : ℕ}
    (h : t=13→(tr (lastClose o) o)[0]?=(tr (lastClose (o.upTo t)) o)[0]?) :
    (adxProxy o)[t]?=(adxProxy (o.upTo t))[t]? := by
  have hfirst : ∀ before : Value K,(tr before (o.upTo t))[0]?=(tr before o)[0]? := fun before =>
    ((tr_causal before).row o (Nat.zero_le t)).symm
  unfold adxProxy
  rw [(adxProxyFrom_causal (lastClose o)).row o (le_refl t)]
  refine adxProxyFrom_same _ _ _ fun hday => ?_
  rw [hfirst,hfirst]
  exact h hday

section Ranks

variable [IsStrictOrderedRing K]

/-- The rank of a value is that among the days up to one if the later days are balanced, and only
then. -/
theorem rankOf_same_iff {s : Series K} (hs : .missing∉s) {t : ℕ} (ht : t< s.length) {v : Value K}
    (hv : v≠.missing) : rankOf s v=rankOf (s.take (t+1)) v ↔ Balanced s t v := by
  have hall : s.filter (fun w => w≠.missing)=s :=
    List.filter_eq_self.mpr fun w hw => decide_eq_true fun h => hs (h ▸ hw)
  have hfirst : (s.take (t+1)).filter (fun w => w≠.missing)=s.take (t+1) :=
    List.filter_eq_self.mpr fun w hw => decide_eq_true fun h => hs (h ▸ List.mem_of_mem_take hw)
  have hrank : ∀ s' : Series K,s'.filter (fun w => w≠.missing)=s'→ rankOf s' v=
      .number (((lowerCount s' v : K)+((equalCount s' v : K)+1)/2.0)/(s'.length : K)) := by
    intro s' hs'
    unfold rankOf
    split
    · exact absurd rfl hv
    · dsimp only
      rw [hs']
  obtain ⟨hlower,hequal⟩ := counts_split s (t+1) v
  have hlength : s.length=(t+1)+(s.drop (t+1)).length := by
    rw [List.length_drop]
    omega
  have htake : (s.take (t+1)).length=t+1 := by
    rw [List.length_take]
    omega
  rw [hrank s hall,hrank _ hfirst,Value.number.injEq,hlower,hequal,htake,hlength]
  unfold Balanced
  generalize lowerCount (s.take (t+1)) v=b
  generalize lowerCount (s.drop (t+1)) v=b'
  generalize equalCount (s.take (t+1)) v=e
  generalize equalCount (s.drop (t+1)) v=e'
  generalize (s.drop (t+1)).length=n
  have hhalf : (2.0 : K)=2 := by norm_num
  have hdays : ((t+1 : ℕ) : K)≠0 := Nat.cast_ne_zero.mpr (by omega)
  have hmore : ((t+1+n : ℕ) : K)≠0 := Nat.cast_ne_zero.mpr (by omega)
  rw [div_eq_div_iff hmore hdays,hhalf]
  constructor
  · intro h
    have hcast : (((t+1)*(2*b'+e') : ℕ) : K)=((n*(2*b+e+1) : ℕ) : K) := by
      push_cast at h ⊢
      linear_combination 2*h
    exact Nat.cast_injective hcast
  · intro h
    have hcast : (((t+1)*(2*b'+e') : ℕ) : K)=((n*(2*b+e+1) : ℕ) : K) := congrArg _ h
    push_cast at hcast ⊢
    linear_combination (1/2 : K)*hcast

/-- `vol_pct` of a day is that of the days up to it if the later days are balanced. -/
theorem volPct_same (sqrt : K→K) (o : Ohlcv K) {t : ℕ}
    (h : ∀ v,(vol20d sqrt o)[t]?=some v→Balanced (vol20d sqrt o) t v) :
    (volPct sqrt o)[t]?=(volPct sqrt (o.upTo t))[t]? := by
  have hrow := (vol20d_causal sqrt).row o (le_refl t)
  have hupTo : vol20d sqrt (o.upTo t)=(vol20d sqrt o).take (t+1) :=
    (vol20d_causal sqrt o.columns (t+1) o.rows).symm
  unfold volPct
  rw [List.getElem?_map,List.getElem?_map,← hrow]
  cases hv : (vol20d sqrt o)[t]? with
  | none => rfl
  | some v =>
    have hmem : v∈vol20d sqrt o := List.mem_of_getElem? hv
    have hpresent : Value.missing∉vol20d sqrt o := by
      intro hmissing
      obtain ⟨x,hx⟩ := vol20d_number sqrt o hmissing
      cases hx
    have hne : v≠.missing := fun heq => hpresent (heq ▸ hmem)
    have hsame := (rankOf_same_iff hpresent (List.getElem?_eq_some_iff.mp hv).1 hne).mpr (h v hv)
    rw [Option.map_some,Option.map_some,hsame,hupTo]

end Ranks

end Columns

section Assets

variable {K : Type*} [Field K] [LinearOrder K] [FloorRing K]

/-- The features of a day of an asset do not depend on later days. -/
structure UnforeseenAsset (sqrt : K→K) (lookbackWindow : ℕ) (o : Ohlcv K) (t : ℕ) : Prop where
  /-- The later days lie around the day's volatility like the days up to it. -/
  ranked : ∀ v,(vol20d sqrt o)[t]?=some v→Balanced (vol20d sqrt o) t v
  /-- On the fourteenth day the first true range is the same with the last close and with the
  close of the day. -/
  wrapped : t=13→(tr (lastClose o) o)[0]?=(tr (lastClose (o.upTo t)) o)[0]?
  /-- The day is one of the first window, or its windows do not depend on later days. -/
  windows : t<lookbackWindow ∨ Steady o t

variable [IsStrictOrderedRing K]

/-- Every feature of such a day is that of the days up to it. -/
theorem featureColumns_same (sqrt : K→K) (single : Value K→Value K) (lookbackWindow : ℕ)
    {o : Ohlcv K} {t : ℕ} (ht : t<o.rows.length) (h : UnforeseenAsset sqrt lookbackWindow o t) :
    List.Forall₂ (fun column column' : Series K => column[t]?=column'[t]?)
      (featureColumns sqrt single lookbackWindow o)
      (featureColumns sqrt single lookbackWindow (o.upTo t)) := by
  have hsingle : ∀ column column' : Series K,column[t]?=column'[t]?→
      (column.map single)[t]?=(column'.map single)[t]? := by
    intro column column' hcolumn
    rw [List.getElem?_map,List.getElem?_map,hcolumn]
  have hmean := (meanReversion_causal sqrt).row o (le_refl t)
  have hrisk := (riskParity_causal sqrt).row o (le_refl t)
  unfold featureColumns
  refine .cons (hsingle _ _ (returns5d_causal.row o (le_refl t))) ?_
  refine .cons (hsingle _ _ ((vol20d_causal sqrt).row o (le_refl t))) ?_
  refine .cons (hsingle _ _ (adxProxy_same h.wrapped)) ?_
  refine .cons (hsingle _ _ (volPct_same sqrt o h.ranked)) ?_
  refine .cons (hsingle _ _ (momentum_causal.row o (le_refl t))) ?_
  refine .cons (hsingle _ _ (finished_same lookbackWindow hmean)) ?_
  refine .cons (hsingle _ _ (finished_trend_row lookbackWindow o ht h.windows)) ?_
  exact .cons (hsingle _ _ (finished_same lookbackWindow hrisk)) .nil

end Assets

section Observations

variable {F : Type*} [Add F] [Sub F] [Mul F] [Div F]

/-- The observation after some actions: that of `reset` without one, else that of the last
step. -/
def observationAfter (ar : Arithmetic F) (single : F→F) (env : MultiAssetTradingEnv F) :
    Portfolio F→List (List F)→Option (List F)
  | s,[] => env.getObservation ar single s
  | s,action::rest =>
    match env.step ar single s action with
    | none => none
    | some (s',_) => observationAfter ar single env s' rest

/-- It is the observation that the last step returns. -/
theorem observationAfter_last (ar : Arithmetic F) (single : F→F) (env : MultiAssetTradingEnv F)
    {s : Portfolio F} {actions : List (List F)} {outs : List (Portfolio F×Outcome F)}
    (houts : outcomes (env.step ar single) s actions=some outs) {out : Portfolio F×Outcome F}
    (hlast : outs.getLast?=some out) :
    observationAfter ar single env s actions=some out.2.observation := by
  induction actions generalizing s outs with
  | nil =>
    cases houts
    cases hlast
  | cons action rest ih =>
    unfold outcomes at houts
    cases hstep : env.step ar single s action with
    | none =>
      rw [hstep] at houts
      cases houts
    | some next =>
      rw [hstep] at houts
      obtain ⟨more,hmore,rfl⟩ := Option.map_eq_some_iff.mp houts
      unfold observationAfter
      rw [hstep]
      dsimp only
      cases more with
      | nil =>
        cases hlast
        cases rest with
        | nil => exact MultiAssetTradingEnv.step_observation hstep
        | cons action later =>
          unfold outcomes at hmore
          split at hmore
          · cases hmore
          · obtain ⟨_,_,hcons⟩ := Option.map_eq_some_iff.mp hmore
            cases hcons
      | cons first later =>
        rw [List.getLast?_cons_cons] at hlast
        exact ih hmore hlast

/-- Two environments with the same prices up to a day and the same features on it. -/
structure SameUpTo (env env' : MultiAssetTradingEnv F) (t : ℕ) : Prop where
  /-- `config`. -/
  config : env'.config=env.config
  /-- `max_assets`. -/
  maxAssets : env'.maxAssets=env.maxAssets
  /-- `n_assets`. -/
  count : env'.assets.length=env.assets.length
  /-- The day is one of the first environment. -/
  day : t<env.nDays
  /-- It is one of the second one. -/
  day' : t<env'.nDays
  /-- `close_matrix` up to the day. -/
  prices : ∀ i≤t,env'.assets.mapM (fun asset : Asset F => asset.close[i]?)=
    env.assets.mapM (fun asset : Asset F => asset.close[i]?)
  /-- `features_matrix` on the day. -/
  rows : env'.assets.mapM (fun asset : Asset F => asset.row t)=
    env.assets.mapM (fun asset : Asset F => asset.row t)

/-- After the same actions, which lead to the day, their observations are the same. -/
theorem SameUpTo.observationAfter_eq {env env' : MultiAssetTradingEnv F} {t : ℕ}
    (h : SameUpTo env env' t) (ar : Arithmetic F) (single : F→F) {s : Portfolio F}
    {actions : List (List F)} (hday : s.currentStep+actions.length=t) :
    observationAfter ar single env s actions=observationAfter ar single env' s actions := by
  induction actions generalizing s with
  | nil =>
    have hstep : s.currentStep=t := hday
    unfold observationAfter MultiAssetTradingEnv.getObservation
    rw [hstep,h.rows,h.maxAssets,h.count,h.config]
  | cons action rest ih =>
    rw [List.length_cons] at hday
    unfold observationAfter
    rcases lt_or_ge action.length env.assets.length with hshort | hlong
    · rw [env.step_short ar single s hshort,env'.step_short ar single s (h.count.symm ▸ hshort)]
    · have hnow : s.currentStep≤t := by omega
      have hthen : s.currentStep+1≤t := by omega
      obtain ⟨prices,hprices⟩ := env.prices_total (hnow.trans_lt h.day)
      obtain ⟨next,hnext⟩ := env.prices_total (hthen.trans_lt h.day)
      obtain ⟨outcome,hstep,_⟩ := env.step_some ar single hlong hprices hnext
        (hthen.trans_lt h.day)
      obtain ⟨outcome',hstep',_⟩ := env'.step_some ar single (h.count.symm ▸ hlong)
        ((h.prices _ hnow).trans hprices) ((h.prices _ hthen).trans hnext) (hthen.trans_lt h.day')
      rw [h.count,h.config] at hstep'
      rw [hstep,hstep']
      exact ih (show s.currentStep+1+rest.length=t by omega)

end Observations

section Truncation

variable {D K : Type*} [LinearOrder D]

/-- The history up to a date. -/
def History.through (h : History D K) (cutoff : D) : History D K :=
  ⟨h.columns,h.rows.filter fun date _ => decide (date≤ cutoff)⟩

/-- The histories up to a date. -/
def truncated (histories : Dict String (History D K)) (cutoff : D) : Dict String (History D K) :=
  histories.mapItems fun _ h => History.through h cutoff

/-- Dates up to a date. -/
theorem through_dates (h : History D K) (cutoff : D) :
    (History.through h cutoff).dates=h.dates.filter fun date => decide (date≤ cutoff) := by
  unfold History.dates History.through Dict.filter
  rw [List.filter_map]
  rfl

/-- Common dates are sorted, none of them twice. -/
theorem commonDates_sorted (first : History D K) (rest : List (History D K)) :
    (commonDates first rest).Pairwise (· < ·) := by
  have hle : (commonDates first rest).Pairwise (· ≤ ·) := List.pairwise_insertionSort _ _
  have hnodup : (commonDates first rest).Nodup :=
    (List.perm_insertionSort _ _).nodup_iff.mpr (first.rows.nodup.filter _)
  exact hle.imp₂ (fun _ _ hab hne => lt_of_le_of_ne hab hne) hnodup

/-- Of sorted dates those up to one are the first ones. -/
theorem filter_le_of_sorted {dates : List D} (hsorted : dates.Pairwise (· < ·)) {t : ℕ} {cutoff : D}
    (ht : dates[t]?=some cutoff) :
    dates.filter (fun date => decide (date≤ cutoff))=dates.take (t+1) := by
  induction dates generalizing t with
  | nil => cases ht
  | cons date rest ih =>
    obtain ⟨hfirst,hrest⟩ := List.pairwise_cons.mp hsorted
    cases t with
    | zero =>
      cases ht
      have hlater : rest.filter (fun later => decide (later≤ cutoff))=[] :=
        List.filter_eq_nil_iff.mpr fun later hlater => by
          rw [decide_eq_true_eq,not_le]
          exact hfirst later hlater
      have hnow : decide (cutoff≤ cutoff)=true := decide_eq_true le_rfl
      rw [List.filter_cons,if_pos hnow,hlater]
      rfl
    | succ t =>
      have hbefore : decide (date≤ cutoff)=true :=
        decide_eq_true (hfirst cutoff (List.mem_of_getElem? ht)).le
      rw [List.filter_cons,if_pos hbefore,ih hrest ht]
      rfl

/-- Common dates of the histories up to a date are the common dates up to it. -/
theorem commonDates_through (first : History D K) (rest : List (History D K)) (cutoff : D) :
    commonDates (History.through first cutoff) (rest.map fun h => History.through h cutoff)=
      (commonDates first rest).filter fun date => decide (date≤ cutoff) := by
  refine List.Perm.eq_of_pairwise' (r := (· < ·)) (commonDates_sorted _ _)
    ((commonDates_sorted first rest).filter _) ?_
  refine (List.perm_ext_iff_of_nodup (commonDates_sorted _ _).nodup
    ((commonDates_sorted first rest).nodup.filter _)).mpr fun date => ?_
  rw [mem_commonDates,List.mem_filter,mem_commonDates,through_dates,List.mem_filter]
  constructor
  · rintro ⟨⟨hfirst,hbefore⟩,hrest⟩
    refine ⟨⟨hfirst,fun h hh => ?_⟩,hbefore⟩
    have hmem := hrest _ (List.mem_map_of_mem hh)
    rw [through_dates,List.mem_filter] at hmem
    exact hmem.1
  · rintro ⟨⟨hfirst,hrest⟩,hbefore⟩
    refine ⟨⟨hfirst,hbefore⟩,fun h hh => ?_⟩
    obtain ⟨h',hh',rfl⟩ := List.mem_map.mp hh
    rw [through_dates,List.mem_filter]
    exact ⟨hrest h' hh',hbefore⟩

/-- `loc` of dates up to one finds the same rows in the history up to it. -/
theorem loc_through (h : History D K) {cutoff : D} {dates : List D}
    (hdates : ∀ date∈dates,date≤ cutoff) : (History.through h cutoff).loc dates=h.loc dates := by
  have hrows : ∀ date∈dates,(History.through h cutoff).rows.get? date=h.rows.get? date := by
    intro date hdate
    have hrow := h.rows.get?_filter (fun date _ => decide (date≤ cutoff)) date
    refine hrow.trans ?_
    rw [decide_eq_true (hdates date hdate)]
    cases h.rows.get? date <;> rfl
  unfold History.loc
  rw [List.filterMap_congr hrows]
  rfl

/-- `loc` of the first dates has the first rows. -/
theorem loc_take {h : History D K} {dates : List D} (hdates : ∀ date∈dates,date∈h.dates) (t : ℕ) :
    h.loc (dates.take (t+1))=(h.loc dates).upTo t := by
  have hfirst : ∀ n,(dates.take n).filterMap h.rows.get?=(dates.filterMap h.rows.get?).take n := by
    induction dates with
    | nil => intro n; simp
    | cons date rest ih =>
      intro n
      obtain ⟨bar,hbar⟩ := h.get?_total (hdates date List.mem_cons_self)
      cases n with
      | zero => rfl
      | succ n =>
        rw [List.take_succ_cons,List.filterMap_cons_some hbar,List.filterMap_cons_some hbar,
          List.take_succ_cons,ih fun other hother => hdates other (List.mem_cons_of_mem _ hother)]
  unfold History.loc Ohlcv.upTo
  rw [hfirst]

/-- Of histories up to a date with the same chosen tickers the same ones are chosen. -/
theorem chosen_truncated {maxAssets : ℕ} {histories : Dict String (History D K)} {cutoff : D}
    (h : (chosen maxAssets (truncated histories cutoff)).map Prod.fst=
      (chosen maxAssets histories).map Prod.fst) :
    chosen maxAssets (truncated histories cutoff)=
      (chosen maxAssets histories).map fun e => (e.1,History.through e.2 cutoff) := by
  have hmem : ∀ {d : Dict String (History D K)} {e : String×History D K},
      e∈chosen maxAssets d→e∈d.items := fun he =>
    (List.mem_insertionSort _).mp (List.mem_of_mem_take he)
  refine (truncated histories cutoff).eq_of_keys (fun e he => hmem he) ?_ ?_
  · intro e he
    obtain ⟨e',he',rfl⟩ := List.mem_map.mp he
    exact List.mem_map_of_mem (hmem he')
  · rw [h,List.map_map]
    rfl

/-- The days of truncated histories with the same chosen tickers are the first days. -/
theorem tradingDays_truncated {maxAssets : ℕ} {histories : Dict String (History D K)} {cutoff : D}
    {t : ℕ} (hcutoff : (tradingDays maxAssets histories)[t]?=some cutoff)
    (h : (chosen maxAssets (truncated histories cutoff)).map Prod.fst=
      (chosen maxAssets histories).map Prod.fst) :
    tradingDays maxAssets (truncated histories cutoff)=
      (tradingDays maxAssets histories).take (t+1) := by
  have hchosen := chosen_truncated h
  unfold tradingDays at hcutoff ⊢
  rw [hchosen]
  cases hfirst : chosen maxAssets histories with
  | nil => rfl
  | cons first rest =>
    rw [hfirst] at hcutoff
    have hrest : (rest.map fun e => (e.1,History.through e.2 cutoff)).map Prod.snd=
        (rest.map Prod.snd).map fun h => History.through h cutoff := by
      rw [List.map_map,List.map_map]
      rfl
    rw [List.map_cons]
    dsimp only at hcutoff ⊢
    rw [hrest,commonDates_through]
    exact filter_le_of_sorted (commonDates_sorted _ _) hcutoff

/-- The days are sorted, none of them twice. -/
theorem tradingDays_sorted (maxAssets : ℕ) (histories : Dict String (History D K)) :
    (tradingDays maxAssets histories).Pairwise (· < ·) := by
  unfold tradingDays
  split
  · exact .nil
  · exact commonDates_sorted _ _

/-- `loc` of the first days in a truncated history has the first rows. -/
theorem loc_truncated {maxAssets : ℕ} {histories : Dict String (History D K)} {cutoff : D}
    {t : ℕ} (hcutoff : (tradingDays maxAssets histories)[t]?=some cutoff)
    {e : String×History D K} (he : e∈chosen maxAssets histories) :
    (History.through e.2 cutoff).loc ((tradingDays maxAssets histories).take (t+1))=
      (e.2.loc (tradingDays maxAssets histories)).upTo t := by
  have hsorted := tradingDays_sorted maxAssets histories
  rw [loc_through,loc_take fun date hdate => tradingDays_dates he hdate]
  intro date hdate
  rw [← filter_le_of_sorted hsorted hcutoff,List.mem_filter,decide_eq_true_eq] at hdate
  exact hdate.2

variable [Field K] [LinearOrder K] [FloorRing K] [IsStrictOrderedRing K]

/-- No later day shows in an observation of a day: the same tickers are chosen when the histories
end on it, and the features of each of them do not depend on later days. -/
structure Unforeseen (sqrt : K→K) (lookbackWindow maxAssets : ℕ)
    (histories : Dict String (History D K)) (t : ℕ) (cutoff : D) : Prop where
  /-- The longest histories are the same, in the same order. -/
  tickers : (chosen maxAssets (truncated histories cutoff)).map Prod.fst=
    (chosen maxAssets histories).map Prod.fst
  /-- The features of each of them. -/
  assets : ∀ e∈chosen maxAssets histories,
    UnforeseenAsset sqrt lookbackWindow (e.2.loc (tradingDays maxAssets histories)) t

/-- If no later day shows in it, the environment of the histories that end on a day has the same
prices up to the day and the same features on it. -/
theorem prepared_sameUpTo (sqrt : K→K) (single : Value K→Value K) (config : RLConfig (Value K))
    {maxAssets : ℕ} {histories : Dict String (History D K)} {t : ℕ} {cutoff : D}
    (hcutoff : (tradingDays maxAssets histories)[t]?=some cutoff)
    (h : Unforeseen sqrt config.lookbackWindow maxAssets histories t cutoff) :
    SameUpTo (prepared sqrt single config maxAssets histories)
      (prepared sqrt single config maxAssets (truncated histories cutoff)) t := by
  have hchosen := chosen_truncated h.tickers
  have hdays := tradingDays_truncated hcutoff h.tickers
  have hday : t<(tradingDays maxAssets histories).length :=
    (List.getElem?_eq_some_iff.mp hcutoff).1
  have hassets : (prepared sqrt single config maxAssets (truncated histories cutoff)).assets=
      (chosen maxAssets histories).map fun e => assetOf sqrt single config.lookbackWindow
        ((e.2.loc (tradingDays maxAssets histories)).upTo t) := by
    unfold prepared
    dsimp only
    rw [hchosen,hdays,List.map_map]
    exact List.map_congr_left fun e he => congrArg _ (loc_truncated hcutoff he)
  refine {
    config := rfl
    maxAssets := rfl
    count := ?_
    day := hday
    day' := ?_
    prices := fun i hi => ?_
    rows := ?_ }
  · rw [hassets]
    unfold prepared
    rw [List.length_map,List.length_map]
  · unfold prepared
    dsimp only
    rw [hdays,List.length_take]
    omega
  · rw [hassets]
    refine mapM_same ?_
    unfold prepared
    rw [List.forall₂_map_left_iff,List.forall₂_map_right_iff,List.forall₂_same]
    intro e he
    exact (close_causal.row (e.2.loc (tradingDays maxAssets histories)) hi).symm
  · rw [hassets]
    refine mapM_same ?_
    unfold prepared
    rw [List.forall₂_map_left_iff,List.forall₂_map_right_iff,List.forall₂_same]
    intro e he
    have hrows : (e.2.loc (tradingDays maxAssets histories)).rows.length=
        (tradingDays maxAssets histories).length :=
      loc_length fun date hdate => tradingDays_dates he hdate
    have hfeatures := featureColumns_same sqrt single config.lookbackWindow
      (hrows.symm ▸ hday) (h.assets e he)
    exact (mapM_same hfeatures).symm

/-- For all histories, every config, every start and all actions: if no later day shows in it, the
observation after the actions is the one of the histories that end on its day. -/
theorem observation_unforeseen (sqrt : K→K) (single : Value K→Value K)
    {config : RLConfig (Value K)} {maxAssets : ℕ} {histories : Dict String (History D K)}
    {env : MultiAssetTradingEnv (Value K)}
    (henv : prepare sqrt single config maxAssets histories=some env) {start : ℕ}
    {actions : List (Series K)} {cutoff : D}
    (hcutoff : (tradingDays maxAssets histories)[start+actions.length]?=some cutoff)
    (h : Unforeseen sqrt config.lookbackWindow maxAssets histories (start+actions.length) cutoff) :
    ∃ env',prepare sqrt single config maxAssets (truncated histories cutoff)=some env' ∧
      observationAfter floats single env (env.reset floats start) actions=
        observationAfter floats single env' (env'.reset floats start) actions := by
  have hsame := prepared_sameUpTo sqrt single config hcutoff h
  unfold prepare at henv ⊢
  split at henv
  · cases henv
  · rename_i hne
    have hne' : chosen maxAssets (truncated histories cutoff)≠[] := by
      rw [chosen_truncated h.tickers,ne_eq,List.map_eq_nil_iff]
      exact hne
    cases henv
    rw [if_neg hne']
    refine ⟨_,rfl,?_⟩
    have hreset : (prepared sqrt single config maxAssets
        (truncated histories cutoff)).reset floats start=
          (prepared sqrt single config maxAssets histories).reset floats start := by
      unfold MultiAssetTradingEnv.reset
      rw [hsame.count,hsame.config]
    rw [hreset]
    exact hsame.observationAfter_eq floats single rfl

end Truncation

/-- A history of closes, a day after the other. -/
def closes (prices : List ℚ) : History ℕ ℚ where
  columns := ⟨false,false,false⟩
  rows := ⟨prices.zipIdx.map fun e => (e.2,⟨.missing,.missing,.number e.1,.missing⟩),by
    have hkeys : (prices.zipIdx.map fun e =>
        (e.2,(⟨.missing,.missing,.number e.1,.missing⟩ : Bar ℚ))).map Prod.fst=
          prices.zipIdx.map Prod.snd := List.map_map
    rw [hkeys,List.zipIdx_map_snd]
    exact List.nodup_range'⟩

/-- One ticker. -/
def oneTicker (prices : List ℚ) : Dict String (History ℕ ℚ) :=
  ⟨[("005930",closes prices)],List.nodup_singleton _⟩

/-- A config with some first window. -/
def shortConfig (lookbackWindow : ℕ) : RLConfig (Value ℚ) :=
  ⟨.number 50000000,.number 0.00015,.number 0.0023,.number 0.001,.number 0.2,lookbackWindow,
    .number 2.0,.number 1⟩

/-- Nineteen days at one price, a jump, and a day that is calmer. -/
def jump : List ℚ := List.replicate 19 100++[110,110.55]

/-- The day of the jump does not see the next one. -/
theorem observation_unforeseen_jump :
    ∃ env',prepare decimalRoot id (shortConfig 18) 10 (truncated (oneTicker jump) 19)=some env' ∧
      observationAfter floats id (prepared decimalRoot id (shortConfig 18) 10 (oneTicker jump))
          ((prepared decimalRoot id (shortConfig 18) 10 (oneTicker jump)).reset floats 18)
          [[.number 0.5]]=
        observationAfter floats id env' (env'.reset floats 18) [[.number 0.5]] := by
  have hranked : ((vol20d decimalRoot
      ((closes jump).loc (tradingDays 10 (oneTicker jump))))[19]?).all (fun v => decide
        (Balanced (vol20d decimalRoot ((closes jump).loc (tradingDays 10 (oneTicker jump)))) 19
          v))=true := by decide +kernel
  have hwindows : ∀ row∈[(Ohlcv.fastPeriod,19),(Ohlcv.midPeriod,19),(Ohlcv.slowPeriod,19),
      (Ohlcv.midPeriod,14)],
      windowAt (row.1 ((closes jump).loc (tradingDays 10 (oneTicker jump)))) row.2=
        windowAt (row.1 (((closes jump).loc (tradingDays 10 (oneTicker jump))).upTo 19)) row.2 := by
    decide +kernel
  have hsteady : Steady ((closes jump).loc (tradingDays 10 (oneTicker jump))) 19 := by
    refine ⟨hwindows (Ohlcv.fastPeriod,19) (by simp),hwindows (Ohlcv.midPeriod,19) (by simp),
      hwindows (Ohlcv.slowPeriod,19) (by simp),fun r hr => ?_⟩
    have hrow : r=14 := by omega
    rw [hrow]
    exact hwindows (Ohlcv.midPeriod,14) (by simp)
  refine observation_unforeseen decimalRoot id rfl (by decide +kernel) ⟨rfl,?_⟩
  intro e he
  have hticker : e=("005930",closes jump) := List.mem_singleton.mp he
  rw [hticker]
  exact ⟨fun v hv => of_decide_eq_true ((Option.all_eq_true _ _).mp hranked v hv),
    fun hday => absurd hday (by decide),.inr hsteady⟩

/-- On three days of one price the second day's observation shows whether there is a third. -/
theorem observation_foresees : ¬∀ (histories : Dict String (History ℕ ℚ))
    (config : RLConfig (Value ℚ)) (maxAssets start : ℕ) (actions : List (Series ℚ))
    (env env' : MultiAssetTradingEnv (Value ℚ)) (cutoff : ℕ),
    prepare decimalRoot id config maxAssets histories=some env→
    (tradingDays maxAssets histories)[start+actions.length]?=some cutoff→
    prepare decimalRoot id config maxAssets (truncated histories cutoff)=some env'→
      observationAfter floats id env (env.reset floats start) actions=
        observationAfter floats id env' (env'.reset floats start) actions := by
  intro hall
  have hsame := hall (oneTicker [100,100,100]) (shortConfig 1) 10 1 []
    (prepared decimalRoot id (shortConfig 1) 10 (oneTicker [100,100,100]))
    (prepared decimalRoot id (shortConfig 1) 10 (truncated (oneTicker [100,100,100]) 1)) 1 rfl
    (by decide +kernel) rfl
  have hrank := congrArg (fun observation => observation.bind fun row => row[3]?) hsame
  exact absurd hrank (by decide +kernel)

end Aqts.RlLookahead
