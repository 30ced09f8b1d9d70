import Mathlib.Data.List.Sort
import Mathlib.Algebra.Order.Ring.Rat
import Aqts.Dictionary
import Aqts.OrderTypes

/-!
# The investment universe

`UniverseManager.build_universe` and `refresh_universe`: active stocks of the table `universe`
without the excluded sectors, a placeholder for each designated ticker that is not among them,
and then the filter of the fifth that is traded least. A designated stock of an excluded sector
is replaced by a placeholder, and one that is traded too little is dropped. What is stored has no
name and no country, which the table requires, so nothing is stored.
-/

namespace Aqts.Universe

open Dictionary OrderTypes

/-- `AssetType`. -/
inductive AssetType
  | stock | etf | bond | etn | reits | cash
  deriving DecidableEq

/-- Text of an asset type, as stored. -/
def AssetType.value : AssetType→String
  | .stock => "STOCK"
  | .etf => "ETF"
  | .bond => "BOND"
  | .etn => "ETN"
  | .reits => "REITS"
  | .cash => "CASH"

/-- A row of `universe`, without its ticker and market; the reason of an exclusion is left out. -/
structure Stock (K T : Type*) where
  /-- `name`. -/
  name : String
  /-- `country`. -/
  country : String
  /-- `sector`. -/
  sector : Option String
  /-- `asset_type`. -/
  assetType : String
  /-- `market_cap`. -/
  marketCap : Option K
  /-- `avg_daily_volume`. -/
  avgDailyVolume : Option K
  /-- `is_active`. -/
  isActive : Bool
  /-- `updated_at`. -/
  updatedAt : T

/-- The table `universe`, whose tickers are unique in each market. -/
abbrev Table (K T : Type*) := Dict (String×String) (Stock K T)

/-- `UniverseItem`. -/
structure UniverseItem (K T : Type*) where
  /-- `ticker`. -/
  ticker : String
  /-- `market`. -/
  market : Market
  /-- `sector`. -/
  sector : Option String
  /-- `asset_type`. -/
  assetType : AssetType
  /-- `market_cap`. -/
  marketCap : Option K
  /-- `avg_daily_volume`. -/
  avgDailyVolume : Option K
  /-- `is_active`. -/
  isActive : Bool
  /-- `updated_at`. -/
  updatedAt : T

/-- `InvestorProfile`, with what the universe depends on. -/
structure InvestorProfile where
  /-- `sector_filter`: the excluded sectors. -/
  sectorFilter : List String
  /-- `designated_tickers`. -/
  designatedTickers : List String

/-- Which statements the database answers. -/
structure Health where
  /-- The query of the active stocks. -/
  query : Bool
  /-- The inserts. -/
  insert : Bool

/-- `Market(...)`; `none` is `ValueError`. -/
def parseMarket (text : String) : Option Market :=
  [Market.krx,.nyse,.nasdaq,.amex].find? fun market => market.value=text

/-- `AssetType(...)`; `none` is `ValueError`. -/
def parseAssetType (text : String) : Option AssetType :=
  [AssetType.stock,.etf,.bond,.etn,.reits,.cash].find? fun assetType => assetType.value=text

section Loading

variable {K T : Type*}

/-- The item of a row, if its market and its type are known. -/
def itemOf (row : (String×String)×Stock K T) : Option (UniverseItem K T) :=
  match parseMarket row.1.2,parseAssetType row.2.assetType with
  | some market,some assetType => some ⟨row.1.1,market,row.2.sector,assetType,row.2.marketCap,
      row.2.avgDailyVolume,row.2.isActive,row.2.updatedAt⟩
  | _,_ => none

variable [LinearOrder K]

/-- `ORDER BY market_cap DESC NULLS LAST`. -/
def capBefore (a b : Option K) : Bool :=
  match a,b with
  | _,none => true
  | none,some _ => false
  | some x,some y => decide (y≤x)

/-- `_load_all_active_stocks`: nothing if the query fails or a row is not understood. -/
def loadAllActiveStocks (table : Table K T) (h : Health) : List (UniverseItem K T) :=
  let rows := (table.items.filter fun row => row.2.isActive).insertionSort fun row row' =>
    capBefore row.2.marketCap row'.2.marketCap
  if h.query=true ∧ rows.all (fun row => (itemOf row).isSome)=true then rows.filterMap itemOf
  else []

end Loading

section Filters

variable {K T : Type*}

/-- `_apply_sector_filter`. -/
def applySectorFilter (items : List (UniverseItem K T)) (sectors : List String) :
    List (UniverseItem K T) :=
  items.filter fun item => decide (item.sector∉sectors.map some)

/-- The placeholder of a designated ticker. -/
def placeholder (now : T) (ticker : String) : UniverseItem K T :=
  ⟨ticker,.krx,some "Unknown",.stock,none,none,true,now⟩

/-- `_apply_designated_tickers`. -/
def applyDesignatedTickers (items : List (UniverseItem K T)) (tickers : List String) (now : T) :
    List (UniverseItem K T) :=
  if tickers.isEmpty=true then items
  else
    let existingTickers := items.map UniverseItem.ticker
    items++(tickers.filter fun ticker => decide (ticker∉existingTickers)).map (placeholder now)

variable [LinearOrder K]

/-- `volume_threshold`: the volume at a fifth of the known ones. -/
def volumeThreshold (items : List (UniverseItem K T)) : Option K :=
  let volumes := items.filterMap UniverseItem.avgDailyVolume
  (volumes.insertionSort (· ≤ ·))[volumes.length/5]?

/-- Whether an item has no known volume or one at the threshold at least. -/
def liquid (threshold : Option K) (item : UniverseItem K T) : Bool :=
  match threshold,item.avgDailyVolume with
  | some t,some v => decide (t≤v)
  | _,_ => true

/-- `_apply_auto_filter`. -/
def applyAutoFilter (items : List (UniverseItem K T)) : List (UniverseItem K T) :=
  (items.filter (liquid (volumeThreshold items))).filter UniverseItem.isActive

/-- Active stocks outside the excluded sectors. -/
def eligible (table : Table K T) (h : Health) (profile : InvestorProfile) :
    List (UniverseItem K T) :=
  let items := loadAllActiveStocks table h
  if profile.sectorFilter.isEmpty=true then items else applySectorFilter items profile.sectorFilter

/-- The filters in their order. -/
def pipeline (table : Table K T) (h : Health) (profile : InvestorProfile) (now : T) :
    List (UniverseItem K T) :=
  applyAutoFilter (applyDesignatedTickers (eligible table h profile) profile.designatedTickers now)

end Filters

section Storing

variable {K T : Type*}

/-- The values of an `INSERT`; `none` is no value. -/
structure NewStock (K T : Type*) where
  /-- `name`. -/
  name : Option String
  /-- `country`. -/
  country : Option String
  /-- `sector`. -/
  sector : Option String
  /-- `asset_type`. -/
  assetType : String
  /-- `market_cap`. -/
  marketCap : Option K
  /-- `avg_daily_volume`. -/
  avgDailyVolume : Option K
  /-- `is_active`. -/
  isActive : Bool
  /-- `updated_at`. -/
  updatedAt : T

/-- `INSERT INTO universe ... ON CONFLICT (ticker, market) DO UPDATE`; `none` is the error of a
name or a country that is missing. -/
def upsert (table : Table K T) (ticker market : String) (new : NewStock K T) : Option (Table K T) :=
  match new.name,new.country with
  | some name,some country =>
    match table.get? (ticker,market) with
    | some before => some (table.set (ticker,market) { before with
        marketCap := new.marketCap
        avgDailyVolume := new.avgDailyVolume
        isActive := new.isActive
        updatedAt := new.updatedAt })
    | none => some (table.set (ticker,market) ⟨name,country,new.sector,new.assetType,new.marketCap,
        new.avgDailyVolume,new.isActive,new.updatedAt⟩)
  | _,_ => none

/-- The row that `_store_universe` inserts for an item. -/
def newStock (item : UniverseItem K T) : NewStock K T where
  name := none
  country := none
  sector := item.sector
  assetType := item.assetType.value
  marketCap := item.marketCap
  avgDailyVolume := item.avgDailyVolume
  isActive := item.isActive
  updatedAt := item.updatedAt

/-- `_store_universe`: all rows, or none of them. -/
def storeUniverse (table : Table K T) (h : Health) (items : List (UniverseItem K T)) : Table K T :=
  let stored := items.foldl (fun stored item =>
    stored.bind fun t => upsert t item.ticker item.market.value (newStock item)) (some table)
  if h.insert=true then stored.getD table else table

variable [LinearOrder K]

/-- `build_universe`. -/
def buildUniverse (table : Table K T) (h : Health) (profile : InvestorProfile) (now : T) :
    List (UniverseItem K T)×Table K T :=
  let items := pipeline table h profile now
  (items,storeUniverse table h items)

/-- `refresh_universe`. -/
def refreshUniverse (table : Table K T) (h : Health) (profile : InvestorProfile) (now : T) :
    List (UniverseItem K T)×Table K T :=
  let items := pipeline table h profile now
  (items,storeUniverse table h items)

end Storing

section Promises

variable {K T : Type*} [LinearOrder K]

/-- What a universe of a table promises. -/
structure Promised (table : Table K T) (h : Health) (profile : InvestorProfile)
    (items : List (UniverseItem K T)) : Prop where
  /-- Every designated ticker is there exactly once. -/
  once : ∀ ticker∈profile.designatedTickers,
    items.countP (fun item => decide (item.ticker=ticker))=1
  /-- Designated tickers of the table have the market, the sector and the type of a row. -/
  known : ∀ item∈items,item.ticker∈profile.designatedTickers→
    (∃ market stock,table.get? (item.ticker,market)=some stock)→
    ∃ stock,table.get? (item.ticker,item.market.value)=some stock ∧ stock.sector=item.sector ∧
      stock.assetType=item.assetType.value
  /-- Others are active, outside the excluded sectors and not below the threshold. -/
  others : ∀ item∈items,item.ticker∉profile.designatedTickers→item.isActive=true ∧
    item.sector∉profile.sectorFilter.map some ∧
    liquid (volumeThreshold (eligible table h profile)) item=true

/-- What the promises ask of the designated tickers: one of the eligible stocks is liquid if there
are any, and otherwise the ticker is designated once and the table knows nothing else than the
placeholder. -/
def Includable (table : Table K T) (h : Health) (profile : InvestorProfile) : Prop :=
  ∀ ticker∈profile.designatedTickers,
    if ticker∈(eligible table h profile).map UniverseItem.ticker then
      (eligible table h profile).countP (fun item => decide (item.ticker=ticker) &&
        liquid (volumeThreshold (eligible table h profile)) item)=1
    else profile.designatedTickers.count ticker=1 ∧
      ((∃ market stock,table.get? (ticker,market)=some stock)→
        ∃ stock,table.get? (ticker,Market.krx.value)=some stock ∧ stock.sector=some "Unknown" ∧
          stock.assetType=AssetType.stock.value)

end Promises

section Rows

variable {K T : Type*}

/-- A text that is understood is that of the market. -/
theorem parseMarket_value {text : String} {market : Market} (h : parseMarket text=some market) :
    market.value=text := by
  unfold parseMarket at h
  simpa using List.find?_some h

/-- A text that is understood is that of the asset type. -/
theorem parseAssetType_value {text : String} {assetType : AssetType}
    (h : parseAssetType text=some assetType) : assetType.value=text := by
  unfold parseAssetType at h
  simpa using List.find?_some h

/-- An item of a row has what the row has. -/
theorem itemOf_row {row : (String×String)×Stock K T} {item : UniverseItem K T}
    (h : itemOf row=some item) : row.1=(item.ticker,item.market.value) ∧
      row.2.sector=item.sector ∧ row.2.assetType=item.assetType.value ∧
      row.2.isActive=item.isActive := by
  unfold itemOf at h
  split at h
  · rename_i market assetType hmarket htype
    cases h
    refine ⟨?_,rfl,(parseAssetType_value htype).symm,rfl⟩
    rw [parseMarket_value hmarket]
  · cases h

variable [LinearOrder K]

/-- Loaded items are active, and the table has them. -/
theorem mem_load {table : Table K T} {h : Health} {item : UniverseItem K T}
    (hitem : item∈loadAllActiveStocks table h) : item.isActive=true ∧
      ∃ stock,table.get? (item.ticker,item.market.value)=some stock ∧ stock.sector=item.sector ∧
        stock.assetType=item.assetType.value := by
  unfold loadAllActiveStocks at hitem
  dsimp only at hitem
  split at hitem
  · obtain ⟨row,hrow,hof⟩ := List.mem_filterMap.mp hitem
    rw [List.mem_insertionSort,List.mem_filter] at hrow
    obtain ⟨hkey,hsector,htype,hactive⟩ := itemOf_row hof
    refine ⟨hactive ▸ hrow.2,row.2,?_,hsector,htype⟩
    rw [← hkey]
    exact table.get?_eq_some.mpr hrow.1
  · cases hitem

/-- Eligible stocks are loaded and not in an excluded sector. -/
theorem mem_eligible {table : Table K T} {h : Health} {profile : InvestorProfile}
    {item : UniverseItem K T} (hitem : item∈eligible table h profile) :
    item∈loadAllActiveStocks table h ∧ item.sector∉profile.sectorFilter.map some := by
  unfold eligible at hitem
  dsimp only at hitem
  split at hitem
  · rename_i hnone
    rw [List.isEmpty_iff.mp hnone]
    exact ⟨hitem,List.not_mem_nil⟩
  · unfold applySectorFilter at hitem
    rw [List.mem_filter,decide_eq_true_eq] at hitem
    exact hitem

end Rows

section Pipeline

variable {K T : Type*} [LinearOrder K]

/-- The placeholders of the designated tickers that are not eligible. -/
def placeholders (table : Table K T) (h : Health) (profile : InvestorProfile) (now : T) :
    List (UniverseItem K T) :=
  (profile.designatedTickers.filter fun ticker =>
    decide (ticker∉(eligible table h profile).map UniverseItem.ticker)).map (placeholder now)

/-- Designated tickers add their placeholders. -/
theorem applyDesignatedTickers_eq (table : Table K T) (h : Health) (profile : InvestorProfile)
    (now : T) :
    applyDesignatedTickers (eligible table h profile) profile.designatedTickers now=
      eligible table h profile++placeholders table h profile now := by
  unfold applyDesignatedTickers placeholders
  split
  · rename_i hnone
    rw [List.isEmpty_iff.mp hnone,List.filter_nil,List.map_nil,List.append_nil]
  · rfl

/-- Placeholders have no volume, and the threshold is that of the eligible stocks. -/
theorem volumeThreshold_append (items : List (UniverseItem K T)) (tickers : List String) (now : T) :
    volumeThreshold (items++tickers.map (placeholder now))=volumeThreshold items := by
  have hnone :
      (tickers.map (placeholder (K := K) now)).filterMap UniverseItem.avgDailyVolume=[] := by
    rw [List.filterMap_eq_nil_iff]
    exact List.forall_mem_map.mpr fun _ _ => rfl
  unfold volumeThreshold
  rw [List.filterMap_append,hnone,List.append_nil]

/-- The universe: the liquid ones of the eligible stocks, and the placeholders. -/
theorem pipeline_eq (table : Table K T) (h : Health) (profile : InvestorProfile) (now : T) :
    pipeline table h profile now=
      (eligible table h profile).filter (liquid (volumeThreshold (eligible table h profile)))++
        placeholders table h profile now := by
  have hliquid : (placeholders table h profile now).filter
      (liquid (volumeThreshold (eligible table h profile)))=placeholders table h profile now := by
    refine List.filter_eq_self.mpr (List.forall_mem_map.mpr fun ticker _ => ?_)
    unfold liquid placeholder
    cases volumeThreshold (eligible table h profile) <;> rfl
  have hactive : ∀ item∈(eligible table h profile).filter
      (liquid (volumeThreshold (eligible table h profile)))++placeholders table h profile now,
      item.isActive=true := by
    intro item hitem
    rcases List.mem_append.mp hitem with hstock | hplaceholder
    · exact (mem_load (mem_eligible (List.mem_of_mem_filter hstock)).1).1
    · obtain ⟨_,_,rfl⟩ := List.mem_map.mp hplaceholder
      rfl
  unfold pipeline applyAutoFilter
  rw [applyDesignatedTickers_eq]
  have hthreshold : volumeThreshold (eligible table h profile++placeholders table h profile now)=
      volumeThreshold (eligible table h profile) := volumeThreshold_append _ _ now
  rw [hthreshold,List.filter_append,hliquid]
  exact List.filter_eq_self.mpr hactive

/-- How often a ticker is in the universe. -/
theorem count_pipeline (table : Table K T) (h : Health) (profile : InvestorProfile) (now : T)
    (ticker : String) :
    (pipeline table h profile now).countP (fun item => decide (item.ticker=ticker))=
      if ticker∈(eligible table h profile).map UniverseItem.ticker then
        (eligible table h profile).countP (fun item => decide (item.ticker=ticker) &&
          liquid (volumeThreshold (eligible table h profile)) item)
      else profile.designatedTickers.count ticker := by
  have hplaceholders : (placeholders table h profile now).countP
      (fun item => decide (item.ticker=ticker))=(profile.designatedTickers.filter fun ticker =>
        decide (ticker∉(eligible table h profile).map UniverseItem.ticker)).count ticker := by
    unfold placeholders
    rw [List.countP_map,List.count_eq_countP]
    refine List.countP_congr fun other _ => ?_
    exact (decide_eq_true_iff.trans beq_iff_eq.symm)
  rw [pipeline_eq,List.countP_append,List.countP_filter,hplaceholders]
  by_cases hmem : ticker∈(eligible table h profile).map UniverseItem.ticker
  · rw [if_pos hmem,List.count_eq_zero.mpr fun hin => ?_,Nat.add_zero]
    exact of_decide_eq_true (List.mem_filter.mp hin).2 hmem
  · have hnone : (eligible table h profile).countP (fun item => decide (item.ticker=ticker) &&
        liquid (volumeThreshold (eligible table h profile)) item)=0 := by
      refine List.countP_eq_zero.mpr fun item hitem hboth => ?_
      rw [Bool.and_eq_true,decide_eq_true_eq] at hboth
      exact hmem (hboth.1 ▸ List.mem_map_of_mem hitem)
    have hcount := List.count_filter (l := profile.designatedTickers) (a := ticker)
      (p := fun ticker => decide (ticker∉(eligible table h profile).map UniverseItem.ticker))
      (decide_eq_true hmem)
    rw [if_neg hmem,hnone,hcount,Nat.zero_add]

/-- The universe keeps its promises exactly if the designated tickers can be included. -/
theorem pipeline_promised_iff (table : Table K T) (h : Health) (profile : InvestorProfile)
    (now : T) : Promised table h profile (pipeline table h profile now) ↔
      Includable table h profile := by
  constructor
  · intro hpromised ticker hticker
    have honce := hpromised.once ticker hticker
    rw [count_pipeline] at honce
    by_cases hmem : ticker∈(eligible table h profile).map UniverseItem.ticker
    · rw [if_pos hmem] at honce ⊢
      exact honce
    · rw [if_neg hmem] at honce ⊢
      refine ⟨honce,fun hknown => ?_⟩
      have hplaceholder : placeholder now ticker∈pipeline table h profile now := by
        rw [pipeline_eq]
        exact List.mem_append_right _ (List.mem_map_of_mem
          (List.mem_filter.mpr ⟨hticker,decide_eq_true hmem⟩))
      exact hpromised.known _ hplaceholder hticker hknown
  · intro hincludable
    refine ⟨fun ticker hticker => ?_,fun item hitem hticker hknown => ?_,
      fun item hitem hother => ?_⟩
    · have hincluded := hincludable ticker hticker
      rw [count_pipeline]
      by_cases hmem : ticker∈(eligible table h profile).map UniverseItem.ticker
      · rw [if_pos hmem] at hincluded ⊢
        exact hincluded
      · rw [if_neg hmem] at hincluded ⊢
        exact hincluded.1
    · rw [pipeline_eq] at hitem
      rcases List.mem_append.mp hitem with hstock | hplaceholder
      · exact (mem_load (mem_eligible (List.mem_of_mem_filter hstock)).1).2
      · obtain ⟨ticker,hin,rfl⟩ := List.mem_map.mp hplaceholder
        have hincluded := hincludable ticker hticker
        rw [if_neg (of_decide_eq_true (List.mem_filter.mp hin).2)] at hincluded
        exact hincluded.2 hknown
    · rw [pipeline_eq] at hitem
      rcases List.mem_append.mp hitem with hstock | hplaceholder
      · obtain ⟨hin,hliquid⟩ := List.mem_filter.mp hstock
        obtain ⟨hloaded,hsector⟩ := mem_eligible hin
        exact ⟨(mem_load hloaded).1,hsector,hliquid⟩
      · obtain ⟨ticker,hin,rfl⟩ := List.mem_map.mp hplaceholder
        exact absurd (List.mem_of_mem_filter hin) hother

/-- Both calls keep their promises exactly if the designated tickers can be included. -/
theorem universe_promised_iff (table : Table K T) (h : Health) (profile : InvestorProfile)
    (now : T) :
    (Promised table h profile (buildUniverse table h profile now).1 ↔
        Includable table h profile) ∧
      (Promised table h profile (refreshUniverse table h profile now).1 ↔
        Includable table h profile) :=
  ⟨pipeline_promised_iff table h profile now,pipeline_promised_iff table h profile now⟩

end Pipeline

section Storing

variable {K T : Type*}

/-- Rows without a name are not inserted. -/
theorem upsert_newStock (table : Table K T) (ticker market : String) (item : UniverseItem K T) :
    upsert table ticker market (newStock item)=none := rfl

/-- The table stays as it is. -/
theorem storeUniverse_eq (table : Table K T) (h : Health) (items : List (UniverseItem K T)) :
    storeUniverse table h items=table := by
  have hnone : ∀ rest : List (UniverseItem K T),rest.foldl (fun stored item =>
      stored.bind fun t => upsert t item.ticker item.market.value (newStock item)) none=none := by
    intro rest
    induction rest with
    | nil => rfl
    | cons item rest ih => exact ih
  unfold storeUniverse
  dsimp only
  split
  · cases items with
    | nil => rfl
    | cons item rest =>
      rw [List.foldl_cons,Option.bind_some,upsert_newStock,hnone,Option.getD_none]
  · rfl

/-- A universe that is built and then refreshed is refreshed from the same stocks. -/
theorem refresh_after_build [LinearOrder K] (table : Table K T) (h h' : Health)
    (profile : InvestorProfile) (now now' : T) :
    refreshUniverse (buildUniverse table h profile now).2 h' profile now'=
      refreshUniverse table h' profile now' := by
  have htable : (buildUniverse table h profile now).2=table := storeUniverse_eq table h _
  rw [htable]

end Storing

section Dropped

/-- An active stock with a volume. -/
def stockOf (sector : String) (volume : ℕ) : Stock ℕ ℕ :=
  ⟨"","",some sector,"STOCK",none,some volume,true,0⟩

/-- A stock of the sector "IT" and five others. -/
def sixStocks : Table ℕ ℕ :=
  ⟨[(("AAPL","NASDAQ"),stockOf "IT" 9),(("000001","KRX"),stockOf "Finance" 1),
    (("000002","KRX"),stockOf "Finance" 2),(("000003","KRX"),stockOf "Finance" 3),
    (("000004","KRX"),stockOf "Finance" 4),(("000005","KRX"),stockOf "Finance" 5)],
    (by decide : [("AAPL","NASDAQ"),("000001","KRX"),("000002","KRX"),("000003","KRX"),
      ("000004","KRX"),("000005","KRX")].Nodup)⟩

/-- A stock of an excluded sector and the one with the least volume, both designated: the first
one is replaced by a placeholder and the second one is dropped. -/
theorem universe_dropped :
    (buildUniverse sixStocks ⟨true,true⟩ ⟨["IT"],["AAPL","000001"]⟩ 0).1.map
        (fun item => (item.ticker,item.market,item.sector))=
      [("000002",.krx,some "Finance"),("000003",.krx,some "Finance"),("000004",.krx,some "Finance"),
        ("000005",.krx,some "Finance"),("AAPL",.krx,some "Unknown")] ∧
    ¬Promised sixStocks ⟨true,true⟩ ⟨["IT"],["AAPL","000001"]⟩
      (buildUniverse sixStocks ⟨true,true⟩ ⟨["IT"],["AAPL","000001"]⟩ 0).1 ∧
    ¬Promised sixStocks ⟨true,true⟩ ⟨["IT"],["AAPL","000001"]⟩
      (refreshUniverse sixStocks ⟨true,true⟩ ⟨["IT"],["AAPL","000001"]⟩ 0).1 := by
  refine ⟨by decide +kernel,fun hpromised => ?_,fun hpromised => ?_⟩
  · exact absurd (hpromised.once "000001" (by decide)) (by decide +kernel)
  · exact absurd (hpromised.once "000001" (by decide)) (by decide +kernel)

end Dropped

end Aqts.Universe
