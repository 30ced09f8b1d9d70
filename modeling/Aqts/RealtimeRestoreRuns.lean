import Aqts.RealtimeRestores

/-!
# Runs of the realtime client

Every step that finds room and loses nothing keeps the account of the subscriptions.
-/

namespace Aqts.RealtimeSubscriptions

open GuardedRuns

variable {I T : Type*} [DecidableEq T]

section Room

variable [Fintype I]

/-- The reserved registrations with those that a call adds, as a finite set. -/
def roomRegs (settings : Settings) (s : Client I T) (c : Call T) : Finset (Reg T) :=
  s.live∪((s.held∪Finset.univ.biUnion fun i => (s.place i).asks)∪c.added).biUnion
    fun x => (x.regs settings).toFinset

/-- The finite set has the reserved and the added registrations. -/
theorem coe_roomRegs (settings : Settings) (s : Client I T) (c : Call T) :
    (roomRegs settings s c : Set (Reg T))=s.reserved settings∪c.asked settings := by
  ext r
  unfold roomRegs
  rw [Finset.mem_coe,Finset.mem_union,Finset.mem_biUnion]
  constructor
  · rintro (hlive | ⟨x,hx,hr⟩)
    · exact Or.inl (Or.inl hlive)
    · have hregs : r∈x.regs settings := List.mem_toFinset.mp hr
      obtain hsome | hadded := Finset.mem_union.mp hx
      · obtain hheld | hasks := Finset.mem_union.mp hsome
        · exact Or.inl (Or.inr ⟨x,Or.inl hheld,hregs⟩)
        · obtain ⟨i,_,hi⟩ := Finset.mem_biUnion.mp hasks
          exact Or.inl (reserved_of_asks hi hregs)
      · exact Or.inr ⟨x,hadded,hregs⟩
  · rintro ((hlive | ⟨x,hheld | ⟨i,hi⟩,hr⟩) | ⟨x,hx,hr⟩)
    · exact Or.inl hlive
    · exact Or.inr ⟨x,Finset.mem_union_left _ (Finset.mem_union_left _ hheld),
        List.mem_toFinset.mpr hr⟩
    · exact Or.inr ⟨x,Finset.mem_union_left _ (Finset.mem_union_right _
        (Finset.mem_biUnion.mpr ⟨i,Finset.mem_univ i,hi⟩)),List.mem_toFinset.mpr hr⟩
    · exact Or.inr ⟨x,Finset.mem_union_right _ hx,List.mem_toFinset.mpr hr⟩

end Room

variable [DecidableEq I] {settings : Settings} {s s' t : Client I T}
variable {i : I} {c : Call T} {k : Cont T} {saved : Finset T} {exec : Bool}

/-- The receive loop notices that the connection is lost. -/
theorem Kept.left (h : Kept settings s) (hlost : s.socket=.lost)
    (hconn : s.connected=true) : Kept settings (s.leave i) := by
  have hself : (s.leave i).place i=.closing s.subscribed s.notice := Function.update_self _ _ _
  have hother : ∀ j,j≠i→(s.leave i).place j=s.place j :=
    fun j hj => Function.update_of_ne hj _ _
  have haway := h.not_away (by rw [hlost]; nofun) (by rw [hlost]; nofun)
  have hnone : ∀ j,¬s.serves (s.place j) := by
    rintro j (hj | ⟨hup,_⟩)
    · exact hj (haway j)
    · exact absurd (hlost.symm.trans hup) nofun
  have hasks : ∀ x,(x∈(s.leave i).held ∨ ∃ j,x∈((s.leave i).place j).asks)→
      x∈s.held ∨ ∃ j,x∈(s.place j).asks := by
    rintro x (hx | ⟨j,hj⟩)
    · exact absurd hx (Finset.notMem_empty x)
    · by_cases hji : j=i
      · subst hji
        rw [hself] at hj
        exact Or.inl hj
      · rw [hother j hji] at hj
        exact Or.inr ⟨j,hj⟩
  have hwants : ∀ x∈s.wants,x∈((s.leave i).place i).toRestore ∧
      (s.leave i).serves ((s.leave i).place i) := by
    intro x hx
    rw [hself]
    exact ⟨h.noted hnone hx,Or.inl nofun⟩
  have hids : ∀ j,Item.notice∈((s.leave i).place j).asks→settings.htsId=true := by
    intro j hj
    obtain hheld | ⟨l,hl⟩ := hasks _ (Or.inr ⟨j,hj⟩)
    · exact h.htsId hheld
    · exact h.htsIds l hl
  have hsocket : ∀ j socket,((s.leave i).place j).away=some socket→
      (s.leave i).socket=socket ∧ (s.leave i).connected=true := by
    intro j socket hj
    by_cases hji : j=i
    · subst hji
      rw [hself] at hj
      exact ⟨Option.some.inj hj,hconn⟩
    · rw [hother j hji,haway j] at hj
      cases hj
  have hone : ∀ j,((s.leave i).place j).away≠none→j=i := by
    intro j hj
    by_contra hji
    rw [hother j hji] at hj
    exact hj (haway j)
  exact ⟨h.room_of_fewer (fun r hr => reserved_of_live hr) hasks,Finset.empty_subset _,
    fun x hx => Or.inr ⟨i,hwants x hx⟩,fun hnotice => absurd hnotice (Finset.notMem_empty _),
    hids,hsocket,fun j l hj hl => (hone j hj).trans (hone l hl).symm⟩

/-- The task between two connections goes on. -/
theorem Kept.replaced (h : Kept settings s) {p : Place T} (haway : (s.place i).away≠none)
    (hplace : t.place=(s.move i p).place) (hheld : t.held=s.held) (hwants : t.wants=s.wants)
    (hlive : t.live⊆ s.live) (hasks : p.asks⊆(s.place i).asks)
    (hleft : ∀ x∈(s.place i).toRestore,x∈s.held ∨ x∈p.toRestore ∧ t.serves p)
    (hsocket : ∀ socket,p.away=some socket→t.socket=socket ∧ t.connected=true) :
    Kept settings t := by
  have hself : t.place i=p := by
    rw [hplace]
    exact move_place_self p
  have hother : ∀ j,j≠i→t.place j=s.place j := by
    intro j hj
    rw [hplace]
    exact move_place_of_ne p hj
  have hrest : ∀ j,j≠i→(s.place j).away=none := by
    intro j hj
    by_contra hnot
    exact hj (h.alone j i hnot haway)
  have hdown : s.socket≠.up := by
    intro hup
    exact haway (h.not_away (by rw [hup]; nofun) (by rw [hup]; nofun) i)
  have hasked : ∀ j,(t.place j).asks⊆(s.place j).asks := by
    intro j
    by_cases hj : j=i
    · subst hj
      rw [hself]
      exact hasks
    · rw [hother j hj]
  have hroom : (t.reserved settings).encard≤ maxSubscriptions := by
    refine h.room_of_fewer (fun r hr => reserved_of_live (hlive hr)) ?_
    rintro x (hx | ⟨j,hj⟩)
    · exact Or.inl (hheld▸hx)
    · exact Or.inr ⟨j,hasked j hj⟩
  have hleaves : ∀ x∈s.wants,x∈s.held ∨ x∈p.toRestore ∧ t.serves p := by
    intro x hx
    obtain hin | ⟨j,hj,hserves⟩ := h.wants x hx
    · exact Or.inl hin
    -- without a connection only the task between the two connections serves
    · have hji : j=i := by
        by_contra hji
        obtain hj' | ⟨hup,_⟩ := hserves
        · exact hj' (hrest j hji)
        · exact hdown hup
      subst hji
      exact hleft x hj
  have haways : ∀ j socket,(t.place j).away=some socket→t.socket=socket ∧ t.connected=true := by
    intro j socket hj
    by_cases hji : j=i
    · subst hji
      rw [hself] at hj
      exact hsocket socket hj
    · rw [hother j hji,hrest j hji] at hj
      cases hj
  have hone : ∀ j,(t.place j).away≠none→j=i := by
    intro j hj
    by_contra hji
    rw [hother j hji] at hj
    exact hj (hrest j hji)
  refine ⟨hroom,?_,?_,?_,fun j hj => h.htsIds j (hasked j hj),haways,
    fun j l hj hl => (hone j hj).trans (hone l hl).symm⟩
  · rw [hheld,hwants]
    exact h.held
  · intro x hx
    rw [hwants] at hx
    rw [hheld]
    refine (hleaves x hx).imp_right fun hp => ⟨i,?_⟩
    rw [hself]
    exact hp
  · rw [hheld]
    exact h.htsId

/-- The lost connection is closed. -/
theorem Kept.closed (h : Kept settings s) (hplace : s.place i=.closing saved exec) :
    Kept settings {s.move i (.waiting saved exec) with socket := .absent} := by
  have haway : (s.place i).away=some .closing := by
    rw [hplace]
    rfl
  refine h.replaced (i := i) (p := .waiting saved exec) ?_ rfl rfl rfl
    (Finset.Subset.refl _) ?_ ?_ ?_
  · rw [haway]
    nofun
  · rw [hplace]
    exact Finset.Subset.refl _
  · intro x hx
    rw [hplace] at hx
    exact Or.inr ⟨hx,Or.inl nofun⟩
  · exact fun socket hsocket => ⟨Option.some.inj hsocket,(h.away i .closing haway).2⟩

/-- A new connection fails with nothing left to restore that is not noted. -/
theorem Kept.failed (h : Kept settings s) (hplace : s.place i=.waiting saved exec)
    (hsafe : (s.place i).toRestore⊆ s.held) :
    Kept settings {s.move i (.idle none) with connected := false} := by
  refine h.replaced (i := i) (p := .idle none) ?_ rfl rfl rfl (Finset.Subset.refl _)
    (Finset.empty_subset _) (fun x hx => Or.inl (hsafe hx)) nofun
  rw [hplace]
  nofun

/-- A new connection is made and what was noted before the loss is restored. -/
theorem Kept.reconnected (h : Kept settings s) {order : List T}
    (hplace : s.place i=.waiting saved exec) (horder : order.toFinset=saved) :
    Kept settings (s.open.move i (s.open.proceed settings (.restore order exec))) := by
  have hitems : items order.toFinset exec=(s.place i).toRestore := by
    rw [hplace,horder]
    rfl
  have hopen : Kept settings (s.open.move i (.resting (.restore order exec))) := by
    refine h.replaced (i := i) (p := .resting (.restore order exec)) ?_ rfl rfl rfl
      (Finset.empty_subset _) ?_ ?_ nofun
    · rw [hplace]
      nofun
    · exact hitems.subset.trans (toRestore_subset _)
    · intro x hx
      rw [←hitems] at hx
      exact Or.inr ⟨hx,Or.inr ⟨rfl,rfl⟩⟩
  have hself := move_place_self (s := s.open) (i := i) (.resting (.restore order exec))
  have hgoes := hopen.proceed (i := i) (k := .restore order exec) (by rw [hself]; rfl)
    (by rw [hself]; exact Finset.Subset.refl _) (by rw [hself]; exact Finset.Subset.refl _)
    nofun
  have hsame : (s.open.move i (.resting (.restore order exec))).move i
      ((s.open.move i (.resting (.restore order exec))).proceed settings (.restore order exec))=
      s.open.move i (s.open.proceed settings (.restore order exec)) := by
    unfold Client.move
    dsimp only
    rw [Function.update_idem]
    rfl
  rw [hsame] at hgoes
  exact hgoes

/-- What is left after a call is asked for. -/
theorem left_subset_asks (c : Call T) (sends : ℕ) (k : Cont T) :
    k.left⊆(Place.calling c sends k).asks := Finset.subset_union_right

/-- A call sends its next message. -/
theorem Kept.sent (h : Kept settings s) {sends : ℕ} {r : Reg T}
    (hplace : s.place i=.calling c sends k) (hr : r∈c.regs settings) :
    Kept settings ((s.register c r).move i (.calling c (sends+1) k)) := by
  have hregister : Kept settings (s.register c r) := by
    refine h.register fun hc => ?_
    obtain ⟨x,hx,hrx⟩ := regs_of_added hc hr
    refine reserved_of_asks (i := i) ?_ hrx
    rw [hplace]
    exact Finset.mem_union_left _ hx
  have hbefore : (s.register c r).place i=.calling c sends k := hplace
  refine hregister.less ?_ rfl ?_ ?_
  · rw [hbefore]
    rfl
  · rw [hbefore]
    exact Finset.Subset.refl _
  · intro _ _ x hx
    rw [hbefore] at hx
    exact Or.inr hx

/-- A message cannot be sent, or its send raises. -/
theorem Kept.refused (h : Kept settings s) {sends : ℕ} (hplace : s.place i=.calling c sends k)
    (hdown : s.socket≠.up) : Kept settings (s.move i (k.answer false)) := by
  refine h.less ?_ (away_answer k false) ?_ fun hup => absurd hup hdown
  · rw [hplace]
    rfl
  · rw [hplace,asks_answer]
    exact left_subset_asks c sends k

/-- The last send of a call comes back. -/
theorem Kept.finished (h : Kept settings s) {sends : ℕ} (hplace : s.place i=.calling c sends k) :
    Kept settings ((s.conclude c).move i (k.answer true)) := by
  have hconclude : Kept settings (s.conclude c) := by
    refine h.conclude (i := i) fun hc => ?_
    rw [hplace]
    exact Finset.mem_union_left _ (mem_added.mpr ⟨hc,rfl⟩)
  have hbefore : (s.conclude c).place i=.calling c sends k := by
    rw [(conclude_frame s c).1]
    exact hplace
  refine hconclude.less ?_ (away_answer k true) ?_ ?_
  · rw [hbefore]
    rfl
  · rw [hbefore,asks_answer]
    exact left_subset_asks c sends k
  · intro _ _ x hx
    rw [hbefore] at hx
    rw [toRestore_answer]
    unfold Place.toRestore at hx
    dsimp only at hx
    split at hx
    · obtain hadded | hrest := Finset.mem_union.mp hx
      · obtain ⟨hc,rfl⟩ := mem_added.mp hadded
        refine Or.inl ?_
        rw [held_conclude,if_pos hc]
        exact Finset.mem_insert_self _ _
      · exact Or.inr hrest
    · cases hx

/-- Every step that finds room and loses nothing keeps the account. -/
theorem Kept.of_step (h : Kept settings s) {e : Event I T} (ha : RoomAndSafe settings s e)
    (hs : step settings s e=some s') : Kept settings s' := by
  obtain ⟨hroom,hsafe⟩ := ha
  cases e with
  | connect =>
    unfold step at hs
    dsimp only at hs
    obtain ⟨hconn,hsome⟩ := Option.ite_none_right_eq_some.mp hs
    obtain rfl := Option.some.inj hsome
    exact h.opened hconn
  | call i c =>
    unfold step at hs
    dsimp only at hs
    obtain ⟨hidle,hsome⟩ := Option.ite_none_right_eq_some.mp hs
    obtain rfl := Option.some.inj hsome
    obtain ⟨haway,hempty⟩ := away_toRestore_of_isIdle hidle
    refine h.begin haway (Finset.empty_subset _) (hroom c rfl) ?_
    rw [hempty]
    exact fun x hx => absurd hx (Finset.notMem_empty x)
  | batch i tickers =>
    unfold step at hs
    dsimp only at hs
    obtain ⟨hidle,hsome⟩ := Option.ite_none_right_eq_some.mp hs
    obtain rfl := Option.some.inj hsome
    obtain ⟨haway,hempty⟩ := away_toRestore_of_isIdle hidle
    refine h.proceed haway (Finset.empty_subset _) ?_ ?_
    · rw [hempty]
      exact Finset.empty_subset _
    · intro name rest success hk
      cases hk
      exact hroom _ rfl
  | send i =>
    unfold step at hs
    dsimp only at hs
    split at hs
    · rename_i c sends k hplace
      cases hr : (c.regs settings)[sends]? with
      | none =>
        rw [hr] at hs
        cases hs
      | some r =>
        rw [hr] at hs
        dsimp only at hs
        by_cases hup : s.socket=.up
        · rw [if_pos hup] at hs
          obtain rfl := Option.some.inj hs
          exact h.sent hplace (List.mem_of_getElem? hr)
        · rw [if_neg hup] at hs
          obtain rfl := Option.some.inj hs
          exact h.refused hplace hup
    · cases hs
  | finish i =>
    unfold step at hs
    dsimp only at hs
    split at hs
    · rename_i c sends k hplace
      obtain ⟨hall,hsome⟩ := Option.ite_none_right_eq_some.mp hs
      obtain rfl := Option.some.inj hsome
      exact h.finished hplace
    · cases hs
  | raise i =>
    unfold step at hs
    dsimp only at hs
    split at hs
    · rename_i c sends k hplace
      obtain ⟨hraise,hsome⟩ := Option.ite_none_right_eq_some.mp hs
      obtain rfl := Option.some.inj hsome
      exact h.refused hplace hraise.2
    · cases hs
  | wake i =>
    unfold step at hs
    dsimp only at hs
    split at hs
    · rename_i k hplace
      obtain rfl := Option.some.inj hs
      refine h.proceed (by rw [hplace]; rfl) (by rw [hplace]; exact Finset.Subset.refl _)
        (by rw [hplace]; exact Finset.Subset.refl _) ?_
      intro name rest success hk
      refine hroom _ ?_
      unfold Client.begins
      dsimp only
      rw [hplace,hk]
      rfl
    · cases hs
  | lose =>
    unfold step at hs
    dsimp only at hs
    obtain ⟨hup,hsome⟩ := Option.ite_none_right_eq_some.mp hs
    obtain rfl := Option.some.inj hsome
    exact h.lost hup hsafe
  | noticed i =>
    unfold step at hs
    dsimp only at hs
    obtain ⟨hnotice,hsome⟩ := Option.ite_none_right_eq_some.mp hs
    obtain rfl := Option.some.inj hsome
    exact h.left hnotice.2.1 hnotice.2.2
  | closed i =>
    unfold step at hs
    dsimp only at hs
    split at hs
    · rename_i saved exec hplace
      obtain rfl := Option.some.inj hs
      exact h.closed hplace
    · cases hs
  | reconnected i order =>
    unfold step at hs
    dsimp only at hs
    split at hs
    · rename_i saved exec hplace
      obtain ⟨horder,hsome⟩ := Option.ite_none_right_eq_some.mp hs
      obtain rfl := Option.some.inj hsome
      exact h.reconnected hplace horder.2
    · cases hs
  | failed i =>
    unfold step at hs
    dsimp only at hs
    split at hs
    · rename_i saved exec hplace
      obtain rfl := Option.some.inj hs
      exact h.failed hplace hsafe
    · cases hs

/-- Every guarded run keeps the account. -/
theorem kept_of_reaches
    (h : Reaches (step settings) (RoomAndSafe settings) (.init I T) s) : Kept settings s := by
  apply h.invariant (P := Kept settings)
  · refine ⟨?_,Finset.empty_subset _,?_,?_,?_,nofun,?_⟩
    · have hempty : (Client.init I T).reserved settings=∅ := by
        refine Set.eq_empty_of_forall_notMem ?_
        rintro r (hr | ⟨x,hx | ⟨i,hi⟩,_⟩)
        · exact Finset.notMem_empty r hr
        · exact Finset.notMem_empty x hx
        · exact Finset.notMem_empty x hi
      rw [hempty,Set.encard_empty]
      exact zero_le
    · exact fun x hx => absurd hx (Finset.notMem_empty x)
    · exact fun hx => absurd hx (Finset.notMem_empty _)
    · exact fun i hx => absurd hx (Finset.notMem_empty _)
    · exact fun i j hi => absurd rfl hi
  · exact fun s e s' _ hkept hguard hs => hkept.of_step hguard hs

/-- In every run in which the calls that pass their checks find room, and in which a
connection is lost, or a new one fails, only with nothing left to restore that is not
noted, the registrations stay within the limit and every reconnection restores the
subscriptions. -/
theorem promised_of_reaches
    (h : Reaches (step settings) (RoomAndSafe settings) (.init I T) s) : Promised s := by
  have hkept := kept_of_reaches h
  constructor
  · have hlive : (s.live : Set (Reg T))⊆ s.reserved settings :=
      fun r hr => reserved_of_live (Finset.mem_coe.mp hr)
    have hcard := (Set.encard_le_encard hlive).trans hkept.room
    rw [Set.encard_coe_eq_coe_finsetCard,Nat.cast_le] at hcard
    exact hcard
  · intro _ hnone
    refine items_inj (Finset.Subset.antisymm hkept.held ?_)
    intro x hx
    obtain hheld | ⟨i,hi,_⟩ := hkept.wants x hx
    · exact hheld
    · rw [toRestore_eq_empty (hnone i)] at hi
      cases hi

section Runs

variable [Fintype I]

instance (settings : Settings) (s : Client I T) (c : Call T) : Decidable (Room settings s c) :=
  decidable_of_iff (s.check settings c=none→(roomRegs settings s c).card≤ maxSubscriptions) (by
    unfold Room
    rw [←coe_roomRegs,Set.encard_coe_eq_coe_finsetCard,Nat.cast_le])

instance (s : Client I T) (e : Event I T) : Decidable (Safe s e) :=
  match e with
  | .lose => inferInstanceAs (Decidable (∀ i,(s.place i).toRestore⊆ s.held))
  | .failed i => inferInstanceAs (Decidable ((s.place i).toRestore⊆ s.held))
  | .connect => .isTrue trivial
  | .call _ _ => .isTrue trivial
  | .batch _ _ => .isTrue trivial
  | .send _ => .isTrue trivial
  | .finish _ => .isTrue trivial
  | .raise _ => .isTrue trivial
  | .wake _ => .isTrue trivial
  | .noticed _ => .isTrue trivial
  | .closed _ => .isTrue trivial
  | .reconnected _ _ => .isTrue trivial

instance (settings : Settings) (s : Client I T) (e : Event I T) :
    Decidable (RoomAndSafe settings s e) :=
  inferInstanceAs (Decidable ((∀ c∈s.begins e,Room settings s c) ∧ Safe s e))

end Runs

/-- The settings of a client with quotes, order books and notices. -/
def sampleSettings : Settings := ⟨true,true⟩

/-- A ticker and the notices are subscribed to, and a loss is restored. -/
def restoredEvents : List (Event Bool ℕ) :=
  [.connect,.call false (.subscribe 5930),.send false,.send false,.finish false,
    .call false .subscribeExecNotice,.send false,.send false,.finish false,
    .lose,.noticed true,.closed true,.reconnected true [5930],.send true,.send true,.finish true,
    .wake true,.send true,.send true,.finish true]

/-- The client is connected again, the reconnection is over and all is there. -/
theorem promised_of_reaches_restored :
    ∃ s,play (step sampleSettings) (RoomAndSafe sampleSettings) (.init Bool ℕ)
        restoredEvents=some s ∧
      (s.isConnected=true ∧ (∀ i,(s.place i).reconnecting=false) ∧ s.subscribed={5930} ∧
        s.live.card=4) ∧ Promised s := by
  obtain ⟨s,hplay,hend,hreach⟩ := play_ends (step sampleSettings) (RoomAndSafe sampleSettings)
    (.init Bool ℕ) (fun s => s.isConnected=true ∧ (∀ i,(s.place i).reconnecting=false) ∧
      s.subscribed={5930} ∧ s.live.card=4) restoredEvents (by decide +kernel)
  exact ⟨s,hplay,hend,promised_of_reaches hreach⟩

/-- Twenty-one tickers with their order books, in one batch. -/
def crowdedEvents : List (Event Bool ℕ) :=
  .connect::.batch false (List.range 21)::
    (List.replicate 21 [.send false,.send false,.finish false,.wake false]).flatten

/-- A ticker is subscribed to, the connection is lost, the attempt to connect fails, and
the caller connects again. -/
def forgottenEvents : List (Event Bool ℕ) :=
  [.connect,.call false (.subscribe 5930),.send false,.send false,.finish false,
    .lose,.noticed true,.closed true,.failed true,.connect]

/-- The limit is passed, and a failed attempt forgets the subscriptions. -/
theorem not_promised :
    (¬∀ s,Reaches (step sampleSettings) (fun _ _ => True) (.init Bool ℕ) s→
      s.live.card≤ maxSubscriptions) ∧
    ¬∀ s,Reaches (step sampleSettings) (fun _ _ => True) (.init Bool ℕ) s→
      s.isConnected=true→(∀ i,(s.place i).reconnecting=false)→s.subscribed=s.wanted := by
  constructor
  · exact not_forall_reaches crowdedEvents (by decide +kernel)
  · exact not_forall_reaches forgottenEvents (by decide +kernel)

end Aqts.RealtimeSubscriptions
