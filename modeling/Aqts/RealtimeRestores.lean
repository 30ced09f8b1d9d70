import Aqts.RealtimeSubscriptions

/-!
# Subscriptions are within the limit and restored

When every call that passes its checks finds room, and a connection is lost only with
nothing left to restore, the registrations stay within the limit and a reconnection
notes again all that was subscribed to before.
-/

namespace Aqts.RealtimeSubscriptions

open GuardedRuns

variable {I T : Type*}

section Calls

variable {settings : Settings} {c : Call T}

/-- A call adds its own item only. -/
theorem mem_added {x : Item T} : x∈c.added↔c.subscribes=true ∧ x=c.item := by
  unfold Call.added
  by_cases h : c.subscribes=true
  · rw [if_pos h,Finset.mem_singleton]
    exact ⟨fun hx => ⟨h,hx⟩,fun hx => hx.2⟩
  · rw [if_neg h]
    exact ⟨nofun,fun hx => absurd hx.1 h⟩

/-- The messages of a call are for its item. -/
theorem regs_of_added {r : Reg T} (hc : c.subscribes=true) (hr : r∈c.regs settings) :
    ∃ x∈c.added,r∈x.regs settings := ⟨c.item,mem_added.mpr ⟨hc,rfl⟩,hr⟩

/-- A ticker has its quote registration. -/
theorem quote_mem_regs (t : T) : Reg.quote t∈(Item.ticker t).regs settings := by
  unfold Item.regs
  dsimp only
  split
  · exact List.mem_cons_self
  · exact List.mem_cons_self

end Calls

section Places

/-- The socket while a task is between two connections. -/
def Place.away : Place T→Option Socket
  | .closing _ _ => some .closing
  | .waiting _ _ => some .absent
  | .idle _ => none
  | .calling _ _ _ => none
  | .resting _ => none

/-- A place after an answer is not between two connections. -/
theorem away_answer (k : Cont T) (result : Bool) : (k.answer result).away=none := by
  cases k with
  | call => rfl
  | batch rest success => rfl
  | restore rest exec => rfl
  | reconnected => rfl

variable [DecidableEq I] {s : Client I T} {i : I}

/-- The place of the task that moves. -/
theorem move_place_self (p : Place T) : (s.move i p).place i=p := Function.update_self _ _ _

/-- The places of the other tasks. -/
theorem move_place_of_ne (p : Place T) {j : I} (h : j≠i) : (s.move i p).place j=s.place j :=
  Function.update_of_ne h _ _

end Places

variable [DecidableEq T]

section Items

variable {tickers : Finset T} {notice : Bool} {k : Cont T}

/-- The tickers among the items. -/
theorem ticker_mem_items {t : T} : Item.ticker t∈items tickers notice↔t∈tickers := by
  unfold items
  constructor
  · intro h
    obtain himage | hnotice := Finset.mem_union.mp h
    · obtain ⟨t',ht,heq⟩ := Finset.mem_image.mp himage
      cases heq
      exact ht
    · split at hnotice
      · exact absurd (Finset.mem_singleton.mp hnotice) nofun
      · cases hnotice
  · intro h
    exact Finset.mem_union_left _ (Finset.mem_image_of_mem _ h)

/-- The notices among the items. -/
theorem notice_mem_items : Item.notice∈items tickers notice↔notice=true := by
  unfold items
  constructor
  · intro h
    obtain himage | hnotice := Finset.mem_union.mp h
    · obtain ⟨t,_,heq⟩ := Finset.mem_image.mp himage
      cases heq
    · by_cases htrue : notice=true
      · exact htrue
      · rw [if_neg htrue] at hnotice
        cases hnotice
  · intro h
    rw [if_pos h]
    exact Finset.mem_union_right _ (Finset.mem_singleton_self _)

/-- The items determine the tickers and the notices. -/
theorem items_inj {tickers' : Finset T} {notice' : Bool}
    (h : items tickers notice=items tickers' notice') : tickers=tickers' ∧ notice=notice' := by
  constructor
  · ext t
    exact ticker_mem_items.symm.trans ((Finset.ext_iff.mp h _).trans ticker_mem_items)
  · rw [Bool.eq_iff_iff]
    exact notice_mem_items.symm.trans ((Finset.ext_iff.mp h _).trans notice_mem_items)

/-- One more ticker. -/
theorem items_insert (t : T) :
    items (insert t tickers) notice=insert (.ticker t) (items tickers notice) := by
  unfold items
  rw [Finset.image_insert,Finset.insert_union]

/-- One ticker less. -/
theorem items_erase (t : T) :
    items (tickers.erase t) notice=(items tickers notice).erase (.ticker t) := by
  ext x
  cases x with
  | ticker name =>
    rw [ticker_mem_items,Finset.mem_erase,Finset.mem_erase,ticker_mem_items]
    exact and_congr_left' (not_congr ⟨congrArg _,Item.ticker.inj⟩)
  | notice =>
    rw [notice_mem_items,Finset.mem_erase,notice_mem_items]
    exact ⟨fun h => ⟨nofun,h⟩,fun h => h.2⟩

/-- The notices are there. -/
theorem items_true : items tickers true=insert .notice (items tickers notice) := by
  ext x
  cases x with
  | ticker name =>
    rw [ticker_mem_items,Finset.mem_insert,ticker_mem_items]
    exact ⟨Or.inr,fun h => h.resolve_left nofun⟩
  | notice =>
    rw [notice_mem_items]
    exact ⟨fun _ => Finset.mem_insert_self _ _,fun _ => rfl⟩

/-- The notices are not there. -/
theorem items_false : items tickers false=(items tickers notice).erase .notice := by
  ext x
  cases x with
  | ticker name =>
    rw [ticker_mem_items,Finset.mem_erase,ticker_mem_items]
    exact ⟨fun h => ⟨nofun,h⟩,fun h => h.2⟩
  | notice =>
    rw [notice_mem_items,Finset.mem_erase]
    exact ⟨nofun,fun h => absurd rfl h.1⟩

/-- A task that is answered asks for what is left. -/
theorem asks_answer (result : Bool) : (k.answer result).asks=k.left := by
  cases k with
  | call => rfl
  | batch rest success => rfl
  | restore rest exec => rfl
  | reconnected => rfl

/-- It restores what is left. -/
theorem toRestore_answer (result : Bool) : (k.answer result).toRestore=k.left := by
  cases k with
  | call => rfl
  | batch rest success => rfl
  | restore rest exec => rfl
  | reconnected => rfl

/-- What is left to restore is asked for. -/
theorem toRestore_subset (p : Place T) : p.toRestore⊆p.asks := by
  cases p with
  | idle result => exact Finset.Subset.refl _
  | resting k => exact Finset.Subset.refl _
  | closing saved exec => exact Finset.Subset.refl _
  | waiting saved exec => exact Finset.Subset.refl _
  | calling c sends k =>
    unfold Place.toRestore Place.asks
    dsimp only
    split
    · exact Finset.Subset.refl _
    · exact Finset.empty_subset _

/-- Only a reconnection has something left to restore. -/
theorem toRestore_eq_empty {p : Place T} (h : p.reconnecting=false) : p.toRestore=∅ := by
  cases p with
  | idle result => rfl
  | calling c sends k => exact if_neg (Bool.not_eq_true _ ▸ h)
  | resting k =>
    cases k with
    | call => rfl
    | batch rest success => rfl
    | restore rest exec => cases h
    | reconnected => rfl
  | closing saved exec => cases h
  | waiting saved exec => cases h

/-- A task that is idle has nothing left. -/
theorem away_toRestore_of_isIdle {p : Place T} (h : p.isIdle=true) :
    p.away=none ∧ p.toRestore=∅ := by
  cases p with
  | idle result => exact ⟨rfl,rfl⟩
  | _ => cases h

end Items

/-- A task will restore what it has left: it is between two connections, or the
connection is up. -/
def Client.serves (s : Client I T) (p : Place T) : Prop :=
  p.away≠none ∨ s.socket=.up ∧ s.connected=true

/-- What guarded runs keep. -/
structure Kept (settings : Settings) (s : Client I T) : Prop where
  /-- All that is asked for is within the limit. -/
  room : (s.reserved settings).encard≤ maxSubscriptions
  /-- Nothing is noted that was not subscribed to. -/
  held : s.held⊆ s.wants
  /-- What was subscribed to is noted or left to restore. -/
  wants : ∀ x∈s.wants,x∈s.held ∨ ∃ i,x∈(s.place i).toRestore ∧ s.serves (s.place i)
  /-- The noted notices have an id. -/
  htsId : Item.notice∈s.held→settings.htsId=true
  /-- The notices that are asked for have an id. -/
  htsIds : ∀ i,Item.notice∈(s.place i).asks→settings.htsId=true
  /-- A task between two connections finds its socket. -/
  away : ∀ i socket,(s.place i).away=some socket→s.socket=socket ∧ s.connected=true
  /-- One task is between two connections. -/
  alone : ∀ i j,(s.place i).away≠none→(s.place j).away≠none→i=j

variable {settings : Settings} {s t : Client I T} {i : I} {c : Call T} {k : Cont T}

/-- A socket that is none of those between two connections. -/
theorem Kept.not_away (h : Kept settings s) (hclosing : s.socket≠.closing)
    (habsent : s.socket≠.absent) (i : I) : (s.place i).away=none := by
  cases hplace : s.place i with
  | closing saved exec => exact absurd (h.away i .closing (by rw [hplace]; rfl)).1 hclosing
  | waiting saved exec => exact absurd (h.away i .absent (by rw [hplace]; rfl)).1 habsent
  | idle result => rfl
  | calling c sends k => rfl
  | resting k => rfl

/-- Fewer registrations that are asked for. -/
theorem reserved_subset (hlive : ∀ r∈t.live,r∈s.reserved settings)
    (hasks : ∀ x,(x∈t.held ∨ ∃ i,x∈(t.place i).asks)→x∈s.held ∨ ∃ i,x∈(s.place i).asks) :
    t.reserved settings⊆ s.reserved settings := by
  intro r hr
  obtain hl | ⟨x,hx,hregs⟩ := hr
  · exact hlive r hl
  · exact Or.inr ⟨x,hasks x hx,hregs⟩

/-- There is room for fewer registrations. -/
theorem Kept.room_of_fewer (h : Kept settings s) (hlive : ∀ r∈t.live,r∈s.reserved settings)
    (hasks : ∀ x,(x∈t.held ∨ ∃ i,x∈(t.place i).asks)→x∈s.held ∨ ∃ i,x∈(s.place i).asks) :
    (t.reserved settings).encard≤ maxSubscriptions :=
  (Set.encard_le_encard (reserved_subset hlive hasks)).trans h.room

/-- The live registrations are reserved. -/
theorem reserved_of_live {r : Reg T} (h : r∈s.live) : r∈s.reserved settings := Or.inl h

/-- The registrations of what a task asks for are reserved. -/
theorem reserved_of_asks {r : Reg T} {x : Item T} (hx : x∈(s.place i).asks)
    (hr : r∈x.regs settings) : r∈s.reserved settings := Or.inr ⟨x,Or.inr ⟨i,hx⟩,hr⟩

/-- A ticker that is asked for leaves room to note it. -/
theorem Kept.card_lt (h : Kept settings s) {name : T} (hx : Item.ticker name∈(s.place i).asks)
    (hnew : name∉s.subscribed) : s.subscribed.card< maxSubscriptions := by
  have hsubset : (((insert name s.subscribed).image Reg.quote : Finset (Reg T)) : Set (Reg T))⊆
      s.reserved settings := by
    intro r hr
    obtain ⟨name',hname,rfl⟩ := Finset.mem_image.mp (Finset.mem_coe.mp hr)
    refine Or.inr ⟨.ticker name',?_,quote_mem_regs name'⟩
    obtain rfl | hsub := Finset.mem_insert.mp hname
    · exact Or.inr ⟨i,hx⟩
    · exact Or.inl (ticker_mem_items.mpr hsub)
  have hcard := (Set.encard_le_encard hsubset).trans h.room
  rw [Set.encard_coe_eq_coe_finsetCard,Nat.cast_le,
    Finset.card_image_of_injective _ fun _ _ heq => Reg.quote.inj heq,
    Finset.card_insert_of_notMem hnew] at hcard
  exact hcard

/-- While the connection is up a call for what is asked for is answered at once only when
it is noted. -/
theorem Kept.held_of_check (h : Kept settings s) (hup : s.socket=.up) (hconn : s.connected=true)
    (hc : c.subscribes=true) (hx : c.item∈(s.place i).asks) {result : Bool}
    (hcheck : s.check settings c=some result) : c.item∈s.held := by
  have hconnected : ¬s.isConnected=false := by
    unfold Client.isConnected
    rw [hconn,hup]
    nofun
  cases c with
  | subscribe name =>
    by_contra hnot
    have hnew : name∉s.subscribed := fun hin => hnot (ticker_mem_items.mpr hin)
    have hfull := not_le_of_gt (h.card_lt hx hnew)
    unfold Client.check at hcheck
    dsimp only at hcheck
    rw [if_neg hconnected,if_neg hfull,if_neg hnew] at hcheck
    cases hcheck
  | subscribeExecNotice =>
    by_contra hnot
    have hnew : ¬s.notice=true := fun hin => hnot (notice_mem_items.mpr hin)
    have hid : ¬settings.htsId=false := by
      rw [h.htsIds i hx]
      nofun
    unfold Client.check at hcheck
    dsimp only at hcheck
    rw [if_neg hconnected,if_neg hid,if_neg hnew] at hcheck
    cases hcheck
  | unsubscribe name => cases hc
  | unsubscribeExecNotice => cases hc

/-- A call for the notices that passes its checks has an id. -/
theorem htsId_of_check (hnotice : Item.notice∈c.added) (hcheck : s.check settings c=none) :
    settings.htsId=true := by
  obtain ⟨hc,hitem⟩ := mem_added.mp hnotice
  cases c with
  | subscribe name => cases hitem
  | unsubscribe name => cases hc
  | unsubscribeExecNotice => cases hc
  | subscribeExecNotice =>
    by_contra hid
    unfold Client.check at hcheck
    dsimp only at hcheck
    split at hcheck
    · cases hcheck
    · rw [if_pos (Bool.not_eq_true _ ▸ hid)] at hcheck
      cases hcheck

/-- What a call adds is asked for already. -/
theorem Kept.room_of_asks (h : Kept settings s) (hc : ∀ x∈c.added,x∈(s.place i).asks) :
    (s.reserved settings∪c.asked settings).encard≤ maxSubscriptions := by
  refine (Set.encard_le_encard (Set.union_subset (Set.Subset.refl _) ?_)).trans h.room
  rintro r ⟨x,hx,hr⟩
  exact reserved_of_asks (hc x hx) hr

/-- A message that is sent is reserved. -/
theorem Kept.register (h : Kept settings s) {r : Reg T}
    (hr : c.subscribes=true→ r∈s.reserved settings) : Kept settings (s.register c r) := by
  have hlive : ∀ r'∈(s.register c r).live,r'∈s.reserved settings := by
    intro r' hr'
    unfold Client.register at hr'
    dsimp only at hr'
    by_cases hc : c.subscribes=true
    · rw [if_pos hc] at hr'
      obtain rfl | hold := Finset.mem_insert.mp hr'
      · exact hr hc
      · exact reserved_of_live hold
    · rw [if_neg hc] at hr'
      exact reserved_of_live (Finset.mem_of_mem_erase hr')
  exact ⟨h.room_of_fewer hlive fun _ hx => hx,h.held,h.wants,h.htsId,h.htsIds,h.away,h.alone⟩

/-- What is noted after a call. -/
theorem held_conclude (s : Client I T) (c : Call T) :
    (s.conclude c).held=
      if c.subscribes=true then insert c.item s.held else s.held.erase c.item := by
  cases c with
  | subscribe name => exact items_insert name
  | unsubscribe name => exact items_erase name
  | subscribeExecNotice => exact items_true
  | unsubscribeExecNotice => exact items_false

/-- What is subscribed to after a call. -/
theorem wants_conclude (s : Client I T) (c : Call T) :
    (s.conclude c).wants=
      if c.subscribes=true then insert c.item s.wants else s.wants.erase c.item := by
  cases c with
  | subscribe name => exact items_insert name
  | unsubscribe name => exact items_erase name
  | subscribeExecNotice => exact items_true
  | unsubscribeExecNotice => exact items_false

/-- A call changes the notes only. -/
theorem conclude_frame (s : Client I T) (c : Call T) :
    (s.conclude c).place=s.place ∧ (s.conclude c).live=s.live ∧
      (s.conclude c).socket=s.socket ∧ (s.conclude c).connected=s.connected := by
  cases c with
  | subscribe name => exact ⟨rfl,rfl,rfl,rfl⟩
  | unsubscribe name => exact ⟨rfl,rfl,rfl,rfl⟩
  | subscribeExecNotice => exact ⟨rfl,rfl,rfl,rfl⟩
  | unsubscribeExecNotice => exact ⟨rfl,rfl,rfl,rfl⟩

/-- A call that was asked for notes its item. -/
theorem Kept.conclude (h : Kept settings s) (hc : c.subscribes=true→c.item∈(s.place i).asks) :
    Kept settings (s.conclude c) := by
  obtain ⟨hplace,hlive,hsocket,hconn⟩ := conclude_frame s c
  have hheld : ∀ x∈(s.conclude c).held,x∈s.held ∨ c.subscribes=true ∧ x=c.item := by
    intro x hx
    rw [held_conclude] at hx
    by_cases hsub : c.subscribes=true
    · rw [if_pos hsub] at hx
      exact (Finset.mem_insert.mp hx).symm.imp_right fun heq => ⟨hsub,heq⟩
    · rw [if_neg hsub] at hx
      exact Or.inl (Finset.mem_of_mem_erase hx)
  have hroom : ((s.conclude c).reserved settings).encard≤ maxSubscriptions := by
    refine h.room_of_fewer ?_ ?_
    · rw [hlive]
      exact fun r hr => reserved_of_live hr
    · rw [hplace]
      rintro x (hx | hx)
      · obtain hold | ⟨hsub,rfl⟩ := hheld x hx
        · exact Or.inl hold
        · exact Or.inr ⟨i,hc hsub⟩
      · exact Or.inr hx
  have hnoted : (s.conclude c).held⊆(s.conclude c).wants := by
    rw [held_conclude,wants_conclude]
    split
    · exact Finset.insert_subset_insert _ h.held
    · exact Finset.erase_subset_erase _ h.held
  have hwants : ∀ x∈(s.conclude c).wants,x∈(s.conclude c).held ∨
      ∃ j,x∈(s.place j).toRestore ∧ s.serves (s.place j) := by
    intro x hx
    rw [held_conclude]
    rw [wants_conclude] at hx
    by_cases hsub : c.subscribes=true
    · rw [if_pos hsub] at hx ⊢
      obtain rfl | hold := Finset.mem_insert.mp hx
      · exact Or.inl (Finset.mem_insert_self _ _)
      · exact (h.wants x hold).imp_left Finset.mem_insert_of_mem
    · rw [if_neg hsub] at hx ⊢
      obtain ⟨hne,hold⟩ := Finset.mem_erase.mp hx
      exact (h.wants x hold).imp_left fun hin => Finset.mem_erase.mpr ⟨hne,hin⟩
  have hid : Item.notice∈(s.conclude c).held→settings.htsId=true := by
    intro hnotice
    obtain hold | ⟨hsub,heq⟩ := hheld _ hnotice
    · exact h.htsId hold
    · exact h.htsIds i (heq▸hc hsub)
  refine ⟨hroom,hnoted,?_,hid,?_,?_,?_⟩
  · unfold Client.serves
    rw [hplace,hsocket,hconn]
    exact hwants
  · rw [hplace]
    exact h.htsIds
  · rw [hplace,hsocket,hconn]
    exact h.away
  · rw [hplace]
    exact h.alone

/-- While no connection is being restored or made, what is subscribed to is noted. -/
theorem Kept.noted (h : Kept settings s) (hnone : ∀ j,¬s.serves (s.place j)) {x : Item T}
    (hx : x∈s.wants) : x∈s.held := by
  obtain hheld | ⟨j,_,hserves⟩ := h.wants x hx
  · exact hheld
  · exact absurd hserves (hnone j)

/-- A connection is lost. -/
theorem Kept.lost (h : Kept settings s) (hup : s.socket=.up)
    (hsafe : ∀ j,(s.place j).toRestore⊆ s.held) :
    Kept settings {s with socket := .lost, live := ∅} := by
  have hnone := h.not_away (by rw [hup]; nofun) (by rw [hup]; nofun)
  refine ⟨?_,h.held,?_,h.htsId,h.htsIds,?_,h.alone⟩
  · exact h.room_of_fewer (fun r hr => absurd hr (Finset.notMem_empty r)) fun _ hx => hx
  · intro x hx
    obtain hheld | ⟨j,hj,_⟩ := h.wants x hx
    · exact Or.inl hheld
    · exact Or.inl (hsafe j hj)
  · exact fun j socket hj => absurd ((hnone j).symm.trans hj) nofun

/-- A client that is not connected connects. -/
theorem Kept.opened (h : Kept settings s) (hconn : s.connected=false) : Kept settings s.open := by
  have haway : ∀ j,(s.place j).away=none := by
    intro j
    cases hj : (s.place j).away with
    | none => rfl
    | some socket => exact absurd (hconn.symm.trans (h.away j socket hj).2) nofun
  have hnone : ∀ j,¬s.serves (s.place j) := by
    rintro j (hj | ⟨_,hj⟩)
    · exact hj (haway j)
    · exact absurd (hconn.symm.trans hj) nofun
  refine ⟨?_,h.held,fun x hx => Or.inl (h.noted hnone hx),h.htsId,h.htsIds,?_,h.alone⟩
  · exact h.room_of_fewer (fun r hr => absurd hr (Finset.notMem_empty r)) fun _ hx => hx
  · exact fun j socket hj => absurd ((haway j).symm.trans hj) nofun

variable [DecidableEq I]

/-- A task that moves asks for no more than it did, but for what is noted. -/
theorem reserved_move_subset {p : Place T}
    (hasks : ∀ x∈p.asks,x∈s.held ∨ x∈(s.place i).asks) :
    (s.move i p).reserved settings⊆ s.reserved settings := by
  refine reserved_subset (fun r hr => reserved_of_live hr) ?_
  rintro x (hx | ⟨j,hj⟩)
  · exact Or.inl hx
  · by_cases hji : j=i
    · subst hji
      rw [move_place_self] at hj
      exact (hasks x hj).imp_right fun h => ⟨j,h⟩
    · rw [move_place_of_ne p hji] at hj
      exact Or.inr ⟨j,hj⟩

/-- A task moves outside of the time between two connections. -/
theorem Kept.task (h : Kept settings s) {p : Place T} (hbefore : (s.place i).away=none)
    (hafter : p.away=none) (hroom : ((s.move i p).reserved settings).encard≤ maxSubscriptions)
    (hid : Item.notice∈p.asks→settings.htsId=true)
    (hleft : s.socket=.up→s.connected=true→
      ∀ x∈(s.place i).toRestore,x∈s.held ∨ x∈p.toRestore) : Kept settings (s.move i p) := by
  have hself := move_place_self (s := s) (i := i) p
  have haway : ∀ j,((s.move i p).place j).away=(s.place j).away := by
    intro j
    by_cases hj : j=i
    · subst hj
      rw [hself,hafter,hbefore]
    · rw [move_place_of_ne p hj]
  have hwants : ∀ x∈s.wants,x∈s.held ∨
      ∃ j,x∈((s.move i p).place j).toRestore ∧ s.serves ((s.move i p).place j) := by
    intro x hx
    obtain hheld | ⟨j,hj,hserves⟩ := h.wants x hx
    · exact Or.inl hheld
    by_cases hji : j=i
    · subst hji
      obtain haway' | ⟨hup,hconn⟩ := hserves
      · exact absurd hbefore haway'
      · obtain hheld | hp := hleft hup hconn x hj
        · exact Or.inl hheld
        · refine Or.inr ⟨j,?_,Or.inr ⟨hup,hconn⟩⟩
          rw [hself]
          exact hp
    · refine Or.inr ⟨j,?_⟩
      rw [move_place_of_ne p hji]
      exact ⟨hj,hserves⟩
  have hids : ∀ j,Item.notice∈((s.move i p).place j).asks→settings.htsId=true := by
    intro j hj
    by_cases hji : j=i
    · subst hji
      rw [hself] at hj
      exact hid hj
    · rw [move_place_of_ne p hji] at hj
      exact h.htsIds j hj
  refine ⟨hroom,h.held,hwants,h.htsId,hids,?_,?_⟩
  · intro j socket hj
    exact h.away j socket ((haway j).symm.trans hj)
  · intro j l hj hl
    rw [haway] at hj hl
    exact h.alone j l hj hl

/-- A task that asks for less moves. -/
theorem Kept.less (h : Kept settings s) {p : Place T} (hbefore : (s.place i).away=none)
    (hafter : p.away=none) (hasks : p.asks⊆(s.place i).asks)
    (hleft : s.socket=.up→s.connected=true→
      ∀ x∈(s.place i).toRestore,x∈s.held ∨ x∈p.toRestore) : Kept settings (s.move i p) := by
  refine h.task hbefore hafter ?_ (fun hx => h.htsIds i (hasks hx)) hleft
  exact (Set.encard_le_encard (reserved_move_subset fun x hx => Or.inr (hasks hx))).trans h.room

/-- A call begins, in a task that has nothing else left to restore than what the call adds
and what is left after it. -/
theorem Kept.begin (h : Kept settings s) (hbefore : (s.place i).away=none)
    (hk : k.left⊆(s.place i).asks)
    (hroom : s.check settings c=none→
      (s.reserved settings∪c.asked settings).encard≤ maxSubscriptions)
    (hleft : ∀ x∈(s.place i).toRestore,
      x∈k.left ∨ k.restores=true ∧ x∈c.added) :
    Kept settings (s.move i (s.begin settings c k)) := by
  unfold Client.begin
  cases hcheck : s.check settings c with
  | some result =>
    dsimp only
    refine h.less hbefore (away_answer k result) ?_ ?_
    · rw [asks_answer]
      exact hk
    · intro hup hconn x hx
      rw [toRestore_answer]
      obtain hrest | ⟨_,hadded⟩ := hleft x hx
      · exact Or.inr hrest
      -- a restored call finds room, so it returns at once only for what is noted
      · obtain ⟨hc,rfl⟩ := mem_added.mp hadded
        exact Or.inl (h.held_of_check hup hconn hc (toRestore_subset _ hx) hcheck)
  | none =>
    dsimp only
    refine h.task hbefore rfl ?_ ?_ ?_
    · refine (Set.encard_le_encard ?_).trans (hroom hcheck)
      rintro r (hlive | ⟨x,hheld | ⟨j,hj⟩,hr⟩)
      · exact Or.inl (Or.inl hlive)
      · exact Or.inl (Or.inr ⟨x,Or.inl hheld,hr⟩)
      · by_cases hji : j=i
        · subst hji
          rw [move_place_self] at hj
          obtain hadded | hrest := Finset.mem_union.mp hj
          · exact Or.inr ⟨x,hadded,hr⟩
          · exact Or.inl (reserved_of_asks (hk hrest) hr)
        · rw [move_place_of_ne _ hji] at hj
          exact Or.inl (reserved_of_asks hj hr)
    · intro hnotice
      obtain hadded | hrest := Finset.mem_union.mp hnotice
      · exact htsId_of_check hadded hcheck
      · exact h.htsIds i (hk hrest)
    · intro _ _ x hx
      obtain hrest | ⟨hrestores,hadded⟩ := hleft x hx
      · by_cases hrestores : k.restores=true
        · refine Or.inr ?_
          unfold Place.toRestore
          dsimp only
          rw [if_pos hrestores]
          exact Finset.mem_union_right _ hrest
        · have hempty : k.left=∅ :=
            toRestore_eq_empty (p := .resting k) (Bool.not_eq_true _▸hrestores)
          rw [hempty] at hrest
          cases hrest
      · refine Or.inr ?_
        unfold Place.toRestore
        dsimp only
        rw [if_pos hrestores]
        exact Finset.mem_union_left _ hadded

/-- A task goes on. -/
theorem Kept.proceed (h : Kept settings s) (hbefore : (s.place i).away=none)
    (hk : k.left⊆(s.place i).asks) (hleft : (s.place i).toRestore⊆k.left)
    (hroom : ∀ name rest success,k=.batch (name::rest) success→
      Room settings s (.subscribe name)) :
    Kept settings (s.move i (s.proceed settings k)) := by
  have hidle : k.left=∅→Kept settings (s.move i (.idle none)) := by
    intro hempty
    refine h.less hbefore rfl (Finset.empty_subset _) ?_
    intro _ _ x hx
    have hin := hleft hx
    rw [hempty] at hin
    cases hin
  cases k with
  | call => exact hidle rfl
  | reconnected => exact hidle rfl
  | batch tickers success =>
    cases tickers with
    | nil =>
      refine h.less hbefore rfl (Finset.empty_subset _) ?_
      exact fun _ _ x hx => absurd (hleft hx) (Finset.notMem_empty x)
    | cons name rest =>
      refine h.begin hbefore (Finset.empty_subset _) (hroom name rest success rfl) ?_
      exact fun x hx => absurd (hleft hx) (Finset.notMem_empty x)
  | restore tickers exec =>
    cases tickers with
    | nil =>
      cases exec with
      | false => exact hidle rfl
      | true =>
        refine h.begin hbefore (Finset.empty_subset _) ?_ ?_
        · exact fun _ => h.room_of_asks fun x hx => hk hx
        · exact fun x hx => Or.inr ⟨rfl,hleft hx⟩
    | cons name rest =>
      have hsplit : (Cont.restore (name::rest) exec).left=
          insert (.ticker name) (Cont.restore rest exec).left := by
        unfold Cont.left
        dsimp only
        rw [List.toFinset_cons,items_insert]
      refine h.begin hbefore ?_ ?_ ?_
      · refine Finset.Subset.trans ?_ hk
        rw [hsplit]
        exact Finset.subset_insert _ _
      · refine fun _ => h.room_of_asks fun x hx => hk ?_
        rw [hsplit,(mem_added.mp hx).2]
        exact Finset.mem_insert_self _ _
      · intro x hx
        have hin := hleft hx
        rw [hsplit] at hin
        obtain rfl | hrest := Finset.mem_insert.mp hin
        · exact Or.inr ⟨rfl,mem_added.mpr ⟨rfl,rfl⟩⟩
        · exact Or.inl hrest

end Aqts.RealtimeSubscriptions
