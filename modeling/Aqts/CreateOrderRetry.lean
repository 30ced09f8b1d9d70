import Aqts.CreateOrderReplay

/-!
# Retries after a successful execution

An attempt that looks the key up after `execute_order` has returned must not
execute again within the lifetime of the result. The key covers such a retry
in two ways: the attempt that executed still holds it, or it contains a
result that outlives the window. Coverage is kept as long as no step after
the return fails, so the theorem is about runs without such a failure.
-/

namespace Aqts.CreateOrder

open ExpiringSlot IdempotencyStore OrderTypes GuardedRuns

variable {n : ℕ}

/-- No step after the return of `execute_order` fails: the audit of the
result is written, the response is built and the result reaches the store. -/
def ReturnsAreStored (s : System n) : Event n→Prop
  | .tick _ => True
  | .act i outcome => (s.attempt i).phase.afterReturn=true→ outcome.isFailure=false

/-- The clock does not run backwards, and no attempt spends the lifetime of a
result between its `lookup` and the end of its `try_claim`. -/
def SteadyClock (env : Setting n) (s : System n) : Event n→Prop
  | .tick instant => s.now ≤ instant ∧ ∀ j,(s.attempt j).phase.isClaiming=true→
      ∀ begin∈(s.attempt j).start,instant≤begin.instant+env.config.resultTtl
  | .act _ _ => True

instance (s : System n) : (e : Event n)→Decidable (ReturnsAreStored s e)
  | .tick _ => inferInstanceAs (Decidable True)
  | .act i outcome => inferInstanceAs (Decidable
      ((s.attempt i).phase.afterReturn=true→ outcome.isFailure=false))

instance (env : Setting n) (s : System n) : (e : Event n)→Decidable (SteadyClock env s e)
  | .tick instant => inferInstanceAs (Decidable (s.now ≤ instant ∧
      ∀ j,(s.attempt j).phase.isClaiming=true→
        ∀ begin∈(s.attempt j).start,instant≤begin.instant+env.config.resultTtl))
  | .act _ _ => inferInstanceAs (Decidable True)

/-- The conditions under which retries are safe. -/
def RetrySafe (env : Setting n) (s : System n) (e : Event n) : Prop :=
  Disciplined env s e ∧ ReturnsAreStored s e ∧ SteadyClock env s e

instance (env : Setting n) (s : System n) (e : Event n) : Decidable (RetrySafe env s e) :=
  inferInstanceAs (Decidable (Disciplined env s e ∧ ReturnsAreStored s e ∧ SteadyClock env s e))

/-- The key is taken until an instant: an attempt that has executed still
holds it, or it contains a result with at least that expiry. -/
def Covered (s : System n) (limit : ℚ) : Prop :=
  (∃ k,(s.attempt k).phase.afterReturn=true) ∨
    ∃ entry record,s.slot=some entry ∧ entry.value=.result record ∧ limit≤entry.expiresAt

variable {env : Setting n}

/-- A covered key is not free. -/
theorem Covered.busy {s : System n} {limit : ℚ} (h : Covered s limit) (hown : Owned env s)
    (hl : s.now≤limit) : sweep s.now s.slot≠none := by
  obtain ⟨k,hk⟩ | ⟨entry,record,hslot,_,hx⟩ := h
  · have hold := hown k (Phase.inSection_of_afterReturn hk)
    rw [hold.sweep,hold.2.1]
    exact Option.some_ne_none _
  · rw [hslot,sweep_live (hl.trans hx)]
    exact Option.some_ne_none _

/-- When `lookup` finds no record on a covered key, an executed attempt is
still on its way to its store. -/
theorem Covered.of_missed {s : System n} {limit : ℚ} (h : Covered s limit) (hl : s.now≤limit)
    (hmiss : lookupRecord s.now s.slot=none) : ∃ k,(s.attempt k).phase.afterReturn=true := by
  obtain hk | ⟨entry,record,hslot,hv,hx⟩ := h
  · exact hk
  · rw [hslot,lookupRecord_live (hl.trans hx),hv] at hmiss
    cases hmiss

/-- An executed attempt other than the moving one keeps the key covered. -/
theorem covered_of_other {s : System n} {i k : Fin n} {m : Move} {limit : ℚ}
    (hk : (s.attempt k).phase.afterReturn=true) (hki : k≠i) : Covered (s.apply i m) limit := by
  refine .inl ⟨k,?_⟩
  rw [apply_attempt_other s m hki]
  exact hk

/-- A move that keeps the live contents of the key keeps a stored result. -/
theorem covered_of_kept {s : System n} {i : Fin n} {m : Move} {limit : ℚ}
    {entry : Entry (Raw Body) ℚ} {record : OrderIdempotencyRecord Body}
    (hslot : s.slot=some entry) (hv : entry.value=.result record) (hx : limit≤entry.expiresAt)
    (hl : s.now≤limit) (hk : m.slot=s.slot ∨ m.slot=sweep s.now s.slot) :
    Covered (s.apply i m) limit := by
  refine .inr ⟨entry,record,?_,hv,hx⟩
  change m.slot=some entry
  obtain hk | hk := hk
  · rw [hk,hslot]
  · rw [hk,hslot]
    exact sweep_live (hl.trans hx)

/-- A request in its section sees no result in the key. -/
theorem Owned.no_result {s : System n} {i : Fin n} (hown : Owned env s)
    (hi : (s.attempt i).phase.inSection=true) {entry : Entry (Raw Body) ℚ}
    {record : OrderIdempotencyRecord Body} (hslot : s.slot=some entry)
    (hv : entry.value=.result record) : False := by
  have hs := (hown i hi).2.1
  rw [hslot] at hs
  cases hs
  cases hv

/-- Coverage survives every move of a safe run while its window lasts. -/
theorem Covered.move {s : System n} {i : Fin n} {o : Outcome} {m : Move} {limit : ℚ}
    (h : Covered s limit) (hown : Owned env s) (hl : s.now≤limit)
    (hw : limit ≤ s.now+env.config.resultTtl) (ho : NoOwnResult env s (.act i o))
    (hr : ReturnsAreStored s (.act i o))
    (hm : MoveCase env i s.now s.slot (s.attempt i).phase o m) : Covered (s.apply i m) limit := by
  have hbusy := h.busy hown hl
  generalize hp : (s.attempt i).phase=p at hm
  obtain ⟨k,hk⟩ | ⟨entry,record,hslot,hv,hx⟩ := h
  · have hne : p.afterReturn=false→k≠i := by
      rintro hf rfl
      rw [hp,hf] at hk
      cases hk
    cases hm with
    | quiet _ _ _ after _ =>
      by_cases hki : k=i
      · subst hki
        refine .inl ⟨k,?_⟩
        rw [apply_phase_self]
        exact after (by rwa [hp] at hk) (hr hk)
      · exact covered_of_other hk hki
    | looked _ => exact covered_of_other hk (hne rfl)
    | installed free _ => exact absurd free hbusy
    | entered inspecting found own =>
      exact (not_entered ho hp inspecting found own).elim
    | began => exact covered_of_other hk (hne rfl)
    | returned => exact covered_of_other hk (hne rfl)
    | stored => exact .inr ⟨_,_,rfl,rfl,hw⟩
    | removed inside after _ =>
      have hi : (s.attempt i).phase.inSection=true := by rwa [hp]
      have hki := (hown k (Phase.inSection_of_afterReturn hk)).unique (hown i hi)
      exact absurd hki (hne after)
  · cases hm with
    | quiet kept _ _ _ _ => exact covered_of_kept hslot hv hx hl kept
    | looked _ => exact covered_of_kept hslot hv hx hl (.inr rfl)
    | installed free _ => exact absurd free hbusy
    | entered inspecting found own =>
      exact (not_entered ho hp inspecting found own).elim
    | began => exact covered_of_kept hslot hv hx hl (.inl rfl)
    | returned => exact covered_of_kept hslot hv hx hl (.inl rfl)
    | stored => exact .inr ⟨_,_,rfl,rfl,hw⟩
    | removed inside _ _ =>
      have hi : (s.attempt i).phase.inSection=true := by rwa [hp]
      exact (hown.no_result hi hslot hv).elim

/-- An attempt whose `lookup` came after a return of `execute_order` and
within the lifetime of a result stored at that return. -/
def Late (env : Setting n) (begin : Start n) : Prop :=
  ∃ c∈begin.earlier,begin.instant ≤ c.instant+env.config.resultTtl

/-- What keeps retries from executing, over a whole run. -/
structure Settled (env : Setting n) (s : System n) : Prop where
  /-- Returns lie in the past. -/
  past : ∀ c∈s.returned,c.instant ≤ s.now
  /-- The key is taken for a result lifetime after each return. -/
  covered : ∀ c∈s.returned,s.now ≤ c.instant+env.config.resultTtl→
    Covered s (c.instant+env.config.resultTtl)
  /-- Attempts started in the past, and claim within a result lifetime. -/
  begun : ∀ j begin,(s.attempt j).start=some begin→
    begin.instant ≤ s.now ∧
      ((s.attempt j).phase.isClaiming=true→s.now≤begin.instant+env.config.resultTtl)
  /-- An attempt before its `lookup` has not executed. -/
  fresh : ∀ j,(s.attempt j).phase=.arrived→j∉s.started
  /-- A late attempt never gets into its section. -/
  late : ∀ j begin,(s.attempt j).start=some begin→Late env begin→
    j∉s.started ∧ (s.attempt j).phase.inSection=false ∧ (s.attempt j).phase≠.arrived ∧
      ((s.attempt j).phase.isClaiming=true→
        Covered s (begin.instant+env.config.resultTtl))

/-- Nothing has happened yet. -/
theorem settled_initial (env : Setting n) : Settled env (initial n) where
  past := fun _ hc => by cases hc
  covered := fun _ hc => by cases hc
  begun := fun _ _ h => by cases h
  fresh := fun _ _ h => by cases h
  late := fun _ _ h => by cases h

/-- A later clock reading keeps everything, as coverage does not depend on it. -/
theorem Settled.tick {s : System n} {instant : ℚ} (h : Settled env s)
    (hc : SteadyClock env s (.tick instant)) : Settled env {s with now := instant} where
  past := fun c hm => (h.past c hm).trans hc.1
  covered := fun c hm hl => h.covered c hm (hc.1.trans hl)
  begun := fun j begin hb => ⟨(h.begun j begin hb).1.trans hc.1,fun hj => hc.2 j hj begin hb⟩
  fresh := h.fresh
  late := h.late

/-- A return that is logged during a move is that of the moving request. -/
theorem mem_returned_apply {s : System n} {i : Fin n} {m : Move} {c : Return n}
    (h : c∈(s.apply i m).returned) : c∈s.returned ∨ (m.effect=.returned ∧ c=⟨i,s.now⟩) := by
  by_cases he : m.effect=.returned
  · have hr : (s.apply i m).returned=s.returned++[⟨i,s.now⟩] := if_pos he
    rw [hr] at h
    obtain h | h := List.mem_append.mp h
    · exact .inl h
    · exact .inr ⟨he,List.mem_singleton.mp h⟩
  · have hr : (s.apply i m).returned=s.returned := if_neg he
    rw [hr] at h
    exact .inl h

/-- A call that is logged during a move is that of the moving request. -/
theorem mem_started_apply {s : System n} {i j : Fin n} {m : Move}
    (h : j∈(s.apply i m).started) : j∈s.started ∨ (m.effect=.began ∧ j=i) := by
  by_cases he : m.effect=.began
  · have hr : (s.apply i m).started=s.started++[i] := if_pos he
    rw [hr] at h
    obtain h | h := List.mem_append.mp h
    · exact .inl h
    · exact .inr ⟨he,List.mem_singleton.mp h⟩
  · rw [apply_started s i he] at h
    exact .inl h

/-- The start of the moving request is set by its `lookup` only. -/
theorem apply_start_self (s : System n) (i : Fin n) (m : Move) :
    ((s.apply i m).attempt i).start=
      if m.effect=.looked then some ⟨s.now,s.returned⟩ else (s.attempt i).start := by
  rw [apply_attempt_self]

/-- A logged return is covered after a move. -/
theorem Settled.covered_move {s : System n} {i : Fin n} {o : Outcome} {m : Move}
    (h : Settled env s) (hown : Owned env s) (ho : NoOwnResult env s (.act i o))
    (hr : ReturnsAreStored s (.act i o))
    (hm : MoveCase env i s.now s.slot (s.attempt i).phase o m) {c : Return n}
    (hc : c∈(s.apply i m).returned) (hl : s.now ≤ c.instant+env.config.resultTtl) :
    Covered (s.apply i m) (c.instant+env.config.resultTtl) := by
  obtain hc | ⟨he,rfl⟩ := mem_returned_apply hc
  · have hw := add_le_add_left (h.past c hc) env.config.resultTtl
    exact (h.covered c hc hl).move hown hl hw ho hr hm
  · refine .inl ⟨i,?_⟩
    rw [apply_phase_self]
    generalize (s.attempt i).phase=p at hm
    cases hm with
    | returned => rfl
    | _ => cases he

/-- A request that moves on without a `lookup` and waits afterwards was
claiming before. -/
theorem MoveCase.waiting_after {i : Fin n} {now : ℚ} {slot : Slot (Raw Body) ℚ} {p : Phase}
    {o : Outcome} {m : Move} (h : MoveCase env i now slot p o m) (he : m.effect≠.looked)
    (hw : m.phase.waiting=true) : p.isClaiming=true ∧ m.phase.isClaiming=true := by
  cases h with
  | quiet _ _ claims _ _ => exact claims hw
  | looked _ => exact absurd rfl he
  | installed _ entered =>
    obtain rfl | ⟨reply,rfl⟩ := entered
    · cases hw
    · cases hw
  | _ => cases hw

/-- A claiming request is waiting. -/
theorem Phase.waiting_of_isClaiming {p : Phase} (h : p.isClaiming=true) : p.waiting=true := by
  cases p with
  | claiming command => rfl
  | _ => cases h

/-- After its `lookup` a request is claiming or has answered. -/
theorem MoveCase.looked_after {i : Fin n} {now : ℚ} {slot : Slot (Raw Body) ℚ} {p : Phase}
    {o : Outcome} {m : Move} (h : MoveCase env i now slot p o m) (he : m.effect=.looked) :
    p=.arrived ∧ (m.phase=.claiming .setNx ∧ lookupRecord now slot=none ∨
      ∃ reply,m.phase=.finished reply) := by
  cases h with
  | looked missed => exact ⟨rfl,missed⟩
  | _ => cases he

/-- A request outside its section stays outside while the key is taken. -/
theorem outside_after {s : System n} {i : Fin n} {o : Outcome} {m : Move}
    (hm : MoveCase env i s.now s.slot (s.attempt i).phase o m)
    (ho : NoOwnResult env s (.act i o)) (hout : (s.attempt i).phase.inSection=false)
    (hbusy : (s.attempt i).phase.isClaiming=true→sweep s.now s.slot≠none) :
    m.phase.inSection=false ∧ m.effect≠.began := by
  generalize hp : (s.attempt i).phase=p at hm hout hbusy
  cases hm with
  | quiet _ inside _ _ _ =>
    refine ⟨?_,by simp⟩
    by_contra hin
    rw [inside (Bool.not_eq_false _ ▸ hin)] at hout
    cases hout
  | looked missed =>
    refine ⟨?_,by simp⟩
    obtain ⟨rfl,_⟩ | ⟨reply,rfl⟩ := missed
    · rfl
    · rfl
  | installed free _ => exact absurd free (hbusy rfl)
  | entered inspecting found own => exact (not_entered ho hp inspecting found own).elim
  | began => cases hout
  | returned => cases hout
  | stored => cases hout
  | removed inside _ _ =>
    rw [hout] at inside
    cases inside

/-- The start of every attempt stays in the past after a move. -/
theorem Settled.begun_move {s : System n} {i : Fin n} {o : Outcome} {m : Move}
    (h : Settled env s) (hm : MoveCase env i s.now s.slot (s.attempt i).phase o m)
    (j : Fin n) (begin : Start n) (hb : ((s.apply i m).attempt j).start=some begin) :
    begin.instant ≤ s.now ∧ (((s.apply i m).attempt j).phase.isClaiming=true→
      s.now≤begin.instant+env.config.resultTtl) := by
  by_cases hji : j=i
  · subst hji
    rw [apply_start_self] at hb
    rw [apply_phase_self]
    by_cases he : m.effect=.looked
    · rw [if_pos he] at hb
      cases hb
      exact ⟨le_rfl,fun _ => le_add_of_nonneg_right env.config.resultTtl_pos.le⟩
    · rw [if_neg he] at hb
      have hold := h.begun j begin hb
      refine ⟨hold.1,fun hc => hold.2 ?_⟩
      exact (hm.waiting_after he (Phase.waiting_of_isClaiming hc)).1
  · rw [apply_attempt_other s m hji] at hb ⊢
    exact h.begun j begin hb

/-- No attempt before its `lookup` has executed after a move. -/
theorem Settled.fresh_move {s : System n} {i : Fin n} {o : Outcome} {m : Move}
    (h : Settled env s) (hm : MoveCase env i s.now s.slot (s.attempt i).phase o m)
    (j : Fin n) (hj : ((s.apply i m).attempt j).phase=.arrived) : j∉(s.apply i m).started := by
  by_cases hji : j=i
  · subst hji
    rw [apply_phase_self] at hj
    by_cases he : m.effect=.looked
    · obtain ⟨_,⟨hp,_⟩ | ⟨reply,hp⟩⟩ := hm.looked_after he
      · rw [hp] at hj
        cases hj
      · rw [hp] at hj
        cases hj
    · have hw : m.phase.waiting=true := by
        rw [hj]
        rfl
      have hc := (hm.waiting_after he hw).2
      rw [hj] at hc
      cases hc
  · rw [apply_attempt_other s m hji] at hj
    intro hs
    obtain hs | ⟨_,hs⟩ := mem_started_apply hs
    · exact h.fresh j hj hs
    · exact hji hs

/-- The `lookup` of a late attempt: it does not get to claim unless an
executed attempt still holds the key. -/
theorem Settled.late_looked {s : System n} {i : Fin n} {o : Outcome} {m : Move}
    (h : Settled env s) (hm : MoveCase env i s.now s.slot (s.attempt i).phase o m)
    (he : m.effect=.looked) (hlate : Late env ⟨s.now,s.returned⟩) :
    i∉(s.apply i m).started ∧ m.phase.inSection=false ∧ m.phase≠.arrived ∧
      (m.phase.isClaiming=true→ Covered (s.apply i m) (s.now+env.config.resultTtl)) := by
  obtain ⟨hp,hafter⟩ := hm.looked_after he
  have hstarted : i∉(s.apply i m).started := by
    rw [apply_started s i (by simp [he])]
    exact h.fresh i hp
  obtain ⟨hph,hmiss⟩ | ⟨reply,hph⟩ := hafter
  · refine ⟨hstarted,by rw [hph]; rfl,by simp [hph],fun _ => ?_⟩
    obtain ⟨c,hc,hl⟩ := hlate
    obtain ⟨k,hk⟩ := (h.covered c hc hl).of_missed hl hmiss
    refine covered_of_other hk ?_
    rintro rfl
    rw [hp] at hk
    cases hk
  · refine ⟨hstarted,by rw [hph]; rfl,by simp [hph],fun hc => ?_⟩
    rw [hph] at hc
    cases hc

/-- A late attempt stays outside its section after any move. -/
theorem Settled.late_move {s : System n} {i : Fin n} {o : Outcome} {m : Move}
    (h : Settled env s) (hown : Owned env s) (ho : NoOwnResult env s (.act i o))
    (hr : ReturnsAreStored s (.act i o))
    (hm : MoveCase env i s.now s.slot (s.attempt i).phase o m) (j : Fin n) (begin : Start n)
    (hb : ((s.apply i m).attempt j).start=some begin) (hlate : Late env begin) :
    j∉(s.apply i m).started ∧ ((s.apply i m).attempt j).phase.inSection=false ∧
      ((s.apply i m).attempt j).phase≠.arrived ∧
      (((s.apply i m).attempt j).phase.isClaiming=true→
        Covered (s.apply i m) (begin.instant+env.config.resultTtl)) := by
  have hcover : ∀ b,(s.attempt j).start=some b→Late env b→
      (s.attempt j).phase.isClaiming=true→
        Covered (s.apply i m) (b.instant+env.config.resultTtl) := by
    intro b hs hl hc
    have hbegun := h.begun j b hs
    have hwindow := add_le_add_left hbegun.1 env.config.resultTtl
    exact ((h.late j b hs hl).2.2.2 hc).move hown (hbegun.2 hc) hwindow ho hr hm
  by_cases hji : j=i
  · subst hji
    rw [apply_start_self] at hb
    rw [apply_phase_self]
    by_cases he : m.effect=.looked
    · rw [if_pos he] at hb
      cases hb
      exact h.late_looked hm he hlate
    · rw [if_neg he] at hb
      obtain ⟨hns,hout,_,hcov⟩ := h.late j begin hb hlate
      have hbusy : (s.attempt j).phase.isClaiming=true→sweep s.now s.slot≠none :=
        fun hc => (hcov hc).busy hown ((h.begun j begin hb).2 hc)
      obtain ⟨hout',hnb⟩ := outside_after hm ho hout hbusy
      refine ⟨?_,hout',?_,fun hc => ?_⟩
      · rw [apply_started s j hnb]
        exact hns
      · intro harr
        have hc := (hm.waiting_after he (by rw [harr]; rfl)).2
        rw [harr] at hc
        cases hc
      · exact hcover begin hb hlate (hm.waiting_after he (Phase.waiting_of_isClaiming hc)).1
  · rw [apply_attempt_other s m hji] at hb ⊢
    obtain ⟨hns,hout,harr,_⟩ := h.late j begin hb hlate
    refine ⟨?_,hout,harr,hcover begin hb hlate⟩
    intro hs
    obtain hs | ⟨_,hs⟩ := mem_started_apply hs
    · exact hns hs
    · exact hji hs

/-- The retry invariant survives every safe step. -/
theorem Settled.step {s s' : System n} {e : Event n} (h : Settled env s) (hown : Owned env s)
    (hsafe : RetrySafe env s e) (hs : CreateOrder.step env s e=some s') : Settled env s' := by
  obtain ⟨⟨_,ho⟩,hr,hc⟩ := hsafe
  obtain ⟨instant,rfl,rfl⟩ | ⟨i,o,m,rfl,hm,rfl⟩ := step_cases hs
  · exact h.tick hc
  · refine ⟨?_,?_,h.begun_move hm,h.fresh_move hm,h.late_move hown ho hr hm⟩
    · intro c hmem
      obtain hmem | ⟨_,rfl⟩ := mem_returned_apply hmem
      · exact h.past c hmem
      · exact le_rfl
    · intro c hmem hl
      exact h.covered_move hown ho hr hm hmem hl

/-- No attempt that started after a return of `execute_order`, and within the
result lifetime of that return, has called `execute_order`. -/
def NoSecondExecution (env : Setting n) (s : System n) : Prop :=
  ∀ j,∀ begin∈(s.attempt j).start,∀ c∈begin.earlier,
    begin.instant ≤ c.instant+env.config.resultTtl→j∉s.started

instance (env : Setting n) : DecidablePred (NoSecondExecution env) := fun s =>
  inferInstanceAs (Decidable (∀ j,∀ begin∈(s.attempt j).start,∀ c∈begin.earlier,
    begin.instant ≤ c.instant+env.config.resultTtl→j∉s.started))

/-- In every safe run, whatever else fails, a retry after a successful
execution does not execute again. -/
theorem safe_retry_does_not_execute (env : Setting n) {s : System n}
    (h : Reaches (step env) (RetrySafe env) (initial n) s) : NoSecondExecution env s := by
  have hsettled : Settled env s := by
    refine h.invariant (settled_initial env) ?_
    intro s e s' hr hs hsafe hstep
    have hown := owned_of_reaches (fun _ _ ha => ha.1) hr
    exact hs.step hown hsafe hstep
  intro j begin hb c hc hl
  exact (hsettled.late j begin hb ⟨c,hc,hl⟩).1

/-- The first attempt fails before its execution, the second executes, and
the third retries before and the fourth after the result is stored. -/
def retriedRun : List (Event 4) :=
  [.act 0 .ok,.act 0 .ok,.act 0 .fails,.act 0 .ok,.act 0 .ok,.tick 1,.act 1 .ok,.act 1 .ok,
    .act 1 .ok,.act 1 .ok,.tick 5,.act 1 (.returns filledResult),.act 2 .ok,.act 1 .ok,.act 2 .ok,
    .act 2 .ok,.act 1 .ok,.act 1 .lost,.tick 86000,.act 3 .ok]

/-- The conclusion on a run with two retries after the execution. -/
theorem safe_retry_does_not_execute_retried :
    ∃ s,play (step (repeatedOrder 4 .redis)) (RetrySafe (repeatedOrder 4 .redis)) (initial 4)
        retriedRun=some s ∧ (s.returned=[⟨1,5⟩] ∧ (s.attempt 3).start=some ⟨86000,[⟨1,5⟩]⟩) ∧
      NoSecondExecution (repeatedOrder 4 .redis) s := by
  obtain ⟨s,hp,hq,hr⟩ := play_ends (step (repeatedOrder 4 .redis))
    (RetrySafe (repeatedOrder 4 .redis)) (initial 4)
    (fun s => s.returned=[⟨1,5⟩] ∧ (s.attempt 3).start=some ⟨86000,[⟨1,5⟩]⟩) retriedRun
    (by decide +kernel)
  exact ⟨s,hp,hq,safe_retry_does_not_execute _ hr⟩

/-- A failed audit of the result releases the claim of an executed order, and
the retry executes it again. -/
theorem retry_executes_after_failed_audit :
    ¬∀ s,Reaches (step (repeatedOrder 2 .redis))
        (fun s e => Disciplined (repeatedOrder 2 .redis) s e ∧
          SteadyClock (repeatedOrder 2 .redis) s e) (initial 2) s→
      NoSecondExecution (repeatedOrder 2 .redis) s :=
  not_forall_reaches
    [.act 0 .ok,.act 0 .ok,.act 0 .ok,.act 0 .ok,.tick 5,.act 0 (.returns filledResult),
      .act 0 .fails,.act 0 .ok,.act 0 .ok,.act 1 .ok,.act 1 .ok,.act 1 .ok,.act 1 .ok]
    (by decide +kernel)

end Aqts.CreateOrder
