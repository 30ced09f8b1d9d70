import Aqts.OosJobs

/-!
# The engine is started once

As long as no run with some parameters has failed, every start of the engine for
them is either under way or registered, so that the next request with them finds
it. This holds when a check that starts the engine finds none under way, and
when the hash tells the parameters of the requests apart.
-/

namespace Aqts.OosJobs

open GuardedRuns

variable {I R H : Type*}

/-- What is known of the parameters and the ids in the state. -/
structure Known (digest : Params→H) (s : Manager I R H) : Prop where
  /-- The parameters of a request have come with it. -/
  params : ∀ i,∀ p∈(s.place i).params?,p∈s.arrived
  /-- A run under way has been started. -/
  runs : ∀ i,∀ run∈(s.place i).underWay,run∈s.starts
  /-- A request is answered with the id of a run with its parameters. -/
  answers : ∀ i q runId,s.place i=.answered q runId→
    ∃ start∈s.starts,start.1.identity=q.identity ∧ start.2=runId
  /-- The parameters of a run have come with a request. -/
  starts : ∀ start∈s.starts,start.1∈s.arrived
  /-- The hash tells the parameters apart. -/
  tells : ∀ p∈s.arrived,∀ q∈s.arrived,
    computeParamHash digest p=computeParamHash digest q↔p.identity=q.identity
  /-- The index has ids of runs under the hashes of their parameters. -/
  index : ∀ hash runId,s.paramIndex hash=some runId→
    ∃ start∈s.starts,start.2=runId ∧ computeParamHash digest start.1=hash
  /-- No id was drawn twice. -/
  ids : (s.starts.map Prod.snd).Nodup

/-- What is known of the runs whose parameters have not failed. -/
structure Once (digest : Params→H) (s : Manager I R H) : Prop where
  /-- One start at most. -/
  once : ∀ p,NoFailure s p→
    s.starts.countP (fun start => decide (start.1.identity=p.identity))≤1
  /-- A started run is under way or registered. -/
  registered : ∀ start∈s.starts,NoFailure s start.1→(∃ i,(s.place i).underWay=some start) ∨
    s.paramIndex (computeParamHash digest start.1)=some start.2 ∧
      ∃ status∈s.runs start.2,status.reusable=true
  /-- A result that is stored has been counted. -/
  storing : ∀ i p runId result,s.place i=.storing p runId result→ result.failed=true→
    ¬NoFailure s p
  /-- A run that is stored can be found by its id. -/
  indexing : ∀ i p runId,s.place i=.indexing p runId→NoFailure s p→
    ∃ status∈s.runs runId,status.reusable=true

section Facts

variable {digest : Params→H} {s t : Manager I R H}

/-- Two starts with one id are one. -/
theorem Known.same_of_id (h : Known digest s) {start other : Params×R} (hstart : start∈s.starts)
    (hother : other∈s.starts) (hid : start.2=other.2) : start=other :=
  List.inj_on_of_nodup_map h.ids hstart hother hid

/-- Two starts with the same parameters are one, as long as none has failed. -/
theorem Once.same (h : Once digest s) {p : Params} (hnone : NoFailure s p)
    {start other : Params×R} (hstart : start∈s.starts) (hother : other∈s.starts)
    (hp : start.1.identity=p.identity) (hq : other.1.identity=p.identity) : start=other := by
  have hcount := h.once p hnone
  rw [List.countP_eq_length_filter] at hcount
  have hmem : ∀ run∈s.starts,run.1.identity=p.identity→
      run∈s.starts.filter fun start => decide (start.1.identity=p.identity) :=
    fun run hrun hsame => List.mem_filter.mpr ⟨hrun,decide_eq_true hsame⟩
  have hfirst := hmem start hstart hp
  have hsecond := hmem other hother hq
  generalize s.starts.filter (fun start => decide (start.1.identity=p.identity))=kept
    at hcount hfirst hsecond
  match kept,hcount,hfirst,hsecond with
  | [],_,hfirst,_ => cases hfirst
  | [run],_,hfirst,hsecond =>
    exact (List.mem_singleton.mp hfirst).trans (List.mem_singleton.mp hsecond).symm
  | _::_::_,hcount,_,_ => exact absurd hcount (by rw [List.length_cons,List.length_cons]; omega)

/-- No more parameters have failed before than after. -/
theorem NoFailure.before {p : Params} (h : NoFailure t p)
    (hfailures : ∀ q∈s.failures,q∈t.failures) : NoFailure s p :=
  fun q hq => h q (hfailures q hq)

/-- Only the same parameters matter for the absence of a failure. -/
theorem NoFailure.congr {p q : Params} (h : NoFailure s p) (hsame : p.identity=q.identity) :
    NoFailure s q := by
  intro other hother
  rw [← hsame]
  exact h other hother

/-- A result that did not fail can be found. -/
theorem reusable_of_not_failed {result : EngineResult} (h : ¬result.failed=true) :
    result.status.reusable=true := by
  cases result with
  | pass => rfl
  | review => rfl
  | fail => exact absurd rfl h
  | error => exact absurd rfl h

/-- A run that is found was started with the same parameters. -/
theorem Known.found (h : Known digest s) {p : Params} {runId : R}
    (htells : ∀ q∈s.arrived,
      computeParamHash digest q=computeParamHash digest p↔q.identity=p.identity)
    (hfind : findExistingRun digest s p=some runId) :
    ∃ start∈s.starts,start.1.identity=p.identity ∧ start.2=runId := by
  unfold findExistingRun at hfind
  cases hindex : s.paramIndex (computeParamHash digest p) with
  | none =>
    rw [hindex] at hfind
    cases hfind
  | some indexed =>
    rw [hindex] at hfind
    dsimp only at hfind
    obtain ⟨start,hstart,hid,hhash⟩ := h.index _ _ hindex
    have hidentity : start.1.identity=p.identity := (htells start.1 (h.starts start hstart)).mp hhash
    cases hrun : s.runs indexed with
    | none =>
      rw [hrun] at hfind
      cases hfind
    | some status =>
      rw [hrun] at hfind
      dsimp only at hfind
      by_cases hreusable : status.reusable=true
      · rw [if_pos hreusable] at hfind
        exact ⟨start,hstart,hidentity,hid.trans (Option.some.inj hfind)⟩
      · rw [if_neg hreusable] at hfind
        cases hfind

/-- A registered run is found by the next request with its parameters. -/
theorem findExistingRun_registered {p : Params} {start : Params×R}
    (hhash : computeParamHash digest start.1=computeParamHash digest p)
    (hindex : s.paramIndex (computeParamHash digest start.1)=some start.2)
    (hrun : ∃ status∈s.runs start.2,status.reusable=true) :
    findExistingRun digest s p=some start.2 := by
  obtain ⟨status,hstatus,hreusable⟩ := hrun
  unfold findExistingRun
  rw [← hhash,hindex]
  dsimp only
  rw [hstatus]
  exact if_pos hreusable

/-- A check that finds neither a registered run nor one under way starts the first
with its parameters, as long as none has failed. -/
theorem Once.first (h : Once digest s) (hknown : Known digest s) {p : Params} (hp : p∈s.arrived)
    (hfind : findExistingRun digest s p=none) (hnone : NoneUnderWay s p) (hgood : NoFailure s p) :
    s.starts.countP (fun start => decide (start.1.identity=p.identity))=0 := by
  rw [List.countP_eq_zero]
  intro start hstart hsame
  have hidentity : start.1.identity=p.identity := of_decide_eq_true hsame
  obtain ⟨i,hway⟩ | ⟨hindex,hrun⟩ := h.registered start hstart (hgood.congr hidentity.symm)
  · exact hnone hgood i start hway hidentity
  · have hhash := (hknown.tells start.1 (hknown.starts start hstart) p hp).mpr hidentity
    rw [findExistingRun_registered hhash hindex hrun] at hfind
    cases hfind

end Facts

variable [DecidableEq I] {digest : Params→H} {s s' t : Manager I R H}

/-- The places after a move: what is known of the new place is all that is new. -/
theorem Known.places (h : Known digest s) (i : I) (place : Place R)
    (hplace : t.place=Function.update s.place i place)
    (harrived : ∀ p∈s.arrived,p∈t.arrived) (hstarts : ∀ start∈s.starts,start∈t.starts)
    (hparams : ∀ p∈place.params?,p∈t.arrived) (hruns : ∀ run∈place.underWay,run∈t.starts)
    (hanswer : ∀ q runId,place=.answered q runId→
      ∃ start∈t.starts,start.1.identity=q.identity ∧ start.2=runId) :
    (∀ j,∀ p∈(t.place j).params?,p∈t.arrived) ∧ (∀ j,∀ run∈(t.place j).underWay,run∈t.starts) ∧
      ∀ j q runId,t.place j=.answered q runId→
        ∃ start∈t.starts,start.1.identity=q.identity ∧ start.2=runId := by
  rw [hplace]
  refine ⟨?_,?_,?_⟩
  · intro j p hp
    by_cases hj : j=i
    · rw [hj,Function.update_self] at hp
      exact hparams p hp
    · rw [Function.update_of_ne hj] at hp
      exact harrived p (h.params j p hp)
  · intro j run hrun
    by_cases hj : j=i
    · rw [hj,Function.update_self] at hrun
      exact hruns run hrun
    · rw [Function.update_of_ne hj] at hrun
      exact hstarts run (h.runs j run hrun)
  · intro j q runId hj'
    by_cases hj : j=i
    · rw [hj,Function.update_self] at hj'
      exact hanswer q runId hj'
    · rw [Function.update_of_ne hj] at hj'
      obtain ⟨start,hstart,hsame⟩ := h.answers j q runId hj'
      exact ⟨start,hstarts start hstart,hsame⟩

/-- A move that changes a place and nothing of the parameters, the starts and the
index. -/
theorem Known.moved (h : Known digest s) {i : I} {place : Place R}
    (hplace : t.place=Function.update s.place i place) (harrived : t.arrived=s.arrived)
    (hstarts : t.starts=s.starts) (hindex : t.paramIndex=s.paramIndex)
    (hparams : ∀ p∈place.params?,p∈s.arrived) (hruns : ∀ run∈place.underWay,run∈s.starts)
    (hanswer : ∀ q runId,place=.answered q runId→
      ∃ start∈s.starts,start.1.identity=q.identity ∧ start.2=runId) : Known digest t := by
  have hplaces := h.places i place hplace (fun p hp => harrived ▸ hp)
    (fun start hstart => hstarts ▸ hstart)
    (fun p hp => harrived ▸ hparams p hp) (fun run hrun => hstarts ▸ hruns run hrun)
    (fun q runId hq => hstarts ▸ hanswer q runId hq)
  refine ⟨hplaces.1,hplaces.2.1,hplaces.2.2,?_,?_,?_,?_⟩
  · rw [hstarts,harrived]
    exact h.starts
  · rw [harrived]
    exact h.tells
  · rw [hindex,hstarts]
    exact h.index
  · rw [hstarts]
    exact h.ids

/-- A request that comes is told apart from those before. -/
theorem Known.arrived (h : Known digest s) {i : I} {p : Params} {place : Place R}
    (htells : HashTells digest s p) (hparams : place.params?=some p) (hruns : place.underWay=none)
    (hanswer : ∀ q runId,place=.answered q runId→
      ∃ start∈s.starts,start.1.identity=q.identity ∧ start.2=runId) :
    Known digest {s.move i place with arrived := p::s.arrived} := by
  have hplaces := h.places i place (t := {s.move i place with arrived := p::s.arrived}) rfl
    (fun q hq => List.mem_cons_of_mem p hq) (fun start hstart => hstart)
    (by
      intro q hq
      rw [hparams] at hq
      obtain rfl := Option.some.inj hq
      exact List.mem_cons_self)
    (by
      intro run hrun
      rw [hruns] at hrun
      cases hrun)
    hanswer
  refine ⟨hplaces.1,hplaces.2.1,hplaces.2.2,?_,?_,h.index,h.ids⟩
  · intro start hstart
    exact List.mem_cons_of_mem p (h.starts start hstart)
  · intro a ha b hb
    obtain rfl | hbefore := List.mem_cons.mp ha
    · obtain rfl | hother := List.mem_cons.mp hb
      · exact iff_of_true rfl rfl
      · rw [eq_comm,htells b hother,eq_comm]
    · obtain rfl | hother := List.mem_cons.mp hb
      · exact htells a hbefore
      · exact h.tells a hbefore b hother

/-- A request moves between places outside the engine. -/
theorem Once.outside (h : Once digest s) {i : I} {place : Place R}
    (hbefore : (s.place i).underWay=none) (hafter : place.underWay=none)
    (hplace : t.place=Function.update s.place i place) (hruns : t.runs=s.runs)
    (hindex : t.paramIndex=s.paramIndex) (hstarts : t.starts=s.starts)
    (hfailures : t.failures=s.failures) : Once digest t := by
  have hgood : ∀ p,NoFailure t p→NoFailure s p := by
    intro p hp
    exact hp.before fun q hq => hfailures ▸ hq
  have hother : ∀ j,j≠i→t.place j=s.place j := by
    intro j hj
    rw [hplace,Function.update_of_ne hj]
  have hself : t.place i=place := by rw [hplace,Function.update_self]
  refine ⟨?_,?_,?_,?_⟩
  · intro p hp
    rw [hstarts]
    exact h.once p (hgood p hp)
  · intro start hstart hp
    rw [hstarts] at hstart
    rw [hindex,hruns]
    refine (h.registered start hstart (hgood _ hp)).imp_left ?_
    rintro ⟨j,hj⟩
    refine ⟨j,?_⟩
    have hji : j≠i := by
      intro heq
      rw [heq,hbefore] at hj
      cases hj
    rw [hother j hji]
    exact hj
  · intro j p runId result hj hfailed hp
    by_cases hji : j=i
    · rw [hji,hself] at hj
      rw [hj] at hafter
      cases hafter
    · rw [hother j hji] at hj
      exact h.storing j p runId result hj hfailed (hgood p hp)
  · intro j p runId hj hp
    by_cases hji : j=i
    · rw [hji,hself] at hj
      rw [hj] at hafter
      cases hafter
    · rw [hother j hji] at hj
      rw [hruns]
      exact h.indexing j p runId hj (hgood p hp)

/-- A check starts the engine. -/
theorem Once.started (h : Once digest s) (hknown : Known digest s) {i : I} {p : Params} {runId : R}
    (hplace : s.place i=.queued p) (hfind : findExistingRun digest s p=none)
    (hnone : NoneUnderWay s p) :
    Once digest {s.move i (.running p runId) with starts := (p,runId)::s.starts} := by
  have hp : p∈s.arrived := hknown.params i p (by rw [hplace]; rfl)
  have hother : ∀ j,j≠i→(s.move i (.running p runId)).place j=s.place j :=
    fun j hj => Function.update_of_ne hj _ _
  have hself : (s.move i (.running p runId)).place i=.running p runId := Function.update_self _ _ _
  refine ⟨?_,?_,?_,?_⟩
  · intro q hq
    have hgood : NoFailure s q := hq
    dsimp only
    rw [List.countP_cons]
    by_cases hsame : p.identity=q.identity
    · have hfirst := h.first hknown hp hfind hnone (hgood.congr hsame.symm)
      rw [hsame] at hfirst
      rw [hfirst,if_pos (decide_eq_true hsame)]
    · rw [if_neg (by exact fun heq => hsame (of_decide_eq_true heq))]
      exact h.once q hgood
  · intro start hstart hgood
    obtain rfl | hbefore := List.mem_cons.mp hstart
    · exact .inl ⟨i,congrArg Place.underWay hself⟩
    · refine (h.registered start hbefore hgood).imp_left ?_
      rintro ⟨j,hj⟩
      refine ⟨j,?_⟩
      have hji : j≠i := by
        intro heq
        rw [heq,hplace] at hj
        cases hj
      exact (congrArg Place.underWay (hother j hji)).trans hj
  · intro j q other result hj
    by_cases hji : j=i
    · subst hji
      exact absurd (hself.symm.trans hj) nofun
    · exact h.storing j q other result ((hother j hji).symm.trans hj)
  · intro j q other hj
    by_cases hji : j=i
    · subst hji
      exact absurd (hself.symm.trans hj) nofun
    · exact h.indexing j q other ((hother j hji).symm.trans hj)

/-- The engine returns. -/
theorem Once.finished (h : Once digest s) {i : I} {p : Params} {runId : R} {result : EngineResult}
    (hplace : s.place i=.running p runId) :
    Once digest ((s.move i (.storing p runId result)).ended p result.failed) := by
  have hgood : ∀ q,NoFailure ((s.move i (.storing p runId result)).ended p result.failed) q→
      NoFailure s q := by
    intro q hq
    refine hq.before fun other hmem => ?_
    unfold Manager.ended
    dsimp only
    split
    · exact List.mem_cons_of_mem _ hmem
    · exact hmem
  have hother : ∀ j,j≠i→(s.move i (.storing p runId result)).place j=s.place j :=
    fun j hj => Function.update_of_ne hj _ _
  have hself : (s.move i (.storing p runId result)).place i=.storing p runId result :=
    Function.update_self _ _ _
  refine ⟨fun q hq => h.once q (hgood q hq),?_,?_,?_⟩
  · intro start hstart hq
    refine (h.registered start hstart (hgood _ hq)).imp_left ?_
    rintro ⟨j,hj⟩
    refine ⟨j,?_⟩
    by_cases hji : j=i
    · subst hji
      rw [hplace] at hj
      exact (congrArg Place.underWay hself).trans hj
    · exact (congrArg Place.underWay (hother j hji)).trans hj
  · intro j q other found hj hfailed hq
    by_cases hji : j=i
    · subst hji
      have hsame : Place.storing p runId result=.storing q other found := hself.symm.trans hj
      cases hsame
      refine hq p ?_ rfl
      unfold Manager.ended
      dsimp only
      rw [if_pos hfailed]
      exact List.mem_cons_self
    · exact h.storing j q other found ((hother j hji).symm.trans hj) hfailed (hgood q hq)
  · intro j q other hj hq
    by_cases hji : j=i
    · subst hji
      exact absurd (hself.symm.trans hj) nofun
    · exact h.indexing j q other ((hother j hji).symm.trans hj) (hgood q hq)

/-- The engine raises. -/
theorem Once.raised (h : Once digest s) {i : I} {p : Params} {runId : R}
    (hplace : s.place i=.running p runId) : Once digest ((s.move i (.refused p)).ended p true) := by
  have hgood : ∀ q,NoFailure ((s.move i (.refused p)).ended p true) q→NoFailure s q :=
    fun q hq => hq.before fun other hmem => List.mem_cons_of_mem _ hmem
  have hother : ∀ j,j≠i→(s.move i (.refused p)).place j=s.place j :=
    fun j hj => Function.update_of_ne hj _ _
  have hself : (s.move i (.refused p)).place i=.refused p := Function.update_self _ _ _
  refine ⟨fun q hq => h.once q (hgood q hq),?_,?_,?_⟩
  · intro start hstart hq
    refine (h.registered start hstart (hgood _ hq)).imp_left ?_
    rintro ⟨j,hj⟩
    refine ⟨j,?_⟩
    by_cases hji : j=i
    · subst hji
      rw [hplace] at hj
      obtain rfl := Option.some.inj hj
      exact absurd rfl (hq p List.mem_cons_self)
    · exact (congrArg Place.underWay (hother j hji)).trans hj
  · intro j q other result hj hfailed hq
    by_cases hji : j=i
    · subst hji
      exact absurd (hself.symm.trans hj) nofun
    · exact h.storing j q other result ((hother j hji).symm.trans hj) hfailed (hgood q hq)
  · intro j q other hj hq
    by_cases hji : j=i
    · subst hji
      exact absurd (hself.symm.trans hj) nofun
    · exact h.indexing j q other ((hother j hji).symm.trans hj) (hgood q hq)

/-- A run is stored under its id. -/
theorem Once.stored [DecidableEq R] (h : Once digest s) (hknown : Known digest s) {i : I}
    {p : Params} {runId : R}
    {result : EngineResult} (hplace : s.place i=.storing p runId result) :
    Once digest {s.move i (.indexing p runId) with
      runs := Function.update s.runs runId (some result.status)} := by
  have hrun : (p,runId)∈s.starts := hknown.runs i _ (by rw [hplace]; rfl)
  have hother : ∀ j,j≠i→(s.move i (.indexing p runId)).place j=s.place j :=
    fun j hj => Function.update_of_ne hj _ _
  have hself : (s.move i (.indexing p runId)).place i=.indexing p runId := Function.update_self _ _ _
  -- what is found under an id, where the run has not failed
  have hfound : ∀ start∈s.starts,NoFailure s start.1→
      (start.2≠runId→∃ status∈s.runs start.2,status.reusable=true)→
        ∃ status∈Function.update s.runs runId (some result.status) start.2,
          status.reusable=true := by
    intro start hstart hgood hbefore
    by_cases hid : start.2=runId
    · have hsame : start=(p,runId) := hknown.same_of_id hstart hrun hid
      subst hsame
      refine ⟨result.status,Function.update_self _ _ _,reusable_of_not_failed ?_⟩
      exact fun hfailed => h.storing i p runId result hplace hfailed hgood
    · rw [Function.update_of_ne hid]
      exact hbefore hid
  refine ⟨h.once,?_,?_,?_⟩
  · intro start hstart hgood
    obtain ⟨j,hj⟩ | ⟨hindex,hstatus⟩ := h.registered start hstart hgood
    · refine .inl ⟨j,?_⟩
      by_cases hji : j=i
      · subst hji
        rw [hplace] at hj
        exact (congrArg Place.underWay hself).trans hj
      · exact (congrArg Place.underWay (hother j hji)).trans hj
    · exact .inr ⟨hindex,hfound start hstart hgood fun _ => hstatus⟩
  · intro j q other found hj
    by_cases hji : j=i
    · subst hji
      exact absurd (hself.symm.trans hj) nofun
    · exact h.storing j q other found ((hother j hji).symm.trans hj)
  · intro j q other hj hgood
    by_cases hji : j=i
    · subst hji
      have hsame : Place.indexing p runId=.indexing q other := hself.symm.trans hj
      cases hsame
      exact hfound (p,runId) hrun hgood fun hne => absurd rfl hne
    · have hbefore : s.place j=.indexing q other := (hother j hji).symm.trans hj
      have hmem : (q,other)∈s.starts := hknown.runs j _ (by rw [hbefore]; rfl)
      exact hfound (q,other) hmem hgood fun _ => h.indexing j q other hbefore hgood

/-- A run is stored under the hash of its parameters. -/
theorem Once.indexed [DecidableEq H] (h : Once digest s) (hknown : Known digest s) {i : I}
    {p : Params} {runId : R}
    (hplace : s.place i=.indexing p runId) :
    Once digest {s.move i (.answered p runId) with
      paramIndex := Function.update s.paramIndex (computeParamHash digest p) (some runId)} := by
  have hrun : (p,runId)∈s.starts := hknown.runs i _ (by rw [hplace]; rfl)
  have hp : p∈s.arrived := hknown.starts _ hrun
  have hother : ∀ j,j≠i→(s.move i (.answered p runId)).place j=s.place j :=
    fun j hj => Function.update_of_ne hj _ _
  have hself : (s.move i (.answered p runId)).place i=.answered p runId := Function.update_self _ _ _
  refine ⟨h.once,?_,?_,?_⟩
  · intro start hstart hgood
    by_cases hhash : computeParamHash digest start.1=computeParamHash digest p
    · have hsame : start=(p,runId) := by
        have hidentity := (hknown.tells start.1 (hknown.starts start hstart) p hp).mp hhash
        exact h.same hgood hstart hrun rfl hidentity.symm
      subst hsame
      exact .inr ⟨Function.update_self _ _ _,h.indexing i p runId hplace hgood⟩
    · obtain ⟨j,hj⟩ | ⟨hindex,hstatus⟩ := h.registered start hstart hgood
      · refine .inl ⟨j,?_⟩
        have hji : j≠i := by
          intro heq
          rw [heq,hplace] at hj
          obtain rfl := Option.some.inj hj
          exact hhash rfl
        exact (congrArg Place.underWay (hother j hji)).trans hj
      · exact .inr ⟨(Function.update_of_ne hhash _ _).trans hindex,hstatus⟩
  · intro j q other found hj
    by_cases hji : j=i
    · subst hji
      exact absurd (hself.symm.trans hj) nofun
    · exact h.storing j q other found ((hother j hji).symm.trans hj)
  · intro j q other hj
    by_cases hji : j=i
    · subst hji
      exact absurd (hself.symm.trans hj) nofun
    · exact h.indexing j q other ((hother j hji).symm.trans hj)

variable [DecidableEq R] [DecidableEq H]

/-- Every move keeps what is known of parameters and ids. -/
theorem Known.move (h : Known digest s) (hmove : Move digest s s') : Known digest s' := by
  cases hmove with
  | found i p runId hplace hfind htells =>
    refine h.arrived htells rfl rfl ?_
    intro q other heq
    cases heq
    exact h.found htells hfind
  | queued i p hplace htells => exact h.arrived htells rfl rfl nofun
  | joined i p runId hplace hfind =>
    have hp : p∈s.arrived := h.params i p (by rw [hplace]; rfl)
    refine h.moved (i := i) rfl rfl rfl rfl ?_ nofun ?_
    · intro q hq
      obtain rfl := Option.some.inj hq
      exact hp
    · intro q other heq
      cases heq
      exact h.found (fun q hq => h.tells q hq p hp) hfind
  | started i p runId hplace hfind hnone hnew =>
    have hp : p∈s.arrived := h.params i p (by rw [hplace]; rfl)
    have hplaces := h.places i (.running p runId)
      (t := {s.move i (.running p runId) with starts := (p,runId)::s.starts}) rfl
      (fun q hq => hq) (fun start hstart => List.mem_cons_of_mem _ hstart)
      (fun q hq => Option.some.inj hq ▸ hp)
      (fun run hrun => Option.some.inj hrun ▸ List.mem_cons_self) nofun
    refine ⟨hplaces.1,hplaces.2.1,hplaces.2.2,?_,h.tells,?_,List.nodup_cons.mpr ⟨hnew,h.ids⟩⟩
    · intro start hstart
      obtain rfl | hbefore := List.mem_cons.mp hstart
      · exact hp
      · exact h.starts start hbefore
    · intro hash other hother
      obtain ⟨start,hstart,hrest⟩ := h.index hash other hother
      exact ⟨start,List.mem_cons_of_mem _ hstart,hrest⟩
  | finished i p runId result hplace =>
    have hp : p∈s.arrived := h.params i p (by rw [hplace]; rfl)
    have hrun : (p,runId)∈s.starts := h.runs i _ (by rw [hplace]; rfl)
    exact h.moved (i := i) rfl rfl rfl rfl (fun q hq => Option.some.inj hq ▸ hp)
      (fun run hrun' => Option.some.inj hrun' ▸ hrun) nofun
  | raised i p runId hplace =>
    have hp : p∈s.arrived := h.params i p (by rw [hplace]; rfl)
    exact h.moved (i := i) rfl rfl rfl rfl (fun q hq => Option.some.inj hq ▸ hp) nofun nofun
  | stored i p runId result hplace =>
    have hp : p∈s.arrived := h.params i p (by rw [hplace]; rfl)
    have hrun : (p,runId)∈s.starts := h.runs i _ (by rw [hplace]; rfl)
    exact h.moved (i := i) rfl rfl rfl rfl (fun q hq => Option.some.inj hq ▸ hp)
      (fun run hrun' => Option.some.inj hrun' ▸ hrun) nofun
  | indexed i p runId hplace =>
    have hp : p∈s.arrived := h.params i p (by rw [hplace]; rfl)
    have hrun : (p,runId)∈s.starts := h.runs i _ (by rw [hplace]; rfl)
    have hplaces := h.places i (.answered p runId)
      (t := {s.move i (.answered p runId) with
        paramIndex := Function.update s.paramIndex (computeParamHash digest p) (some runId)}) rfl
      (fun q hq => hq) (fun start hstart => hstart) (fun q hq => Option.some.inj hq ▸ hp) nofun
      (by
        intro q other heq
        cases heq
        exact ⟨(p,runId),hrun,rfl,rfl⟩)
    refine ⟨hplaces.1,hplaces.2.1,hplaces.2.2,h.starts,h.tells,?_,h.ids⟩
    intro hash other hother
    by_cases hhash : hash=computeParamHash digest p
    · subst hhash
      have hid : some runId=some other :=
        (Function.update_self (computeParamHash digest p) (some runId) s.paramIndex).symm.trans hother
      exact ⟨(p,runId),hrun,Option.some.inj hid,rfl⟩
    · exact h.index hash other ((Function.update_of_ne hhash _ _).symm.trans hother)

/-- Every move keeps what is known of the runs. -/
theorem Once.move (h : Once digest s) (hknown : Known digest s) (hmove : Move digest s s') :
    Once digest s' := by
  cases hmove with
  | found i p runId hplace hfind htells =>
    exact h.outside (i := i) (by rw [hplace]; rfl) rfl rfl rfl rfl rfl rfl
  | queued i p hplace htells =>
    exact h.outside (i := i) (by rw [hplace]; rfl) rfl rfl rfl rfl rfl rfl
  | joined i p runId hplace hfind =>
    exact h.outside (i := i) (by rw [hplace]; rfl) rfl rfl rfl rfl rfl rfl
  | started i p runId hplace hfind hnone hnew => exact h.started hknown hplace hfind hnone
  | finished i p runId result hplace => exact h.finished hplace
  | raised i p runId hplace => exact h.raised hplace
  | stored i p runId result hplace => exact h.stored hknown hplace
  | indexed i p runId hplace => exact h.indexed hknown hplace

/-- Every guarded run keeps both accounts. -/
theorem known_once_of_reaches (h : Reaches (step digest) (Apart digest) (.init I R H) s) :
    Known digest s ∧ Once digest s := by
  apply h.invariant (P := fun s => Known digest s ∧ Once digest s)
  · refine ⟨⟨nofun,nofun,nofun,nofun,nofun,nofun,List.nodup_nil⟩,?_,nofun,nofun,nofun⟩
    intro p _
    exact Nat.zero_le 1
  · intro s e s' _ hkept hguard hs
    have hmove := move_of_step hguard hs
    exact ⟨hkept.1.move hmove,hkept.2.move hkept.1 hmove⟩

/-- In every run in which a request that starts the engine finds no run with its
parameters under way, and in which the hashes tell the parameters apart, the
engine is started once for them and all requests get the id of that run, until a
run fails. -/
theorem engine_started_once (h : Reaches (step digest) (Apart digest) (.init I R H) s) :
    StartedOnce s := by
  obtain ⟨hknown,honce⟩ := known_once_of_reaches h
  intro p hgood
  refine ⟨honce.once p hgood,?_⟩
  intro i q runId hplace hsame
  obtain ⟨start,hstart,hidentity,hid⟩ := hknown.answers i q runId hplace
  exact ⟨start,hstart,hidentity.trans hsame,hid⟩

/-- The parameters of two requests, whose tickers have another order. -/
def sampleParams (tickers : List String) : Params := ⟨"v1",24,3,tickers⟩

/-- A request whose run passes, and a second one after it. -/
def laterRun : List (Event Bool ℕ) :=
  [.arrive false (sampleParams ["A","B"]),.check false 7,.finish false .pass,.store false,
    .index false,.arrive true (sampleParams ["B","A"])]

/-- The second request gets the run of the first. -/
theorem engine_started_once_later :
    ∃ s,play (step id) (Apart id) (.init Bool ℕ Params) laterRun=some s ∧
      s.place true=.answered (sampleParams ["B","A"]) 7 ∧ StartedOnce s := by
  obtain ⟨s,hplay,hend,hreach⟩ := play_ends (step id) (Apart id) (.init Bool ℕ Params)
    (fun s => s.place true=.answered (sampleParams ["B","A"]) 7) laterRun (by decide +kernel)
  exact ⟨s,hplay,hend,engine_started_once hreach⟩

/-- Two requests that come before either engine has returned. -/
def overlappingRun : List (Event Bool ℕ) :=
  [.arrive false (sampleParams ["A","B"]),.arrive true (sampleParams ["A","B"]),
    .check false 7,.check true 8]

/-- Two overlapping requests start the engine twice. -/
theorem not_started_once :
    ¬∀ s,Reaches (step id) (fun _ _ => True) (.init Bool ℕ Params) s→StartedOnce s := by
  intro hall
  obtain ⟨s,_,hend,hreach⟩ := play_ends (step id) (fun _ _ => True) (.init Bool ℕ Params)
    (fun s => NoFailure s (sampleParams ["A","B"]) ∧
      1< s.starts.countP fun start => decide (start.1.identity=(sampleParams ["A","B"]).identity))
    overlappingRun (by decide +kernel)
  exact absurd (hall s hreach _ hend.1).1 (not_le_of_gt hend.2)

end Aqts.OosJobs
