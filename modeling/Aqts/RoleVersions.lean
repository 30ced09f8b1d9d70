import Aqts.AuthTokens
import Aqts.GuardedRuns

/-!
# Role versions

Histories of logins, refreshes, changes of users and revocations, one after the
other. A token is accepted, as long as it has not expired and was not revoked,
exactly while its user is active, unlocked and has kept its role since the login
that started the token's chain of refreshes. Every issued token is tied to the
history of its user's roles by its version: the versions agree exactly when no
role in between was another one. Signatures are not forged.
-/

namespace Aqts.RoleVersions

open GuardedRuns UserAccounts AuthTokens

/-- A token that was issued, with the history of its chain. -/
structure Issued where
  /-- The token. -/
  token : Token
  /-- The user it was issued to. -/
  userId : String
  /-- The user's role at the login that started the chain, and after every operation
  since. -/
  roleIds : List ℤ
  deriving DecidableEq

/-- The tables and the history. -/
structure System where
  /-- `users`. -/
  users : UserTable
  /-- Revoked tokens. -/
  revocations : Revocations
  /-- Tokens that were issued. -/
  issued : List Issued
  /-- Ids for which `revoke_token` was called. -/
  revoked : List String

/-- Users before any login. -/
def System.start (users : UserTable) : System := ⟨users,fun _ => none,[],[]⟩

/-- The role of a user in a table. -/
def presentRole (users : UserTable) (userId : String) : List ℤ :=
  ((findUser users userId).map User.roleId).toList

/-- The role of its user is added to the history of a token. -/
def Issued.observe (users : UserTable) (i : Issued) : Issued :=
  {i with roleIds := i.roleIds++presentRole users i.userId}

/-- A table after an operation. -/
def System.commit (s : System) (users : UserTable) : System :=
  {s with
    users := users
    issued := s.issued.map (Issued.observe users)}

/-- A token is issued with a history. -/
def System.issue (s : System) (token : Token) (history : List ℤ) : System :=
  {s with issued := ⟨token,token.payload.uid.getD "",history⟩::s.issued}

/-- The history of a token's chain. -/
def System.historyOf (s : System) (token : Token) : List ℤ :=
  ((s.issued.find? fun i => i.token=token).map Issued.roleIds).getD []

/-- Operations, with their clocks, fresh ids and hashes. -/
inductive Operation
  /-- `authenticate`. -/
  | authenticate (username password : String) (totpCode : Option String) (now : ℤ)
    (accessJti refreshJti : String)
  /-- `/auth/refresh`. -/
  | refresh (token : Token) (now : ℤ) (accessJti refreshJti : String)
  /-- `update_user`. -/
  | updateUser (userId : String) (req : UserUpdateRequest)
  /-- `lock_user`. -/
  | lockUser (userId : String) (isLocked : Bool)
  /-- `delete_user`. -/
  | deleteUser (userId currentUserId : String)
  /-- `reset_password`. -/
  | resetPassword (userId passwordHash : String)
  /-- `revoke_token`. -/
  | revokeToken (claims : Payload) (now : ℤ)
  deriving DecidableEq

section Steps

variable (settings : Settings) (crypto : Crypto) (roles : List Role)

/-- The tokens of a login start their chain. -/
def System.login (s : System) (tokens : Token×Token) : System :=
  let history := presentRole s.users (tokens.1.payload.uid.getD "")
  (s.issue tokens.1 history).issue tokens.2 history

/-- The tokens of a refresh go on with the chain of the token. -/
def System.extend (s : System) (token : Token) (tokens : Token×Token) : System :=
  let history := s.historyOf token
  (s.issue tokens.1 history).issue tokens.2 history

/-- One operation. -/
def step (s : System) : Operation→Option System
  | .authenticate username password totpCode now accessJti refreshJti =>
    let (users,result) := authenticate settings crypto roles s.users username password totpCode now
      accessJti refreshJti
    match result with
    | .error _ => some (s.commit users)
    | .ok tokens => some ((s.commit users).login tokens)
  | .refresh token now accessJti refreshJti =>
    match refreshToken settings crypto roles s.users s.revocations token now accessJti
        refreshJti with
    | .error _ => some (s.commit s.users)
    | .ok tokens => some ((s.commit s.users).extend token tokens)
  | .updateUser userId req => some (s.commit (updateUser roles s.users userId req))
  | .lockUser userId isLocked => some (s.commit (lockUser s.users userId isLocked))
  | .deleteUser userId currentUserId => some (s.commit (deleteUser s.users userId currentUserId))
  | .resetPassword userId passwordHash =>
    some (s.commit (resetPassword s.users userId passwordHash))
  | .revokeToken claims now =>
    some {s.commit s.users with
      revocations := revokeToken settings s.revocations claims now
      revoked := claims.jti.toList++s.revoked}

/-- Nobody else signs with a key of the service. -/
def Unforged (s : System) : Operation→Prop
  | .refresh token _ _ _ =>
    token.signedWith=settings.secretKey ∨ some token.signedWith=settings.previousSecretKey→
      token∈s.issued.map Issued.token
  | _ => True

instance (s : System) : (o : Operation)→Decidable (Unforged settings s o)
  | .refresh token _ _ _ => inferInstanceAs (Decidable
      (token.signedWith=settings.secretKey ∨ some token.signedWith=settings.previousSecretKey→
        token∈s.issued.map Issued.token))
  | .authenticate _ _ _ _ _ _ => .isTrue trivial
  | .updateUser _ _ => .isTrue trivial
  | .lockUser _ _ => .isTrue trivial
  | .deleteUser _ _ => .isTrue trivial
  | .resetPassword _ _ => .isTrue trivial
  | .revokeToken _ _ => .isTrue trivial

/-- A token and the present row of its user: the versions agree exactly when the user
has kept its role. -/
structure Agrees (i : Issued) (u : User) : Prop where
  /-- The user. -/
  user : u.id=i.userId
  /-- The name claim. -/
  sub : i.token.payload.sub=some u.username
  /-- The id claim. -/
  uid : i.token.payload.uid=some u.id
  /-- The key id. -/
  kid : i.token.kid=some (crypto.computeKid settings.secretKey)
  /-- The signature. -/
  signed : i.token.signedWith=settings.secretKey
  /-- The present role is in the history. -/
  present : u.roleId∈i.roleIds
  /-- The version claim. -/
  version : ∃ rv,i.token.payload.rv=some rv ∧ rv≤u.roleVersion ∧
    (rv=u.roleVersion ↔ ∀ r∈i.roleIds,r=u.roleId)
  /-- The role claim. -/
  role : (∀ r∈i.roleIds,r=u.roleId)→
    ∃ role,roleOf roles u=some role ∧ i.token.payload.role=some role.name

/-- Every issued token agrees with the row of its user, and only ids for which
`revoke_token` was called are revoked. -/
structure Tied (s : System) : Prop where
  /-- Tokens. -/
  agrees : ∀ i∈s.issued,∃ u,findUser s.users i.userId=some u ∧ Agrees settings crypto roles i u
  /-- Revocations. -/
  revoked : ∀ jti,jti∉s.revoked→s.revocations jti=none

end Steps

variable {settings : Settings} {crypto : Crypto} {roles : List Role} {s s' : System}

/-- Rows with the same role id have the same role. -/
theorem roleOf_congr {u u' : User} (h : u'.roleId=u.roleId) : roleOf roles u'=roleOf roles u := by
  unfold roleOf
  rw [h]

/-- A token goes on to agree with the moved row of its user. -/
theorem Agrees.moved {i : Issued} {u u' : User} (h : Agrees settings crypto roles i u)
    (hmoved : Moved u u') :
    Agrees settings crypto roles {i with roleIds := i.roleIds++[u'.roleId]} u' := by
  obtain ⟨rv,hrv,hle,hiff⟩ := h.version
  refine ⟨hmoved.id.trans h.user,h.sub.trans (congrArg some hmoved.username.symm),
    h.uid.trans (congrArg some hmoved.id.symm),h.kid,h.signed,
    List.mem_append_right _ List.mem_cons_self,⟨rv,hrv,?_⟩,?_⟩
  · cases hmoved.role with
    | inl hsame =>
      rw [hsame.1,hsame.2]
      refine ⟨hle,hiff.trans ⟨fun hall r hr => ?_,fun hall r hr => ?_⟩⟩
      · cases List.mem_append.mp hr with
        | inl hold => exact hall r hold
        | inr hnew => exact List.mem_singleton.mp hnew
      · exact hall r (List.mem_append_left _ hr)
    | inr hchanged =>
      rw [hchanged.2]
      refine ⟨by omega,fun heq => by omega,fun hall => ?_⟩
      exact absurd (hall u.roleId (List.mem_append_left _ h.present)).symm hchanged.1
  · intro hall
    have hkept : u'.roleId=u.roleId := (hall u.roleId (List.mem_append_left _ h.present)).symm
    obtain ⟨role,hrole,hname⟩ := h.role fun r hr =>
      (hall r (List.mem_append_left _ hr)).trans hkept
    exact ⟨role,(roleOf_congr hkept).trans hrole,hname⟩

/-- Committing a moved table keeps the tokens tied. -/
theorem Tied.commit (h : Tied settings crypto roles s) {users : UserTable}
    (hmoved : TableMoved s.users users) : Tied settings crypto roles (s.commit users) := by
  refine ⟨?_,h.revoked⟩
  intro i hi
  obtain ⟨earlier,hearlier,rfl⟩ := List.mem_map.mp hi
  obtain ⟨u,hu,hagrees⟩ := h.agrees earlier hearlier
  obtain ⟨u',hu',hmove⟩ := hmoved earlier.userId u hu
  refine ⟨u',hu',?_⟩
  have hobserved : presentRole users earlier.userId=[u'.roleId] := by
    unfold presentRole
    rw [hu']
    rfl
  unfold Issued.observe
  rw [hobserved]
  exact hagrees.moved hmove

/-- An issued token that agrees is tied. -/
theorem Tied.issue (h : Tied settings crypto roles s) {token : Token} {history : List ℤ} {u : User}
    (hu : findUser s.users (token.payload.uid.getD "")=some u)
    (hagrees : Agrees settings crypto roles ⟨token,token.payload.uid.getD "",history⟩ u) :
    Tied settings crypto roles (s.issue token history) := by
  refine ⟨?_,h.revoked⟩
  intro i hi
  cases List.mem_cons.mp hi with
  | inl heq =>
    rw [heq]
    exact ⟨u,hu,hagrees⟩
  | inr hold => exact h.agrees i hold

/-- The two tokens for a user are tied to a history of its present role. -/
theorem Tied.pair (h : Tied settings crypto roles s) {u : User} {role : Role} {history : List ℤ}
    {now : ℤ} {accessJti refreshJti : String} (hu : findUser s.users u.id=some u)
    (hrole : roleOf roles u=some role) (hall : ∀ r∈history,r=u.roleId) (hmem : u.roleId∈history) :
    let tokens := tokenPair settings crypto now accessJti refreshJti (sessionData u role)
    Tied settings crypto roles ((s.issue tokens.1 history).issue tokens.2 history) := by
  have hagrees : ∀ type lifetime jti,Agrees settings crypto roles
      ⟨createToken settings crypto type lifetime now jti (sessionData u role),u.id,history⟩ u := by
    intro type lifetime jti
    refine ⟨rfl,rfl,rfl,rfl,rfl,hmem,⟨u.roleVersion,rfl,le_rfl,?_⟩,fun _ => ⟨role,hrole,rfl⟩⟩
    exact ⟨fun _ => hall,fun _ => rfl⟩
  refine Tied.issue (Tied.issue h ?_ (hagrees _ _ _)) ?_ (hagrees _ _ _)
  · exact hu
  · exact hu

/-- A login starts chains that are tied. -/
theorem Tied.login (h : Tied settings crypto roles s) {u : User} {role : Role} {now : ℤ}
    {accessJti refreshJti : String} (hu : findUser s.users u.id=some u)
    (hrole : roleOf roles u=some role) : Tied settings crypto roles
      (s.login (tokenPair settings crypto now accessJti refreshJti (sessionData u role))) := by
  have hhistory : presentRole s.users u.id=[u.roleId] := by
    unfold presentRole
    rw [hu]
    rfl
  have hclaim : (tokenPair settings crypto now accessJti refreshJti
      (sessionData u role)).1.payload.uid.getD ""=u.id := rfl
  unfold System.login
  rw [hclaim,hhistory]
  exact h.pair hu hrole (fun r hr => List.mem_singleton.mp hr) (List.mem_singleton_self _)

/-- A refresh goes on with a chain that is tied. -/
theorem Tied.extend (h : Tied settings crypto roles s) {token : Token} {uid : String} {u : User}
    {role : Role} {now : ℤ} {accessJti refreshJti : String}
    (hissued : token∈s.issued.map Issued.token) (huid : token.payload.uid=some uid)
    (hu : findUser s.users uid=some u) (hrole : roleOf roles u=some role)
    (hrv : token.payload.rv=some u.roleVersion) : Tied settings crypto roles
      (s.extend token (tokenPair settings crypto now accessJti refreshJti (sessionData u role))) := by
  obtain ⟨origin,horigin⟩ : ∃ i,s.issued.find? (fun i => i.token=token)=some i := by
    obtain ⟨i,hi,htoken⟩ := List.mem_map.mp hissued
    exact Option.isSome_iff_exists.mp (List.find?_isSome.mpr ⟨i,hi,decide_eq_true htoken⟩)
  have htoken : origin.token=token := by
    have hfound := List.find?_some horigin
    exact of_decide_eq_true hfound
  obtain ⟨owner,howner,hagrees⟩ := h.agrees origin (List.mem_of_find?_eq_some horigin)
  have hid : uid=owner.id := by
    have hclaim := hagrees.uid
    rw [htoken,huid] at hclaim
    exact Option.some.inj hclaim
  have hsame : owner=u := by
    rw [←hagrees.user,←hid,hu] at howner
    exact (Option.some.inj howner).symm
  subst hsame
  obtain ⟨rv,hclaim,_,hiff⟩ := hagrees.version
  have hversion : rv=owner.roleVersion := by
    rw [htoken,hrv] at hclaim
    exact (Option.some.inj hclaim).symm
  have hhistory : s.historyOf token=origin.roleIds := by
    unfold System.historyOf
    rw [horigin]
    rfl
  unfold System.extend
  rw [hhistory]
  exact h.pair (hid ▸ hu) hrole (hiff.mp hversion) hagrees.present

/-- Every operation keeps the tokens tied. -/
theorem Tied.step (h : Tied settings crypto roles s) {o : Operation}
    (hunforged : Unforged settings s o)
    (hs : RoleVersions.step settings crypto roles s o=some s') : Tied settings crypto roles s' := by
  cases o with
  | authenticate username password totpCode now accessJti refreshJti =>
    obtain ⟨hmoved,htokens⟩ := authenticate_spec settings crypto roles s.users username password
      totpCode now accessJti refreshJti
    dsimp only [RoleVersions.step] at hs
    cases hresult : authenticate settings crypto roles s.users username password totpCode now
      accessJti refreshJti with
    | mk users result =>
      rw [hresult] at hs hmoved htokens
      cases result with
      | error e =>
        cases hs
        exact h.commit hmoved
      | ok tokens =>
        cases hs
        obtain ⟨u,role,hu,hrole,rfl⟩ := htokens tokens rfl
        exact (h.commit hmoved).login hu hrole
  | refresh token now accessJti refreshJti =>
    dsimp only [RoleVersions.step] at hs
    cases hresult : refreshToken settings crypto roles s.users s.revocations token now accessJti
      refreshJti with
    | error e =>
      rw [hresult] at hs
      cases hs
      exact h.commit (.refl s.users)
    | ok tokens =>
      rw [hresult] at hs
      cases hs
      obtain ⟨hsigned,uid,u,role,huid,hu,hrole,hrv,rfl⟩ := refreshToken_ok hresult
      obtain ⟨i,hi,htoken⟩ := List.mem_map.mp (hunforged hsigned)
      have hissued : token∈(s.commit s.users).issued.map Issued.token :=
        List.mem_map.mpr ⟨_,List.mem_map_of_mem hi,htoken⟩
      exact (h.commit (.refl s.users)).extend hissued huid hu hrole hrv
  | updateUser userId req =>
    cases hs
    exact h.commit (updateUser_moved roles s.users userId req)
  | lockUser userId isLocked =>
    cases hs
    exact h.commit (lockUser_moved s.users userId isLocked)
  | deleteUser userId currentUserId =>
    cases hs
    exact h.commit (deleteUser_moved s.users userId currentUserId)
  | resetPassword userId passwordHash =>
    cases hs
    exact h.commit (resetPassword_moved s.users userId passwordHash)
  | revokeToken claims now =>
    cases hs
    have hcommit := h.commit (.refl s.users)
    refine ⟨hcommit.agrees,fun jti hjti => ?_⟩
    obtain ⟨hclaim,hold⟩ := not_or.mp fun hor => hjti (List.mem_append.mpr hor)
    exact revokeToken_other (h.revoked jti hold) fun heq => hclaim (heq ▸ List.mem_singleton_self _)

/-- Every token issued in a history is tied. -/
theorem tied_of_reaches {users : UserTable}
    (hrun : Reaches (step settings crypto roles) (Unforged settings) (System.start users) s) :
    Tied settings crypto roles s := by
  refine hrun.invariant (P := Tied settings crypto roles) ?_ ?_
  · exact ⟨fun _ hi => (List.not_mem_nil hi).elim,fun _ _ => rfl⟩
  · intro s o s' _ hs hunforged hstep
    exact hs.step hunforged hstep

/-- In every history without forged signatures, an issued token that has not expired
and was not revoked is accepted exactly when its user is active and unlocked and has
had its present role since the login that started the token's chain; the answer has
the user's present role. -/
theorem accepted_iff_role_kept {users : UserTable} {i : Issued} {now : ℤ}
    (hrun : Reaches (step settings crypto roles) (Unforged settings) (System.start users) s)
    (hissued : i∈s.issued) (hlive : ∀ exp∈i.token.payload.exp,now≤exp)
    (hrevoked : ∀ jti∈i.token.payload.jti,jti∉s.revoked) :
    ((∃ a,getCurrentUser settings crypto roles s.users s.revocations (some i.token) now=.ok a) ↔
      ∃ u,findUser s.users i.userId=some u ∧ u.isActive=true ∧ u.isLocked=false ∧
        ∀ r∈i.roleIds,r=u.roleId) ∧
    ∀ a,getCurrentUser settings crypto roles s.users s.revocations (some i.token) now=.ok a→
      ∃ u role,findUser s.users i.userId=some u ∧ roleOf roles u=some role ∧
        a=⟨u.id,u.username,role.name⟩ := by
  have htied := tied_of_reaches hrun
  obtain ⟨u,hu,hagrees⟩ := htied.agrees i hissued
  have hverified := verifyToken_live hagrees.kid hagrees.signed hlive
    fun jti hjti => htied.revoked jti (hrevoked jti hjti)
  have hown : findUser s.users u.id=some u := hagrees.user.symm ▸ hu
  have hiff := fun a => getCurrentUser_iff roles a hverified hagrees.sub hagrees.uid hown
  obtain ⟨rv,hrv,_,hkept⟩ := hagrees.version
  refine ⟨⟨?_,?_⟩,?_⟩
  · rintro ⟨a,ha⟩
    obtain ⟨hactive,hlocked,role,_,_,hversion,_⟩ := (hiff a).mp ha
    rw [hrv] at hversion
    exact ⟨u,hu,hactive,hlocked,hkept.mp (Option.some.inj hversion)⟩
  · rintro ⟨owner,howner,hactive,hlocked,hall⟩
    cases hu.symm.trans howner
    obtain ⟨role,hrole,hname⟩ := hagrees.role hall
    refine ⟨_,(hiff _).mpr ⟨hactive,hlocked,role,hrole,?_,?_,rfl⟩⟩
    · rw [hname]
      rfl
    · rw [hrv,hkept.mpr hall]
  · intro a ha
    obtain ⟨_,_,role,hrole,_,_,heq⟩ := (hiff a).mp ha
    exact ⟨u,role,hu,hrole,heq⟩

/-- One operator. -/
def operators : UserTable where
  rows := [⟨"7f1c","kim",none,"$2a$05$CCCCCCCCCCCCCCCCCCCCC.E5YPO9kmyuRGyh0XouQYb4YMJKvyOeW",2,0,true,
    false,0,none,false,by decide,by decide⟩]
  unique := List.nodup_singleton _

/-- The key id of one key, and the hash of one password. -/
def oneHash : Crypto where
  computeKid _ := "2bb80d53"
  verifyPassword plain hash :=
    plain="U*U" ∧ hash="$2a$05$CCCCCCCCCCCCCCCCCCCCC.E5YPO9kmyuRGyh0XouQYb4YMJKvyOeW"
  verifyTotp _ _ _ := false

/-- The roles. -/
def allRoles : List Role := [⟨1,"viewer"⟩,⟨2,"operator"⟩,⟨3,"admin"⟩]

/-- The operator becomes a viewer and an operator again: a token refreshed before is
refused, one of a later login is accepted. -/
theorem accepted_iff_role_kept_restored :
    ∃ (s : System) (old new : Issued),old∈s.issued ∧ new∈s.issued ∧ old.userId=new.userId ∧
      (¬∃ a,getCurrentUser ⟨"secret",none,24,7⟩ oneHash allRoles s.users s.revocations
        (some old.token) 500=.ok a) ∧
      ∃ a,getCurrentUser ⟨"secret",none,24,7⟩ oneHash allRoles s.users s.revocations
        (some new.token) 500=.ok a := by
  obtain ⟨s,_,⟨old,hold,new,hnew,huser,⟨holdLive,hnewLive⟩,⟨holdJti,hnewJti⟩,u,_,hu,hactive,hlocked,
      hchanged,hkept⟩,hrun⟩ :=
    play_ends (step ⟨"secret",none,24,7⟩ oneHash allRoles) (Unforged ⟨"secret",none,24,7⟩)
      (System.start operators)
      (fun s => ∃ old∈s.issued,∃ new∈s.issued,old.userId=new.userId ∧
        ((∀ exp∈old.token.payload.exp,500≤exp) ∧ ∀ exp∈new.token.payload.exp,500≤exp) ∧
        ((∀ jti∈old.token.payload.jti,jti∉s.revoked) ∧
          ∀ jti∈new.token.payload.jti,jti∉s.revoked) ∧
        ∃ u∈s.users.rows,findUser s.users new.userId=some u ∧ u.isActive=true ∧ u.isLocked=false ∧
          (¬∀ r∈old.roleIds,r=u.roleId) ∧ ∀ r∈new.roleIds,r=u.roleId)
      [.authenticate "kim" "U*U" none 100 "a1" "r1",
        .refresh (createRefreshToken ⟨"secret",none,24,7⟩ oneHash 100 "r1"
          ⟨some "kim",some "7f1c",some "operator",some 0,none,none,none,none⟩) 200 "a2" "r2",
        .updateUser "7f1c" {role := some "viewer"},.updateUser "7f1c" {role := some "operator"},
        .lockUser "7f1c" true,.resetPassword "7f1c"
          "$2a$05$CCCCCCCCCCCCCCCCCCCCC.E5YPO9kmyuRGyh0XouQYb4YMJKvyOeW",
        .authenticate "kim" "U*U" none 300 "a3" "r3",.revokeToken {jti := some "r3"} 400]
      (by decide +kernel)
  refine ⟨s,old,new,hold,hnew,huser,fun haccepted => hchanged ?_,?_⟩
  · obtain ⟨owner,howner,_,_,hall⟩ :=
      (accepted_iff_role_kept hrun hold holdLive holdJti).1.mp haccepted
    rw [huser,hu] at howner
    cases howner
    exact hall
  · exact (accepted_iff_role_kept hrun hnew hnewLive hnewJti).1.mpr ⟨u,hu,hactive,hlocked,hkept⟩

end Aqts.RoleVersions
