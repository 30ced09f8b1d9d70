import Aqts.ExpiringSlot
import Aqts.UserAccounts

/-!
# Tokens and their checks

`AuthService`, `refresh_token` and `get_current_user`: the issue of access and
refresh tokens, the rotation of keys, revocation, and the checks of a token
against the row of its user. A token is its key id, the key that signed it and
its claims; a text that is no token decodes like one with a wrong signature. The
hashes and one-time codes are parameters, and times are whole seconds. The
database and the revocation store answer.
-/

namespace Aqts.AuthTokens

open ExpiringSlot UserAccounts

/-- Settings of the dashboard. -/
structure Settings where
  /-- `secret_key`. -/
  secretKey : String
  /-- `previous_secret_key`. -/
  previousSecretKey : Option String := none
  /-- `access_token_expire_hours`. -/
  accessTokenExpireHours : ℤ := 24
  /-- `refresh_token_expire_days`. -/
  refreshTokenExpireDays : ℤ := 7

/-- Hashes and one-time codes. -/
structure Crypto where
  /-- `_compute_kid`. -/
  computeKid : String→String
  /-- `verify_password`. -/
  verifyPassword : String→String→Bool
  /-- `verify_totp`, of a secret and a code at a time. -/
  verifyTotp : String→String→ℤ→Bool

/-- Claims of a token. -/
structure Payload where
  /-- `sub`, the name of the user. -/
  sub : Option String := none
  /-- `uid`. -/
  uid : Option String := none
  /-- `role`. -/
  role : Option String := none
  /-- `rv`, if it is an integer. -/
  rv : Option ℤ := none
  /-- `exp`. -/
  exp : Option ℤ := none
  /-- `iat`. -/
  iat : Option ℤ := none
  /-- `jti`. -/
  jti : Option String := none
  /-- `type`. -/
  type : Option String := none
  deriving DecidableEq

/-- A signed token. -/
structure Token where
  /-- `kid` of the header. -/
  kid : Option String
  /-- The key of the signature. -/
  signedWith : String
  /-- Its claims. -/
  payload : Payload
  deriving DecidableEq

/-- The detail of an error. -/
inductive Detail
  /-- A text. -/
  | text (message : String)
  /-- `error_code` and `message`. -/
  | coded (errorCode message : String)
  deriving DecidableEq

/-- `HTTPException`. -/
structure HTTPException where
  /-- `status_code`. -/
  statusCode : ℕ
  /-- `detail`. -/
  detail : Detail
  deriving DecidableEq

/-- `AuthenticatedUser`. -/
structure AuthenticatedUser where
  /-- `id`. -/
  id : String
  /-- `username`. -/
  username : String
  /-- `role`, by its name. -/
  role : String
  deriving DecidableEq

/-- Revoked tokens, by their `jti`. -/
abbrev Revocations := String→Slot Unit ℤ

/-- `is_revoked`. -/
def isRevoked (store : Revocations) (jti : String) (now : ℤ) : Bool := (read now (store jti)).isSome

section Service

variable (settings : Settings) (crypto : Crypto) (roles : List Role)

/-- `create_access_token` and `create_refresh_token`, which differ in their lifetime
in seconds and their type. -/
def createToken (type : String) (lifetime now : ℤ) (jti : String) (data : Payload) : Token where
  kid := some (crypto.computeKid settings.secretKey)
  signedWith := settings.secretKey
  payload := {data with
    exp := some (now+lifetime)
    iat := some now
    jti := some jti
    type := some type}

/-- `create_access_token`. -/
def createAccessToken (now : ℤ) (jti : String) (data : Payload) : Token :=
  createToken settings crypto "access" (settings.accessTokenExpireHours*3600) now jti data

/-- `create_refresh_token`. -/
def createRefreshToken (now : ℤ) (jti : String) (data : Payload) : Token :=
  createToken settings crypto "refresh" (settings.refreshTokenExpireDays*86400) now jti data

/-- `_resolve_key_for_verification`. -/
def resolveKeyForVerification (token : Token) : String :=
  match token.kid with
  | none => settings.secretKey
  | some kid =>
    if kid=crypto.computeKid settings.secretKey then settings.secretKey
    else
      match settings.previousSecretKey with
      | none => settings.secretKey
      | some previous =>
        if previous≠"" ∧ kid=crypto.computeKid previous then previous else settings.secretKey

/-- `jwt.decode`: the signature and the expiry are right. -/
def decode (token : Token) (key : String) (now : ℤ) : Option Payload :=
  if token.signedWith=key ∧ ∀ exp∈token.payload.exp,now≤exp then some token.payload else none

/-- `verify_token`. -/
def verifyToken (store : Revocations) (token : Token) (now : ℤ) : Except HTTPException Payload :=
  match decode token (resolveKeyForVerification settings crypto token) now with
  | none => .error ⟨401,.text "Invalid authentication credentials"⟩
  | some payload =>
    if ∃ jti∈payload.jti,jti≠"" ∧ isRevoked store jti now=true then
      .error ⟨401,.text "Token has been revoked"⟩
    else .ok payload

/-- `revoke_token`, of unverified claims. -/
def revokeToken (store : Revocations) (claims : Payload) (now : ℤ) : Revocations :=
  match claims.jti with
  | none => store
  | some jti =>
    let ttl := match claims.exp with
      | some exp => max (exp-now+60) 60
      | none => settings.refreshTokenExpireDays*86400
    if jti="" ∨ ttl≤0 then store else Function.update store jti (setEx now ttl ())

/-- The claims about a user. -/
def sessionData (u : User) (role : Role) : Payload where
  sub := some u.username
  uid := some u.id
  role := some role.name
  rv := some u.roleVersion

/-- An access token and a refresh token. -/
def tokenPair (now : ℤ) (accessJti refreshJti : String) (data : Payload) : Token×Token :=
  (createAccessToken settings crypto now accessJti data,
    createRefreshToken settings crypto now refreshJti data)

/-- `authenticate`: the users afterwards, and the tokens. -/
def authenticate (users : UserTable) (username password : String) (totpCode : Option String)
    (now : ℤ) (accessJti refreshJti : String) : UserTable×Except HTTPException (Token×Token) :=
  match users.rows.find? fun u => u.username=username with
  | none => (users,.error ⟨401,.text "Invalid username or password"⟩)
  | some user =>
    if user.isActive=false then (users,.error ⟨401,.text "User account is inactive"⟩)
    else if user.isLocked=true then
      (users,.error ⟨403,.text "User account is locked. Contact administrator."⟩)
    else if crypto.verifyPassword password user.passwordHash=false then
      (modifyUser users user.id (fun u => {u with
          failedLoginAttempts := u.failedLoginAttempts+1
          isLocked := if 5≤u.failedLoginAttempts+1 then true else u.isLocked}) fun _ => rfl,
        .error ⟨401,.text "Invalid username or password"⟩)
    else if user.totpEnabled=true ∧ totpCode.getD ""="" then
      (users,.error ⟨401,.text "TOTP code required"⟩)
    else if user.totpEnabled=true ∧ (user.totpSecret.getD ""="" ∨
        crypto.verifyTotp (user.totpSecret.getD "") (totpCode.getD "") now=false) then
      (users,.error ⟨401,.text "Invalid TOTP code"⟩)
    else
      (modifyUser users user.id (fun u => {u with failedLoginAttempts := 0}) fun _ => rfl,
        match roleOf roles user with
        | none => .error ⟨500,.text "Internal Server Error"⟩
        | some role =>
          .ok (tokenPair settings crypto now accessJti refreshJti (sessionData user role)))

/-- `refresh_token`. -/
def refreshToken (users : UserTable) (store : Revocations) (token : Token) (now : ℤ)
    (accessJti refreshJti : String) : Except HTTPException (Token×Token) :=
  match verifyToken settings crypto store token now with
  | .error e => .error e
  | .ok payload =>
    if payload.type≠some "refresh" then
      .error ⟨401,.coded "INVALID_TOKEN_TYPE" "Invalid token type for refresh endpoint"⟩
    else
      match payload.rv with
      | none => .error ⟨401,.coded "ROLE_VERSION_MISMATCH"
          "Refresh token missing role_version; please re-authenticate"⟩
      | some rv =>
        match payload.uid.bind (findUser users) with
        | none => .error ⟨401,.coded "ROLE_VERSION_MISMATCH" "User no longer exists or role missing"⟩
        | some user =>
          match roleOf roles user with
          | none =>
            .error ⟨401,.coded "ROLE_VERSION_MISMATCH" "User no longer exists or role missing"⟩
          | some role =>
            if user.roleVersion≠rv then
              .error ⟨401,.coded "ROLE_VERSION_MISMATCH"
                "Role version has changed; please re-authenticate"⟩
            else .ok (tokenPair settings crypto now accessJti refreshJti (sessionData user role))

/-- `get_current_user`. -/
def getCurrentUser (users : UserTable) (store : Revocations) (credentials : Option Token)
    (now : ℤ) : Except HTTPException AuthenticatedUser :=
  match credentials with
  | none => .error ⟨401,.text "Not authenticated"⟩
  | some token =>
    match verifyToken settings crypto store token now with
    | .error e => .error e
    | .ok payload =>
      if payload.sub.getD ""="" ∨ payload.uid.getD ""="" then
        .error ⟨401,.text "Invalid authentication credentials"⟩
      else
        match findUser users (payload.uid.getD "") with
        | none => .error ⟨401,.text "User no longer exists"⟩
        | some user =>
          if user.isActive=false then .error ⟨401,.text "User account is inactive"⟩
          else if user.isLocked=true then
            .error ⟨403,.text "User account is locked. Contact administrator."⟩
          else
            match roleOf roles user with
            | none => .error ⟨401,.text "User role missing"⟩
            | some role =>
              if role.name≠payload.role.getD "viewer" then
                .error ⟨401,.text "User role has changed; please re-authenticate"⟩
              else if payload.rv≠some user.roleVersion then
                .error ⟨401,.coded "ROLE_VERSION_MISMATCH"
                  "Role version has changed; please re-authenticate"⟩
              else .ok ⟨user.id,user.username,role.name⟩

end Service

variable {settings : Settings} {crypto : Crypto} {roles : List Role}

/-- A login moves the table, and its tokens are about the row of a user with a role. -/
theorem authenticate_spec (settings : Settings) (crypto : Crypto) (roles : List Role)
    (users : UserTable) (username password : String) (totpCode : Option String) (now : ℤ)
    (accessJti refreshJti : String) :
    TableMoved users (authenticate settings crypto roles users username password totpCode now
      accessJti refreshJti).1 ∧
    ∀ tokens,(authenticate settings crypto roles users username password totpCode now accessJti
        refreshJti).2=.ok tokens→
      ∃ u role,findUser (authenticate settings crypto roles users username password totpCode now
          accessJti refreshJti).1 u.id=some u ∧ roleOf roles u=some role ∧
        tokens=tokenPair settings crypto now accessJti refreshJti (sessionData u role) := by
  unfold authenticate
  cases hfound : users.rows.find? fun u => u.username=username with
  | none => exact ⟨.refl users,fun _ hok => by cases hok⟩
  | some user =>
    dsimp only
    have huser : findUser users user.id=some user :=
      findUser_of_mem (List.mem_of_find?_eq_some hfound)
    split
    · exact ⟨.refl users,fun _ hok => by cases hok⟩
    split
    · exact ⟨.refl users,fun _ hok => by cases hok⟩
    split
    · refine ⟨?_,fun _ hok => by cases hok⟩
      dsimp only
      exact modifyUser_moved users user.id fun _ => .same rfl rfl rfl rfl
    split
    · exact ⟨.refl users,fun _ hok => by cases hok⟩
    split
    · exact ⟨.refl users,fun _ hok => by cases hok⟩
    refine ⟨?_,fun tokens hok => ?_⟩
    · dsimp only
      exact modifyUser_moved users user.id fun _ => .same rfl rfl rfl rfl
    cases hrole : roleOf roles user with
    | none =>
      rw [hrole] at hok
      cases hok
    | some role =>
      rw [hrole] at hok
      cases hok
      refine ⟨{user with failedLoginAttempts := 0},role,?_,hrole,rfl⟩
      dsimp only
      rw [findUser_modifyUser huser]
      exact congrArg some (if_pos rfl)

/-- Revocation of another id leaves an id. -/
theorem revokeToken_other {store : Revocations} {claims : Payload} {now : ℤ} {jti : String}
    (hstore : store jti=none) (hother : claims.jti≠some jti) :
    revokeToken settings store claims now jti=none := by
  unfold revokeToken
  cases hclaim : claims.jti with
  | none => exact hstore
  | some claimed =>
    have hne : jti≠claimed := fun heq => hother (hclaim.trans (congrArg some heq.symm))
    dsimp only
    generalize (match claims.exp with
      | some exp => max (exp-now+60) 60
      | none => settings.refreshTokenExpireDays*86400)=ttl
    by_cases hskip : claimed="" ∨ ttl≤0
    · rw [if_pos hskip]
      exact hstore
    · rw [if_neg hskip,Function.update_of_ne hne]
      exact hstore

/-- The key for a token is one of the service. -/
theorem resolveKey_mem (settings : Settings) (crypto : Crypto) (token : Token) :
    resolveKeyForVerification settings crypto token=settings.secretKey ∨
      some (resolveKeyForVerification settings crypto token)=settings.previousSecretKey := by
  unfold resolveKeyForVerification
  cases token.kid with
  | none => exact .inl rfl
  | some kid =>
    dsimp only
    split
    · exact .inl rfl
    · cases settings.previousSecretKey with
      | none => exact .inl rfl
      | some previous =>
        dsimp only
        split
        · exact .inr rfl
        · exact .inl rfl

/-- A verified token has its claims and a signature of the service. -/
theorem verifyToken_ok {store : Revocations} {token : Token} {now : ℤ} {payload : Payload}
    (h : verifyToken settings crypto store token now=.ok payload) : payload=token.payload ∧
      (token.signedWith=settings.secretKey ∨ some token.signedWith=settings.previousSecretKey) := by
  unfold verifyToken decode at h
  by_cases hsigned : token.signedWith=resolveKeyForVerification settings crypto token ∧
      ∀ exp∈token.payload.exp,now≤exp
  · rw [if_pos hsigned] at h
    dsimp only at h
    split at h
    · cases h
    · cases h
      refine ⟨rfl,?_⟩
      rw [hsigned.1]
      exact resolveKey_mem settings crypto token
  · rw [if_neg hsigned] at h
    cases h

/-- A token of the service that has not expired and is not revoked is verified. -/
theorem verifyToken_live {store : Revocations} {token : Token} {now : ℤ}
    (hkid : token.kid=some (crypto.computeKid settings.secretKey))
    (hsigned : token.signedWith=settings.secretKey) (hlive : ∀ exp∈token.payload.exp,now≤exp)
    (hstore : ∀ jti∈token.payload.jti,store jti=none) :
    verifyToken settings crypto store token now=.ok token.payload := by
  have hkey : resolveKeyForVerification settings crypto token=settings.secretKey := by
    unfold resolveKeyForVerification
    rw [hkid]
    exact if_pos rfl
  have hnot : ¬∃ jti∈token.payload.jti,jti≠"" ∧ isRevoked store jti now=true := by
    rintro ⟨jti,hjti,_,hrevoked⟩
    unfold isRevoked at hrevoked
    rw [hstore jti hjti] at hrevoked
    cases hrevoked
  unfold verifyToken decode
  rw [hkey,if_pos ⟨hsigned,hlive⟩]
  exact if_neg hnot

/-- The tokens of a refresh are about the user of the token, whose version it has. -/
theorem refreshToken_ok {users : UserTable} {store : Revocations} {token : Token} {now : ℤ}
    {accessJti refreshJti : String} {tokens : Token×Token}
    (h : refreshToken settings crypto roles users store token now accessJti refreshJti=.ok tokens) :
    (token.signedWith=settings.secretKey ∨ some token.signedWith=settings.previousSecretKey) ∧
    ∃ uid u role,token.payload.uid=some uid ∧ findUser users uid=some u ∧
      roleOf roles u=some role ∧ token.payload.rv=some u.roleVersion ∧
      tokens=tokenPair settings crypto now accessJti refreshJti (sessionData u role) := by
  unfold refreshToken at h
  cases hverified : verifyToken settings crypto store token now with
  | error e =>
    rw [hverified] at h
    cases h
  | ok payload =>
    obtain ⟨rfl,hsigned⟩ := verifyToken_ok hverified
    refine ⟨hsigned,?_⟩
    rw [hverified] at h
    dsimp only at h
    by_cases htype : token.payload.type≠some "refresh"
    · rw [if_pos htype] at h
      cases h
    rw [if_neg htype] at h
    cases hrv : token.payload.rv with
    | none =>
      rw [hrv] at h
      cases h
    | some rv =>
      rw [hrv] at h
      dsimp only at h
      cases hfound : token.payload.uid.bind (findUser users) with
      | none =>
        rw [hfound] at h
        cases h
      | some u =>
        rw [hfound] at h
        dsimp only at h
        obtain ⟨uid,huid,hu⟩ := Option.bind_eq_some_iff.mp hfound
        cases hrole : roleOf roles u with
        | none =>
          rw [hrole] at h
          cases h
        | some role =>
          rw [hrole] at h
          dsimp only at h
          by_cases hversion : u.roleVersion≠rv
          · rw [if_pos hversion] at h
            cases h
          · rw [if_neg hversion] at h
            cases h
            exact ⟨uid,u,role,huid,hu,hrole,congrArg some (not_not.mp hversion).symm,rfl⟩

/-- The claims speak of a row that is in standing. -/
structure Standing (roles : List Role) (users : UserTable) (payload : Payload) (u : User)
    (role : Role) : Prop where
  /-- The name claim is no empty text. -/
  sub : payload.sub.getD ""≠""
  /-- The id claim is no empty text. -/
  uid : payload.uid.getD ""≠""
  /-- The row of the id. -/
  found : findUser users (payload.uid.getD "")=some u
  /-- `is_active`. -/
  active : u.isActive=true
  /-- `is_locked`. -/
  unlocked : u.isLocked=false
  /-- The role claim. -/
  name : role.name=payload.role.getD "viewer"
  /-- The role of the row. -/
  role : roleOf roles u=some role
  /-- The version claim. -/
  version : payload.rv=some u.roleVersion

/-- A token is accepted exactly when it is verified and its row is in standing. -/
theorem getCurrentUser_ok_iff (roles : List Role) (users : UserTable) (store : Revocations)
    (token : Token) (now : ℤ) (a : AuthenticatedUser) :
    getCurrentUser settings crypto roles users store (some token) now=.ok a ↔
      verifyToken settings crypto store token now=.ok token.payload ∧
        ∃ u role,Standing roles users token.payload u role ∧ a=⟨u.id,u.username,role.name⟩ := by
  unfold getCurrentUser
  dsimp only
  cases hverified : verifyToken settings crypto store token now with
  | error e => exact ⟨nofun,fun h => by cases h.1⟩
  | ok payload =>
    obtain ⟨rfl,_⟩ := verifyToken_ok hverified
    dsimp only
    by_cases hclaims : token.payload.sub.getD ""="" ∨ token.payload.uid.getD ""=""
    · rw [if_pos hclaims]
      refine ⟨nofun,fun ⟨_,_,_,h,_⟩ => ?_⟩
      cases hclaims with
      | inl hsub => exact absurd hsub h.sub
      | inr huid => exact absurd huid h.uid
    rw [if_neg hclaims]
    obtain ⟨hsub,huid⟩ := not_or.mp hclaims
    cases hfound : findUser users (token.payload.uid.getD "") with
    | none => exact ⟨nofun,fun ⟨_,_,_,h,_⟩ => nomatch hfound.symm.trans h.found⟩
    | some u =>
      have hrow : ∀ v role,Standing roles users token.payload v role→v=u :=
        fun v role h => Option.some.inj (h.found.symm.trans hfound)
      dsimp only
      by_cases hactive : u.isActive=false
      · rw [if_pos hactive]
        refine ⟨nofun,fun ⟨_,v,role,h,_⟩ => ?_⟩
        have hv := h.active
        rw [hrow v role h,hactive] at hv
        cases hv
      rw [if_neg hactive]
      by_cases hlocked : u.isLocked=true
      · rw [if_pos hlocked]
        refine ⟨nofun,fun ⟨_,v,role,h,_⟩ => ?_⟩
        have hv := h.unlocked
        rw [hrow v role h,hlocked] at hv
        cases hv
      rw [if_neg hlocked]
      cases hrole : roleOf roles u with
      | none =>
        refine ⟨nofun,fun ⟨_,v,role,h,_⟩ => ?_⟩
        have hv := h.role
        rw [hrow v role h,hrole] at hv
        cases hv
      | some role =>
        dsimp only
        by_cases hname : role.name≠token.payload.role.getD "viewer"
        · rw [if_pos hname]
          refine ⟨nofun,fun ⟨_,v,other,h,_⟩ => ?_⟩
          have hv := h.role
          rw [hrow v other h,hrole] at hv
          cases hv
          exact absurd h.name hname
        rw [if_neg hname]
        by_cases hversion : token.payload.rv≠some u.roleVersion
        · rw [if_pos hversion]
          refine ⟨nofun,fun ⟨_,v,other,h,_⟩ => ?_⟩
          have hv := h.version
          rw [hrow v other h] at hv
          exact absurd hv hversion
        rw [if_neg hversion]
        have hstanding : Standing roles users token.payload u role :=
          ⟨hsub,huid,hfound,Bool.eq_true_of_not_eq_false hactive,Bool.eq_false_iff.mpr hlocked,
            not_not.mp hname,hrole,not_not.mp hversion⟩
        constructor
        · intro hok
          cases hok
          exact ⟨rfl,u,role,hstanding,rfl⟩
        · rintro ⟨_,v,other,h,rfl⟩
          have hv := h.role
          rw [hrow v other h,hrole] at hv
          cases hv
          rw [hrow v role h]

/-- A verified token is accepted exactly when its user is active and unlocked and has
the role and the version of the claims. -/
theorem getCurrentUser_iff (roles : List Role) (a : AuthenticatedUser) {users : UserTable}
    {store : Revocations} {token : Token} {now : ℤ} {u : User}
    (hverified : verifyToken settings crypto store token now=.ok token.payload)
    (hsub : token.payload.sub=some u.username) (huid : token.payload.uid=some u.id)
    (hu : findUser users u.id=some u) :
    getCurrentUser settings crypto roles users store (some token) now=.ok a ↔
      u.isActive=true ∧ u.isLocked=false ∧ ∃ role,roleOf roles u=some role ∧
        token.payload.role.getD "viewer"=role.name ∧ token.payload.rv=some u.roleVersion ∧
        a=⟨u.id,u.username,role.name⟩ := by
  rw [getCurrentUser_ok_iff]
  constructor
  · rintro ⟨_,v,role,h,rfl⟩
    have hfound := h.found
    rw [huid,Option.getD_some,hu] at hfound
    cases hfound
    exact ⟨h.active,h.unlocked,role,h.role,h.name.symm,h.version,rfl⟩
  · rintro ⟨hactive,hlocked,role,hrole,hname,hversion,rfl⟩
    refine ⟨hverified,u,role,⟨?_,?_,?_,hactive,hlocked,hname.symm,hrole,hversion⟩,rfl⟩
    · rw [hsub]
      exact u.username_ne
    · rw [huid]
      exact u.id_ne
    · rw [huid]
      exact hu

end Aqts.AuthTokens
