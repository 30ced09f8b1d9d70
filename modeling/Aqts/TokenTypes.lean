import Aqts.RoleVersions

/-!
# Access and refresh tokens

Both kinds carry the same claims about a user and pass the same verification.
The refresh endpoint looks at the type, the requests do not: a refresh token is
accepted as the credential of a request as long as it lives, days after the
lifetime of an access token. Access tokens keep to their own use. Moments are
the whole seconds of the claims.
-/

namespace Aqts.TokenTypes

open UserAccounts AuthTokens

/-- Tokens that `AuthService` mints at a moment, for any claims. -/
inductive Minted (settings : Settings) (crypto : Crypto) (mintedAt : ℤ) : Token→Prop
  /-- `create_access_token`. -/
  | access (jti : String) (data : Payload) :
    Minted settings crypto mintedAt (createAccessToken settings crypto mintedAt jti data)
  /-- `create_refresh_token`. -/
  | refresh (jti : String) (data : Payload) :
    Minted settings crypto mintedAt (createRefreshToken settings crypto mintedAt jti data)

/-- The tokens of a login or of a refresh are minted. -/
theorem tokenPair_minted (settings : Settings) (crypto : Crypto) (mintedAt : ℤ)
    (accessJti refreshJti : String) (data : Payload) :
    Minted settings crypto mintedAt
        (tokenPair settings crypto mintedAt accessJti refreshJti data).1 ∧
      Minted settings crypto mintedAt
        (tokenPair settings crypto mintedAt accessJti refreshJti data).2 :=
  ⟨.access accessJti data,.refresh refreshJti data⟩

/-- What verification asks of a token: the signature of the key for it, the expiry and
no revocation. -/
structure Live (settings : Settings) (crypto : Crypto) (store : Revocations) (token : Token)
    (now : ℤ) : Prop where
  /-- The signature. -/
  signed : token.signedWith=resolveKeyForVerification settings crypto token
  /-- The expiry. -/
  expiry : ∀ exp∈token.payload.exp,now≤exp
  /-- The revocation. -/
  kept : ¬∃ jti∈token.payload.jti,jti≠"" ∧ isRevoked store jti now=true

variable {settings mint : Settings} {crypto : Crypto} {roles : List Role} {users : UserTable}
  {store : Revocations} {token : Token} {mintedAt now : ℤ}

/-- Verification gives the claims of a live token and refuses every other one. -/
theorem verifyToken_ok_iff : verifyToken settings crypto store token now=.ok token.payload ↔
    Live settings crypto store token now := by
  unfold verifyToken decode
  by_cases hdecoded : token.signedWith=resolveKeyForVerification settings crypto token ∧
      ∀ exp∈token.payload.exp,now≤exp
  · rw [if_pos hdecoded]
    dsimp only
    by_cases hrevoked : ∃ jti∈token.payload.jti,jti≠"" ∧ isRevoked store jti now=true
    · rw [if_pos hrevoked]
      exact ⟨nofun,fun h => absurd hrevoked h.kept⟩
    · rw [if_neg hrevoked]
      exact ⟨fun _ => ⟨hdecoded.1,hdecoded.2,hrevoked⟩,fun _ => rfl⟩
  · rw [if_neg hdecoded]
    exact ⟨nofun,fun h => absurd ⟨h.signed,h.expiry⟩ hdecoded⟩

/-- A request with the token as its credential is accepted. -/
def Accepted (settings : Settings) (crypto : Crypto) (roles : List Role) (users : UserTable)
    (store : Revocations) (token : Token) (now : ℤ) : Prop :=
  ∃ a,getCurrentUser settings crypto roles users store (some token) now=.ok a

/-- `/auth/refresh` gives new tokens for the token. -/
def Refreshed (settings : Settings) (crypto : Crypto) (roles : List Role) (users : UserTable)
    (store : Revocations) (token : Token) (now : ℤ) : Prop :=
  ∃ accessJti refreshJti tokens,
    refreshToken settings crypto roles users store token now accessJti refreshJti=.ok tokens

/-- The claims speak of a row that is active and unlocked and has their role and version. -/
def InStanding (roles : List Role) (users : UserTable) (payload : Payload) : Prop :=
  ∃ u role,Standing roles users payload u role

/-- A token is accepted exactly when it is live and its row is in standing. -/
theorem accepted_iff : Accepted settings crypto roles users store token now ↔
    Live settings crypto store token now ∧ InStanding roles users token.payload := by
  unfold Accepted InStanding
  simp only [getCurrentUser_ok_iff,verifyToken_ok_iff]
  constructor
  · rintro ⟨_,hlive,u,role,h,_⟩
    exact ⟨hlive,u,role,h⟩
  · rintro ⟨hlive,u,role,h⟩
    exact ⟨_,hlive,u,role,h,rfl⟩

/-- The refresh endpoint takes refresh tokens only. -/
theorem Refreshed.type (h : Refreshed settings crypto roles users store token now) :
    token.payload.type=some "refresh" := by
  obtain ⟨_,_,_,hok⟩ := h
  unfold refreshToken at hok
  cases hverified : verifyToken settings crypto store token now with
  | error e =>
    rw [hverified] at hok
    cases hok
  | ok payload =>
    obtain ⟨rfl,_⟩ := verifyToken_ok hverified
    rw [hverified] at hok
    dsimp only at hok
    by_cases htype : token.payload.type≠some "refresh"
    · rw [if_pos htype] at hok
      cases hok
    · exact not_not.mp htype

/-- Each consumer takes tokens of its own type, and no credential outlives an access
token. -/
structure Enforced (settings mint : Settings) (crypto : Crypto) (roles : List Role)
    (users : UserTable) (store : Revocations) (token : Token) (mintedAt now : ℤ) : Prop where
  /-- Requests take access tokens. -/
  request : Accepted settings crypto roles users store token now→
    token.payload.type=some "access"
  /-- The refresh endpoint takes refresh tokens. -/
  refresh : Refreshed settings crypto roles users store token now→
    token.payload.type=some "refresh"
  /-- Credentials live for `access_token_expire_hours`. -/
  lifetime : Accepted settings crypto roles users store token now→
    now≤ mintedAt+mint.accessTokenExpireHours*3600

/-- An access token keeps to its use and its lifetime. -/
theorem enforced_access {jti : String} {data : Payload}
    (htoken : token=createAccessToken mint crypto mintedAt jti data) :
    Enforced settings mint crypto roles users store token mintedAt now := by
  refine ⟨fun _ => by rw [htoken]; rfl,Refreshed.type,fun haccepted => ?_⟩
  have hexp : token.payload.exp=some (mintedAt+mint.accessTokenExpireHours*3600) := by
    rw [htoken]
    rfl
  exact (accepted_iff.mp haccepted).1.expiry _ hexp

/-- For every minted token, under all keys, at every moment and over all tables: the
types are enforced exactly when the token is an access token, or is not live, or its
row is not in standing. -/
theorem types_enforced_iff (settings : Settings) (crypto : Crypto) (roles : List Role)
    (users : UserTable) (store : Revocations) (now : ℤ)
    (hminted : Minted mint crypto mintedAt token) :
    Enforced settings mint crypto roles users store token mintedAt now ↔
      token.payload.type=some "access" ∨ ¬Live settings crypto store token now ∨
        ¬InStanding roles users token.payload := by
  cases hminted with
  | access jti data => exact ⟨fun _ => .inl rfl,fun _ => enforced_access rfl⟩
  | refresh jti data =>
    have htype : (createRefreshToken mint crypto mintedAt jti data).payload.type≠some "access" :=
      fun heq => absurd (Option.some.inj heq) (by decide)
    constructor
    · intro h
      refine .inr (not_and_or.mp fun haccepted => ?_)
      exact htype (h.request (accepted_iff.mpr haccepted))
    · intro h
      have hrefused : ¬Accepted settings crypto roles users store
          (createRefreshToken mint crypto mintedAt jti data) now := by
        intro haccepted
        have hboth := accepted_iff.mp haccepted
        rcases h with hkind | hlive | hstanding
        · exact htype hkind
        · exact hlive hboth.1
        · exact hstanding hboth.2
      exact ⟨fun h => absurd h hrefused,Refreshed.type,fun h => absurd h hrefused⟩

/-- The default settings with one key. -/
def oneKey : Settings := ⟨"secret",none,24,7⟩

/-- The claims about the one operator. -/
def kimData : Payload := {sub := some "kim",uid := some "7f1c",role := some "operator",rv := some 0}

/-- The operator's row is in standing. -/
theorem kim_inStanding (type : String) (exp : ℤ) : InStanding RoleVersions.allRoles
    RoleVersions.operators {kimData with
      exp := some exp
      iat := some 0
      jti := some "r1"
      type := some type} := by
  have hfound : findUser RoleVersions.operators "7f1c"=
      some (RoleVersions.operators.rows.head (by decide)) := rfl
  exact ⟨_,⟨2,"operator"⟩,(by decide : "kim"≠""),(by decide : "7f1c"≠""),hfound,rfl,rfl,rfl,rfl,rfl⟩

/-- The operator's refresh token is live for a week. -/
theorem kim_live : Live oneKey RoleVersions.oneHash (fun _ => none)
    (createRefreshToken oneKey RoleVersions.oneHash 0 "r1" kimData) 90000 := by
  refine ⟨rfl,fun exp hexp => ?_,?_⟩
  · cases hexp
    decide
  · rintro ⟨_,_,_,hrevoked⟩
    cases hrevoked

/-- A refresh token minted at 0 is accepted as a credential after 25 hours, one hour
after the access token of the same login has expired. -/
theorem types_not_enforced : ¬∀ (token : Token),Minted oneKey RoleVersions.oneHash 0 token→
    ∀ now,Enforced oneKey oneKey RoleVersions.oneHash RoleVersions.allRoles RoleVersions.operators
      (fun _ => none) token 0 now := by
  intro hall
  have haccepted : Accepted oneKey RoleVersions.oneHash RoleVersions.allRoles
      RoleVersions.operators (fun _ => none)
      (createRefreshToken oneKey RoleVersions.oneHash 0 "r1" kimData) 90000 :=
    accepted_iff.mpr ⟨kim_live,kim_inStanding "refresh" 604800⟩
  have hlife := (hall _ (.refresh "r1" kimData) 90000).lifetime haccepted
  exact absurd hlife (by decide)

/-- A service with another key refuses the same token. -/
theorem types_enforced_rotated : Enforced ⟨"rotated",none,24,7⟩ oneKey RoleVersions.oneHash
    RoleVersions.allRoles RoleVersions.operators (fun _ => none)
    (createRefreshToken oneKey RoleVersions.oneHash 0 "r1" kimData) 0 90000 :=
  (types_enforced_iff ⟨"rotated",none,24,7⟩ RoleVersions.oneHash RoleVersions.allRoles
    RoleVersions.operators (fun _ => none) 90000 (.refresh "r1" kimData)).mpr
    (.inr (.inl fun h => absurd h.signed (by decide)))

end Aqts.TokenTypes
