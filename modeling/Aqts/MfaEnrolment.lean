import Aqts.LoginAttempts
import Aqts.RoleVersions

/-!
# Enrolment of a second factor

`mfa_enroll`, `mfa_verify` and `mfa_disable` with the logins between them. An
enrolment stores its secret at once, to be confirmed later, and does so also for a
user whose second factor is on. As long as only users without one enrol, the
secret of every enabled user is one that the user has shown a code for, and it
leaves the row only with the user's password.
-/

namespace Aqts.MfaEnrolment

open GuardedRuns UserAccounts AuthTokens LoginAttempts

/-- `MFAEnrollResponse`. -/
structure MFAEnrollResponse where
  /-- `secret`. -/
  secret : String
  /-- `provisioning_uri`. -/
  provisioningUri : String

section Handlers

variable (crypto : Crypto) (getProvisioningUri : String→String→String)

/-- `mfa_enroll`, with the secret it generates. -/
def mfaEnroll (users : UserTable) (currentUser : AuthenticatedUser) (secret : String) :
    UserTable×APIResponse MFAEnrollResponse :=
  let uri := getProvisioningUri secret currentUser.username
  let response := ⟨true,some ⟨secret,uri⟩,"TOTP 시크릿 생성됨. 인증기에 등록하세요."⟩
  match findUser users currentUser.id with
  | none => (users,response)
  | some _ =>
    (modifyUser users currentUser.id (fun u => {u with totpSecret := some secret}) fun _ => rfl,
      response)

/-- `mfa_verify`. -/
def mfaVerify (users : UserTable) (currentUser : AuthenticatedUser) (totpCode : String) (now : ℤ) :
    UserTable×APIResponse Bool :=
  match findUser users currentUser.id with
  | none => (users,⟨false,none,"TOTP enrollment not started. Call /mfa/enroll first."⟩)
  | some user =>
    if user.totpSecret.getD ""="" then
      (users,⟨false,none,"TOTP enrollment not started. Call /mfa/enroll first."⟩)
    else if crypto.verifyTotp (user.totpSecret.getD "") totpCode now=false then
      (users,⟨false,none,"Invalid TOTP code"⟩)
    else
      (modifyUser users currentUser.id (fun u => {u with totpEnabled := true}) fun _ => rfl,
        ⟨true,some true,"MFA가 활성화되었습니다."⟩)

/-- `mfa_disable`. -/
def mfaDisable (users : UserTable) (currentUser : AuthenticatedUser) (password : String) :
    UserTable×APIResponse Bool :=
  match findUser users currentUser.id with
  | none => (users,⟨false,none,"User not found"⟩)
  | some user =>
    if crypto.verifyPassword password user.passwordHash=false then
      (users,⟨false,none,"Incorrect password"⟩)
    else
      (modifyUser users currentUser.id (fun u => {u with
          totpEnabled := false
          totpSecret := none}) fun _ => rfl,
        ⟨true,some false,"MFA가 비활성화되었습니다."⟩)

end Handlers

/-- The accounts and what their users have confirmed. -/
structure System where
  /-- `users`. -/
  users : UserTable
  /-- Secrets, by the id of the user, for which `/mfa/verify` took a code. -/
  confirmed : List (String×String)

/-- Accounts before any enrolment. -/
def System.start (users : UserTable) : System := ⟨users,[]⟩

/-- Requests, with their clocks, fresh ids and secrets. -/
inductive Request
  /-- `authenticate`. -/
  | authenticate (username password : String) (totpCode : Option String) (now : ℤ)
    (accessJti refreshJti : String)
  /-- `/mfa/enroll`. -/
  | enroll (currentUser : AuthenticatedUser) (secret : String)
  /-- `/mfa/verify`. -/
  | verify (currentUser : AuthenticatedUser) (totpCode : String) (now : ℤ)
  /-- `/mfa/disable`. -/
  | disable (currentUser : AuthenticatedUser) (password : String)

/-- The stored secret of a user. -/
def storedSecret (users : UserTable) (userId : String) : String :=
  ((findUser users userId).bind User.totpSecret).getD ""

section Steps

variable (settings : Settings) (crypto : Crypto) (getProvisioningUri : String→String→String)
  (roles : List Role)

/-- One request. -/
def step (s : System) : Request→Option System
  | .authenticate username password totpCode now accessJti refreshJti =>
    some {s with users := (authenticate settings crypto roles s.users username password totpCode
      now accessJti refreshJti).1}
  | .enroll currentUser secret =>
    some {s with users := (mfaEnroll getProvisioningUri s.users currentUser secret).1}
  | .verify currentUser totpCode now =>
    let (users,response) := mfaVerify crypto s.users currentUser totpCode now
    if response.success=true then
      some ⟨users,(currentUser.id,storedSecret s.users currentUser.id)::s.confirmed⟩
    else some {s with users := users}
  | .disable currentUser password =>
    some {s with users := (mfaDisable crypto s.users currentUser password).1}

/-- Enrolments are of users whose second factor is off. -/
def WhileOff (s : System) : Request→Prop
  | .enroll currentUser _ => ∀ u∈findUser s.users currentUser.id,u.totpEnabled=false
  | _ => True

instance (s : System) : (r : Request)→Decidable (WhileOff s r)
  | .enroll currentUser _ => inferInstanceAs (Decidable
      (∀ u∈findUser s.users currentUser.id,u.totpEnabled=false))
  | .authenticate _ _ _ _ _ _ => .isTrue trivial
  | .verify _ _ _ => .isTrue trivial
  | .disable _ _ => .isTrue trivial

end Steps

/-- Every enabled user has confirmed the stored secret. -/
def Confirmed (s : System) : Prop :=
  ∀ u∈s.users.rows,u.totpEnabled=true→
    ∃ secret,u.totpSecret=some secret ∧ (u.id,secret)∈s.confirmed

instance (s : System) : Decidable (Confirmed s) :=
  decidable_of_iff (∀ u∈s.users.rows,u.totpEnabled=true→
    ∃ secret∈u.totpSecret,(u.id,secret)∈s.confirmed) Iff.rfl

/-- An enabled user keeps the second factor in a request, but for its own removal with
the password. -/
def FactorKept (crypto : Crypto) (s : System) (r : Request) (s' : System) : Prop :=
  ∀ u∈s.users.rows,u.totpEnabled=true→
    (∃ u'∈s'.users.rows,u'.id=u.id ∧ u'.totpEnabled=true ∧ u'.totpSecret=u.totpSecret) ∨
      ∃ currentUser password,r=.disable currentUser password ∧ currentUser.id=u.id ∧
        crypto.verifyPassword password u.passwordHash=true

variable {settings : Settings} {crypto : Crypto} {getProvisioningUri : String→String→String}
  {roles : List Role} {users : UserTable} {s s' : System}

/-- A row after the change of one user. -/
theorem mem_onUser {rows : List User} {userId : String} {f : User→User} {u' : User}
    (h : u'∈rows.map (onUser userId f)) :
    ∃ u∈rows,(u.id=userId ∧ u'=f u) ∨ (u.id≠userId ∧ u'=u) := by
  obtain ⟨u,hu,rfl⟩ := List.mem_map.mp h
  refine ⟨u,hu,?_⟩
  unfold onUser
  by_cases hid : u.id=userId
  · exact .inl ⟨hid,if_pos hid⟩
  · exact .inr ⟨hid,if_neg hid⟩

/-- What an enrolment does to the rows. -/
theorem mfaEnroll_rows (getProvisioningUri : String→String→String) (users : UserTable)
    (currentUser : AuthenticatedUser) (secret : String) :
    (mfaEnroll getProvisioningUri users currentUser secret).1=users ∨
      (mfaEnroll getProvisioningUri users currentUser secret).1=modifyUser users currentUser.id
        (fun u => {u with totpSecret := some secret}) fun _ => rfl := by
  unfold mfaEnroll
  cases findUser users currentUser.id with
  | none => exact .inl rfl
  | some _ => exact .inr rfl

/-- A verification that succeeds enables the user, whose stored secret the code is of. -/
theorem mfaVerify_spec (crypto : Crypto) (users : UserTable) (currentUser : AuthenticatedUser)
    (totpCode : String) (now : ℤ) :
    ((mfaVerify crypto users currentUser totpCode now).2.success=false ∧
        (mfaVerify crypto users currentUser totpCode now).1=users) ∨
      ((mfaVerify crypto users currentUser totpCode now).2.success=true ∧
        (mfaVerify crypto users currentUser totpCode now).1=modifyUser users currentUser.id
          (fun u => {u with totpEnabled := true}) (fun _ => rfl) ∧
        ∃ u secret,findUser users currentUser.id=some u ∧ u.totpSecret=some secret ∧ secret≠"" ∧
          crypto.verifyTotp secret totpCode now=true) := by
  unfold mfaVerify
  cases hfound : findUser users currentUser.id with
  | none => exact .inl ⟨rfl,rfl⟩
  | some u =>
    dsimp only
    by_cases hempty : u.totpSecret.getD ""=""
    · rw [if_pos hempty]
      exact .inl ⟨rfl,rfl⟩
    rw [if_neg hempty]
    by_cases hcode : crypto.verifyTotp (u.totpSecret.getD "") totpCode now=false
    · rw [if_pos hcode]
      exact .inl ⟨rfl,rfl⟩
    rw [if_neg hcode]
    cases hsecret : u.totpSecret with
    | none =>
      rw [hsecret] at hempty
      exact absurd rfl hempty
    | some secret =>
      rw [hsecret] at hempty hcode
      exact .inr ⟨rfl,rfl,u,secret,rfl,hsecret,hempty,Bool.eq_true_of_not_eq_false hcode⟩

/-- What a removal does to the rows, with the right password only. -/
theorem mfaDisable_rows (crypto : Crypto) (users : UserTable) (currentUser : AuthenticatedUser)
    (password : String) :
    (mfaDisable crypto users currentUser password).1=users ∨
      ((mfaDisable crypto users currentUser password).1=modifyUser users currentUser.id
          (fun u => {u with
            totpEnabled := false
            totpSecret := none}) (fun _ => rfl) ∧
        ∃ u,findUser users currentUser.id=some u ∧
          crypto.verifyPassword password u.passwordHash=true) := by
  unfold mfaDisable
  cases hfound : findUser users currentUser.id with
  | none => exact .inl rfl
  | some u =>
    dsimp only
    by_cases hpassword : crypto.verifyPassword password u.passwordHash=false
    · rw [if_pos hpassword]
      exact .inl rfl
    · rw [if_neg hpassword]
      exact .inr ⟨rfl,u,rfl,Bool.eq_true_of_not_eq_false hpassword⟩

/-- The found row is the one of the id. -/
theorem eq_of_findUser {userId : String} {u v : User} (hfound : findUser users userId=some v)
    (hu : u∈users.rows) (hid : u.id=userId) : u=v := by
  have hrow := findUser_of_mem hu
  rw [hid,hfound] at hrow
  exact (Option.some.inj hrow).symm

/-- A request keeps the stored secrets confirmed. -/
theorem Confirmed.step (h : Confirmed s) {r : Request} (hoff : WhileOff s r)
    (hs : MfaEnrolment.step settings crypto getProvisioningUri roles s r=some s') :
    Confirmed s' := by
  cases r with
  | authenticate username password totpCode now accessJti refreshJti =>
    cases hs
    intro u' hu' henabled
    dsimp only at hu'
    rcases authenticate_rows settings crypto roles s.users username password totpCode now accessJti
      refreshJti with hsame | ⟨userId,f,hrows,hfactor⟩
    · rw [hsame] at hu'
      exact h u' hu' henabled
    · rw [hrows] at hu'
      obtain ⟨u,hu,⟨_,rfl⟩ | ⟨_,rfl⟩⟩ := mem_onUser hu'
      · obtain ⟨hid,hflag,hsecret⟩ := hfactor u
        rw [hflag] at henabled
        rw [hsecret,hid]
        exact h u hu henabled
      · exact h u' hu henabled
  | enroll currentUser secret =>
    cases hs
    intro u' hu' henabled
    dsimp only at hu'
    rcases mfaEnroll_rows getProvisioningUri s.users currentUser secret with
      hsame | hrows
    · rw [hsame] at hu'
      exact h u' hu' henabled
    · rw [hrows] at hu'
      obtain ⟨u,hu,⟨hid,rfl⟩ | ⟨_,rfl⟩⟩ := mem_onUser hu'
      · have hrow := findUser_of_mem hu
        rw [hid] at hrow
        have hdisabled := hoff u hrow
        dsimp only at henabled
        rw [hdisabled] at henabled
        cases henabled
      · exact h u' hu henabled
  | verify currentUser totpCode now =>
    dsimp only [MfaEnrolment.step] at hs
    rcases mfaVerify_spec crypto s.users currentUser totpCode now with
      ⟨hfailed,hsame⟩ | ⟨hsuccess,hrows,v,secret,hfound,hsecret,_,_⟩
    · rw [hfailed,hsame,if_neg Bool.false_ne_true] at hs
      cases hs
      exact h
    · rw [hsuccess,hrows,if_pos rfl] at hs
      cases hs
      intro u' hu' henabled
      obtain ⟨u,hu,⟨hid,rfl⟩ | ⟨_,rfl⟩⟩ := mem_onUser hu'
      · have hv := eq_of_findUser hfound hu hid
        refine ⟨secret,by rw [hv]; exact hsecret,?_⟩
        have hstored : storedSecret s.users currentUser.id=secret := by
          unfold storedSecret
          rw [hfound,Option.bind_some,hsecret,Option.getD_some]
        rw [hstored]
        dsimp only
        rw [hid]
        exact List.mem_cons_self
      · obtain ⟨secret',hsecret',hmem⟩ := h u' hu henabled
        exact ⟨secret',hsecret',List.mem_cons_of_mem _ hmem⟩
  | disable currentUser password =>
    cases hs
    intro u' hu' henabled
    dsimp only at hu'
    rcases mfaDisable_rows crypto s.users currentUser password with
      hsame | ⟨hrows,_⟩
    · rw [hsame] at hu'
      exact h u' hu' henabled
    · rw [hrows] at hu'
      obtain ⟨u,hu,⟨_,rfl⟩ | ⟨_,rfl⟩⟩ := mem_onUser hu'
      · cases henabled
      · exact h u' hu henabled

/-- A change of one user that leaves the second factor. -/
theorem kept_of_onUser {rows : List User} {userId : String} {f : User→User} {u : User}
    (hu : u∈rows) (henabled : u.totpEnabled=true)
    (hfactor : u.id=userId→(f u).id=u.id ∧ (f u).totpEnabled=true ∧
      (f u).totpSecret=u.totpSecret) :
    ∃ u'∈rows.map (onUser userId f),u'.id=u.id ∧ u'.totpEnabled=true ∧
      u'.totpSecret=u.totpSecret := by
  refine ⟨_,List.mem_map_of_mem hu,?_⟩
  unfold onUser
  by_cases hid : u.id=userId
  · rw [if_pos hid]
    exact hfactor hid
  · rw [if_neg hid]
    exact ⟨rfl,henabled,rfl⟩

/-- A request keeps the second factor of the enabled users. -/
theorem factorKept_of_step {r : Request} (hoff : WhileOff s r)
    (hs : step settings crypto getProvisioningUri roles s r=some s') :
    FactorKept crypto s r s' := by
  intro u hu henabled
  have hrow := findUser_of_mem hu
  cases r with
  | authenticate username password totpCode now accessJti refreshJti =>
    cases hs
    refine .inl ?_
    dsimp only
    rcases authenticate_rows settings crypto roles s.users username password totpCode now accessJti
      refreshJti with hsame | ⟨userId,f,hrows,hfactor⟩
    · rw [hsame]
      exact ⟨u,hu,rfl,henabled,rfl⟩
    · rw [hrows]
      obtain ⟨hid,hflag,hsecret⟩ := hfactor u
      exact kept_of_onUser hu henabled fun _ => ⟨hid,hflag.trans henabled,hsecret⟩
  | enroll currentUser secret =>
    cases hs
    refine .inl ?_
    dsimp only
    rcases mfaEnroll_rows getProvisioningUri s.users currentUser secret with
      hsame | hrows
    · rw [hsame]
      exact ⟨u,hu,rfl,henabled,rfl⟩
    · rw [hrows]
      refine kept_of_onUser hu henabled fun hid => ?_
      rw [hid] at hrow
      have hdisabled := hoff u hrow
      rw [hdisabled] at henabled
      cases henabled
  | verify currentUser totpCode now =>
    refine .inl ?_
    dsimp only [step] at hs
    rcases mfaVerify_spec crypto s.users currentUser totpCode now with
      ⟨hfailed,hsame⟩ | ⟨hsuccess,hrows,_⟩
    · rw [hfailed,hsame,if_neg Bool.false_ne_true] at hs
      cases hs
      exact ⟨u,hu,rfl,henabled,rfl⟩
    · rw [hsuccess,hrows,if_pos rfl] at hs
      cases hs
      exact kept_of_onUser hu henabled fun _ => ⟨rfl,rfl,rfl⟩
  | disable currentUser password =>
    cases hs
    dsimp only
    rcases mfaDisable_rows crypto s.users currentUser password with
      hsame | ⟨hrows,v,hfound,hpassword⟩
    · rw [hsame]
      exact .inl ⟨u,hu,rfl,henabled,rfl⟩
    · by_cases hid : u.id=currentUser.id
      · have hv := eq_of_findUser hfound hu hid
        exact .inr ⟨currentUser,password,rfl,hid.symm,by rw [hv]; exact hpassword⟩
      · rw [hrows]
        exact .inl (kept_of_onUser hu henabled fun heq => absurd heq hid)

/-- In every run of requests from accounts without a second factor whose enrolments are
of users whose second factor is off: every enabled user has confirmed the stored secret,
and no further request takes it from the row without the password. -/
theorem enabled_confirmed (hoff : ∀ u∈users.rows,u.totpEnabled=false)
    (hrun : Reaches (step settings crypto getProvisioningUri roles) WhileOff (System.start users)
      s) :
    Confirmed s ∧ ∀ r s',WhileOff s r→step settings crypto getProvisioningUri roles s r=some s'→
      FactorKept crypto s r s' := by
  refine ⟨hrun.invariant ?_ ?_,fun _ _ => factorKept_of_step⟩
  · intro u hu henabled
    rw [hoff u hu] at henabled
    cases henabled
  · intro s r s' _ h hwhile hs
    exact h.step hwhile hs

/-- One password and one code for each of two secrets. -/
def twoSecrets : Crypto where
  computeKid := RoleVersions.oneHash.computeKid
  verifyPassword := RoleVersions.oneHash.verifyPassword
  verifyTotp secret code _ := (secret="JBSWY3DPEHPK3PXP" ∧ code="282760") ∨
    (secret="GEZDGNBVGY3TQOJQ" ∧ code="755224")

/-- The provisioning address. -/
def otpauth (secret username : String) : String :=
  "otpauth://totp/AQTS:"++username++"?secret="++secret++"&issuer=AQTS"

/-- The operator. -/
def kim : AuthenticatedUser := ⟨"7f1c","kim","operator"⟩

/-- The operator confirms a secret, and a second enrolment that is never confirmed takes
its place. -/
theorem enabled_unconfirmed : ¬∀ s,Reaches (step ⟨"secret",none,24,7⟩ twoSecrets otpauth
    RoleVersions.allRoles) (fun _ _ => True) (System.start RoleVersions.operators) s→ Confirmed s :=
  not_forall_reaches [.enroll kim "JBSWY3DPEHPK3PXP",.verify kim "282760" 100,
    .authenticate "kim" "U*U" (some "282760") 200 "a1" "r1",.enroll kim "GEZDGNBVGY3TQOJQ"]
    (by decide +kernel)

/-- An abandoned enrolment, a second one, its confirmation and a login. -/
theorem enabled_confirmed_once : ∃ s,(∃ u∈s.users.rows,u.totpEnabled=true) ∧ Confirmed s := by
  obtain ⟨s,_,henabled,hrun⟩ := play_ends (step ⟨"secret",none,24,7⟩ twoSecrets otpauth
      RoleVersions.allRoles) WhileOff (System.start RoleVersions.operators)
    (fun s => ∃ u∈s.users.rows,u.totpEnabled=true)
    [.enroll kim "GEZDGNBVGY3TQOJQ",.verify kim "000000" 100,.enroll kim "JBSWY3DPEHPK3PXP",
      .verify kim "282760" 200,.authenticate "kim" "U*U" (some "282760") 300 "a1" "r1"]
    (by decide +kernel)
  exact ⟨s,henabled,(enabled_confirmed (by decide) hrun).1⟩

end Aqts.MfaEnrolment
