import Mathlib.Data.Rat.Floor
import Aqts.GuardedRuns
import Aqts.RevocationStores
import Aqts.TokenTypes

/-!
# Logout

Requests and logouts one after the other, with either store of revoked tokens and
a clock that never goes back. The token of a logout is taken from the header
twice: by the scheme up to the first space for the request itself, and by removing
the text `Bearer ` for the revocation. As long as both texts carry the same claims,
a logged out token is refused to its expiry and no revocation is shortened. A
scheme in another spelling leaves the text whole, which is no token.
-/

namespace Aqts.Logout

open GuardedRuns UserAccounts AuthTokens RevocationStores

/-- The scheme and the credentials of `HTTPBearer`: up to the first space, and after it. -/
def credentials (authorization : String) : Option String :=
  let header := authorization.toList
  let scheme := header.takeWhile fun c => c≠ ' '
  let param := (header.dropWhile fun c => c≠ ' ').tail
  if scheme.map Char.toLower="bearer".toList ∧ param≠[] then some (String.ofList param) else none

/-- `replace("Bearer ","")`, of characters. -/
def removeBearer : List Char→List Char
  | 'B' :: 'e' :: 'a' :: 'r' :: 'e' :: 'r' :: ' ' ::rest => removeBearer rest
  | c::rest => c::removeBearer rest
  | [] => []

/-- The text that `logout` revokes. -/
def logoutText (authorization : String) : String :=
  String.ofList (removeBearer authorization.toList)

/-- The data of a logout's answer. -/
structure LogoutData where
  /-- `revoked`. -/
  revoked : Bool
  /-- `jti`. -/
  jti : Option String
  deriving DecidableEq

/-- The answer of a logout to the answer of `revoke_token`. -/
def logoutResponse (jti : Option String) : APIResponse LogoutData where
  success := true
  data := some ⟨jti.isSome,jti⟩
  message := if jti.isSome=true then "로그아웃 완료" else "토큰에 jti가 없어 revoke 불가 (레거시 토큰)"

variable {K : Type*} [Field K] [LinearOrder K]

/-- What a store answers at a moment, as a store for that second. -/
def answers (store : Store K) (now : K) (second : ℤ) : Revocations :=
  fun jti => if (store.isRevoked jti now).1=true then some ⟨(),second⟩ else none

/-- A store answers as it does. -/
theorem isRevoked_answers (store : Store K) (now : K) (second : ℤ) (jti : String) :
    isRevoked (answers store now second) jti second=(store.isRevoked jti now).1 := by
  unfold isRevoked answers
  cases (store.isRevoked jti now).1 with
  | false => rfl
  | true =>
    have hlive : ExpiringSlot.read second (some ⟨(),second⟩)=some () :=
      ExpiringSlot.read_live le_rfl
    rw [if_pos rfl,hlive]
    rfl

variable [FloorRing K]

section Requests

variable (settings : Settings) (crypto : Crypto) (roles : List Role) (parse : String→Option Token)

/-- `verify_token` accepts: it decodes at one moment and asks the store at another. -/
def verifies (store : Store K) (token : Token) (decodeAt checkAt : K) : Bool :=
  match verifyToken settings crypto (answers store checkAt ⌊decodeAt⌋) token ⌊decodeAt⌋ with
  | .error _ => false
  | .ok _ => true

/-- The store after `verify_token`, which asks it about decoded tokens. -/
def afterVerify (store : Store K) (token : Token) (decodeAt checkAt : K) : Store K :=
  match decode token (resolveKeyForVerification settings crypto token) ⌊decodeAt⌋ with
  | none => store
  | some payload =>
    match payload.jti with
    | none => store
    | some jti => if jti="" then store else (store.isRevoked jti checkAt).2

/-- `get_current_user` of a header, and the store afterwards. A text that is no token is
refused. -/
def currentUser (store : Store K) (authorization : String) (users : UserTable)
    (decodeAt checkAt : K) : Except HTTPException AuthenticatedUser×Store K :=
  match credentials authorization with
  | none => (.error ⟨401,.text "Not authenticated"⟩,store)
  | some text =>
    match parse text with
    | none => (.error ⟨401,.text "Invalid authentication credentials"⟩,store)
    | some token =>
      (getCurrentUser settings crypto roles users (answers store checkAt ⌊decodeAt⌋) (some token)
          ⌊decodeAt⌋,
        afterVerify settings crypto store token decodeAt checkAt)

/-- The request is accepted. -/
def accepted (store : Store K) (authorization : String) (users : UserTable)
    (decodeAt checkAt : K) : Bool :=
  match (currentUser settings crypto roles parse store authorization users decodeAt checkAt).1 with
  | .error _ => false
  | .ok _ => true

/-- The store, the clock and what has been logged out. -/
structure System (K : Type*) where
  /-- The store. -/
  store : Store K
  /-- The last reading of the clock. -/
  now : K
  /-- Token texts of logouts that answered with success. -/
  loggedOut : List String
  /-- Revocations and their ends. -/
  revocations : List (String×K)

/-- A store before any logout. -/
def System.start (store : Store K) (now : K) : System K := ⟨store,now,[],[]⟩

/-- Requests with their headers, tables and readings of the clock. -/
inductive Event (K : Type*)
  /-- An authenticated request. -/
  | request (authorization : String) (users : UserTable) (decodeAt checkAt : K)
  /-- `/auth/logout`. -/
  | logout (authorization : String) (users : UserTable) (decodeAt checkAt revokeAt writeAt : K)

/-- A revocation by its claims, if `revoke_token` makes one. -/
def revocationOf (claims : Option Payload) (nowTs : ℤ) (writeAt : K) : Option (String×K) :=
  claims.bind fun claims => claims.jti.bind fun jti =>
    if jti="" ∨ ttlSeconds settings claims nowTs≤0 then none
    else some (jti,writeAt+ttlSeconds settings claims nowTs)

/-- A logout after `get_current_user`. -/
def System.logout (s : System K) (store : Store K) (authorization : String) (revokeAt writeAt : K) :
    System K :=
  let claims := (parse (logoutText authorization)).map Token.payload
  let (revoked,jti) := store.revokeToken settings claims ⌊revokeAt⌋ writeAt
  ⟨revoked,writeAt,
    if (logoutResponse jti).success=true then (credentials authorization).toList++s.loggedOut
    else s.loggedOut,
    (revocationOf settings claims ⌊revokeAt⌋ writeAt).toList++s.revocations⟩

/-- One request. -/
def step (s : System K) : Event K→Option (System K)
  | .request authorization users decodeAt checkAt =>
    if s.now≤decodeAt ∧ decodeAt≤ checkAt then
      let (_,store) := currentUser settings crypto roles parse s.store authorization users decodeAt
        checkAt
      some {s with
        store := store
        now := checkAt}
    else none
  | .logout authorization users decodeAt checkAt revokeAt writeAt =>
    if s.now≤decodeAt ∧ decodeAt≤ checkAt ∧ checkAt≤ revokeAt ∧ revokeAt≤writeAt then
      let (user,store) := currentUser settings crypto roles parse s.store authorization users
        decodeAt checkAt
      match user with
      | .error _ =>
        some {s with
          store := store
          now := checkAt}
      | .ok _ => some (s.logout settings parse store authorization revokeAt writeAt)
    else none

/-- Logouts that are accepted revoke the claims of their token, which have an id. -/
def SameClaims (s : System K) : Event K→Prop
  | .request _ _ _ _ => True
  | .logout authorization users decodeAt checkAt _ _ =>
    accepted settings crypto roles parse s.store authorization users decodeAt checkAt=true→
      ∀ text∈credentials authorization,∀ token∈parse text,token.payload.jti.getD ""≠"" ∧
        (parse (logoutText authorization)).map Token.payload=some token.payload

instance (s : System K) : (e : Event K)→Decidable (SameClaims settings crypto roles parse s e)
  | .request _ _ _ _ => .isTrue trivial
  | .logout authorization users decodeAt checkAt _ _ => inferInstanceAs (Decidable
      (accepted settings crypto roles parse s.store authorization users decodeAt checkAt=true→
        ∀ text∈credentials authorization,∀ token∈parse text,token.payload.jti.getD ""≠"" ∧
          (parse (logoutText authorization)).map Token.payload=some token.payload))

/-- Logged out tokens are refused to their expiry, and revocations last to their ends. -/
structure LoggedOut (s : System K) : Prop where
  /-- Tokens. -/
  refused : ∀ text∈s.loggedOut,∀ token∈parse text,∀ exp∈token.payload.exp,
    ∀ decodeAt checkAt,s.now≤decodeAt→decodeAt≤ checkAt→checkAt≤exp→
      verifies settings crypto s.store token decodeAt checkAt=false
  /-- Revocations. -/
  lasting : ∀ revocation∈s.revocations,∀ t,s.now≤t→t≤ revocation.2→
    (s.store.isRevoked revocation.1 t).1=true

end Requests

/-- The store holds every revocation that has not ended, and every logged out token has
one to its expiry. -/
structure Held (parse : String→Option Token) (s : System K) : Prop where
  /-- Revocations. -/
  held : ∀ revocation∈s.revocations,s.now≤ revocation.2→s.store.Holds revocation.1 revocation.2
  /-- Logged out tokens. -/
  loggedOut : ∀ text∈s.loggedOut,∀ token∈parse text,∀ exp∈token.payload.exp,
    ∃ revocation∈s.revocations,revocation.1≠"" ∧ token.payload.jti=some revocation.1 ∧
      (exp : K)≤ revocation.2

variable {settings : Settings} {crypto : Crypto} {roles : List Role}
  {parse : String→Option Token} {s s' : System K} {store : Store K} {authorization : String}
  {users : UserTable} {decodeAt checkAt : K}

/-- A token that the store holds is not verified. -/
theorem verifies_revoked (settings : Settings) (crypto : Crypto) (decodeAt : K) {token : Token}
    {jti : String} (hjti : token.payload.jti=some jti)
    (hne : jti≠"") (hrevoked : (store.isRevoked jti checkAt).1=true) :
    verifies settings crypto store token decodeAt checkAt=false := by
  unfold verifies
  cases hverified : verifyToken settings crypto (answers store checkAt ⌊decodeAt⌋) token
      ⌊decodeAt⌋ with
  | error e => rfl
  | ok payload =>
    obtain ⟨rfl,_⟩ := verifyToken_ok hverified
    have hkept := (TokenTypes.verifyToken_ok_iff.mp hverified).kept
    have hanswer := isRevoked_answers store checkAt ⌊decodeAt⌋ jti
    exact absurd ⟨jti,hjti,hne,hanswer.trans hrevoked⟩ hkept

/-- An accepted request carries a token that is verified. -/
theorem verifies_of_accepted
    (h : accepted settings crypto roles parse store authorization users decodeAt checkAt=true) :
    ∃ text token,credentials authorization=some text ∧ parse text=some token ∧
      verifies settings crypto store token decodeAt checkAt=true := by
  unfold accepted currentUser at h
  cases htext : credentials authorization with
  | none =>
    rw [htext] at h
    cases h
  | some text =>
    rw [htext] at h
    dsimp only at h
    cases htoken : parse text with
    | none =>
      rw [htoken] at h
      cases h
    | some token =>
      rw [htoken] at h
      dsimp only at h
      refine ⟨text,token,rfl,htoken,?_⟩
      cases huser : getCurrentUser settings crypto roles users (answers store checkAt ⌊decodeAt⌋)
          (some token) ⌊decodeAt⌋ with
      | error e =>
        rw [huser] at h
        cases h
      | ok user =>
        have hverified := ((getCurrentUser_ok_iff roles users _ token _ user).mp huser).1
        unfold verifies
        rw [hverified]

/-- A request leaves what the store holds. -/
theorem holds_currentUser {jti : String} {ends : K} (h : store.Holds jti ends)
    (hcheck : checkAt≤ends) :
    (currentUser settings crypto roles parse store authorization users decodeAt checkAt).2.Holds jti
      ends := by
  unfold currentUser
  cases credentials authorization with
  | none => exact h
  | some text =>
    dsimp only
    cases parse text with
    | none => exact h
    | some token =>
      dsimp only
      unfold afterVerify
      cases decode token (resolveKeyForVerification settings crypto token) ⌊decodeAt⌋ with
      | none => exact h
      | some payload =>
        dsimp only
        cases payload.jti with
        | none => exact h
        | some asked =>
          dsimp only
          by_cases hempty : asked=""
          · rw [if_pos hempty]
            exact h
          · rw [if_neg hempty]
            exact h.asked hcheck asked

/-- A request keeps the revocations held. -/
theorem Held.request (h : Held parse s) (hnow : s.now≤ checkAt) : Held parse {s with
    store := (currentUser settings crypto roles parse s.store authorization users decodeAt checkAt).2
    now := checkAt} :=
  ⟨fun revocation hmem hends => holds_currentUser (h.held revocation hmem (hnow.trans hends)) hends,
    h.loggedOut⟩

/-- Text without a space has no scheme to remove. -/
theorem removeBearer_of_not_mem {text : List Char} (h : ' '∉text) : removeBearer text=text := by
  fun_induction removeBearer text with
  | case1 rest ih => simp at h
  | case2 c rest _ ih => rw [ih fun hmem => h (List.mem_cons_of_mem _ hmem)]
  | case3 => rfl

/-- With the scheme in its usual spelling both extractions give the token. -/
theorem bearer_extractions {text : String} (hne : text≠"") (hspace : ' '∉text.toList) :
    credentials ("Bearer "++text)=some text ∧ logoutText ("Bearer "++text)=text := by
  have hheader : ("Bearer "++text).toList=
      'B' :: 'e' :: 'a' :: 'r' :: 'e' :: 'r' :: ' ' ::text.toList := String.toList_append
  have hparam : text.toList≠[] := fun hempty => hne (String.toList_inj.mp hempty)
  constructor
  · unfold credentials
    rw [hheader]
    have hscheme : ('B' :: 'e' :: 'a' :: 'r' :: 'e' :: 'r' :: ' ' ::text.toList).takeWhile (fun c => c≠ ' ')=
        "Bearer".toList := by simp
    have hrest : ('B' :: 'e' :: 'a' :: 'r' :: 'e' :: 'r' :: ' ' ::text.toList).dropWhile (fun c => c≠ ' ')=
        ' '::text.toList := by simp
    dsimp only
    rw [hscheme,hrest,List.tail_cons,if_pos ⟨by decide,hparam⟩,String.ofList_toList]
  · unfold logoutText
    rw [hheader]
    rw [removeBearer,removeBearer_of_not_mem hspace,String.ofList_toList]

/-- A logout with the usual scheme and a token that has an id meets the condition. -/
theorem sameClaims_bearer {text : String} {token : Token} {revokeAt writeAt : K}
    (hspace : ' '∉text.toList) (htoken : parse text=some token)
    (hid : token.payload.jti.getD ""≠"") (hne : text≠"") : SameClaims settings crypto roles parse s
      (.logout ("Bearer "++text) users decodeAt checkAt revokeAt writeAt) := by
  obtain ⟨hcredentials,hlogout⟩ := bearer_extractions hne hspace
  intro _ other hother found hfound
  rw [hcredentials] at hother
  cases hother
  rw [htoken] at hfound
  cases hfound
  rw [hlogout,htoken]
  exact ⟨hid,rfl⟩

variable [IsStrictOrderedRing K]

/-- The entry of a token outlasts its expiry. -/
theorem exp_le_end (settings : Settings) {claims : Payload} {exp : ℤ} {revokeAt writeAt : K}
    (hexp : claims.exp=some exp) (hwrite : revokeAt≤writeAt) : 0<ttlSeconds settings claims ⌊revokeAt⌋ ∧
      (exp : K)≤writeAt+ttlSeconds settings claims ⌊revokeAt⌋ := by
  unfold ttlSeconds
  rw [hexp]
  dsimp only
  have hleft : exp-⌊revokeAt⌋+60≤ max (exp-⌊revokeAt⌋+60) 60 := le_max_left _ _
  have hright : 60≤ max (exp-⌊revokeAt⌋+60) 60 := le_max_right _ _
  refine ⟨by omega,?_⟩
  have hfloor : (⌊revokeAt⌋ : K)≤ revokeAt := Int.floor_le revokeAt
  have hcast : (exp : K)≤(⌊revokeAt⌋ : K)+((max (exp-⌊revokeAt⌋+60) 60 : ℤ) : K) := by
    have hint : exp≤⌊revokeAt⌋+max (exp-⌊revokeAt⌋+60) 60 := by omega
    exact_mod_cast hint
  linarith

/-- A logout that revokes the claims of its token keeps the revocations held. -/
theorem Held.logout (h : Held parse s) {revokeAt writeAt : K} (hnow : s.now≤ checkAt)
    (hrevoke : checkAt≤ revokeAt) (hwrite : revokeAt≤writeAt)
    (haccepted : accepted settings crypto roles parse s.store authorization users decodeAt
      checkAt=true)
    (hsame : ∀ text∈credentials authorization,∀ token∈parse text,token.payload.jti.getD ""≠"" ∧
      (parse (logoutText authorization)).map Token.payload=some token.payload) :
    Held parse (s.logout settings parse
      (currentUser settings crypto roles parse s.store authorization users decodeAt checkAt).2
      authorization revokeAt writeAt) := by
  obtain ⟨text,token,htext,htoken,hverified⟩ := verifies_of_accepted haccepted
  obtain ⟨hid,hclaims⟩ := hsame text htext token htoken
  obtain ⟨jti,hjti,hne⟩ : ∃ jti,token.payload.jti=some jti ∧ jti≠"" := by
    cases hjti : token.payload.jti with
    | none => exact absurd (by rw [hjti]; rfl) hid
    | some jti => exact ⟨jti,rfl,fun hempty => hid (by rw [hjti,hempty]; rfl)⟩
  have hother : ∀ revocation∈s.revocations,writeAt≤ revocation.2→ revocation.1≠jti := by
    rintro revocation hmem hends rfl
    have hcheck : checkAt≤ revocation.2 := hrevoke.trans (hwrite.trans hends)
    have hheld := h.held revocation hmem (hnow.trans hcheck)
    have hrefused := verifies_revoked settings crypto decodeAt hjti hne (hheld.isRevoked hcheck)
    rw [hrefused] at hverified
    cases hverified
  unfold System.logout
  rw [hclaims,htext]
  unfold Store.revokeToken revocationOf
  dsimp only [Option.bind_some]
  rw [hjti]
  dsimp only [Option.bind_some]
  rw [if_neg hne]
  refine ⟨fun revocation hmem hends => ?_,fun other hmem token' => ?_⟩
  · dsimp only at hends ⊢
    rcases List.mem_append.mp hmem with hnew | hold
    · by_cases hskip : jti="" ∨ ttlSeconds settings token.payload ⌊revokeAt⌋≤0
      · rw [if_pos hskip] at hnew
        cases hnew
      · rw [if_neg hskip] at hnew
        rw [List.mem_singleton.mp hnew]
        exact Store.holds_revoke _ jti writeAt (by omega)
    · have hcheck : checkAt≤ revocation.2 := hrevoke.trans (hwrite.trans hends)
      have hheld := h.held revocation hold (hnow.trans hcheck)
      exact (holds_currentUser hheld hcheck).revoke (hother revocation hold hends) _ _
  · intro hparse exp hexp
    rcases List.mem_append.mp hmem with hnew | hold
    · rw [Option.toList_some,List.mem_singleton] at hnew
      rw [hnew,htoken] at hparse
      cases hparse
      obtain ⟨hpos,hle⟩ := exp_le_end settings hexp hwrite
      have hwritten : ¬(jti="" ∨ ttlSeconds settings token.payload ⌊revokeAt⌋≤0) :=
        not_or.mpr ⟨hne,by omega⟩
      rw [if_neg hwritten]
      exact ⟨_,List.mem_cons_self,hne,hjti,hle⟩
    · obtain ⟨revocation,hrevocation,hlast⟩ := h.loggedOut other hold token' hparse exp hexp
      exact ⟨revocation,List.mem_append_right _ hrevocation,hlast⟩

/-- Every request whose logouts revoke the claims of their token keeps the revocations
held. -/
theorem Held.step (h : Held parse s) {e : Event K}
    (hsame : SameClaims settings crypto roles parse s e)
    (hs : Logout.step settings crypto roles parse s e=some s') : Held parse s' := by
  cases e with
  | request authorization users decodeAt checkAt =>
    dsimp only [Logout.step] at hs
    by_cases hclock : s.now≤decodeAt ∧ decodeAt≤ checkAt
    · rw [if_pos hclock] at hs
      cases hs
      exact h.request (hclock.1.trans hclock.2)
    · rw [if_neg hclock] at hs
      cases hs
  | logout authorization users decodeAt checkAt revokeAt writeAt =>
    dsimp only [Logout.step] at hs
    by_cases hclock : s.now≤decodeAt ∧ decodeAt≤ checkAt ∧ checkAt≤ revokeAt ∧ revokeAt≤writeAt
    · rw [if_pos hclock] at hs
      have hnow : s.now≤ checkAt := hclock.1.trans hclock.2.1
      cases huser : (currentUser settings crypto roles parse s.store authorization users decodeAt
          checkAt).1 with
      | error e =>
        rw [huser] at hs
        cases hs
        exact h.request hnow
      | ok user =>
        have haccepted : accepted settings crypto roles parse s.store authorization users decodeAt
            checkAt=true := by
          unfold accepted
          rw [huser]
        rw [huser] at hs
        cases hs
        exact h.logout hnow hclock.2.2.1 hclock.2.2.2 haccepted (hsame haccepted)
    · rw [if_neg hclock] at hs
      cases hs

/-- In every run of requests and logouts over either store whose accepted logouts revoke
the claims of their token, every token that was logged out with success is refused up to
its expiry, and every revocation lasts to its own end. -/
theorem loggedOut_refused {now : K}
    (hrun : Reaches (step settings crypto roles parse) (SameClaims settings crypto roles parse)
      (System.start store now) s) : LoggedOut settings crypto parse s := by
  have hheld : Held parse s := by
    refine hrun.invariant ⟨fun _ hmem => (by cases hmem),fun _ hmem => (by cases hmem)⟩ ?_
    intro s e s' _ h hsame hs
    exact h.step hsame hs
  refine ⟨?_,fun revocation hmem t hnow hend =>
    (hheld.held revocation hmem (hnow.trans hend)).isRevoked hend⟩
  intro text htext token htoken exp hexp decodeAt checkAt hdecode hcheck hlive
  obtain ⟨revocation,hmem,hne,hjti,hle⟩ := hheld.loggedOut text htext token htoken exp hexp
  have hend : checkAt≤ revocation.2 := hlive.trans hle
  have hholds := hheld.held revocation hmem (hdecode.trans (hcheck.trans hend))
  exact verifies_revoked settings crypto decodeAt hjti hne (hholds.isRevoked hend)

/-- The operator's access tokens of two logins, by their texts. -/
def kimTokens (text : String) : Option Token :=
  if text="eyJ0eXAi.eyJqdGkiOiJhMSJ9.c2ln" then
    some (createAccessToken TokenTypes.oneKey RoleVersions.oneHash 0 "a1" TokenTypes.kimData)
  else if text="eyJ0eXAi.eyJqdGkiOiJhMiJ9.c2ln" then
    some (createAccessToken TokenTypes.oneKey RoleVersions.oneHash 20 "a2" TokenTypes.kimData)
  else none

/-- A logout whose scheme is in small letters answers with success, and its token goes on
to be verified. -/
theorem loggedOut_verified : ¬∀ (store : Store ℚ) s,
    Reaches (step TokenTypes.oneKey RoleVersions.oneHash RoleVersions.allRoles kimTokens)
      (fun _ _ => True) (System.start store 0) s→
    LoggedOut TokenTypes.oneKey RoleVersions.oneHash kimTokens s := by
  intro hall
  obtain ⟨s,_,⟨⟨hnow,htext⟩,token,htoken,hverified,hexp⟩,hrun⟩ := play_ends
    (step TokenTypes.oneKey RoleVersions.oneHash RoleVersions.allRoles kimTokens) (fun _ _ => True)
    (System.start (.redis fun _ => none) (0 : ℚ))
    (fun s => (s.now≤200 ∧ "eyJ0eXAi.eyJqdGkiOiJhMSJ9.c2ln"∈s.loggedOut) ∧
      ∃ token∈kimTokens "eyJ0eXAi.eyJqdGkiOiJhMSJ9.c2ln",
        verifies TokenTypes.oneKey RoleVersions.oneHash s.store token 200 200=true ∧
          token.payload.exp=some 86400)
    [.logout "bearer eyJ0eXAi.eyJqdGkiOiJhMSJ9.c2ln" RoleVersions.operators 100 100 100 100]
    (by decide +kernel)
  have hrefused := (hall _ s hrun).refused _ htext token htoken 86400 hexp 200 200 hnow le_rfl
    (by norm_num)
  rw [hverified] at hrefused
  cases hrefused

/-- Two tokens are logged out one after the other, and both are refused an hour later. -/
theorem loggedOut_refused_twice : ∃ (s : System ℚ) (first second : Token),
    first.payload.jti=some "a1" ∧ second.payload.jti=some "a2" ∧
      verifies TokenTypes.oneKey RoleVersions.oneHash s.store first 3600 3600=false ∧
      verifies TokenTypes.oneKey RoleVersions.oneHash s.store second 3600 3600=false := by
  obtain ⟨s,_,⟨hnow,⟨hfirst,hsecond⟩⟩,hrun⟩ := play_ends
    (step TokenTypes.oneKey RoleVersions.oneHash RoleVersions.allRoles kimTokens)
    (SameClaims TokenTypes.oneKey RoleVersions.oneHash RoleVersions.allRoles kimTokens)
    (System.start (.memory (fun _ => false) fun _ => none) (0 : ℚ))
    (fun s => s.now≤3600 ∧ "eyJ0eXAi.eyJqdGkiOiJhMSJ9.c2ln"∈s.loggedOut ∧
      "eyJ0eXAi.eyJqdGkiOiJhMiJ9.c2ln"∈s.loggedOut)
    [.logout "Bearer eyJ0eXAi.eyJqdGkiOiJhMSJ9.c2ln" RoleVersions.operators 100 100 100 (201/2),
      .request "bearer eyJ0eXAi.eyJqdGkiOiJhMSJ9.c2ln" RoleVersions.operators 200 200,
      .logout "Bearer eyJ0eXAi.eyJqdGkiOiJhMiJ9.c2ln" RoleVersions.operators 300 300 300 300]
    (by decide +kernel)
  have hout := loggedOut_refused hrun
  refine ⟨s,_,_,rfl,rfl,hout.refused _ hfirst
      (createAccessToken TokenTypes.oneKey RoleVersions.oneHash 0 "a1" TokenTypes.kimData) rfl 86400
      rfl 3600 3600 hnow le_rfl (by norm_num),hout.refused _ hsecond
      (createAccessToken TokenTypes.oneKey RoleVersions.oneHash 20 "a2" TokenTypes.kimData) rfl
      86420 rfl 3600 3600 hnow le_rfl (by norm_num)⟩

end Aqts.Logout
