import Aqts.JsonText
import Aqts.PortfolioLedger
import Mathlib.Data.Rat.Floor
import Mathlib.Data.Set.Basic

/-!
# Keys of the login limit

The rate limiter counts a request for the user that its bearer token names,
without looking at the signature. A sender without any valid token therefore
chooses the counter himself, and the limit of login requests binds him exactly
when none of his headers names a user.

The limiter counts by key; which spans of time are its minutes is left open. The
decoding of tokens is given.
-/

namespace Aqts.RateKeys

open JsonText PortfolioLedger

/-- What `jwt.get_unverified_claims` makes of a token. -/
inductive Unverified
  /-- `JWTError`. -/
  | jwtError
  /-- Another exception. -/
  | raised
  /-- The claims. -/
  | claims (members : List (Text×Json))

/-- Tokens, as far as the middleware looks at them. -/
structure Tokens where
  /-- `jwt.get_unverified_claims`. -/
  unverified : Text→Unverified
  /-- The token is validly signed, which the middleware does not ask. -/
  verifies : Text→Bool
  /-- `str` of a claim that is no string. -/
  text : Json→Text

/-- `str` of a claim. -/
def Tokens.str (tokens : Tokens) : Json→Text
  | .str text => text
  | claim => tokens.text claim

/-- The scheme that a header is to begin with, in lower case. -/
def bearer : Text := "bearer ".toList

/-- What `_extract_user_sub` finds of a token in a header. -/
inductive Bearer
  /-- No token. -/
  | absent
  /-- The scheme without a second word, which raises. -/
  | malformed
  /-- A token. -/
  | token (token : Text)

/-- The token of the `Authorization` header: the words after the first, without
the white space around them. -/
def bearerToken (header : Option Text) : Bearer :=
  let authHeader := header.getD []
  if (authHeader.take bearer.length).map Char.toLower≠bearer then .absent
  else
    match (authHeader.drop bearer.length).dropWhile isSpace with
    | [] => .malformed
    | first::rest => .token ((first::rest).reverse.dropWhile isSpace).reverse

/-- `_extract_user_sub`. Nothing where it raises. -/
def extractUserSub (tokens : Tokens) (header : Option Text) : Option (Option Text) :=
  match bearerToken header with
  | .absent => some none
  | .malformed => none
  | .token token =>
    if token=[] then some none
    else
      match tokens.unverified token with
      | .jwtError => some none
      | .raised => none
      | .claims members =>
        let sub := (member "sub".toList members).getD .null
        some (if sub.truthy then some (tokens.str sub) else none)

/-- The key of a user. -/
def userKey (sub : Text) : Text := "user:".toList++sub

/-- The key of an address. -/
def ipKey (address : Text) : Text := "ip:".toList++address

/-- `composite_rate_key` for a remote address. Nothing where it raises. -/
def compositeRateKey (tokens : Tokens) (address : Text) (header : Option Text) : Option Text :=
  (extractUserSub tokens header).map fun sub => sub.elim (ipKey address) userKey

/-- `RATE_LOGIN`, for a minute. -/
def rateLogin : ℕ := 5

/-- A request with its key, as the limiter sees it. -/
structure Hit where
  /-- The time, in seconds. -/
  time : ℚ
  /-- The key. -/
  key : Text

/-- The hit has the key and its time is in the minute. -/
def Hit.counts (minute : ℚ→Bool) (key : Text) (hit : Hit) : Bool :=
  minute hit.time && hit.key==key

/-- The admitted ones of the hits, newest first, where each is admitted or not
after those before it. -/
def admitted (admits : List Hit→Hit→Bool) : List Hit→List Hit
  | [] => []
  | hit::earlier =>
    if admits earlier hit then hit::admitted admits earlier else admitted admits earlier

/-- The limit of the login route, as it is documented: it admits so many hits of a
key in a minute at most, and each of the first ones of a key. -/
structure Limiter where
  /-- The spans of time that are a minute of the limiter. -/
  minutes : Set (ℚ→Bool)
  /-- The decision about a hit after the earlier ones, newest first. -/
  admits : List Hit→Hit→Bool
  /-- There is a minute with a time in it. -/
  someMinute : ∃ minute∈minutes,∃ time,minute time=true
  /-- No key has more admitted hits in a minute. -/
  atMost : ∀ hits : List Hit,hits.Pairwise (fun later earlier => earlier.time≤later.time)→
    ∀ minute∈minutes,∀ key,
      (admitted admits hits).countP (fun hit => minute hit.time && hit.key==key)≤ rateLogin
  /-- The first hits of a key are admitted. -/
  admitsFirst : ∀ earlier hit,earlier.countP (fun other => other.key==hit.key)< rateLogin→
    admits earlier hit=true

/-- A request of the sender. -/
structure Request where
  /-- The time, in seconds. -/
  time : ℚ
  /-- A login request. -/
  isLogin : Bool
  /-- The `Authorization` header. -/
  header : Option Text

/-- A login request as the limiter sees it; one whose key raises fails before. -/
def Request.loginHit (tokens : Tokens) (address : Text) (r : Request) : Option Hit :=
  if r.isLogin then (compositeRateKey tokens address r.header).map fun key => ⟨r.time,key⟩ else none

/-- Requests that come in the order of time, the newest first, with headers of a
set or without one. -/
structure Sends (headers : Set Text) (requests : List Request) : Prop where
  /-- The order of time. -/
  sorted : requests.Pairwise fun later earlier => earlier.time≤later.time
  /-- The headers. -/
  header : ∀ r∈requests,∀ header∈r.header,header∈headers

/-- What the limit promises about a sender's requests: so many logins are admitted in
a minute at most, and none of the requests is counted for a user whose token the
sender does not hold. -/
structure Protected (limiter : Limiter) (tokens : Tokens) (address : Text) (held : Set Text)
    (requests : List Request) : Prop where
  /-- The limit of logins. -/
  logins : ∀ minute∈limiter.minutes,
    (admitted limiter.admits (requests.filterMap (Request.loginHit tokens address))).countP
      (fun hit => minute hit.time)≤ rateLogin
  /-- The counters of others. -/
  others : ∀ r∈requests,∀ sub∉held,compositeRateKey tokens address r.header≠some (userKey sub)

/-- No header of a set carries a validly signed token. -/
def NoValidToken (tokens : Tokens) (headers : Set Text) : Prop :=
  ∀ header∈headers,∀ token,bearerToken (some header)=.token token→tokens.verifies token=false

/-- No header of a set names a user. -/
def NamesNobody (tokens : Tokens) (headers : Set Text) : Prop :=
  ∀ header∈headers,∀ sub,extractUserSub tokens (some header)≠some (some sub)

variable {limiter : Limiter} {tokens : Tokens} {address : Text} {held headers : Set Text}
  {requests : List Request}

/-- A request whose header names nobody has the key of the address, if any. -/
theorem compositeRateKey_of_namesNobody (h : NamesNobody tokens headers) {header : Option Text}
    (hheader : ∀ text∈header,text∈headers) {key : Text}
    (hkey : compositeRateKey tokens address header=some key) : key=ipKey address := by
  unfold compositeRateKey at hkey
  obtain ⟨sub,hsub,rfl⟩ := Option.map_eq_some_iff.mp hkey
  cases sub with
  | none => rfl
  | some sub =>
    cases header with
    | none => cases hsub
    | some text => exact absurd hsub (h text (hheader text rfl) sub)

/-- The hits of a sender come in the order of time. -/
theorem Sends.hits_sorted (tokens : Tokens) (address : Text) (h : Sends headers requests) :
    (requests.filterMap (Request.loginHit tokens address)).Pairwise
      fun later earlier => earlier.time≤later.time := by
  refine List.Pairwise.filterMap _ ?_ h.sorted
  intro later earlier hle x hx y hy
  have htime : ∀ {r : Request} {hit : Hit},r.loginHit tokens address=some hit→hit.time=r.time := by
    intro r hit hhit
    unfold Request.loginHit at hhit
    split at hhit
    · obtain ⟨key,_,rfl⟩ := Option.map_eq_some_iff.mp hhit
      rfl
    · cases hhit
  rw [htime hx,htime hy]
  exact hle

/-- Without the name of a user all hits have the key of the address. -/
theorem Sends.hits_key (h : Sends headers requests) (hnobody : NamesNobody tokens headers)
    {hit : Hit} (hhit : hit∈requests.filterMap (Request.loginHit tokens address)) :
    hit.key=ipKey address := by
  obtain ⟨r,hr,hlogin⟩ := List.mem_filterMap.mp hhit
  unfold Request.loginHit at hlogin
  split at hlogin
  · obtain ⟨key,hkey,rfl⟩ := Option.map_eq_some_iff.mp hlogin
    exact compositeRateKey_of_namesNobody hnobody (h.header r hr) hkey
  · cases hlogin

/-- An admitted hit is one of the hits. -/
theorem mem_of_mem_admitted {admits : List Hit→Hit→Bool} {hits : List Hit} {hit : Hit}
    (h : hit∈admitted admits hits) : hit∈hits := by
  induction hits with
  | nil => cases h
  | cons first earlier ih =>
    unfold admitted at h
    split at h
    · obtain rfl | hrest := List.mem_cons.mp h
      · exact List.mem_cons_self
      · exact List.mem_cons_of_mem _ (ih hrest)
    · exact List.mem_cons_of_mem _ (ih h)

/-- Requests whose headers name nobody keep the promise. -/
theorem Sends.protected (h : Sends headers requests) (hnobody : NamesNobody tokens headers) :
    Protected limiter tokens address held requests := by
  refine ⟨?_,?_⟩
  · intro minute hminute
    have hlimit := limiter.atMost _ (h.hits_sorted tokens address) minute hminute (ipKey address)
    refine le_trans (le_of_eq ?_) hlimit
    apply List.countP_congr
    intro hit hhit
    have hkey : hit.key=ipKey address := h.hits_key hnobody (mem_of_mem_admitted hhit)
    rw [hkey,beq_self_eq_true,Bool.and_true]
  · intro r hr sub _ hkey
    have hip : userKey sub=ipKey address :=
      compositeRateKey_of_namesNobody hnobody (h.header r hr) hkey
    cases hip

/-- Five login requests without a header and one with it, all at one time. -/
def sixLogins (time : ℚ) (header : Text) : List Request :=
  ⟨time,true,some header⟩::List.replicate rateLogin ⟨time,true,none⟩

variable {time : ℚ} {header sub : Text}

/-- The six logins of a sender who may use the header. -/
theorem sends_sixLogins (time : ℚ) (h : header∈headers) : Sends headers (sixLogins time header) := by
  have htime : ∀ r∈sixLogins time header,r.time=time := by
    intro r hr
    obtain rfl | hrest := List.mem_cons.mp hr
    · rfl
    · rw [List.eq_of_mem_replicate hrest]
  refine ⟨?_,?_⟩
  · apply List.pairwise_of_forall_mem_list
    intro later hlater earlier hearlier
    rw [htime later hlater,htime earlier hearlier]
  · intro r hr text htext
    obtain rfl | hrest := List.mem_cons.mp hr
    · cases htext
      exact h
    · rw [List.eq_of_mem_replicate hrest] at htext
      cases htext

/-- The hits of the six logins: one of the user that the header names and five of
the address. -/
theorem hits_sixLogins (time : ℚ) (address : Text)
    (h : extractUserSub tokens (some header)=some (some sub)) :
    (sixLogins time header).filterMap (Request.loginHit tokens address)=
      ⟨time,userKey sub⟩::List.replicate rateLogin ⟨time,ipKey address⟩ := by
  have hnamed : Request.loginHit tokens address ⟨time,true,some header⟩=some ⟨time,userKey sub⟩ := by
    unfold Request.loginHit compositeRateKey
    dsimp only
    rw [h]
    rfl
  have hplain : Request.loginHit tokens address ⟨time,true,none⟩=some ⟨time,ipKey address⟩ := rfl
  unfold sixLogins
  rw [List.filterMap_cons_some hnamed,List.filterMap_replicate_of_some hplain]

/-- The first hits of a key are all admitted. -/
theorem admitted_replicate (limiter : Limiter) (hit : Hit) {n : ℕ} (hn : n≤ rateLogin) :
    admitted limiter.admits (List.replicate n hit)=List.replicate n hit := by
  induction n with
  | zero => rfl
  | succ n ih =>
    have hfew : (List.replicate n hit).countP (fun other => other.key==hit.key)< rateLogin := by
      refine lt_of_le_of_lt List.countP_le_length ?_
      rw [List.length_replicate]
      exact hn
    rw [List.replicate_succ]
    unfold admitted
    rw [if_pos (limiter.admitsFirst _ _ hfew),ih (Nat.le_of_succ_le hn)]

/-- All six logins are admitted. -/
theorem admitted_sixLogins (limiter : Limiter) (time : ℚ) (sub address : Text) :
    admitted limiter.admits (⟨time,userKey sub⟩::List.replicate rateLogin ⟨time,ipKey address⟩)=
      ⟨time,userKey sub⟩::List.replicate rateLogin ⟨time,ipKey address⟩ := by
  have hother : (List.replicate rateLogin (Hit.mk time (ipKey address))).countP
      (fun other => other.key==userKey sub)=0 := by
    rw [List.countP_eq_zero]
    intro hit hhit
    rw [List.eq_of_mem_replicate hhit]
    exact fun heq => nomatch eq_of_beq heq
  have hfew : (List.replicate rateLogin (Hit.mk time (ipKey address))).countP
      (fun other => other.key==userKey sub)< rateLogin := by
    rw [hother]
    decide
  rw [admitted,if_pos (limiter.admitsFirst _ ⟨time,userKey sub⟩ hfew),
    admitted_replicate limiter _ le_rfl]

/-- The limit keeps its promise for every sequence of requests with some headers
exactly when none of the headers names a user. -/
theorem protected_iff_namesNobody (limiter : Limiter) (tokens : Tokens) (address : Text)
    (held headers : Set Text) :
    (∀ requests,Sends headers requests→Protected limiter tokens address held requests)↔
      NamesNobody tokens headers := by
  constructor
  · intro hall header hheader sub hsub
    obtain ⟨minute,hminute,time,htime⟩ := limiter.someMinute
    have hlogins := (hall _ (sends_sixLogins time hheader)).logins minute hminute
    rw [hits_sixLogins time address hsub,admitted_sixLogins] at hlogins
    have hall : ∀ hit∈(⟨time,userKey sub⟩::List.replicate rateLogin ⟨time,ipKey address⟩ : List Hit),
        minute hit.time=true := by
      intro hit hhit
      obtain rfl | hrest := List.mem_cons.mp hhit
      · exact htime
      · rw [List.eq_of_mem_replicate hrest]
        exact htime
    rw [List.countP_eq_length.mpr hall,List.length_cons,List.length_replicate] at hlogins
    exact absurd hlogins (Nat.not_succ_le_self _)
  · intro hnobody requests hsends
    exact hsends.protected hnobody

/-- The number of the clock's minute that a time is in. -/
def clockMinute (time : ℚ) : ℤ := ⌊time/60⌋

/-- The minute of the clock with a number. -/
def inMinute (n : ℤ) (time : ℚ) : Bool := decide (clockMinute time=n)

/-- The decision of a counter for every key and every minute of the clock. -/
def fixedWindowAdmits (earlier : List Hit) (hit : Hit) : Bool :=
  decide (earlier.countP (Hit.counts (inMinute (clockMinute hit.time)) hit.key)< rateLogin)

/-- A counter admits no more than its limit and no more than it has seen. -/
theorem fixedWindow_atMost (hits : List Hit) (n : ℤ) (key : Text) :
    (admitted fixedWindowAdmits hits).countP (Hit.counts (inMinute n) key)≤
      min rateLogin (hits.countP (Hit.counts (inMinute n) key)) := by
  induction hits with
  | nil => exact Nat.zero_le _
  | cons hit earlier ih =>
    by_cases hcounted : hit.counts (inMinute n) key=true
    · have hparts := Bool.and_eq_true_iff.mp hcounted
      have htime : clockMinute hit.time=n := of_decide_eq_true hparts.1
      have hkey : hit.key=key := eq_of_beq hparts.2
      rw [List.countP_cons_of_pos (p := Hit.counts (inMinute n) key) hcounted]
      unfold admitted
      split
      · rename_i hadmits
        have hfew := of_decide_eq_true hadmits
        rw [htime,hkey] at hfew
        rw [List.countP_cons_of_pos (p := Hit.counts (inMinute n) key) hcounted]
        omega
      · omega
    · rw [List.countP_cons_of_neg (p := Hit.counts (inMinute n) key) hcounted]
      unfold admitted
      split
      · rw [List.countP_cons_of_neg (p := Hit.counts (inMinute n) key) hcounted]
        exact ih
      · exact ih

/-- A limiter that counts in the minutes of the clock. -/
def fixedWindow : Limiter where
  minutes := Set.range inMinute
  admits := fixedWindowAdmits
  someMinute := ⟨_,⟨clockMinute 0,rfl⟩,0,decide_eq_true rfl⟩
  atMost := by
    rintro hits _ minute ⟨n,rfl⟩ key
    exact (fixedWindow_atMost hits n key).trans (min_le_left _ _)
  admitsFirst := by
    intro earlier hit hfew
    refine decide_eq_true (lt_of_le_of_lt ?_ hfew)
    apply List.countP_mono_left
    intro other _ hsame
    exact (Bool.and_eq_true_iff.mp hsame).2

/-- Tokens of which one, unsigned, has the claim to be the user `victim`. -/
def forgedTokens : Tokens where
  unverified token :=
    if token=['x'] then .claims [("sub".toList,.str "victim".toList)] else .jwtError
  verifies _ := false
  text _ := []

/-- A sixth login is admitted in a minute when it names a user. -/
theorem not_protected :
    ¬∀ (limiter : Limiter) (tokens : Tokens) (address : Text) (held headers : Set Text),
      NoValidToken tokens headers→
        ∀ requests,Sends headers requests→Protected limiter tokens address held requests := by
  intro hall
  have hforged := hall fixedWindow forgedTokens "10.0.0.1".toList ∅ {"Bearer x".toList}
    (fun _ _ _ _ => rfl) (sixLogins 0 "Bearer x".toList) (sends_sixLogins 0 rfl)
  have hlogins := hforged.logins _ ⟨0,rfl⟩
  revert hlogins
  decide +kernel

end Aqts.RateKeys
