import Aqts.LoginAttempts
import Aqts.RoleVersions

/-!
# The lock after five failures

Attempts to log in as one user in any interleaving: each loads the row at one
moment and writes its columns at a later one, and administrators lock, unlock
and reset between them. The counter of failures is written as the loaded value
plus one, so that attempts at the same time count as one, and a wrong code is not
counted. As long as every failure is one of the password and finds no greater
counter than it has loaded, five wrong guesses in a row lock the account.
-/

namespace Aqts.LoginLockout

open GuardedRuns UserAccounts AuthTokens LoginAttempts

/-- What has finished. -/
inductive Finish
  /-- An attempt. -/
  | attempt (o : Outcome)
  /-- An unlock or a password reset. -/
  | reset
  deriving DecidableEq

/-- Wrong guesses of either factor, newest first, since the last login, unlock or reset.
An attempt that was refused before its checks or gave no code guesses nothing. -/
def wrongGuesses : List Finish→ℕ
  | [] => 0
  | .reset::_ => 0
  | .attempt .passed::_ => 0
  | .attempt .passwordFailed::finished => wrongGuesses finished+1
  | .attempt .codeFailed::finished => wrongGuesses finished+1
  | .attempt .inactive::finished => wrongGuesses finished
  | .attempt .locked::finished => wrongGuesses finished
  | .attempt .codeMissing::finished => wrongGuesses finished

/-- The row of the user, the attempts between their read and their write, and what has
finished. -/
structure System where
  /-- The row. -/
  row : User
  /-- Rows that attempts have loaded. -/
  loaded : ℕ→Option User
  /-- Finished attempts and resets, newest first. -/
  finished : List Finish

/-- A row before any attempt. -/
def System.start (row : User) : System := ⟨row,fun _ => none,[]⟩

/-- Steps of requests. -/
inductive Event
  /-- An attempt loads the row. -/
  | load (call : ℕ)
  /-- An attempt ends. -/
  | finish (call : ℕ) (password : String) (totpCode : Option String) (now : ℤ)
  /-- `lock_user`. -/
  | lockUser (isLocked : Bool)
  /-- `reset_password`. -/
  | resetPassword (passwordHash : String)

section Steps

variable (crypto : Crypto)

/-- One step. -/
def step (s : System) : Event→Option System
  | .load call =>
    match s.loaded call with
    | none => some {s with loaded := Function.update s.loaded call (some s.row)}
    | some _ => none
  | .finish call password totpCode now =>
    match s.loaded call with
    | none => none
    | some user =>
      let o := outcome crypto user password totpCode now
      some ⟨write user o s.row,Function.update s.loaded call none,.attempt o::s.finished⟩
  | .lockUser isLocked =>
    some {s with
      row := {s.row with
        isLocked := isLocked
        failedLoginAttempts := 0}
      finished := if isLocked=true then s.finished else .reset::s.finished}
  | .resetPassword passwordHash =>
    some {s with
      row := {s.row with
        passwordHash := passwordHash
        failedLoginAttempts := 0
        isLocked := false}
      finished := .reset::s.finished}

/-- A failure of the account is one of the password and finds no greater counter than
the attempt has loaded, or finds the account locked. -/
def Counted (s : System) : Event→Prop
  | .finish call password totpCode now => ∀ user∈s.loaded call,
    (outcome crypto user password totpCode now=.codeFailed→s.row.isLocked=true) ∧
      (outcome crypto user password totpCode now=.passwordFailed→
        s.row.isLocked=true ∨ s.row.failedLoginAttempts≤user.failedLoginAttempts)
  | _ => True

instance (s : System) : (e : Event)→Decidable (Counted crypto s e)
  | .finish call password totpCode now => inferInstanceAs (Decidable (∀ user∈s.loaded call,
      (outcome crypto user password totpCode now=.codeFailed→s.row.isLocked=true) ∧
        (outcome crypto user password totpCode now=.passwordFailed→
          s.row.isLocked=true ∨ s.row.failedLoginAttempts≤user.failedLoginAttempts)))
  | .load _ => .isTrue trivial
  | .lockUser _ => .isTrue trivial
  | .resetPassword _ => .isTrue trivial

end Steps

/-- Five wrong guesses in a row have locked the account. -/
def LockedAfterFive (s : System) : Prop := 5≤wrongGuesses s.finished→s.row.isLocked=true

instance (s : System) : Decidable (LockedAfterFive s) :=
  inferInstanceAs (Decidable (5≤wrongGuesses s.finished→s.row.isLocked=true))

/-- The counter counts at least the wrong guesses of an account that is not locked. -/
structure Counts (s : System) : Prop where
  /-- The counter of the row. -/
  row : 0≤ s.row.failedLoginAttempts
  /-- Loaded counters. -/
  loaded : ∀ call user,s.loaded call=some user→0≤user.failedLoginAttempts
  /-- Wrong guesses. -/
  guesses : s.row.isLocked=true ∨ (wrongGuesses s.finished : ℤ)≤ s.row.failedLoginAttempts
  /-- The lock. -/
  locked : LockedAfterFive s

variable {crypto : Crypto} {s s' : System}

/-- Before five guesses nothing has to be locked. -/
theorem LockedAfterFive.early (h : wrongGuesses s.finished=0) : LockedAfterFive s := by
  intro hfive
  omega

/-- The counters stay counters. -/
theorem write_nonneg {user row : User} (o : Outcome) (huser : 0≤user.failedLoginAttempts)
    (hrow : 0≤ row.failedLoginAttempts) : 0≤(write user o row).failedLoginAttempts := by
  cases o with
  | passwordFailed =>
    dsimp only [write]
    omega
  | passed =>
    dsimp only [write]
    split <;> omega
  | inactive => exact hrow
  | locked => exact hrow
  | codeMissing => exact hrow
  | codeFailed => exact hrow

/-- An attempt ends while the counter counts. -/
theorem Counts.finish (h : Counts s) {user : User} {o : Outcome} {loaded : ℕ→Option User}
    (huser : 0≤user.failedLoginAttempts)
    (hloaded : ∀ call user,loaded call=some user→0≤user.failedLoginAttempts)
    (hcode : o=.codeFailed→s.row.isLocked=true)
    (hpassword : o=.passwordFailed→
      s.row.isLocked=true ∨ s.row.failedLoginAttempts≤user.failedLoginAttempts) :
    Counts ⟨write user o s.row,loaded,.attempt o::s.finished⟩ := by
  have hnonneg := write_nonneg o huser h.row
  cases o with
  | inactive => exact ⟨h.row,hloaded,h.guesses,h.locked⟩
  | locked => exact ⟨h.row,hloaded,h.guesses,h.locked⟩
  | codeMissing => exact ⟨h.row,hloaded,h.guesses,h.locked⟩
  | codeFailed => exact ⟨h.row,hloaded,.inl (hcode rfl),fun _ => hcode rfl⟩
  | passed => exact ⟨hnonneg,hloaded,.inr hnonneg,.early rfl⟩
  | passwordFailed =>
    have hkept : s.row.isLocked=true→(write user .passwordFailed s.row).isLocked=true := by
      intro hlocked
      dsimp only [write]
      rw [hlocked,ite_self]
    have hwritten : (write user .passwordFailed s.row).failedLoginAttempts=
        user.failedLoginAttempts+1 := rfl
    have hguesses : s.row.isLocked=true ∨
        (wrongGuesses s.finished : ℤ)+1≤user.failedLoginAttempts+1 := by
      rcases h.guesses with hlocked | hcount
      · exact .inl hlocked
      · rcases hpassword rfl with hlocked | hloadedCount
        · exact .inl hlocked
        · exact .inr (by omega)
    have hcons : wrongGuesses (.attempt .passwordFailed::s.finished)=
        wrongGuesses s.finished+1 := rfl
    refine ⟨hnonneg,hloaded,?_,fun hfive => ?_⟩
    · rcases hguesses with hlocked | hcount
      · exact .inl (hkept hlocked)
      · refine .inr ?_
        dsimp only
        rw [hcons,hwritten]
        omega
    · rcases hguesses with hlocked | hcount
      · exact hkept hlocked
      · have hlimit : 5≤user.failedLoginAttempts+1 := by
          dsimp only at hfive
          rw [hcons] at hfive
          omega
        exact if_pos hlimit

/-- A row whose counter starts again after a reset. -/
theorem Counts.reset (h : Counts s) {row : User} (hrow : row.failedLoginAttempts=0) :
    Counts {s with
      row := row
      finished := .reset::s.finished} := by
  have hnonneg : 0≤ row.failedLoginAttempts := by omega
  exact ⟨hnonneg,h.loaded,.inr hnonneg,.early rfl⟩

/-- Every step whose failures are counted keeps the count. -/
theorem Counts.step (h : Counts s) {e : Event} (hcounted : Counted crypto s e)
    (hs : LoginLockout.step crypto s e=some s') : Counts s' := by
  cases e with
  | load call =>
    dsimp only [LoginLockout.step] at hs
    cases hloaded : s.loaded call with
    | some user =>
      rw [hloaded] at hs
      cases hs
    | none =>
      rw [hloaded] at hs
      cases hs
      refine ⟨h.row,fun other user hother => ?_,h.guesses,h.locked⟩
      dsimp only at hother
      by_cases hcall : other=call
      · rw [hcall,Function.update_self] at hother
        cases hother
        exact h.row
      · rw [Function.update_of_ne hcall] at hother
        exact h.loaded other user hother
  | finish call password totpCode now =>
    dsimp only [LoginLockout.step] at hs
    cases hloaded : s.loaded call with
    | none =>
      rw [hloaded] at hs
      cases hs
    | some user =>
      rw [hloaded] at hs
      cases hs
      obtain ⟨hcode,hpassword⟩ := hcounted user hloaded
      refine h.finish (h.loaded call user hloaded) (fun other v hother => ?_) hcode hpassword
      by_cases hcall : other=call
      · rw [hcall,Function.update_self] at hother
        cases hother
      · rw [Function.update_of_ne hcall] at hother
        exact h.loaded other v hother
  | lockUser isLocked =>
    cases hs
    cases isLocked with
    | true => exact ⟨le_rfl,h.loaded,.inl rfl,fun _ => rfl⟩
    | false => exact h.reset rfl
  | resetPassword passwordHash =>
    cases hs
    exact h.reset rfl

/-- In every interleaving in which each failure is one of the password and finds no
greater counter than it has loaded, or finds the account locked: five wrong guesses with
no login, unlock or reset in between have locked the account. -/
theorem locked_after_five {row : User} (hrow : 0≤ row.failedLoginAttempts)
    (hrun : Reaches (step crypto) (Counted crypto) (System.start row) s) : LockedAfterFive s := by
  refine (hrun.invariant (P := Counts) ?_ ?_).locked
  · exact ⟨hrow,fun _ _ hnone => (by cases hnone),.inr hrow,.early rfl⟩
  · intro s e s' _ h hcounted hs
    exact h.step hcounted hs

/-- An attempt with no other step between its read and its write is `authenticate` on the
row. -/
theorem finish_authenticate {settings : Settings} {roles : List Role} {users : UserTable}
    {username password : String} {totpCode : Option String} {now : ℤ}
    {accessJti refreshJti : String} {call : ℕ} {finished : List Finish} {user : User}
    (hfound : users.rows.find? (fun u => u.username=username)=some user) :
    ∃ s,step crypto ⟨user,Function.update (fun _ => none) call (some user),finished⟩
        (.finish call password totpCode now)=some s ∧
      (authenticate settings crypto roles users username password totpCode now accessJti
        refreshJti).1.rows=users.rows.map (onUser user.id fun _ => s.row) := by
  refine ⟨_,by dsimp only [step]; rw [Function.update_self],?_⟩
  rw [(authenticate_eq hfound).1]
  exact map_onUser_congr (List.mem_of_find?_eq_some hfound) rfl

/-- The operator. -/
def kim : User := RoleVersions.operators.rows.head (by decide)

/-- The operator with a second factor. -/
def kimWithFactor : User := {kim with
  totpSecret := some "JBSWY3DPEHPK3PXP"
  totpEnabled := true}

/-- Five wrong codes after the right password leave the account open, and so do five
wrong passwords of attempts that have loaded the row before any of them wrote. -/
theorem five_without_lock :
    (¬∀ s,Reaches (step RoleVersions.oneHash) (fun _ _ => True) (System.start kimWithFactor) s→
      LockedAfterFive s) ∧
    ¬∀ s,Reaches (step RoleVersions.oneHash) (fun _ _ => True) (System.start kim) s→
      LockedAfterFive s := by
  constructor
  · exact not_forall_reaches [.load 1,.finish 1 "U*U" (some "000001") 1,.load 2,
      .finish 2 "U*U" (some "000002") 2,.load 3,.finish 3 "U*U" (some "000003") 3,.load 4,
      .finish 4 "U*U" (some "000004") 4,.load 5,.finish 5 "U*U" (some "000005") 5]
      (by decide +kernel)
  · exact not_forall_reaches [.load 1,.load 2,.load 3,.load 4,.load 5,.finish 1 "a" none 1,
      .finish 2 "b" none 1,.finish 3 "c" none 1,.finish 4 "d" none 1,.finish 5 "e" none 1]
      (by decide +kernel)

/-- Two failures, a login, an unlock and five failures one after the other. -/
theorem locked_after_five_serial : ∃ s : System,5≤wrongGuesses s.finished ∧ s.row.isLocked=true := by
  obtain ⟨s,_,hfive,hrun⟩ := play_ends (step RoleVersions.oneHash) (Counted RoleVersions.oneHash)
    (System.start kim) (fun s => 5≤wrongGuesses s.finished)
    [.load 1,.finish 1 "a" none 1,.load 2,.load 3,.finish 2 "U*U" none 2,.finish 3 "b" none 2,
      .lockUser true,.lockUser false,.load 4,.finish 4 "c" none 3,.load 5,.finish 5 "d" none 4,
      .load 6,.finish 6 "e" none 5,.load 7,.finish 7 "f" none 6,.load 8,.finish 8 "g" none 7]
    (by decide +kernel)
  exact ⟨s,hfive,locked_after_five (by decide) hrun hfive⟩

end Aqts.LoginLockout
