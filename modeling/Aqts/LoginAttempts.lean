import Aqts.AuthTokens

/-!
# Attempts to log in

`authenticate` in two halves: how an attempt ends, read off the row it has
loaded, and the columns it then writes into the row that is there. A failed
password writes the loaded counter plus one, a success writes zero if the loaded
counter was another number, and a missing or wrong code writes nothing. Without
another request in between the halves are `authenticate`.
-/

namespace Aqts.LoginAttempts

open UserAccounts AuthTokens

/-- How an attempt ends. -/
inductive Outcome
  /-- `is_active` is false. -/
  | inactive
  /-- `is_locked` is true. -/
  | locked
  /-- The password is wrong. -/
  | passwordFailed
  /-- The second factor is on and no code came. -/
  | codeMissing
  /-- The code is wrong, or the row has no secret. -/
  | codeFailed
  /-- Both checks passed. -/
  | passed
  deriving DecidableEq

/-- The end of an attempt, from the loaded row. -/
def outcome (crypto : Crypto) (user : User) (password : String) (totpCode : Option String)
    (now : ℤ) : Outcome :=
  if user.isActive=false then .inactive
  else if user.isLocked=true then .locked
  else if crypto.verifyPassword password user.passwordHash=false then .passwordFailed
  else if user.totpEnabled=true ∧ totpCode.getD ""="" then .codeMissing
  else if user.totpEnabled=true ∧ (user.totpSecret.getD ""="" ∨
      crypto.verifyTotp (user.totpSecret.getD "") (totpCode.getD "") now=false) then .codeFailed
  else .passed

/-- The answer to an attempt that fails. -/
def Outcome.refusal : Outcome→Option HTTPException
  | .inactive => some ⟨401,.text "User account is inactive"⟩
  | .locked => some ⟨403,.text "User account is locked. Contact administrator."⟩
  | .passwordFailed => some ⟨401,.text "Invalid username or password"⟩
  | .codeMissing => some ⟨401,.text "TOTP code required"⟩
  | .codeFailed => some ⟨401,.text "Invalid TOTP code"⟩
  | .passed => none

/-- The UPDATE of an attempt that loaded a row: of the columns it has changed. -/
def write (loaded : User) (o : Outcome) (row : User) : User :=
  match o with
  | .passwordFailed => {row with
      failedLoginAttempts := loaded.failedLoginAttempts+1
      isLocked := if 5≤loaded.failedLoginAttempts+1 then true else row.isLocked}
  | .passed => {row with
      failedLoginAttempts := if loaded.failedLoginAttempts=0 then row.failedLoginAttempts else 0}
  | _ => row

/-- A written row has the id and the second factor of the row before. -/
theorem write_kept (loaded : User) (o : Outcome) (row : User) : (write loaded o row).id=row.id ∧
    (write loaded o row).totpEnabled=row.totpEnabled ∧
      (write loaded o row).totpSecret=row.totpSecret := by
  cases o <;> exact ⟨rfl,rfl,rfl⟩

variable {settings : Settings} {crypto : Crypto} {roles : List Role} {users : UserTable}
  {username password : String} {totpCode : Option String} {now : ℤ} {accessJti refreshJti : String}

/-- Changes that agree on the row of the id. -/
theorem map_onUser_congr {user : User} {f g : User→User} (hu : user∈users.rows)
    (h : f user=g user) :
    users.rows.map (onUser user.id f)=users.rows.map (onUser user.id g) := by
  refine List.map_congr_left fun row hrow => ?_
  unfold onUser
  by_cases hid : row.id=user.id
  · have hsame : row=user := List.inj_on_of_nodup_map users.unique hrow hu hid
    rw [if_pos hid,if_pos hid,hsame]
    exact h
  · rw [if_neg hid,if_neg hid]

/-- A change that leaves the row of the id. -/
theorem map_onUser_same {user : User} {f : User→User} (hu : user∈users.rows) (h : f user=user) :
    users.rows.map (onUser user.id f)=users.rows := by
  calc
    users.rows.map (onUser user.id f)=users.rows.map (onUser user.id id) := map_onUser_congr hu h
    _=users.rows.map id := List.map_congr_left fun row _ => ite_self row
    _=users.rows := List.map_id _

/-- `authenticate` for a user: the end of the attempt is written at once into the row it
was read off, and answered. -/
theorem authenticate_eq {user : User}
    (hfound : users.rows.find? (fun u => u.username=username)=some user) :
    let o := outcome crypto user password totpCode now
    let result := authenticate settings crypto roles users username password totpCode now accessJti
      refreshJti
    result.1.rows=users.rows.map (onUser user.id (write user o)) ∧
      result.2=match o.refusal with
        | some e => .error e
        | none =>
          match roleOf roles user with
          | none => .error ⟨500,.text "Internal Server Error"⟩
          | some role =>
            .ok (tokenPair settings crypto now accessJti refreshJti (sessionData user role)) := by
  have hu : user∈users.rows := List.mem_of_find?_eq_some hfound
  dsimp only
  unfold authenticate outcome
  rw [hfound]
  dsimp only
  by_cases hactive : user.isActive=false
  · rw [if_pos hactive,if_pos hactive]
    exact ⟨(map_onUser_same hu rfl).symm,rfl⟩
  rw [if_neg hactive,if_neg hactive]
  by_cases hlocked : user.isLocked=true
  · rw [if_pos hlocked,if_pos hlocked]
    exact ⟨(map_onUser_same hu rfl).symm,rfl⟩
  rw [if_neg hlocked,if_neg hlocked]
  by_cases hpassword : crypto.verifyPassword password user.passwordHash=false
  · rw [if_pos hpassword,if_pos hpassword]
    exact ⟨map_onUser_congr hu rfl,rfl⟩
  rw [if_neg hpassword,if_neg hpassword]
  by_cases hrequired : user.totpEnabled=true ∧ totpCode.getD ""=""
  · rw [if_pos hrequired,if_pos hrequired]
    exact ⟨(map_onUser_same hu rfl).symm,rfl⟩
  rw [if_neg hrequired,if_neg hrequired]
  by_cases hcode : user.totpEnabled=true ∧ (user.totpSecret.getD ""="" ∨
      crypto.verifyTotp (user.totpSecret.getD "") (totpCode.getD "") now=false)
  · rw [if_pos hcode,if_pos hcode]
    exact ⟨(map_onUser_same hu rfl).symm,rfl⟩
  rw [if_neg hcode,if_neg hcode]
  have hzero : (if user.failedLoginAttempts=0 then user.failedLoginAttempts else 0)=0 := by
    split <;> simp_all
  refine ⟨map_onUser_congr hu ?_,rfl⟩
  dsimp only [write]
  rw [hzero]

/-- What a login does to the rows: nothing, or a change of one row that leaves its second
factor. -/
theorem authenticate_rows (settings : Settings) (crypto : Crypto) (roles : List Role)
    (users : UserTable) (username password : String) (totpCode : Option String) (now : ℤ)
    (accessJti refreshJti : String) :
    (authenticate settings crypto roles users username password totpCode now accessJti
        refreshJti).1.rows=users.rows ∨
      ∃ userId f,(authenticate settings crypto roles users username password totpCode now
          accessJti refreshJti).1.rows=users.rows.map (onUser userId f) ∧
        ∀ u,(f u).id=u.id ∧ (f u).totpEnabled=u.totpEnabled ∧ (f u).totpSecret=u.totpSecret := by
  cases hfound : users.rows.find? fun u => u.username=username with
  | none =>
    refine .inl ?_
    unfold authenticate
    rw [hfound]
  | some user => exact .inr ⟨_,_,(authenticate_eq hfound).1,write_kept user _⟩

end Aqts.LoginAttempts
