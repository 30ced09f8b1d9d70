import Mathlib.Data.Int.Notation
import Mathlib.Data.List.Nodup

/-!
# User accounts

The tables `users` and `roles` and the operations of `api.routes.users` that
change a user: update, lock, soft deletion and password reset. A request commits
what it has assigned, also when it then finds no role of the name it was given;
only a broken constraint rolls it back. No operation changes a user's id or
name, and the role version grows by one exactly with a change of the role.
-/

namespace Aqts.UserAccounts

/-- `APIResponse`. -/
structure APIResponse (α : Type) where
  /-- `success`. -/
  success : Bool
  /-- `data`. -/
  data : Option α
  /-- `message`. -/
  message : String
  deriving DecidableEq

/-- A row of `roles`. -/
structure Role where
  /-- `id`. -/
  id : ℤ
  /-- `name`, unique. -/
  name : String
  deriving DecidableEq

/-- A row of `users`. -/
structure User where
  /-- `id`, the primary key. -/
  id : String
  /-- `username`, unique. -/
  username : String
  /-- `email`, unique. -/
  email : Option String
  /-- `password_hash`. -/
  passwordHash : String
  /-- `role_id`. -/
  roleId : ℤ
  /-- `role_version`. -/
  roleVersion : ℤ
  /-- `is_active`. -/
  isActive : Bool
  /-- `is_locked`. -/
  isLocked : Bool
  /-- `failed_login_attempts`. -/
  failedLoginAttempts : ℤ
  /-- `totp_secret`. -/
  totpSecret : Option String
  /-- `totp_enabled`. -/
  totpEnabled : Bool
  /-- Ids are texts of UUIDs. -/
  id_ne : id≠""
  /-- `UserCreateRequest` asks for at least one character. -/
  username_ne : username≠""
  deriving DecidableEq

/-- Contents of `users`. -/
structure UserTable where
  /-- Rows. -/
  rows : List User
  /-- The primary key. -/
  unique : (rows.map User.id).Nodup

/-- SELECT by id. -/
def findUser (users : UserTable) (id : String) : Option User := users.rows.find? fun u => u.id=id

/-- One user changes, and keeps the id. -/
def onUser (id : String) (f : User→User) (u : User) : User := if u.id=id then f u else u

/-- Changed users keep their ids. -/
theorem onUser_id (id : String) {f : User→User} (hf : ∀ u,(f u).id=u.id) (u : User) :
    (onUser id f u).id=u.id := by
  unfold onUser
  split
  · exact hf u
  · rfl

/-- UPDATE by id. -/
def modifyUser (users : UserTable) (id : String) (f : User→User) (hf : ∀ u,(f u).id=u.id) :
    UserTable where
  rows := users.rows.map (onUser id f)
  unique := by
    have hids : User.id∘onUser id f=User.id := funext (onUser_id id hf)
    rw [List.map_map,hids]
    exact users.unique

/-- The role of a user. -/
def roleOf (roles : List Role) (u : User) : Option Role := roles.find? fun role => role.id=u.roleId

/-- `UserUpdateRequest`. -/
structure UserUpdateRequest where
  /-- `email`. -/
  email : Option String := none
  /-- `role`, by its name. -/
  role : Option String := none
  /-- `is_active`. -/
  isActive : Option Bool := none
  deriving DecidableEq

/-- The assignments of `update_user`. -/
def User.update (u : User) (req : UserUpdateRequest) (role : Option Role) : User :=
  let assigned := {u with
    email := req.email.or u.email
    isActive := req.isActive.getD u.isActive}
  match role with
  | none => assigned
  | some role => {assigned with
      roleId := role.id
      roleVersion := if u.roleId≠role.id then u.roleVersion+1 else u.roleVersion}

/-- An update keeps the id. -/
theorem User.update_id (u : User) (req : UserUpdateRequest) (role : Option Role) :
    (u.update req role).id=u.id := by
  cases role <;> rfl

/-- Another user has the address. -/
def emailTaken (users : UserTable) (id : String) (email : Option String) : Bool :=
  email.any fun address => users.rows.any fun u => u.id≠id ∧ u.email=some address

/-- `update_user`. -/
def updateUser (roles : List Role) (users : UserTable) (userId : String)
    (req : UserUpdateRequest) : UserTable :=
  if emailTaken users userId req.email=true then users
  else
    let role := req.role.bind fun name => roles.find? fun role => role.name=name
    modifyUser users userId (fun u => u.update req role) fun u => u.update_id req role

/-- `lock_user`, which also unlocks. -/
def lockUser (users : UserTable) (userId : String) (isLocked : Bool) : UserTable :=
  modifyUser users userId (fun u => {u with
    isLocked := isLocked
    failedLoginAttempts := 0}) fun _ => rfl

/-- `delete_user`: not one's own account. -/
def deleteUser (users : UserTable) (userId currentUserId : String) : UserTable :=
  if userId=currentUserId then users
  else modifyUser users userId (fun u => {u with isActive := false}) fun _ => rfl

/-- `reset_password`. -/
def resetPassword (users : UserTable) (userId passwordHash : String) : UserTable :=
  modifyUser users userId (fun u => {u with
    passwordHash := passwordHash
    failedLoginAttempts := 0
    isLocked := false}) fun _ => rfl

/-- What an operation may change: the version follows the role. -/
structure Moved (u u' : User) : Prop where
  /-- The id stays. -/
  id : u'.id=u.id
  /-- The name stays. -/
  username : u'.username=u.username
  /-- Role and version. -/
  role : (u'.roleId=u.roleId ∧ u'.roleVersion=u.roleVersion) ∨
    (u'.roleId≠u.roleId ∧ u'.roleVersion=u.roleVersion+1)

/-- A user that keeps id, name, role and version has moved. -/
theorem Moved.same {u u' : User} (hid : u'.id=u.id) (hname : u'.username=u.username)
    (hrole : u'.roleId=u.roleId) (hversion : u'.roleVersion=u.roleVersion) : Moved u u' :=
  ⟨hid,hname,.inl ⟨hrole,hversion⟩⟩

/-- An update moves a user. -/
theorem User.update_moved (u : User) (req : UserUpdateRequest) (role : Option Role) :
    Moved u (u.update req role) := by
  cases role with
  | none => exact .same rfl rfl rfl rfl
  | some role =>
    by_cases hsame : u.roleId=role.id
    · exact .same rfl rfl hsame.symm (if_neg fun hne => hne hsame)
    · exact ⟨rfl,rfl,.inr ⟨fun heq => hsame heq.symm,if_pos hsame⟩⟩

/-- A found user has the id. -/
theorem findUser_id {users : UserTable} {id : String} {u : User} (h : findUser users id=some u) :
    u.id=id := by
  have hid := List.find?_some h
  exact of_decide_eq_true hid

/-- A row is found by its id. -/
theorem findUser_of_mem {users : UserTable} {u : User} (h : u∈users.rows) :
    findUser users u.id=some u := by
  cases hfound : findUser users u.id with
  | none =>
    have hnone := List.find?_eq_none.mp hfound u h
    exact absurd (decide_eq_true rfl) hnone
  | some v =>
    have hv : v∈users.rows := List.mem_of_find?_eq_some hfound
    exact congrArg some (List.inj_on_of_nodup_map users.unique hv h (findUser_id hfound))

/-- A changed table has the changed users. -/
theorem findUser_modifyUser {users : UserTable} {id userId : String} {f : User→User}
    {hf : ∀ u,(f u).id=u.id} {u : User} (h : findUser users id=some u) :
    findUser (modifyUser users userId f hf) id=some (onUser userId f u) := by
  unfold findUser modifyUser
  dsimp only
  rw [List.find?_map]
  have hids : (fun v : User => decide (v.id=id))∘onUser userId f=fun v => decide (v.id=id) := by
    funext v
    exact congrArg (fun name => decide (name=id)) (onUser_id userId hf v)
  rw [hids]
  exact congrArg (Option.map _) h

/-- Every user of a table has moved into the other. -/
def TableMoved (users users' : UserTable) : Prop :=
  ∀ id u,findUser users id=some u→∃ u',findUser users' id=some u' ∧ Moved u u'

/-- A table that stays. -/
theorem TableMoved.refl (users : UserTable) : TableMoved users users :=
  fun _ u hu => ⟨u,hu,.same rfl rfl rfl rfl⟩

/-- Changing one user moves the table. -/
theorem modifyUser_moved (users : UserTable) (userId : String) {f : User→User}
    {hf : ∀ u,(f u).id=u.id} (hmoved : ∀ u,Moved u (f u)) :
    TableMoved users (modifyUser users userId f hf) := by
  intro id u hu
  refine ⟨_,findUser_modifyUser hu,?_⟩
  unfold onUser
  split
  · exact hmoved u
  · exact .same rfl rfl rfl rfl

/-- `update_user` moves the table. -/
theorem updateUser_moved (roles : List Role) (users : UserTable) (userId : String)
    (req : UserUpdateRequest) : TableMoved users (updateUser roles users userId req) := by
  unfold updateUser
  split
  · exact .refl users
  · exact modifyUser_moved users userId fun u => u.update_moved req _

/-- `lock_user` moves the table. -/
theorem lockUser_moved (users : UserTable) (userId : String) (isLocked : Bool) :
    TableMoved users (lockUser users userId isLocked) :=
  modifyUser_moved users userId fun _ => .same rfl rfl rfl rfl

/-- `delete_user` moves the table. -/
theorem deleteUser_moved (users : UserTable) (userId currentUserId : String) :
    TableMoved users (deleteUser users userId currentUserId) := by
  unfold deleteUser
  split
  · exact .refl users
  · exact modifyUser_moved users userId fun _ => .same rfl rfl rfl rfl

/-- `reset_password` moves the table. -/
theorem resetPassword_moved (users : UserTable) (userId passwordHash : String) :
    TableMoved users (resetPassword users userId passwordHash) :=
  modifyUser_moved users userId fun _ => .same rfl rfl rfl rfl

end Aqts.UserAccounts
