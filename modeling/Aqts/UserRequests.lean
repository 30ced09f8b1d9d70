import Aqts.LoginAttempts
import Aqts.RoleVersions
import Aqts.UnitOfWork

/-!
# Requests that change users

The handlers of `api.routes.users` in the session of `get_db_session`: creation,
update, password reset, lock and soft deletion, with their checks, their commits and
every call that may raise. A refusal leaves the table, and so does an error before
the commit, but for one case: an update assigns the address and the activity before
it looks for the role, and the refusal of an unknown role leaves them to be
committed.
-/

namespace Aqts.UserRequests

open UserAccounts AuthTokens UnitOfWork

/-- `UserResponse`, but for its times. -/
structure UserResponse where
  /-- `id`. -/
  id : String
  /-- `username`. -/
  username : String
  /-- `email`. -/
  email : Option String
  /-- `role`. -/
  role : String
  /-- `is_active`. -/
  isActive : Bool
  /-- `is_locked`. -/
  isLocked : Bool
  /-- `totp_enabled`. -/
  totpEnabled : Bool
  deriving DecidableEq

/-- The data of an answer. -/
inductive ResponseData
  /-- A user. -/
  | user (response : UserResponse)
  /-- `password_reset`. -/
  | passwordReset (done : Bool)
  /-- `is_locked`. -/
  | isLocked (isLocked : Bool)
  /-- `deleted`. -/
  | deleted (done : Bool)
  deriving DecidableEq

/-- Calls that may raise. -/
inductive Call
  /-- The user by its id. -/
  | getUser
  /-- The role by its name. -/
  | selectRole
  /-- The user by its name. -/
  | selectUser
  /-- The hash of a password. -/
  | hashPassword
  /-- The commit of the handler. -/
  | commit
  /-- The role of the row for the answer. -/
  | respond
  /-- The commit of the dependency. -/
  | close
  deriving DecidableEq

/-- What the database and the libraries do in a request. -/
structure Backend where
  /-- The constraints hold of a table. -/
  accepts : UserTable→Bool
  /-- Calls that raise. -/
  fails : Call→Bool
  /-- The name of the role that the row has loaded. -/
  roleName : String

/-- `UserCreateRequest`, with the id and the hash of the new row. -/
structure UserCreateRequest where
  /-- `username`. -/
  username : String
  /-- `email`. -/
  email : Option String
  /-- `role`. -/
  role : String
  /-- `uuid4`. -/
  newId : String
  /-- `hash_password`. -/
  passwordHash : String
  /-- Ids are texts of UUIDs. -/
  newId_ne : newId≠""
  /-- `min_length`. -/
  username_ne : username≠""

/-- INSERT, if the id is new. -/
def addUser (users : UserTable) (user : User) : Option UserTable :=
  if h : user.id∈users.rows.map User.id then none
  else some ⟨user::users.rows,List.nodup_cons.mpr ⟨h,users.unique⟩⟩

/-- The answer about a row. -/
def userResponse (user : User) (roleName : String) : UserResponse :=
  ⟨user.id,user.username,user.email,roleName,user.isActive,user.isLocked,user.totpEnabled⟩

/-- The text of a truth value. -/
def boolText (b : Bool) : String := if b=true then "True" else "False"

/-- `changes` of an update. -/
def changes (user : User) (req : UserUpdateRequest) (role : Option Role) : List String :=
  (req.email.map fun email => "email="++email).toList++
    (req.isActive.map fun isActive => "is_active="++boolText isActive).toList++
    (role.map fun role =>
      if user.roleId≠role.id then "role="++role.name++" (rv="++toString (user.roleVersion+1)++")"
      else "role="++role.name).toList

/-- The assignment of a role. -/
def assignRole (role : Role) (user : User) : User := {user with
  roleId := role.id
  roleVersion := if user.roleId≠role.id then user.roleVersion+1 else user.roleVersion}

/-- The error of a handler that has caught another one. -/
def storeUnavailable (message : String) : HTTPException :=
  ⟨500,.coded "USER_STORE_UNAVAILABLE" message⟩

section Handlers

variable (roles : List Role) (backend : Backend)

/-- A handler of these requests. -/
abbrev UserHandler := Handler UserTable HTTPException (APIResponse ResponseData)

/-- The commit of a handler. -/
def save (e : HTTPException) (next : UserHandler) : UserHandler :=
  attempt (backend.fails .commit) e <| flush backend.accepts e <| UnitOfWork.commit next

/-- A refusal. -/
def refuse (message : String) : UserHandler := answer ⟨false,none,message⟩

/-- The row of a user, or the refusal without one. -/
def getUser (userId : String) (e : HTTPException) (next : User→UserHandler) : UserHandler :=
  attempt (backend.fails .getUser) e <| load fun users =>
    match findUser users userId with
    | none => refuse "User not found"
    | some user => next user

/-- `create_user`. -/
def createUser (req : UserCreateRequest) : UserHandler :=
  let e := storeUnavailable "사용자 생성 중 내부 오류가 발생했습니다."
  attempt (backend.fails .selectRole) e <|
    match roles.find? fun role => role.name=req.role with
    | none => refuse ("Invalid role: "++req.role)
    | some role =>
      attempt (backend.fails .selectUser) e <| load fun users =>
        if users.rows.any fun u => u.username=req.username then refuse "Username already exists"
        else
          let user : User := ⟨req.newId,req.username,req.email,req.passwordHash,role.id,0,true,false,
            0,none,false,req.newId_ne,req.username_ne⟩
          attempt (backend.fails .hashPassword) e <|
            match addUser users user with
            | none => fun s => (.error e,s)
            | some added =>
              assign (fun _ => added) <| save backend e <| attempt (backend.fails .respond) e <|
                answer ⟨true,some (.user (userResponse user backend.roleName)),
                  "User created successfully"⟩

/-- The end of `update_user`. -/
def finishUpdate (user : User) (req : UserUpdateRequest) (role : Option Role) : UserHandler :=
  let e := storeUnavailable "사용자 업데이트 중 내부 오류가 발생했습니다."
  let updated := userResponse (user.update req role) backend.roleName
  if changes user req role=[] then
    attempt (backend.fails .respond) e <| answer ⟨true,some (.user updated),"User updated: No changes"⟩
  else
    save backend e <| attempt (backend.fails .respond) e <|
      answer ⟨true,some (.user updated),"User updated: "++", ".intercalate (changes user req role)⟩

/-- `update_user`. The search for the role flushes what is assigned before it. -/
def updateUser (userId : String) (req : UserUpdateRequest) : UserHandler :=
  let e := storeUnavailable "사용자 업데이트 중 내부 오류가 발생했습니다."
  getUser backend userId e fun user =>
    assign (fun users => modifyUser users userId (fun u => u.update req none) fun _ => rfl) <|
      match req.role with
      | none => finishUpdate backend user req none
      | some name =>
        attempt (backend.fails .selectRole) e <| flush backend.accepts e <|
          match roles.find? fun role => role.name=name with
          | none => refuse ("Invalid role: "++name)
          | some role =>
            assign (fun users => modifyUser users userId (assignRole role) fun _ => rfl) <|
              finishUpdate backend user req (some role)

/-- `reset_password`, with the hash of the new password. -/
def resetPassword (userId passwordHash : String) : UserHandler :=
  let e := storeUnavailable "비밀번호 리셋 중 내부 오류가 발생했습니다."
  getUser backend userId e fun _ =>
    attempt (backend.fails .hashPassword) e <|
      assign (fun users => UserAccounts.resetPassword users userId passwordHash) <| save backend e <|
        answer ⟨true,some (.passwordReset true),"Password reset successfully"⟩

/-- `lock_user`. -/
def lockUser (userId : String) (isLocked : Bool) : UserHandler :=
  let e := storeUnavailable "사용자 잠금/해제 중 내부 오류가 발생했습니다."
  getUser backend userId e fun _ =>
    assign (fun users => UserAccounts.lockUser users userId isLocked) <| save backend e <|
      answer ⟨true,some (.isLocked isLocked),
        "User "++(if isLocked=true then "locked" else "unlocked")++" successfully"⟩

/-- A deactivated user keeps the id. -/
theorem deactivated_id (u : User) : ({u with isActive := false} : User).id=u.id := rfl

/-- `delete_user`. -/
def deleteUser (userId currentUserId : String) : UserHandler :=
  let e := storeUnavailable "사용자 삭제 중 내부 오류가 발생했습니다."
  getUser backend userId e fun user =>
    if user.id=currentUserId then refuse "Cannot delete your own account"
    else
      assign (fun users => modifyUser users userId (fun u => {u with isActive := false})
          deactivated_id) <|
        save backend e <| answer ⟨true,some (.deleted true),"User deleted (deactivated) successfully"⟩

end Handlers

/-- Requests. -/
inductive Request
  /-- `create_user`. -/
  | createUser (req : UserCreateRequest)
  /-- `update_user`. -/
  | updateUser (userId : String) (req : UserUpdateRequest)
  /-- `reset_password`. -/
  | resetPassword (userId passwordHash : String)
  /-- `lock_user`. -/
  | lockUser (userId : String) (isLocked : Bool)
  /-- `delete_user`. -/
  | deleteUser (userId currentUserId : String)

/-- The handler of a request. -/
def handle (roles : List Role) (backend : Backend) : Request→UserHandler
  | .createUser req => createUser roles backend req
  | .updateUser userId req => updateUser roles backend userId req
  | .resetPassword userId passwordHash => resetPassword backend userId passwordHash
  | .lockUser userId isLocked => lockUser backend userId isLocked
  | .deleteUser userId currentUserId => deleteUser backend userId currentUserId

/-- The commit of `get_db_session`. -/
def closes (backend : Backend) (users : UserTable) : Bool :=
  backend.accepts users && !backend.fails .close

/-- The error of a commit that `get_db_session` cannot make. -/
def closeFailure : HTTPException := ⟨500,.text "Internal Server Error"⟩

/-- A request through `get_db_session`: its answer or error, and the table afterwards. -/
def request (roles : List Role) (backend : Backend) (users : UserTable) (r : Request) :
    Except HTTPException (APIResponse ResponseData)×UserTable :=
  unitOfWork (closes backend) closeFailure (handle roles backend r) users

/-- A request that answers without success, or raises before its own commit, leaves the
table. -/
def Unchanged (roles : List Role) (backend : Backend) (users : UserTable) (r : Request) : Prop :=
  Atomic (closes backend) closeFailure (fun response => response.success=false)
    (handle roles backend r) users

/-- An update of a present user names an unknown role and assigns another address or
activity before, nothing raises and the constraints hold. -/
def LeavesAssignments (roles : List Role) (backend : Backend) (users : UserTable) : Request→Prop
  | .updateUser userId req =>
    (∃ name∈req.role,roles.find? (fun role => role.name=name)=none) ∧
      (∃ user∈findUser users userId,(∃ email∈req.email,user.email≠some email) ∨
        ∃ isActive∈req.isActive,user.isActive≠isActive) ∧
      backend.accepts (modifyUser users userId (fun u => u.update req none) fun _ => rfl)=true ∧
      backend.fails .getUser=false ∧ backend.fails .selectRole=false ∧ backend.fails .close=false
  | _ => False

variable {roles : List Role} {backend : Backend} {users t : UserTable} {e : HTTPException}
  {s : Session UserTable}

/-- From a session on, the handler leaves the table if it does not do its work. -/
abbrev Leaves (backend : Backend) (t : UserTable) (handler : UserHandler) (s : Session UserTable) :
    Prop :=
  Keeps (closes backend) closeFailure (fun response => response.success=false) t handler s

/-- A commit and what follows it without a refusal. -/
theorem leaves_save {next : UserHandler} (hstored : s.stored=t)
    (hnext : Leaves backend t next ⟨s.working,s.working,true⟩) :
    Leaves backend t (save backend e next) s :=
  keeps_attempt (fun _ => hstored) fun _ => keeps_flush hstored fun _ => keeps_commit hnext

/-- An answer with success. -/
theorem leaves_success {data : Option ResponseData} {message : String}
    (hstored : s.committed=false→s.stored=t) :
    Leaves backend t (answer ⟨true,data,message⟩) s :=
  keeps_answer (fun hrefused => by cases hrefused) hstored

/-- A committed session answers with success. -/
theorem leaves_committed {data : Option ResponseData} {message : String} {users' : UserTable} :
    Leaves backend t (answer ⟨true,data,message⟩) ⟨users,users',true⟩ :=
  leaves_success fun hcommitted => by cases hcommitted

/-- The row of a user is looked for before anything is written. -/
theorem leaves_getUser {userId : String} {next : User→UserHandler}
    (hnext : backend.fails .getUser=false→∀ user,findUser users userId=some user→
      Leaves backend users (next user) (.begin users)) :
    Leaves backend users (getUser backend userId e next) (.begin users) := by
  refine keeps_attempt (fun _ => rfl) fun hget => keeps_load ?_
  dsimp only [Session.begin]
  cases hfound : findUser users userId with
  | none => exact keeps_refusal rfl fun _ => rfl
  | some user => exact hnext hget user hfound

/-- `create_user`. -/
theorem createUser_leaves (roles : List Role) (backend : Backend) (users : UserTable)
    (req : UserCreateRequest) : Leaves backend users (createUser roles backend req) (.begin users) := by
  refine keeps_attempt (fun _ => rfl) fun _ => ?_
  cases roles.find? fun role => role.name=req.role with
  | none => exact keeps_refusal rfl fun _ => rfl
  | some role =>
    refine keeps_attempt (fun _ => rfl) fun _ => keeps_load ?_
    dsimp only [Session.begin]
    by_cases htaken : users.rows.any (fun u => u.username=req.username)=true
    · rw [if_pos htaken]
      exact keeps_refusal rfl fun _ => rfl
    rw [if_neg htaken]
    refine keeps_attempt (fun _ => rfl) fun _ => ?_
    cases addUser users ⟨req.newId,req.username,req.email,req.passwordHash,role.id,0,true,false,0,none,
      false,req.newId_ne,req.username_ne⟩ with
    | none => exact keeps_error rfl
    | some added =>
      refine keeps_assign (leaves_save rfl (keeps_attempt (fun hc => by cases hc) fun _ => ?_))
      exact leaves_committed

/-- The end of `update_user`. -/
theorem finishUpdate_leaves (user : User) (req : UserUpdateRequest) (role : Option Role)
    (hstored : s.stored=t) : Leaves backend t (finishUpdate backend user req role) s := by
  unfold finishUpdate
  by_cases hchanges : changes user req role=[]
  · dsimp only
    rw [if_pos hchanges]
    exact keeps_attempt (fun _ => hstored) fun _ => leaves_success fun _ => hstored
  · dsimp only
    rw [if_neg hchanges]
    exact leaves_save hstored (keeps_attempt (fun hc => by cases hc) fun _ => leaves_committed)

/-- Tables are their rows. -/
theorem table_ext {a b : UserTable} (h : a.rows=b.rows) : a=b := by
  cases a
  cases b
  cases h
  rfl

/-- A change that leaves the row of the user leaves the table. -/
theorem rows_same {userId : String} {user : User} {f : User→User}
    (hfound : findUser users userId=some user) (h : f user=user) :
    users.rows.map (onUser userId f)=users.rows := by
  have hid := findUser_id hfound
  subst hid
  exact LoginAttempts.map_onUser_same (List.mem_of_find?_eq_some hfound) h

/-- An update that assigns what the row has. -/
theorem update_same {user : User} {req : UserUpdateRequest}
    (hemail : ¬∃ email∈req.email,user.email≠some email)
    (hactive : ¬∃ isActive∈req.isActive,user.isActive≠isActive) : user.update req none=user := by
  have hkept : req.email.or user.email=user.email := by
    cases hreq : req.email with
    | none => rfl
    | some email => exact (not_not.mp fun hne => hemail ⟨email,hreq,hne⟩).symm
  have hstays : req.isActive.getD user.isActive=user.isActive := by
    cases hreq : req.isActive with
    | none => rfl
    | some isActive => exact (not_not.mp fun hne => hactive ⟨isActive,hreq,hne⟩).symm
  unfold User.update
  dsimp only
  rw [hkept,hstays]

/-- An update that assigns something else. -/
theorem update_other {user : User} {req : UserUpdateRequest}
    (h : (∃ email∈req.email,user.email≠some email) ∨
      ∃ isActive∈req.isActive,user.isActive≠isActive) : user.update req none≠user := by
  intro hsame
  rcases h with ⟨email,hreq,hne⟩ | ⟨isActive,hreq,hne⟩
  · have hemail : (user.update req none).email=req.email.or user.email := rfl
    rw [hsame,hreq] at hemail
    exact hne hemail
  · have hactive : (user.update req none).isActive=req.isActive.getD user.isActive := rfl
    rw [hsame,hreq] at hactive
    exact hne hactive

/-- `update_user`, unless it leaves what it has assigned before it refuses the role. -/
theorem updateUser_leaves {userId : String} {req : UserUpdateRequest}
    (h : ¬LeavesAssignments roles backend users (.updateUser userId req)) :
    Leaves backend users (updateUser roles backend userId req) (.begin users) := by
  refine leaves_getUser fun hget user hfound => keeps_assign ?_
  cases hrole : req.role with
  | none => exact finishUpdate_leaves user req none rfl
  | some name =>
    refine keeps_attempt (fun _ => rfl) fun hselect => keeps_flush rfl fun haccepts => ?_
    cases hfind : roles.find? fun role => role.name=name with
    | some role => exact keeps_assign (finishUpdate_leaves user req (some role) rfl)
    | none =>
      refine keeps_refusal rfl fun hcloses => table_ext (rows_same hfound ?_)
      have hclose : backend.fails .close=false := by
        have hboth := (Bool.and_eq_true _ _).mp hcloses
        simpa using hboth.2
      have hnone : ¬((∃ email∈req.email,user.email≠some email) ∨
          ∃ isActive∈req.isActive,user.isActive≠isActive) := fun hother =>
        h ⟨⟨name,hrole,hfind⟩,⟨user,hfound,hother⟩,haccepts,hget,hselect,hclose⟩
      obtain ⟨hemail,hactive⟩ := not_or.mp hnone
      exact update_same hemail hactive

/-- Every request but the one that leaves its assignments. -/
theorem handle_leaves {r : Request} (h : ¬LeavesAssignments roles backend users r) :
    Leaves backend users (handle roles backend r) (.begin users) := by
  cases r with
  | createUser req => exact createUser_leaves roles backend users req
  | updateUser userId req => exact updateUser_leaves h
  | resetPassword userId passwordHash =>
    exact leaves_getUser fun _ _ _ => keeps_attempt (fun _ => rfl) fun _ =>
      keeps_assign (leaves_save rfl leaves_committed)
  | lockUser userId isLocked =>
    exact leaves_getUser fun _ _ _ => keeps_assign (leaves_save rfl leaves_committed)
  | deleteUser userId currentUserId =>
    refine leaves_getUser fun _ user _ => ?_
    by_cases hself : user.id=currentUserId
    · rw [if_pos hself]
      exact keeps_refusal rfl fun _ => rfl
    · rw [if_neg hself]
      exact keeps_assign (leaves_save rfl leaves_committed)

/-- The update that leaves its assignments: a refusal, and the table with them. -/
theorem request_leavesAssignments {userId : String} {req : UserUpdateRequest} {name : String}
    (hname : req.role=some name) (hfind : roles.find? (fun role => role.name=name)=none)
    {user : User} (hfound : findUser users userId=some user)
    (haccepts : backend.accepts (modifyUser users userId (fun u => u.update req none)
      fun _ => rfl)=true)
    (hget : backend.fails .getUser=false) (hselect : backend.fails .selectRole=false)
    (hclose : backend.fails .close=false) :
    request roles backend users (.updateUser userId req)=
      (.ok ⟨false,none,"Invalid role: "++name⟩,
        modifyUser users userId (fun u => u.update req none) fun _ => rfl) := by
  have hcloses : closes backend (modifyUser users userId (fun u => u.update req none)
      fun _ => rfl)=true := by
    unfold closes
    rw [haccepts,hclose]
    rfl
  unfold request unitOfWork handle updateUser getUser attempt load flush assign
  dsimp only [Session.begin]
  rw [hget,if_neg Bool.false_ne_true,hfound,hname]
  dsimp only
  rw [hselect,if_neg Bool.false_ne_true,if_pos haccepts,hfind]
  exact if_pos hcloses

/-- Whatever raises and whatever the constraints are: a request that is refused, or
raises before its own commit, leaves the table exactly if it is no update that names
an unknown role after it has assigned another address or activity. -/
theorem unchanged_iff (roles : List Role) (backend : Backend) (users : UserTable) (r : Request) :
    Unchanged roles backend users r ↔ ¬LeavesAssignments roles backend users r := by
  refine ⟨fun hunchanged hleaves => ?_,handle_leaves⟩
  cases r with
  | updateUser userId req =>
    obtain ⟨⟨name,hname,hfind⟩,⟨user,hfound,hother⟩,haccepts,hget,hselect,hclose⟩ := hleaves
    have hrequest := request_leavesAssignments hname hfind hfound haccepts hget hselect hclose
    have hkept : (request roles backend users (.updateUser userId req)).2=users := by
      refine hunchanged (.inl ⟨⟨false,none,"Invalid role: "++name⟩,?_,rfl⟩)
      exact congrArg Prod.fst hrequest
    rw [hrequest] at hkept
    have hrow : findUser (modifyUser users userId (fun u => u.update req none) fun _ => rfl) userId=
        some (onUser userId (fun u => u.update req none) user) := findUser_modifyUser hfound
    have hon : onUser userId (fun u => u.update req none) user=user.update req none :=
      if_pos (findUser_id hfound)
    dsimp only at hkept
    rw [hkept,hfound,hon] at hrow
    exact update_other hother (Option.some.inj hrow).symm
  | createUser req => exact hleaves
  | resetPassword userId passwordHash => exact hleaves
  | lockUser userId isLocked => exact hleaves
  | deleteUser userId currentUserId => exact hleaves

/-- A database that accepts everything. -/
def calm : Backend := ⟨fun _ => true,fun _ => false,"operator"⟩

/-- What the operations on the table make of it. -/
def operated (roles : List Role) (users : UserTable) : Request→Option UserTable
  | .createUser _ => none
  | .updateUser userId req =>
    if emailTaken users userId req.email=true then none
    else some (UserAccounts.updateUser roles users userId req)
  | .resetPassword userId passwordHash => some (UserAccounts.resetPassword users userId passwordHash)
  | .lockUser userId isLocked => some (UserAccounts.lockUser users userId isLocked)
  | .deleteUser userId currentUserId => some (UserAccounts.deleteUser users userId currentUserId)

/-- A change of an absent user leaves the table. -/
theorem rows_absent {userId : String} {f : User→User} (habsent : findUser users userId=none) :
    users.rows.map (onUser userId f)=users.rows := by
  calc
    users.rows.map (onUser userId f)=users.rows.map id := by
      refine List.map_congr_left fun row hrow => if_neg fun hid => ?_
      have hfound := findUser_of_mem hrow
      rw [hid,habsent] at hfound
      cases hfound
    _=users.rows := List.map_id _

/-- A request with the row of a user, and without one. -/
theorem getUser_calm (userId : String) (e : HTTPException) (next : User→UserHandler) :
    unitOfWork (closes calm) closeFailure (getUser calm userId e next) users=
      match findUser users userId with
      | none => (.ok ⟨false,none,"User not found"⟩,users)
      | some user => unitOfWork (closes calm) closeFailure (next user) users := by
  unfold unitOfWork getUser attempt load
  dsimp only [Session.begin]
  cases findUser users userId with
  | none => rfl
  | some user => rfl

/-- The end of an update stores what it has assigned. -/
theorem finishUpdate_calm (user : User) (req : UserUpdateRequest) (role : Option Role) :
    (close (closes calm) closeFailure (finishUpdate calm user req role s)).2=s.working := by
  unfold finishUpdate
  by_cases hchanges : changes user req role=[]
  · rw [if_pos hchanges]
    rfl
  · rw [if_neg hchanges]
    rfl

/-- An update stores its assignments. -/
theorem updateUser_calm {userId : String} {req : UserUpdateRequest} {user : User}
    (hfound : findUser users userId=some user) :
    (request roles calm users (.updateUser userId req)).2.rows=users.rows.map (onUser userId fun u =>
      u.update req (req.role.bind fun name => roles.find? fun role => role.name=name)) := by
  unfold request handle updateUser
  dsimp only
  rw [getUser_calm,hfound]
  dsimp only
  unfold unitOfWork assign
  cases hrole : req.role with
  | none =>
    dsimp only
    rw [finishUpdate_calm]
    rfl
  | some name =>
    unfold attempt flush
    dsimp only [Option.bind_some]
    rw [if_neg (by exact Bool.false_ne_true),if_pos (by exact rfl)]
    cases hfind : roles.find? fun role => role.name=name with
    | none => rfl
    | some role =>
      dsimp only
      rw [finishUpdate_calm]
      dsimp only [Session.begin,modifyUser]
      rw [List.map_map]
      refine List.map_congr_left fun row _ => ?_
      unfold onUser
      dsimp only [Function.comp_apply]
      by_cases hid : row.id=userId
      · have hkept : (row.update req none).id=userId := (row.update_id req none).trans hid
        rw [if_pos hid,if_pos hkept,if_pos hid]
        rfl
      · rw [if_neg hid,if_neg hid,if_neg hid]

/-- When nothing raises and no constraint is broken, a request makes of the table what
the operation does. -/
theorem request_operated {r : Request} (hoperated : operated roles users r=some t) :
    (request roles calm users r).2=t := by
  cases r with
  | createUser req => cases hoperated
  | resetPassword userId passwordHash =>
    cases hoperated
    unfold request handle resetPassword
    dsimp only
    rw [getUser_calm]
    cases hfound : findUser users userId with
    | none => exact (table_ext (rows_absent hfound)).symm
    | some user => rfl
  | lockUser userId isLocked =>
    cases hoperated
    unfold request handle lockUser
    dsimp only
    rw [getUser_calm]
    cases hfound : findUser users userId with
    | none => exact (table_ext (rows_absent hfound)).symm
    | some user => rfl
  | deleteUser userId currentUserId =>
    cases hoperated
    unfold request handle deleteUser UserAccounts.deleteUser
    dsimp only
    rw [getUser_calm]
    cases hfound : findUser users userId with
    | none =>
      dsimp only
      by_cases hself : userId=currentUserId
      · rw [if_pos hself]
      · rw [if_neg hself]
        exact (table_ext (rows_absent hfound)).symm
    | some user =>
      dsimp only
      have hid := findUser_id hfound
      by_cases hself : userId=currentUserId
      · rw [if_pos (hid.trans hself),if_pos hself]
        rfl
      · rw [if_neg fun heq => hself (hid.symm.trans heq),if_neg hself]
        rfl
  | updateUser userId req =>
    dsimp only [operated] at hoperated
    by_cases htaken : emailTaken users userId req.email=true
    · rw [if_pos htaken] at hoperated
      cases hoperated
    rw [if_neg htaken] at hoperated
    cases hoperated
    unfold UserAccounts.updateUser
    rw [if_neg htaken]
    refine table_ext ?_
    cases hfound : findUser users userId with
    | some user => exact updateUser_calm hfound
    | none =>
      refine Eq.trans ?_ (rows_absent hfound).symm
      unfold request handle updateUser
      dsimp only
      rw [getUser_calm,hfound]

/-- An update with a new address and an unknown role is refused, and the address is
stored. -/
theorem refused_with_changes : ¬∀ r,Unchanged RoleVersions.allRoles calm RoleVersions.operators r := by
  intro hall
  have hrows := hall (.updateUser "7f1c"
    {email := some "kim@example.com",role := some "superuser"}) (.inl ⟨_,rfl,rfl⟩)
  have hemail := congrArg (fun users => users.rows.map User.email) hrows
  exact absurd hemail (by decide)

end Aqts.UserRequests
