import VisionsAcademy.Library.Dynamic

/-! The users collection as lib/data_for_log_register/database.dart writes and
reads it. Every service call catches its errors and answers null instead.
`accepted` tells whether the back end takes a write. The collection is given by the ids of
accounts, which is how every reader asks for a document. -/
namespace VisionsAcademy.DatabaseService
open DocumentStore DartDynamic

structure UserModel where
  uid : Option String
  email : Option String
  accountCreated : Option (Int × Nat)
  displayName : Option String
  phoneNumber : Option String
  photoUrl : Option String
  deviceId : Option String
  deriving DecidableEq

def userData (user : UserModel) (devId : Option String) (now : Int × Nat) : Fields :=
  [("displayName",ofString user.displayName),("email",ofString user.email),
    ("phoneNumber",ofString user.phoneNumber),("accountCreated",.timestamp now.1 now.2),
    ("deviceID",ofString devId)]

def createUser (user : UserModel) (devId : Option String) (now : Int × Nat) (accepted : Bool)
    (users : Collection) : Collection × Option String :=
  match user.uid with
  -- `doc(null)` is a document under a new id, which is no account's.
  | none => (users,if accepted then some "success" else none)
  | some uid =>
    if accepted then
      (Function.update users uid (set (userData user devId now) (users uid)),some "success")
    else (users,none)

def loginUser (uid devId : Option String) (accepted : Bool) (users : Collection) :
    Collection × Option String :=
  match uid with
  -- An update of a new document finds none.
  | none => (users,none)
  | some uid =>
    if accepted then
      match update [("deviceID",ofString devId)] (users uid) with
      -- The answer keeps its initial text: unlike `createUser`, no "success" is ever set.
      | some fields => (Function.update users uid (some fields),some "error")
      | none => (users,none)
    else (users,none)

abbrev Get := String → Except Thrown Snapshot

def reading (users : Collection) : Get := fun uid => .ok (users uid)

def current (currentUser : Option String) : Except Thrown String :=
  match currentUser with
  | none => .error .noSuchMethodError
  | some uid => .ok uid

def readUserData (currentUser : Option String) (get : Get) : Except Thrown UserModel := do
  let uid ← current currentUser
  let value ← get uid
  let displayName ← asString (← index (data value) "displayName")
  let email ← asString (← index (data value) "email")
  let phoneNumber ← asString (← index (data value) "phoneNumber")
  let accountCreated ← asTimestamp (← index (data value) "accountCreated")
  let deviceId ← asString (← index (data value) "deviceID")
  return ⟨some uid,email,accountCreated,displayName,phoneNumber,none,deviceId⟩

def getUserData (currentUser : Option String) (get : Get) : Option UserModel :=
  (readUserData currentUser get).toOption

def readDevId (currentUser : Option String) (get : Get) : Except Thrown (Option String) := do
  let uid ← current currentUser
  let value ← get uid
  asString (← index (data value) "deviceID")

def getDevIdFromDatabase (currentUser : Option String) (get : Get) : Option String :=
  (readDevId currentUser get).toOption.join

def storedId (users : Collection) (uid : String) : Option Value :=
  (users uid).bind fun fields => fields.lookup "deviceID"

/-- A document as `createUser` leaves it, up to the device id that logins replace. -/
structure Registered (user : UserModel) (created : Int × Nat) (devId : Option String)
    (fields : Fields) : Prop where
  displayName : fields.lookup "displayName" = some (ofString user.displayName)
  email : fields.lookup "email" = some (ofString user.email)
  phoneNumber : fields.lookup "phoneNumber" = some (ofString user.phoneNumber)
  accountCreated : fields.lookup "accountCreated" = some (.timestamp created.1 created.2)
  deviceID : fields.lookup "deviceID" = some (ofString devId)

theorem userData_registered (user : UserModel) (devId : Option String) (now : Int × Nat) :
    Registered user now devId (userData user devId now) := by
  constructor <;> simp [userData,List.lookup_cons]

theorem update_deviceID (devId : Option String) (fields : Fields) :
    update [("deviceID",ofString devId)] (some fields) =
      some (Entries.assign "deviceID" (ofString devId) fields) := by
  have path : fieldPath "deviceID" = some ["deviceID"] := fieldPath_plain _ (by decide)
  simp [update,path,assignAt,Value.assign]

theorem Registered.assign (user : UserModel) (created : Int × Nat) (old new : Option String)
    (fields : Fields) (registered : Registered user created old fields) :
    Registered user created new (Entries.assign "deviceID" (ofString new) fields) := by
  obtain ⟨displayName,email,phoneNumber,accountCreated,_⟩ := registered
  have frame (name : String) (different : name ≠ "deviceID") :=
    Entries.lookup_assign_other "deviceID" name (ofString new) fields different
  exact ⟨(frame _ (by decide)).trans displayName,(frame _ (by decide)).trans email,
    (frame _ (by decide)).trans phoneNumber,(frame _ (by decide)).trans accountCreated,
    Entries.lookup_assign_self _ _ _⟩

theorem createUser_success (user : UserModel) (uid : String) (devId : Option String)
    (now : Int × Nat) (accepted : Bool) (users stored : Collection) (named : user.uid = some uid)
    (created : createUser user devId now accepted users = (stored,some "success")) :
    stored = Function.update users uid (some (userData user devId now)) := by
  simp only [createUser,named] at created
  split at created
  · exact (Prod.mk.inj created).1.symm
  · simp at created

theorem loginUser_missing (uid : String) (devId : Option String) (accepted : Bool)
    (users : Collection) (missing : users uid = none) :
    loginUser (some uid) devId accepted users = (users,none) := by
  cases accepted <;> simp [loginUser,missing,update]

theorem loginUser_other (uid devId : Option String) (accepted : Bool) (users : Collection)
    (other : String) (different : uid ≠ some other) :
    (loginUser uid devId accepted users).1 other = users other := by
  cases uid with
  | none => rfl
  | some uid =>
    have apart : other ≠ uid := fun equal => different (congrArg some equal.symm)
    simp only [loginUser]
    split
    · split
      · exact Function.update_of_ne apart _ _
      · rfl
    · rfl

structure LoginCall where
  uid : Option String
  devId : Option String
  accepted : Bool

def LoginCall.run (users : Collection) (call : LoginCall) : Collection :=
  (loginUser call.uid call.devId call.accepted users).1

theorem call_taken (call : LoginCall) (users : Collection) (uid : String) (fields : Fields)
    (named : call.uid = some uid) (accepted : call.accepted = true) (found : users uid = some fields) :
    call.run users uid = some (Entries.assign "deviceID" (ofString call.devId) fields) := by
  simp [LoginCall.run,loginUser,named,accepted,found,update_deviceID]

theorem call_untaken (call : LoginCall) (users : Collection) (uid : String)
    (untaken : ¬ (call.uid = some uid ∧ call.accepted = true ∧ users uid ≠ none)) :
    call.run users uid = users uid := by
  by_cases named : call.uid = some uid
  · cases found : users uid with
    | none => simp [LoginCall.run,loginUser_missing,named,found]
    | some fields =>
      have refused : call.accepted = false := by simpa [named,found] using untaken
      simp [LoginCall.run,loginUser,named,refused,found]
  · exact loginUser_other _ _ _ _ _ named

def lastDevice (uid : String) (initial : Option String) (calls : List LoginCall) : Option String :=
  calls.foldl (fun devId call => if call.uid = some uid ∧ call.accepted then call.devId else devId)
    initial

theorem registered_call (user : UserModel) (created : Int × Nat) (uid : String)
    (devId : Option String) (call : LoginCall) (users : Collection) (fields : Fields)
    (found : users uid = some fields) (registered : Registered user created devId fields) :
    ∃ next, call.run users uid = some next ∧
      Registered user created
        (if call.uid = some uid ∧ call.accepted then call.devId else devId) next := by
  by_cases named : call.uid = some uid
  · cases taken : call.accepted with
    | false => exact ⟨fields,by simp [LoginCall.run,loginUser,named,taken,found],by simpa using registered⟩
    | true =>
      refine ⟨Entries.assign "deviceID" (ofString call.devId) fields,?_,?_⟩
      · simp [LoginCall.run,loginUser,named,taken,found,update_deviceID]
      · simpa [named] using registered.assign user created devId call.devId fields
  · refine ⟨fields,?_,by simpa [named] using registered⟩
    rw [LoginCall.run,loginUser_other _ _ _ _ _ named,found]

theorem registered_calls (user : UserModel) (created : Int × Nat) (uid : String)
    (devId : Option String) (calls : List LoginCall) (users : Collection) (fields : Fields)
    (found : users uid = some fields) (registered : Registered user created devId fields) :
    ∃ final, calls.foldl LoginCall.run users uid = some final ∧
      Registered user created (lastDevice uid devId calls) final := by
  induction calls generalizing users fields devId with
  | nil => exact ⟨fields,found,registered⟩
  | cons call rest ih =>
    obtain ⟨next,stored,kept⟩ := registered_call user created uid devId call users fields found registered
    exact ih _ _ _ stored kept

theorem getUserData_registered (user : UserModel) (created : Int × Nat) (uid : String)
    (devId : Option String) (users : Collection) (fields : Fields)
    (found : users uid = some fields) (registered : Registered user created devId fields) :
    getUserData (some uid) (reading users) =
      some ⟨some uid,user.email,some created,user.displayName,user.phoneNumber,none,devId⟩ := by
  obtain ⟨displayName,email,phoneNumber,accountCreated,deviceID⟩ := registered
  simp [getUserData,readUserData,reading,current,found,data,index,displayName,email,phoneNumber,
    accountCreated,deviceID,asTimestamp,bind,Except.bind,pure,Except.pure,Except.toOption]

theorem getDevId_registered (user : UserModel) (created : Int × Nat) (uid : String)
    (devId : Option String) (users : Collection) (fields : Fields)
    (found : users uid = some fields) (registered : Registered user created devId fields) :
    getDevIdFromDatabase (some uid) (reading users) = devId := by
  simp [getDevIdFromDatabase,readDevId,reading,current,found,data,index,registered.deviceID,
    bind,Except.bind,Except.toOption]

theorem readers_return_registration (uid : String) (user : UserModel) (devId : Option String)
    (now : Int × Nat) (accepted : Bool) (users stored : Collection) (calls : List LoginCall)
    (named : user.uid = some uid)
    (created : createUser user devId now accepted users = (stored,some "success")) :
    let final := calls.foldl LoginCall.run stored
    getUserData (some uid) (reading final) =
      some ⟨some uid,user.email,some now,user.displayName,user.phoneNumber,none,
        lastDevice uid devId calls⟩ ∧
    getDevIdFromDatabase (some uid) (reading final) = lastDevice uid devId calls ∧
    ∀ (other : String) (device : Option String) (taken : Bool) (before : Collection),
      before other = none → (loginUser (some other) device taken before).1 = before := by
  have placed := createUser_success user uid devId now accepted users stored named created
  obtain ⟨fields,found,registered⟩ := registered_calls user now uid devId calls stored _
    (by rw [placed,Function.update_self]) (userData_registered user devId now)
  refine ⟨getUserData_registered user now uid _ _ fields found registered,
    getDevId_registered user now uid _ _ fields found registered,?_⟩
  intro other device taken before missing
  rw [loginUser_missing other device taken before missing]

theorem readers_return_registration_example :
    getDevIdFromDatabase (some "u1") (reading
      ([⟨some "u1",some "phone2",true⟩,⟨some "u1",some "phone3",false⟩].foldl LoginCall.run
        (createUser ⟨some "u1",some "a@b.c",none,some "Ann",none,none,none⟩ (some "phone1") (5,0) true
          (fun _ => none)).1)) = some "phone2" :=
  (readers_return_registration "u1" ⟨some "u1",some "a@b.c",none,some "Ann",none,none,none⟩
    (some "phone1") (5,0) true (fun _ => none) _
    [⟨some "u1",some "phone2",true⟩,⟨some "u1",some "phone3",false⟩] rfl rfl).2.1

end VisionsAcademy.DatabaseService
