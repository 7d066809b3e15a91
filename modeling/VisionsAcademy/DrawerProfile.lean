import VisionsAcademy.DatabaseService
import VisionsAcademy.AccountSession

/-! The name and email in the drawer of lib/SideBar/side_bar_bar_pages.dart. `initUser` asks for
the document of the account that is signed in when the drawer is built, and fills in the answer
if the drawer is still mounted. The documents come from `createUser` and change by `loginUser`. -/
namespace VisionsAcademy.DrawerProfile
open DocumentStore DartDynamic DatabaseService

/-- `uid` is the account whose document `initUser` has asked for. -/
structure Drawer where
  mounted : Bool
  uid : Option String
  waiting : Bool
  displayname : Option String
  email : Option String

structure State where
  account : AccountSession.State
  users : Collection
  drawers : List Drawer

inductive Label
  | account (label : AccountSession.Label)
  | openDrawer
  | closeDrawer (drawer : Nat)
  | userData (drawer : Nat) (answered : Bool)
  | createUser (user : UserModel) (devId : Option String) (now : Int × Nat) (accepted : Bool)
  | loginUser (call : LoginCall)

def initial (account : AccountSession.State) (users : Collection) : State := ⟨account,users,[]⟩

/-- The rest of `initUser`; `userData.displayName` of null throws. -/
def Drawer.fill (drawer : Drawer) (userData : Option UserModel) : Drawer :=
  match drawer.mounted,userData with
  | true,some userData =>
    {drawer with waiting := false, displayname := userData.displayName, email := userData.email}
  | _,_ => {drawer with waiting := false}

def State.closeDrawers (state : State) : List Drawer :=
  state.drawers.map fun drawer => {drawer with mounted := false}

def step (email : String → Option String) (state : State) : Label → Option State
  | .account .signOut =>
    (AccountSession.step email state.account .signOut).map fun account =>
      {state with account := account, drawers := state.closeDrawers}
  | .account label =>
    (AccountSession.step email state.account label).map fun account => {state with account := account}
  | .openDrawer =>
    if state.account.route = .app then
      some {state with
        drawers := state.drawers ++ [⟨true,state.account.currentUser,true,some "",some ""⟩]}
    else none
  | .closeDrawer index => some {state with
      drawers := state.drawers.modify index fun drawer => {drawer with mounted := false}}
  | .userData index answered =>
    match state.drawers[index]? with
    | none => none
    | some drawer =>
      if drawer.waiting then
        -- The answer is put together with the `currentUser` of that moment, who may be gone.
        let userData := if answered ∧ state.account.currentUser ≠ none then
          getUserData drawer.uid (reading state.users) else none
        some {state with drawers := state.drawers.set index (drawer.fill userData)}
      else none
  -- The uid is that of an account just made.
  | .createUser user devId now accepted =>
    if (user.uid.bind state.users).isNone then
      some {state with users := (createUser user devId now accepted state.users).1}
    else none
  | .loginUser call => some {state with users := call.run state.users}

def Stored (users : Collection) (uid : String) (displayname email : Option String) : Prop :=
  ∃ userData, getUserData (some uid) (reading users) = some userData ∧
    userData.displayName = displayname ∧ userData.email = email

def Drawer.Blank (drawer : Drawer) : Prop := drawer.displayname = some "" ∧ drawer.email = some ""

def Drawer.Backed (drawer : Drawer) (users : Collection) : Prop :=
  drawer.Blank ∨ ∃ uid, drawer.uid = some uid ∧ Stored users uid drawer.displayname drawer.email

structure Sound (email : String → Option String) (state : State) : Prop where
  own : AccountSession.Own email state.account
  mounted : ∀ drawer ∈ state.drawers, drawer.mounted = true →
    state.account.route = .app ∧ drawer.uid = state.account.currentUser
  backed : ∀ drawer ∈ state.drawers, drawer.Backed state.users

theorem getUserData_iff (users : Collection) (uid : String) (userData : UserModel) :
    getUserData (some uid) (reading users) = some userData ↔
      ∃ fields, users uid = some fields ∧ userData.uid = some uid ∧ userData.photoUrl = none ∧
        (fields.lookup "displayName").getD .null = ofString userData.displayName ∧
        (fields.lookup "email").getD .null = ofString userData.email ∧
        (fields.lookup "phoneNumber").getD .null = ofString userData.phoneNumber ∧
        asTimestamp ((fields.lookup "accountCreated").getD .null) = .ok userData.accountCreated ∧
        (fields.lookup "deviceID").getD .null = ofString userData.deviceId := by
  have answered : getUserData (some uid) (reading users) = some userData ↔
      readUserData (some uid) (reading users) = .ok userData := by
    rw [getUserData]
    cases readUserData (some uid) (reading users) <;> simp [Except.toOption]
  rw [answered]
  cases found : users uid with
  | none => simp [readUserData,current,reading,found,data,index,bind,Except.bind]
  | some fields =>
    have indexed (name : String) :
        index (data (users uid)) name = .ok ((fields.lookup name).getD .null) := by
      rw [found]
      rfl
    simp only [readUserData,current,reading,bind_ok,Except.ok.injEq,exists_eq_left',indexed,asString_ok]
    constructor
    · rintro ⟨name,named,mail,mailed,phone,called,created,dated,devId,bound,done⟩
      cases done
      exact ⟨fields,rfl,rfl,rfl,named,mailed,called,dated,bound⟩
    · rintro ⟨_,same,account,photo,named,mailed,called,dated,bound⟩
      cases same
      refine ⟨_,named,_,mailed,_,called,_,dated,_,bound,?_⟩
      obtain ⟨_,_,_,_,_,_,_⟩ := userData
      cases account
      cases photo
      rfl

theorem stored_call (users : Collection) (uid : String) (displayname email : Option String)
    (call : LoginCall) (stored : Stored users uid displayname email) :
    Stored (call.run users) uid displayname email := by
  obtain ⟨userData,read,rfl,rfl⟩ := stored
  obtain ⟨fields,found,account,photo,named,mailed,called,dated,bound⟩ :=
    (getUserData_iff users uid userData).mp read
  by_cases taken : call.uid = some uid ∧ call.accepted = true
  · refine ⟨{userData with deviceId := call.devId},?_,rfl,rfl⟩
    have frame (name : String) (different : name ≠ "deviceID") :=
      Entries.lookup_assign_other "deviceID" name (ofString call.devId) fields different
    refine (getUserData_iff _ uid _).mpr
      ⟨_,call_taken call users uid fields taken.1 taken.2 found,account,photo,?_,?_,?_,?_,?_⟩
    · rwa [frame _ (by decide)]
    · rwa [frame _ (by decide)]
    · rwa [frame _ (by decide)]
    · rwa [frame _ (by decide)]
    · rw [Entries.lookup_assign_self]
      rfl
  · have kept := call_untaken call users uid fun all => taken ⟨all.1,all.2.1⟩
    refine ⟨userData,(getUserData_iff _ uid _).mpr ⟨fields,kept.trans found,?_⟩,rfl,rfl⟩
    exact ⟨account,photo,named,mailed,called,dated,bound⟩

theorem stored_create (users : Collection) (uid : String) (displayname email : Option String)
    (user : UserModel) (devId : Option String) (now : Int × Nat) (accepted : Bool)
    (fresh : user.uid.bind users = none) (stored : Stored users uid displayname email) :
    Stored (createUser user devId now accepted users).1 uid displayname email := by
  obtain ⟨userData,read,shown⟩ := stored
  obtain ⟨fields,found,rest⟩ := (getUserData_iff users uid userData).mp read
  have kept : (createUser user devId now accepted users).1 uid = users uid := by
    cases named : user.uid with
    | none => simp [createUser,named]
    | some account =>
      have different : uid ≠ account := by
        rintro rfl
        rw [named,Option.bind_some,found] at fresh
        contradiction
      cases accepted with
      | false => simp [createUser,named]
      | true => simp [createUser,named,Function.update_of_ne different]
  exact ⟨userData,(getUserData_iff _ uid _).mpr ⟨fields,kept.trans found,rest⟩,shown⟩

theorem step_account (email : String → Option String) (state : State)
    (label : AccountSession.Label) (stays : label ≠ .signOut) :
    step email state (.account label) =
      (AccountSession.step email state.account label).map fun account =>
        {state with account := account} := by
  cases label with
  | signOut => contradiction
  | _ => rfl

theorem stored_step (email : String → Option String) (uid : String) (displayname mail : Option String)
    (state : State) (label : Label) (next : State) (stored : Stored state.users uid displayname mail)
    (taken : step email state label = some next) : Stored next.users uid displayname mail := by
  cases label with
  | account label =>
    by_cases out : label = .signOut
    · subst out
      obtain ⟨account,_,rfl⟩ := Option.map_eq_some_iff.mp taken
      exact stored
    · rw [step_account email state label out] at taken
      obtain ⟨account,_,rfl⟩ := Option.map_eq_some_iff.mp taken
      exact stored
  | openDrawer =>
    simp only [step] at taken
    split at taken
    · cases Option.some.inj taken
      exact stored
    · contradiction
  | closeDrawer index =>
    cases Option.some.inj taken
    exact stored
  | userData index answered =>
    simp only [step] at taken
    split at taken
    · contradiction
    · split at taken
      · cases Option.some.inj taken
        exact stored
      · contradiction
  | createUser user devId now accepted =>
    simp only [step] at taken
    split at taken
    next fresh =>
      cases Option.some.inj taken
      exact stored_create _ _ _ _ user devId now accepted (Option.isNone_iff_eq_none.mp fresh) stored
    next => contradiction
  | loginUser call =>
    cases Option.some.inj taken
    exact stored_call _ _ _ _ call stored

theorem backed_kept (email : String → Option String) (state : State) (label : Label) (next : State)
    (taken : step email state label = some next) (drawer : Drawer) (backed : drawer.Backed state.users) :
    drawer.Backed next.users := by
  rcases backed with blank | ⟨uid,asked,stored⟩
  · exact Or.inl blank
  · exact Or.inr ⟨uid,asked,stored_step email uid _ _ state label next stored taken⟩

theorem fill_kept (drawer : Drawer) (userData : Option UserModel) :
    (drawer.fill userData).mounted = drawer.mounted ∧ (drawer.fill userData).uid = drawer.uid := by
  unfold Drawer.fill
  split <;> exact ⟨rfl,rfl⟩

theorem fill_backed (drawer : Drawer) (users : Collection) (answered : Prop) [Decidable answered]
    (backed : drawer.Backed users) :
    (drawer.fill (if answered then getUserData drawer.uid (reading users) else none)).Backed users := by
  unfold Drawer.fill
  split
  next userData _ read =>
    split at read
    next =>
      cases asked : drawer.uid with
      | none =>
        rw [asked] at read
        contradiction
      | some uid =>
        rw [asked] at read
        exact Or.inr ⟨uid,rfl,userData,read,rfl,rfl⟩
    next => contradiction
  next => exact backed

theorem sound_step (email : String → Option String) (state : State) (label : Label) (next : State)
    (sound : Sound email state) (taken : step email state label = some next) : Sound email next := by
  have kept := backed_kept email state label next taken
  cases label with
  | account label =>
    by_cases out : label = .signOut
    · subst out
      obtain ⟨account,left,rfl⟩ := Option.map_eq_some_iff.mp taken
      refine ⟨AccountSession.own_step email _ _ account sound.own left,?_,?_⟩
      · intro drawer member mounted
        obtain ⟨_,_,rfl⟩ := List.mem_map.mp member
        contradiction
      · intro drawer member
        obtain ⟨before,present,rfl⟩ := List.mem_map.mp member
        exact sound.backed before present
    · rw [step_account email state label out] at taken
      obtain ⟨account,moved,rfl⟩ := Option.map_eq_some_iff.mp taken
      refine ⟨AccountSession.own_step email _ _ account sound.own moved,?_,sound.backed⟩
      intro drawer member mounted
      obtain ⟨here,own⟩ := sound.mounted drawer member mounted
      obtain ⟨still,same⟩ := AccountSession.session_step email _ label account sound.own here out moved
      exact ⟨still,own.trans same.symm⟩
  | openDrawer =>
    simp only [step] at taken
    split at taken
    next here =>
      cases Option.some.inj taken
      refine ⟨sound.own,?_,?_⟩
      · intro drawer member mounted
        rcases List.mem_append.mp member with earlier | last
        · exact sound.mounted drawer earlier mounted
        · obtain rfl := List.mem_singleton.mp last
          exact ⟨here,rfl⟩
      · intro drawer member
        rcases List.mem_append.mp member with earlier | last
        · exact sound.backed drawer earlier
        · obtain rfl := List.mem_singleton.mp last
          exact Or.inl ⟨rfl,rfl⟩
    next => contradiction
  | closeDrawer index =>
    cases Option.some.inj taken
    refine ⟨sound.own,?_,?_⟩
    · intro drawer member mounted
      obtain ⟨present,here,rfl | rfl⟩ := Entries.mem_modify _ _ _ _ member
      · exact sound.mounted _ here mounted
      · contradiction
    · intro drawer member
      obtain ⟨present,here,rfl | rfl⟩ := Entries.mem_modify _ _ _ _ member
      · exact sound.backed _ here
      · exact sound.backed present here
  | userData index answered =>
    simp only [step] at taken
    split at taken
    next => contradiction
    next before found =>
      split at taken
      next =>
        cases Option.some.inj taken
        have present := List.mem_of_getElem? found
        refine ⟨sound.own,?_,?_⟩
        · intro drawer member mounted
          rcases List.mem_or_eq_of_mem_set member with earlier | rfl
          · exact sound.mounted drawer earlier mounted
          · rw [(fill_kept before _).1] at mounted
            rw [(fill_kept before _).2]
            exact sound.mounted before present mounted
        · intro drawer member
          rcases List.mem_or_eq_of_mem_set member with earlier | rfl
          · exact sound.backed drawer earlier
          · exact fill_backed before state.users _ (sound.backed before present)
      next => contradiction
  | createUser user devId now accepted =>
    simp only [step] at taken
    split at taken
    next =>
      cases Option.some.inj taken
      exact ⟨sound.own,sound.mounted,fun drawer member => kept drawer (sound.backed drawer member)⟩
    next => contradiction
  | loginUser call =>
    cases Option.some.inj taken
    exact ⟨sound.own,sound.mounted,fun drawer member => kept drawer (sound.backed drawer member)⟩

/-- An account is made with this name and email, and its document is taken. -/
def Registers (uid : String) (displayname email : Option String) : Label → Prop
  | .createUser user _ _ accepted =>
    user.uid = some uid ∧ accepted = true ∧ user.displayName = displayname ∧ user.email = email
  | _ => False

theorem registers_stored (email : String → Option String) (uid : String)
    (displayname mail : Option String) (state : State) (label : Label) (next : State)
    (registers : Registers uid displayname mail label) (taken : step email state label = some next) :
    Stored next.users uid displayname mail := by
  cases label with
  | createUser user devId now accepted =>
    obtain ⟨named,rfl,rfl,rfl⟩ := registers
    simp only [step] at taken
    split at taken
    next =>
      cases Option.some.inj taken
      have written : (createUser user devId now true state.users).1 uid =
          some (userData user devId now) := by
        simp [createUser,named,DocumentStore.set]
      have read := getUserData_registered user now uid devId _ _ written
        (userData_registered user devId now)
      exact ⟨_,read,rfl,rfl⟩
    next => contradiction
  | _ => contradiction

theorem stored_same (users : Collection) (uid : String) (first second mail other : Option String)
    (one : Stored users uid first mail) (two : Stored users uid second other) :
    first = second ∧ mail = other := by
  obtain ⟨userData,read,rfl,rfl⟩ := one
  obtain ⟨again,same,rfl,rfl⟩ := two
  cases read.symm.trans same
  exact ⟨rfl,rfl⟩

/-- Whichever accounts register, log in and take turns, a drawer on display is blank or shows the name
and email in the document of the signed-in account, which are those that it registered with. -/
theorem profile_own (email : String → Option String) (start : AccountSession.State)
    (users : Collection) (final : State) (labels : List Label)
    (own : AccountSession.Own email start)
    (reached : Runs.run (step email) (initial start users) labels = some final) (drawer : Drawer)
    (built : drawer ∈ final.drawers) (mounted : drawer.mounted = true) :
    drawer.Blank ∨ ∃ uid, final.account.currentUser = some uid ∧
      Stored final.users uid drawer.displayname drawer.email ∧
      ∀ displayname mail, (∃ label ∈ labels, Registers uid displayname mail label) →
        drawer.displayname = displayname ∧ drawer.email = mail := by
  have begins : Sound email (initial start users) := ⟨own,by simp [initial],by simp [initial]⟩
  have sound := Runs.unconditional (Sound email) (sound_step email) _ final labels begins reached
  rcases sound.backed drawer built with blank | ⟨uid,asked,stored⟩
  · exact Or.inl blank
  · refine Or.inr ⟨uid,(sound.mounted drawer built mounted).2.symm.trans asked,stored,?_⟩
    rintro displayname mail ⟨label,member,registers⟩
    have registered := Refinement.run_lasting (fun state => Stored state.users uid displayname mail)
      (Registers uid displayname mail) (registers_stored email uid displayname mail)
      (stored_step email uid displayname mail) _ final labels reached label member registers
    exact stored_same final.users uid _ _ _ _ stored registered

def signedIn : AccountSession.State := ⟨.app,some "u1",false,none,[],[],[],⟨fun _ => none,[]⟩⟩

def ann : UserModel := ⟨some "u1",some "ann@a.b",none,some "Ann",none,none,none⟩

theorem profile_own_example : Drawer.Blank ⟨true,some "u1",false,some "Ann",some "ann@a.b"⟩ ∨
    ∃ uid, some "u1" = some uid ∧
      Stored (createUser ann none (5,0) true fun _ => none).1 uid (some "Ann") (some "ann@a.b") ∧
      ∀ displayname mail, (∃ label ∈ [Label.createUser ann none (5,0) true,.openDrawer,.userData 0 true],
        Registers uid displayname mail label) → some "Ann" = displayname ∧ some "ann@a.b" = mail :=
  profile_own (fun _ => none) signedIn (fun _ => none)
    ⟨signedIn,(createUser ann none (5,0) true fun _ => none).1,
      [⟨true,some "u1",false,some "Ann",some "ann@a.b"⟩]⟩
    [.createUser ann none (5,0) true,.openDrawer,.userData 0 true]
    ⟨fun _ => ⟨"u1",rfl⟩,nofun,by simp [signedIn]⟩ rfl _ (List.mem_singleton.mpr rfl) rfl

end VisionsAcademy.DrawerProfile
