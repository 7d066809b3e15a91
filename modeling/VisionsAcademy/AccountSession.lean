import VisionsAcademy.Login
import VisionsAcademy.CourseLifecycle

/-! The accounts that sign in and out on one device. The pages behind the login share the
global `u_id` and fill their members in `initPlatformState`; it goes on after its page is
disposed, as do the presses of the request button and the checks of CoursesEngineer. FirebaseAuth
is taken to answer its calls in their order. -/
namespace VisionsAcademy.AccountSession
open DocumentStore DartDynamic ManualPayment SubscriptionPage
open CourseGates CourseExpiry CourseAccess

inductive InitStage
  | setDebugLogsEnabled
  | setup
  | addAttributionData
  | identify (appUserId : Option String)
  | getOfferings
  | returned

/-- `Purchases.identify` answers with the info of the id it was asked for. -/
structure PurchaserInfo where
  appUserId : Option String
  activeSubscriptions : List String

/-- A State of HomeScreen, CoursesSciences or CoursesEngineer, or of CoursesPh, which has no
`checkmanual`. -/
structure CoursePage where
  gate : Option Gate
  mounted : Bool
  stage : InitStage
  userId : Option User
  purchaserInfo : Option PurchaserInfo
  offerings : Option Offerings

inductive Answer
  | done
  | purchaserInfo (info : PurchaserInfo)
  | offerings (offerings : Offerings)
  | platformException

def CoursePage.page (page : CoursePage) : Page :=
  ⟨page.userId,page.purchaserInfo.map (·.activeSubscriptions),page.offerings⟩

def CoursePage.resume (page : CoursePage) (currentUser : Option User) (u_id : Option String)
    (answer : Answer) : Option (CoursePage × Option String) :=
  match page.stage,answer with
  | .returned,_ => none
  | _,.platformException => some ({page with stage := .returned},u_id)
  | .setDebugLogsEnabled,.done =>
    match currentUser with
    | none => some ({page with stage := .returned, userId := none},u_id)
    | some user => some ({page with stage := .setup, userId := some user},some user.uid)
  | .setup,.done => some ({page with stage := .addAttributionData},u_id)
  | .addAttributionData,.done => some ({page with stage := .identify u_id},u_id)
  | .identify appUserId,.purchaserInfo info =>
    if info.appUserId = appUserId then
      some ({page with stage := .getOfferings, purchaserInfo := some info},u_id)
    else none
  | .getOfferings,.offerings offerings =>
    some ({page with stage := .returned, offerings := some offerings},u_id)
  | _,_ => none

def CoursePage.tap (page : CoursePage) (key : String) (document : Snapshot) (now : Int) : Tap :=
  match page.gate with
  | some gate => gate.tap page.page key document now
  | none => phTap page.page key

def CoursePage.request (page : CoursePage) (key : String) (document : Snapshot) (now : Int) :
    Option Request :=
  match page.tap key document now with
  | .subscription built => (built.bind build).toOption
  | _ => none

inductive Route
  | login
  | app
  deriving DecidableEq

/-- A press of the request button; `u_id` is the global as its call under way was made. -/
structure Press where
  request : Request
  stage : Stage
  u_id : Option String

/-- `closing` tells of a `signOut` whose answer is still to come. The pages are all that were
ever created. -/
structure State where
  route : Route
  currentUser : Option String
  closing : Bool
  u_id : Option String
  pages : List CoursePage
  presses : List Press
  checks : List (String × Snapshot)
  manualPayment : Documents

inductive Label
  | logIn (uid : String)
  | signUp (uid : String)
  | openPage (gate : Option Gate)
  | closePage (page : Nat)
  | resume (page : Nat) (answer : Answer)
  | press (page : Nat) (key : String) (read : Snapshot) (now : Int)
  | advance (press : Nat) (time : String) (answered : Bool)
  | checkmanual (page : Nat) (key : String)
  | checked (check : Nat) (now : Int) (accepted : Bool)
  | signOut
  | sessionClosed (accepted : Bool)
  | approve (uid course : String) (dates : List (String × Value))
  | advanceElsewhere (u_id : Option String) (request : Request) (stage : Stage) (time : String)
    (answered : Bool)
  | checkedElsewhere (u_id : Option String) (key : String) (read : Snapshot) (now : Int)
    (accepted : Bool)

def State.document (state : State) : Snapshot := state.manualPayment.get state.u_id

/-- The rest of a check, whose expiry write may be refused. -/
def withdraw (read : Snapshot) (key : String) (now : Int) (accepted : Bool)
    (document : Snapshot) : Snapshot :=
  if accepted then (engineerCheckmanual (.ok read) key now document).2 else document

def Done : Stage → Bool
  | .finished _ | .skipped | .threw => true
  | _ => false

/-- `email` is what FirebaseAuth has for each account. -/
def step (email : String → Option String) (state : State) : Label → Option State
  | .logIn uid =>
    if state.route = .login ∧ state.closing = false then
      some {state with route := .app, currentUser := some uid}
    else none
  -- `createUserWithEmailAndPassword` opens a session, and the form goes back to the login.
  | .signUp uid =>
    if state.route = .login ∧ state.closing = false then
      some {state with currentUser := some uid}
    else none
  | .openPage gate =>
    if state.route = .app then
      some {state with pages := state.pages ++ [⟨gate,true,.setDebugLogsEnabled,none,none,none⟩]}
    else none
  | .closePage page =>
    some {state with pages := state.pages.modify page fun page => {page with mounted := false}}
  | .resume index answer =>
    match state.pages[index]? with
    | none => none
    | some page =>
      let currentUser := state.currentUser.map fun uid => ⟨uid,email uid⟩
      (page.resume currentUser state.u_id answer).map fun resumed =>
        {state with pages := state.pages.set index resumed.1, u_id := resumed.2}
  | .press index key read now =>
    match state.pages[index]? with
    | none => none
    | some page =>
      if page.mounted then
        (page.request key read now).map fun request =>
          {state with presses := state.presses ++ [⟨request,.checkFirstTime,state.u_id⟩]}
      else none
  | .advance press time answered =>
    match state.presses[press]? with
    | none => none
    | some ⟨request,stage,called⟩ =>
      if Done stage then none
      else
        let document := state.manualPayment.get called
        let result := advance called request time answered document stage
        some {state with
          presses := state.presses.set press ⟨request,result.2,state.u_id⟩
          manualPayment := state.manualPayment.put called result.1}
  | .checkmanual index key =>
    match state.pages[index]? with
    | some ⟨some .engineer,true,_,_,some info,_⟩ =>
      if info.activeSubscriptions.contains key then none
      else some {state with checks := state.checks ++ [(key,state.document)]}
    | _ => none
  | .checked index now accepted =>
    match state.checks[index]? with
    | none => none
    | some (key,read) => some {state with
        checks := state.checks.eraseIdx index
        manualPayment := state.manualPayment.put state.u_id
          (withdraw read key now accepted state.document)}
  -- `signOut` is not awaited.
  | .signOut =>
    if state.route = .app then
      some {state with
        route := .login
        closing := true
        u_id := none
        pages := state.pages.map fun page => {page with mounted := false}}
    else none
  | .sessionClosed accepted =>
    if state.closing then
      some {state with
        currentUser := if accepted then none else state.currentUser
        closing := false}
    else none
  | .approve uid course dates =>
    let fields := assignMany (RequestInterleaving.approval course dates)
      ((state.manualPayment.doc uid).getD [])
    some {state with manualPayment := state.manualPayment.put (some uid) (some fields)}
  -- A turn of a request and an answer to a check on any other device.
  | .advanceElsewhere u_id request stage time answered =>
    let document := (advance u_id request time answered (state.manualPayment.get u_id) stage).1
    some {state with manualPayment := state.manualPayment.put u_id document}
  | .checkedElsewhere u_id key read now accepted =>
    let document := withdraw read key now accepted (state.manualPayment.get u_id)
    some {state with manualPayment := state.manualPayment.put u_id document}

structure Fits (email : String → Option String) (u_id : Option String) (uid : String)
    (page : CoursePage) : Prop where
  fresh : page.userId = none → page.purchaserInfo = none ∧
    (page.stage = .setDebugLogsEnabled ∨ page.stage = .returned)
  userId : ∀ user, page.userId = some user → user = ⟨uid,email uid⟩ ∧ u_id = some uid
  identify : ∀ appUserId, page.stage = .identify appUserId → appUserId = some uid
  purchaserInfo : ∀ info, page.purchaserInfo = some info → info.appUserId = some uid

structure Own (email : String → Option String) (state : State) : Prop where
  session : state.route = .app → ∃ uid, state.currentUser = some uid
  closing : state.closing = true → state.route = .login
  pages : ∀ page ∈ state.pages, page.mounted = true → state.route = .app ∧
    ∀ uid, state.currentUser = some uid → Fits email state.u_id uid page

theorem fits_identified (email : String → Option String) (u_id : Option String) (uid : String)
    (page : CoursePage) (info : PurchaserInfo) (fits : Fits email u_id uid page)
    (present : page.purchaserInfo = some info) : u_id = some uid := by
  have filled : page.userId ≠ none := by
    intro fresh
    rw [(fits.fresh fresh).1] at present
    contradiction
  obtain ⟨user,identified⟩ := Option.ne_none_iff_exists'.mp filled
  exact (fits.userId user identified).2

inductive Resumes (page : CoursePage) (currentUser : Option User) (u_id : Option String) :
    Answer → CoursePage → Option String → Prop
  | failed : page.stage ≠ .returned →
    Resumes page currentUser u_id .platformException {page with stage := .returned} u_id
  | nobody : page.stage = .setDebugLogsEnabled → currentUser = none →
    Resumes page currentUser u_id .done {page with stage := .returned, userId := none} u_id
  | signedIn (user : User) : page.stage = .setDebugLogsEnabled → currentUser = some user →
    Resumes page currentUser u_id .done {page with stage := .setup, userId := some user}
      (some user.uid)
  | setup : page.stage = .setup →
    Resumes page currentUser u_id .done {page with stage := .addAttributionData} u_id
  | addAttributionData : page.stage = .addAttributionData →
    Resumes page currentUser u_id .done {page with stage := .identify u_id} u_id
  | identify (info : PurchaserInfo) : page.stage = .identify info.appUserId →
    Resumes page currentUser u_id (.purchaserInfo info)
      {page with stage := .getOfferings, purchaserInfo := some info} u_id
  | getOfferings (offerings : Offerings) : page.stage = .getOfferings →
    Resumes page currentUser u_id (.offerings offerings)
      {page with stage := .returned, offerings := some offerings} u_id

theorem resume_cases (page : CoursePage) (currentUser : Option User) (u_id : Option String)
    (answer : Answer) (next : CoursePage) (left : Option String)
    (resumed : page.resume currentUser u_id answer = some (next,left)) :
    Resumes page currentUser u_id answer next left := by
  obtain ⟨gate,mounted,stage,userId,purchaserInfo,offerings⟩ := page
  cases answer with
  | platformException =>
    cases stage with
    | returned => contradiction
    | _ =>
      cases resumed
      exact .failed (by simp)
  | done =>
    cases stage with
    | setDebugLogsEnabled =>
      cases currentUser with
      | none =>
        cases resumed
        exact .nobody rfl rfl
      | some user =>
        cases resumed
        exact .signedIn user rfl rfl
    | setup =>
      cases resumed
      exact .setup rfl
    | addAttributionData =>
      cases resumed
      exact .addAttributionData rfl
    | _ => contradiction
  | purchaserInfo info =>
    cases stage with
    | identify appUserId =>
      simp only [CoursePage.resume] at resumed
      split at resumed
      next same =>
        subst same
        cases resumed
        exact .identify info rfl
      next => contradiction
    | _ => contradiction
  | offerings found =>
    cases stage with
    | getOfferings =>
      cases resumed
      exact .getOfferings found rfl
    | _ => contradiction

theorem resumes_mounted (page : CoursePage) (currentUser : Option User) (u_id : Option String)
    (answer : Answer) (next : CoursePage) (left : Option String)
    (resumed : Resumes page currentUser u_id answer next left) : next.mounted = page.mounted := by
  cases resumed <;> rfl

theorem resumes_u_id (page : CoursePage) (user : User) (u_id : Option String) (answer : Answer)
    (next : CoursePage) (left : Option String) (named : u_id = some user.uid)
    (resumed : Resumes page (some user) u_id answer next left) : left = some user.uid := by
  cases resumed with
  | signedIn _ _ present =>
    cases present
    rfl
  | _ => exact named

theorem fits_resumes (email : String → Option String) (u_id : Option String) (uid : String)
    (page : CoursePage) (answer : Answer) (next : CoursePage) (left : Option String)
    (fits : Fits email u_id uid page)
    (resumed : Resumes page (some ⟨uid,email uid⟩) u_id answer next left) :
    Fits email left uid next := by
  have seen (running : page.stage ≠ .setDebugLogsEnabled) (going : page.stage ≠ .returned) :
      page.userId ≠ none := fun fresh => (fits.fresh fresh).2.elim running going
  cases resumed with
  | failed =>
    exact ⟨fun fresh => ⟨(fits.fresh fresh).1,Or.inr rfl⟩,fits.userId,by simp,fits.purchaserInfo⟩
  | nobody _ absent => contradiction
  | signedIn user _ present =>
    cases present
    exact ⟨by simp,by simp,by simp,fits.purchaserInfo⟩
  | setup here =>
    exact ⟨fun fresh => absurd fresh (seen (by simp [here]) (by simp [here])),fits.userId,by simp,
      fits.purchaserInfo⟩
  | addAttributionData here =>
    have known := seen (by simp [here]) (by simp [here])
    obtain ⟨user,signed⟩ := Option.ne_none_iff_exists'.mp known
    refine ⟨fun fresh => absurd fresh known,fits.userId,?_,fits.purchaserInfo⟩
    intro appUserId same
    cases same
    exact (fits.userId user signed).2
  | identify info here =>
    refine ⟨fun fresh => absurd fresh (seen (by simp [here]) (by simp [here])),fits.userId,
      by simp,?_⟩
    intro other same
    cases same
    exact fits.identify info.appUserId here
  | getOfferings offerings here =>
    exact ⟨fun fresh => absurd fresh (seen (by simp [here]) (by simp [here])),fits.userId,by simp,
      fits.purchaserInfo⟩

inductive Effect (email : String → Option String) (state : State) : Label → State → Prop
  | logIn (uid : String) (here : state.route = .login) (closed : state.closing = false) :
    Effect email state (.logIn uid) {state with route := .app, currentUser := some uid}
  | signUp (uid : String) (here : state.route = .login) :
    Effect email state (.signUp uid) {state with currentUser := some uid}
  | openPage (gate : Option Gate) (here : state.route = .app) :
    Effect email state (.openPage gate) {state with
      pages := state.pages ++ [⟨gate,true,.setDebugLogsEnabled,none,none,none⟩]}
  | closePage (index : Nat) : Effect email state (.closePage index) {state with
      pages := state.pages.modify index fun page => {page with mounted := false}}
  | resume (index : Nat) (answer : Answer) (page next : CoursePage) (left : Option String)
    (found : state.pages[index]? = some page)
    (resumed : Resumes page (state.currentUser.map fun uid => ⟨uid,email uid⟩) state.u_id answer
      next left) :
    Effect email state (.resume index answer)
      {state with pages := state.pages.set index next, u_id := left}
  | press (index : Nat) (key : String) (read : Snapshot) (now : Int) (page : CoursePage)
    (request : Request) (found : state.pages[index]? = some page) (mounted : page.mounted = true)
    (requested : page.request key read now = some request) :
    Effect email state (.press index key read now)
      {state with presses := state.presses ++ [⟨request,.checkFirstTime,state.u_id⟩]}
  | advance (press : Nat) (time : String) (answered : Bool) (request : Request) (stage : Stage)
    (called : Option String) (found : state.presses[press]? = some ⟨request,stage,called⟩)
    (going : Done stage = false) :
    Effect email state (.advance press time answered) {state with
      presses := state.presses.set press ⟨request,
        (advance called request time answered (state.manualPayment.get called) stage).2,state.u_id⟩
      manualPayment := state.manualPayment.put called
        (advance called request time answered (state.manualPayment.get called) stage).1}
  | checkmanual (index : Nat) (key : String) (page : CoursePage) (info : PurchaserInfo)
    (found : state.pages[index]? = some page) (mounted : page.mounted = true)
    (present : page.purchaserInfo = some info) : Effect email state (.checkmanual index key)
      {state with checks := state.checks ++ [(key,state.document)]}
  | checked (index : Nat) (now : Int) (accepted : Bool) (key : String) (read : Snapshot)
    (found : state.checks[index]? = some (key,read)) :
    Effect email state (.checked index now accepted) {state with
      checks := state.checks.eraseIdx index
      manualPayment := state.manualPayment.put state.u_id
        (withdraw read key now accepted state.document)}
  | signOut (here : state.route = .app) : Effect email state .signOut {state with
      route := .login
      closing := true
      u_id := none
      pages := state.pages.map fun page => {page with mounted := false}}
  | sessionClosed (accepted : Bool) (closing : state.closing = true) :
    Effect email state (.sessionClosed accepted) {state with
      currentUser := if accepted then none else state.currentUser
      closing := false}
  | approve (uid course : String) (dates : List (String × Value)) :
    Effect email state (.approve uid course dates) {state with
      manualPayment := state.manualPayment.put (some uid)
        (some (assignMany (RequestInterleaving.approval course dates)
          ((state.manualPayment.doc uid).getD [])))}
  | advanceElsewhere (u_id : Option String) (request : Request) (stage : Stage) (time : String)
    (answered : Bool) :
    Effect email state (.advanceElsewhere u_id request stage time answered) {state with
      manualPayment := state.manualPayment.put u_id
        (advance u_id request time answered (state.manualPayment.get u_id) stage).1}
  | checkedElsewhere (u_id : Option String) (key : String) (read : Snapshot) (now : Int)
    (accepted : Bool) :
    Effect email state (.checkedElsewhere u_id key read now accepted) {state with
      manualPayment := state.manualPayment.put u_id
        (withdraw read key now accepted (state.manualPayment.get u_id))}

theorem step_effect (email : String → Option String) (state : State) (label : Label) (next : State)
    (taken : step email state label = some next) : Effect email state label next := by
  cases label with
  | logIn uid =>
    simp only [step] at taken
    split at taken
    next here =>
      cases Option.some.inj taken
      exact .logIn uid here.1 here.2
    next => contradiction
  | signUp uid =>
    simp only [step] at taken
    split at taken
    next here =>
      cases Option.some.inj taken
      exact .signUp uid here.1
    next => contradiction
  | openPage gate =>
    simp only [step] at taken
    split at taken
    next here =>
      cases Option.some.inj taken
      exact .openPage gate here
    next => contradiction
  | closePage index =>
    cases Option.some.inj taken
    exact .closePage index
  | resume index answer =>
    simp only [step] at taken
    split at taken
    next => contradiction
    next page found =>
      obtain ⟨⟨after,left⟩,resumed,rfl⟩ := Option.map_eq_some_iff.mp taken
      exact .resume index answer page after left found (resume_cases page _ _ answer after left resumed)
  | press index key read now =>
    simp only [step] at taken
    split at taken
    next => contradiction
    next page found =>
      split at taken
      next mounted =>
        obtain ⟨request,requested,rfl⟩ := Option.map_eq_some_iff.mp taken
        exact .press index key read now page request found mounted requested
      next => contradiction
  | advance press time answered =>
    simp only [step] at taken
    split at taken
    next => contradiction
    next request stage called found =>
      split at taken
      next => contradiction
      next going =>
        rw [Bool.not_eq_true] at going
        cases Option.some.inj taken
        exact .advance press time answered request stage called found going
  | checkmanual index key =>
    simp only [step] at taken
    split at taken
    next stage userId info offerings found =>
      split at taken
      next => contradiction
      next =>
        cases Option.some.inj taken
        exact .checkmanual index key _ info found rfl rfl
    next => contradiction
  | checked index now accepted =>
    simp only [step] at taken
    split at taken
    next => contradiction
    next key read found =>
      cases Option.some.inj taken
      exact .checked index now accepted key read found
  | signOut =>
    simp only [step] at taken
    split at taken
    next here =>
      cases Option.some.inj taken
      exact .signOut here
    next => contradiction
  | sessionClosed accepted =>
    simp only [step] at taken
    split at taken
    next closing =>
      cases Option.some.inj taken
      exact .sessionClosed accepted closing
    next => contradiction
  | approve uid course dates =>
    cases Option.some.inj taken
    exact .approve uid course dates
  | advanceElsewhere u_id request stage time answered =>
    cases Option.some.inj taken
    exact .advanceElsewhere u_id request stage time answered
  | checkedElsewhere u_id key read now accepted =>
    cases Option.some.inj taken
    exact .checkedElsewhere u_id key read now accepted

theorem own_login (email : String → Option String) (state : State) (own : Own email state)
    (here : state.route = .login) : ∀ page ∈ state.pages, page.mounted = false := by
  intro page member
  cases mounted : page.mounted with
  | false => rfl
  | true =>
    have inside := (own.pages page member mounted).1
    rw [here] at inside
    contradiction

/-- A page that goes on at the login is disposed, and behind it the account is the signed-in one. -/
theorem own_step (email : String → Option String) (state : State) (label : Label) (next : State)
    (own : Own email state) (taken : step email state label = some next) : Own email next := by
  cases step_effect email state label next taken with
  | logIn uid here closed =>
    refine ⟨fun _ => ⟨uid,rfl⟩,?_,?_⟩
    · intro closing
      rw [closed] at closing
      contradiction
    · intro page member mounted
      rw [own_login email state own here page member] at mounted
      contradiction
  | signUp uid here =>
    refine ⟨fun _ => ⟨uid,rfl⟩,own.closing,?_⟩
    intro page member mounted
    rw [own_login email state own here page member] at mounted
    contradiction
  | openPage gate here =>
    refine ⟨own.session,own.closing,?_⟩
    intro page member mounted
    rcases List.mem_append.mp member with earlier | last
    · exact own.pages page earlier mounted
    · obtain rfl := List.mem_singleton.mp last
      exact ⟨here,fun uid _ => ⟨fun _ => ⟨rfl,Or.inl rfl⟩,by simp,by simp,by simp⟩⟩
  | closePage index =>
    refine ⟨own.session,own.closing,?_⟩
    intro page member mounted
    obtain ⟨before,present,rfl | rfl⟩ := Entries.mem_modify _ _ _ _ member
    · exact own.pages _ present mounted
    · contradiction
  | resume index answer page after left found resumed =>
    refine ⟨own.session,own.closing,?_⟩
    intro other member mounted
    rcases List.mem_or_eq_of_mem_set member with earlier | rfl
    · obtain ⟨here,fits⟩ := own.pages other earlier mounted
      refine ⟨here,fun uid signed => ?_⟩
      have known := fits uid signed
      cases resumed with
      | signedIn user _ present =>
        change state.currentUser = some uid at signed
        rw [signed] at present
        cases present
        exact ⟨known.fresh,fun user same => ⟨(known.userId user same).1,rfl⟩,known.identify,
          known.purchaserInfo⟩
      | _ => exact known
    · rw [resumes_mounted _ _ _ _ _ _ resumed] at mounted
      obtain ⟨here,fits⟩ := own.pages page (List.mem_of_getElem? found) mounted
      refine ⟨here,fun uid signed => ?_⟩
      change state.currentUser = some uid at signed
      rw [signed] at resumed
      exact fits_resumes email _ uid page answer other left (fits uid signed) resumed
  | signOut here =>
    refine ⟨nofun,fun _ => rfl,?_⟩
    intro page member mounted
    obtain ⟨_,_,rfl⟩ := List.mem_map.mp member
    contradiction
  | sessionClosed accepted closing =>
    have here := own.closing closing
    refine ⟨?_,nofun,?_⟩
    · intro inside
      change state.route = .app at inside
      rw [here] at inside
      contradiction
    · intro page member mounted
      rw [own_login email state own here page member] at mounted
      contradiction
  | _ => exact ⟨own.session,own.closing,own.pages⟩

/-- The splash screen finds a session or none, and opens BottomBar for one or the login. -/
def initial (currentUser : Option String) (opens : Bool) (manualPayment : Documents) : State :=
  ⟨if currentUser.isSome && opens then .app else .login,currentUser,false,none,[],[],[],manualPayment⟩

theorem own_initial (email : String → Option String) (currentUser : Option String) (opens : Bool)
    (manualPayment : Documents) : Own email (initial currentUser opens manualPayment) := by
  refine ⟨?_,nofun,by simp [initial]⟩
  cases currentUser with
  | none => nofun
  | some uid => exact fun _ => ⟨uid,rfl⟩

theorem session_step (email : String → Option String) (state : State) (label : Label) (next : State)
    (own : Own email state) (here : state.route = .app) (stays : label ≠ .signOut)
    (taken : step email state label = some next) :
    next.route = .app ∧ next.currentUser = state.currentUser := by
  cases step_effect email state label next taken with
  | logIn uid away | signUp uid away =>
    rw [here] at away
    contradiction
  | signOut => contradiction
  | sessionClosed accepted closing =>
    rw [own.closing closing] at here
    contradiction
  | _ => exact ⟨here,rfl⟩

theorem own_run (email : String → Option String) (start final : State) (labels : List Label)
    (own : Own email start) (reached : Runs.run (step email) start labels = some final) :
    Own email final :=
  Runs.unconditional (Own email) (own_step email) start final labels own reached

/-! Which account a course opens for. -/

theorem opened_page (page : CoursePage) (key : String) (document : Snapshot) (now : Int)
    (opened : page.tap key document now = .opened) : ∃ info, page.purchaserInfo = some info ∧
      (key ∈ info.activeSubscriptions ∨ Approved document key) := by
  have shown (activeSubscriptions : List String)
      (held : page.page.activeSubscriptions = some activeSubscriptions) :
      ∃ info, page.purchaserInfo = some info ∧ info.activeSubscriptions = activeSubscriptions :=
    Option.map_eq_some_iff.mp held
  rw [CoursePage.tap] at opened
  split at opened
  next gate _ =>
    obtain ⟨_,held,needs⟩ := CourseLifecycle.opened_needs gate page.page key document now opened
    obtain ⟨info,present,rfl⟩ := shown _ held
    exact ⟨info,present,needs⟩
  next =>
    rw [phTap] at opened
    cases held : page.page.activeSubscriptions with
    | none =>
      rw [tap_unfilled page.page key _ _ held] at opened
      contradiction
    | some activeSubscriptions =>
      obtain ⟨info,present,rfl⟩ := shown _ held
      refine ⟨info,present,Or.inl ?_⟩
      by_contra unsubscribed
      have refused := tap_unsubscribed page.page key none true _ held unsubscribed
      rw [opened] at refused
      exact offer_not_opened page.page key refused.symm

theorem approved_of_withdraw (read : Snapshot) (course : String) (now : Int) (accepted : Bool)
    (document : Snapshot) (key : String)
    (approved : Approved (withdraw read course now accepted document) key) :
    Approved document key := by
  cases accepted with
  | false => exact approved
  | true => exact CourseLifecycle.approved_of_check _ _ _ _ _ approved

theorem approved_step (email : String → Option String) (uid key : String) (state : State)
    (label : Label) (next : State) (taken : step email state label = some next)
    (approved : Approved (next.manualPayment.doc uid) key) :
    Approved (state.manualPayment.doc uid) key ∨ ∃ dates, label = .approve uid key dates := by
  have within (id : Option String) (document : Snapshot)
      (after : Approved ((state.manualPayment.put id document).doc uid) key) :
      Approved (state.manualPayment.doc uid) key ∨ id = some uid ∧ Approved document key := by
    by_cases same : id = some uid
    · subst same
      rw [Documents.put_self] at after
      exact Or.inr ⟨rfl,after⟩
    · rw [Documents.put_doc _ _ _ _ same] at after
      exact Or.inl after
  cases step_effect email state label next taken with
  | advance | advanceElsewhere =>
    rcases within _ _ approved with before | ⟨rfl,after⟩
    · exact Or.inl before
    · exact Or.inl (CourseLifecycle.approved_of_advance _ _ _ _ _ _ _ after)
  | checked =>
    rcases within _ _ approved with before | ⟨same,after⟩
    · exact Or.inl before
    · rw [State.document,same] at after
      exact Or.inl (approved_of_withdraw _ _ _ _ _ _ after)
  | checkedElsewhere =>
    rcases within _ _ approved with before | ⟨rfl,after⟩
    · exact Or.inl before
    · exact Or.inl (approved_of_withdraw _ _ _ _ _ _ after)
  | approve account course dates =>
    rcases within (some account) (some _) approved with before | ⟨same,after⟩
    · exact Or.inl before
    · obtain rfl := Option.some.inj same
      by_cases here : course = key
      · exact Or.inr ⟨dates,by rw [here]⟩
      · exact Or.inl (CourseLifecycle.approved_of_approval _ _ _ _ here after)
  | _ => exact Or.inl approved

def Subscribed (state : State) (uid key : String) : Prop :=
  ∃ page ∈ state.pages, ∃ info, page.purchaserInfo = some info ∧ info.appUserId = some uid ∧
    key ∈ info.activeSubscriptions

def Has (state : State) (uid key : String) : Prop :=
  Subscribed state uid key ∨ Approved (state.manualPayment.doc uid) key

def Gives (uid key : String) : Label → Prop
  | .resume _ (.purchaserInfo info) => info.appUserId = some uid ∧ key ∈ info.activeSubscriptions
  | .approve account course _ => account = uid ∧ course = key
  | _ => False

theorem subscribed_resumes (uid key : String) (page : CoursePage) (currentUser : Option User)
    (u_id : Option String) (index : Nat) (answer : Answer) (next : CoursePage) (left : Option String)
    (resumed : Resumes page currentUser u_id answer next left) (info : PurchaserInfo)
    (present : next.purchaserInfo = some info) (identified : info.appUserId = some uid)
    (subscribed : key ∈ info.activeSubscriptions) :
    page.purchaserInfo = some info ∨ Gives uid key (.resume index answer) := by
  cases resumed with
  | identify =>
    cases present
    exact Or.inr ⟨identified,subscribed⟩
  | _ => exact Or.inl present

theorem subscribed_step (email : String → Option String) (uid key : String) (state : State)
    (label : Label) (next : State) (taken : step email state label = some next)
    (subscribed : Subscribed next uid key) : Subscribed state uid key ∨ Gives uid key label := by
  obtain ⟨page,member,info,present,identified,listed⟩ := subscribed
  cases step_effect email state label next taken with
  | openPage =>
    rcases List.mem_append.mp member with earlier | last
    · exact Or.inl ⟨page,earlier,info,present,identified,listed⟩
    · obtain rfl := List.mem_singleton.mp last
      contradiction
  | closePage index =>
    obtain ⟨before,here,rfl | rfl⟩ := Entries.mem_modify _ _ _ _ member
    · exact Or.inl ⟨_,here,info,present,identified,listed⟩
    · exact Or.inl ⟨before,here,info,present,identified,listed⟩
  | resume index answer before after left found resumed =>
    rcases List.mem_or_eq_of_mem_set member with earlier | rfl
    · exact Or.inl ⟨page,earlier,info,present,identified,listed⟩
    · rcases subscribed_resumes uid key before _ _ index answer page left resumed info present
        identified listed with same | gives
      · exact Or.inl ⟨before,List.mem_of_getElem? found,info,same,identified,listed⟩
      · exact Or.inr gives
  | signOut =>
    obtain ⟨before,here,rfl⟩ := List.mem_map.mp member
    exact Or.inl ⟨before,here,info,present,identified,listed⟩
  | _ => exact Or.inl ⟨page,member,info,present,identified,listed⟩

theorem has_step (email : String → Option String) (uid key : String) (state : State)
    (label : Label) (next : State) (taken : step email state label = some next)
    (has : Has next uid key) : Has state uid key ∨ Gives uid key label := by
  rcases has with subscribed | approved
  · rcases subscribed_step email uid key state label next taken subscribed with before | gives
    · exact Or.inl (Or.inl before)
    · exact Or.inr gives
  · rcases approved_step email uid key state label next taken approved with before | ⟨dates,rfl⟩
    · exact Or.inl (Or.inr before)
    · exact Or.inr ⟨rfl,rfl⟩

theorem opened_has (email : String → Option String) (state : State) (own : Own email state)
    (page : CoursePage) (shown : page ∈ state.pages) (mounted : page.mounted = true) (key : String)
    (now : Int) (opened : page.tap key state.document now = .opened) :
    ∃ uid, state.currentUser = some uid ∧ Has state uid key := by
  obtain ⟨inside,fits⟩ := own.pages page shown mounted
  obtain ⟨uid,signed⟩ := own.session inside
  have known := fits uid signed
  obtain ⟨info,present,needs⟩ := opened_page page key state.document now opened
  refine ⟨uid,signed,?_⟩
  rcases needs with subscribed | approved
  · exact Or.inl ⟨page,shown,info,present,known.purchaserInfo info present,subscribed⟩
  · right
    rwa [State.document,fits_identified email _ uid page info known present] at approved

theorem opened_entitled (email : String → Option String) (start final : State)
    (labels : List Label) (own : Own email start)
    (reached : Runs.run (step email) start labels = some final) (page : CoursePage)
    (shown : page ∈ final.pages) (mounted : page.mounted = true) (key : String) (now : Int)
    (opened : page.tap key final.document now = .opened) :
    ∃ uid, final.currentUser = some uid ∧
      (Has start uid key ∨ ∃ label ∈ labels, Gives uid key label) := by
  have arrived := own_run email start final labels own reached
  obtain ⟨uid,signed,has⟩ := opened_has email final arrived page shown mounted key now opened
  refine ⟨uid,signed,?_⟩
  exact Refinement.run_origin_exact (fun state => Has state uid key) (Gives uid key)
    (has_step email uid key) start final labels reached has

/-- The first account signs out while its page waits; the page goes on under the second account,
whose own page opens the course. -/
theorem opened_entitled_example : ∃ label ∈ [Label.logIn "u1",
    .openPage (some .home),.signOut,.sessionClosed true,.logIn "u2",.resume 0 .done,
    .openPage (some .home),.resume 1 .done,.resume 1 .done,.resume 1 .done,
    .resume 1 (.purchaserInfo ⟨some "u2",[]⟩),.approve "u2" "moodle" []],
    Gives "u2" "moodle" label := by
  obtain ⟨uid,signed,(⟨page,member,_⟩ | approved) | granted⟩ :=
    opened_entitled (fun _ => none) (initial none true ⟨fun _ => none,[]⟩) _ [.logIn "u1",
      .openPage (some .home),.signOut,.sessionClosed true,.logIn "u2",.resume 0 .done,
      .openPage (some .home),.resume 1 .done,.resume 1 .done,.resume 1 .done,
      .resume 1 (.purchaserInfo ⟨some "u2",[]⟩),.approve "u2" "moodle" []] (own_initial _ _ _ _) rfl
      ⟨some .home,true,.getOfferings,some ⟨"u2",none⟩,some ⟨some "u2",[]⟩,none⟩
      (List.mem_of_getElem? (show _[1]? = some _ from rfl)) rfl "moodle" 0 rfl
  · contradiction
  · contradiction
  · cases signed
    exact granted

/-! The global `u_id`. -/

structure Named (state : State) : Prop where
  login : state.route = .login → state.u_id = none
  app : state.route = .app → ∀ uid, state.u_id = some uid → state.currentUser = some uid

/-- No `initPlatformState` comes to its `getCurrentUser` at the login with the session still open. -/
def Late (state : State) : Label → Prop
  | .resume index answer => ∀ page, state.pages[index]? = some page → state.route = .login →
      page.stage = .setDebugLogsEnabled → answer = .done → state.currentUser = none
  | _ => True

theorem named_resumes (email : String → Option String) (state : State) (index : Nat)
    (answer : Answer) (page next : CoursePage) (left : Option String) (named : Named state)
    (found : state.pages[index]? = some page)
    (resumed : Resumes page (state.currentUser.map fun uid => ⟨uid,email uid⟩) state.u_id answer
      next left) :
    Named {state with pages := state.pages.set index next, u_id := left} ↔
      Late state (.resume index answer) := by
  have kept (same : left = state.u_id)
      (late : page.stage = .setDebugLogsEnabled → answer = .done → state.currentUser = none) :
      Named {state with pages := state.pages.set index next, u_id := left} ↔
        Late state (.resume index answer) := by
    subst same
    refine iff_of_true ⟨named.login,named.app⟩ ?_
    intro other here _ waiting done
    cases found.symm.trans here
    exact late waiting done
  cases resumed with
  | signedIn user waiting present =>
    obtain ⟨uid,signed,rfl⟩ := Option.map_eq_some_iff.mp present
    cases here : state.route with
    | login =>
      refine iff_of_false ?_ ?_
      · intro after
        exact Option.some_ne_none _ (after.login rfl)
      · intro late
        rw [late page found here waiting rfl] at signed
        contradiction
    | app =>
      refine iff_of_true ⟨nofun,fun _ _ same => signed.trans same⟩ ?_
      intro _ _ login
      exact absurd (here.symm.trans login) (by decide)
  | nobody _ absent => exact kept rfl fun _ _ => Option.map_eq_none_iff.mp absent
  | failed => exact kept rfl fun _ done => by contradiction
  | setup here | addAttributionData here =>
    exact kept rfl fun waiting => absurd (here.symm.trans waiting) (by simp)
  | identify | getOfferings => exact kept rfl fun _ done => by contradiction

theorem named_step (email : String → Option String) (state : State) (label : Label) (next : State)
    (own : Own email state) (named : Named state) (taken : step email state label = some next) :
    Named next ↔ Late state label := by
  cases step_effect email state label next taken with
  | resume index answer page after left found resumed =>
    exact named_resumes email state index answer page after left named found resumed
  | logIn uid here closed =>
    refine iff_of_true ⟨nofun,fun _ other same => ?_⟩ trivial
    exact absurd ((named.login here).symm.trans same) (by simp)
  | signUp uid here =>
    refine iff_of_true ⟨named.login,fun inside => ?_⟩ trivial
    exact absurd (here.symm.trans inside) (by decide)
  | signOut => exact iff_of_true ⟨fun _ => rfl,nofun⟩ trivial
  | sessionClosed accepted closing =>
    refine iff_of_true ⟨named.login,fun inside => ?_⟩ trivial
    exact absurd ((own.closing closing).symm.trans inside) (by decide)
  | _ => exact iff_of_true ⟨named.login,named.app⟩ trivial

/-- The session that is open may be one that sign-out has not closed yet or that a sign-up left. -/
theorem u_id_iff (email : String → Option String) (currentUser : Option String) (opens : Bool)
    (manualPayment : Documents) (labels : List Label) :
    Runs.Throughout (step email) Named (initial currentUser opens manualPayment) labels ↔
      Runs.Along (step email) Late (initial currentUser opens manualPayment) labels := by
  apply Runs.throughout_iff (Own email) Named Late (own_step email) (named_step email)
  · exact own_initial email currentUser opens manualPayment
  · exact ⟨fun _ => rfl,fun _ _ => nofun⟩

end VisionsAcademy.AccountSession
