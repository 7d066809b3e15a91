import VisionsAcademy.Library.Runs
import VisionsAcademy.DatabaseService

/-! The two ways out of lib/splash_screen.dart on one device. A listener on
`authStateChanges` gets the current user when it starts and again at every login
and sign-out, and is never cancelled; only the listener of `navigateUser` compares
device ids, six seconds before it acts on the result. -/
namespace VisionsAcademy.SplashScreen
open DocumentStore DartDynamic DatabaseService

inductive Route
  | register
  | log
  | bottomBar
  deriving DecidableEq

inductive Listener
  | navigateUser
  | onPressed
  deriving DecidableEq

/-- A callback of `navigateUser` that has not finished. It takes the uid to read from
`FirebaseAuth.instance`, not from its event. -/
inductive Callback
  | reading (uid : Option String)
  | read (saved : Option String)
  | timer (saved : Option String) (route : Route)

structure Opening where
  user : String
  stored : Option Value

structure State where
  users : Collection
  session : Option String
  mounted : Bool
  left : Bool
  listeners : List Listener
  events : List (Listener × Option String)
  callbacks : List Callback
  opened : List Opening

inductive Label
  | launch
  | tap
  | deliver (event : Nat)
  | getDevId (callback : Nat) (answered : Bool)
  | getId (callback : Nat) (answered : Bool)
  | fire (callback : Nat)
  | dispose
  | login (uid : String)
  | signOut
  | changeDeviceID (uid : String) (devId : Option String) (accepted : Bool)

def target (deviceId saved : Option String) : Route :=
  if deviceId = saved then .bottomBar else .log

/-- A navigation from the splash screen; once the screen is disposed its context is
null and the call throws. -/
def State.navigate (state : State) (route : Route) : State :=
  if state.mounted then
    {state with
      left := true
      opened := match route,state.session with
        | .bottomBar,some user => state.opened ++ [⟨user,storedId state.users user⟩]
        | _,_ => state.opened}
  else state

def State.handle (state : State) : Listener → Option String → State
  | .navigateUser,none => {state with callbacks := state.callbacks ++ [.timer none .register]}
  | .navigateUser,some _ => {state with callbacks := state.callbacks ++ [.reading state.session]}
  | .onPressed,none => state.navigate .register
  | .onPressed,some _ => state.navigate .bottomBar

def State.authState (state : State) (session : Option String) : State :=
  {state with
    session := session
    events := state.events ++ state.listeners.map fun listener => (listener,session)}

def get (users : Collection) (answered : Bool) : Get :=
  if answered then reading users else fun _ => .error .firebaseException

def step (deviceId : Option String) (state : State) : Label → Option State
  | .launch => some {state with
      mounted := true
      left := false
      listeners := [.navigateUser]
      events := [(.navigateUser,state.session)]
      callbacks := []}
  | .tap =>
    if state.mounted then some {state with
      listeners := state.listeners ++ [.onPressed]
      events := state.events ++ [(.onPressed,state.session)]} else none
  | .deliver event =>
    match state.events[event]? with
    | some (listener,currentUser) =>
      some ({state with events := state.events.eraseIdx event}.handle listener currentUser)
    | none => none
  | .getDevId callback answered =>
    match state.callbacks[callback]? with
    | some (.reading uid) =>
      let saved := getDevIdFromDatabase uid (get state.users answered)
      some {state with callbacks := state.callbacks.set callback (.read saved)}
    | _ => none
  | .getId callback answered =>
    match state.callbacks[callback]? with
    | some (.read saved) =>
      -- `getId` has no catch clause of its own: when it throws, the callback ends here.
      if answered then
        some {state with callbacks := state.callbacks.set callback (.timer saved (target deviceId saved))}
      else some {state with callbacks := state.callbacks.eraseIdx callback}
    | _ => none
  | .fire callback =>
    match state.callbacks[callback]? with
    | some (.timer _ route) =>
      some ({state with callbacks := state.callbacks.eraseIdx callback}.navigate route)
    | _ => none
  | .dispose => if state.left then some {state with mounted := false} else none
  | .login uid => some (state.authState (some uid))
  | .signOut => some (state.authState none)
  | .changeDeviceID uid devId accepted =>
    some {state with users := (loginUser (some uid) devId accepted state.users).1}

def initial (users : Collection) (session : Option String) : State :=
  ⟨users,session,false,false,[],[],[],[]⟩

def Matches (deviceId : Option String) (stored : Option Value) : Prop :=
  ∃ id, deviceId = some id ∧ stored = some (.string id)

/-- The one-device rule: every BottomBar was opened for a user bound to this device. -/
def OneDevice (deviceId : Option String) (state : State) : Prop :=
  ∀ opening ∈ state.opened, Matches deviceId opening.stored

def Confirmed (deviceId : Option String) (state : State) : Label → Prop
  | .deliver event => ∀ delivered user, state.mounted →
      state.events[event]? = some (.onPressed,some delivered) → state.session = some user →
      Matches deviceId (storedId state.users user)
  | .fire callback => ∀ saved user, state.mounted →
      state.callbacks[callback]? = some (.timer saved .bottomBar) → state.session = some user →
      saved ≠ none ∧ storedId state.users user = saved.map .string
  | _ => True

def Compared (deviceId : Option String) (state : State) : Prop :=
  ∀ saved, .timer saved .bottomBar ∈ state.callbacks → deviceId = saved

inductive Effect (deviceId : Option String) (state : State) : Label → State → Prop
  | launch : Effect deviceId state .launch {state with
      mounted := true
      left := false
      listeners := [.navigateUser]
      events := [(.navigateUser,state.session)]
      callbacks := []}
  | tap : Effect deviceId state .tap {state with
      listeners := state.listeners ++ [.onPressed]
      events := state.events ++ [(.onPressed,state.session)]}
  | deliver (event : Nat) (listener : Listener) (currentUser : Option String)
      (found : state.events[event]? = some (listener,currentUser)) :
      Effect deviceId state (.deliver event)
        ({state with events := state.events.eraseIdx event}.handle listener currentUser)
  | getDevId (callback : Nat) (answered : Bool) (saved : Option String) :
      Effect deviceId state (.getDevId callback answered)
        {state with callbacks := state.callbacks.set callback (.read saved)}
  | getId (callback : Nat) (saved : Option String) : Effect deviceId state (.getId callback true)
      {state with callbacks := state.callbacks.set callback (.timer saved (target deviceId saved))}
  | getIdFailed (callback : Nat) : Effect deviceId state (.getId callback false)
      {state with callbacks := state.callbacks.eraseIdx callback}
  | fire (callback : Nat) (saved : Option String) (route : Route)
      (found : state.callbacks[callback]? = some (.timer saved route)) :
      Effect deviceId state (.fire callback)
        ({state with callbacks := state.callbacks.eraseIdx callback}.navigate route)
  | dispose : Effect deviceId state .dispose {state with mounted := false}
  | login (uid : String) : Effect deviceId state (.login uid) (state.authState (some uid))
  | signOut : Effect deviceId state .signOut (state.authState none)
  | changeDeviceID (uid : String) (devId : Option String) (accepted : Bool) :
      Effect deviceId state (.changeDeviceID uid devId accepted)
        {state with users := (loginUser (some uid) devId accepted state.users).1}

theorem step_effect (deviceId : Option String) (state : State) (label : Label) (next : State)
    (taken : step deviceId state label = some next) : Effect deviceId state label next := by
  cases label with
  | launch =>
    cases Option.some.inj taken
    exact Effect.launch
  | login uid =>
    cases Option.some.inj taken
    exact Effect.login uid
  | signOut =>
    cases Option.some.inj taken
    exact Effect.signOut
  | changeDeviceID uid devId accepted =>
    cases Option.some.inj taken
    exact Effect.changeDeviceID uid devId accepted
  | tap =>
    simp only [step] at taken
    split at taken
    · cases Option.some.inj taken
      exact Effect.tap
    · contradiction
  | dispose =>
    simp only [step] at taken
    split at taken
    · cases Option.some.inj taken
      exact Effect.dispose
    · contradiction
  | deliver event =>
    simp only [step] at taken
    split at taken
    next listener currentUser found =>
      cases Option.some.inj taken
      exact Effect.deliver event listener currentUser found
    next => contradiction
  | getDevId callback answered =>
    simp only [step] at taken
    split at taken
    next uid found =>
      cases Option.some.inj taken
      exact Effect.getDevId callback answered _
    next => contradiction
  | getId callback answered =>
    simp only [step] at taken
    split at taken
    next saved found =>
      cases answered with
      | true =>
        cases Option.some.inj taken
        exact Effect.getId callback saved
      | false =>
        cases Option.some.inj taken
        exact Effect.getIdFailed callback
    next => contradiction
  | fire callback =>
    simp only [step] at taken
    split at taken
    next saved route found =>
      cases Option.some.inj taken
      exact Effect.fire callback saved route found
    next => contradiction

theorem target_bottomBar (deviceId saved : Option String)
    (chosen : target deviceId saved = .bottomBar) : deviceId = saved := by
  unfold target at chosen
  split at chosen
  next equal => exact equal
  next different => contradiction

theorem navigate_callbacks (state : State) (route : Route) :
    (state.navigate route).callbacks = state.callbacks := by
  unfold State.navigate
  split <;> rfl

theorem navigate_oneDevice (deviceId : Option String) (state : State) (route : Route)
    (holds : OneDevice deviceId state) :
    OneDevice deviceId (state.navigate route) ↔ ∀ user, state.mounted → route = .bottomBar →
      state.session = some user → Matches deviceId (storedId state.users user) := by
  cases mounted : state.mounted with
  | false =>
    have still : state.navigate route = state := by simp [State.navigate,mounted]
    rw [still]
    exact iff_of_true holds fun user present => absurd present (by simp)
  | true =>
    cases route with
    | register | log =>
      refine iff_of_true ?_ fun user _ equal => by contradiction
      simpa [State.navigate,mounted,OneDevice] using holds
    | bottomBar =>
      cases session : state.session with
      | none =>
        refine iff_of_true ?_ fun user _ _ signed => by contradiction
        simpa [State.navigate,mounted,session,OneDevice] using holds
      | some user =>
        constructor
        · intro after other _ _ same
          cases Option.some.inj same
          apply after ⟨user,storedId state.users user⟩
          simp [State.navigate,mounted,session]
        · intro bound opening member
          simp only [State.navigate,mounted,session,if_true,List.mem_append,
            List.mem_singleton] at member
          rcases member with old | new
          · exact holds opening old
          · subst opening
            exact bound user rfl rfl rfl

theorem handle_oneDevice (deviceId : Option String) (state : State) (listener : Listener)
    (currentUser : Option String) (holds : OneDevice deviceId state) :
    OneDevice deviceId (state.handle listener currentUser) ↔ ∀ delivered user, state.mounted →
      listener = .onPressed → currentUser = some delivered → state.session = some user →
      Matches deviceId (storedId state.users user) := by
  cases listener with
  | navigateUser =>
    refine iff_of_true ?_ fun _ _ _ equal => by contradiction
    cases currentUser <;> exact holds
  | onPressed =>
    cases currentUser with
    | none =>
      refine iff_of_true ?_ fun _ _ _ _ equal => by contradiction
      exact (navigate_oneDevice deviceId state .register holds).mpr
        fun user _ equal => by contradiction
    | some delivered =>
      have opens := navigate_oneDevice deviceId state .bottomBar holds
      constructor
      · intro after _ user mounted _ _ session
        exact opens.mp after user mounted rfl session
      · intro bound
        exact opens.mpr fun user mounted _ session => bound delivered user mounted rfl rfl session

theorem handle_compared (deviceId : Option String) (state : State) (listener : Listener)
    (currentUser : Option String) (holds : Compared deviceId state) :
    Compared deviceId (state.handle listener currentUser) := by
  intro saved member
  apply holds saved
  cases listener with
  | navigateUser => cases currentUser <;> simpa [State.handle] using member
  | onPressed => cases currentUser <;> simpa only [State.handle,navigate_callbacks] using member

theorem compared_step (deviceId : Option String) (state : State) (label : Label) (next : State)
    (holds : Compared deviceId state) (taken : step deviceId state label = some next) :
    Compared deviceId next := by
  cases step_effect deviceId state label next taken with
  | launch => simp [Compared]
  | deliver event listener currentUser found => exact handle_compared deviceId _ _ _ holds
  | getDevId callback answered read =>
    intro saved member
    rcases List.mem_or_eq_of_mem_set member with old | new
    · exact holds saved old
    · contradiction
  | getId callback read =>
    intro saved member
    rcases List.mem_or_eq_of_mem_set member with old | new
    · exact holds saved old
    · obtain ⟨same,chosen⟩ := Callback.timer.inj new
      subst same
      exact target_bottomBar deviceId _ chosen.symm
  | getIdFailed callback =>
    intro saved member
    exact holds saved (List.mem_of_mem_eraseIdx member)
  | fire callback read route found =>
    intro saved member
    rw [navigate_callbacks] at member
    exact holds saved (List.mem_of_mem_eraseIdx member)
  | _ => exact holds

theorem matches_saved (saved : Option String) (stored : Option Value) :
    Matches saved stored ↔ saved ≠ none ∧ stored = saved.map .string := by
  cases saved with
  | none => simp [Matches]
  | some id => simp [Matches]

theorem oneDevice_step (deviceId : Option String) (state : State) (label : Label) (next : State)
    (compared : Compared deviceId state) (holds : OneDevice deviceId state)
    (taken : step deviceId state label = some next) :
    OneDevice deviceId next ↔ Confirmed deviceId state label := by
  cases step_effect deviceId state label next taken with
  | deliver event listener currentUser found =>
    have handled := handle_oneDevice deviceId {state with events := state.events.eraseIdx event}
      listener currentUser holds
    rw [handled]
    simp only [Confirmed,found,Option.some.injEq,Prod.mk.injEq]
    constructor
    · intro bound delivered user mounted same
      exact bound delivered user mounted same.1 same.2
    · intro bound delivered user mounted pressed current
      exact bound delivered user mounted ⟨pressed,current⟩
  | fire callback saved route found =>
    have navigated := navigate_oneDevice deviceId
      {state with callbacks := state.callbacks.eraseIdx callback} route holds
    rw [navigated]
    -- The id that was read is the device's own, so only the stored one is in question.
    have own : route = .bottomBar → deviceId = saved := by
      intro opens
      subst opens
      exact compared saved (List.mem_of_getElem? found)
    simp only [Confirmed,found,Option.some.injEq,Callback.timer.injEq]
    constructor
    · intro bound other user mounted same session
      obtain ⟨rfl,opens⟩ := same
      rw [← matches_saved,← own opens]
      exact bound user mounted opens session
    · intro confirmed user mounted opens session
      rw [own opens,matches_saved]
      exact confirmed saved user mounted ⟨rfl,opens⟩ session
  | _ => exact iff_of_true holds trivial

theorem oneDevice_iff_confirmed (deviceId : Option String) (users : Collection)
    (session : Option String) (labels : List Label) :
    Runs.Throughout (step deviceId) (OneDevice deviceId) (initial users session) labels ↔
      Runs.Along (step deviceId) (Confirmed deviceId) (initial users session) labels := by
  apply Runs.throughout_iff (Compared deviceId) (OneDevice deviceId) (Confirmed deviceId)
    (compared_step deviceId) (oneDevice_step deviceId)
  · simp [Compared,initial]
  · simp [OneDevice,initial]

def account (devId : String) : Collection :=
  Function.update (fun _ => none) "u1" (some [("deviceID",.string devId)])

theorem not_matches (device stored : String) (different : device ≠ stored) :
    ¬ Matches (some device) (some (.string stored)) := by
  rintro ⟨id,same,found⟩
  cases Option.some.inj same
  exact different (Value.string.inj (Option.some.inj found)).symm

/-- The button opens BottomBar for an account bound to another phone, and so does a
timer when the account is bound to another phone after the comparison. -/
theorem opened_elsewhere :
    (∃ final, Runs.run (step (some "phone1")) (initial (account "phone2") (some "u1"))
      [.launch,.tap,.deliver 1] = some final ∧ ¬ OneDevice (some "phone1") final) ∧
    (∃ final, Runs.run (step (some "phone1")) (initial (account "phone1") (some "u1"))
      [.launch,.deliver 0,.getDevId 0 true,.getId 0 true,
        .changeDeviceID "u1" (some "phone2") true,.fire 0] = some final ∧
      ¬ OneDevice (some "phone1") final) := by
  refine ⟨⟨_,rfl,fun holds => ?_⟩,⟨_,rfl,fun holds => ?_⟩⟩
  · exact not_matches "phone1" "phone2" (by decide) (holds ⟨"u1",some (.string "phone2")⟩ (List.mem_singleton.mpr rfl))
  · exact not_matches "phone1" "phone2" (by decide) (holds ⟨"u1",some (.string "phone2")⟩ (List.mem_singleton.mpr rfl))

end VisionsAcademy.SplashScreen
