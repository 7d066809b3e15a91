import VisionsAcademy.Library.Runs
import VisionsAcademy.Library.Dynamic

/-! The drawer of lib/SideBar/side_bar_bar_pages.dart and the home icon of
lib/BottomBar/bottom_bar_pages.dart. The drawer is built in two places: by SideBar, which
hands it the callback that closes it, and by the home icon, which hands it none. FirebaseAuth
answers the sign-out of a drawer later, if it does not refuse it: nobody awaits the answer. -/
namespace VisionsAcademy.SideBar
open DartDynamic

inductive FSBStatus
  | fsbOpen
  | fsbClose
  deriving DecidableEq

inductive Screen
  | homeScreen
  | news
  | chatScreen
  deriving DecidableEq

/-- The page on top, BottomBar with the status that its SideBar keeps. `Get.off` and
`pushReplacement` leave no page to return to. -/
inductive Route
  | bottomBar (status : Option FSBStatus)
  | customDrawer
  | login

/-- `currentWidget`, `isChatOpen` and `u_id` are global variables, `currentUser` is the
Firebase session; `closing` tells of a `signOut` whose answer is still to come. -/
structure State where
  route : Route
  currentWidget : Screen
  isChatOpen : Bool
  currentUser : Option String
  closing : Bool
  u_id : Option String

inductive Tile
  | home
  | notifications
  | chatWithSupport
  | signOut
  deriving DecidableEq

inductive Label
  | onSwipeRight
  | onSwipeLeft
  | menu
  | homeIcon
  | onTap (tile : Tile)
  | sessionClosed (accepted : Bool)
  | initPlatformState
  | logIn (uid : String)

def initial (currentWidget : Screen) (isChatOpen : Bool) (currentUser u_id : Option String) : State :=
  ⟨.bottomBar none,currentWidget,isChatOpen,currentUser,false,u_id⟩

/-- `widget.closeDrawer()`: without a callback that is a call of null. -/
def State.closeDrawer (state : State) : Except Thrown State :=
  match state.route with
  | .bottomBar _ => .ok {state with route := .bottomBar (some .fsbClose)}
  | _ => .error .noSuchMethodError

def State.choose (state : State) (screen : Screen) : State × Option Thrown :=
  let chosen := {state with currentWidget := screen}
  match chosen.closeDrawer with
  | .error thrown => (chosen,some thrown)
  | .ok closed => ({closed with isChatOpen := true},none)

def State.openChat (state : State) : State × Option Thrown :=
  let chosen := {state with currentWidget := .chatScreen, isChatOpen := false}
  match chosen.closeDrawer with
  | .error thrown => (chosen,some thrown)
  | .ok closed => (closed,none)

def State.signOut (state : State) : State × Option Thrown :=
  match state.closeDrawer with
  | .error thrown => (state,some thrown)
  | .ok closed => ({closed with closing := true, u_id := none, route := .login},none)

def State.onTap (state : State) : Tile → State × Option Thrown
  | .home => state.choose .homeScreen
  | .notifications => state.choose .news
  | .chatWithSupport => state.openChat
  | .signOut => state.signOut

def State.drawer (state : State) : Bool :=
  match state.route with
  | .bottomBar status => status = some .fsbOpen
  | .customDrawer => true
  | .login => false

def step (state : State) : Label → Option State
  | .onSwipeRight =>
    match state.route with
    | .bottomBar _ => some {state with route := .bottomBar (some .fsbOpen)}
    | _ => none
  | .onSwipeLeft =>
    match state.route with
    | .bottomBar _ => some {state with route := .bottomBar (some .fsbClose)}
    | _ => none
  | .menu =>
    match state.route with
    | .bottomBar status =>
      -- The button is only built while no chat is open.
      if state.isChatOpen then
        let toggled := if status = some .fsbOpen then FSBStatus.fsbClose else .fsbOpen
        some {state with route := .bottomBar (some toggled)}
      else none
    | _ => none
  | .homeIcon =>
    match state.route with
    | .bottomBar _ => some {state with route := .customDrawer}
    | _ => none
  | .onTap tile => if state.drawer then some (state.onTap tile).1 else none
  | .sessionClosed accepted =>
    if state.closing then
      some {state with
        currentUser := if accepted then none else state.currentUser
        closing := false}
    else none
  -- HomeScreen sets the global from the session.
  | .initPlatformState =>
    match state.route,state.currentWidget,state.currentUser with
    | .bottomBar _,.homeScreen,some uid => some {state with u_id := some uid}
    | _,_,_ => none
  -- FirebaseAuth answers its calls in their order.
  | .logIn uid =>
    match state.route,state.closing with
    | .login,false => some {state with route := .bottomBar none, currentUser := some uid}
    | _,_ => none

def AtHome (state : State) : Prop :=
  ∃ status, state.route = .bottomBar status ∧ state.currentWidget = .homeScreen

def ReachesHome (state : State) : Prop :=
  ∃ labels final, Runs.run step state labels = some final ∧ AtHome final

/-- What a navigation state should offer; on the Login screen behind a sign-out the session is
closed once the answer is there. -/
structure Sound (state : State) : Prop where
  tiles : state.drawer = true → ∀ tile, (state.onTap tile).2 = none
  home : ReachesHome state
  signOut : state.drawer = true → (state.onTap .signOut).1.closing = true ∧
    (state.onTap .signOut).1.u_id = none ∧ (state.onTap .signOut).1.route = .login
  session : state.route = .login → state.closing = false → state.currentUser = none

def Waiting (state : State) : Prop := state.closing = true → state.route = .login

/-- Nobody takes the home icon, and FirebaseAuth does not refuse to close an open session. -/
def Kept (state : State) (label : Label) : Prop :=
  label ≠ .homeIcon ∧ (label = .sessionClosed false → state.currentUser = none)

theorem onTap_bottomBar (state : State) (status : Option FSBStatus) (tile : Tile)
    (here : state.route = .bottomBar status) : (state.onTap tile).2 = none ∧
      (state.onTap tile).1.route =
        (if tile = .signOut then Route.login else .bottomBar (some .fsbClose)) ∧
      (state.onTap tile).1.closing = (state.closing || tile = .signOut) := by
  obtain ⟨_,_,_,_,_,_⟩ := state
  cases here
  cases tile <;> simp [State.onTap,State.choose,State.openChat,State.signOut,State.closeDrawer]

theorem signOut_bottomBar (state : State) (status : Option FSBStatus)
    (here : state.route = .bottomBar status) : (state.onTap .signOut).1 =
      {state with closing := true, u_id := none, route := .login} := by
  obtain ⟨_,_,_,_,_,_⟩ := state
  cases here
  rfl

/-- On the page of the home icon every tile fails at the missing callback: no page is left,
nobody is signed out. -/
theorem onTap_customDrawer (state : State) (tile : Tile) (here : state.route = .customDrawer) :
    (state.onTap tile).2 = some .noSuchMethodError ∧ (state.onTap tile).1.route = .customDrawer ∧
      (state.onTap tile).1.closing = state.closing ∧
      (state.onTap tile).1.u_id = state.u_id := by
  obtain ⟨_,_,_,_,_,_⟩ := state
  cases here
  cases tile <;> exact ⟨rfl,rfl,rfl,rfl⟩

theorem customDrawer_step (state : State) (label : Label) (next : State)
    (here : state.route = .customDrawer) (taken : step state label = some next) :
    next.route = .customDrawer := by
  cases label with
  | onTap tile =>
    simp only [step,State.drawer,here,if_true] at taken
    cases Option.some.inj taken
    exact (onTap_customDrawer state tile here).2.1
  | sessionClosed accepted =>
    simp only [step] at taken
    split at taken
    · cases Option.some.inj taken
      exact here
    · contradiction
  | _ => simp [step,here] at taken

theorem customDrawer_stranded (state : State) (here : state.route = .customDrawer) :
    ¬ReachesHome state := by
  rintro ⟨labels,final,reached,status,home,_⟩
  have still := Runs.unconditional (fun state => state.route = .customDrawer) customDrawer_step
    state final labels here reached
  rw [home] at still
  contradiction

theorem bottomBar_reaches (state : State) (status : Option FSBStatus)
    (here : state.route = .bottomBar status) : ReachesHome state := by
  obtain ⟨_,_,_,_,_,_⟩ := state
  cases here
  exact ⟨[.onSwipeRight,.onTap .home],_,rfl,_,rfl,rfl⟩

theorem login_reaches (state : State) (here : state.route = .login) : ReachesHome state := by
  obtain ⟨_,_,_,_,closing,_⟩ := state
  cases here
  cases closing with
  | false => exact ⟨[.logIn "",.onSwipeRight,.onTap .home],_,rfl,_,rfl,rfl⟩
  | true => exact ⟨[.sessionClosed true,.logIn "",.onSwipeRight,.onTap .home],_,rfl,_,rfl,rfl⟩

theorem sound_iff (state : State) : Sound state ↔ state.route ≠ .customDrawer ∧
    (state.route = .login → state.closing = false → state.currentUser = none) := by
  constructor
  · intro sound
    refine ⟨fun here => ?_,sound.session⟩
    exact customDrawer_stranded state here sound.home
  · rintro ⟨away,session⟩
    cases here : state.route with
    | bottomBar status =>
      have out := signOut_bottomBar state status here
      refine ⟨fun _ tile => (onTap_bottomBar state status tile here).1,
        bottomBar_reaches state status here,fun _ => ?_,session⟩
      rw [out]
      exact ⟨rfl,rfl,rfl⟩
    | customDrawer => contradiction
    | login =>
      have hidden : state.drawer = false := by rw [State.drawer,here]
      refine ⟨fun shown => ?_,login_reaches state here,fun shown => ?_,session⟩
      · rw [hidden] at shown
        contradiction
      · rw [hidden] at shown
        contradiction

inductive Moves (state : State) : Label → State → Prop
  | stays {label : Label} {next : State} (status : Option FSBStatus) :
    state.route = .bottomBar status → (∃ after, next.route = .bottomBar after) →
    next.closing = state.closing → label ≠ .homeIcon → label ≠ .sessionClosed false →
    Moves state label next
  | homeIcon {next : State} (status : Option FSBStatus) : state.route = .bottomBar status →
    next.route = .customDrawer → next.closing = state.closing → Moves state .homeIcon next
  | signOut (status : Option FSBStatus) : state.route = .bottomBar status →
    Moves state (.onTap .signOut) {state with closing := true, u_id := none, route := .login}
  | sessionClosed (accepted : Bool) : state.closing = true →
    Moves state (.sessionClosed accepted)
      {state with currentUser := if accepted then none else state.currentUser, closing := false}
  | logIn (uid : String) : state.route = .login → state.closing = false →
    Moves state (.logIn uid) {state with route := .bottomBar none, currentUser := some uid}

theorem step_moves (state : State) (label : Label) (next : State)
    (away : state.route ≠ .customDrawer) (taken : step state label = some next) :
    Moves state label next := by
  obtain ⟨route,currentWidget,isChatOpen,currentUser,closing,u_id⟩ := state
  have closes (accepted : Bool) (same : label = .sessionClosed accepted) :
      Moves ⟨route,currentWidget,isChatOpen,currentUser,closing,u_id⟩ label next := by
    subst same
    simp only [step] at taken
    split at taken
    next waiting =>
      cases Option.some.inj taken
      exact .sessionClosed accepted waiting
    next => contradiction
  cases route with
  | customDrawer => contradiction
  | bottomBar status =>
    cases label with
    | onTap tile =>
      simp only [step] at taken
      split at taken
      next shown =>
        cases Option.some.inj taken
        cases tile with
        | signOut => exact .signOut status rfl
        | _ => exact .stays status rfl ⟨_,rfl⟩ rfl (by simp) (by simp)
      next => contradiction
    | menu =>
      simp only [step] at taken
      split at taken
      · cases Option.some.inj taken
        exact .stays status rfl ⟨_,rfl⟩ rfl (by simp) (by simp)
      · contradiction
    | initPlatformState =>
      simp only [step] at taken
      split at taken
      · cases Option.some.inj taken
        exact .stays status rfl ⟨status,rfl⟩ rfl (by simp) (by simp)
      · contradiction
    | homeIcon =>
      cases Option.some.inj taken
      exact .homeIcon status rfl rfl rfl
    | onSwipeRight | onSwipeLeft =>
      cases Option.some.inj taken
      exact .stays status rfl ⟨_,rfl⟩ rfl (by simp) (by simp)
    | sessionClosed accepted => exact closes accepted rfl
    | logIn => contradiction
  | login =>
    cases label with
    | logIn uid =>
      cases closing with
      | false =>
        cases Option.some.inj taken
        exact .logIn uid rfl rfl
      | true => contradiction
    | sessionClosed accepted => exact closes accepted rfl
    | _ => contradiction

theorem waiting_step (state : State) (label : Label) (next : State) (waiting : Waiting state)
    (taken : step state label = some next) : Waiting next := by
  by_cases stranded : state.route = .customDrawer
  · have idle : state.closing = false := by
      cases closing : state.closing with
      | false => rfl
      | true =>
        have login := waiting closing
        rw [stranded] at login
        contradiction
    intro still
    cases label with
    | onTap tile =>
      simp only [step,State.drawer,stranded,if_true] at taken
      cases Option.some.inj taken
      rw [(onTap_customDrawer state tile stranded).2.2.1,idle] at still
      contradiction
    | _ => simp [step,stranded,idle] at taken
  · cases step_moves state label next stranded taken with
    | stays status here _ same | homeIcon status here _ same =>
      intro still
      rw [same] at still
      have login := waiting still
      rw [here] at login
      contradiction
    | signOut => exact fun _ => rfl
    | sessionClosed => exact fun still => by contradiction
    | logIn uid here closed =>
      intro still
      rw [closed] at still
      contradiction

theorem sound_step (state : State) (label : Label) (next : State) (waiting : Waiting state)
    (sound : Sound state) (taken : step state label = some next) : Sound next ↔ Kept state label := by
  rw [sound_iff] at sound ⊢
  obtain ⟨away,session⟩ := sound
  cases step_moves state label next away taken with
  | stays status here after same other refused =>
    obtain ⟨left,there⟩ := after
    exact iff_of_true ⟨by simp [there],by simp [there]⟩ ⟨other,fun refusal => absurd refusal refused⟩
  | homeIcon status here page same =>
    exact iff_of_false (fun both => both.1 page) (fun kept => kept.1 rfl)
  | signOut status here =>
    exact iff_of_true ⟨by simp,by simp⟩ ⟨by simp,by simp⟩
  | sessionClosed accepted closing =>
    have login := waiting closing
    cases accepted with
    | true => exact iff_of_true ⟨away,fun _ _ => rfl⟩ ⟨by simp,by simp⟩
    | false => simp [Kept,login]
  | logIn uid here closed =>
    exact iff_of_true ⟨by simp,by simp⟩ ⟨by simp,by simp⟩

theorem sound_throughout_iff (currentWidget : Screen) (isChatOpen : Bool)
    (currentUser u_id : Option String) (labels : List Label) :
    Runs.Throughout step Sound (initial currentWidget isChatOpen currentUser u_id) labels ↔
      Runs.Along step Kept (initial currentWidget isChatOpen currentUser u_id) labels := by
  apply Runs.throughout_iff Waiting Sound Kept waiting_step sound_step
  · exact fun closing => by contradiction
  · rw [sound_iff]
    exact ⟨by simp [initial],by simp [initial]⟩

/-- One tap on the home icon, and no tile of its drawer completes: Sign out neither begins to end
the session nor leads anywhere. -/
theorem home_icon_strands : ∃ state,
    Runs.run step (initial .homeScreen true (some "u1") (some "u1")) [.homeIcon] = some state ∧
    (state.onTap .signOut).2 = some .noSuchMethodError ∧
    (state.onTap .signOut).1.closing = false ∧ ¬ReachesHome state ∧
    ¬Runs.Throughout step Sound (initial .homeScreen true (some "u1") (some "u1")) [.homeIcon] := by
  have stranded := customDrawer_stranded ⟨.customDrawer,.homeScreen,true,some "u1",false,some "u1"⟩ rfl
  refine ⟨_,rfl,rfl,rfl,stranded,?_⟩
  intro sound
  exact stranded (sound [.homeIcon] [] _ rfl rfl).home

end VisionsAcademy.SideBar
