import VisionsAcademy.Library.Runs
import VisionsAcademy.FirebaseProvider

/-! The States of UpVid2 and News and the calls that outlive them. `listenToVideos` keeps
its subscription to itself, so a disposed UpVid2 stays its callback; `populateNewsList`
goes on after each of its two reads whatever has become of its page. -/
namespace VisionsAcademy.PageLifetimes
open DocumentStore DartDynamic FirebaseProvider

structure UpVid2 where
  coursename : String
  chapt : Int
  mounted : Bool
  videos : List VideoInfo

/-- A live subscription of `listenToVideos`; `callback` is the State whose setState it calls. -/
structure Subscription where
  courseName : String
  chaptNo : Int
  callback : Nat

/-- A page with the two tabs; UpVid2 exists only while its tab is shown. -/
structure ScreenVideo where
  courseName : String
  chaptNo : Int
  upVid2 : Option Nat

structure NewsModel where
  title : Option String
  detail : Option String
  time : String

inductive Await
  | news
  | notification
  | returned
  deriving DecidableEq

structure News where
  mounted : Bool
  newsList : List NewsModel
  notificationList : List NewsModel
  await : Await

/-- All States that were ever created, disposed ones included. The history has, for each call
of setState and for each change that `populateNewsList` makes to its State, whether that
State was mounted. -/
structure State where
  screens : List ScreenVideo
  upVid2s : List UpVid2
  subscriptions : List Subscription
  news : List News
  setStates : List Bool
  changes : List Bool

inductive Label
  | openScreenVideo (courseName : String) (chaptNo : Int)
  | enterTab (screen : Nat)
  | leaveTab (screen : Nat)
  | closeScreenVideo (screen : Nat)
  | snapshot (subscription : Nat) (qs : List Fields)
  | onError (subscription : Nat)
  | openNews
  | closeNews (page : Nat)
  | querySnapshot (page : Nat) (docs : Option (List Fields))

def initial : State := ⟨[],[],[],[],[],[]⟩

def State.initUpVid2 (state : State) (coursename : String) (chapt : Int) : State :=
  {state with
    upVid2s := state.upVid2s ++ [⟨coursename,chapt,true,[]⟩]
    subscriptions := state.subscriptions ++ [⟨coursename,chapt,state.upVid2s.length⟩]}

/-- UpVid2 has no `dispose` of its own. -/
def State.disposeUpVid2 (state : State) (index : Nat) : State :=
  {state with upVid2s := state.upVid2s.modify index fun page => {page with mounted := false}}

def State.showTab (state : State) (screen : Nat) (upVid2 : Option Nat) : State :=
  {state with screens := state.screens.modify screen fun page => {page with upVid2 := upVid2}}

/-- `setState(() { _videos = newVideos; })`: on a disposed State it throws instead. -/
def State.callback (state : State) (index : Nat) (newVideos : List VideoInfo) : State :=
  match state.upVid2s[index]? with
  | none => state
  | some page =>
    if page.mounted then
      {state with
        upVid2s := state.upVid2s.set index {page with videos := newVideos}
        setStates := state.setStates ++ [true]}
    else {state with setStates := state.setStates ++ [false]}

def newsModel (result : Fields) : Except Thrown NewsModel := do
  let title ← asString (← get result "title")
  let detail ← asString (← get result "detail")
  let time ← get result "time"
  return ⟨title,detail,text time⟩

/-- Title and detail are texts or null, and there is a time. -/
structure Readable (result : Fields) : Prop where
  title : ∃ title, result.lookup "title" = some (ofString title)
  detail : ∃ detail, result.lookup "detail" = some (ofString detail)
  time : ∃ time, result.lookup "time" = some time

theorem newsModel_readable (result : Fields) :
    (∃ obj, newsModel result = .ok obj) ↔ Readable result := by
  simp only [newsModel,bind_ok,get_ok,asString_ok]
  constructor
  · rintro ⟨_,_,titled,title,rfl,_,detailed,detail,rfl,time,timed,_⟩
    exact ⟨⟨title,titled⟩,⟨detail,detailed⟩,⟨time,timed⟩⟩
  · rintro ⟨⟨title,titled⟩,⟨detail,detailed⟩,⟨time,timed⟩⟩
    exact ⟨_,_,titled,title,rfl,_,detailed,detail,rfl,time,timed,rfl⟩

structure Filled where
  list : List NewsModel
  setStates : List Bool
  changes : List Bool
  completed : Bool

def forEach (mounted : Bool) : List Fields → List NewsModel → Filled
  | [],list => ⟨list,[],[],true⟩
  | result::rest,list =>
    match newsModel result with
    | .error _ => ⟨list,[],[],false⟩
    | .ok obj =>
      if mounted then
        let filled := forEach mounted rest (list ++ [obj])
        {filled with setStates := true::filled.setStates, changes := true::filled.changes}
      -- `setState` throws after the first `add`.
      else ⟨list ++ [obj],[false],[false],false⟩

def News.populate (page : News) : Option (List Fields) → News × List Bool × List Bool
  | none => ({page with await := .returned},[],[])
  | some docs =>
    match page.await with
    | .news =>
      let filled := forEach page.mounted docs page.newsList
      if filled.completed then
        ({page with newsList := filled.list, notificationList := [], await := .notification},
          filled.setStates,filled.changes ++ [page.mounted])
      else ({page with newsList := filled.list, await := .returned},filled.setStates,filled.changes)
    | .notification =>
      let filled := forEach page.mounted docs page.notificationList
      ({page with notificationList := filled.list, await := .returned},filled.setStates,filled.changes)
    | .returned => (page,[],[])

def step (state : State) : Label → Option State
  | .openScreenVideo courseName chaptNo =>
    some {state.initUpVid2 courseName chaptNo with
      screens := state.screens ++ [⟨courseName,chaptNo,some state.upVid2s.length⟩]}
  | .enterTab screen =>
    match state.screens[screen]? with
    | some ⟨courseName,chaptNo,none⟩ =>
      some ((state.initUpVid2 courseName chaptNo).showTab screen (some state.upVid2s.length))
    | _ => none
  | .leaveTab screen =>
    match state.screens[screen]? with
    | some ⟨_,_,some index⟩ => some ((state.disposeUpVid2 index).showTab screen none)
    | _ => none
  | .closeScreenVideo screen =>
    match state.screens[screen]? with
    | some ⟨_,_,upVid2⟩ =>
      let left := {state with screens := state.screens.eraseIdx screen}
      some (upVid2.elim left left.disposeUpVid2)
    | none => none
  | .snapshot subscription qs =>
    match state.subscriptions[subscription]? with
    | some ⟨courseName,chaptNo,callback⟩ =>
      if qs.all (selects courseName chaptNo) then
        match mapQueryToVideoInfo qs with
        | .ok videos => some (state.callback callback videos)
        | .error _ => some state
      else none
    | none => none
  | .onError subscription => some {state with subscriptions := state.subscriptions.eraseIdx subscription}
  | .openNews =>
    -- `newsList.clear()` runs in initState.
    some {state with
      news := state.news ++ [⟨true,[],[],.news⟩]
      changes := state.changes ++ [true]}
  | .closeNews page =>
    some {state with news := state.news.modify page fun news => {news with mounted := false}}
  | .querySnapshot page docs =>
    match state.news[page]? with
    | some news =>
      if news.await = .returned then none
      else
        let populated := news.populate docs
        some {state with
          news := state.news.set page populated.1
          setStates := state.setStates ++ populated.2.1
          changes := state.changes ++ populated.2.2}
    | none => none

def Mounted (state : State) (index : Nat) : Prop :=
  ∃ page, state.upVid2s[index]? = some page ∧ page.mounted = true

/-- setState has only been called on mounted States, `populateNewsList` has only changed mounted
States, and every live subscription has a mounted one to call. -/
structure Sound (state : State) : Prop where
  setStates : ∀ mounted ∈ state.setStates, mounted = true
  changes : ∀ mounted ∈ state.changes, mounted = true
  subscriptions : ∀ subscription ∈ state.subscriptions, Mounted state subscription.callback

/-- A result on which the rest of `populateNewsList` stops before it comes to its State: the
read failed, there is no notification, or the first document cannot be read. -/
def Silent : Await → Option (List Fields) → Prop
  | _,none => True
  | .returned,_ => True
  | .news,some [] => False
  | .notification,some [] => True
  | _,some (result::_) => ¬Readable result

def Quiet (state : State) : Label → Prop
  | .leaveTab screen | .closeScreenVideo screen => ∀ page, state.screens[screen]? = some page →
      ∀ index, page.upVid2 = some index →
        ∀ subscription ∈ state.subscriptions, subscription.callback ≠ index
  | .querySnapshot page docs => ∀ news, state.news[page]? = some news →
      news.mounted = true ∨ Silent news.await docs
  | _ => True

theorem mounted_dispose (state : State) (index other : Nat) :
    Mounted (state.disposeUpVid2 index) other ↔ Mounted state other ∧ other ≠ index := by
  by_cases same : index = other
  · subst same
    refine iff_of_false ?_ (fun both => both.2 rfl)
    rintro ⟨page,found,mounted⟩
    simp only [State.disposeUpVid2,List.getElem?_modify_eq] at found
    obtain ⟨_,_,rfl⟩ := Option.map_eq_some_iff.mp found
    contradiction
  · have kept : (state.disposeUpVid2 index).upVid2s[other]? = state.upVid2s[other]? :=
      List.getElem?_modify_ne _ _ same
    rw [Mounted,kept]
    exact (and_iff_left (Ne.symm same)).symm

theorem sound_dispose (state : State) (index : Nat) (sound : Sound state) :
    Sound (state.disposeUpVid2 index) ↔
      ∀ subscription ∈ state.subscriptions, subscription.callback ≠ index := by
  constructor
  · intro after subscription member
    exact ((mounted_dispose state index _).mp (after.subscriptions subscription member)).2
  · intro elsewhere
    refine ⟨sound.setStates,sound.changes,?_⟩
    intro subscription member
    apply (mounted_dispose state index _).mpr
    exact ⟨sound.subscriptions subscription member,elsewhere subscription member⟩

theorem mounted_init (state : State) (coursename : String) (chapt : Int) (index : Nat)
    (mounted : Mounted state index) : Mounted (state.initUpVid2 coursename chapt) index := by
  obtain ⟨page,found,alive⟩ := mounted
  obtain ⟨bound,_⟩ := List.getElem?_eq_some_iff.mp found
  exact ⟨page,(List.getElem?_append_left bound).trans found,alive⟩

theorem sound_init (state : State) (coursename : String) (chapt : Int) (sound : Sound state) :
    Sound (state.initUpVid2 coursename chapt) := by
  refine ⟨sound.setStates,sound.changes,?_⟩
  intro subscription member
  rcases List.mem_append.mp member with earlier | last
  · exact mounted_init state coursename chapt _ (sound.subscriptions subscription earlier)
  · obtain rfl := List.mem_singleton.mp last
    exact ⟨_,List.getElem?_concat_length,rfl⟩

theorem callback_mounted (state : State) (index : Nat) (newVideos : List VideoInfo)
    (mounted : Mounted state index) :
    (state.callback index newVideos).setStates = state.setStates ++ [true] ∧
    (state.callback index newVideos).changes = state.changes ∧
    (state.callback index newVideos).subscriptions = state.subscriptions ∧
    ∀ other, Mounted state other → Mounted (state.callback index newVideos) other := by
  obtain ⟨page,found,alive⟩ := mounted
  have called : state.callback index newVideos = {state with
      upVid2s := state.upVid2s.set index {page with videos := newVideos}
      setStates := state.setStates ++ [true]} := by
    rw [State.callback,found]
    exact if_pos alive
  rw [called]
  refine ⟨rfl,rfl,rfl,?_⟩
  rintro other ⟨present,here,still⟩
  by_cases same : index = other
  · subst same
    obtain ⟨bound,_⟩ := List.getElem?_eq_some_iff.mp found
    exact ⟨{page with videos := newVideos},List.getElem?_set_self bound,alive⟩
  · exact ⟨present,(List.getElem?_set_ne same).trans here,still⟩

theorem sound_callback (state : State) (index : Nat) (newVideos : List VideoInfo)
    (sound : Sound state) (mounted : Mounted state index) :
    Sound (state.callback index newVideos) := by
  obtain ⟨setStates,changes,subscriptions,kept⟩ := callback_mounted state index newVideos mounted
  refine ⟨?_,?_,?_⟩
  · rw [setStates]
    exact List.forall_mem_append.mpr ⟨sound.setStates,by simp⟩
  · rw [changes]
    exact sound.changes
  · rw [subscriptions]
    exact fun subscription member => kept _ (sound.subscriptions subscription member)

def Clean (setStates changes : List Bool) : Prop :=
  (∀ mounted ∈ setStates, mounted = true) ∧ ∀ mounted ∈ changes, mounted = true

theorem clean_append (setStates moreCalls changes moreChanges : List Bool)
    (clean : Clean setStates changes) :
    Clean (setStates ++ moreCalls) (changes ++ moreChanges) ↔ Clean moreCalls moreChanges := by
  simp only [Clean,List.forall_mem_append]
  exact ⟨fun both => ⟨both.1.2,both.2.2⟩,fun more => ⟨⟨clean.1,more.1⟩,clean.2,more.2⟩⟩

theorem forEach_mounted (docs : List Fields) (list : List NewsModel) :
    Clean (forEach true docs list).setStates (forEach true docs list).changes := by
  induction docs generalizing list with
  | nil => simp [forEach,Clean]
  | cons result rest ih =>
    rw [forEach]
    cases newsModel result with
    | error thrown => simp [Clean]
    | ok obj => simpa [Clean] using ih (list ++ [obj])

/-- On a disposed State the first document that can be read throws at its setState. -/
theorem forEach_disposed (result : Fields) (rest : List Fields) (list : List NewsModel) :
    (forEach false (result::rest) list).completed = false ∧
    (Clean (forEach false (result::rest) list).setStates (forEach false (result::rest) list).changes ↔
      ¬Readable result) := by
  rw [forEach,← newsModel_readable]
  cases newsModel result <;> simp [Clean]

theorem populate_mounted (page : News) (docs : Option (List Fields)) (mounted : page.mounted = true) :
    Clean (page.populate docs).2.1 (page.populate docs).2.2 := by
  obtain ⟨_,newsList,notificationList,await⟩ := page
  cases mounted
  cases docs with
  | none => simp [News.populate,Clean]
  | some docs =>
    cases await with
    | news =>
      have filled := forEach_mounted docs newsList
      simp only [News.populate]
      split
      · exact ⟨filled.1,List.forall_mem_append.mpr ⟨filled.2,by simp⟩⟩
      · exact filled
    | notification => exact forEach_mounted docs notificationList
    | returned => simp [News.populate,Clean]

theorem populate_disposed (page : News) (docs : Option (List Fields))
    (disposed : page.mounted = false) :
    Clean (page.populate docs).2.1 (page.populate docs).2.2 ↔ Silent page.await docs := by
  obtain ⟨_,newsList,notificationList,await⟩ := page
  cases disposed
  cases docs with
  | none => simp [News.populate,Clean,Silent]
  | some docs =>
    cases await with
    | news =>
      cases docs with
      | nil => simp [News.populate,forEach,Clean,Silent]
      | cons result rest =>
        obtain ⟨stopped,clean⟩ := forEach_disposed result rest newsList
        simp only [News.populate,stopped]
        exact clean
    | notification =>
      cases docs with
      | nil => simp [News.populate,forEach,Clean,Silent]
      | cons result rest => exact (forEach_disposed result rest notificationList).2
    | returned => simp [News.populate,Clean,Silent]

theorem sound_query (state : State) (index : Nat) (page : News) (docs : Option (List Fields))
    (sound : Sound state) :
    Sound {state with
      news := state.news.set index (page.populate docs).1
      setStates := state.setStates ++ (page.populate docs).2.1
      changes := state.changes ++ (page.populate docs).2.2} ↔
    page.mounted = true ∨ Silent page.await docs := by
  have history : Sound {state with
      news := state.news.set index (page.populate docs).1
      setStates := state.setStates ++ (page.populate docs).2.1
      changes := state.changes ++ (page.populate docs).2.2} ↔
      Clean (page.populate docs).2.1 (page.populate docs).2.2 := by
    rw [← clean_append _ _ _ _ ⟨sound.setStates,sound.changes⟩]
    exact ⟨fun after => ⟨after.setStates,after.changes⟩,
      fun clean => ⟨clean.1,clean.2,sound.subscriptions⟩⟩
  rw [history]
  cases mounted : page.mounted with
  | true => exact iff_of_true (populate_mounted page docs mounted) (Or.inl rfl)
  | false => simpa using populate_disposed page docs mounted

theorem sound_screens (state : State) (screens : List ScreenVideo) :
    Sound {state with screens := screens} ↔ Sound state :=
  ⟨fun sound => ⟨sound.setStates,sound.changes,sound.subscriptions⟩,
    fun sound => ⟨sound.setStates,sound.changes,sound.subscriptions⟩⟩

theorem sound_leave (state : State) (page : ScreenVideo) (sound : Sound state) :
    Sound (page.upVid2.elim state state.disposeUpVid2) ↔
      ∀ index, page.upVid2 = some index →
        ∀ subscription ∈ state.subscriptions, subscription.callback ≠ index := by
  cases page.upVid2 with
  | none => exact iff_of_true sound nofun
  | some index =>
    refine (sound_dispose state index sound).trans ⟨?_,fun elsewhere => elsewhere index rfl⟩
    intro elsewhere other same
    cases same
    exact elsewhere

theorem sound_snapshot (state : State) (subscription : Nat) (qs : List Fields) (next : State)
    (sound : Sound state) (taken : step state (.snapshot subscription qs) = some next) :
    Sound next := by
  simp only [step] at taken
  split at taken
  next courseName chaptNo callback found =>
    split at taken
    · split at taken
      next videos _ =>
        cases Option.some.inj taken
        have mounted := sound.subscriptions _ (List.mem_of_getElem? found)
        exact sound_callback state callback videos sound mounted
      next =>
        cases Option.some.inj taken
        exact sound
    · contradiction
  next => contradiction

theorem sound_step (state : State) (label : Label) (next : State) (sound : Sound state)
    (taken : step state label = some next) : Sound next ↔ Quiet state label := by
  cases label with
  | openScreenVideo courseName chaptNo =>
    cases Option.some.inj taken
    have created := sound_init state courseName chaptNo sound
    exact iff_of_true ((sound_screens _ _).mpr created) trivial
  | enterTab screen =>
    simp only [step] at taken
    split at taken
    next courseName chaptNo _ =>
      cases Option.some.inj taken
      have created := sound_init state courseName chaptNo sound
      exact iff_of_true ((sound_screens _ _).mpr created) trivial
    next => contradiction
  | leaveTab screen =>
    simp only [step] at taken
    split at taken
    next courseName chaptNo index found =>
      cases Option.some.inj taken
      simp only [Quiet,found,Option.some.injEq,forall_eq']
      exact (sound_screens _ _).trans (sound_dispose state index sound)
    next => contradiction
  | closeScreenVideo screen =>
    simp only [step] at taken
    split at taken
    next courseName chaptNo upVid2 found =>
      cases Option.some.inj taken
      have closed := (sound_screens state (state.screens.eraseIdx screen)).mpr sound
      have left := sound_leave _ ⟨courseName,chaptNo,upVid2⟩ closed
      simp only [Quiet,found,Option.some.injEq,forall_eq']
      exact left
    next => contradiction
  | snapshot subscription qs =>
    exact iff_of_true (sound_snapshot state subscription qs next sound taken) trivial
  | onError subscription =>
    cases Option.some.inj taken
    refine iff_of_true ⟨sound.setStates,sound.changes,?_⟩ trivial
    intro live member
    exact sound.subscriptions live (List.mem_of_mem_eraseIdx member)
  | openNews =>
    cases Option.some.inj taken
    refine iff_of_true ⟨sound.setStates,?_,sound.subscriptions⟩ trivial
    exact List.forall_mem_append.mpr ⟨sound.changes,by simp⟩
  | closeNews page =>
    cases Option.some.inj taken
    exact iff_of_true ⟨sound.setStates,sound.changes,sound.subscriptions⟩ trivial
  | querySnapshot page docs =>
    simp only [step] at taken
    split at taken
    next news found =>
      split at taken
      · contradiction
      · cases Option.some.inj taken
        simp only [Quiet,found,Option.some.injEq,forall_eq']
        exact sound_query state page news docs sound
    next => contradiction

theorem lifetimes_iff (labels : List Label) :
    Runs.Throughout step Sound initial labels ↔ Runs.Along step Quiet initial labels := by
  apply Runs.throughout_exact Sound Quiet sound_step
  refine ⟨?_,?_,?_⟩ <;> simp [initial]

/-- Leaving the tab of a video list before its first snapshot, and leaving the news page before
its first read is back. -/
theorem disposed_called :
    (∃ state, Runs.run step initial
      [.openScreenVideo "Organic 1" 1,.leaveTab 0,.snapshot 0 []] = some state ∧
      state.setStates = [false] ∧ ¬Sound state) ∧
    ∃ state, Runs.run step initial [.openNews,.closeNews 0,
      .querySnapshot 0 (some [[("title",.string "Exam"),("detail",.string "Room 4"),
        ("time",.string "9:00")]])] = some state ∧
      state.setStates = [false] ∧ state.changes = [true,false] ∧ ¬Sound state := by
  refine ⟨⟨_,rfl,rfl,?_⟩,_,rfl,rfl,rfl,?_⟩
  · intro sound
    exact Bool.noConfusion (sound.setStates false (List.mem_singleton.mpr rfl))
  · intro sound
    exact Bool.noConfusion (sound.setStates false (List.mem_singleton.mpr rfl))

end VisionsAcademy.PageLifetimes
