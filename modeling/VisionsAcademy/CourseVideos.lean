import VisionsAcademy.PageLifetimes
import VisionsAcademy.AccountSession

/-! From the cards of the course pages through ChaptersBio to the video lists: what a list shows
is of the course and chapter it was opened for, and the course is one that the signed-in account
has. -/
namespace VisionsAcademy.CourseVideos
open DocumentStore DartDynamic ManualPayment FirebaseProvider PageLifetimes
open CourseGates CourseAccess

/-! The lists. -/

theorem field_lookup (ds : Fields) (name : String) (member : name ∈ decodedNames) (value : Value)
    (present : ds.lookup name = some value) (read : Value) (decoded : field ds name = .ok read) :
    read = value := by
  rw [field_present ds name member value present] at decoded
  exact (Except.ok.inj decoded).symm

theorem selects_belongs (courseName : String) (chaptNo : Int) (ds : Fields) (video : VideoInfo)
    (selected : selects courseName chaptNo ds = true) (decoded : videoInfo ds = .ok video) :
    Belongs courseName chaptNo video := by
  rw [selects,Bool.and_eq_true] at selected
  obtain ⟨course,chapter⟩ := selected
  split at course
  next stored named =>
    split at chapter
    next chapterNo numbered =>
      simp only [videoInfo,bind_ok] at decoded
      obtain ⟨_,_,_,_,_,_,_,_,_,_,_,_,_,_,_,_,_,_,read,chapters,_,courses,name,texts,done⟩ := decoded
      cases done
      have same := field_lookup ds "chapterNo" (by decide) chapterNo numbered _ chapters
      have title := field_lookup ds "CourseName" (by decide) _ named _ courses
      subst same title
      rw [asString_ok] at texts
      have text : name = some stored := Login.ofString_injective _ _ texts.symm
      exact ⟨text.trans (congrArg some (eq_of_beq course)),chapter⟩
    next => contradiction
  next => contradiction

/-- A list, its subscription and its page are about one course and chapter, and what the list
shows is right for these. -/
structure Listed (right : String → Int → List VideoInfo → Prop) (state : PageLifetimes.State) :
    Prop where
  videos : ∀ upVid2 ∈ state.upVid2s, right upVid2.coursename upVid2.chapt upVid2.videos
  subscriptions : ∀ subscription ∈ state.subscriptions, ∃ upVid2,
    state.upVid2s[subscription.callback]? = some upVid2 ∧
      upVid2.coursename = subscription.courseName ∧ upVid2.chapt = subscription.chaptNo
  mounted : ∀ index upVid2, state.upVid2s[index]? = some upVid2 → upVid2.mounted = true →
    ∃ screen ∈ state.screens, screen.upVid2 = some index ∧
      screen.courseName = upVid2.coursename ∧ screen.chaptNo = upVid2.chapt

theorem listed_init (right : String → Int → List VideoInfo → Prop) (state : PageLifetimes.State)
    (courseName : String) (chaptNo : Int) (screens : List ScreenVideo) (listed : Listed right state)
    (empty : right courseName chaptNo [])
    (kept : ∀ screen ∈ state.screens, screen.upVid2 ≠ none → screen ∈ screens)
    (new : ⟨courseName,chaptNo,some state.upVid2s.length⟩ ∈ screens) :
    Listed right {state.initUpVid2 courseName chaptNo with screens := screens} := by
  refine ⟨?_,?_,?_⟩
  · intro upVid2 member
    rcases List.mem_append.mp member with earlier | last
    · exact listed.videos upVid2 earlier
    · obtain rfl := List.mem_singleton.mp last
      exact empty
  · intro subscription member
    rcases List.mem_append.mp member with earlier | last
    · obtain ⟨upVid2,found,same⟩ := listed.subscriptions subscription earlier
      obtain ⟨bound,_⟩ := List.getElem?_eq_some_iff.mp found
      exact ⟨upVid2,(List.getElem?_append_left bound).trans found,same⟩
    · obtain rfl := List.mem_singleton.mp last
      exact ⟨_,List.getElem?_concat_length,rfl,rfl⟩
  · intro index upVid2 found alive
    change (state.upVid2s ++ [_])[index]? = some upVid2 at found
    by_cases old : index < state.upVid2s.length
    · rw [List.getElem?_append_left old] at found
      obtain ⟨screen,shown,tab,same⟩ := listed.mounted index upVid2 found alive
      exact ⟨screen,kept screen shown (by simp [tab]),tab,same⟩
    · rw [List.getElem?_append_right (Nat.le_of_not_lt old)] at found
      obtain ⟨bound,here⟩ := List.getElem?_eq_some_iff.mp found
      have last : index = state.upVid2s.length := by
        rw [List.length_singleton] at bound
        omega
      subst last
      simp only [Nat.sub_self,List.getElem_cons_zero] at here
      exact ⟨_,new,rfl,by rw [← here],by rw [← here]⟩

theorem listed_dispose (right : String → Int → List VideoInfo → Prop) (state : PageLifetimes.State)
    (index : Nat) (screens : List ScreenVideo) (listed : Listed right state)
    (kept : ∀ screen ∈ state.screens, screen.upVid2 ≠ some index → screen ∈ screens) :
    Listed right {state.disposeUpVid2 index with screens := screens} := by
  have before (other : Nat) (upVid2 : UpVid2)
      (found : (state.disposeUpVid2 index).upVid2s[other]? = some upVid2) :
      ∃ present, state.upVid2s[other]? = some present ∧ upVid2.coursename = present.coursename ∧
        upVid2.chapt = present.chapt ∧ upVid2.videos = present.videos ∧
        (upVid2.mounted = true → other ≠ index ∧ present.mounted = true) := by
    simp only [State.disposeUpVid2,List.getElem?_modify] at found
    obtain ⟨present,here,changed⟩ := Option.map_eq_some_iff.mp found
    refine ⟨present,here,?_⟩
    split at changed
    · cases changed
      exact ⟨rfl,rfl,rfl,fun alive => by contradiction⟩
    · cases changed
      exact ⟨rfl,rfl,rfl,fun alive => ⟨Ne.symm ‹_›,alive⟩⟩
  refine ⟨?_,?_,?_⟩
  · intro upVid2 member
    obtain ⟨other,found⟩ := List.mem_iff_getElem?.mp member
    obtain ⟨present,here,course,chapter,videos,_⟩ := before other upVid2 found
    rw [course,chapter,videos]
    exact listed.videos present (List.mem_of_getElem? here)
  · intro subscription member
    obtain ⟨upVid2,found,course,chapter⟩ := listed.subscriptions subscription member
    by_cases same : index = subscription.callback
    · subst same
      refine ⟨{upVid2 with mounted := false},?_,course,chapter⟩
      simp [State.disposeUpVid2,found]
    · exact ⟨upVid2,(List.getElem?_modify_ne _ _ same).trans found,course,chapter⟩
  · intro other upVid2 found alive
    obtain ⟨present,here,course,chapter,_,apart⟩ := before other upVid2 found
    obtain ⟨different,still⟩ := apart alive
    obtain ⟨screen,shown,tab,same⟩ := listed.mounted other present here still
    refine ⟨screen,kept screen shown ?_,tab,course ▸ same.1,chapter ▸ same.2⟩
    rw [tab]
    exact fun equal => different (Option.some.inj equal)

theorem listed_callback (right : String → Int → List VideoInfo → Prop) (state : PageLifetimes.State)
    (index : Nat) (newVideos : List VideoInfo) (listed : Listed right state)
    (new : ∀ upVid2, state.upVid2s[index]? = some upVid2 →
      right upVid2.coursename upVid2.chapt newVideos) :
    Listed right (state.callback index newVideos) := by
  rw [State.callback]
  split
  next => exact listed
  next page found =>
    split
    next alive =>
      obtain ⟨bound,_⟩ := List.getElem?_eq_some_iff.mp found
      refine ⟨?_,?_,?_⟩
      · intro upVid2 member
        rcases List.mem_or_eq_of_mem_set member with earlier | rfl
        · exact listed.videos upVid2 earlier
        · exact new page found
      · intro subscription member
        obtain ⟨upVid2,here,same⟩ := listed.subscriptions subscription member
        by_cases own : index = subscription.callback
        · subst own
          cases found.symm.trans here
          exact ⟨_,List.getElem?_set_self bound,same⟩
        · exact ⟨upVid2,(List.getElem?_set_ne own).trans here,same⟩
      · intro other upVid2 here still
        change (state.upVid2s.set index _)[other]? = some upVid2 at here
        by_cases own : index = other
        · subst own
          rw [List.getElem?_set_self bound] at here
          cases here
          exact listed.mounted index page found still
        · rw [List.getElem?_set_ne own] at here
          exact listed.mounted other upVid2 here still
    next => exact ⟨listed.videos,listed.subscriptions,listed.mounted⟩

theorem snapshot_belongs (courseName : String) (chaptNo : Int) (qs : List Fields)
    (videos : List VideoInfo) (selected : ∀ ds ∈ qs, selects courseName chaptNo ds = true)
    (decoded : mapQueryToVideoInfo qs = .ok videos) :
    ∀ video ∈ videos, Belongs courseName chaptNo video := by
  have pairs := (mapM_ok videoInfo qs videos).mp decoded
  clear decoded
  induction pairs with
  | nil => simp
  | cons read rest ih =>
    intro video member
    rcases List.mem_cons.mp member with rfl | later
    · exact selects_belongs courseName chaptNo _ video (selected _ List.mem_cons_self) read
    · exact ih (fun ds found => selected ds (List.mem_cons_of_mem _ found)) video later

theorem modify_kept (screens : List ScreenVideo) (index : Nat) (change : ScreenVideo → ScreenVideo)
    (here screen : ScreenVideo) (found : screens[index]? = some here) (shown : screen ∈ screens)
    (different : screen ≠ here) : screen ∈ screens.modify index change := by
  obtain ⟨other,present⟩ := List.mem_iff_getElem?.mp shown
  have apart : index ≠ other := by
    rintro rfl
    exact different (Option.some.inj (present.symm.trans found))
  exact List.mem_of_getElem? ((List.getElem?_modify_ne _ _ apart).trans present)

theorem erase_kept (screens : List ScreenVideo) (index : Nat) (here screen : ScreenVideo)
    (found : screens[index]? = some here) (shown : screen ∈ screens) (different : screen ≠ here) :
    screen ∈ screens.eraseIdx index := by
  obtain ⟨other,present⟩ := List.mem_iff_getElem?.mp shown
  refine List.mem_eraseIdx_iff_getElem?.mpr ⟨other,?_,present⟩
  rintro rfl
  exact different (Option.some.inj (present.symm.trans found))

theorem listed_step (right : String → Int → List VideoInfo → Prop)
    (empty : ∀ courseName chaptNo, right courseName chaptNo []) (state : PageLifetimes.State)
    (label : PageLifetimes.Label) (next : PageLifetimes.State)
    (decodes : ∀ subscription qs courseName chaptNo videos, label = .snapshot subscription qs →
      (∀ ds ∈ qs, selects courseName chaptNo ds = true) → mapQueryToVideoInfo qs = .ok videos →
      right courseName chaptNo videos)
    (listed : Listed right state) (taken : PageLifetimes.step state label = some next) :
    Listed right next := by
  cases label with
  | openScreenVideo courseName chaptNo =>
    cases Option.some.inj taken
    apply listed_init right state courseName chaptNo _ listed (empty _ _)
    · exact fun screen shown _ => List.mem_append_left _ shown
    · exact List.mem_append_right _ (List.mem_singleton.mpr rfl)
  | enterTab screen =>
    simp only [PageLifetimes.step] at taken
    split at taken
    next courseName chaptNo found =>
      cases Option.some.inj taken
      apply listed_init right state courseName chaptNo _ listed (empty _ _)
      · intro other shown tab
        apply modify_kept _ _ _ _ other found shown
        rintro rfl
        contradiction
      · apply List.mem_of_getElem?
        rw [List.getElem?_modify_eq]
        change (state.screens[screen]?).map _ = _
        rw [found]
        rfl
    next => contradiction
  | leaveTab screen =>
    simp only [PageLifetimes.step] at taken
    split at taken
    next courseName chaptNo index found =>
      cases Option.some.inj taken
      apply listed_dispose right state index _ listed
      intro other shown tab
      apply modify_kept _ _ _ _ other found shown
      rintro rfl
      exact tab rfl
    next => contradiction
  | closeScreenVideo screen =>
    simp only [PageLifetimes.step] at taken
    split at taken
    next courseName chaptNo upVid2 found =>
      cases Option.some.inj taken
      have erased (other : ScreenVideo) (shown : other ∈ state.screens) (tab : other.upVid2 ≠ upVid2) :
          other ∈ state.screens.eraseIdx screen := by
        apply erase_kept _ _ _ other found shown
        rintro rfl
        exact tab rfl
      cases upVid2 with
      | some index => exact listed_dispose right state index _ listed erased
      | none =>
        refine ⟨listed.videos,listed.subscriptions,?_⟩
        intro index page here alive
        obtain ⟨other,shown,tab,same⟩ := listed.mounted index page here alive
        exact ⟨other,erased other shown (by simp [tab]),tab,same⟩
    next => contradiction
  | snapshot subscription qs =>
    simp only [PageLifetimes.step] at taken
    split at taken
    next courseName chaptNo callback found =>
      split at taken
      next selected =>
        split at taken
        next videos decoded =>
          cases Option.some.inj taken
          apply listed_callback right state callback videos listed
          intro upVid2 here
          obtain ⟨other,present,course,chapter⟩ :=
            listed.subscriptions _ (List.mem_of_getElem? found)
          cases here.symm.trans present
          rw [course,chapter]
          exact decodes subscription qs courseName chaptNo videos rfl (List.all_eq_true.mp selected) decoded
        next =>
          cases Option.some.inj taken
          exact listed
      next => contradiction
    next => contradiction
  | onError subscription =>
    cases Option.some.inj taken
    refine ⟨listed.videos,?_,listed.mounted⟩
    intro live member
    exact listed.subscriptions live (List.mem_of_mem_eraseIdx member)
  | openNews | closeNews =>
    cases Option.some.inj taken
    exact ⟨listed.videos,listed.subscriptions,listed.mounted⟩
  | querySnapshot page docs =>
    simp only [PageLifetimes.step] at taken
    split at taken
    · split at taken
      · contradiction
      · cases Option.some.inj taken
        exact ⟨listed.videos,listed.subscriptions,listed.mounted⟩
    · contradiction

theorem listed_initial (right : String → Int → List VideoInfo → Prop) :
    Listed right PageLifetimes.initial := by
  refine ⟨?_,?_,?_⟩ <;> simp [PageLifetimes.initial]

def Decoded (labels : List PageLifetimes.Label) (courseName : String) (chaptNo : Int)
    (videos : List VideoInfo) : Prop :=
  ∃ qs, (qs = [] ∨ ∃ subscription, .snapshot subscription qs ∈ labels) ∧
    (∀ ds ∈ qs, selects courseName chaptNo ds = true) ∧ mapQueryToVideoInfo qs = .ok videos

theorem lists_belong (final : PageLifetimes.State) (labels : List PageLifetimes.Label)
    (reached : Runs.run PageLifetimes.step PageLifetimes.initial labels = some final)
    (upVid2 : UpVid2) (created : upVid2 ∈ final.upVid2s) :
    Decoded labels upVid2.coursename upVid2.chapt upVid2.videos ∧
      ∀ video ∈ upVid2.videos, Belongs upVid2.coursename upVid2.chapt video := by
  have arrived (state : PageLifetimes.State) (label : PageLifetimes.Label) (next : PageLifetimes.State)
      (listed : Listed (Decoded labels) state) (member : label ∈ labels)
      (taken : PageLifetimes.step state label = some next) : Listed (Decoded labels) next := by
    apply listed_step (Decoded labels) _ state label next _ listed taken
    · exact fun _ _ => ⟨[],Or.inl rfl,by simp,rfl⟩
    · intro subscription qs courseName chaptNo videos same selected decoded
      subst same
      exact ⟨qs,Or.inr ⟨subscription,member⟩,selected,decoded⟩
  have members := @Refinement.along_labels _ _ PageLifetimes.step (· ∈ labels)
    PageLifetimes.initial labels fun _ member => member
  have listed := Runs.invariant (Listed (Decoded labels)) (fun _ label => label ∈ labels) arrived _ final
    labels (listed_initial _) members reached
  have shown := listed.videos upVid2 created
  refine ⟨shown,?_⟩
  obtain ⟨qs,_,selected,decoded⟩ := shown
  exact snapshot_belongs _ _ qs upVid2.videos selected decoded

def lecture (courseName : String) : Fields := [("CourseName",.string courseName),("chapterNo",.number 1)]

def lectureVideo (courseName : String) : VideoInfo :=
  ⟨some "",some "",some "",.string "",.null,some "",some courseName,.number 1⟩

theorem lists_belong_example : Belongs "statics" 1 (lectureVideo "statics") :=
  (lists_belong ⟨[⟨"statics",1,some 0⟩],[⟨"statics",1,true,[lectureVideo "statics"]⟩],
      [⟨"statics",1,0⟩],[],[true],[]⟩
    [.openScreenVideo "statics" 1,.snapshot 0 [lecture "statics"]] rfl _
    (List.mem_singleton.mpr rfl)).2 _ (List.mem_singleton.mpr rfl)

/-! The way to a list. -/

/-- A card of a course page: the course that it asks for, and the one that ChaptersBio gets. -/
structure Card where
  gate : Option Gate
  key : String
  courseName : String

def sciences : List Card :=
  [⟨some .sciences,"biochemistry0","biochemistry0"⟩,⟨some .sciences,"pathology","pathology"⟩,
    ⟨some .sciences,"organic1","organic1"⟩,
    ⟨some .sciences,"general_chemistry","General Chemistry"⟩,
    ⟨some .sciences,"organic2","organic2"⟩]

def engineer : List Card :=
  ["statics","structural_1","design_2","geotechnical_1","statistics","civil_materials"].map
    fun course => ⟨some .engineer,course,course⟩

def ph : List Card :=
  ["pharmacology_20","pharmaceutics_2","pharmacology_01","pharmacology_03","physical","biology",
    "physiology","pharmacotherapy_1","pharmacotherapy_2","pharmacotherapy_3","microbiology",
    "anatomy"].map fun course => ⟨none,course,course⟩

def cards : List Card := sciences ++ engineer ++ ph

/-- `chapters` are the ChaptersBio pages on the stack, `opened` the accounts and courses for which
a gate has opened. -/
structure State where
  account : AccountSession.State
  chapters : List String
  lists : PageLifetimes.State
  opened : List (String × String)

inductive Label
  | account (label : AccountSession.Label)
  | tap (page card : Nat) (now : Int)
  | chapter (chapters : Nat) (chaptNo : Int)
  | closeChapters (chapters : Nat)
  | lists (label : PageLifetimes.Label)

def initial (account : AccountSession.State) : State := ⟨account,[],PageLifetimes.initial,[]⟩

def State.tap (state : State) (page card : Nat) (now : Int) : Option State :=
  match state.account.pages[page]?,cards[card]?,state.account.currentUser with
  | some page,some card,some uid =>
    if page.mounted ∧ page.gate = card.gate then
      match page.tap card.key state.account.document now with
      | .opened => some {state with
        chapters := state.chapters ++ [card.courseName]
        opened := state.opened ++ [(uid,card.key)]}
      | _ => none
    else none
  | _,_,_ => none

def step (email : String → Option String) (state : State) : Label → Option State
  | .account .signOut =>
    -- The drawer lies below what the cards have pushed.
    if state.chapters = [] ∧ state.lists.screens.isEmpty then
      (AccountSession.step email state.account .signOut).map fun account =>
        {state with account := account}
    else none
  | .account label =>
    (AccountSession.step email state.account label).map fun account => {state with account := account}
  | .tap page card now => state.tap page card now
  | .chapter chapters chaptNo =>
    match state.chapters[chapters]? with
    | some courseName =>
      if 1 ≤ chaptNo ∧ chaptNo ≤ 7 then
        (PageLifetimes.step state.lists (.openScreenVideo courseName chaptNo)).map fun lists =>
          {state with lists := lists}
      else none
    | none => none
  | .closeChapters chapters => some {state with chapters := state.chapters.eraseIdx chapters}
  | .lists (.openScreenVideo _ _) => none
  | .lists label =>
    (PageLifetimes.step state.lists label).map fun lists => {state with lists := lists}

def Covered (state : State) (courseName : String) : Prop :=
  state.account.route = .app ∧ ∃ uid card, state.account.currentUser = some uid ∧ card ∈ cards ∧
    card.courseName = courseName ∧ (uid,card.key) ∈ state.opened

structure Sound (email : String → Option String) (state : State) : Prop where
  own : AccountSession.Own email state.account
  listed : Listed (fun courseName chaptNo videos => ∀ video ∈ videos, Belongs courseName chaptNo video)
    state.lists
  chapters : ∀ courseName ∈ state.chapters, Covered state courseName
  screens : ∀ screen ∈ state.lists.screens, Covered state screen.courseName ∧
    1 ≤ screen.chaptNo ∧ screen.chaptNo ≤ 7

theorem step_account (email : String → Option String) (state : State)
    (label : AccountSession.Label) (stays : label ≠ .signOut) :
    step email state (.account label) =
      (AccountSession.step email state.account label).map fun account =>
        {state with account := account} := by
  cases label with
  | signOut => contradiction
  | _ => rfl

theorem step_lists (email : String → Option String) (state next : State)
    (label : PageLifetimes.Label) (taken : step email state (.lists label) = some next) :
    (∀ courseName chaptNo, label ≠ .openScreenVideo courseName chaptNo) ∧
    ∃ lists, PageLifetimes.step state.lists label = some lists ∧ next = {state with lists := lists} := by
  have other : ∀ courseName chaptNo, label ≠ .openScreenVideo courseName chaptNo := by
    rintro courseName chaptNo rfl
    contradiction
  have mapped : step email state (.lists label) =
      (PageLifetimes.step state.lists label).map fun lists => {state with lists := lists} := by
    cases label with
    | openScreenVideo courseName chaptNo => exact absurd rfl (other courseName chaptNo)
    | _ => rfl
  obtain ⟨lists,moved,rfl⟩ := Option.map_eq_some_iff.mp (mapped.symm.trans taken)
  exact ⟨other,lists,moved,rfl⟩

theorem tap_effect (state next : State) (page card : Nat) (now : Int)
    (tapped : state.tap page card now = some next) :
    ∃ (shown : AccountSession.CoursePage) (chosen : Card) (uid : String),
      shown ∈ state.account.pages ∧ shown.mounted = true ∧ chosen ∈ cards ∧
      state.account.currentUser = some uid ∧
      shown.tap chosen.key state.account.document now = .opened ∧
      next = {state with
        chapters := state.chapters ++ [chosen.courseName]
        opened := state.opened ++ [(uid,chosen.key)]} := by
  rw [State.tap] at tapped
  split at tapped
  next shown chosen uid found listed signed =>
    split at tapped
    next fits =>
      split at tapped
      next opened =>
        cases tapped
        exact ⟨shown,chosen,uid,List.mem_of_getElem? found,fits.1,List.mem_of_getElem? listed,signed,
          opened,rfl⟩
      next => contradiction
    next => contradiction
  next => contradiction

theorem screens_step (lists : PageLifetimes.State) (label : PageLifetimes.Label)
    (next : PageLifetimes.State) (taken : PageLifetimes.step lists label = some next)
    (screen : ScreenVideo) (shown : screen ∈ next.screens) :
    (∃ before ∈ lists.screens, before.courseName = screen.courseName ∧
      before.chaptNo = screen.chaptNo) ∨
    label = .openScreenVideo screen.courseName screen.chaptNo := by
  have shifted (index : Nat) (upVid2 : Option Nat)
      (member : screen ∈ lists.screens.modify index fun page => {page with upVid2 := upVid2}) :
      ∃ before ∈ lists.screens, before.courseName = screen.courseName ∧
        before.chaptNo = screen.chaptNo := by
    obtain ⟨before,here,rfl | rfl⟩ := Entries.mem_modify _ _ _ _ member
    · exact ⟨_,here,rfl,rfl⟩
    · exact ⟨before,here,rfl,rfl⟩
  cases label with
  | openScreenVideo courseName chaptNo =>
    cases Option.some.inj taken
    rcases List.mem_append.mp shown with earlier | last
    · exact Or.inl ⟨screen,earlier,rfl,rfl⟩
    · obtain rfl := List.mem_singleton.mp last
      exact Or.inr rfl
  | enterTab index | leaveTab index =>
    simp only [PageLifetimes.step] at taken
    split at taken
    · cases Option.some.inj taken
      exact Or.inl (shifted index _ shown)
    · contradiction
  | closeScreenVideo index =>
    simp only [PageLifetimes.step] at taken
    split at taken
    next courseName chaptNo upVid2 _ =>
      cases Option.some.inj taken
      refine Or.inl ⟨screen,?_,rfl,rfl⟩
      cases upVid2 <;> exact List.mem_of_mem_eraseIdx shown
    next => contradiction
  | snapshot subscription qs =>
    simp only [PageLifetimes.step] at taken
    split at taken
    next courseName chaptNo callback _ =>
      split at taken
      · split at taken
        next videos _ =>
          cases Option.some.inj taken
          have same : (lists.callback callback videos).screens = lists.screens := by
            rw [State.callback]
            split
            · rfl
            · split <;> rfl
          rw [same] at shown
          exact Or.inl ⟨screen,shown,rfl,rfl⟩
        next =>
          cases Option.some.inj taken
          exact Or.inl ⟨screen,shown,rfl,rfl⟩
      · contradiction
    next => contradiction
  | onError | openNews | closeNews =>
    cases Option.some.inj taken
    exact Or.inl ⟨screen,shown,rfl,rfl⟩
  | querySnapshot page docs =>
    simp only [PageLifetimes.step] at taken
    split at taken
    · split at taken
      · contradiction
      · cases Option.some.inj taken
        exact Or.inl ⟨screen,shown,rfl,rfl⟩
    · contradiction

theorem sound_tap (email : String → Option String) (state next : State) (page card : Nat)
    (now : Int) (sound : Sound email state) (tapped : state.tap page card now = some next) :
    Sound email next := by
  obtain ⟨shown,chosen,uid,member,mounted,listed,signed,_,rfl⟩ := tap_effect state next page card now tapped
  have inside := (sound.own.pages shown member mounted).1
  have covered (courseName : String) (before : Covered state courseName) :
      Covered {state with
        chapters := state.chapters ++ [chosen.courseName]
        opened := state.opened ++ [(uid,chosen.key)]} courseName := by
    obtain ⟨here,account,other,same,known,named,opened⟩ := before
    exact ⟨here,account,other,same,known,named,List.mem_append_left _ opened⟩
  refine ⟨sound.own,sound.listed,?_,?_⟩
  · intro courseName stacked
    rcases List.mem_append.mp stacked with earlier | last
    · exact covered courseName (sound.chapters courseName earlier)
    · obtain rfl := List.mem_singleton.mp last
      exact ⟨inside,uid,chosen,signed,listed,rfl,List.mem_append_right _ (List.mem_singleton.mpr rfl)⟩
  · intro screen present
    exact ⟨covered _ (sound.screens screen present).1,(sound.screens screen present).2⟩

theorem sound_lists (email : String → Option String) (state : State) (label : PageLifetimes.Label)
    (lists : PageLifetimes.State) (sound : Sound email state)
    (taken : PageLifetimes.step state.lists label = some lists)
    (fits : ∀ courseName chaptNo, label = .openScreenVideo courseName chaptNo →
      courseName ∈ state.chapters ∧ 1 ≤ chaptNo ∧ chaptNo ≤ 7) :
    Sound email {state with lists := lists} := by
  have listed := listed_step _ (by simp) state.lists label lists
    (fun _ qs courseName chaptNo videos _ => snapshot_belongs courseName chaptNo qs videos) sound.listed
    taken
  refine ⟨sound.own,listed,sound.chapters,?_⟩
  intro screen shown
  rcases screens_step state.lists label lists taken screen shown with
    ⟨before,present,course,chapter⟩ | opens
  · rw [← course,← chapter]
    exact sound.screens before present
  · obtain ⟨stacked,chapter⟩ := fits _ _ opens
    exact ⟨sound.chapters _ stacked,chapter⟩

theorem sound_step (email : String → Option String) (state : State) (label : Label) (next : State)
    (sound : Sound email state) (taken : step email state label = some next) : Sound email next := by
  cases label with
  | account label =>
    by_cases out : label = .signOut
    · subst out
      simp only [step] at taken
      split at taken
      next clear =>
        obtain ⟨account,left,rfl⟩ := Option.map_eq_some_iff.mp taken
        have own := AccountSession.own_step email _ _ account sound.own left
        have empty : state.lists.screens = [] := List.isEmpty_iff.mp clear.2
        exact ⟨own,sound.listed,by simp [clear.1],by simp [empty]⟩
      next => contradiction
    · rw [step_account email state label out] at taken
      obtain ⟨account,moved,rfl⟩ := Option.map_eq_some_iff.mp taken
      have own := AccountSession.own_step email _ _ account sound.own moved
      have covered (courseName : String) (before : Covered state courseName) :
          Covered {state with account := account} courseName := by
        obtain ⟨here,uid,card,signed,known⟩ := before
        obtain ⟨still,same⟩ := AccountSession.session_step email _ label account sound.own here out moved
        exact ⟨still,uid,card,same.trans signed,known⟩
      refine ⟨own,sound.listed,?_,?_⟩
      · exact fun courseName stacked => covered courseName (sound.chapters courseName stacked)
      · exact fun screen shown => ⟨covered _ (sound.screens screen shown).1,(sound.screens screen shown).2⟩
  | tap page card now => exact sound_tap email state next page card now sound taken
  | chapter chapters chaptNo =>
    simp only [step] at taken
    split at taken
    next courseName found =>
      split at taken
      next bounds =>
        obtain ⟨lists,moved,rfl⟩ := Option.map_eq_some_iff.mp taken
        apply sound_lists email state _ lists sound moved
        rintro _ _ ⟨⟩
        exact ⟨List.mem_of_getElem? found,bounds⟩
      next => contradiction
    next => contradiction
  | closeChapters chapters =>
    cases Option.some.inj taken
    refine ⟨sound.own,sound.listed,?_,sound.screens⟩
    exact fun courseName stacked => sound.chapters courseName (List.mem_of_mem_eraseIdx stacked)
  | lists label =>
    obtain ⟨other,lists,moved,rfl⟩ := step_lists email state next label taken
    apply sound_lists email state label lists sound moved
    intro courseName chaptNo opens
    exact absurd opens (other courseName chaptNo)

def Given (uid key : String) : Label → Prop
  | .account label => AccountSession.Gives uid key label
  | _ => False

def Held (uid key : String) (state : State) : Prop :=
  (uid,key) ∈ state.opened ∨ AccountSession.Has state.account uid key

theorem held_step (email : String → Option String) (uid key : String) (state : State)
    (label : Label) (next : State) (sound : Sound email state)
    (taken : step email state label = some next) (held : Held uid key next) :
    Held uid key state ∨ Given uid key label := by
  have moved (account : AccountSession.Label) (after : AccountSession.State)
      (went : AccountSession.step email state.account account = some after)
      (later : (uid,key) ∈ state.opened ∨ AccountSession.Has after uid key) :
      Held uid key state ∨ AccountSession.Gives uid key account := by
    rcases later with opened | has
    · exact Or.inl (Or.inl opened)
    · rcases AccountSession.has_step email uid key _ account after went has with before | gives
      · exact Or.inl (Or.inr before)
      · exact Or.inr gives
  cases label with
  | account label =>
    by_cases out : label = .signOut
    · subst out
      simp only [step] at taken
      split at taken
      next =>
        obtain ⟨account,left,rfl⟩ := Option.map_eq_some_iff.mp taken
        exact moved _ account left held
      next => contradiction
    · rw [step_account email state label out] at taken
      obtain ⟨account,left,rfl⟩ := Option.map_eq_some_iff.mp taken
      exact moved label account left held
  | tap page card now =>
    obtain ⟨shown,chosen,account,member,mounted,_,signed,opened,rfl⟩ :=
      tap_effect state next page card now taken
    left
    rcases held with known | has
    · rcases List.mem_append.mp known with earlier | last
      · exact Or.inl earlier
      · cases List.mem_singleton.mp last
        obtain ⟨other,same,has⟩ := AccountSession.opened_has email state.account sound.own shown
          member mounted chosen.key now opened
        cases signed.symm.trans same
        exact Or.inr has
    · exact Or.inr has
  | chapter chapters chaptNo =>
    simp only [step] at taken
    split at taken
    next =>
      split at taken
      next =>
        obtain ⟨lists,_,rfl⟩ := Option.map_eq_some_iff.mp taken
        exact Or.inl held
      next => contradiction
    next => contradiction
  | closeChapters chapters =>
    cases Option.some.inj taken
    exact Or.inl held
  | lists label =>
    obtain ⟨_,lists,_,rfl⟩ := step_lists email state next label taken
    exact Or.inl held

/-- Every video on display is of the course of a card and one of the seven chapters, and the
account that is signed in had a subscription or an approval for that course. -/
theorem shown_entitled (email : String → Option String) (start : AccountSession.State)
    (final : State) (labels : List Label) (own : AccountSession.Own email start)
    (reached : Runs.run (step email) (initial start) labels = some final) (upVid2 : UpVid2)
    (created : upVid2 ∈ final.lists.upVid2s) (mounted : upVid2.mounted = true) (video : VideoInfo)
    (shown : video ∈ upVid2.videos) :
    ∃ uid card, final.account.currentUser = some uid ∧ card ∈ cards ∧
      video.courseName = some card.courseName ∧
      (∃ chaptNo, 1 ≤ chaptNo ∧ chaptNo ≤ 7 ∧ isEqualTo video.chapter chaptNo = true) ∧
      (AccountSession.Has start uid card.key ∨ ∃ label ∈ labels, Given uid card.key label) := by
  have begins : Sound email (initial start) := by
    refine ⟨own,listed_initial _,?_,?_⟩ <;> simp [initial,PageLifetimes.initial]
  have sound := Runs.unconditional (Sound email) (sound_step email) _ final labels begins reached
  obtain ⟨index,found⟩ := List.mem_iff_getElem?.mp created
  obtain ⟨screen,present,_,course,chapter⟩ := sound.listed.mounted index upVid2 found mounted
  obtain ⟨⟨_,uid,card,signed,listed,named,opened⟩,bounds⟩ := sound.screens screen present
  obtain ⟨title,number⟩ := sound.listed.videos upVid2 created video shown
  refine ⟨uid,card,signed,listed,?_,⟨screen.chaptNo,bounds.1,bounds.2,?_⟩,?_⟩
  · rw [title,named,course]
  · rw [chapter]
    exact number
  · rcases Refinement.run_origin (Sound email) (Held uid card.key) (Given uid card.key)
      (sound_step email) (held_step email uid card.key) _ final labels begins reached (Or.inl opened)
      with before | granted
    · rcases before with earlier | has
      · contradiction
      · exact Or.inl has
    · exact Or.inr granted

def subscriber : AccountSession.State :=
  ⟨.app,some "u1",false,some "u1",[⟨none,true,.returned,some ⟨"u1",none⟩,
    some ⟨some "u1",["anatomy"]⟩,none⟩],[],[],⟨fun _ => none,[]⟩⟩

theorem subscriber_own : AccountSession.Own (fun _ => none) subscriber := by
  refine ⟨fun _ => ⟨"u1",rfl⟩,nofun,?_⟩
  intro page member _
  obtain rfl := List.mem_singleton.mp member
  refine ⟨rfl,fun uid signed => ?_⟩
  cases signed
  exact ⟨nofun,fun user same => ⟨(Option.some.inj same).symm,rfl⟩,nofun,
    fun info same => by cases same; rfl⟩

theorem shown_entitled_example : ∃ uid card, some "u1" = some uid ∧ card ∈ cards ∧
    some "anatomy" = some card.courseName ∧
    (∃ chaptNo, 1 ≤ chaptNo ∧ chaptNo ≤ 7 ∧ isEqualTo (.number 1) chaptNo = true) ∧
    (AccountSession.Has subscriber uid card.key ∨
      ∃ label ∈ [Label.tap 0 22 0,.chapter 0 1,.lists (.snapshot 0 [lecture "anatomy"])],
        Given uid card.key label) :=
  shown_entitled (fun _ => none) subscriber
    ⟨subscriber,["anatomy"],⟨[⟨"anatomy",1,some 0⟩],[⟨"anatomy",1,true,[lectureVideo "anatomy"]⟩],
      [⟨"anatomy",1,0⟩],[],[true],[]⟩,[("u1","anatomy")]⟩
    [.tap 0 22 0,.chapter 0 1,.lists (.snapshot 0 [lecture "anatomy"])] subscriber_own rfl _
    (List.mem_singleton.mpr rfl) rfl (lectureVideo "anatomy") (List.mem_singleton.mpr rfl)

end VisionsAcademy.CourseVideos
