import VisionsAcademy.CourseExpiry

/-! What `initPlatformState` leaves a page with and what a tap makes of it: the entitled
user should get in, and a SubscriptionPage should get a package it can build from. -/
namespace VisionsAcademy.CourseAccess
open DocumentStore DartDynamic ManualPayment
open CourseGates CourseExpiry

/-- The answers of the awaited calls in their order; none is pending or failed. -/
structure InitAnswers where
  setDebugLogsEnabled : Option Unit
  getCurrentUser : Option (Option User)
  setup : Option Unit
  addAttributionData : Option Unit
  identify : Option (List String)
  getOfferings : Option Offerings

def initPlatformState (answers : InitAnswers) : Page :=
  match answers.setDebugLogsEnabled,answers.getCurrentUser with
  | some _,some (some user) =>
    match answers.setup,answers.addAttributionData,answers.identify with
    | some _,some _,some activeSubscriptions =>
      ⟨some user,some activeSubscriptions,answers.getOfferings⟩
    | _,_,_ => ⟨some user,none,none⟩
  -- `userId.uid` of a null user throws.
  | _,_ => ⟨none,none,none⟩

structure Filled (page : Page) : Prop where
  user : page.activeSubscriptions ≠ none → page.userId ≠ none
  subscriptions : page.offerings ≠ none → page.activeSubscriptions ≠ none

theorem initPlatformState_filled (answers : InitAnswers) : Filled (initPlatformState answers) := by
  unfold initPlatformState
  split
  · split
    · exact ⟨by simp,by simp⟩
    · exact ⟨by simp,by simp⟩
  · exact ⟨by simp,by simp⟩

/-- `SubscriptionPage.build`: the grid is filled from `package.product`, its identifier being
the course to request. -/
def build (arguments : SubscriptionArguments) : Except Thrown SubscriptionPage.Request := do
  let package ← notNull arguments.package
  return ⟨package.identifier,arguments.email⟩

def Buildable (built : Except Thrown SubscriptionArguments) : Prop :=
  ∃ arguments package, built = .ok arguments ∧ arguments.package = some package ∧
    build arguments = .ok ⟨package.identifier,arguments.email⟩

theorem buildable_iff (built : Except Thrown SubscriptionArguments) :
    Buildable built ↔ ∃ arguments package, built = .ok arguments ∧
      arguments.package = some package := by
  constructor
  · rintro ⟨arguments,package,same,present,_⟩
    exact ⟨arguments,package,same,present⟩
  · rintro ⟨arguments,package,same,present⟩
    refine ⟨arguments,package,same,present,?_⟩
    rw [build,present]
    rfl

inductive Gate
  | home
  | sciences
  | engineer
  deriving DecidableEq

def checkmanual (gate : Gate) (document : Snapshot) (key : String) (now : Int) : Option Bool :=
  match gate with
  | .home => homeCheckmanual (.ok document) key
  | .sciences => sciencesCheckmanual (.ok document) key
  | .engineer => (engineerCheckmanual (.ok document) key now document).1

def Gate.tap (gate : Gate) (page : Page) (key : String) (document : Snapshot) (now : Int) : Tap :=
  match gate with
  | .home => homeTap page key (.ok document)
  | .sciences => sciencesTap page key (.ok document)
  | .engineer => engineerTap page key (.ok document) now document

def Entitled (document : Snapshot) (key : String) (now : Int) : Prop :=
  Approved document key ∧ ∃ due, dueMoment document key = some due ∧ now * 1000 < due

/-- An entitled user gets in, and a SubscriptionPage that opens can be built. -/
structure Safe (gate : Gate) (page : Page) (key : String) (document : Snapshot) (now : Int) :
    Prop where
  opens : Entitled document key now → gate.tap page key document now = .opened
  builds : ∀ built, gate.tap page key document now = .subscription built → Buildable built

def Gate.passesPackage (gate : Gate) : Bool := gate ≠ .home

theorem gate_tap (gate : Gate) (page : Page) (key : String) (document : Snapshot) (now : Int) :
    gate.tap page key document now =
      CourseGates.tap page key (some (checkmanual gate document key now)) gate.passesPackage := by
  cases gate <;> rfl

/-- Whether the gate acts on a record: the expiry check of CoursesEngineer only gets past
a DateTime. -/
def Reads (gate : Gate) (document : Snapshot) (key : String) : Prop :=
  gate = .engineer → ∃ microseconds, recordField document key "DueDate" = some (.dateTime microseconds)

theorem checkmanual_reads (gate : Gate) (document : Snapshot) (key : String) (now : Int)
    (reads : Reads gate document key) :
    checkmanual gate document key now = homeCheckmanual (.ok document) key := by
  cases gate with
  | home => rfl
  | sciences => exact sciencesCheckmanual_home (.ok document) key
  | engineer =>
    obtain ⟨microseconds,dated⟩ := reads rfl
    exact engineerCheckmanual_dated document key now microseconds dated

theorem checkmanual_unread (gate : Gate) (document : Snapshot) (key : String) (now : Int)
    (unread : ¬ Reads gate document key) : checkmanual gate document key now = some false := by
  cases gate with
  | home => exact absurd (fun other => by contradiction) unread
  | sciences => exact absurd (fun other => by contradiction) unread
  | engineer =>
    have undated := engineerCheckmanual_stored document key now fun microseconds dated =>
      unread fun _ => ⟨microseconds,dated⟩
    exact congrArg Prod.fst undated

theorem checkmanual_cases (gate : Gate) (document : Snapshot) (key : String) (now : Int) :
    (Reads gate document key ∧ Approved document key ∧
      checkmanual gate document key now = some true) ∨
    (Reads gate document key ∧ ¬ Approved document key ∧ Unflagged document key ∧
      checkmanual gate document key now = none) ∨
    (¬ (Reads gate document key ∧ (Approved document key ∨ Unflagged document key)) ∧
      checkmanual gate document key now = some false) := by
  by_cases reads : Reads gate document key
  · rw [checkmanual_reads gate document key now reads]
    rcases homeCheckmanual_cases document key with
      ⟨approved,_,home⟩ | ⟨refused,unflagged,home⟩ | ⟨refused,flagged,home⟩
    · exact Or.inl ⟨reads,approved,home⟩
    · exact Or.inr (Or.inl ⟨reads,refused,unflagged,home⟩)
    · refine Or.inr (Or.inr ⟨?_,home⟩)
      rintro ⟨_,approved | unflagged⟩
      · exact refused approved
      · exact flagged unflagged
  · refine Or.inr (Or.inr ⟨fun both => reads both.1,?_⟩)
    exact checkmanual_unread gate document key now reads

theorem tap_unfilled (page : Page) (key : String) (manual : Option (Option Bool))
    (passesPackage : Bool) (unfilled : page.activeSubscriptions = none) :
    CourseGates.tap page key manual passesPackage = .problem .noSuchMethodError := by
  simp [CourseGates.tap,CourseGates.gate,unfilled,notNull,bind,Except.bind]

theorem tap_manual (page : Page) (key : String) (isavail : Option Bool) (passesPackage : Bool)
    (activeSubscriptions : List String) (held : page.activeSubscriptions = some activeSubscriptions)
    (unsubscribed : key ∉ activeSubscriptions) :
    CourseGates.tap page key (some isavail) passesPackage =
      match isavail with
      | some true => .opened
      | none => .problem .assertionError
      | some false =>
        match choosePackage page key with
        | .error thrown => .problem thrown
        | .ok _ => .subscription (buildArguments page key passesPackage) := by
  have decided : CourseGates.gate page key (some isavail) = condition isavail := by
    simp [CourseGates.gate,held,notNull,unsubscribed,bind,Except.bind]
  rw [CourseGates.tap,decided]
  rcases isavail with _ | _ | _ <;> rfl

structure Ready (gate : Gate) (page : Page) (key : String) (document : Snapshot) (now : Int) :
    Prop where
  opens : Entitled document key now → ∃ activeSubscriptions,
    page.activeSubscriptions = some activeSubscriptions ∧
      (key ∈ activeSubscriptions ∨ Reads gate document key)
  builds : ∀ activeSubscriptions offerings, page.activeSubscriptions = some activeSubscriptions →
    page.offerings = some offerings → key ∉ activeSubscriptions →
    ¬ (Reads gate document key ∧ (Approved document key ∨ Unflagged document key)) →
    Offered offerings key → gate ≠ .home ∧ ∃ offering package,
      offerings.getOffering key = some offering ∧ offering.threeMonth = some package

theorem buildArguments_package (gate : Gate) (user : User)
    (activeSubscriptions : Option (List String)) (offerings : Offerings) (key : String)
    (offering : Offering) (found : offerings.getOffering key = some offering) :
    Buildable (buildArguments ⟨some user,activeSubscriptions,some offerings⟩ key
        gate.passesPackage) ↔
      gate ≠ .home ∧ ∃ package, offering.threeMonth = some package := by
  rw [buildable_iff]
  by_cases home : gate = .home
  · subst home
    simp [Gate.passesPackage,buildArguments,notNull,bind,Except.bind,pure,Except.pure]
  · simp [Gate.passesPackage,home,buildArguments,notNull,found,bind,Except.bind,pure,Except.pure]

theorem offered_found (offerings : Offerings) (key : String) (offered : Offered offerings key) :
    ∃ offering, offerings.getOffering key = some offering := by
  obtain ⟨offering,found,_⟩ := offered
  exact ⟨offering,found⟩

theorem safe_refused (gate : Gate) (page : Page) (filled : Filled page) (key : String)
    (document : Snapshot) (now : Int) (activeSubscriptions : List String)
    (held : page.activeSubscriptions = some activeSubscriptions)
    (unsubscribed : key ∉ activeSubscriptions)
    (unread : ¬ (Reads gate document key ∧ (Approved document key ∨ Unflagged document key)))
    (refused : checkmanual gate document key now = some false) :
    Safe gate page key document now ↔ Ready gate page key document now := by
  have tapped := gate_tap gate page key document now
  rw [refused,tap_manual page key _ _ activeSubscriptions held unsubscribed] at tapped
  have never : gate.tap page key document now ≠ .opened := by
    rw [tapped]
    cases choosePackage page key <;> simp
  obtain ⟨user,signed⟩ := Option.ne_none_iff_exists'.mp (filled.user (by simp [held]))
  constructor
  · intro safe
    refine ⟨fun entitled => absurd (safe.opens entitled) never,?_⟩
    intro _ offerings _ present _ _ offered
    obtain ⟨package,chosen⟩ := (choosePackage_ok page key).mpr ⟨offerings,present,offered⟩
    obtain ⟨offering,found⟩ := offered_found offerings key offered
    have built := safe.builds (buildArguments page key gate.passesPackage)
      (by rw [tapped,chosen])
    obtain ⟨userId,_,_⟩ := page
    cases signed
    cases present
    have passed := (buildArguments_package gate user _ offerings key offering found).mp built
    obtain ⟨away,threeMonth,stocked⟩ := passed
    exact ⟨away,offering,threeMonth,found,stocked⟩
  · intro ready
    constructor
    · intro entitled
      obtain ⟨others,same,subscribed | reads⟩ := ready.opens entitled
      · rw [held] at same
        cases same
        contradiction
      · exact absurd ⟨reads,Or.inl entitled.1⟩ unread
    · intro built offers
      rw [tapped] at offers
      cases chosen : choosePackage page key with
      | error thrown =>
        rw [chosen] at offers
        contradiction
      | ok package =>
        rw [chosen] at offers
        cases offers
        obtain ⟨offerings,present,offered⟩ := (choosePackage_ok page key).mp ⟨package,chosen⟩
        obtain ⟨away,offering,threeMonth,found,stocked⟩ :=
          ready.builds activeSubscriptions offerings held present unsubscribed unread offered
        obtain ⟨userId,_,_⟩ := page
        cases signed
        cases present
        exact (buildArguments_package gate user _ offerings key offering found).mpr
          ⟨away,threeMonth,stocked⟩

theorem safe_filled (gate : Gate) (page : Page) (filled : Filled page) (key : String)
    (document : Snapshot) (now : Int) :
    Safe gate page key document now ↔ Ready gate page key document now := by
  have tapped := gate_tap gate page key document now
  cases held : page.activeSubscriptions with
  | none =>
    have stopped := tap_unfilled page key (some (checkmanual gate document key now))
      gate.passesPackage held
    rw [stopped] at tapped
    constructor
    · intro safe
      refine ⟨fun entitled => ?_,fun _ _ present => by simp [held] at present⟩
      have opened := safe.opens entitled
      simp [tapped] at opened
    · intro ready
      refine ⟨fun entitled => ?_,fun built offers => by simp [tapped] at offers⟩
      obtain ⟨_,present,_⟩ := ready.opens entitled
      simp [held] at present
  | some activeSubscriptions =>
    by_cases subscribed : key ∈ activeSubscriptions
    · rw [tap_subscribed page key _ _ activeSubscriptions held subscribed] at tapped
      refine iff_of_true ⟨fun _ => tapped,fun built offers => by simp [tapped] at offers⟩ ?_
      refine ⟨fun _ => ⟨activeSubscriptions,held,Or.inl subscribed⟩,?_⟩
      intro others _ same _ absent
      rw [held] at same
      cases same
      contradiction
    · rcases checkmanual_cases gate document key now with
        ⟨reads,approved,answer⟩ | ⟨reads,refused,unflagged,answer⟩ | ⟨unread,answer⟩
      · rw [answer,tap_manual page key _ _ activeSubscriptions held subscribed] at tapped
        refine iff_of_true ⟨fun _ => tapped,fun built offers => by simp [tapped] at offers⟩ ?_
        refine ⟨fun _ => ⟨activeSubscriptions,held,Or.inr reads⟩,?_⟩
        intro _ _ _ _ _ unread
        exact absurd ⟨reads,Or.inl approved⟩ unread
      · rw [answer,tap_manual page key _ _ activeSubscriptions held subscribed] at tapped
        refine iff_of_true ⟨fun entitled => absurd entitled.1 refused,
          fun built offers => by simp [tapped] at offers⟩ ?_
        refine ⟨fun entitled => absurd entitled.1 refused,?_⟩
        intro _ _ _ _ _ unread
        exact absurd ⟨reads,Or.inr unflagged⟩ unread
      · exact safe_refused gate page filled key document now activeSubscriptions held subscribed
          unread answer

theorem safe_iff (answers : InitAnswers) (gate : Gate) (key : String) (document : Snapshot)
    (now : Int) : Safe gate (initPlatformState answers) key document now ↔
      Ready gate (initPlatformState answers) key document now :=
  safe_filled gate _ (initPlatformState_filled answers) key document now

/-- A completed page, no subscription, no approval: HomeScreen opens a SubscriptionPage
without a package. While the calls are pending an approved user does not get in either. -/
theorem tap_unsafe : ∃ answers offerings document,
    initPlatformState answers = ⟨some ⟨"uid",none⟩,some [],some offerings⟩ ∧
    ¬ Safe .home (initPlatformState answers) "moodle" none 0 ∧
    Entitled document "moodle" 0 ∧
    ¬ Safe .home (initPlatformState {answers with identify := none}) "moodle" document 0 := by
  let package : Package := ⟨"threemonth"⟩
  let offering : Offering := ⟨[package],some package⟩
  let offerings : Offerings := ⟨some offering,[("moodle",offering)]⟩
  let answers : InitAnswers :=
    ⟨some (),some (some ⟨"uid",none⟩),some (),some (),some [],some offerings⟩
  let document : Snapshot := some [("Course",.map [("moodle",.map [("isPurchased",.boolean true),
    ("StartDate",.timestamp 1577836800 0),("DueDate",.timestamp 1893456000 0)])])]
  refine ⟨answers,offerings,document,rfl,?_,⟨rfl,_,rfl,by decide⟩,?_⟩
  · intro safe
    obtain ⟨_,_,built,present,_⟩ := safe.builds (.ok ⟨none,none⟩) rfl
    cases built
    contradiction
  · intro safe
    have opened : Tap.problem .noSuchMethodError = .opened :=
      safe.opens ⟨rfl,_,rfl,by decide⟩
    contradiction

end VisionsAcademy.CourseAccess
