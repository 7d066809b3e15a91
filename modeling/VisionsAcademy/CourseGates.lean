import VisionsAcademy.ManualPayment

/-! The access rule of the course pages: a tap opens the course for an active
subscription or a manual approval and offers the SubscriptionPage otherwise. The
pages differ in `checkmanual`, and CoursesPh has none. -/
namespace VisionsAcademy.CourseGates
open DocumentStore DartDynamic ManualPayment

structure Package where
  identifier : String

structure Offering where
  availablePackages : List Package
  threeMonth : Option Package

structure Offerings where
  current : Option Offering
  all : List (String × Offering)

def Offerings.getOffering (offerings : Offerings) (identifier : String) : Option Offering :=
  offerings.all.lookup identifier

structure User where
  uid : String
  email : Option String

structure Page where
  userId : Option User
  activeSubscriptions : Option (List String)
  offerings : Option Offerings

def notNull {α : Type} (receiver : Option α) : Except Thrown α :=
  match receiver with
  | none => .error .noSuchMethodError
  | some value => .ok value

def homeCheckmanual (read : Except Thrown Snapshot) (selectedCourse : String) : Option Bool :=
  match (do
    let value ← read
    asBool (← lookupField value selectedCourse "isPurchased")) with
  | .ok isavail => isavail
  | .error _ => some false

/-- `_CoursesSciencesState.checkmanual`: the DueDate is looked up and only printed. -/
def sciencesCheckmanual (read : Except Thrown Snapshot) (selectedCourse : String) : Option Bool :=
  match (do
    let value ← read
    let isavail ← asBool (← lookupField value selectedCourse "isPurchased")
    let _ ← lookupField value selectedCourse "DueDate"
    return isavail) with
  | .ok isavail => isavail
  | .error _ => some false

def expiryData (selectedCourse : String) : Fields :=
  [("Course",.map [(selectedCourse,.map [("isPurchased",.boolean false)])])]

/-- The expiry write is not awaited: one that throws writes nothing, and nobody notices. -/
def expire (selectedCourse : String) (document : Snapshot) : Snapshot :=
  (setMerge (expiryData selectedCourse) document).or document

def engineerCheckmanual (read : Except Thrown Snapshot) (selectedCourse : String) (now : Int)
    (document : Snapshot) : Option Bool × Snapshot :=
  match (do
    let value ← read
    let isavail ← asBool (← lookupField value selectedCourse "isPurchased")
    let dueDate ← lookupField value selectedCourse "DueDate"
    let later ← isAfter dueDate now
    return (isavail,if later then document else expire selectedCourse document)) with
  | .ok result => result
  -- The catch clause also forgets an isPurchased that was already read.
  | .error _ => (some false,document)

/-- The condition of a gate. `manual` is the answer of `checkmanual`, where the page
has one; null as a condition throws. -/
def gate (page : Page) (key : String) (manual : Option (Option Bool)) : Except Thrown Bool := do
  let activeSubscriptions ← notNull page.activeSubscriptions
  if activeSubscriptions.contains key then return true
  match manual with
  | none => return false
  | some isavail => condition isavail

/-- The inner try of the offering branch; its clause `on PlatformException` lets the
errors of null members through. -/
def choosePackage (page : Page) (key : String) : Except Thrown (Option Package) := do
  let offerings ← notNull page.offerings
  let offering ← notNull (offerings.getOffering key)
  if offering.availablePackages.isEmpty then return none
  let current ← notNull offerings.current
  return current.threeMonth

structure SubscriptionArguments where
  package : Option Package
  email : Option String

inductive Tap
  | opened
  | subscription (built : Except Thrown SubscriptionArguments)
  | problem (thrown : Thrown)

def buildArguments (page : Page) (key : String) (passesPackage : Bool) :
    Except Thrown SubscriptionArguments := do
  let user ← notNull page.userId
  if !passesPackage then return ⟨none,user.email⟩
  let offerings ← notNull page.offerings
  let offering ← notNull (offerings.getOffering key)
  return ⟨offering.threeMonth,user.email⟩

def tap (page : Page) (key : String) (manual : Option (Option Bool)) (passesPackage : Bool) : Tap :=
  match gate page key manual with
  | .error thrown => .problem thrown
  | .ok true => .opened
  | .ok false =>
    match choosePackage page key with
    | .error thrown => .problem thrown
    | .ok _ => .subscription (buildArguments page key passesPackage)

def homeTap (page : Page) (key : String) (read : Except Thrown Snapshot) : Tap :=
  tap page key (some (homeCheckmanual read key)) false

def sciencesTap (page : Page) (key : String) (read : Except Thrown Snapshot) : Tap :=
  tap page key (some (sciencesCheckmanual read key)) true

def engineerTap (page : Page) (key : String) (read : Except Thrown Snapshot) (now : Int)
    (document : Snapshot) : Tap :=
  tap page key (some (engineerCheckmanual read key now document).1) true

def phTap (page : Page) (key : String) : Tap := tap page key none true

def Tap.decision : Tap → Option Bool
  | .opened => some true
  | .subscription _ => some false
  | .problem _ => none

def Approved (document : Snapshot) (key : String) : Prop :=
  isPurchased document key = some (.boolean true)

def Unflagged (document : Snapshot) (key : String) : Prop :=
  ∃ entries, record document key = some (.map entries) ∧
    (entries.lookup "isPurchased").getD .null = .null

def Offered (offerings : Offerings) (key : String) : Prop :=
  ∃ offering, offerings.getOffering key = some offering ∧
    (offering.availablePackages = [] ∨ offerings.current ≠ none)

theorem isPurchased_of_record (document : Snapshot) (key : String) (entries : Fields)
    (found : record document key = some (.map entries)) :
    isPurchased document key = entries.lookup "isPurchased" := by
  rw [isPurchased,recordField_of_record,found]
  simp [Value.get]

theorem isPurchased_unreadable (document : Snapshot) (key : String)
    (other : ∀ entries, record document key ≠ some (.map entries)) :
    isPurchased document key = none := by
  rw [isPurchased,recordField_of_record]
  cases found : record document key with
  | none => rfl
  | some value =>
    cases value with
    | map entries => exact absurd found (other entries)
    | _ => rfl

theorem approved_of_record (document : Snapshot) (key : String) (entries : Fields)
    (found : record document key = some (.map entries)) :
    Approved document key ↔ (entries.lookup "isPurchased").getD .null = .boolean true := by
  rw [Approved,isPurchased_of_record document key entries found]
  cases entries.lookup "isPurchased" <;> simp

theorem unflagged_of_record (document : Snapshot) (key : String) (entries : Fields)
    (found : record document key = some (.map entries)) :
    Unflagged document key ↔ (entries.lookup "isPurchased").getD .null = .null := by
  constructor
  · rintro ⟨others,present,unset⟩
    rw [found] at present
    cases present
    exact unset
  · intro unset
    exact ⟨entries,found,unset⟩

theorem homeCheckmanual_cases (document : Snapshot) (key : String) :
    (Approved document key ∧ ¬ Unflagged document key ∧
      homeCheckmanual (.ok document) key = some true) ∨
    (¬ Approved document key ∧ Unflagged document key ∧
      homeCheckmanual (.ok document) key = none) ∨
    (¬ Approved document key ∧ ¬ Unflagged document key ∧
      homeCheckmanual (.ok document) key = some false) := by
  rcases lookupField_record document key with ⟨entries,found,answer⟩ | ⟨other,thrown,failed⟩
  · rw [approved_of_record document key entries found,unflagged_of_record document key entries found]
    simp only [homeCheckmanual,answer,bind,Except.bind]
    cases flag : (entries.lookup "isPurchased").getD .null with
    | null => exact Or.inr (Or.inl ⟨by simp,rfl,rfl⟩)
    | boolean truth =>
      cases truth
      · exact Or.inr (Or.inr ⟨by simp,by simp,rfl⟩)
      · exact Or.inl ⟨rfl,by simp,rfl⟩
    | _ => exact Or.inr (Or.inr ⟨by simp,by simp,rfl⟩)
  · refine Or.inr (Or.inr ⟨?_,?_,?_⟩)
    · simp [Approved,isPurchased_unreadable document key other]
    · rintro ⟨entries,found,_⟩
      exact other entries found
    · simp only [homeCheckmanual,failed,bind,Except.bind]

theorem sciencesCheckmanual_home (read : Except Thrown Snapshot) (key : String) :
    sciencesCheckmanual read key = homeCheckmanual read key := by
  cases read with
  | error thrown => rfl
  | ok document =>
    rcases lookupField_record document key with ⟨entries,_,answer⟩ | ⟨_,thrown,failed⟩
    · simp only [sciencesCheckmanual,homeCheckmanual,answer,bind,Except.bind]
      cases asBool ((entries.lookup "isPurchased").getD .null) <;> rfl
    · simp only [sciencesCheckmanual,homeCheckmanual,failed,bind,Except.bind]

theorem isAfter_cases (date : Value) (now : Int) :
    (∃ microseconds, date = .dateTime microseconds ∧
      isAfter date now = .ok (decide (now < microseconds))) ∨
    ((∀ microseconds, date ≠ .dateTime microseconds) ∧ ∃ thrown, isAfter date now = .error thrown) := by
  cases date with
  | dateTime microseconds => exact Or.inl ⟨microseconds,rfl,rfl⟩
  | _ => exact Or.inr ⟨by simp,_,rfl⟩

/-- The check gets past the comparison only for a DateTime. Otherwise the catch clause answers,
as it also does where the flag could not be read. -/
theorem engineerCheckmanual_cases (read : Except Thrown Snapshot) (key : String) (now : Int)
    (document : Snapshot) :
    (∃ value microseconds, read = .ok value ∧
      recordField value key "DueDate" = some (.dateTime microseconds) ∧
      engineerCheckmanual read key now document = (homeCheckmanual read key,
        if now < microseconds then document else expire key document)) ∨
    (engineerCheckmanual read key now document = (some false,document) ∧
      ∀ value microseconds, read = .ok value →
        recordField value key "DueDate" = some (.dateTime microseconds) →
        homeCheckmanual read key = some false) := by
  cases read with
  | error thrown => exact Or.inr ⟨rfl,fun _ _ same => by contradiction⟩
  | ok value =>
    rcases lookupField_record value key with ⟨entries,found,answer⟩ | ⟨_,thrown,failed⟩
    · have due : recordField value key "DueDate" = entries.lookup "DueDate" := by
        rw [recordField_of_record,found]
        simp [Value.get]
      simp only [engineerCheckmanual,homeCheckmanual,answer,bind,Except.bind]
      cases asBool ((entries.lookup "isPurchased").getD .null) with
      | error thrown => exact Or.inr ⟨rfl,fun _ _ _ _ => rfl⟩
      | ok isavail =>
        rcases isAfter_cases ((entries.lookup "DueDate").getD .null) now with
          ⟨microseconds,date,later⟩ | ⟨undated,thrown,failed⟩
        · refine Or.inl ⟨value,microseconds,rfl,?_,?_⟩
          · cases entry : entries.lookup "DueDate" with
            | none => simp [entry] at date
            | some stored => simpa [due,entry] using date
          · simp [later,pure,Except.pure]
        · refine Or.inr ⟨by simp [failed],?_⟩
          intro _ microseconds same date
          cases same
          rw [due] at date
          exact absurd (by rw [date]; rfl) (undated microseconds)
    · refine Or.inr ⟨?_,fun _ _ _ _ => ?_⟩ <;>
        simp only [engineerCheckmanual,homeCheckmanual,failed,bind,Except.bind]

theorem engineerCheckmanual_answer (read : Except Thrown Snapshot) (key : String) (now : Int)
    (document : Snapshot) :
    (engineerCheckmanual read key now document).1 = homeCheckmanual read key ∨
      (engineerCheckmanual read key now document).1 = some false := by
  rcases engineerCheckmanual_cases read key now document with ⟨_,_,_,_,result⟩ | ⟨result,_⟩
  · exact Or.inl (congrArg Prod.fst result)
  · exact Or.inr (congrArg Prod.fst result)

/-- No date comes back from the store with a method `isAfter`, so the comparison
throws: the page accepts no manual approval and never writes an expiry. -/
theorem engineerCheckmanual_stored (document : Snapshot) (key : String) (now : Int)
    (stored : ∀ microseconds, recordField document key "DueDate" ≠ some (.dateTime microseconds)) :
    engineerCheckmanual (.ok document) key now document = (some false,document) := by
  rcases engineerCheckmanual_cases (.ok document) key now document with
    ⟨value,microseconds,same,date,_⟩ | ⟨result,_⟩
  · cases same
    exact absurd date (stored microseconds)
  · exact result

def offer (page : Page) (key : String) : Option Bool :=
  (choosePackage page key).toOption.map fun _ => false

def manualDecision (offered : Option Bool) : Option (Option Bool) → Option Bool
  | some (some true) => some true
  | some none => none
  | _ => offered

theorem offer_not_opened (page : Page) (key : String) : offer page key ≠ some true := by
  simp [offer]

theorem choosePackage_ok (page : Page) (key : String) :
    (∃ package, choosePackage page key = .ok package) ↔
      ∃ offerings, page.offerings = some offerings ∧ Offered offerings key := by
  simp only [choosePackage,notNull,Offered,bind,Except.bind]
  cases page.offerings with
  | none => simp
  | some offerings =>
    cases found : offerings.getOffering key with
    | none => simp [found]
    | some offering =>
      by_cases empty : offering.availablePackages = [] <;>
        cases current : offerings.current <;>
        simp [found,empty,current,pure,Except.pure]

theorem offer_none (user : User) (activeSubscriptions : List String) (offerings : Offerings)
    (key : String) : offer ⟨some user,some activeSubscriptions,some offerings⟩ key = none ↔
      ¬ Offered offerings key := by
  have chosen := choosePackage_ok ⟨some user,some activeSubscriptions,some offerings⟩ key
  simp only [Option.some.injEq,exists_eq_left'] at chosen
  rw [← chosen,offer]
  cases choosePackage ⟨some user,some activeSubscriptions,some offerings⟩ key <;>
    simp [Except.toOption]

theorem tap_subscribed (page : Page) (key : String) (manual : Option (Option Bool))
    (passesPackage : Bool) (activeSubscriptions : List String)
    (held : page.activeSubscriptions = some activeSubscriptions)
    (subscribed : key ∈ activeSubscriptions) : tap page key manual passesPackage = .opened := by
  simp [tap,gate,held,notNull,subscribed,bind,Except.bind,pure,Except.pure]

theorem tap_unsubscribed (page : Page) (key : String) (manual : Option (Option Bool))
    (passesPackage : Bool) (activeSubscriptions : List String)
    (held : page.activeSubscriptions = some activeSubscriptions)
    (unsubscribed : key ∉ activeSubscriptions) :
    (tap page key manual passesPackage).decision = manualDecision (offer page key) manual := by
  have decided : gate page key manual = match manual with
      | none => .ok false
      | some isavail => condition isavail := by
    simp only [gate,held,notNull,unsubscribed,bind,Except.bind,List.contains_eq_mem]
    cases manual <;> rfl
  have offers (refused : gate page key manual = .ok false) :
      (tap page key manual passesPackage).decision = offer page key := by
    rw [tap,refused,offer]
    cases choosePackage page key <;> rfl
  rcases manual with _ | _ | _ | _
  · exact offers decided
  · simp only [tap,decided]
    rfl
  · exact offers decided
  · simp only [tap,decided]
    rfl

theorem engineerTap_returned (page : Page) (key : String) (document : Snapshot) (now : Int)
    (returned : Returned document) :
    engineerTap page key (.ok document) now document = phTap page key := by
  have answer := engineerCheckmanual_stored document key now fun microseconds =>
    returned_undated document returned ["Course",key,"DueDate"] microseconds
  have same : gate page key (some (some false)) = gate page key none := rfl
  simp only [engineerTap,phTap,answer,tap,same]

def SameDecision (page : Page) (key : String) (document : Snapshot) (now : Int) : Prop :=
  (sciencesTap page key (.ok document)).decision = (homeTap page key (.ok document)).decision ∧
  (engineerTap page key (.ok document) now document).decision =
    (homeTap page key (.ok document)).decision ∧
  (phTap page key).decision = (homeTap page key (.ok document)).decision

theorem sameDecision_iff (user : User) (activeSubscriptions : List String) (offerings : Offerings)
    (key : String) (document : Snapshot) (now : Int) :
    SameDecision ⟨some user,some activeSubscriptions,some offerings⟩ key document now ↔
      key ∈ activeSubscriptions ∨ (¬ Approved document key ∧
        (Unflagged document key → ¬ Offered offerings key)) := by
  let page : Page := ⟨some user,some activeSubscriptions,some offerings⟩
  change SameDecision page key document now ↔ _
  by_cases subscribed : key ∈ activeSubscriptions
  · have opens := fun manual passesPackage =>
      tap_subscribed page key manual passesPackage activeSubscriptions rfl subscribed
    simp [SameDecision,homeTap,sciencesTap,engineerTap,phTap,opens,subscribed]
  · have decisions := fun manual passesPackage =>
      tap_unsubscribed page key manual passesPackage activeSubscriptions rfl subscribed
    have unoffered : offer page key = none ↔ ¬ Offered offerings key :=
      offer_none user activeSubscriptions offerings key
    have impossible := offer_not_opened page key
    simp only [SameDecision,homeTap,sciencesTap,engineerTap,phTap,sciencesCheckmanual_home,
      decisions,subscribed,false_or]
    rcases homeCheckmanual_cases document key with
      ⟨approved,_,home⟩ | ⟨refused,unflagged,home⟩ | ⟨refused,flagged,home⟩
    -- An approval opens the course where it is read, and CoursesPh does not read it.
    · simp [home,approved,manualDecision,impossible]
    -- A null flag stops the tap, where the expiry check does not replace it by false.
    · rcases engineerCheckmanual_answer (.ok document) key now document with answer | answer <;>
        simp [answer,home,refused,unflagged,manualDecision,unoffered]
    · rcases engineerCheckmanual_answer (.ok document) key now document with answer | answer <;>
        simp [answer,home,refused,flagged,manualDecision]

/-- An approved course whose DueDate is a date as the store returns it: HomeScreen
opens it, CoursesEngineer and CoursesPh offer the SubscriptionPage. -/
theorem approval_differs : ∃ user activeSubscriptions offerings document,
    let page : Page := ⟨some user,some activeSubscriptions,some offerings⟩
    recordField document "statics" "DueDate" = some (.timestamp 1893456000 0) ∧
    (homeTap page "statics" (.ok document)).decision = some true ∧
    (engineerTap page "statics" (.ok document) 1600000000000000 document).decision = some false ∧
    (phTap page "statics").decision = some false ∧
    ¬ SameDecision page "statics" document 1600000000000000 := by
  let package : Package := ⟨"threemonth"⟩
  let offering : Offering := ⟨[package],some package⟩
  let document : Snapshot := some [("Course",.map [("statics",.map [("isPurchased",.boolean true),
    ("StartDate",.timestamp 1577836800 0),("DueDate",.timestamp 1893456000 0)])])]
  refine ⟨⟨"uid",some "student@mail.com"⟩,[],⟨some offering,[("statics",offering)]⟩,document,
    rfl,rfl,rfl,rfl,?_⟩
  intro same
  have equal : some false = some true := same.2.2
  contradiction

end VisionsAcademy.CourseGates
