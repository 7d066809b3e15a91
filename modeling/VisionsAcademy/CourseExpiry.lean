import VisionsAcademy.Library.Runs
import VisionsAcademy.CourseGates
import VisionsAcademy.RequestInterleaving

/-! The expiry of manual approvals, which only the check of CoursesEngineer writes,
and the life cycle of a record: requested, approved, expired, requested again. -/
namespace VisionsAcademy.CourseExpiry
open DocumentStore DartDynamic ManualPayment SubscriptionPage
open CourseGates

def moment : Value → Option Int
  | .dateTime microseconds => some (microseconds * 1000)
  | .timestamp seconds nanoseconds => some (seconds * 1000000000 + nanoseconds)
  | _ => none

def dueMoment (document : Snapshot) (course : String) : Option Int :=
  (recordField document course "DueDate").bind moment

def Unchanged (path : Path) (before after : Snapshot) : Prop :=
  ∀ other, Apart path other → after.bind (valueAt other) = before.bind (valueAt other)

def purchasedPath (course : String) : Path := ["Course",course,"isPurchased"]

theorem expiryData_leaves (course : String) :
    fieldLeaves (expiryData course) = [(purchasedPath course,.boolean false)] := by
  simp [expiryData,fieldLeaves,leaves,purchasedPath]

theorem expire_eq (course : String) (document : Snapshot) :
    expire course document = if validatePathSegment course.toList then
      some (assignAt (purchasedPath course) (.boolean false) (document.getD [])) else document := by
  have course_name : validatePathSegment "Course".toList = true := by decide
  have flag_name : validatePathSegment "isPurchased".toList = true := by decide
  have names : validateFields (expiryData course) = validatePathSegment course.toList := by
    simp only [expiryData,validateFields,validate,course_name,flag_name,Bool.and_true,Bool.true_and]
  rw [expire,setMerge,names,merge,expiryData_leaves,assignMany_cons,assignMany_nil]
  split <;> rfl

theorem expire_purchased (course : String) (document : Snapshot)
    (valid : validatePathSegment course.toList = true) :
    isPurchased (expire course document) course = some (.boolean false) := by
  rw [expire_eq,if_pos valid]
  exact valueAt_assignAt _ _ _ _

theorem expire_unchanged (course : String) (document : Snapshot) (other : Path)
    (apart : Apart (purchasedPath course) other) :
    (expire course document).bind (valueAt other) = document.bind (valueAt other) := by
  rw [expire_eq]
  split
  · rw [Option.bind_some,valueAt_assignAt_apart _ _ _ _ apart]
    cases document with
    | none =>
      cases other with
      | nil => exact absurd List.nil_prefix apart.2
      | cons key rest => rfl
    | some fields => rfl
  · rfl

theorem homeCheckmanual_approved (document : Snapshot) (course : String) :
    homeCheckmanual (.ok document) course = some true ↔ Approved document course := by
  rcases homeCheckmanual_cases document course with
    ⟨approved,_,home⟩ | ⟨refused,_,home⟩ | ⟨refused,_,home⟩
  · exact iff_of_true home approved
  · exact iff_of_false (by simp [home]) refused
  · exact iff_of_false (by simp [home]) refused

theorem engineerCheckmanual_dated (document : Snapshot) (course : String) (now microseconds : Int)
    (dated : recordField document course "DueDate" = some (.dateTime microseconds)) :
    (engineerCheckmanual (.ok document) course now document).1 =
      homeCheckmanual (.ok document) course := by
  rcases engineerCheckmanual_cases (.ok document) course now document with
    ⟨_,_,_,_,result⟩ | ⟨result,refused⟩
  · rw [result]
  · rw [result,refused document microseconds rfl dated]

/-- What `checkmanual` is for: true for an approval that has not run out, and an
approval that has run out is withdrawn, with nothing else touched. -/
def Meets (document : Snapshot) (course : String) (now : Int) : Prop :=
  let result := engineerCheckmanual (.ok document) course now document
  (result.1 = some true ↔ Approved document course ∧
    ∃ due, dueMoment document course = some due ∧ now * 1000 < due) ∧
  (Approved document course → ∀ due, dueMoment document course = some due → due ≤ now * 1000 →
    isPurchased result.2 course = some (.boolean false) ∧
      Unchanged (purchasedPath course) document result.2)

def IsTimestamp (value : Option Value) : Prop :=
  ∃ seconds nanoseconds, value = some (.timestamp seconds nanoseconds)

def Passed (value : Option Value) (now : Int) : Prop :=
  ∃ microseconds, value = some (.dateTime microseconds) ∧ microseconds ≤ now

theorem meets_dated (document : Snapshot) (course : String) (now microseconds : Int)
    (dated : recordField document course "DueDate" = some (.dateTime microseconds)) :
    Meets document course now ↔ ¬ (Approved document course ∧ microseconds ≤ now) := by
  have answer := engineerCheckmanual_dated document course now microseconds dated
  have due : dueMoment document course = some (microseconds * 1000) := by
    rw [dueMoment,dated]
    rfl
  rw [Meets,answer,homeCheckmanual_approved,due]
  constructor
  · rintro ⟨opens,_⟩ ⟨approved,passed⟩
    obtain ⟨_,found,later⟩ := (opens.mp approved).2
    cases found
    omega
  · intro sound
    have later (approved : Approved document course) : now < microseconds := by
      by_contra passed
      exact sound ⟨approved,by omega⟩
    refine ⟨⟨fun approved => ⟨approved,_,rfl,?_⟩,And.left⟩,?_⟩
    · have := later approved
      omega
    · intro approved _ found passed
      cases found
      have := later approved
      omega

theorem meets_undated (document : Snapshot) (course : String) (now : Int)
    (undated : ∀ microseconds, recordField document course "DueDate" ≠ some (.dateTime microseconds)) :
    Meets document course now ↔
      ¬ (Approved document course ∧ IsTimestamp (recordField document course "DueDate")) := by
  have answer := engineerCheckmanual_stored document course now undated
  rw [Meets,answer]
  constructor
  · rintro ⟨opens,expires⟩ ⟨approved,seconds,nanoseconds,date⟩
    have due : dueMoment document course = some (seconds * 1000000000 + nanoseconds) := by
      rw [dueMoment,date]
      rfl
    by_cases later : now * 1000 < seconds * 1000000000 + nanoseconds
    · have opened := opens.mpr ⟨approved,_,due,later⟩
      simp at opened
    · have withdrawn := (expires approved _ due (by omega)).1
      rw [approved] at withdrawn
      simp at withdrawn
  · intro sound
    have undue (approved : Approved document course) : dueMoment document course = none := by
      rw [dueMoment]
      cases date : recordField document course "DueDate" with
      | none => rfl
      | some value =>
        cases value with
        | dateTime microseconds => exact absurd date (undated microseconds)
        | timestamp seconds nanoseconds => exact absurd ⟨approved,_,_,date⟩ sound
        | _ => rfl
    constructor
    · refine iff_of_false (by simp) ?_
      rintro ⟨approved,due,found,_⟩
      simp [undue approved] at found
    · intro approved due found
      simp [undue approved] at found

theorem meets_iff (document : Snapshot) (course : String) (now : Int) :
    Meets document course now ↔ ¬ (Approved document course ∧
      (IsTimestamp (recordField document course "DueDate") ∨
        Passed (recordField document course "DueDate") now)) := by
  by_cases dated : ∃ microseconds, recordField document course "DueDate" =
      some (.dateTime microseconds)
  · obtain ⟨microseconds,date⟩ := dated
    rw [meets_dated document course now microseconds date]
    simp [date,IsTimestamp,Passed]
  · have undated : ∀ microseconds, recordField document course "DueDate" ≠
        some (.dateTime microseconds) := fun microseconds date => dated ⟨microseconds,date⟩
    rw [meets_undated document course now undated]
    simp [Passed,undated]

theorem approval_misjudged : ∃ future past,
    recordField future "statics" "DueDate" = some (.timestamp 1893456000 0) ∧
    (engineerCheckmanual (.ok future) "statics" 1600000000000000 future).1 = some false ∧
    ¬ Meets future "statics" 1600000000000000 ∧
    recordField past "statics" "DueDate" = some (.dateTime 1500000000000000) ∧
    (engineerCheckmanual (.ok past) "statics" 1600000000000000 past).1 = some true ∧
    ¬ Meets past "statics" 1600000000000000 := by
  let approved (due : Value) : Snapshot := some [("Course",.map [("statics",
    .map [("isPurchased",.boolean true),("StartDate",.timestamp 1400000000 0),("DueDate",due)])])]
  refine ⟨approved (.timestamp 1893456000 0),approved (.dateTime 1500000000000000),
    rfl,rfl,?_,rfl,rfl,?_⟩
  · intro meets
    have opened : some false = some true := meets.1.mpr ⟨rfl,_,rfl,by decide⟩
    contradiction
  · intro meets
    obtain ⟨_,found,later⟩ := (meets.1.mp rfl).2
    cases found
    contradiction

/-! The life cycle over runs: presses with any answers of the back end, approvals by an
admin, and checks, whose read and whose write may fail. -/

inductive Label
  | press (request : Request) (time : String) (firstRead secondRead write : Bool)
  | approve (course : String) (startDate dueDate : Value)
  | check (course : String) (now : Int) (answered accepted : Bool)

def perform (uid : String) (document : Snapshot) : Label → Snapshot
  | .press request time firstRead secondRead write =>
    (onPressed (some uid) request time firstRead secondRead write document).1
  | .approve course startDate dueDate =>
    let dates := [("StartDate",startDate),("DueDate",dueDate)]
    some (assignMany (RequestInterleaving.approval course dates) (document.getD []))
  | .check course now answered accepted =>
    let read := if answered then .ok document else .error .firebaseException
    let checked := (engineerCheckmanual read course now document).2
    if accepted then checked else document

def performAll (uid : String) (document : Snapshot) (labels : List Label) : Snapshot :=
  labels.foldl (perform uid) document

/-- Steps that write no pending record at or in the record of a course: a dotted identifier
is a path of `update` and may lead there. -/
def Elsewhere (course : String) : Label → Prop
  | .press request _ _ _ write => write = true → request.selectedCourse ≠ course ∧
      ∀ path, fieldPath request.selectedCourse = some path → path.head? ≠ some course
  | .approve _ _ _ | .check _ _ _ _ => True

def Fresh (document : Snapshot) (course time : String) : Prop :=
  isPurchased document course = some (.boolean false) ∧
  recordField document course "StartDate" = some .null ∧
  recordField document course "DueDate" = some .null ∧
  document.bind (valueAt ["time"]) = some (.string time)

theorem check_effect (read : Except Thrown Snapshot) (course : String) (now : Int)
    (document : Snapshot) : (engineerCheckmanual read course now document).2 = document ∨
      (engineerCheckmanual read course now document).2 = expire course document := by
  rcases engineerCheckmanual_cases read course now document with
    ⟨_,microseconds,_,_,result⟩ | ⟨result,_⟩
  · rw [result]
    by_cases later : now < microseconds
    · exact Or.inl (if_pos later)
    · exact Or.inr (if_neg later)
  · exact Or.inl (congrArg Prod.snd result)

theorem approve_record (uid : String) (document : Snapshot) (other course : String)
    (startDate dueDate : Value) (different : other ≠ course) :
    record (perform uid document (.approve other startDate dueDate)) course =
      record document course := by
  have frame : valueAt ["Course",course] (assignMany (RequestInterleaving.approval other
      [("StartDate",startDate),("DueDate",dueDate)]) (document.getD [])) =
      valueAt ["Course",course] (document.getD []) := by
    apply valueAt_assignMany_apart
    intro write member
    simp only [RequestInterleaving.approval,List.map_cons,List.map_nil,List.mem_cons,
      List.not_mem_nil,or_false] at member
    rcases member with rfl | rfl | rfl <;> exact apart_records _ _ _ different
  cases document <;> exact frame

end VisionsAcademy.CourseExpiry
