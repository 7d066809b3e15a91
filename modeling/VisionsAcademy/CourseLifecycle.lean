import VisionsAcademy.Library.Refinement
import VisionsAcademy.CourseAccess

/-! What a ManualPayment document is about: for each course an entry of its own, which
requests, approvals and expiry checks move from state to state. The stored document, a
tree of maps written at field paths, refines this. -/
namespace VisionsAcademy.CourseLifecycle
open DocumentStore DartDynamic ManualPayment SubscriptionPage
open CourseGates CourseExpiry CourseAccess

structure Entry where
  isPurchased : Option Value
  startDate : Option Value
  dueDate : Option Value

/-- `known` tells whether there is a document at all. -/
structure Courses where
  known : Bool
  entry : String → Entry

def Entry.requested : Entry := ⟨some (.boolean false),some .null,some .null⟩

def Entry.approved (startDate dueDate : Value) : Entry :=
  ⟨some (.boolean true),some startDate,some dueDate⟩

def Entry.withdrawn (entry : Entry) : Entry := {entry with isPurchased := some (.boolean false)}

/-- Only a DateTime passes, whatever the flag, as long as it can be read. -/
def Entry.expired (entry : Entry) (now : Int) : Bool :=
  match asBool (entry.isPurchased.getD .null),entry.dueDate with
  | .ok _,some (.dateTime microseconds) => decide (microseconds ≤ now)
  | _,_ => false

def expires (course : String) (entry : Entry) (now : Int) : Bool :=
  validatePathSegment course.toList && entry.expired now

/-- The first read sends a press to addnewUser where it fails or finds no document; behind
the second read the press asks again unless its course is waiting. -/
def Courses.asks (courses : Courses) (course : String) (firstRead secondRead : Bool) : Bool :=
  !firstRead || !courses.known ||
    (secondRead && ((courses.entry course).isPurchased.map text).getD "null" ≠ "false")

def Courses.put (courses : Courses) (course : String) (entry : Entry) : Courses :=
  ⟨true,Function.update courses.entry course entry⟩

def act (courses : Courses) : Label → Courses
  | .press request _ firstRead secondRead write =>
    if courses.asks request.selectedCourse firstRead secondRead && write then
      courses.put request.selectedCourse .requested
    else courses
  | .approve course startDate dueDate =>
    courses.put course (.approved (toStore startDate) (toStore dueDate))
  | .check course now answered accepted =>
    if answered && accepted && expires course (courses.entry course) now then
      courses.put course (courses.entry course).withdrawn
    else courses

def entry (document : Snapshot) (course : String) : Entry :=
  ⟨isPurchased document course,recordField document course "StartDate",
    recordField document course "DueDate"⟩

def courses (document : Snapshot) : Courses := ⟨document.isSome,entry document⟩

def Named : Label → Prop
  | .press request _ _ _ _ => Plain request.selectedCourse
  | _ => True

instance (label : Label) : Decidable (Named label) :=
  match label with
  | .press request _ _ _ _ => inferInstanceAs (Decidable (Plain request.selectedCourse))
  | .approve _ _ _ | .check _ _ _ _ => isTrue trivial

theorem entry_congr (first second : Snapshot) (course : String)
    (same : record first course = record second course) : entry first course = entry second course := by
  have field := recordField_congr first second course
  rw [entry,entry,isPurchased,isPurchased,field "isPurchased" same,field "StartDate" same,
    field "DueDate" same]

theorem courses_put (before : Snapshot) (fields : Fields) (course : String) (new : Entry)
    (written : entry (some fields) course = new)
    (frame : ∀ other, other ≠ course → record (some fields) other = record before other) :
    courses (some fields) = (courses before).put course new := by
  rw [courses,Courses.put,Option.isSome_some]
  congr 1
  funext other
  by_cases same : other = course
  · subst same
    rw [Function.update_self,written]
  · rw [Function.update_of_ne same]
    exact entry_congr _ _ _ (frame other same)

theorem merge_put (u_id : Option String) (request : Request) (time : String) (document : Snapshot) :
    courses (some (merge (addnewUserData u_id request time) document)) =
      (courses document).put request.selectedCourse .requested := by
  have leaf := merge_leaf u_id request time document
  apply courses_put
  · have flag := leaf (["Course",request.selectedCourse,"isPurchased"],.boolean false)
      (by simp [recordLeaves])
    have start := leaf (["Course",request.selectedCourse,"StartDate"],.null) (by simp [recordLeaves])
    have due := leaf (["Course",request.selectedCourse,"DueDate"],.null) (by simp [recordLeaves])
    exact congr (congrArg₂ Entry.mk flag start) due
  · exact fun other different => merge_other u_id request time document other different

theorem update_put (u_id : Option String) (request : Request) (time : String) (fields : Fields) :
    courses (some (assignMany ((["Course",request.selectedCourse],pendingRecord)::
      stamp u_id request time) fields)) =
      (courses (some fields)).put request.selectedCourse .requested := by
  apply courses_put
  · simp only [entry,isPurchased,recordField_of_record,update_record]
    rfl
  · exact fun other different => update_other u_id request time fields other different

theorem press_courses (uid : String) (request : Request) (time : String)
    (firstRead secondRead write : Bool) (document : Snapshot) (plain : Plain request.selectedCourse) :
    courses (perform uid document (.press request time firstRead secondRead write)) =
      act (courses document) (.press request time firstRead secondRead write) := by
  have already : isrequestAlready document request.selectedCourse =
      (((courses document).entry request.selectedCourse).isPurchased.map text).getD "null" :=
    isrequestAlready_eq document request.selectedCourse
  rw [perform,onPressed_eq,act,Courses.asks,← already]
  by_cases first : firstRead = false ∨ document = none
  · have asks : (!firstRead || !(courses document).known) = true := by
      rcases first with rfl | rfl <;> simp [courses]
    rw [if_pos first,asks,Bool.true_or,Bool.true_and]
    cases write with
    | false => rfl
    | true =>
      simp only [advance,addnewUser_merge (some uid) request time document plain.1,if_true]
      exact merge_put (some uid) request time document
  · obtain ⟨read,present⟩ := not_or.mp first
    obtain ⟨fields,rfl⟩ := Option.ne_none_iff_exists'.mp present
    obtain rfl : firstRead = true := by simpa using read
    have known : (courses (some fields)).known = true := rfl
    rw [if_neg first,known,Bool.not_true,Bool.false_or,Bool.false_or]
    cases secondRead with
    | false => rfl
    | true =>
      by_cases asked : isrequestAlready (some fields) request.selectedCourse = "false"
      · simp [advance,asked]
      · have written := update_document (some uid) request time fields _ (fieldPath_plain _ plain)
        cases write with
        | false => simp [advance,asked]
        | true =>
          simp only [advance,asked,written,ne_eq,not_false_eq_true,if_true,decide_true,Bool.and_true,
            reduceCtorEq,if_false]
          exact update_put (some uid) request time fields

theorem approve_courses (uid : String) (document : Snapshot) (course : String)
    (startDate dueDate : Value) :
    courses (perform uid document (.approve course startDate dueDate)) =
      act (courses document) (.approve course startDate dueDate) := by
  have apart : (RequestInterleaving.approval course
      [("StartDate",startDate),("DueDate",dueDate)]).Pairwise
        fun first second => Apart first.1 second.1 := by
    simp [RequestInterleaving.approval,Apart,List.cons_prefix_cons]
  have leaf (write : Path × Value) (member : write ∈ RequestInterleaving.approval course
      [("StartDate",startDate),("DueDate",dueDate)]) (proper : write.1 ≠ []) :=
    valueAt_assignMany _ (document.getD []) apart write member proper
  apply courses_put
  · have flag := leaf (["Course",course,"isPurchased"],.boolean true)
      (by simp [RequestInterleaving.approval]) (by simp)
    have start := leaf (["Course",course,"StartDate"],toStore startDate)
      (by simp [RequestInterleaving.approval]) (by simp)
    have due := leaf (["Course",course,"DueDate"],toStore dueDate)
      (by simp [RequestInterleaving.approval]) (by simp)
    exact congr (congrArg₂ Entry.mk flag start) due
  · exact fun other different =>
      approve_record uid document course other startDate dueDate different.symm

theorem check_document (document : Snapshot) (course : String) (now : Int) :
    (engineerCheckmanual (.ok document) course now document).2 =
      if (entry document course).expired now then expire course document else document := by
  rcases lookupField_record document course with ⟨entries,found,answer⟩ | ⟨other,thrown,failed⟩
  · have field (name : String) : recordField document course name = entries.lookup name := by
      rw [recordField_of_record,found]
      simp [Value.get]
    simp only [engineerCheckmanual,answer,bind,Except.bind,Entry.expired,entry,isPurchased,field]
    cases asBool ((entries.lookup "isPurchased").getD .null) with
    | error thrown => rfl
    | ok isavail =>
      cases entries.lookup "DueDate" with
      | none => rfl
      | some date =>
        cases date with
        | dateTime microseconds =>
          by_cases later : now < microseconds
          · simp [isAfter,later,pure,Except.pure]
          · simp [isAfter,later,Int.not_lt.mp later,pure,Except.pure]
        | _ => rfl
  · have undated : (entry document course).dueDate = none := by
      change recordField document course "DueDate" = none
      rw [recordField_of_record]
      cases found : record document course with
      | none => rfl
      | some value =>
        cases value with
        | map entries => exact absurd found (other entries)
        | _ => rfl
    have kept : (entry document course).expired now = false := by
      rw [Entry.expired,undated]
      split <;> simp_all
    rw [kept]
    simp only [engineerCheckmanual,failed,bind,Except.bind]
    rfl

theorem expire_put (fields : Fields) (course : String)
    (valid : validatePathSegment course.toList = true) :
    courses (expire course (some fields)) =
      (courses (some fields)).put course (entry (some fields) course).withdrawn := by
  have kept := expire_unchanged course (some fields)
  have written := expire_eq course (some fields)
  rw [if_pos valid] at written
  have flag := expire_purchased course (some fields) valid
  rw [written] at kept flag ⊢
  apply courses_put
  · have start := kept ["Course",course,"StartDate"] (by simp [purchasedPath,Apart,List.cons_prefix_cons])
    have due := kept ["Course",course,"DueDate"] (by simp [purchasedPath,Apart,List.cons_prefix_cons])
    exact congr (congrArg₂ Entry.mk flag start) due
  · exact fun other different => kept ["Course",other] (apart_records _ _ _ different.symm)

theorem check_courses (uid : String) (document : Snapshot) (course : String) (now : Int)
    (answered accepted : Bool) :
    courses (perform uid document (.check course now answered accepted)) =
      act (courses document) (.check course now answered accepted) := by
  cases answered with
  | false => cases accepted <;> rfl
  | true =>
    cases accepted with
    | false => rfl
    | true =>
      simp only [perform,act,if_true,Bool.true_and,check_document,expires]
      cases valid : validatePathSegment course.toList with
      | false =>
        have kept : expire course document = document := by
          rw [expire_eq,valid]
          rfl
        rw [kept,ite_self]
        rfl
      | true =>
        cases expired : (entry document course).expired now with
        | false => simp [courses,expired]
        | true =>
          simp only [courses,expired,Bool.and_self,if_true]
          cases document with
          | none => simp [entry,recordField,Entry.expired] at expired
          | some fields => exact expire_put fields course valid

theorem perform_courses (uid : String) (document : Snapshot) (label : Label) (named : Named label) :
    courses (perform uid document label) = act (courses document) label := by
  cases label with
  | press request time firstRead secondRead write =>
    exact press_courses uid request time firstRead secondRead write document named
  | approve course startDate dueDate => exact approve_courses uid document course startDate dueDate
  | check course now answered accepted => exact check_courses uid document course now answered accepted

/-- Over any run of requests, approvals and checks, with any of their calls failing, the document
is a refinement of its course entries. -/
theorem runs_refine (uid : String) (document : Snapshot) (labels : List Label)
    (named : ∀ label ∈ labels, Named label) :
    courses (performAll uid document labels) = labels.foldl act (courses document) :=
  Refinement.fold_view (perform uid) act courses Named (perform_courses uid) document labels named

theorem runs_refine_example :
    let labels : List Label := [.press ⟨"statics",none⟩ "t1" true true true,
      .approve "statics" (.dateTime 1000000) (.timestamp 9 0),.check "statics" 10000000 true true,
      .press ⟨"moodle",none⟩ "t2" true true true,.press ⟨"statics",none⟩ "t3" true true false]
    entry (performAll "u1" none labels) "statics" =
        ⟨some (.boolean true),some (.timestamp 1 0),some (.timestamp 9 0)⟩ ∧
      entry (performAll "u1" none labels) "moodle" = Entry.requested := by
  intro labels
  have refined := runs_refine "u1" none labels (by decide)
  exact ⟨congrArg (fun courses => courses.entry "statics") refined,
    congrArg (fun courses => courses.entry "moodle") refined⟩

def subject : Label → String
  | .press request _ _ _ _ => request.selectedCourse
  | .approve course _ _ | .check course _ _ _ => course

theorem act_known (courses : Courses) (label : Label) (known : courses.known = true) :
    (act courses label).known = true := by
  cases label with
  | press | check =>
    simp only [act]
    split
    · rfl
    · exact known
  | approve => rfl

@[simp] theorem put_entry_self (courses : Courses) (course : String) (new : Entry) :
    (courses.put course new).entry course = new :=
  Function.update_self ..

theorem put_entry_other (courses : Courses) (course other : String) (new : Entry)
    (different : other ≠ course) : (courses.put course new).entry other = courses.entry other :=
  Function.update_of_ne different ..

theorem act_entry (courses : Courses) (label : Label) (other : String) (away : subject label ≠ other) :
    (act courses label).entry other = courses.entry other := by
  cases label with
  | press | check =>
    simp only [act]
    split
    · exact put_entry_other _ _ _ _ (Ne.symm away)
    · rfl
  | approve => exact put_entry_other _ _ _ _ (Ne.symm away)

theorem act_respects (first second : Courses) (label : Label) (course : String)
    (one : first.known = true) (other : second.known = true)
    (same : first.entry course = second.entry course) :
    (act first label).entry course = (act second label).entry course := by
  by_cases own : subject label = course
  · subst own
    cases label with
    | press request time firstRead secondRead write =>
      have asks : first.asks request.selectedCourse firstRead secondRead =
          second.asks request.selectedCourse firstRead secondRead := by
        simp only [subject] at same
        rw [Courses.asks,Courses.asks,one,other,same]
      simp only [act,asks]
      split
      · simp [subject]
      · exact same
    | approve => simp [act,subject]
    | check course now answered accepted =>
      simp only [subject] at same
      simp only [act,same]
      split
      · simp [subject]
      · exact same
  · rw [act_entry first label course own,act_entry second label course own,same]

theorem courses_independent (uid : String) (fields : Fields) (labels : List Label) (course : String)
    (named : ∀ label ∈ labels, Named label) :
    entry (performAll uid (some fields) labels) course =
      entry (performAll uid (some fields) (labels.filter fun label => subject label = course)) course := by
  have whole := Refinement.fold_view (perform uid) act courses Named (perform_courses uid)
    (some fields) labels named
  have part := Refinement.fold_view (perform uid) act courses Named (perform_courses uid)
    (some fields) (labels.filter fun label => subject label = course)
    fun label member => named label (List.mem_of_mem_filter member)
  change (courses (performAll uid (some fields) labels)).entry course =
    (courses (performAll uid (some fields) (labels.filter _))).entry course
  rw [performAll,performAll,whole,part]
  apply Refinement.fold_filter act (fun courses => courses.entry course)
    (fun courses => courses.known = true)
  · exact act_known
  · exact fun first second label => act_respects first second label course
  · intro courses label _ away
    exact act_entry courses label course (by simpa using away)
  · rfl
  · rfl
  · rfl

theorem courses_independent_example :
    let fields : Fields := [("Course",.map [("moodle",.map [("isPurchased",.boolean true),
      ("StartDate",.timestamp 1 0),("DueDate",.timestamp 9 0)])]),("Email",.string "a@b.c")]
    let labels : List Label := [.press ⟨"statics",some "a@b.c"⟩ "t1" true true true,
      .press ⟨"moodle",some "a@b.c"⟩ "t2" true true true,
      .approve "statics" (.timestamp 20 0) (.timestamp 30 0),.check "statics" 40000000 true true]
    entry (performAll "u1" (some fields) labels) "moodle" = entry (performAll "u1" (some fields)
      [.press ⟨"moodle",some "a@b.c"⟩ "t2" true true true]) "moodle" := by
  intro fields labels
  exact courses_independent "u1" fields labels "moodle" (by decide)

/-! How long an approval lasts. -/

def Courses.granted (courses : Courses) (course : String) : Prop :=
  (courses.entry course).isPurchased = some (.boolean true)

/-- A press for the course that goes through asks for it anew; a check that finds a DateTime passed
withdraws it. -/
def Ends (course : String) (dueDate : Option Value) : Label → Prop
  | .press request _ firstRead secondRead write => request.selectedCourse = course ∧
      (firstRead = false ∨ secondRead = true) ∧ write = true
  | .approve _ _ _ => False
  | .check other now answered accepted => other = course ∧ answered = true ∧ accepted = true ∧
      validatePathSegment course.toList = true ∧ ∃ microseconds, dueDate = some (.dateTime microseconds) ∧ microseconds ≤ now

def Approves (course : String) : Label → Prop
  | .approve other _ _ => other = course
  | _ => False

theorem asks_granted (courses : Courses) (course : String) (firstRead secondRead : Bool)
    (known : courses.known = true) (granted : courses.granted course) :
    courses.asks course firstRead secondRead = (!firstRead || secondRead) := by
  rw [Courses.granted] at granted
  simp [Courses.asks,known,granted]

theorem expired_granted (courses : Courses) (course : String) (now : Int)
    (granted : courses.granted course) : (courses.entry course).expired now = true ↔
      ∃ microseconds, (courses.entry course).dueDate = some (.dateTime microseconds) ∧
        microseconds ≤ now := by
  rw [Courses.granted] at granted
  rw [Entry.expired,granted]
  cases date : (courses.entry course).dueDate with
  | none => simp [asBool]
  | some value => cases value <;> simp [asBool]

theorem put_granted (courses after : Courses) (course : String) (new : Entry) (moves : Bool)
    (refused : new.isPurchased = some (.boolean false))
    (moved : after = if moves then courses.put course new else courses) :
    (after.granted course ↔ courses.granted course ∧ moves = false) ∧
      (after.granted course → after.entry course = courses.entry course) := by
  subst moved
  cases moves with
  | false => simp
  | true =>
    have withdrawn : ¬(courses.put course new).granted course := by
      simp [Courses.granted,refused]
    exact ⟨iff_of_false withdrawn (by simp),fun granted => absurd granted withdrawn⟩

theorem act_granted (courses : Courses) (label : Label) (course : String)
    (known : courses.known = true) (passive : ¬Approves course label) :
    ((act courses label).granted course ↔
      courses.granted course ∧ ¬Ends course (courses.entry course).dueDate label) ∧
    ((act courses label).granted course → (act courses label).entry course = courses.entry course) := by
  by_cases own : subject label = course
  · have exactly (new : Entry) (moves : Bool) (refused : new.isPurchased = some (.boolean false))
        (moved : act courses label = if moves then courses.put course new else courses)
        (ends : courses.granted course →
          (moves = true ↔ Ends course (courses.entry course).dueDate label)) :
        ((act courses label).granted course ↔
          courses.granted course ∧ ¬Ends course (courses.entry course).dueDate label) ∧
        ((act courses label).granted course →
          (act courses label).entry course = courses.entry course) := by
      obtain ⟨kept,same⟩ := put_granted courses _ course new moves refused moved
      refine ⟨kept.trans (and_congr_right fun granted => ?_),same⟩
      rw [← ends granted,Bool.not_eq_true]
    subst own
    cases label with
    | approve => exact absurd rfl passive
    | press request time firstRead secondRead write =>
      apply exactly .requested _ rfl rfl
      intro granted
      have asks := asks_granted courses request.selectedCourse firstRead secondRead known granted
      rw [asks]
      simp [Ends,subject]
    | check course now answered accepted =>
      apply exactly (courses.entry course).withdrawn _ rfl rfl
      intro granted
      simp only [Bool.and_eq_true,expires,expired_granted courses course now granted]
      simp [Ends,subject,and_assoc]
  · have same := act_entry courses label course own
    have quiet : ¬Ends course (courses.entry course).dueDate label := by
      cases label with
      | press | check => exact fun ends => own ends.1
      | approve => exact id
    rw [Courses.granted,same]
    exact ⟨(and_iff_left quiet).symm,fun _ => rfl⟩

theorem acts_granted (courses : Courses) (labels : List Label) (course : String)
    (known : courses.known = true) (passive : ∀ label ∈ labels, ¬Approves course label) :
    ((labels.foldl act courses).granted course ↔ courses.granted course ∧
      ∀ label ∈ labels, ¬Ends course (courses.entry course).dueDate label) ∧
    ((labels.foldl act courses).granted course →
      (labels.foldl act courses).entry course = courses.entry course) := by
  induction labels generalizing courses with
  | nil => simp
  | cons label rest ih =>
    obtain ⟨kept,same⟩ := act_granted courses label course known (passive label List.mem_cons_self)
    obtain ⟨later,lasts⟩ := ih (act courses label) (act_known courses label known)
      fun other member => passive other (List.mem_cons_of_mem _ member)
    rw [List.foldl_cons,List.forall_mem_cons]
    refine ⟨?_,fun granted => (lasts granted).trans (same (later.mp granted).1)⟩
    rw [later]
    constructor
    · rintro ⟨granted,lasting⟩
      obtain ⟨before,here⟩ := kept.mp granted
      rw [same granted] at lasting
      exact ⟨before,here,lasting⟩
    · rintro ⟨before,here,lasting⟩
      have granted := kept.mpr ⟨before,here⟩
      rw [← same granted] at lasting
      exact ⟨granted,lasting⟩

theorem performAll_approved (uid : String) (fields : Fields) (labels : List Label) (course : String)
    (named : ∀ label ∈ labels, Named label) (passive : ∀ label ∈ labels, ¬Approves course label) :
    (Approved (performAll uid (some fields) labels) course ↔ Approved (some fields) course ∧
      ∀ label ∈ labels, ¬Ends course (recordField (some fields) course "DueDate") label) ∧
    (Approved (performAll uid (some fields) labels) course →
      recordField (performAll uid (some fields) labels) course "DueDate" =
        recordField (some fields) course "DueDate") := by
  have refined := Refinement.fold_view (perform uid) act courses Named (perform_courses uid)
    (some fields) labels named
  have granted := acts_granted (courses (some fields)) labels course rfl passive
  rw [← refined] at granted
  exact ⟨granted.1,fun approved => congrArg Entry.dueDate (granted.2 approved)⟩

theorem approval_lasts (uid : String) (fields : Fields) (labels : List Label) (course : String)
    (named : ∀ label ∈ labels, Named label) (passive : ∀ label ∈ labels, ¬Approves course label) :
    Approved (performAll uid (some fields) labels) course ↔ Approved (some fields) course ∧
      ∀ label ∈ labels, ¬Ends course (recordField (some fields) course "DueDate") label := by
  exact (performAll_approved uid fields labels course named passive).1

theorem approval_lasts_example : Approved (performAll "u1" (some [("Course",.map [("statics",
    .map [("isPurchased",.boolean true),("DueDate",.timestamp 5 0)])])])
      [.check "statics" 9000000 true true,.press ⟨"statics",none⟩ "t1" true false true]) "statics" := by
  apply (approval_lasts "u1" _ _ "statics" _ _).mpr
  · refine ⟨rfl,?_⟩
    simp only [List.forall_mem_cons,Ends]
    refine ⟨?_,by simp,nofun⟩
    rintro ⟨_,_,_,_,_,date,_⟩
    cases date
  · simp only [List.forall_mem_cons,Named]
    exact ⟨trivial,by decide,nofun⟩
  · simp [Approves]

/-! Only an approval approves. -/

theorem approved_of_frame (before after : Snapshot) (key : String)
    (frame : record after key = record before key) (approved : Approved after key) :
    Approved before key :=
  (recordField_congr _ _ _ _ frame).symm.trans approved

/-- A pending record written below another course's record only leaves maps behind. -/
theorem approved_of_update (u_id : Option String) (request : Request) (time : String) (fields : Fields)
    (path : Path) (parsed : fieldPath request.selectedCourse = some path) (key : String)
    (approved : Approved
      (some (assignMany (("Course"::path,pendingRecord)::stamp u_id request time) fields)) key) :
    Approved (some fields) key := by
  rcases fieldPath_cases _ path parsed with rfl | ⟨first,second,rest,rfl⟩
  · by_cases same : key = request.selectedCourse
    · subst same
      rw [Approved,isPurchased,recordField_of_record,update_record] at approved
      simp [pendingRecord,Value.get] at approved
    · exact approved_of_frame _ _ key (update_other u_id request time fields key same) approved
  · simp only [Approved,isPurchased,recordField,Option.bind_some,assignMany_cons,stamp_frame] at approved
    rcases RequestInterleaving.deep_field fields _ first second rest key "isPurchased" with
      same | ⟨inner,found⟩
    · exact same.symm.trans approved
    · cases found.symm.trans approved

theorem approved_of_advance (u_id : Option String) (request : Request) (time : String)
    (answered : Bool) (document : Snapshot) (stage : Stage) (key : String)
    (approved : Approved (advance u_id request time answered document stage).1 key) :
    Approved document key := by
  rcases advance_effect u_id request time answered document stage with
    same | ⟨_,_,_,merged⟩ | ⟨_,fields,path,_,_,_,_,rfl,parsed,updated⟩
  · rwa [same] at approved
  · rw [merged] at approved
    by_cases same : key = request.selectedCourse
    · subst same
      rw [Approved,merge_purchased] at approved
      simp at approved
    · exact approved_of_frame _ _ key (merge_other u_id request time document key same) approved
  · rw [updated] at approved
    exact approved_of_update u_id request time fields path parsed key approved

theorem approved_of_expire (course : String) (document : Snapshot) (key : String)
    (approved : Approved (expire course document) key) : Approved document key := by
  by_cases same : course = key
  · subst same
    cases valid : validatePathSegment course.toList with
    | false => rwa [expire_eq,if_neg (by simp [valid])] at approved
    | true =>
      rw [Approved,expire_purchased course document valid] at approved
      simp at approved
  · have frame := expire_unchanged course document ["Course",key] (apart_records _ _ _ same)
    exact approved_of_frame _ _ key frame approved

theorem approved_of_check (read : Except Thrown Snapshot) (course : String) (now : Int)
    (document : Snapshot) (key : String)
    (approved : Approved (engineerCheckmanual read course now document).2 key) :
    Approved document key := by
  rcases check_effect read course now document with same | wrote
  · rwa [same] at approved
  · rw [wrote] at approved
    exact approved_of_expire course document key approved

theorem approval_frame (document : Snapshot) (course : String) (dates : List (String × Value))
    (other : Path) (apart : ∀ field, Apart ["Course",course,field] other) :
    (some (assignMany (RequestInterleaving.approval course dates)
      (document.getD []))).bind (valueAt other) = document.bind (valueAt other) := by
  have frame : valueAt other (assignMany (RequestInterleaving.approval course dates)
      (document.getD [])) = valueAt other (document.getD []) := by
    apply valueAt_assignMany_apart
    intro write member
    rcases List.mem_cons.mp member with rfl | dated
    · exact apart _
    · obtain ⟨date,_,rfl⟩ := List.mem_map.mp dated
      exact apart _
  rw [Option.bind_some,frame]
  cases document with
  | none =>
    cases other with
    | nil => exact absurd List.nil_prefix (apart "").2
    | cons key rest => rfl
  | some fields => rfl

theorem approved_of_approval (document : Snapshot) (course key : String)
    (dates : List (String × Value)) (different : course ≠ key)
    (approved : Approved
      (some (assignMany (RequestInterleaving.approval course dates) (document.getD []))) key) :
    Approved document key := by
  apply approved_of_frame _ _ key _ approved
  exact approval_frame document course dates ["Course",key]
    fun field => apart_records _ _ _ different

/-! Which taps open. -/

theorem opened_iff (gate : Gate) (page : Page) (key : String) (document : Snapshot) (now : Int)
    (activeSubscriptions : List String) (held : page.activeSubscriptions = some activeSubscriptions)
    (unsubscribed : key ∉ activeSubscriptions) :
    gate.tap page key document now = .opened ↔ Reads gate document key ∧ Approved document key := by
  rw [gate_tap,CourseAccess.tap_manual page key _ _ activeSubscriptions held unsubscribed]
  rcases checkmanual_cases gate document key now with
    ⟨reads,approved,answer⟩ | ⟨_,refused,_,answer⟩ | ⟨unread,answer⟩
  · exact iff_of_true (by rw [answer]) ⟨reads,approved⟩
  · exact iff_of_false (by simp [answer]) fun both => refused both.2
  · refine iff_of_false ?_ fun both => unread ⟨both.1,Or.inl both.2⟩
    rw [answer]
    cases chosen : choosePackage page key <;> simp

theorem opened_needs (gate : Gate) (page : Page) (key : String) (document : Snapshot) (now : Int)
    (opened : gate.tap page key document now = .opened) :
    ∃ activeSubscriptions, page.activeSubscriptions = some activeSubscriptions ∧
      (key ∈ activeSubscriptions ∨ Approved document key) := by
  cases held : page.activeSubscriptions with
  | none =>
    rw [gate_tap,tap_unfilled page key _ _ held] at opened
    contradiction
  | some activeSubscriptions =>
    refine ⟨activeSubscriptions,rfl,?_⟩
    by_cases subscribed : key ∈ activeSubscriptions
    · exact Or.inl subscribed
    · have approved := (opened_iff gate page key document now activeSubscriptions held subscribed).mp opened
      exact Or.inr approved.2

theorem opens_iff (uid : String) (fields : Fields) (labels : List Label) (gate : Gate) (page : Page)
    (key : String) (now : Int) (activeSubscriptions : List String)
    (held : page.activeSubscriptions = some activeSubscriptions)
    (unsubscribed : key ∉ activeSubscriptions) (named : ∀ label ∈ labels, Named label)
    (passive : ∀ label ∈ labels, ¬Approves key label) :
    gate.tap page key (performAll uid (some fields) labels) now = .opened ↔
      Approved (some fields) key ∧
      (∀ label ∈ labels, ¬Ends key (recordField (some fields) key "DueDate") label) ∧
      Reads gate (some fields) key := by
  obtain ⟨lasts,dated⟩ := performAll_approved uid fields labels key named passive
  have reads (approved : Approved (performAll uid (some fields) labels) key) :
      Reads gate (performAll uid (some fields) labels) key ↔ Reads gate (some fields) key := by
    rw [Reads,Reads,dated approved]
  rw [opened_iff gate page key _ now activeSubscriptions held unsubscribed]
  constructor
  · rintro ⟨readable,approved⟩
    obtain ⟨before,lasting⟩ := lasts.mp approved
    exact ⟨before,lasting,(reads approved).mp readable⟩
  · rintro ⟨before,lasting,readable⟩
    have approved := lasts.mpr ⟨before,lasting⟩
    exact ⟨(reads approved).mpr readable,approved⟩

/-- The date has passed, but nothing notices a Timestamp. -/
theorem opens_iff_example :
    Gate.home.tap ⟨some ⟨"u1",none⟩,some [],none⟩ "moodle" (performAll "u1"
      (some [("Course",.map [("moodle",.map [("isPurchased",.boolean true),
        ("DueDate",.timestamp 9 0)])])])
      [.check "moodle" 10000000 true true,.press ⟨"statics",none⟩ "t1" true true true])
        11000000 = .opened := by
  apply (opens_iff "u1" _ _ .home _ "moodle" 11000000 [] rfl (by simp) _ _).mpr
  · refine ⟨rfl,?_,fun engineer => by contradiction⟩
    simp only [List.forall_mem_cons,Ends]
    refine ⟨?_,by simp,nofun⟩
    rintro ⟨_,_,_,_,_,date,_⟩
    cases date
  · simp only [List.forall_mem_cons,Named]
    exact ⟨trivial,by decide,nofun⟩
  · simp [Approves]

end VisionsAcademy.CourseLifecycle
