import VisionsAcademy.SubscriptionPage

/-! What the request button is for: a ledger of manual payments in which a request
adds a pending entry for a course that has none and leaves every other entry alone.
On documents with boolean flags, presses for courses not yet approved refine it. -/
namespace VisionsAcademy.RequestLedger
open DocumentStore DartDynamic ManualPayment SubscriptionPage

inductive Status
  | pending
  | approved
  deriving DecidableEq

abbrev Ledger := String → Option Status

def Ledger.request (ledger : Ledger) (course : String) : Ledger :=
  if ledger course = none then Function.update ledger course (some .pending) else ledger

def Ledger.requestAll (ledger : Ledger) (courses : List String) : Ledger :=
  courses.foldl Ledger.request ledger

theorem Ledger.request_apply (ledger : Ledger) (course other : String) :
    ledger.request course other =
      if ledger other = none ∧ other = course then some .pending else ledger other := by
  unfold Ledger.request
  by_cases same : other = course
  · subst other
    split <;> simp [*]
  · split <;> simp [same]

theorem Ledger.requestAll_apply (ledger : Ledger) (courses : List String) (other : String) :
    ledger.requestAll courses other =
      if ledger other = none ∧ other ∈ courses then some .pending else ledger other := by
  induction courses generalizing ledger with
  | nil => simp [Ledger.requestAll]
  | cons course rest ih =>
    change (ledger.request course).requestAll rest other = _
    rw [ih,Ledger.request_apply]
    by_cases same : other = course
    · cases entry : ledger other with
      | none => simp [same]
      | some value => simp
    · simp [same]

structure Press extends Request where
  time : String

def afterPress (uid : String) (document : Snapshot) (press : Press) : Snapshot :=
  (onPressed (some uid) press.toRequest press.time true true true document).1

def status : Option Value → Option Status
  | some (.boolean false) => some .pending
  | some (.boolean true) => some .approved
  | _ => none

def ledger (document : Snapshot) : Ledger := fun course => status (isPurchased document course)

def Booleans (document : Snapshot) : Prop :=
  ∀ course flag, isPurchased document course = some flag → ∃ truth, flag = .boolean truth

theorem status_pending (flag : Option Value) :
    status flag = some .pending ↔ flag = some (.boolean false) := by
  constructor
  · intro pending
    unfold status at pending
    split at pending <;> simp_all
  · rintro rfl
    rfl

theorem status_cases (document : Snapshot) (booleans : Booleans document) (course : String) :
    (ledger document course = none ∧ isPurchased document course = none) ∨
    (ledger document course = some .pending ∧ isPurchased document course = some (.boolean false)) ∨
    (ledger document course = some .approved ∧ isPurchased document course = some (.boolean true)) := by
  unfold ledger
  cases flag : isPurchased document course with
  | none => exact Or.inl ⟨rfl,rfl⟩
  | some value =>
    obtain ⟨truth,rfl⟩ := booleans course value flag
    cases truth with
    | false => exact Or.inr (Or.inl ⟨rfl,rfl⟩)
    | true => exact Or.inr (Or.inr ⟨rfl,rfl⟩)

theorem press_pending (uid : String) (document : Snapshot) (press : Press)
    (pending : isPurchased document press.selectedCourse = some (.boolean false)) :
    afterPress uid document press = document := by
  cases document with
  | none => simp [isPurchased,recordField] at pending
  | some fields =>
    have already : isrequestAlready (some fields) press.selectedCourse = "false" := by
      rw [isrequestAlready_eq,pending]
      rfl
    simp [afterPress,onPressed_eq,advance,already]

theorem press_first (uid : String) (press : Press) (plain : Plain press.selectedCourse) :
    afterPress uid none press =
      some (merge (addnewUserData (some uid) press.toRequest press.time) none) := by
  have merged := addnewUser_merge (some uid) press.toRequest press.time none plain.1
  simp [afterPress,onPressed_eq,advance,merged]

theorem press_missing (uid : String) (fields : Fields) (press : Press)
    (plain : Plain press.selectedCourse)
    (missing : isPurchased (some fields) press.selectedCourse = none) :
    afterPress uid (some fields) press =
      some (assignMany ((["Course",press.selectedCourse],pendingRecord)::
        stamp (some uid) press.toRequest press.time) fields) := by
  have already : isrequestAlready (some fields) press.selectedCourse = "null" := by
    rw [isrequestAlready_eq,missing]
    rfl
  have written := update_document (some uid) press.toRequest press.time fields _
    (fieldPath_plain _ plain)
  simp [afterPress,onPressed_eq,advance,already,written]

theorem press_requested (uid : String) (document : Snapshot) (press : Press)
    (plain : Plain press.selectedCourse)
    (missing : isPurchased document press.selectedCourse = none) :
    isPurchased (afterPress uid document press) press.selectedCourse = some (.boolean false) := by
  cases document with
  | none =>
    rw [press_first uid press plain]
    exact merge_purchased (some uid) press.toRequest press.time none
  | some fields =>
    rw [press_missing uid fields press plain missing,isPurchased,recordField_of_record,update_record]
    rfl

theorem press_other (uid : String) (document : Snapshot) (press : Press)
    (plain : Plain press.selectedCourse)
    (unapproved : isPurchased document press.selectedCourse = none ∨
      isPurchased document press.selectedCourse = some (.boolean false))
    (other : String) (different : other ≠ press.selectedCourse) :
    record (afterPress uid document press) other = record document other := by
  rcases unapproved with missing | pending
  · cases document with
    | none =>
      rw [press_first uid press plain]
      exact merge_other (some uid) press.toRequest press.time none other different
    | some fields =>
      rw [press_missing uid fields press plain missing]
      exact update_other (some uid) press.toRequest press.time fields other different
  · rw [press_pending uid document press pending]

theorem press_keeps (uid : String) (document : Snapshot) (press : Press)
    (plain : Plain press.selectedCourse)
    (unapproved : isPurchased document press.selectedCourse = none ∨
      isPurchased document press.selectedCourse = some (.boolean false))
    (course : String) (pending : isPurchased document course = some (.boolean false)) :
    record (afterPress uid document press) course = record document course := by
  by_cases same : course = press.selectedCourse
  · subst same
    rw [press_pending uid document press pending]
  · exact press_other uid document press plain unapproved course same

theorem press_refines (uid : String) (document : Snapshot) (press : Press)
    (plain : Plain press.selectedCourse) (booleans : Booleans document)
    (unapproved : ledger document press.selectedCourse ≠ some .approved) :
    ledger (afterPress uid document press) = (ledger document).request press.selectedCourse ∧
      Booleans (afterPress uid document press) := by
  rcases status_cases document booleans press.selectedCourse with
    ⟨absent,missing⟩ | ⟨entered,pending⟩ | ⟨approved,_⟩
  · have requested := press_requested uid document press plain missing
    have frame (other : String) (different : other ≠ press.selectedCourse) :
        isPurchased (afterPress uid document press) other = isPurchased document other :=
      recordField_congr _ _ _ _ (press_other uid document press plain (Or.inl missing) other different)
    constructor
    · funext other
      rw [Ledger.request,if_pos absent]
      by_cases same : other = press.selectedCourse
      · subst same
        rw [Function.update_self,ledger,requested]
        rfl
      · rw [Function.update_of_ne same,ledger,frame other same,ledger]
    · intro other flag found
      by_cases same : other = press.selectedCourse
      · subst same
        exact ⟨false,Option.some.inj (found.symm.trans requested)⟩
      · exact booleans other flag ((frame other same).symm.trans found)
  · rw [press_pending uid document press pending,Ledger.request,if_neg (by simp [entered])]
    exact ⟨rfl,booleans⟩
  · exact absurd approved unapproved

theorem request_unapproved (before : Ledger) (course other : String)
    (unapproved : before other ≠ some .approved) :
    before.request course other ≠ some .approved := by
  rw [Ledger.request_apply]
  split
  · simp
  · exact unapproved

theorem presses_refine (uid : String) (presses : List Press) (document : Snapshot)
    (plain : ∀ press ∈ presses, Plain press.selectedCourse) (booleans : Booleans document)
    (unapproved : ∀ press ∈ presses, ledger document press.selectedCourse ≠ some .approved) :
    ledger (presses.foldl (afterPress uid) document) =
      (ledger document).requestAll (presses.map fun press => press.selectedCourse) ∧
    (∀ course, isPurchased document course = some (.boolean false) →
      record (presses.foldl (afterPress uid) document) course = record document course) ∧
    (∀ course, course ∉ presses.map (fun press => press.selectedCourse) →
      record (presses.foldl (afterPress uid) document) course = record document course) := by
  induction presses generalizing document with
  | nil => exact ⟨rfl,fun _ _ => rfl,fun _ _ => rfl⟩
  | cons press rest ih =>
    have first := plain press (by simp)
    obtain ⟨requested,stillBooleans⟩ := press_refines uid document press first booleans
      (unapproved press (by simp))
    have unsettled : isPurchased document press.selectedCourse = none ∨
        isPurchased document press.selectedCourse = some (.boolean false) := by
      rcases status_cases document booleans press.selectedCourse with
        ⟨_,missing⟩ | ⟨_,pending⟩ | ⟨approved,_⟩
      · exact Or.inl missing
      · exact Or.inr pending
      · exact absurd approved (unapproved press (by simp))
    obtain ⟨refined,kept,framed⟩ := ih (afterPress uid document press)
      (fun later member => plain later (List.mem_cons_of_mem _ member)) stillBooleans
      (fun later member => by
        rw [requested]
        exact request_unapproved _ _ _ (unapproved later (List.mem_cons_of_mem _ member)))
    refine ⟨?_,?_,?_⟩
    · rw [List.foldl_cons,refined,requested]
      rfl
    · intro course pending
      have here := press_keeps uid document press first unsettled course pending
      have still : isPurchased (afterPress uid document press) course = some (.boolean false) :=
        (recordField_congr _ _ _ _ here).trans pending
      exact (kept course still).trans here
    · intro course absent
      simp only [List.map_cons,List.mem_cons,not_or] at absent
      exact (framed course absent.2).trans
        (press_other uid document press first unsettled course absent.1)

theorem presses_request (uid : String) (presses : List Press) (document : Snapshot)
    (plain : ∀ press ∈ presses, Plain press.selectedCourse) (booleans : Booleans document)
    (unapproved : ∀ press ∈ presses,
      isPurchased document press.selectedCourse ≠ some (.boolean true)) :
    let final := presses.foldl (afterPress uid) document
    (∀ press ∈ presses, isPurchased final press.selectedCourse = some (.boolean false)) ∧
    (∀ course, isPurchased document course = some (.boolean false) →
      record final course = record document course) ∧
    (∀ press ∈ presses, ∀ again : Press, again.selectedCourse = press.selectedCourse →
      afterPress uid final again = final) ∧
    (∀ course, course ∉ presses.map (fun press => press.selectedCourse) →
      record final course = record document course) := by
  have entries : ∀ press ∈ presses, ledger document press.selectedCourse ≠ some .approved := by
    intro press member approved
    rcases status_cases document booleans press.selectedCourse with
      ⟨absent,_⟩ | ⟨entered,_⟩ | ⟨_,flag⟩
    · simp [absent] at approved
    · simp [entered] at approved
    · exact unapproved press member flag
  obtain ⟨refined,kept,framed⟩ := presses_refine uid presses document plain booleans entries
  have requested : ∀ press ∈ presses, isPurchased (presses.foldl (afterPress uid) document)
      press.selectedCourse = some (.boolean false) := by
    intro press member
    rw [← status_pending]
    change ledger _ press.selectedCourse = some .pending
    rw [refined,Ledger.requestAll_apply]
    rcases status_cases document booleans press.selectedCourse with
      ⟨absent,_⟩ | ⟨entered,_⟩ | ⟨approved,_⟩
    · exact if_pos ⟨absent,List.mem_map_of_mem member⟩
    · simp [entered]
    · exact absurd approved (entries press member)
  refine ⟨requested,kept,?_,framed⟩
  intro press member again same
  exact press_pending uid _ again (same ▸ requested press member)

/-- An account with a pending and an approved course asks for a third, twice, and for the
pending one again. -/
theorem presses_request_example :
    let pending : Value := .map [("isPurchased",.boolean false),("StartDate",.null),("DueDate",.null)]
    let approved : Value := .map [("isPurchased",.boolean true),("StartDate",.timestamp 5 0),
      ("DueDate",.timestamp 9 0)]
    let document : Snapshot := some [("Course",.map [("moodle",pending),("organic_1",approved)]),
      ("Email",.string "a@b.c"),("uid",.string "u1"),("time",.string "t0")]
    let final := [⟨⟨"statics",some "a@b.c"⟩,"t1"⟩,⟨⟨"moodle",some "a@b.c"⟩,"t2"⟩,
      ⟨⟨"statics",some "a@b.c"⟩,"t3"⟩].foldl (afterPress "u1") document
    isPurchased final "statics" = some (.boolean false) ∧ record final "moodle" = some pending ∧
      record final "organic_1" = some approved := by
  intro pending approved document final
  have requests := presses_request "u1" [⟨⟨"statics",some "a@b.c"⟩,"t1"⟩,
    ⟨⟨"moodle",some "a@b.c"⟩,"t2"⟩,⟨⟨"statics",some "a@b.c"⟩,"t3"⟩] document ?_ ?_ ?_
  · obtain ⟨requested,kept,_,framed⟩ := requests
    exact ⟨requested ⟨⟨"statics",some "a@b.c"⟩,"t1"⟩ (by simp),kept "moodle" rfl,
      framed "organic_1" (by simp)⟩
  · simp only [List.forall_mem_cons]
    decide
  · intro course flag found
    change ([("moodle",pending),("organic_1",approved)].lookup course).bind
      (Value.get ["isPurchased"]) = some flag at found
    by_cases moodle : course = "moodle"
    · subst moodle
      exact ⟨false,(Option.some.inj found).symm⟩
    · by_cases organic : course = "organic_1"
      · subst organic
        exact ⟨true,(Option.some.inj found).symm⟩
      · rw [Entries.lookup_cons_other _ _ _ _ moodle,Entries.lookup_cons_other _ _ _ _ organic] at found
        contradiction
  · simp only [List.forall_mem_cons]
    refine ⟨?_,?_,?_,by simp⟩ <;> exact fun approved => by cases approved

end VisionsAcademy.RequestLedger
