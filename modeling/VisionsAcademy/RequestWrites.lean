import VisionsAcademy.SubscriptionPage

/-! The two writers of a pending record, a merge under the identifier as a key and an
update at the identifier as a dotted path, and the writes behind a failed read. -/
namespace VisionsAcademy.RequestWrites
open DocumentStore DartDynamic ManualPayment SubscriptionPage

def courses (document : Snapshot) : Option Value := document.bind (valueAt ["Course"])

/-- The update branch does to the map Course what addnewUser does. -/
def Agrees (uid : String) (request : Request) (time : String) (fields : Fields) : Prop :=
  let after := (onPressed (some uid) request time true true true (some fields)).1
  record after request.selectedCourse = some pendingRecord ∧
  (∀ other, other ≠ request.selectedCourse → record after other = record (some fields) other) ∧
  courses after = courses (advance (some uid) request time true (some fields) .addnewUser).1

theorem recordLeaves_fresh (course : String) (fields : Fields)
    (absent : valueAt ["Course",course] fields = none) :
    assignMany (recordLeaves course) fields = assignAt ["Course",course] pendingRecord fields := by
  have opened : assignAt ["Course",course,"isPurchased"] (.boolean false) fields =
      assignAt ["Course",course] (.map [("isPurchased",.boolean false)]) fields := by
    have split := Value.assign_append ["Course",course] ["isPurchased"] (.boolean false) (.map fields)
    rw [← valueAt,absent] at split
    exact congrArg Value.fields split
  have start := assignAt_assignAt "Course" [course] ["StartDate"]
    (.map [("isPurchased",.boolean false)]) .null fields
  have due := assignAt_assignAt "Course" [course] ["DueDate"]
    (.map [("isPurchased",.boolean false),("StartDate",.null)]) .null fields
  rw [recordLeaves,assignMany_cons,assignMany_cons,assignMany_cons,assignMany_nil,opened]
  exact (congrArg (assignAt ["Course",course,"DueDate"] .null) start).trans due

theorem courses_stamp (u_id : Option String) (request : Request) (time : String) (fields : Fields) :
    courses (some (assignMany (stamp u_id request time) fields)) = courses (some fields) :=
  stamp_frame u_id request time [] fields

theorem pressed_absent (uid : String) (request : Request) (time : String) (fields : Fields)
    (absent : record (some fields) request.selectedCourse = none) :
    (onPressed (some uid) request time true true true (some fields)).1 =
      match fieldPath request.selectedCourse with
      | some path =>
        some (assignMany (("Course"::path,pendingRecord)::stamp (some uid) request time) fields)
      | none => some fields := by
  have already : isrequestAlready (some fields) request.selectedCourse = "null" := by
    rw [isrequestAlready_eq,isPurchased,recordField_of_record,absent]
    rfl
  rw [onPressed_eq]
  cases parsed : fieldPath request.selectedCourse with
  | none => simp [already,advance,update_malformed (some uid) request time (some fields) parsed]
  | some path => simp [already,advance,update_document (some uid) request time fields path parsed]

theorem pressed_dotted (uid : String) (request : Request) (time : String) (fields : Fields)
    (absent : record (some fields) request.selectedCourse = none)
    (dotted : ¬ Plain request.selectedCourse) :
    record (onPressed (some uid) request time true true true (some fields)).1
      request.selectedCourse = none := by
  rw [pressed_absent uid request time fields absent]
  cases parsed : fieldPath request.selectedCourse with
  | none => exact absent
  | some path =>
    have away : path.head? ≠ some request.selectedCourse := fun first =>
      dotted ((fieldPath_head _ path parsed).mp first)
    have proper := fieldPath_ne_nil _ path parsed
    exact (update_elsewhere (some uid) request time fields path _ proper away).trans absent

theorem agrees_iff (uid : String) (request : Request) (time : String) (fields : Fields)
    (absent : record (some fields) request.selectedCourse = none) :
    Agrees uid request time fields ↔ Plain request.selectedCourse := by
  constructor
  · intro agrees
    by_contra dotted
    have missing := pressed_dotted uid request time fields absent dotted
    rw [agrees.1] at missing
    contradiction
  · intro plain
    have pressed := pressed_absent uid request time fields absent
    have merged := addnewUser_merge (some uid) request time (some fields) plain.1
    simp only [fieldPath_plain _ plain] at pressed
    rw [Agrees,pressed]
    refine ⟨update_record (some uid) request time fields,?_,?_⟩
    · intro other different
      exact update_other (some uid) request time fields other different
    · simp only [advance,merged,if_true]
      rw [assignMany_cons,courses_stamp,merge,addnewUserData_leaves,assignMany_append,
        courses_stamp,Option.getD_some,recordLeaves_fresh _ fields absent]

def enrolled : Fields :=
  [("Course",.map [("moodle",.map [("isPurchased",.boolean true),("StartDate",.timestamp 5 0),
      ("DueDate",.timestamp 9 0)]),("organic_1",pendingRecord)]),
    ("Email",.string "a@b.c"),("uid",.string "u1"),("time",.string "t0")]

theorem agrees_iff_example : Agrees "u1" ⟨"statics",some "a@b.c"⟩ "t1" enrolled :=
  (agrees_iff "u1" ⟨"statics",some "a@b.c"⟩ "t1" enrolled rfl).mpr (by decide)

/-- The press for a store identifier writes Course.com.visions.moodle, three maps deep, and
the lookup under the identifier still finds nothing. -/
theorem dotted_identifier :
    let after := (onPressed (some "u1") ⟨"com.visions.moodle",some "a@b.c"⟩ "t1" true true true
      (some enrolled)).1
    record (some enrolled) "com.visions.moodle" = none ∧
      record after "com.visions.moodle" = none ∧
      ¬ Agrees "u1" ⟨"com.visions.moodle",some "a@b.c"⟩ "t1" enrolled := by
  have missing := pressed_dotted "u1" ⟨"com.visions.moodle",some "a@b.c"⟩ "t1" enrolled rfl (by decide)
  refine ⟨rfl,missing,?_⟩
  intro agrees
  rw [agrees.1] at missing
  contradiction

/-! Failed reads. The second read is only made for a document that the first one found. -/

def ReadFails (firstRead secondRead : Bool) (document : Snapshot) : Prop :=
  firstRead = false ∨ (document ≠ none ∧ secondRead = false)

def Stored (leaves : List (Path × Value)) (document : Snapshot) : Prop :=
  ∀ leaf ∈ leaves, document.bind (valueAt leaf.1) = some leaf.2

theorem merge_stored (u_id : Option String) (request : Request) (time : String)
    (document : Snapshot) :
    some (merge (addnewUserData u_id request time) document) = document ↔
      Stored (recordLeaves request.selectedCourse ++ stamp u_id request time) document := by
  constructor
  · intro same leaf member
    rw [← same]
    exact merge_leaf u_id request time document leaf member
  · intro stored
    cases document with
    | none => exact absurd (stored (["time"],.string time) (by simp [stamp])) (by simp)
    | some fields =>
      rw [merge,addnewUserData_leaves,Option.getD_some]
      exact congrArg some (assignMany_present _ fields stored)

theorem addnewUser_same (u_id : Option String) (request : Request) (time : String)
    (document : Snapshot) :
    (advance u_id request time true document .addnewUser).1 = document ↔
      (validatePathSegment request.selectedCourse.toList = true →
        Stored (recordLeaves request.selectedCourse ++ stamp u_id request time) document) := by
  cases valid : validatePathSegment request.selectedCourse.toList with
  | false => simp [advance,addnewUser_invalid u_id request time document valid]
  | true =>
    simp only [advance,addnewUser_merge u_id request time document valid,if_true,forall_const]
    exact merge_stored u_id request time document

theorem failed_read_iff (u_id : Option String) (request : Request) (time : String)
    (firstRead secondRead : Bool) (manualPayment : Documents) :
    (ReadFails firstRead secondRead (manualPayment.get u_id) →
      (press u_id request time firstRead secondRead true manualPayment).1 = manualPayment) ↔
    (firstRead = false → validatePathSegment request.selectedCourse.toList = true →
      ∃ uid, u_id = some uid ∧ Stored (recordLeaves request.selectedCourse ++
        stamp (some uid) request time) (manualPayment.doc uid)) := by
  have named : Stored (recordLeaves request.selectedCourse ++ stamp u_id request time)
      (manualPayment.get u_id) ↔ ∃ uid, u_id = some uid ∧
        Stored (recordLeaves request.selectedCourse ++ stamp (some uid) request time)
          (manualPayment.doc uid) := by
    cases u_id with
    | none =>
      refine iff_of_false ?_ (by simp)
      intro stored
      exact absurd (stored (["time"],.string time) (by simp [stamp])) (by simp [Documents.get])
    | some uid => simp [Documents.get]
  rw [press,onPressed_eq,Documents.put_eq,← named]
  cases firstRead with
  | false =>
    rw [if_pos (Or.inl rfl),addnewUser_same]
    simp [ReadFails]
  | true =>
    refine iff_of_true ?_ (by simp)
    rintro (failed | ⟨present,rfl⟩)
    · contradiction
    · simp [present,advance]

/-- The first read of the account's press fails: its approval is gone. Without a `u_id` a
document is left that belongs to nobody. -/
theorem failed_first_read :
    let manualPayment : Documents := ⟨Function.update (fun _ => none) "u1" (some enrolled),[]⟩
    isPurchased ((press (some "u1") ⟨"moodle",some "a@b.c"⟩ "t1" false true true
        manualPayment).1.doc "u1") "moodle" = some (.boolean false) ∧
      (press (some "u1") ⟨"moodle",some "a@b.c"⟩ "t1" false true true manualPayment).1 ≠
        manualPayment ∧
      (press none ⟨"moodle",some "a@b.c"⟩ "t1" false true true manualPayment).1 ≠ manualPayment := by
  intro manualPayment
  have cleared : isPurchased ((press (some "u1") ⟨"moodle",some "a@b.c"⟩ "t1" false true true
      manualPayment).1.doc "u1") "moodle" = some (.boolean false) := rfl
  refine ⟨cleared,?_,?_⟩
  · intro same
    rw [same] at cleared
    cases cleared
  · intro same
    have added := congrArg (·.added.length) same
    contradiction

end VisionsAcademy.RequestWrites
