import VisionsAcademy.ManualPayment

/-! The request button of lib/SubscriptionPage/SubscriptionPage.dart. A press reads
the account's ManualPayment document up to twice and then writes it at most once;
every await is a place where other writes come in between. -/
namespace VisionsAcademy.SubscriptionPage
open DocumentStore DartDynamic ManualPayment

structure Request where
  selectedCourse : String
  email : Option String

def pendingRecord : Value :=
  .map [("isPurchased",.boolean false),("StartDate",.null),("DueDate",.null)]

def checkFirstTime (read : Except Thrown Snapshot) : Bool :=
  match read with
  | .ok value => value.isNone
  | .error _ => true

def addnewUserData (u_id : Option String) (request : Request) (time : String) : Fields :=
  [("Course",.map [(request.selectedCourse,pendingRecord)]),("Email",ofString request.email),
    ("uid",ofString u_id),("time",.string time)]

def updateData (u_id : Option String) (request : Request) (time : String) : List (String × Value) :=
  [("Course." ++ request.selectedCourse,pendingRecord),("Email",ofString request.email),
    ("uid",ofString u_id),("time",.string time)]

def isrequestAlready (value : Snapshot) (selectedCourse : String) : String :=
  match lookupField value selectedCourse "isPurchased" with
  | .ok flag => text flag
  | .error _ => "null"

inductive Stage
  | checkFirstTime
  | addnewUser
  | get
  | update (isrequestAlready : String)
  | finished (alert : String)
  | skipped
  | threw

/-- One turn of the handler, up to its next await. `answered` tells whether the back
end answers this turn's call; `u_id` is the global at that moment and `document` what
`doc(u_id)` stands for then: without a path that is a new document, so there is none yet. -/
def advance (u_id : Option String) (request : Request) (time : String) (answered : Bool)
    (document : Snapshot) (stage : Stage) : Snapshot × Stage :=
  match stage with
  | .checkFirstTime =>
    let read := if answered then .ok document else .error .firebaseException
    (document,if SubscriptionPage.checkFirstTime read then .addnewUser else .get)
  | .addnewUser =>
    match if answered then setMerge (addnewUserData u_id request time) document else none with
    | some fields => (some fields,
      .finished "You have applied for manual payment.please wait for admin approval.")
    | none => (document,.threw)
  | .get =>
    (document,if answered then .update (isrequestAlready document request.selectedCourse) else .threw)
  | .update already =>
    if u_id = none then (document,.skipped)
    else if already ≠ "false" then
      match if answered then DocumentStore.update (updateData u_id request time) document else none with
      | some fields => (some fields,
        .finished "You have applied for mannual payment.please wait for admin approval.")
      | none => (document,.threw)
    else (document,
      .finished "You already have Requested for manual Payment. please contact admin.")
  | stage => (document,stage)

def onPressed (u_id : Option String) (request : Request) (time : String)
    (firstRead secondRead write : Bool) (document : Snapshot) : Snapshot × Stage :=
  let checked := advance u_id request time firstRead document .checkFirstTime
  let decided := match checked.2 with
    | .get => advance u_id request time secondRead checked.1 .get
    | _ => checked
  advance u_id request time write decided.1 decided.2

def press (u_id : Option String) (request : Request) (time : String)
    (firstRead secondRead write : Bool) (manualPayment : Documents) : Documents × Stage :=
  let result := onPressed u_id request time firstRead secondRead write (manualPayment.get u_id)
  (manualPayment.put u_id result.1,result.2)

theorem onPressed_eq (u_id : Option String) (request : Request) (time : String)
    (firstRead secondRead write : Bool) (document : Snapshot) :
    onPressed u_id request time firstRead secondRead write document =
      advance u_id request time write document
        (if firstRead = false ∨ document = none then .addnewUser
        else if secondRead then .update (isrequestAlready document request.selectedCourse)
        else .threw) := by
  cases firstRead with
  | false => rfl
  | true =>
    cases document with
    | none => rfl
    | some fields => cases secondRead <;> rfl

theorem isrequestAlready_eq (document : Snapshot) (course : String) :
    isrequestAlready document course = ((isPurchased document course).map text).getD "null" := by
  rcases lookupField_cases document course "isPurchased" with
    ⟨found,present,looked⟩ | ⟨absent,looked | ⟨thrown,looked⟩⟩
  · simp [isrequestAlready,isPurchased,present,looked]
  · simp [isrequestAlready,isPurchased,absent,looked]
  · simp [isrequestAlready,isPurchased,absent,looked]

/-! The writes of the two branches. -/

def stamp (u_id : Option String) (request : Request) (time : String) : List (Path × Value) :=
  [(["Email"],ofString request.email),(["uid"],ofString u_id),(["time"],.string time)]

def recordLeaves (course : String) : List (Path × Value) :=
  [(["Course",course,"isPurchased"],.boolean false),(["Course",course,"StartDate"],.null),
    (["Course",course,"DueDate"],.null)]

@[simp] theorem leaves_ofString (text : Option String) :
    leaves (ofString text) = [([],ofString text)] := by
  cases text <;> rfl

theorem addnewUserData_leaves (u_id : Option String) (request : Request) (time : String) :
    fieldLeaves (addnewUserData u_id request time) =
      recordLeaves request.selectedCourse ++ stamp u_id request time := by
  simp [addnewUserData,pendingRecord,recordLeaves,stamp,fieldLeaves,leaves]

theorem addnewUserData_valid (u_id : Option String) (request : Request) (time : String) :
    validateFields (addnewUserData u_id request time) =
      validatePathSegment request.selectedCourse.toList := by
  have course : validatePathSegment "Course".toList = true := by decide
  have email : validatePathSegment "Email".toList = true := by decide
  have account : validatePathSegment "uid".toList = true := by decide
  have stamped : validatePathSegment "time".toList = true := by decide
  have record : validate pendingRecord = true := by decide
  simp only [addnewUserData,validateFields,validate,validate_ofString,course,email,account,stamped,
    record,Bool.and_true,Bool.true_and]

theorem addnewUser_merge (u_id : Option String) (request : Request) (time : String)
    (document : Snapshot) (valid : validatePathSegment request.selectedCourse.toList = true) :
    setMerge (addnewUserData u_id request time) document =
      some (merge (addnewUserData u_id request time) document) := by
  rw [setMerge,addnewUserData_valid,valid,if_pos rfl]

theorem addnewUser_invalid (u_id : Option String) (request : Request) (time : String)
    (document : Snapshot) (invalid : validatePathSegment request.selectedCourse.toList = false) :
    setMerge (addnewUserData u_id request time) document = none := by
  rw [setMerge,addnewUserData_valid,invalid]
  rfl

theorem course_path (course : String) :
    fieldPath ("Course." ++ course) = (fieldPath course).map ("Course"::·) := by
  have dotted : "Course." ++ course = "Course" ++ "." ++ course := rfl
  rw [dotted,fieldPath_dot _ _ (by decide)]

theorem update_document (u_id : Option String) (request : Request) (time : String) (fields : Fields)
    (path : Path) (parsed : fieldPath request.selectedCourse = some path) :
    DocumentStore.update (updateData u_id request time) (some fields) =
      some (assignMany (("Course"::path,pendingRecord)::stamp u_id request time) fields) := by
  have email : fieldPath "Email" = some ["Email"] := fieldPath_plain _ (by decide)
  have account : fieldPath "uid" = some ["uid"] := fieldPath_plain _ (by decide)
  have stamped : fieldPath "time" = some ["time"] := fieldPath_plain _ (by decide)
  have record : validate pendingRecord = true := by decide
  simp [DocumentStore.update,updateData,course_path,parsed,email,account,stamped,stamp,record,validate]

theorem update_malformed (u_id : Option String) (request : Request) (time : String)
    (document : Snapshot) (malformed : fieldPath request.selectedCourse = none) :
    DocumentStore.update (updateData u_id request time) document = none := by
  cases document with
  | none => rfl
  | some fields => simp [DocumentStore.update,updateData,course_path,malformed]

/-- One turn leaves the document alone, merges a pending record, or updates at the path that
the identifier denotes. -/
theorem advance_effect (u_id : Option String) (request : Request) (time : String) (answered : Bool)
    (document : Snapshot) (stage : Stage) :
    (advance u_id request time answered document stage).1 = document ∨
    (stage = .addnewUser ∧ answered = true ∧
      validatePathSegment request.selectedCourse.toList = true ∧
      (advance u_id request time answered document stage).1 =
        some (merge (addnewUserData u_id request time) document)) ∨
    ∃ already fields path, stage = .update already ∧ answered = true ∧ u_id ≠ none ∧
      already ≠ "false" ∧ document = some fields ∧ fieldPath request.selectedCourse = some path ∧
      (advance u_id request time answered document stage).1 =
        some (assignMany (("Course"::path,pendingRecord)::stamp u_id request time) fields) := by
  cases stage with
  | addnewUser =>
    cases answered with
    | false => exact Or.inl rfl
    | true =>
      cases valid : validatePathSegment request.selectedCourse.toList with
      | false => exact Or.inl (by simp [advance,addnewUser_invalid u_id request time document valid])
      | true =>
        have merged := addnewUser_merge u_id request time document valid
        exact Or.inr (Or.inl ⟨rfl,rfl,rfl,by simp [advance,merged]⟩)
  | update already =>
    by_cases skips : u_id = none ∨ already = "false"
    · left
      rcases skips with nobody | asked
      · simp [advance,nobody]
      · simp only [advance,asked]
        split <;> rfl
    · obtain ⟨named,asks⟩ := not_or.mp skips
      cases answered with
      | false => exact Or.inl (by simp [advance,named,asks])
      | true =>
        cases parsed : fieldPath request.selectedCourse with
        | none =>
          have malformed := update_malformed u_id request time document parsed
          exact Or.inl (by simp [advance,named,asks,malformed])
        | some path =>
          cases document with
          | none => exact Or.inl (by simp [advance,named,asks,DocumentStore.update])
          | some fields =>
            have written := update_document u_id request time fields path parsed
            refine Or.inr (Or.inr ⟨already,fields,path,rfl,rfl,named,asks,rfl,rfl,?_⟩)
            simp [advance,named,asks,written]
  | _ => exact Or.inl rfl

theorem stamp_frame (u_id : Option String) (request : Request) (time : String) (rest : Path)
    (fields : Fields) : valueAt ("Course"::rest) (assignMany (stamp u_id request time) fields) =
      valueAt ("Course"::rest) fields := by
  apply valueAt_assignMany_apart
  intro write member
  simp only [stamp,List.mem_cons,List.not_mem_nil,or_false] at member
  rcases member with rfl | rfl | rfl <;> exact apart_heads _ _ _ _ (by decide)

theorem merge_course (u_id : Option String) (request : Request) (time : String)
    (document : Snapshot) (rest : Path) :
    valueAt ("Course"::rest) (merge (addnewUserData u_id request time) document) =
      valueAt ("Course"::rest) (assignMany (recordLeaves request.selectedCourse) (document.getD [])) := by
  rw [merge,addnewUserData_leaves,assignMany_append,stamp_frame]

theorem merge_other (u_id : Option String) (request : Request) (time : String) (document : Snapshot)
    (other : String) (different : other ≠ request.selectedCourse) :
    record (some (merge (addnewUserData u_id request time) document)) other =
      record document other := by
  rw [record,Option.bind_some,merge_course]
  have frame : valueAt ["Course",other] (assignMany (recordLeaves request.selectedCourse)
      (document.getD [])) = valueAt ["Course",other] (document.getD []) := by
    apply valueAt_assignMany_apart
    intro write member
    simp only [recordLeaves,List.mem_cons,List.not_mem_nil,or_false] at member
    rcases member with rfl | rfl | rfl <;> exact apart_records _ _ _ different.symm
  rw [frame]
  cases document <;> rfl

theorem requestLeaves_apart (u_id : Option String) (request : Request) (time : String) :
    (recordLeaves request.selectedCourse ++ stamp u_id request time).Pairwise
      fun first second => Apart first.1 second.1 := by
  simp [recordLeaves,stamp,Apart,List.cons_prefix_cons]

theorem merge_leaf (u_id : Option String) (request : Request) (time : String) (document : Snapshot)
    (write : Path × Value)
    (member : write ∈ recordLeaves request.selectedCourse ++ stamp u_id request time) :
    valueAt write.1 (merge (addnewUserData u_id request time) document) = some write.2 := by
  rw [merge,addnewUserData_leaves]
  apply valueAt_assignMany _ _ (requestLeaves_apart u_id request time) write member
  intro empty
  simp only [recordLeaves,stamp,List.cons_append,List.nil_append,List.mem_cons,List.not_mem_nil,
    or_false] at member
  rcases member with rfl | rfl | rfl | rfl | rfl | rfl <;> contradiction

theorem merge_purchased (u_id : Option String) (request : Request) (time : String)
    (document : Snapshot) :
    isPurchased (some (merge (addnewUserData u_id request time) document)) request.selectedCourse =
      some (.boolean false) :=
  merge_leaf u_id request time document
    (["Course",request.selectedCourse,"isPurchased"],.boolean false) (by simp [recordLeaves])

theorem update_record (u_id : Option String) (request : Request) (time : String) (fields : Fields) :
    record (some (assignMany ((["Course",request.selectedCourse],pendingRecord)::
      stamp u_id request time) fields)) request.selectedCourse = some pendingRecord := by
  rw [record,Option.bind_some,assignMany_cons,stamp_frame,valueAt_assignAt]

theorem update_elsewhere (u_id : Option String) (request : Request) (time : String) (fields : Fields)
    (path : Path) (other : String) (proper : path ≠ []) (away : path.head? ≠ some other) :
    record (some (assignMany (("Course"::path,pendingRecord)::stamp u_id request time) fields)) other =
      record (some fields) other := by
  obtain ⟨head,below,rfl⟩ := List.exists_cons_of_ne_nil proper
  rw [record,Option.bind_some,assignMany_cons,stamp_frame,valueAt_assignAt_apart]
  · rfl
  · exact apart_records _ _ _ fun same => away (congrArg some same)

theorem update_other (u_id : Option String) (request : Request) (time : String) (fields : Fields)
    (other : String) (different : other ≠ request.selectedCourse) :
    record (some (assignMany ((["Course",request.selectedCourse],pendingRecord)::
      stamp u_id request time) fields)) other = record (some fields) other :=
  update_elsewhere u_id request time fields [request.selectedCourse] other (by simp)
    fun same => different (Option.some.inj same).symm

end VisionsAcademy.SubscriptionPage
