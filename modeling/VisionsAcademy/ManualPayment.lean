import VisionsAcademy.Library.Dynamic

/-! The ManualPayment document of an account: a map Course from course identifiers
to records with isPurchased, StartDate and DueDate. Nothing about its shape is
assumed; what a missing or ill-typed part does is part of each reader. -/
namespace VisionsAcademy.ManualPayment
open DocumentStore DartDynamic

def lookupField (value : Snapshot) (selectedCourse field : String) : Except Thrown Value := do
  let courses ← index (data value) "Course"
  let record ← index courses selectedCourse
  index record field

def record (document : Snapshot) (course : String) : Option Value :=
  document.bind (valueAt ["Course",course])

def recordField (document : Snapshot) (course field : String) : Option Value :=
  document.bind (valueAt ["Course",course,field])

def isPurchased (document : Snapshot) (course : String) : Option Value :=
  recordField document course "isPurchased"

theorem recordField_of_record (document : Snapshot) (course field : String) :
    recordField document course field = (record document course).bind (Value.get [field]) := by
  cases document with
  | none => rfl
  | some fields => exact valueAt_append ["Course",course] [field] fields

theorem recordField_congr (first second : Snapshot) (course field : String)
    (same : record first course = record second course) :
    recordField first course field = recordField second course field := by
  rw [recordField_of_record,recordField_of_record,same]

theorem apart_records (course other : String) (below : Path) (different : course ≠ other) :
    Apart ("Course"::course::below) ["Course",other] := by
  rw [apart_cons]
  exact apart_heads _ _ _ _ different

theorem lookupField_path (document : Snapshot) (course field : String) :
    lookupField document course field = indexPath ["Course",course,field] (data document) := by
  simp [lookupField,indexPath]

theorem lookupField_cases (document : Snapshot) (course field : String) :
    (∃ found, recordField document course field = some found ∧
      lookupField document course field = .ok found) ∨
    (recordField document course field = none ∧ (lookupField document course field = .ok .null ∨
      ∃ thrown, lookupField document course field = .error thrown)) := by
  rw [lookupField_path]
  cases document with
  | none => exact Or.inr ⟨rfl,Or.inr ⟨.noSuchMethodError,rfl⟩⟩
  | some fields => exact indexPath_cases ["Course",course,field] (.map fields)

theorem lookupField_record (document : Snapshot) (course : String) :
    (∃ entries, record document course = some (.map entries) ∧ ∀ field,
      lookupField document course field = .ok ((entries.lookup field).getD .null)) ∨
    ((∀ entries, record document course ≠ some (.map entries)) ∧ ∃ thrown, ∀ field,
      lookupField document course field = .error thrown) := by
  have chain : ∀ field, lookupField document course field =
      (indexPath ["Course",course] (data document)).bind fun found => index found field := by
    intro field
    rw [lookupField_path]
    exact indexPath_snoc ["Course",course] field (data document)
  cases document with
  | none => exact Or.inr ⟨by simp [record],.noSuchMethodError,fun _ => rfl⟩
  | some fields =>
    rcases indexPath_cases ["Course",course] (.map fields) with
      ⟨found,reached,answer⟩ | ⟨missing,answer⟩
    · have located : record (some fields) course = some found := reached
      rcases index_cases found with ⟨entries,rfl⟩ | ⟨other,thrown,failed⟩
      · refine Or.inl ⟨entries,located,fun field => ?_⟩
        rw [chain,data,answer]
        rfl
      · refine Or.inr ⟨by simpa [located] using other,thrown,fun field => ?_⟩
        rw [chain,data,answer]
        exact failed field
    · have absent : record (some fields) course = none := missing
      refine Or.inr ⟨by simp [absent],?_⟩
      rcases answer with answer | ⟨thrown,answer⟩
      · refine ⟨.noSuchMethodError,fun field => ?_⟩
        rw [chain,data,answer]
        rfl
      · refine ⟨thrown,fun field => ?_⟩
        rw [chain,data,answer]
        rfl

end VisionsAcademy.ManualPayment
