import VisionsAcademy.Library.Runs
import VisionsAcademy.SubscriptionPage

/-! Presses of one account from any number of devices, with their reads and writes
interleaved, and approvals from outside. The document is shared; each press has
its own stage. -/
namespace VisionsAcademy.RequestInterleaving
open DocumentStore DartDynamic ManualPayment SubscriptionPage

structure State where
  document : Snapshot
  presses : List (Request × Stage)

inductive Label
  | press (request : Request)
  | advance (press : Nat) (time : String) (answered : Bool)
  | approve (course : String) (dates : List (String × Value))

def approval (course : String) (dates : List (String × Value)) : List (Path × Value) :=
  (["Course",course,"isPurchased"],.boolean true)::
    dates.map fun date => (["Course",course,date.1],toStore date.2)

def step (uid : String) (state : State) : Label → Option State
  | .press request => some {state with presses := state.presses ++ [(request,.checkFirstTime)]}
  | .advance press time answered =>
    match state.presses[press]? with
    | some (request,stage) =>
      let result := advance (some uid) request time answered state.document stage
      some ⟨result.1,state.presses.set press (request,result.2)⟩
    | none => none
  | .approve course dates =>
    some {state with document := some (assignMany (approval course dates) (state.document.getD []))}

def Approved (document : Snapshot) (course : String) : Prop :=
  isPurchased document course = some (.boolean true)

def Cleared (before after : Option Value) : Prop :=
  (before ≠ none ∧ before ≠ some .null) ∧ (after = none ∨ after = some .null)

def Clobbers (before after : Snapshot) : Prop :=
  ∃ course, Approved before course ∧ (isPurchased after course = some (.boolean false) ∨
    Cleared (recordField before course "StartDate") (recordField after course "StartDate") ∨
    Cleared (recordField before course "DueDate") (recordField after course "DueDate"))

/-- Presses and their turns clobber nothing; approvals come from outside. -/
def Keeps (uid : String) (state : State) : Label → Prop
  | .approve _ _ => True
  | label => ∀ next, step uid state label = some next → ¬ Clobbers state.document next.document

def WritesRecord (request : Request) (answered : Bool) : Stage → Prop
  | .addnewUser => answered = true ∧ validatePathSegment request.selectedCourse.toList = true
  | .update already => answered = true ∧ already ≠ "false" ∧
      fieldPath request.selectedCourse = some [request.selectedCourse]
  | _ => False

def Unapproved (state : State) : Label → Prop
  | .advance press _ answered => ∀ request stage, state.presses[press]? = some (request,stage) →
      WritesRecord request answered stage → ¬ Approved state.document request.selectedCourse
  | _ => True

theorem cleared_self (value : Option Value) : ¬ Cleared value value := by
  rintro ⟨⟨present,nonnull⟩,missing | null⟩
  · exact present missing
  · exact nonnull null

theorem clobbers_self (document : Snapshot) : ¬ Clobbers document document := by
  rintro ⟨course,approved,changed | cleared | cleared⟩
  · rw [Approved,changed] at approved
    simp at approved
  · exact cleared_self _ cleared
  · exact cleared_self _ cleared

theorem clobbers_iff (before after : Snapshot) (course : String)
    (requested : isPurchased after course = some (.boolean false))
    (frame : ∀ other, other ≠ course → record after other = record before other) :
    Clobbers before after ↔ Approved before course := by
  constructor
  · rintro ⟨other,approved,changed⟩
    by_cases same : other = course
    · exact same ▸ approved
    · have field (name : String) : recordField after other name = recordField before other name :=
        recordField_congr _ _ _ _ (frame other same)
      refine absurd ⟨other,approved,?_⟩ (clobbers_self before)
      simpa only [isPurchased,field] using changed
  · intro approved
    exact ⟨course,approved,Or.inl requested⟩

theorem deep_field (fields entries : Fields) (first second : String) (rest : Path)
    (course field : String) :
    valueAt ["Course",course,field]
        (assignAt ("Course"::first::second::rest) (.map entries) fields) =
      valueAt ["Course",course,field] fields ∨
    ∃ inner, valueAt ["Course",course,field]
        (assignAt ("Course"::first::second::rest) (.map entries) fields) = some (.map inner) := by
  by_cases hit : course = first ∧ field = second
  · obtain ⟨rfl,rfl⟩ := hit
    right
    cases rest with
    | nil => exact ⟨entries,valueAt_assignAt _ _ _ _⟩
    | cons key later =>
      exact Value.get_assign_above ["Course",course,field] (key::later) (.map entries)
        (.map fields) (by simp)
  · left
    apply valueAt_assignAt_apart
    rw [apart_cons]
    by_cases same : first = course
    · subst same
      rw [apart_cons]
      exact apart_heads _ _ _ _ fun equal => hit ⟨rfl,equal.symm⟩
    · exact apart_heads _ _ _ _ same

theorem harmless (before after : Snapshot)
    (fields : ∀ course field, recordField after course field = recordField before course field ∨
      ∃ entries, recordField after course field = some (.map entries)) : ¬ Clobbers before after := by
  have intact (course field : String) :
      ¬ Cleared (recordField before course field) (recordField after course field) := by
    rcases fields course field with same | ⟨entries,found⟩
    · rw [same]
      exact cleared_self _
    · rw [found]
      rintro ⟨_,missing | null⟩
      · contradiction
      · simp at null
  rintro ⟨course,approved,changed | cleared | cleared⟩
  · rcases fields course "isPurchased" with same | ⟨entries,found⟩
    · rw [isPurchased,same,← isPurchased,approved] at changed
      simp at changed
    · rw [isPurchased,found] at changed
      simp at changed
  · exact intact _ _ cleared
  · exact intact _ _ cleared

theorem updated_clobbers (u_id : Option String) (request : Request) (time : String) (fields : Fields)
    (path : Path) (parsed : fieldPath request.selectedCourse = some path) :
    Clobbers (some fields)
      (some (assignMany (("Course"::path,pendingRecord)::stamp u_id request time) fields)) ↔
    path = [request.selectedCourse] ∧ Approved (some fields) request.selectedCourse := by
  rcases fieldPath_cases _ path parsed with rfl | ⟨first,second,rest,rfl⟩
  · rw [clobbers_iff _ _ request.selectedCourse]
    · simp
    · rw [isPurchased,recordField_of_record,update_record]
      rfl
    · exact fun other different => update_other u_id request time fields other different
  · refine iff_of_false (harmless _ _ ?_) (by simp)
    intro course field
    simp only [recordField,Option.bind_some,assignMany_cons,stamp_frame]
    exact deep_field fields _ first second rest course field

theorem advance_clobbers (uid : String) (request : Request) (time : String) (answered : Bool)
    (document : Snapshot) (stage : Stage) :
    Clobbers document (advance (some uid) request time answered document stage).1 ↔
      WritesRecord request answered stage ∧ Approved document request.selectedCourse := by
  have still : ¬ WritesRecord request answered stage →
      (advance (some uid) request time answered document stage).1 = document →
      (Clobbers document (advance (some uid) request time answered document stage).1 ↔
        WritesRecord request answered stage ∧ Approved document request.selectedCourse) := by
    intro silent same
    rw [same]
    exact iff_of_false (clobbers_self document) fun both => silent both.1
  cases stage with
  | checkFirstTime | get | finished alert | skipped | threw => exact still (by simp [WritesRecord]) rfl
  | addnewUser =>
    cases answered with
    | false => exact still (by simp [WritesRecord]) rfl
    | true =>
      cases valid : validatePathSegment request.selectedCourse.toList with
      | false =>
        exact still (by simp [WritesRecord,valid])
          (by simp [advance,addnewUser_invalid (some uid) request time document valid])
      | true =>
        have merged := addnewUser_merge (some uid) request time document valid
        simp only [advance,merged,if_true]
        rw [clobbers_iff _ _ request.selectedCourse (merge_purchased (some uid) request time document)
          (fun other different => merge_other (some uid) request time document other different)]
        simp [WritesRecord,valid]
  | update already =>
    by_cases asked : already = "false"
    · exact still (by simp [WritesRecord,asked]) (by simp [advance,asked])
    · cases answered with
      | false => exact still (by simp [WritesRecord]) (by simp [advance,asked])
      | true =>
        cases parsed : fieldPath request.selectedCourse with
        | none =>
          exact still (by simp [WritesRecord,parsed])
            (by simp [advance,asked,update_malformed (some uid) request time document parsed])
        | some path =>
          cases document with
          | none =>
            refine iff_of_false ?_ (by simp [Approved,isPurchased,recordField])
            simpa [advance,asked,DocumentStore.update] using clobbers_self none
          | some fields =>
            have written := update_document (some uid) request time fields path parsed
            simp only [advance,asked,ne_eq,not_false_eq_true,if_true,written,reduceCtorEq,if_false]
            rw [updated_clobbers (some uid) request time fields path parsed]
            simp [WritesRecord,asked,parsed]

theorem run_keeps (uid : String) (document : Snapshot) (labels : List Label) :
    Runs.Along (step uid) (Keeps uid) ⟨document,[]⟩ labels ↔
      Runs.Along (step uid) Unapproved ⟨document,[]⟩ labels := by
  apply Runs.along_exact
  intro state label next taken
  cases label with
  | approve course dates => exact Iff.rfl
  | press request =>
    refine iff_of_true ?_ trivial
    rintro _ ⟨⟩
    exact clobbers_self state.document
  | advance press time answered =>
    have moved := taken
    simp only [step] at taken
    split at taken
    next request stage found =>
      cases Option.some.inj taken
      have clobbers := advance_clobbers uid request time answered state.document stage
      constructor
      · intro keeps _ _ same writes approved
        cases found.symm.trans same
        exact keeps _ moved (clobbers.mpr ⟨writes,approved⟩)
      · intro unapproved after again clobbered
        cases Option.some.inj (moved.symm.trans again)
        obtain ⟨writes,approved⟩ := clobbers.mp clobbered
        exact unapproved request stage found writes approved
    next => contradiction

theorem approved_overwritten :
    ¬ Runs.Along (step "u1") (Keeps "u1")
      ⟨some [("Course",.map [("moodle",.map [("isPurchased",.boolean true),
        ("StartDate",.timestamp 1700000000 0),("DueDate",.timestamp 1800000000 0)])])],[]⟩
      [.press ⟨"moodle",none⟩,.advance 0 "t1" true,.advance 0 "t2" true,.advance 0 "t3" true] := by
  intro along
  obtain ⟨_,along⟩ := along _ rfl
  obtain ⟨_,along⟩ := along _ rfl
  obtain ⟨_,along⟩ := along _ rfl
  exact (along _ rfl).1 _ rfl ⟨"moodle",rfl,Or.inl rfl⟩

end VisionsAcademy.RequestInterleaving
