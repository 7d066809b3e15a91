import VisionsAcademy.Forms
import VisionsAcademy.HalfRegistered

/-! The Registration form in front of `signUpUser`. What its validators have let through is what
the accounts and the users documents hold, however attempts fail and forms are opened again. -/
namespace VisionsAcademy.SignUpAccounts
open DocumentStore DartDynamic DatabaseService Registration HalfRegistered
open Forms

structure State where
  form : SignUp.Form
  backend : Backend

inductive Label
  | edit (label : SignUp.Label)
  | onPressed (attempt : Attempt)
  | open
  | login (call : LoginCall)

/-- The texts of an attempt are those of the form; the rest is the back end's and the device's. -/
def submitted (form : SignUp.Form) (attempt : Attempt) : Attempt :=
  {attempt with
    email := (SignUp.handed form).email
    displayName := some (SignUp.handed form).displayName
    phoneNumber := some (SignUp.handed form).phoneNumber}

def step (state : State) : Label → Option State
  | .edit .onPressed => none
  | .edit label => (SignUp.step state.form label).map fun form => {state with form := form}
  | .onPressed attempt =>
    match SignUp.step state.form .onPressed with
    | none => none
    | some form =>
      if form.loading then
        if Unused attempt.uid state.backend then
          some ⟨form,(signUpUser (submitted state.form attempt) state.backend).1⟩
        else none
      else some {state with form := form}
  | .open => some {state with form := SignUp.initial}
  | .login call => some {state with backend := {state.backend with users := call.run state.backend.users}}

def Profile (backend : Backend) (uid : String) (fields : Fields) : Prop :=
  ∃ email displayName, backend.accounts.lookup email = some uid ∧
    fields.lookup "email" = some (.string email) ∧ EmailValidator.validator email = none ∧
    fields.lookup "displayName" = some (.string displayName) ∧ 4 ≤ length displayName

structure Consistent (backend : Backend) : Prop where
  valid : ∀ email uid, backend.accounts.lookup email = some uid → EmailValidator.validator email = none
  apart : ∀ first second uid, backend.accounts.lookup first = some uid →
    backend.accounts.lookup second = some uid → first = second
  documents : ∀ uid fields, backend.users uid = some fields → Profile backend uid fields

theorem submit_valid (form : SignUp.Form) (valid : SignUp.validate form = true) :
    EmailValidator.validator form.email.controller = none ∧ 4 ≤ length form.displayName := by
  simp only [SignUp.validate,Bool.and_eq_true,decide_eq_true_eq] at valid
  exact ⟨valid.1.1.1,(displayName_length _).mp valid.2⟩

theorem account_consistent (attempt : Attempt) (backend : Backend) (consistent : Consistent backend)
    (unused : Unused attempt.uid backend) (absent : backend.accounts.lookup attempt.email = none)
    (accepted : EmailValidator.validator attempt.email = none) :
    Consistent (attempt.account backend) := by
  have before (email uid : String) (held : (attempt.account backend).accounts.lookup email = some uid) :
      email = attempt.email ∧ uid = attempt.uid ∨
        backend.accounts.lookup email = some uid ∧ uid ≠ attempt.uid := by
    by_cases same : email = attempt.email
    · subst same
      have own : (attempt.account backend).accounts.lookup attempt.email = some attempt.uid :=
        Entries.lookup_assign_self _ _ _
      exact Or.inl ⟨rfl,Option.some.inj (held.symm.trans own)⟩
    · have kept : (attempt.account backend).accounts.lookup email = backend.accounts.lookup email :=
        Entries.lookup_assign_other _ _ _ _ same
      rw [kept] at held
      refine Or.inr ⟨held,?_⟩
      rintro rfl
      exact accounts_fresh backend.accounts email _ unused.1 held
  refine ⟨?_,?_,?_⟩
  · intro email uid held
    rcases before email uid held with ⟨rfl,_⟩ | ⟨earlier,_⟩
    · exact accepted
    · exact consistent.valid email uid earlier
  · intro first second uid one two
    rcases before first uid one with ⟨rfl,here⟩ | ⟨earlier,away⟩
    · rcases before second uid two with ⟨rfl,_⟩ | ⟨_,other⟩
      · rfl
      · exact absurd here other
    · rcases before second uid two with ⟨_,here⟩ | ⟨later,_⟩
      · exact absurd here away
      · exact consistent.apart first second uid earlier later
  · intro uid fields stored
    obtain ⟨email,displayName,held,rest⟩ := consistent.documents uid fields stored
    have other : email ≠ attempt.email := by
      rintro rfl
      rw [held] at absent
      contradiction
    exact ⟨email,displayName,(Entries.lookup_assign_other _ _ _ _ other).trans held,rest⟩

theorem attempt_consistent (attempt : Attempt) (backend : Backend) (consistent : Consistent backend)
    (unused : Unused attempt.uid backend) (accepted : EmailValidator.validator attempt.email = none)
    (displayName : String) (named : attempt.displayName = some displayName)
    (long : 4 ≤ length displayName) : Consistent (signUpUser attempt backend).1 := by
  by_cases absent : backend.accounts.lookup attempt.email = none
  · have made := account_consistent attempt backend consistent unused absent accepted
    rcases signUpUser_cases attempt backend with
      ⟨_,ended,_⟩ | ⟨_,ended,_⟩ | ⟨ended,_⟩ | ⟨ended,_⟩
    · rwa [ended]
    · rwa [ended]
    · rwa [ended]
    · rw [ended]
      refine ⟨made.valid,made.apart,?_⟩
      intro uid fields stored
      by_cases own : uid = attempt.uid
      · subst own
        simp only [Function.update_self] at stored
        cases stored
        refine ⟨attempt.email,displayName,Entries.lookup_assign_self _ _ _,?_,accepted,?_,long⟩
        · exact (userData_registered attempt.user attempt.devID attempt.now).email
        · have name := (userData_registered attempt.user attempt.devID attempt.now).displayName
          exact name.trans (congrArg (fun text => some (ofString text)) named)
      · simp only [Function.update_of_ne own] at stored
        exact made.documents uid fields stored
  · rwa [signUpUser_taken attempt backend absent]

theorem call_document (call : LoginCall) (users : Collection) (uid : String) (fields : Fields)
    (stored : call.run users uid = some fields) : ∃ before, users uid = some before ∧
      ∀ name, name ≠ "deviceID" → fields.lookup name = before.lookup name := by
  by_cases taken : call.uid = some uid ∧ call.accepted = true ∧ users uid ≠ none
  · obtain ⟨named,accepted,present⟩ := taken
    obtain ⟨before,found⟩ := Option.ne_none_iff_exists'.mp present
    rw [call_taken call users uid before named accepted found] at stored
    cases stored
    exact ⟨before,found,fun name other => Entries.lookup_assign_other _ _ _ _ other⟩
  · rw [call_untaken call users uid taken] at stored
    exact ⟨fields,stored,fun _ _ => rfl⟩

theorem consistent_step (state : State) (label : Label) (next : State)
    (consistent : Consistent state.backend) (taken : step state label = some next) :
    Consistent next.backend := by
  cases label with
  | edit label =>
    cases label with
    | onPressed => contradiction
    | _ =>
      obtain ⟨form,_,rfl⟩ := Option.map_eq_some_iff.mp taken
      exact consistent
  | onPressed attempt =>
    simp only [step] at taken
    split at taken
    next => contradiction
    next form pressed =>
      split at taken
      next loading =>
        split at taken
        next unused =>
          cases Option.some.inj taken
          have valid : SignUp.validate state.form = true := by
            simp only [SignUp.step] at pressed
            split at pressed
            · contradiction
            · cases pressed
              exact loading
          obtain ⟨email,name⟩ := submit_valid state.form valid
          exact attempt_consistent (submitted state.form attempt) state.backend consistent unused email
            _ rfl name
        next => contradiction
      next =>
        cases Option.some.inj taken
        exact consistent
  | «open» =>
    cases Option.some.inj taken
    exact consistent
  | login call =>
    cases Option.some.inj taken
    refine ⟨consistent.valid,consistent.apart,?_⟩
    intro uid fields stored
    obtain ⟨before,found,same⟩ := call_document call state.backend.users uid fields stored
    obtain ⟨email,displayName,held,mailed,accepted,named,long⟩ := consistent.documents uid before found
    exact ⟨email,displayName,held,(same _ (by decide)).trans mailed,accepted,
      (same _ (by decide)).trans named,long⟩

theorem signUp_consistent (start final : State) (labels : List Label)
    (consistent : Consistent start.backend)
    (reached : Runs.run step start labels = some final) : Consistent final.backend :=
  Runs.unconditional (fun state => Consistent state.backend) consistent_step start final labels consistent
    reached

def filled : SignUp.Form :=
  ⟨.edited "ann@vision.org",.edited "secret","secret","Anna","5550100",false⟩

theorem filled_valid : SignUp.validate filled = true := by decide +kernel

theorem signUp_consistent_example : ∃ final, Runs.run step ⟨filled,⟨[],fun _ => none⟩⟩
      [.onPressed ann,.login ⟨some "u1",some "phone2",true⟩] = some final ∧
    Consistent final.backend := by
  have pressed : step ⟨filled,⟨[],fun _ => none⟩⟩ (.onPressed ann) =
      some ⟨{filled with loading := true},
        (signUpUser (submitted filled ann) ⟨[],fun _ => none⟩).1⟩ := by
    have submits : SignUp.step filled .onPressed = some {filled with loading := true} := by
      rw [SignUp.step,filled_valid]
      rfl
    simp only [step,submits]
    rfl
  have reached := (Runs.run_cons _ _ [.login ⟨some "u1",some "phone2",true⟩] _).mpr ⟨_,pressed,rfl⟩
  have empty : Consistent ⟨[],fun _ => none⟩ := ⟨by simp,by simp,by simp⟩
  exact ⟨_,reached,signUp_consistent _ _ [.onPressed ann,.login ⟨some "u1",some "phone2",true⟩] empty
    reached⟩

end VisionsAcademy.SignUpAccounts
