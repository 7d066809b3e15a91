import VisionsAcademy.Library.Runs
import VisionsAcademy.EmailValidator

/-! The Login and Registration forms. Each keeps its email and password twice, in the
controllers of the fields and in state variables that `onChanged` sets; Login submits the
variables, Registration the controllers. -/
namespace VisionsAcademy.Forms

/-- `String.length` counts UTF-16 code units: a character outside the basic plane is two. -/
def length (text : String) : Nat :=
  text.toList.length + text.toList.countP fun character => 65536 ≤ character.toNat

def passwordValidator (pwValue : String) : Option String :=
  if pwValue.isEmpty then some "This field is mandatory"
  else if length pwValue < 6 then some "Password must be at least 6 characters"
  else none

def confirmPasswordValidator (password : Option String) (pwConfValue : String) : Option String :=
  if some pwConfValue ≠ password then some "Passwords must match" else none

def displayNameValidator (displayName : String) : Option String :=
  if displayName.isEmpty then some "This field is fullName"
  else if length displayName < 4 then some "Name must be at least 2 Word long"
  else none

/-- A field with the text of its controller and the state variable of its `onChanged`. -/
structure Field where
  controller : String
  stored : Option String

def Field.initial : Field := ⟨"",none⟩

def Field.edited (textValue : String) : Field := ⟨textValue,some textValue⟩

def Synchronized (field : Field) : Prop :=
  field.stored = some field.controller ∨ (field.stored = none ∧ field.controller = "")

theorem synchronized_initial : Synchronized .initial := Or.inr ⟨rfl,rfl⟩

theorem synchronized_edited (textValue : String) : Synchronized (.edited textValue) := Or.inl rfl

theorem synchronized_stored (field : Field) (validator : String → Option String)
    (synchronized : Synchronized field) (mandatory : validator "" ≠ none)
    (accepted : validator field.controller = none) : field.stored = some field.controller := by
  rcases synchronized with same | ⟨_,empty⟩
  · exact same
  · rw [empty] at accepted
    exact absurd accepted mandatory

theorem email_mandatory : EmailValidator.validator "" ≠ none := by
  simp [EmailValidator.validator]

theorem password_mandatory : passwordValidator "" ≠ none := by
  simp [passwordValidator]

theorem length_empty (text : String) (empty : text.isEmpty = true) : length text = 0 := by
  obtain rfl : text = "" := by simpa using empty
  rfl

theorem password_length (pwValue : String) : passwordValidator pwValue = none ↔ 6 ≤ length pwValue := by
  unfold passwordValidator
  split
  next empty => simp [length_empty pwValue empty]
  next => split <;> simp <;> omega

theorem displayName_length (displayName : String) :
    displayNameValidator displayName = none ↔ 4 ≤ length displayName := by
  unfold displayNameValidator
  split
  next empty => simp [length_empty displayName empty]
  next => split <;> simp <;> omega

namespace LogIn

structure Form where
  email : Field
  password : Field
  loading : Bool

def initial : Form := ⟨.initial,.initial,false⟩

def validate (form : Form) : Bool :=
  EmailValidator.validator form.email.controller = none &&
    passwordValidator form.password.controller = none

/-- The arguments of `signInWithEmailAndPassword`. -/
def handed (form : Form) : Option String × Option String :=
  (form.email.stored,form.password.stored)

inductive Label
  | email (textValue : String)
  | password (textValue : String)
  | onPressed
  | failed

def step (form : Form) : Label → Option Form
  | .email textValue =>
    if form.loading then none else some {form with email := .edited textValue}
  | .password textValue =>
    if form.loading then none else some {form with password := .edited textValue}
  | .onPressed =>
    if form.loading then none else some {form with loading := validate form}
  -- The form is built again over the same controllers and variables.
  | .failed => if form.loading then some {form with loading := false} else none

def Sound (form : Form) : Label → Prop
  | .onPressed => validate form = true →
      handed form = (some form.email.controller,some form.password.controller) ∧
      EmailValidator.validator form.email.controller = none ∧
      passwordValidator form.password.controller = none
  | _ => True

def InStep (form : Form) : Prop := Synchronized form.email ∧ Synchronized form.password

theorem inStep_step (form : Form) (label : Label) (next : Form) (inStep : InStep form)
    (taken : step form label = some next) : InStep next := by
  cases label <;> simp only [step] at taken <;> split at taken <;> cases taken
  · exact ⟨synchronized_edited _,inStep.2⟩
  · exact ⟨inStep.1,synchronized_edited _⟩
  · exact inStep
  · exact inStep

theorem sound (form : Form) (label : Label) (inStep : InStep form) : Sound form label := by
  cases label with
  | onPressed =>
    intro valid
    simp only [validate,Bool.and_eq_true,decide_eq_true_eq] at valid
    refine ⟨?_,valid⟩
    rw [handed,synchronized_stored _ _ inStep.1 email_mandatory valid.1,
      synchronized_stored _ _ inStep.2 password_mandatory valid.2]
  | _ => trivial

theorem pressed (form : Form) (waiting : form.loading = false) (valid : validate form = true) :
    step form .onPressed = some {form with loading := true} := by
  simp [step,waiting,valid]

/-- From any form that is not waiting, texts that the validators accept come to be submitted. -/
theorem submits (form : Form) (waiting : form.loading = false) (email password : String)
    (address : EmailValidator.Core email.toList) (long : 6 ≤ length password) :
    ∃ filled, Runs.run step form [.email email,.password password] = some filled ∧
      validate filled = true ∧ handed filled = (some email,some password) ∧
      step filled .onPressed = some {filled with loading := true} := by
  let filled : Form := {form with email := .edited email, password := .edited password}
  have mail := (EmailValidator.validator_core email).mpr address
  have enough := (password_length password).mpr long
  have valid : validate filled = true := by simp [validate,filled,Field.edited,mail,enough]
  exact ⟨filled,by simp [Runs.run,step,waiting,filled],valid,rfl,pressed filled waiting valid⟩

end LogIn

namespace SignUp

structure Form where
  email : Field
  password : Field
  confirmPassword : String
  displayName : String
  phone : String
  loading : Bool

def initial : Form := ⟨.initial,.initial,"","","",false⟩

def validate (form : Form) : Bool :=
  EmailValidator.validator form.email.controller = none &&
    passwordValidator form.password.controller = none &&
    confirmPasswordValidator form.password.stored form.confirmPassword = none &&
    displayNameValidator form.displayName = none

structure Submission where
  email : String
  password : String
  displayName : String
  phoneNumber : String

/-- The arguments of `_signUpUser`. -/
def handed (form : Form) : Submission :=
  ⟨form.email.controller,form.password.controller,form.displayName,form.phone⟩

inductive Label
  | email (textValue : String)
  | password (textValue : String)
  | confirmPassword (textValue : String)
  | displayName (textValue : String)
  | phone (textValue : String)
  | onPressed

def step (form : Form) (label : Label) : Option Form :=
  if form.loading then none
  else some (match label with
    | .email textValue => {form with email := .edited textValue}
    | .password textValue => {form with password := .edited textValue}
    | .confirmPassword textValue => {form with confirmPassword := textValue}
    | .displayName textValue => {form with displayName := textValue}
    | .phone textValue => {form with phone := textValue}
    -- Nothing sets `loading` back.
    | .onPressed => {form with loading := validate form})

def Sound (form : Form) : Label → Prop
  | .onPressed => validate form = true →
      (handed form).email = form.email.controller ∧
      EmailValidator.validator (handed form).email = none ∧
      (handed form).password = form.password.controller ∧
      passwordValidator (handed form).password = none ∧
      (handed form).password = form.confirmPassword ∧ 6 ≤ length (handed form).password
  | _ => True

def InStep (form : Form) : Prop := Synchronized form.password

theorem inStep_step (form : Form) (label : Label) (next : Form) (inStep : InStep form)
    (taken : step form label = some next) : InStep next := by
  simp only [step] at taken
  split at taken
  · contradiction
  · cases taken
    cases label with
    | password textValue => exact synchronized_edited _
    | _ => exact inStep

theorem sound (form : Form) (label : Label) (inStep : InStep form) : Sound form label := by
  cases label with
  | onPressed =>
    intro valid
    simp only [validate,Bool.and_eq_true,decide_eq_true_eq] at valid
    obtain ⟨⟨⟨email,password⟩,confirmed⟩,_⟩ := valid
    have stored := synchronized_stored _ _ inStep password_mandatory password
    refine ⟨rfl,email,rfl,password,?_,(password_length _).mp password⟩
    simp only [confirmPasswordValidator,stored] at confirmed
    split at confirmed
    · contradiction
    next same =>
      simp only [ne_eq,not_not,Option.some.injEq] at same
      exact same.symm
  | _ => trivial

theorem pressed (form : Form) (waiting : form.loading = false) (valid : validate form = true) :
    step form .onPressed = some {form with loading := true} := by
  simp [step,waiting,valid]

theorem submits (form : Form) (waiting : form.loading = false) (email password displayName : String)
    (address : EmailValidator.Core email.toList) (long : 6 ≤ length password)
    (named : 4 ≤ length displayName) :
    ∃ filled, Runs.run step form [.email email,.password password,.confirmPassword password,
        .displayName displayName] = some filled ∧
      validate filled = true ∧ handed filled = ⟨email,password,displayName,form.phone⟩ ∧
      step filled .onPressed = some {filled with loading := true} := by
  let filled : Form := {form with
    email := .edited email
    password := .edited password
    confirmPassword := password
    displayName := displayName}
  have mail := (EmailValidator.validator_core email).mpr address
  have enough := (password_length password).mpr long
  have confirmed : confirmPasswordValidator (some password) password = none := by
    simp [confirmPasswordValidator]
  have title := (displayName_length displayName).mpr named
  have valid : validate filled = true := by
    simp [validate,filled,Field.edited,mail,enough,confirmed,title]
  exact ⟨filled,by simp [Runs.run,step,waiting,filled],valid,rfl,pressed filled waiting valid⟩

example : ∃ filled, Runs.run step initial [.email "ann@vision.org",.password "secret",
    .confirmPassword "secret",.displayName "Anna"] = some filled ∧ validate filled = true :=
  ⟨_,rfl,by decide +kernel⟩

end SignUp

theorem submits_sound (logIn : List LogIn.Label) (signUp : List SignUp.Label) :
    Runs.Along LogIn.step LogIn.Sound LogIn.initial logIn ∧
    Runs.Along SignUp.step SignUp.Sound SignUp.initial signUp := by
  constructor
  · exact Runs.along_invariant LogIn.InStep LogIn.Sound LogIn.inStep_step LogIn.sound _ logIn
      ⟨synchronized_initial,synchronized_initial⟩
  · exact Runs.along_invariant SignUp.InStep SignUp.Sound SignUp.inStep_step SignUp.sound _ signUp
      synchronized_initial

end VisionsAcademy.Forms
