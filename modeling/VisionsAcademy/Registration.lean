import VisionsAcademy.Library.Runs
import VisionsAcademy.DatabaseService

/-! Registration from the button of lib/register_login/registration.dart through
`AuthService.signUpUser` to the users document. An attempt carries the texts of the
form and what each of its three calls meets; the account id is the back end's and
has never been used before. -/
namespace VisionsAcademy.Registration
open DocumentStore DartDynamic DatabaseService

structure Attempt where
  email : String
  displayName : Option String
  phoneNumber : Option String
  devID : Option String
  uid : String
  photoURL : Option String
  now : Int × Nat
  accountFault : Option Thrown
  profileFault : Option Thrown
  documentAccepted : Bool

structure Backend where
  accounts : List (String × String)
  users : Collection

def createUserWithEmailAndPassword (attempt : Attempt) (backend : Backend) : Except Thrown Backend :=
  match attempt.accountFault with
  | some thrown => .error thrown
  | none =>
    if (backend.accounts.lookup attempt.email).isSome then .error .firebaseException
    else .ok {backend with accounts := Entries.assign attempt.email attempt.uid backend.accounts}

def caught : Thrown → Option String
  | .platformException message => message
  | _ => none

def Attempt.user (attempt : Attempt) : UserModel :=
  ⟨some attempt.uid,some attempt.email,some attempt.now,attempt.displayName,attempt.phoneNumber,
    attempt.photoURL,attempt.devID⟩

def signUpUser (attempt : Attempt) (backend : Backend) : Backend × Option String :=
  match createUserWithEmailAndPassword attempt backend with
  | .error thrown => (backend,caught thrown)
  | .ok created =>
    match attempt.profileFault with
    | some thrown => (created,caught thrown)
    | none =>
      let result := createUser attempt.user attempt.devID attempt.now attempt.documentAccepted created.users
      ({created with users := result.1},some (if result.2 = some "success" then "success" else "error"))

/-- The back end with the registration screen: whether it is on display, and its flag. -/
structure State extends Backend where
  shown : Bool
  loading : Bool

def onPressed (attempt : Attempt) (state : State) : State × Option String :=
  let result := signUpUser attempt state.toBackend
  -- `loading` is set before the call, and `_signUpUser` never sets it back.
  if result.2 = some "success" then (⟨result.1,false,true⟩,result.2)
  else (⟨result.1,state.shown,true⟩,result.2)

inductive Label
  | press (attempt : Attempt)
  | open

def Fresh (uid : String) (state : State) : Prop :=
  uid ∉ state.accounts.map Prod.snd ∧ (state.users uid).isNone

instance (uid : String) (state : State) : Decidable (Fresh uid state) :=
  inferInstanceAs (Decidable (_ ∧ _))

def step (state : State) : Label → Option State
  | .press attempt =>
    if state.shown ∧ state.loading = false ∧ Fresh attempt.uid state then
      some (onPressed attempt state).1 else none
  | .open => some {state with shown := true, loading := false}

/-- Anything but "success" leaves accounts, users and the flag alone; "success"
means that this attempt's account and its document are there. -/
def AllOrNothing (state : State) : Label → Prop
  | .press attempt =>
    let after := (onPressed attempt state).1
    let answer := (onPressed attempt state).2
    (answer ≠ some "success" → after.accounts = state.accounts ∧ after.users = state.users ∧
      after.loading = state.loading) ∧
    (answer = some "success" → after.accounts.lookup attempt.email = some attempt.uid ∧
      after.users attempt.uid ≠ none)
  | .open => True

def Unhindered (state : State) : Label → Prop
  | .press attempt => state.accounts.lookup attempt.email = none ∧ attempt.accountFault = none ∧
      attempt.profileFault = none ∧ attempt.documentAccepted = true
  | .open => True

def Attempt.account (attempt : Attempt) (backend : Backend) : Backend :=
  {backend with accounts := Entries.assign attempt.email attempt.uid backend.accounts}

theorem account_created (attempt : Attempt) (backend created : Backend)
    (ok : createUserWithEmailAndPassword attempt backend = .ok created) :
    attempt.accountFault = none ∧ backend.accounts.lookup attempt.email = none ∧
      created = attempt.account backend := by
  unfold createUserWithEmailAndPassword at ok
  cases fault : attempt.accountFault with
  | some thrown => simp [fault] at ok
  | none =>
    simp only [fault] at ok
    split at ok
    · contradiction
    next absent =>
      exact ⟨rfl,Option.not_isSome_iff_eq_none.mp absent,(Except.ok.inj ok).symm⟩

theorem createUser_answer (attempt : Attempt) (users : Collection) :
    createUser attempt.user attempt.devID attempt.now attempt.documentAccepted users =
      if attempt.documentAccepted then
        (Function.update users attempt.uid (some (userData attempt.user attempt.devID attempt.now)),
          some "success")
      else (users,none) := rfl

theorem signUpUser_cases (attempt : Attempt) (backend : Backend) :
    (∃ answer, signUpUser attempt backend = (backend,answer) ∧
      ¬ (attempt.accountFault = none ∧ backend.accounts.lookup attempt.email = none)) ∨
    (∃ answer, signUpUser attempt backend = (attempt.account backend,answer) ∧
      attempt.profileFault ≠ none) ∨
    (signUpUser attempt backend = (attempt.account backend,some "error") ∧
      attempt.documentAccepted = false) ∨
    (signUpUser attempt backend = ({attempt.account backend with
        users := Function.update backend.users attempt.uid
          (some (userData attempt.user attempt.devID attempt.now))},some "success") ∧
      attempt.accountFault = none ∧ backend.accounts.lookup attempt.email = none ∧
      attempt.profileFault = none ∧ attempt.documentAccepted = true) := by
  cases call : createUserWithEmailAndPassword attempt backend with
  | error thrown =>
    refine Or.inl ⟨caught thrown,by simp only [signUpUser,call],?_⟩
    rintro ⟨working,absent⟩
    simp [createUserWithEmailAndPassword,working,absent] at call
  | ok created =>
    obtain ⟨working,absent,rfl⟩ := account_created attempt backend created call
    cases profile : attempt.profileFault with
    | some thrown =>
      exact Or.inr (Or.inl ⟨caught thrown,by simp only [signUpUser,call,profile],by simp⟩)
    | none =>
      cases accepted : attempt.documentAccepted with
      | false =>
        refine Or.inr (Or.inr (Or.inl ⟨?_,rfl⟩))
        simp only [signUpUser,call,profile,createUser_answer]
        simp [accepted]
      | true =>
        refine Or.inr (Or.inr (Or.inr ⟨?_,working,absent,rfl,rfl⟩))
        simp only [signUpUser,call,profile,createUser_answer]
        simp [accepted,Attempt.account]

theorem onPressed_answer (attempt : Attempt) (state : State) :
    (onPressed attempt state).2 = (signUpUser attempt state.toBackend).2 := by
  simp only [onPressed]
  split <;> rfl

theorem onPressed_backend (attempt : Attempt) (state : State) :
    (onPressed attempt state).1.toBackend = (signUpUser attempt state.toBackend).1 := by
  simp only [onPressed]
  split <;> rfl

theorem onPressed_loading (attempt : Attempt) (state : State) :
    (onPressed attempt state).1.loading = true := by
  simp only [onPressed]
  split <;> rfl

theorem accounts_fresh (accounts : List (String × String)) (email uid : String)
    (fresh : uid ∉ accounts.map Prod.snd) : accounts.lookup email ≠ some uid := by
  intro found
  obtain ⟨before,after,same,_⟩ := List.lookup_eq_some_iff.mp found
  exact fresh (by simp [same])

theorem press_allOrNothing (attempt : Attempt) (state : State)
    (idle : state.loading = false) (fresh : Fresh attempt.uid state) :
    AllOrNothing state (.press attempt) ↔ Unhindered state (.press attempt) := by
  have answer := onPressed_answer attempt state
  have backend := onPressed_backend attempt state
  have loading := onPressed_loading attempt state
  have stuck (incomplete : (onPressed attempt state).2 ≠ some "success") :
      ¬ AllOrNothing state (.press attempt) := by
    intro holds
    have same := (holds.1 incomplete).2.2
    rw [loading,idle] at same
    contradiction
  constructor
  · intro holds
    by_cases success : (onPressed attempt state).2 = some "success"
    · obtain ⟨account,document⟩ := holds.2 success
      rcases signUpUser_cases attempt state.toBackend with
        ⟨_,ended,_⟩ | ⟨_,ended,_⟩ | ⟨ended,_⟩ | ⟨_,working,absent,profile,accepted⟩
      · rw [backend,ended] at account
        exact absurd account (accounts_fresh _ _ _ fresh.1)
      · rw [backend,ended] at document
        exact absurd (Option.isNone_iff_eq_none.mp fresh.2) document
      · rw [answer,ended] at success
        simp at success
      · exact ⟨absent,working,profile,accepted⟩
    · exact absurd holds (stuck success)
  · rintro ⟨absent,working,profile,accepted⟩
    rcases signUpUser_cases attempt state.toBackend with
      ⟨_,_,hindered⟩ | ⟨_,_,hindered⟩ | ⟨_,hindered⟩ | ⟨ended,_⟩
    · exact absurd ⟨working,absent⟩ hindered
    · exact absurd profile hindered
    · rw [accepted] at hindered
      contradiction
    · rw [ended] at answer backend
      refine ⟨fun incomplete => absurd answer incomplete,fun _ => ?_⟩
      rw [backend]
      simp [Attempt.account]

theorem run_allOrNothing (state : State) (labels : List Label) :
    Runs.Along step AllOrNothing state labels ↔ Runs.Along step Unhindered state labels := by
  apply Runs.along_exact
  intro state label next taken
  cases label with
  | «open» => exact Iff.rfl
  | press attempt =>
    simp only [step] at taken
    split at taken
    next enabled => exact press_allOrNothing attempt state enabled.2.1 enabled.2.2
    next => contradiction

def ann : Attempt :=
  ⟨"ann@vision.org",some "Ann",some "5550100",some "phone1","u1",none,(1700000000,0),none,none,true⟩

theorem refused_document :
    ¬ Runs.Along step AllOrNothing ⟨⟨[],fun _ => none⟩,true,false⟩
      [.press {ann with documentAccepted := false}] := by
  intro along
  have allOrNothing := (along _ rfl).1
  have unchanged := (allOrNothing.1 (by decide)).1
  change [("ann@vision.org","u1")] = [] at unchanged
  contradiction

end VisionsAcademy.Registration
