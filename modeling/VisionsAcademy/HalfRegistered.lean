import VisionsAcademy.Library.Refinement
import VisionsAcademy.Registration
import VisionsAcademy.DeviceBinding

/-! Accounts whose registration breaks off after `createUserWithEmailAndPassword`. Registrations and
logins are what writes users documents, and neither makes up for a missing one. -/
namespace VisionsAcademy.HalfRegistered
open DocumentStore DartDynamic DatabaseService Registration

inductive Label
  | register (attempt : Attempt)
  | login (call : LoginCall)

/-- The back end gives every account a uid of its own. -/
def Unused (uid : String) (backend : Backend) : Prop :=
  uid ∉ backend.accounts.map Prod.snd ∧ (backend.users uid).isNone

instance (uid : String) (backend : Backend) : Decidable (Unused uid backend) :=
  inferInstanceAs (Decidable (_ ∧ _))

def step (backend : Backend) : Label → Option Backend
  | .register attempt =>
    if Unused attempt.uid backend then some (signUpUser attempt backend).1 else none
  | .login call => some {backend with users := call.run backend.users}

structure Made (email uid : String) (documented : Bool) (backend : Backend) : Prop where
  account : backend.accounts.lookup email = some uid
  document : (backend.users uid).isSome = documented

theorem call_isSome (call : LoginCall) (users : Collection) (uid : String) :
    (call.run users uid).isSome = (users uid).isSome := by
  by_cases taken : call.uid = some uid ∧ call.accepted = true ∧ users uid ≠ none
  · obtain ⟨named,accepted,present⟩ := taken
    obtain ⟨fields,found⟩ := Option.ne_none_iff_exists'.mp present
    rw [call_taken call users uid fields named accepted found,found]
    rfl
  · rw [call_untaken call users uid taken]

theorem signUpUser_taken (attempt : Attempt) (backend : Backend)
    (taken : backend.accounts.lookup attempt.email ≠ none) :
    (signUpUser attempt backend).1 = backend := by
  have refused : ∃ thrown, createUserWithEmailAndPassword attempt backend = .error thrown := by
    unfold createUserWithEmailAndPassword
    split
    next thrown _ => exact ⟨thrown,rfl⟩
    next => exact ⟨.firebaseException,if_pos (Option.isSome_iff_ne_none.mpr taken)⟩
  obtain ⟨thrown,refused⟩ := refused
  rw [signUpUser,refused]

theorem made_attempt (email uid : String) (documented : Bool) (backend : Backend) (attempt : Attempt)
    (made : Made email uid documented backend) (unused : Unused attempt.uid backend) :
    Made email uid documented (signUpUser attempt backend).1 := by
  by_cases absent : backend.accounts.lookup attempt.email = none
  · have different : uid ≠ attempt.uid := by
      rintro rfl
      exact accounts_fresh backend.accounts email _ unused.1 made.account
    have other : email ≠ attempt.email := by
      rintro rfl
      rw [made.account] at absent
      contradiction
    have account : (attempt.account backend).accounts.lookup email = some uid :=
      (Entries.lookup_assign_other _ _ _ _ other).trans made.account
    rcases signUpUser_cases attempt backend with
      ⟨_,ended,_⟩ | ⟨_,ended,_⟩ | ⟨ended,_⟩ | ⟨ended,_⟩
    · rwa [ended]
    · rw [ended]
      exact ⟨account,made.document⟩
    · rw [ended]
      exact ⟨account,made.document⟩
    · rw [ended]
      refine ⟨account,?_⟩
      rw [← made.document]
      exact congrArg Option.isSome (Function.update_of_ne different _ _)
  · rwa [signUpUser_taken attempt backend absent]

theorem made_step (email uid : String) (documented : Bool) (backend : Backend) (label : Label)
    (next : Backend) (made : Made email uid documented backend) (taken : step backend label = some next) :
    Made email uid documented next := by
  cases label with
  | login call =>
    cases Option.some.inj taken
    exact ⟨made.account,(call_isSome call backend.users uid).trans made.document⟩
  | register attempt =>
    simp only [step] at taken
    split at taken
    next unused =>
      cases Option.some.inj taken
      exact made_attempt email uid documented backend attempt made unused
    next => contradiction

theorem attempt_made (attempt : Attempt) (backend : Backend) (working : attempt.accountFault = none)
    (unused : Unused attempt.uid backend) :
    ∃ owner documented, Made attempt.email owner documented (signUpUser attempt backend).1 ∧
      (owner = attempt.uid →
        (documented = true ↔ attempt.profileFault = none ∧ attempt.documentAccepted = true)) := by
  cases held : backend.accounts.lookup attempt.email with
  | some owner =>
    refine ⟨owner,(backend.users owner).isSome,?_,?_⟩
    · rw [signUpUser_taken attempt backend (by simp [held])]
      exact ⟨held,rfl⟩
    · rintro rfl
      exact absurd held (accounts_fresh backend.accounts attempt.email _ unused.1)
  | none =>
    have account : (attempt.account backend).accounts.lookup attempt.email = some attempt.uid :=
      Entries.lookup_assign_self _ _ _
    have missing : (backend.users attempt.uid).isSome = false := by
      rw [Option.isNone_iff_eq_none.mp unused.2]
      rfl
    rcases signUpUser_cases attempt backend with
      ⟨_,_,refused⟩ | ⟨_,ended,fault⟩ | ⟨ended,lost⟩ | ⟨ended,_,_,profile,accepted⟩
    · exact absurd ⟨working,held⟩ refused
    · rw [ended]
      exact ⟨attempt.uid,false,⟨account,missing⟩,fun _ => iff_of_false nofun fun both => fault both.1⟩
    · rw [ended]
      refine ⟨attempt.uid,false,⟨account,missing⟩,fun _ => iff_of_false nofun fun both => ?_⟩
      exact Bool.false_ne_true (lost.symm.trans both.2)
    · rw [ended]
      refine ⟨attempt.uid,true,⟨account,?_⟩,fun _ => iff_of_true rfl ⟨profile,accepted⟩⟩
      simp only [Function.update_self]
      rfl

/-- An account gets its document from its own registration or never: whatever registrations and logins
follow, without it every device sends the account from the splash screen to the login, the drawer has
nothing to show, and its email cannot be registered again. -/
theorem half_registered {Device : Type} (start final : Backend) (labels : List Label)
    (reached : Runs.run step start labels = some final) (attempt : Attempt)
    (tried : .register attempt ∈ labels) (working : attempt.accountFault = none)
    (account : final.accounts.lookup attempt.email = some attempt.uid) :
    (final.users attempt.uid ≠ none ↔ attempt.profileFault = none ∧ attempt.documentAccepted = true) ∧
    (final.users attempt.uid = none →
      (∀ (id : Device → Option String) (device : Device), id device ≠ none →
        DeviceBinding.opens id attempt.uid final.users device = .log) ∧
      getUserData (some attempt.uid) (reading final.users) = none ∧
      ∀ again : Attempt, again.email = attempt.email → (signUpUser again final).1 = final) := by
  have lasting := Refinement.run_lasting
    (fun backend => ∃ owner documented, Made attempt.email owner documented backend ∧
      (owner = attempt.uid →
        (documented = true ↔ attempt.profileFault = none ∧ attempt.documentAccepted = true)))
    (fun label => label = .register attempt) ?established ?preserved start final labels reached _ tried rfl
  case established =>
    rintro backend _ next rfl taken
    simp only [step] at taken
    split at taken
    next unused =>
      cases Option.some.inj taken
      exact attempt_made attempt backend working unused
    next => contradiction
  case preserved =>
    rintro backend label next ⟨owner,documented,made,complete⟩ taken
    exact ⟨owner,documented,made_step _ owner documented backend label next made taken,complete⟩
  obtain ⟨owner,documented,made,complete⟩ := lasting
  obtain rfl : owner = attempt.uid := Option.some.inj (made.account.symm.trans account)
  refine ⟨?_,fun missing => ⟨?_,?_,?_⟩⟩
  · rw [← complete rfl,← made.document,Option.isSome_iff_ne_none]
  · intro id device real
    have unbound : getDevIdFromDatabase (some attempt.uid) (reading final.users) = none := by
      simp [DeviceBinding.getDevId_stored,storedId,missing]
    rw [DeviceBinding.opens,unbound,SplashScreen.target,if_neg real]
  · simp [getUserData,readUserData,reading,current,missing,data,index,bind,Except.bind,Except.toOption]
  · intro again same
    exact signUpUser_taken again final (by rw [same,account]; simp)

theorem half_registered_example : ∃ final, Runs.run step ⟨[],fun _ => none⟩
      [.register {ann with documentAccepted := false},.login ⟨some "u1",some "phone1",true⟩,
        .register {ann with uid := "u2"}] = some final ∧
    DeviceBinding.opens (fun _ : Unit => some "phone1") "u1" final.users () = .log := by
  refine ⟨_,rfl,?_⟩
  have stuck := @half_registered Unit ⟨[],fun _ => none⟩ _ [.register {ann with documentAccepted := false},
    .login ⟨some "u1",some "phone1",true⟩,.register {ann with uid := "u2"}] rfl
    {ann with documentAccepted := false} List.mem_cons_self rfl rfl
  exact (stuck.2 rfl).1 _ () nofun

end VisionsAcademy.HalfRegistered
