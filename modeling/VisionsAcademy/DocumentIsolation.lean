import VisionsAcademy.RequestAccounts

/-! Whose documents a device writes. A request and an expiry check go on after a sign-out, with
the `u_id` of whoever has signed in since or with none. -/
namespace VisionsAcademy.DocumentIsolation
open DocumentStore SubscriptionPage AccountSession RequestAccounts

def Elsewhere (u_id : Option String) : Label → Prop
  | .approve account _ _ => some account = u_id
  | .advanceElsewhere called _ _ _ _ | .checkedElsewhere called _ _ _ _ => called = u_id
  | _ => False

structure Confined (state : State) (label : Label) (written : Documents) : Prop where
  doc : ∀ uid, written.doc uid ≠ state.manualPayment.doc uid →
    state.currentUser = some uid ∨ Elsewhere (some uid) label
  added : written.added ≠ state.manualPayment.added → Elsewhere none label

/-- The device writes only to the document of the account that is signed in. -/
def Isolated (email : String → Option String) (state : State) (label : Label) : Prop :=
  ∀ next, step email state label = some next → Confined state label next.manualPayment

def Idle (state : State) (label : Label) : Prop :=
  label = .signOut → (∀ press ∈ state.presses, Done press.stage = true) ∧ state.checks = []

def Checking (state : State) : Prop :=
  state.checks ≠ [] → state.route = .app ∧ ∃ uid, state.currentUser = some uid ∧ state.u_id = some uid

structure Attended (email : String → Option String) (state : State) : Prop where
  own : Own email state
  pending : Pending email state
  checking : Checking state

theorem attended_step (email : String → Option String) (state : State) (label : Label) (next : State)
    (attended : Attended email state) (idle : Idle state label)
    (taken : step email state label = some next) : Attended email next := by
  have own := own_step email state label next attended.own taken
  have pending := pending_step email state label next attended.own attended.pending
    (fun out => (idle out).1) taken
  refine ⟨own,pending,?_⟩
  have inside (away : state.route = .login) : state.checks = [] := by
    by_contra waiting
    have here := (attended.checking waiting).1
    rw [away] at here
    contradiction
  cases step_effect email state label next taken with
  | logIn uid here | signUp uid here => exact fun waiting => absurd (inside here) waiting
  | resume index answer page after left found resumed =>
    intro waiting
    obtain ⟨here,uid,signed,named⟩ := attended.checking waiting
    rw [signed] at resumed
    exact ⟨here,uid,signed,resumes_u_id page _ _ answer after left named resumed⟩
  | signOut => exact fun waiting => absurd (idle rfl).2 waiting
  | sessionClosed accepted closing =>
    exact fun waiting => absurd (inside (attended.own.closing closing)) waiting
  | checkmanual index key page info found mounted present =>
    intro _
    obtain ⟨here,fits⟩ := attended.own.pages page (List.mem_of_getElem? found) mounted
    obtain ⟨uid,signed⟩ := attended.own.session here
    exact ⟨here,uid,signed,fits_identified email _ uid page info (fits uid signed) present⟩
  | checked =>
    intro waiting
    apply attended.checking
    intro empty
    exact waiting (by simp [empty])
  | _ => exact attended.checking

theorem isolated_put (state : State) (label : Label) (u_id : Option String) (document : Snapshot)
    (entitled : ∀ uid, u_id = some uid → state.currentUser = some uid ∨ Elsewhere (some uid) label)
    (nameless : u_id = none → Elsewhere none label) :
    Confined state label (state.manualPayment.put u_id document) := by
  constructor
  · intro uid changed
    apply entitled uid
    by_contra different
    exact changed (Documents.put_doc _ _ _ _ different)
  · intro changed
    cases u_id with
    | none => exact nameless rfl
    | some uid => exact absurd rfl changed

theorem isolated_attended (email : String → Option String) (state : State) (label : Label)
    (attended : Attended email state) : Isolated email state label := by
  intro next taken
  cases step_effect email state label next taken with
  | advance press time answered request stage called found going =>
    obtain ⟨_,signed,present,_,same,_⟩ := attended.pending _ (List.mem_of_getElem? found) going
    cases same
    exact isolated_put _ _ _ _ (fun uid here => Or.inl (present.trans here)) nofun
  | checked index now accepted key read found =>
    obtain ⟨_,signed,present,same⟩ := attended.checking (List.ne_nil_of_mem (List.mem_of_getElem? found))
    apply isolated_put
    · intro uid here
      exact Or.inl (present.trans (same.symm.trans here))
    · intro absent
      cases same.symm.trans absent
  | approve account =>
    exact isolated_put state _ (some account) (some _) (fun _ here => Or.inr here) nofun
  | advanceElsewhere called =>
    exact isolated_put state _ called _ (fun _ here => Or.inr here) id
  | checkedElsewhere called =>
    exact isolated_put state _ called _ (fun _ here => Or.inr here) id
  | _ => exact ⟨fun _ changed => absurd rfl changed,fun changed => absurd rfl changed⟩

theorem documents_isolated (email : String → Option String) (start : State) (labels : List Label)
    (attended : Attended email start) (idle : Runs.Along (step email) Idle start labels) :
    Runs.Along (step email) (Isolated email) start labels :=
  Refinement.along_guaranteed (Attended email) Idle (Isolated email) (attended_step email)
    (isolated_attended email) start labels attended idle

theorem documents_isolated_example : Runs.Along (step some) (Isolated some) asking
    [.advance 0 "t1" true,.signOut,.sessionClosed true,.logIn "u2"] := by
  apply documents_isolated some asking _ ⟨asking_orderly.own,asking_orderly.pending,by simp [Checking,asking]⟩
  intro written taken
  cases taken
  refine ⟨by simp [Idle],?_⟩
  intro out taken
  cases taken
  refine ⟨fun _ => ⟨fun press member => ?_,rfl⟩,?_⟩
  · obtain rfl := List.mem_singleton.mp member
    rfl
  · intro closed taken
    cases taken
    refine ⟨by simp [Idle],fun signed taken => ?_⟩
    cases taken
    exact ⟨by simp [Idle],trivial⟩

end VisionsAcademy.DocumentIsolation
